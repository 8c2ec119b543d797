import Mathlib.Data.List.Sort
import ShieldRuntime.Configuration.Config
import ShieldRuntime.Library.Fallible
import ShieldRuntime.Library.Kahn

/-!
# The plugin host

`validate_config` and `apply_defaults`, on the subset of JSON Schema that the host knows. A check may
throw: the schema comes from a manifest and its own values are converted without a test. How the
numbers of two JSON values compare and when two values are equal are parameters.

`PluginHost`: the pipeline of `startup` from the packages of a scan to started instances, and
`shutdown`. What a plugin does in its callbacks is a parameter: an instance has at most one call of
`create` and of `start` in a startup, so the parameter gives their results by the instance. The log
of the host holds the calls into the plugins and the changes of the state `started`, since the
instances were planned. Lua, the interface look-ups after the startup and the unloading of libraries
are left out. `parse_plugin_config` reads the instances and bindings that the host gets from the
text that `to_json` makes of the configuration.
-/

namespace ShieldRuntime.Plugin
open Transport Library ShieldRuntime.Configuration

def isNumber : Json → Bool
  | .integer _ | .unsigned _ | .float _ => true
  | _ => false

/-- `check_type`; a type that is not known fits everything. -/
def checkType (want : String) (value : Json) : Bool :=
  match want, value with
  | "object", .object _ | "array", .array _ | "string", .string _ | "boolean", .boolean _ => true
  | "integer", .integer _ | "integer", .unsigned _ => true
  | "number", value => isNumber value
  | "object", _ | "array", _ | "string", _ | "integer", _ | "boolean", _ => false
  | _, _ => true

def joinPath (base key : String) : String := if base = "" then key else base ++ "." ++ key

/-- The result of a check: an error text if there is one, or an exception. -/
abbrev Checked := Except String (Option String)

/-- The checks one after the other, up to the first one that finds an error. -/
def firstOf : List Checked → Checked
  | [] => .ok none
  | check :: checks => do
    match ← check with
    | some text => return some text
    | none => firstOf checks

def typeChecked (schema : Json) (path : String) (value : Json) : Checked :=
  match schema.field? "type" with
  | none => .ok none
  | some want => do
    let want ← want.getString
    if checkType want value then return none
    else if path = "" then return some ("type mismatch: expected " ++ want)
    else return some (path ++ ": type mismatch, expected " ++ want)

def requiredNames (path : String) (value : Json) : List Json → Checked
  | [] => .ok none
  | name :: names => do
    let key ← name.getString
    if value.contains key then requiredNames path value names
    else return some (joinPath path key ++ ": required field missing")

def requiredChecked (schema : Json) (path : String) (value : Json) : Checked :=
  match schema.field? "required" with
  | some (.array names) => requiredNames path value names
  | _ => .ok none

section

variable (less same : Json → Json → Bool)

/-- A bound of a number; `fails` compares the number with the bound. -/
def boundChecked (key text : String) (fails : Json → Json → Bool) (schema : Json) (path : String)
    (value : Json) : Checked :=
  match schema.field? key with
  | none => .ok none
  | some bound =>
    if isNumber bound then
      .ok (if fails value bound then some (path ++ text) else none)
    else .error (bound.typeError "number")

def minimumChecked : (schema : Json) → (path : String) → (value : Json) → Checked :=
  boundChecked "minimum" ": below minimum" less

def maximumChecked : (schema : Json) → (path : String) → (value : Json) → Checked :=
  boundChecked "maximum" ": above maximum" fun value bound => less bound value

def enumChecked (schema : Json) (path : String) (value : Json) : Checked :=
  match schema.field? "enum" with
  | some (.array values) =>
    .ok (if values.any (same · value) then none else some (path ++ ": value not in enum"))
  | _ => .ok none

def propertySchema? (schema : Json) (key : String) : Option Json :=
  match schema.field? "properties" with
  | some (.object properties) => properties.lookup key
  | _ => none

def validateNumber (schema : Json) (path : String) (value : Json) : Checked :=
  firstOf [typeChecked schema path value, minimumChecked less schema path value,
    maximumChecked less schema path value, enumChecked same schema path value]

mutual

def validateConfig (schema : Json) (path : String) : Json → Checked
  | .object members =>
    firstOf [typeChecked schema path (.object members), requiredChecked schema path (.object members),
      validateMembers schema path members, enumChecked same schema path (.object members)]
  | .array items =>
    firstOf [typeChecked schema path (.array items), enumChecked same schema path (.array items),
      validateItems schema path 0 items]
  | .integer n => validateNumber less same schema path (.integer n)
  | .unsigned n => validateNumber less same schema path (.unsigned n)
  | .float bits => validateNumber less same schema path (.float bits)
  | .null => firstOf [typeChecked schema path .null, enumChecked same schema path .null]
  | .boolean b =>
    firstOf [typeChecked schema path (.boolean b), enumChecked same schema path (.boolean b)]
  | .string s => firstOf [typeChecked schema path (.string s), enumChecked same schema path (.string s)]

def validateMembers (schema : Json) (path : String) : List (String × Json) → Checked
  | [] => .ok none
  | (key, item) :: rest =>
    firstOf [
      match propertySchema? schema key with
      | some sub => validateConfig sub (joinPath path key) item
      | none => .ok none,
      validateMembers schema path rest]

def validateItems (schema : Json) (path : String) (index : Nat) : List Json → Checked
  | [] => .ok none
  | item :: rest =>
    firstOf [
      match schema.field? "items" with
      | some sub => validateConfig sub (path ++ "[" ++ toString index ++ "]") item
      | none => .ok none,
      validateItems schema path (index + 1) rest]

end

end

/-- `value[key] = item`, on an object. -/
def setMember (key : String) (item : Json) : Json → Json
  | .object members => .object (Json.setField key item members)
  | value => value

mutual

def applyDefaults : (schema : Json) → Json → Json
  | .object fields, value => if value.isObject then applyFields fields value else value
  | _, value => value
termination_by structural schema => schema

def applyFields : List (String × Json) → Json → Json
  | [], value => value
  | (key, sub) :: rest, value =>
    if key = "properties" then applyPropertiesOf sub value else applyFields rest value
termination_by structural fields => fields

def applyPropertiesOf : Json → Json → Json
  | .object properties, value => applyProperties properties value
  | _, value => value
termination_by structural properties => properties

def applyProperties : List (String × Json) → Json → Json
  | [], value => value
  | (key, sub) :: rest, value =>
    applyProperties rest <|
      match value.field? key, sub.field? "default" with
      | none, some default => setMember key default value
      | none, none => value
      | some item, _ => if item.isObject then setMember key (applyDefaults sub item) value else value
termination_by structural properties => properties

end

/-- An interface that a package requires, under a local name. -/
structure Require where
  name : String
  interfaceName : String
  isOptional : Bool := false
  deriving DecidableEq, Repr

/-- The parts of a manifest that the host reads; `library` is the path for the platform. -/
structure Manifest where
  id : String
  entry : String := "shield_plugin_get_v1"
  library : String
  provides : List String
  requires : List Require := []
  configSchema : Json := .null
  deriving Repr

/-- A package and the directory it was found in. -/
structure Package where
  manifest : Manifest
  root : String
  deriving Repr

/-- An instance as it is configured. -/
structure InstanceDecl where
  id : String
  package : String
  required : Bool := true
  dependencies : List (String × String) := []
  config : Json := .null
  deriving Repr

/-- A logical name for an instance. -/
structure BindingDecl where
  logical : String
  instanceId : String
  deriving DecidableEq, Repr

/-- The configuration of the host. -/
structure PluginConfig where
  directory : String := "./plugins"
  instances : List InstanceDecl := []
  bindings : List BindingDecl := []
  deriving Repr

inductive State where
  | planned
  | loaded
  | started
  | unavailable
  | failed
  | stopped
  deriving DecidableEq, Repr

def State.name : State → String
  | planned => "planned"
  | loaded => "loaded"
  | started => "started"
  | unavailable => "unavailable"
  | failed => "failed"
  | stopped => "stopped"

/-- What the start callback returns. -/
structure StartResult where
  code : Int := 0
  message : Option String := none

/-- `shield_plugin_instance_v1`: a callback that is absent is a null pointer. -/
structure Handle where
  structSize : Nat := 48
  getInterface : Option (String → Bool) := some fun _ => true
  start : Option StartResult := some {}
  hasShutdown : Bool := true

/-- What `create` returns and writes. -/
structure CreateResult where
  code : Int := 0
  handle : Option Handle := some {}
  errorCode : Option String := none
  errorMessage : Option String := none

/-- `shield_plugin_abi_v1`, with what `create` does with a configuration text. -/
structure Abi where
  abiVersion : Nat := 1
  structSize : Nat := 32
  packageId : Option String
  create : Option (List UInt8 → CreateResult) := some fun _ => {}

/-- What loading a library and calling its entry symbol comes to. -/
inductive LoadResult where
  | notLoaded (error : String)
  | noEntry
  | entry (abi : Option Abi)

/-- An instance and how far it has come. -/
structure Instance where
  id : String
  package : Option Package := none
  decl : InstanceDecl
  state : State := .planned
  abi : Option Abi := none
  handle : Option Handle := none
  depIds : List String := []
  lastError : String := ""

inductive PluginEvent where
  /-- `create` has returned a handle. -/
  | created (id : String)
  /-- The shutdown callback of a handle that is given up before it was started. -/
  | released (id : String)
  | started (id : String)
  /-- The shutdown callback in `shutdown`. -/
  | shutdown (id : String)
  | stopped (id : String)
  deriving DecidableEq, Repr

/-- Why a phase ends the startup: it returns false, or an exception leaves it. -/
inductive Stop where
  | error (text : String)
  | exception (what : String)
  deriving DecidableEq, Repr

abbrev Step := Instance × List PluginEvent × Option Stop

/-- The host; `log` has the callbacks it has called. -/
structure Host where
  packages : List Package := []
  instances : List Instance := []
  bindings : List BindingDecl := []
  startOrder : List String := []
  log : List PluginEvent := []

section Catalog

def hasParentReference (path : String) : Bool :=
  (path.toList.splitOn '/').contains ['.', '.']

def isAbsolute (path : String) : Bool := path.toList.head? == some '/'

def validateLibraryPath (package : Package) : Option String :=
  if package.manifest.library = "" then
    some ("plugin.manifest.invalid: package '" ++ package.manifest.id ++
      "' missing library path for current platform")
  else if isAbsolute package.manifest.library || hasParentReference package.manifest.library then
    some ("plugin.manifest.invalid: package '" ++ package.manifest.id ++
      "' library path must stay under package root")
  else none

def checkProvides (id : String) : List String → (seen : List String) → Option String
  | [], _ => none
  | name :: names, seen =>
    if name = "" then
      some ("plugin.manifest.invalid: package '" ++ id ++ "' declares an empty provided interface")
    else if seen.contains name then
      some ("plugin.manifest.invalid: package '" ++ id ++ "' declares duplicate interface '" ++
        name ++ "'")
    else checkProvides id names (name :: seen)

def checkRequires (id : String) : List Require → (seen : List String) → Option String
  | [], _ => none
  | req :: reqs, seen =>
    if req.name = "" || req.interfaceName = "" then
      some ("plugin.manifest.invalid: package '" ++ id ++ "' declares an invalid dependency")
    else if seen.contains req.name then
      some ("plugin.manifest.invalid: package '" ++ id ++ "' declares duplicate dependency '" ++
        req.name ++ "'")
    else checkRequires id reqs (req.name :: seen)

def validateInterfaceDeclarations (manifest : Manifest) : Option String :=
  if manifest.provides.isEmpty then
    some ("plugin.manifest.invalid: package '" ++ manifest.id ++
      "' must declare at least one provided interface")
  else
    match checkProvides manifest.id manifest.provides [] with
    | some error => some error
    | none => checkRequires manifest.id manifest.requires []

/-- `catalog`, with the error of the first package that is not accepted. -/
def catalog : List Package → (seen : List String) → Option String
  | [], _ => none
  | package :: packages, seen =>
    if seen.contains package.manifest.id then
      some ("plugin.manifest.invalid: duplicate package id '" ++ package.manifest.id ++ "'")
    else
      match validateInterfaceDeclarations package.manifest with
      | some error => some error
      | none =>
        match validateLibraryPath package with
        | some error => some error
        | none => catalog packages (package.manifest.id :: seen)

end Catalog

section Plan

def findPackage (packages : List Package) (id : String) : Option Package :=
  packages.find? fun p => p.manifest.id == id

variable (instances : List Instance)

def findInstance (id : String) : Option Instance :=
  instances.find? fun i => i.id == id

def findRequire (manifest : Manifest) (name : String) : Option Require :=
  manifest.requires.find? fun req => req.name == name

def providesInterface (package : Option Package) (interfaceName : String) : Bool :=
  match package with
  | none => false
  | some p => p.manifest.provides.contains interfaceName

def failOrUnavailable (inst : Instance) (message : String) (log : List PluginEvent) : Step :=
  if inst.decl.required then
    ({ inst with lastError := message, state := .failed }, log, some (.error message))
  else ({ inst with lastError := message, state := .unavailable }, log, none)

/-- What a phase finds about an instance: nothing to do, the instance as it goes on, that it fails,
or that an exception is thrown. -/
inductive Verdict where
  | skip
  | ok (inst : Instance) (log : List PluginEvent)
  | fail (inst : Instance) (message : String) (log : List PluginEvent)
  | throw (what : String)

def settle (inst : Instance) : Verdict → Step
  | .skip => (inst, [], none)
  | .ok inst log => (inst, log, none)
  | .fail inst message log => failOrUnavailable inst message log
  | .throw what => (inst, [], some (.exception what))

def missingPackage (d : InstanceDecl) : Instance :=
  { id := d.id
    decl := d
    state := .unavailable
    lastError :=
      "plugin.package.not_found: package '" ++ d.package ++ "' for instance '" ++ d.id ++ "'" }

def planOne (packages : List Package) (d : InstanceDecl) : Instance :=
  match findPackage packages d.package with
  | none => missingPackage d
  | some package => { id := d.id, package := some package, decl := d }

def planInstances (packages : List Package) :
    List InstanceDecl → (seen : List String) → List Instance × Option Stop
  | [], _ => ([], none)
  | d :: rest, seen =>
    if d.id = "" then ([], some (.error "plugin.config.invalid: instance id is required"))
    else if seen.contains d.id then
      ([], some (.error ("plugin.config.invalid: duplicate instance id '" ++ d.id ++ "'")))
    else if (findPackage packages d.package).isNone && d.required then
      ([], some (.error (missingPackage d).lastError))
    else
      let planned := planInstances packages rest (d.id :: seen)
      (planOne packages d :: planned.1, planned.2)

variable (less same : Json → Json → Bool)

/-- The configuration of an instance with the defaults of its schema. -/
def configWithDefaults (schema config : Json) : Json :=
  applyDefaults schema (match config with
    | .null => .object []
    | config => config)

def configVerdict (inst : Instance) : Verdict :=
  match inst.package with
  | none => .skip
  | some package =>
    if inst.state = .unavailable then .skip
    else
      let config := configWithDefaults package.manifest.configSchema inst.decl.config
      match validateConfig less same package.manifest.configSchema "" config with
      | .error what => .throw what
      | .ok (some text) =>
        .fail inst ("plugin.config.invalid: instance '" ++ inst.id ++ "': " ++ text) []
      | .ok none => .ok { inst with decl := { inst.decl with config } } []

/-- One requirement of an instance: the id of the instance that meets it, or nothing if it is
optional and not met. -/
def resolveRequire (inst : Instance) (req : Require) :
    Except String (Option String) :=
  match inst.decl.dependencies.lookup req.name with
  | none =>
    if req.isOptional then .ok none
    else .error ("plugin.dependency.missing: instance '" ++ inst.id ++
      "' missing required dependency '" ++ req.name ++ "'")
  | some target =>
    match findInstance instances target with
    | none =>
      if req.isOptional then .ok none
      else .error ("plugin.dependency.missing: instance '" ++ inst.id ++ "' dependency '" ++
        req.name ++ "' -> '" ++ target ++ "' not found")
    | some dep =>
      if providesInterface dep.package req.interfaceName then .ok (some dep.id)
      else if req.isOptional then .ok none
      else .error ("plugin.dependency.missing: instance '" ++ dep.id ++ "' does not provide '" ++
        req.interfaceName ++ "'")

/-- The loop over the requirements; `dep_ids` of the instances that meet them. -/
def resolveRequires (instances : List Instance) (inst : Instance) :
    List Require → Except String (List String)
  | [] => .ok []
  | req :: reqs => do
    match ← resolveRequire instances inst req with
    | none => resolveRequires instances inst reqs
    | some id => return id :: (← resolveRequires instances inst reqs)

/-- The instances only have their states and dependencies changed in this loop, so the look-ups see
them as they are before it. -/
def resolveVerdict (inst : Instance) : Verdict :=
  match inst.package with
  | none => .skip
  | some package =>
    if inst.state = .unavailable then .skip
    else
      match inst.decl.dependencies.find? fun d => (findRequire package.manifest d.1).isNone with
      | some (name, _) =>
        .fail inst ("plugin.dependency.undeclared: instance '" ++ inst.id ++
          "' configured undeclared dependency '" ++ name ++ "'") []
      | none =>
        match resolveRequires instances inst package.manifest.requires with
        | .error message => .fail inst message []
        | .ok depIds => .ok { inst with depIds } []

def checkBindings (instances : List Instance) :
    List BindingDecl → (seen : List String) → Option String
  | [], _ => none
  | b :: rest, seen =>
    if b.logical = "" then some "plugin.binding.invalid: binding name is required"
    else if seen.contains b.logical then
      some ("plugin.binding.invalid: duplicate binding '" ++ b.logical ++ "'")
    else if (findInstance instances b.instanceId).isNone then
      some ("plugin.binding.invalid: binding '" ++ b.logical ++ "' targets missing instance '" ++
        b.instanceId ++ "'")
    else checkBindings instances rest (b.logical :: seen)

/-- `plan_and_resolve` up to the bindings: plan, configure, resolve. -/
def prepareInstances (packages : List Package) (decls : List InstanceDecl) :
    List Instance × Option Stop :=
  let planned := planInstances packages decls []
  match planned.2 with
  | some stop => (planned.1, some stop)
  | none =>
    let configured := forEach (fun i => settle i (configVerdict less same i)) planned.1
    match configured.2.2 with
    | some stop => (configured.1, some stop)
    | none =>
      let resolved := forEach (fun i => settle i (resolveVerdict configured.1 i)) configured.1
      (resolved.1, resolved.2.2)

def dependentsOf (id : String) : List String :=
  instances.flatMap fun i => (i.depIds.filter (· == id)).map fun _ => i.id

def indegree (id : String) : Int :=
  ((instances.filter (·.id == id)).map fun i => (i.depIds.length : Int)).sum

def initialQueue : List String :=
  ((instances.map (·.id)).insertionSort (· ≤ ·)).filter fun id => indegree instances id == 0

def cycleError : String := "plugin.dependency.cycle: circular dependency among instances"

/-- The pass that counts the instances that can be started, and the one that lists them. -/
def sortInstances : Except String (List String) :=
  let visited := kahnLoop (dependentsOf instances) (fun (visited : Nat) _ => visited + 1)
    instances.length (indegree instances) (initialQueue instances) 0
  if visited ≠ instances.length then .error cycleError
  else
    .ok (kahnOrder (dependentsOf instances) instances.length (indegree instances)
      (initialQueue instances))

def planAndResolve (cfg : PluginConfig) (host : Host) : Host × Option Stop :=
  let prepared := prepareInstances less same host.packages cfg.instances
  let planned := { host with instances := prepared.1, bindings := cfg.bindings, log := [] }
  match prepared.2 with
  | some stop => (planned, some stop)
  | none =>
    match checkBindings prepared.1 cfg.bindings [] with
    | some error => (planned, some (.error error))
    | none =>
      match sortInstances prepared.1 with
      | .error error => (planned, some (.error error))
      | .ok startOrder => ({ planned with startOrder }, none)

end Plan

section Phases

/-- A phase that looks at one instance after the other. -/
def runPhase (verdict : Instance → Verdict) (host : Host) : Host × Option Stop :=
  let result := forEach (fun i => settle i (verdict i)) host.instances
  ({ host with instances := result.1, log := host.log ++ result.2.1 }, result.2.2)

/-- `inst.package->root / platform_library_path(...)`. -/
def libraryPath (package : Package) : String :=
  if package.root = "" then package.manifest.library
  else package.root ++ "/" ++ package.manifest.library

def checkLibrary (inst : Instance) (package : Package) : LoadResult → Except String Abi
  | .notLoaded error => .error ("plugin.entry.missing: " ++ libraryPath package ++ ": " ++ error)
  | .noEntry => .error ("plugin.entry.missing: symbol '" ++ package.manifest.entry ++
      "' not found in " ++ libraryPath package)
  | .entry none => .error ("plugin.abi.mismatch: " ++ inst.id ++ " (abi_version)")
  | .entry (some abi) =>
    if abi.abiVersion ≠ 1 then .error ("plugin.abi.mismatch: " ++ inst.id ++ " (abi_version)")
    else if abi.structSize < 32 then .error ("plugin.abi.mismatch: " ++ inst.id ++ " (struct_size)")
    else if abi.packageId ≠ some package.manifest.id then
      .error ("plugin.abi.mismatch: " ++ inst.id ++ " (package_id '" ++ abi.packageId.getD "" ++
        "' != manifest '" ++ package.manifest.id ++ "')")
    else .ok abi

/-- A behaviour of the plugins: what each instance gets from its library. -/
abbrev Plugins := String → LoadResult

def loadVerdict (plugins : Plugins) (inst : Instance) : Verdict :=
  match inst.package with
  | none => .skip
  | some package =>
    if inst.state ≠ .planned then .skip
    else
      match checkLibrary inst package (plugins inst.id) with
      | .error message => .fail inst message []
      | .ok abi => .ok { inst with abi := some abi, state := .loaded } []

def loadAll (plugins : Plugins) : Host → Host × Option Stop := runPhase (loadVerdict plugins)

/-- The call of the shutdown callback in `release_unstarted_handle`. -/
def releaseEvents (id : String) (handle : Option Handle) : List PluginEvent :=
  match handle with
  | some h => if h.hasShutdown then [.released id] else []
  | none => []

def createError (id : String) (result : CreateResult) : String :=
  "plugin.create.failed: " ++ id ++
    (match result.errorCode with
    | some code => " [" ++ code ++ "]"
    | none => "") ++
    (match result.errorMessage with
    | some message => " " ++ message
    | none => "")

/-- The checks of a handle that `create` has returned. -/
def checkHandle (inst : Instance) (provides : List String) (handle : Handle) :
    Except String Unit :=
  if handle.structSize < 48 then
    .error ("plugin.abi.mismatch: " ++ inst.id ++ " (instance struct_size)")
  else
    match handle.getInterface with
    | none => .error ("plugin.create.failed: " ++ inst.id ++ " missing get_interface")
    | some getInterface =>
      match provides.find? fun name => !getInterface name with
      | some name => .error ("plugin.create.failed: " ++ inst.id ++
          " does not provide declared interface '" ++ name ++ "'")
      | none => .ok ()

/-- The handle of a `create` that is kept, or the error text. -/
def checkCreated (inst : Instance) (package : Package) (result : CreateResult) :
    Except String Handle :=
  match result.handle with
  | some handle =>
    if result.code ≠ 0 then .error (createError inst.id result)
    else do
      checkHandle inst package.manifest.provides handle
      return handle
  | none => .error (createError inst.id result)

/-- What the `create` of an instance returns; without the callback there is no handle and no error
information. -/
def callCreate (inst : Instance) (config : List UInt8) : CreateResult :=
  match inst.abi.bind (·.create) with
  | some create => create config
  | none => { code := -1, handle := none }

def createdEvents (id : String) (handle : Option Handle) : List PluginEvent :=
  match handle with
  | some _ => [.created id]
  | none => []

def createVerdict (dump : JsonDump) (inst : Instance) : Verdict :=
  match inst.package with
  | none => .skip
  | some package =>
    if inst.state ≠ .loaded then .skip
    else
      match dump inst.decl.config with
      | .error what => .throw what
      | .ok config =>
        let result := callCreate inst config
        match checkCreated inst package result with
        | .error message =>
          .fail inst message
            (createdEvents inst.id result.handle ++ releaseEvents inst.id result.handle)
        | .ok handle => .ok { inst with handle := some handle } [.created inst.id]

def createAll (dump : JsonDump) : Host → Host × Option Stop :=
  runPhase (createVerdict dump)

/-- The first requirement that is not optional, configured and not started. -/
def blockedBy (instances : List Instance) (inst : Instance) : Option Require :=
  match inst.package with
  | none => none
  | some package =>
    package.manifest.requires.find? fun req =>
      !req.isOptional &&
        match inst.decl.dependencies.lookup req.name with
        | none => false
        | some target =>
          match findInstance instances target with
          | none => true
          | some dep => dep.state != .started

/-- An instance whose handle is given up. -/
def giveUp (inst : Instance) (message : String) : Verdict :=
  .fail { inst with handle := none } message (releaseEvents inst.id inst.handle)

def startError (id : String) (result : StartResult) : String :=
  "plugin.init.failed: " ++ id ++
    match result.message with
    | some message => " " ++ message
    | none => ""

def startVerdict (instances : List Instance) (inst : Instance) : Verdict :=
  if inst.state = .unavailable then .skip
  else
    match inst.handle with
    | none => .skip
    | some handle =>
      match blockedBy instances inst with
      | some req =>
        giveUp inst ("plugin.dependency.unavailable: instance '" ++ inst.id ++ "' dependency '" ++
          req.name ++ "' is not started")
      | none =>
        match handle.start with
        | some result =>
          if result.code ≠ 0 then giveUp inst (startError inst.id result)
          else .ok { inst with state := .started } [.started inst.id]
        | none => .ok { inst with state := .started } [.started inst.id]

def setInstance (inst : Instance) : List Instance → List Instance
  | [] => []
  | i :: rest => if i.id = inst.id then inst :: rest else i :: setInstance inst rest

/-- An instance of the host is replaced by what a phase has made of it. -/
def applyStep (host : Host) (step : Step) : Host :=
  { host with
    instances := setInstance step.1 host.instances
    log := host.log ++ step.2.1 }

/-- `start_all`, over the instances in the start order that are left. -/
def startLoop : List String → Host → Host × Option Stop
  | [], host => (host, none)
  | id :: ids, host =>
    match findInstance host.instances id with
    | none => startLoop ids host
    | some inst =>
      let step := settle inst (startVerdict host.instances inst)
      match step.2.2 with
      | some stop => (applyStep host step, some stop)
      | none => startLoop ids (applyStep host step)

def startAll (host : Host) : Host × Option Stop := startLoop host.startOrder host

/-- What `shutdown` does with an instance. -/
def stopVerdict (inst : Instance) : Verdict :=
  match inst.handle with
  | none => .skip
  | some handle =>
    if inst.state ≠ .started then .skip
    else
      .ok { inst with handle := none, state := .stopped }
        (if handle.hasShutdown then [.shutdown inst.id, .stopped inst.id] else [.stopped inst.id])

/-- `shutdown`, over the instances in the reverse start order that are left. -/
def shutdownLoop : List String → Host → Host
  | [], host => host
  | id :: ids, host =>
    match findInstance host.instances id with
    | none => shutdownLoop ids host
    | some inst => shutdownLoop ids (applyStep host (settle inst (stopVerdict inst)))

def shutdown (host : Host) : Host := shutdownLoop host.startOrder.reverse host

end Phases

inductive StartupPhase where
  | catalog
  | plan
  | load
  | create
  | start
  | check
  deriving DecidableEq, Repr

inductive StartupResult where
  | ok
  | failed (phase : StartupPhase) (error : String)
  | threw (phase : StartupPhase) (what : String)
  deriving DecidableEq, Repr

/-- A phase of the startup and what follows it; a phase that returns false is followed by
`shutdown`, and an exception is not. -/
def thenPhase (phase : StartupPhase) (result : Host × Option Stop)
    (next : Host → Host × StartupResult) : Host × StartupResult :=
  match result.2 with
  | none => next result.1
  | some (.error error) => (shutdown result.1, .failed phase error)
  | some (.exception what) => (result.1, .threw phase what)

def checkStarted (host : Host) : Host × StartupResult :=
  match host.instances.find? fun i => i.decl.required && i.state != .started with
  | some i =>
    (shutdown host, .failed .check ("plugin.init.failed: required instance '" ++ i.id ++
      "' not started (" ++ i.state.name ++ ")"))
  | none => (host, .ok)

/-- `startup`, with the packages that the scan of the directory finds. -/
def startup (less same : Json → Json → Bool) (dump : JsonDump)
    (scanned : List Package) (plugins : Plugins) (cfg : PluginConfig) (host : Host) :
    Host × StartupResult :=
  -- the instances of the last startup are stopped and then dropped, with their log
  let stopped := shutdown host
  let cleared : Host := { stopped with
    packages := scanned
    instances := []
    bindings := []
    startOrder := []
    log := [] }
  match catalog scanned [] with
  | some error => (shutdown cleared, .failed .catalog error)
  | none =>
    thenPhase .plan (planAndResolve less same cfg cleared) fun host =>
    thenPhase .load (loadAll plugins host) fun host =>
    thenPhase .create (createAll dump host) fun host =>
    thenPhase .start (startAll host) checkStarted

/-- The loop of `config_get`, for the segments that are left. It ends at the end of the path, which
may be a dot, and at a value that is no object. -/
def followPath : Json → List (List Char) → Option Json
  | .object members, segment :: rest =>
    if segment = [] ∧ rest = [] then some (.object members)
    else
      match members.lookup (String.ofList segment) with
      | none => none
      | some item => followPath item rest
  | current, _ => some current

/-- The text of the value that was found; `dump` may throw. -/
def configText (dump : JsonDump) : Json → Except String (List UInt8)
  | .string text => .ok (bytesOf text)
  | value => dump value

def configGet (dump : JsonDump) (config : Json) (path : String) :
    Option (Except String (List UInt8)) :=
  (followPath config (path.toList.splitOn '.')).map (configText dump)

/-- `value(key, bool)`, on an object. -/
def boolValue (value : Json) (key : String) (default : Bool) : Except String Bool :=
  match value.field? key with
  | some (.boolean b) => .ok b
  | some item => .error (item.typeError "boolean")
  | none => .ok default

/-- The members of an object in the order of their keys, each with a text as its value. -/
def textMembers (members : List (String × Json)) : Except String (List (String × String)) :=
  (members.insertionSort fun a b => a.1 ≤ b.1).mapM fun (key, value) => do
    return (key, ← value.getString)

def parseInstance (value : Json) : Except String InstanceDecl := do
  if !value.isObject then
    throw ("[json.exception.type_error.306] cannot use value() with " ++ value.typeName)
  let id ← value.stringValue "id" ""
  let package ← value.stringValue "package" ""
  let required ← boolValue value "required" true
  let dependencies ← match value.field? "dependencies" with
    | some (.object members) => textMembers members
    | _ => pure []
  let config := (value.field? "config").getD (.object [])
  return { id, package, required, dependencies, config }

/-- The instances and bindings of the plugin section. -/
def parseSection (section' : Json) : Except String (List InstanceDecl × List BindingDecl) := do
  let instances ← match section'.field? "instances" with
    | some (.array items) => items.mapM parseInstance
    | _ => pure []
  let bindings ← match section'.field? "bindings" with
    | some (.object members) => textMembers members
    | _ => pure []
  return (instances, bindings.map fun (logical, instanceId) => { logical, instanceId })

def parsePluginConfig (lib : JsonLibrary) (doubleText : UInt64 → String) (config : Config) :
    Except String PluginConfig := do
  let directory := config.getString doubleText "plugins.directory" "./plugins"
  match lib.dump config.toJson >>= lib.parse with
  | .error _ => return { directory }
  | .ok root =>
    match root.field? "plugins" with
    | none => return { directory }
    | some section' =>
      let (instances, bindings) ← parseSection section'
      return { directory, instances, bindings }

end ShieldRuntime.Plugin
