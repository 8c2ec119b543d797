import ShieldRuntime.Transport.Json

/-!
# The configuration

`Config`: the documents that are loaded are merged into one tree, and the tree is flattened to a map
from dotted keys to scalars and to lists of texts. The parser of the YAML text is left out: a
document is the tree that it gives. So are the texts of the exceptions of the YAML library, which
`load_yaml` only writes to the log.
-/

namespace ShieldRuntime.Configuration
open Transport

/-- `YAML::Node`, with the tag and the text of a scalar. -/
inductive Yaml where
  | null
  | scalar (tag text : String)
  | sequence (items : List Yaml)
  | map (entries : List (Yaml × Yaml))
  deriving Repr

namespace Yaml

/-- `as<std::string>()`; `none` is an exception. -/
def asString : Yaml → Option String
  | scalar _ text => some text
  | null => some "null"
  | _ => none

/-- A key that `operator[]` finds; only scalars are compared. -/
def isKey (key : String) : Yaml → Bool
  | scalar _ text => text == key
  | _ => false

def find? (entries : List (Yaml × Yaml)) (key : String) : Option Yaml :=
  (entries.find? fun e => e.1.isKey key).map Prod.snd

/-- `merged[key] = value`. -/
def setEntry (key : String) (value : Yaml) : List (Yaml × Yaml) → List (Yaml × Yaml)
  | [] => [(scalar "" key, value)]
  | (k, v) :: rest =>
    if k.isKey key then (k, value) :: rest else (k, v) :: setEntry key value rest

end Yaml

mutual

/-- `merge_yaml_nodes`; without a base the node is not defined. -/
def mergeYamlNodes : (base : Option Yaml) → (overlay : Yaml) → Option Yaml
  | none, overlay | some .null, overlay => some overlay
  | some base, .null => some base
  | some (.map merged), .map entries => (mergeEntries merged entries).map .map
  | some _, overlay => some overlay
termination_by structural _ overlay => overlay

def mergeEntries : (merged entries : List (Yaml × Yaml)) → Option (List (Yaml × Yaml))
  | merged, [] => some merged
  | merged, (key, value) :: rest => do
    let key ← key.asString
    let value ← mergeYamlNodes (Yaml.find? merged key) value
    mergeEntries (Yaml.setEntry key value merged) rest
termination_by structural _ entries => entries

end

/-- The scalars of the YAML library that are no texts; `none` is an exception. -/
structure ScalarReader where
  asInt64 : String → Option Int
  asDouble : String → Option UInt64
  asBool : String → Option Bool

/-- `StorageValue`; a node is never stored. -/
inductive StorageValue where
  | text (value : String)
  | integer (value : Int)
  | number (bits : UInt64)
  | boolean (value : Bool)
  | texts (values : List String)
  deriving DecidableEq, Repr

/-- The map of the flattened values, with one entry for each key. -/
abbrev Storage := List (String × StorageValue)

/-- `storage[key] = value`. -/
def Storage.set (key : String) (value : StorageValue) : Storage → Storage
  | [] => [(key, value)]
  | (k, v) :: rest => if k = key then (k, value) :: rest else (k, v) :: Storage.set key value rest

section Flatten

variable (reader : ScalarReader)

def scalarValue (tag text : String) : Option StorageValue :=
  if tag = "!!int" then (reader.asInt64 text).map .integer
  else if tag = "!!float" then (reader.asDouble text).map .number
  else if tag = "!!bool" then (reader.asBool text).map .boolean
  else some (.text text)

def scalarTexts : List Yaml → Option (List String)
  | [] => some []
  | .scalar _ text :: items => (scalarTexts items).map (text :: ·)
  | _ :: _ => none

mutual

/-- The loop over the entries of a map; the flag is false if an exception left it. -/
def flattenEntries : List (Yaml × Yaml) → (base : String) → Storage → Storage × Bool
  | [], _, storage => (storage, true)
  | (key, value) :: rest, base, storage =>
    match key.asString with
    | none => (storage, false)
    | some key =>
      let fullKey := if base = "" then key else base ++ "." ++ key
      match flattenValue value fullKey storage with
      | (storage, true) => flattenEntries rest base storage
      | (storage, false) => (storage, false)
termination_by structural entries => entries

/-- The value of an entry; of the sequences only those of scalars are stored. -/
def flattenValue : Yaml → (fullKey : String) → Storage → Storage × Bool
  | .scalar tag text, fullKey, storage =>
    match scalarValue reader tag text with
    | some value => (storage.set fullKey value, true)
    | none => (storage, false)
  | .sequence items, fullKey, storage =>
    match scalarTexts items with
    | some texts => (storage.set fullKey (.texts texts), true)
    | none => (storage, true)
  | .map entries, fullKey, storage => flattenEntries entries fullKey storage
  | .null, _, storage => (storage, true)
termination_by structural value => value

end

def flattenYamlNode : Yaml → Storage × Bool
  | .map entries => flattenEntries reader entries "" []
  | _ => ([], true)

end Flatten

/-- The merged tree, and the values that the queries read. -/
structure Config where
  root : Yaml := .null
  storage : Storage := []
  sourceDir : String := ""

/-- The part of `load_yaml` and `load_yaml_string` that a parsed document goes through. The merged
tree is in place before it is flattened, and the old values are gone by then. -/
def Config.load (reader : ScalarReader) (config : Config) (document : Yaml) : Config × Bool :=
  match mergeYamlNodes (some config.root) document with
  | none => (config, false)
  | some root =>
    let (storage, loaded) := flattenYamlNode reader root
    ({ config with root, storage }, loaded)

/-- `load_yaml_string`; `none` is a text that the parser throws on. -/
def Config.loadYamlString (reader : ScalarReader) (config : Config) :
    (parsed : Option Yaml) → Config × Bool
  | none => (config, false)
  | some document => config.load reader document

/-- What `load_yaml` finds at a path. -/
inductive ConfigFile where
  | missing
  | text (parsed : Option Yaml)
  deriving Repr

/-- The document of a file that is there and can be parsed. -/
def ConfigFile.parsed? : ConfigFile → Option Yaml
  | .missing => none
  | .text parsed => parsed

/-- `load_yaml`; `parent` is the parent of the path. -/
def Config.loadYaml (reader : ScalarReader) (config : Config) (parent : String) :
    ConfigFile → Config × Bool
  | .missing | .text none => (config, false)
  | .text (some document) =>
    match mergeYamlNodes (some config.root) document with
    | none => (config, false)
    | some root =>
      let (storage, loaded) := flattenYamlNode reader root
      ({ root, storage, sourceDir := if parent = "" then "." else parent }, loaded)

/-- `get_string`; `doubleText` is `std::to_string` of a double. -/
def Config.getString (doubleText : UInt64 → String) (config : Config) (key default : String) :
    String :=
  match config.storage.lookup key with
  | some (.text value) => value
  | some (.integer value) => toString value
  | some (.number bits) => doubleText bits
  | some (.boolean value) => if value then "true" else "false"
  | some (.texts _) | none => default

def Config.has (config : Config) (key : String) : Bool := (config.storage.lookup key).isSome

def Config.set (config : Config) (key : String) (value : StorageValue) : Config :=
  { config with storage := config.storage.set key value }

/-- `merge`, which takes over the values and not the tree. -/
def Config.merge (config other : Config) : Config :=
  { config with
    storage := other.storage.foldl (fun storage e => storage.set e.1 e.2) config.storage }

/-- The member for a value in `to_json`, which passes over a list of texts. -/
def StorageValue.toJson? : StorageValue → Option Json
  | .text value => some (.string value)
  | .integer value => some (.integer value)
  | .number bits => some (.float bits)
  | .boolean value => some (.boolean value)
  | .texts _ => none

def storageFields : Storage → List (String × Json) → List (String × Json)
  | [], fields => fields
  | (key, value) :: rest, fields =>
    match value.toJson? with
    | some member => storageFields rest (Json.setField key member fields)
    | none => storageFields rest fields

/-- The value that `to_json` writes; it is null as long as no member was set. -/
def Config.toJson (config : Config) : Json :=
  match storageFields config.storage [] with
  | [] => .null
  | fields => .object fields

mutual

def yamlToJson (reader : ScalarReader) : Yaml → Option Json
  | .null => some .null
  | .scalar _ text =>
    match reader.asBool text with
    | some value => some (.boolean value)
    | none =>
      match reader.asInt64 text with
      | some value => some (.integer value)
      | none =>
        match reader.asDouble text with
        | some bits => some (.float bits)
        | none => some (.string text)
  | .sequence items => (itemsToJson reader items).map .array
  | .map entries => (entriesToJson reader entries []).map .object
termination_by structural node => node

def itemsToJson (reader : ScalarReader) : List Yaml → Option (List Json)
  | [] => some []
  | item :: items => do
    let item ← yamlToJson reader item
    return item :: (← itemsToJson reader items)
termination_by structural items => items

def entriesToJson (reader : ScalarReader) :
    List (Yaml × Yaml) → List (String × Json) → Option (List (String × Json))
  | [], fields => some fields
  | (key, value) :: rest, fields => do
    let key ← key.asString
    let value ← yamlToJson reader value
    entriesToJson reader rest (Json.setField key value fields)
termination_by structural entries => entries

end

end ShieldRuntime.Configuration
