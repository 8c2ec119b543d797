import Mathlib.Data.List.DropRight
import ShieldRuntime.Library.Fallible
import ShieldRuntime.Library.NameIndex

/-!
# Route tables and catalogs

`RouteTable` keeps the routes by id and a second index from names to ids. The invariant of
both indexes is a field of the structure; `add` and `upsert` keep it. The catalog is read by
`load_xmldef_routes_from_string` with its parsers of tags, attributes, numbers and words. The
nested loops of `parse_xml_attributes` over one position are a machine with a state for each loop,
which reads one character at a time.
-/

namespace ShieldRuntime.Transport
open Library

inductive PacketKind where
  | message
  | request
  | response
  | push
  | control
  deriving DecidableEq, Repr

def PacketKind.toUInt16 : PacketKind → UInt16
  | .message => 0
  | .request => 1
  | .response => 2
  | .push => 3
  | .control => 4

inductive RouteAction where
  | decodeLocal
  | forwardRaw
  | drop
  deriving DecidableEq, Repr

inductive RouteDirection where
  | clientToServer
  | serverToClient
  | bidirectional
  deriving DecidableEq, Repr

/-- What is done with the messages of a route. -/
structure RoutePolicy where
  action : RouteAction := .decodeLocal
  lazyDecode : Bool := true
  deriving DecidableEq, Repr

/-- A route of the table. -/
structure RouteEntry where
  routeId : UInt32 := 0
  direction : RouteDirection := .clientToServer
  requiresAuth : Bool := true
  codecId : UInt16 := 0
  schemaId : UInt16 := 0
  kind : PacketKind := .message
  debugName : String := ""
  policy : RoutePolicy := {}
  deriving DecidableEq, Repr

lemma routeId_of_empty (id : UInt32) (route : RouteEntry)
    (h : (∅ : AList fun _ : UInt32 => RouteEntry).lookup id = some route) : route.routeId = id := by
  cases h

lemma indexed_of_empty (name : String) (id : UInt32)
    (h : (∅ : AList fun _ : String => UInt32).lookup name = some id) :
    name ≠ "" ∧ ∃ route, (∅ : AList fun _ : UInt32 => RouteEntry).lookup id = some route ∧
      route.debugName = name := by
  cases h

/-- Two maps, with what holds between them after every operation: routes sit under their own
id, and an indexed name is the nonempty name of the route it leads to. -/
structure RouteTable where
  routes : AList (fun _ : UInt32 => RouteEntry) := ∅
  routeNames : AList (fun _ : String => UInt32) := ∅
  routeId_eq : ∀ id route, routes.lookup id = some route → route.routeId = id := by
    exact routeId_of_empty
  name_indexed : ∀ name id, routeNames.lookup name = some id →
    name ≠ "" ∧ ∃ route, routes.lookup id = some route ∧ route.debugName = name := by
    exact indexed_of_empty

namespace RouteTable

variable (table : RouteTable)

def find (routeId : UInt32) : Option RouteEntry := table.routes.lookup routeId

def findByName (routeName : String) : Option RouteEntry :=
  (table.routeNames.lookup routeName).bind table.find

def only : Option RouteEntry :=
  match table.routes.entries with
  | [entry] => some entry.2
  | _ => none

lemma routeId_insert {routes : AList (fun _ : UInt32 => RouteEntry)}
    (h : ∀ id route, routes.lookup id = some route → route.routeId = id) (entry : RouteEntry) :
    ∀ id route, (routes.insert entry.routeId entry).lookup id = some route →
      route.routeId = id := by
  intro id route hlookup
  by_cases hid : id = entry.routeId
  · subst hid
    rw [AList.lookup_insert] at hlookup
    cases hlookup
    rfl
  · rw [AList.lookup_insert_ne hid] at hlookup
    exact h id route hlookup

/-- The names index, with the name of a new entry unless that is empty. -/
def insertName (names : AList (fun _ : String => UInt32)) (entry : RouteEntry) :
    AList (fun _ : String => UInt32) :=
  if entry.debugName = "" then names else names.insert entry.debugName entry.routeId

lemma lookup_insertName (names : AList (fun _ : String => UInt32)) (entry : RouteEntry) :
    (fun name => (insertName names entry).lookup name) =
      indexKey "" (fun name => names.lookup name) entry.routeId entry.debugName := by
  unfold insertName indexKey
  split
  · rfl
  · exact lookup_insert_eq_update names entry.debugName entry.routeId

def nameIndex : String → Option UInt32 := fun name =>
  table.routeNames.lookup name

lemma indexed :
    Indexed RouteEntry.debugName "" table.find table.nameIndex := table.name_indexed

lemma name_indexed_write {names : AList (fun _ : String => UInt32)}
    (entry : RouteEntry) (hnames : (fun name => names.lookup name) =
      releaseKey RouteEntry.debugName table.find table.nameIndex entry.routeId) :
    ∀ name id, (insertName names entry).lookup name = some id →
      name ≠ "" ∧ ∃ route, (table.routes.insert entry.routeId entry).lookup id = some route ∧
        route.debugName = name := by
  have h := table.indexed.write entry.routeId entry
  rw [← hnames, ← lookup_insertName] at h
  change Indexed RouteEntry.debugName "" (Function.update (fun id => table.routes.lookup id) _ _) _
    at h
  rw [← lookup_insert_eq_update] at h
  exact h

/-- The table after the call, and whether the entry was inserted. -/
def add (entry : RouteEntry) : Bool × RouteTable :=
  if entry.debugName ≠ "" ∧ (table.routeNames.lookup entry.debugName).isSome then (false, table)
  else if hfresh : table.find entry.routeId = none then
    (true,
      { routes := table.routes.insert entry.routeId entry
        routeNames := insertName table.routeNames entry
        routeId_eq := routeId_insert table.routeId_eq entry
        name_indexed := name_indexed_write table entry (by rw [releaseKey, hfresh]; rfl) })
  else (false, table)

variable {table} {route : RouteEntry}

lemma find_add {next : RouteTable} {entry : RouteEntry} (h : table.add entry = (true, next)) :
    table.find entry.routeId = none ∧ ∀ routeId, next.find routeId =
      if routeId = entry.routeId then some entry else table.find routeId := by
  unfold add at h
  split at h
  · cases h
  split at h
  · rename_i hfresh
    cases h
    refine ⟨hfresh, fun routeId => ?_⟩
    by_cases hid : routeId = entry.routeId
    · rw [if_pos hid, hid]
      exact AList.lookup_insert _
    · rw [if_neg hid]
      exact AList.lookup_insert_ne hid
  · cases h

lemma add_false {next : RouteTable} {entry : RouteEntry} (h : table.add entry = (false, next)) :
    next = table := by
  unfold add at h
  split at h
  · cases h
    rfl
  split at h
  · cases h
  · cases h
    rfl

variable (table)

/-- The names index after `upsert` has taken out the name of the route it replaces. -/
def releaseName (routeId : UInt32) : AList (fun _ : String => UInt32) :=
  match table.find routeId with
  | some existing =>
    if existing.debugName ≠ "" ∧ table.routeNames.lookup existing.debugName = some routeId then
      table.routeNames.erase existing.debugName
    else table.routeNames
  | none => table.routeNames

lemma lookup_releaseName (routeId : UInt32) :
    (fun name => (table.releaseName routeId).lookup name) =
      releaseKey RouteEntry.debugName table.find table.nameIndex routeId := by
  unfold releaseName releaseKey
  cases hfind : table.find routeId with
  | none => rfl
  | some existing =>
    by_cases hown : table.nameIndex existing.debugName = some routeId
    · have hname := (table.indexed _ _ hown).1
      have hboth : existing.debugName ≠ "" ∧
          table.routeNames.lookup existing.debugName = some routeId := ⟨hname, hown⟩
      simp only [if_pos hboth, if_pos hown]
      exact lookup_erase_eq_update table.routeNames existing.debugName
    · have hnot : ¬(existing.debugName ≠ "" ∧
          table.routeNames.lookup existing.debugName = some routeId) := fun h => hown h.2
      simp only [if_neg hnot, if_neg hown]
      rfl

def upsert (entry : RouteEntry) : RouteTable where
  routes := table.routes.insert entry.routeId entry
  routeNames := insertName (table.releaseName entry.routeId) entry
  routeId_eq := routeId_insert table.routeId_eq entry
  name_indexed := name_indexed_write table entry (lookup_releaseName table entry.routeId)

lemma find_upsert (entry : RouteEntry) (routeId : UInt32) :
    (table.upsert entry).find routeId =
      if routeId = entry.routeId then some entry else table.find routeId := by
  unfold find upsert
  by_cases hid : routeId = entry.routeId
  · rw [if_pos hid, hid, AList.lookup_insert]
  · rw [if_neg hid, AList.lookup_insert_ne hid]

def clear (_table : RouteTable) : RouteTable := {}

variable {table}

lemma routeId_of_find {routeId : UInt32} (h : table.find routeId = some route) :
    route.routeId = routeId :=
  table.routeId_eq routeId route h

lemma find_of_findByName {name : String} (h : table.findByName name = some route) :
    table.find route.routeId = some route := by
  obtain ⟨id, -, hfind⟩ := Option.bind_eq_some_iff.mp h
  rw [routeId_of_find hfind]
  exact hfind

lemma find_of_only (h : table.only = some route) : table.find route.routeId = some route := by
  unfold only at h
  split at h
  · rename_i entry hentries
    cases h
    have hmem : (⟨entry.1, entry.2⟩ : Sigma fun _ : UInt32 => RouteEntry) ∈
        table.routes.entries := by
      rw [hentries]
      exact List.mem_singleton.mpr rfl
    have hlookup := AList.mem_lookup_iff.mpr hmem
    rw [routeId_of_find hlookup]
    exact hlookup
  · cases h

end RouteTable

def isBlank (ch : Char) : Bool := ch == ' ' || ch == '\t' || ch == '\r' || ch == '\n'

def trimCopy (text : List Char) : List Char := (text.dropWhile isBlank).rdropWhile isBlank

/-- The digit of a character in bases up to 36. -/
def digitOf (ch : Char) : Option Nat :=
  if '0' ≤ ch ∧ ch ≤ '9' then some (ch.toNat - '0'.toNat)
  else if 'a' ≤ ch ∧ ch ≤ 'z' then some (ch.toNat - 'a'.toNat + 10)
  else if 'A' ≤ ch ∧ ch ≤ 'Z' then some (ch.toNat - 'A'.toNat + 10)
  else none

/-- The value of a nonempty text of digits of a base. -/
def digitsValue (base : Nat) (text : List Char) : Option Nat :=
  if text.isEmpty then none
  else text.foldl (fun value ch => do
    let digit ← digitOf ch
    if digit < base then return (← value) * base + digit else none) (some 0)

/-- `std::stoull` with base zero, on texts that it reads to the end. -/
def stoull (text : List Char) : Option Nat :=
  let text := text.dropWhile fun ch => isBlank ch || ch == '\x0b' || ch == '\x0c'
  let negative := text.head? == some '-'
  let digits := if text.head? == some '-' || text.head? == some '+' then text.tail else text
  let value :=
    match digits with
    | '0' :: 'x' :: rest => digitsValue 16 rest
    | '0' :: 'X' :: rest => digitsValue 16 rest
    | '0' :: _ => digitsValue 8 digits
    | _ => digitsValue 10 digits
  value.bind fun n =>
    if 2 ^ 64 ≤ n then none else some (if negative then (2 ^ 64 - n) % 2 ^ 64 else n)

def parseU32 (value : String) : Option UInt32 :=
  (stoull (trimCopy value.toList)).bind fun n =>
    if 2 ^ 32 - 1 < n then none else some (UInt32.ofNat n)

def parseU16 (value : String) : Option UInt16 :=
  (parseU32 value).bind fun n => if 2 ^ 16 - 1 < n.toNat then none else some (UInt16.ofNat n.toNat)

def parseBool (value : String) : Option Bool :=
  let text := String.ofList (trimCopy value.toList)
  if text = "true" ∨ text = "1" ∨ text = "yes" then some true
  else if text = "false" ∨ text = "0" ∨ text = "no" then some false
  else none

def parseAction (value : String) : Option RouteAction :=
  let text := String.ofList (trimCopy value.toList)
  if text = "decode" ∨ text = "decode_local" then some .decodeLocal
  else if text = "forward" ∨ text = "forward_raw" then some .forwardRaw
  else if text = "drop" then some .drop
  else none

def isQuote (ch : Char) : Bool := ch == '\x22' || ch == '\x27'

def isKeyChar (ch : Char) : Bool := ch.isAlphanum || ch == '_' || ch == '-' || ch == '.'

/-- Which loop of `parse_xml_attributes` reads the next character, with what was read of the
attribute. -/
inductive AttrState where
  | skip
  | key (name : List Char)
  | afterKey (name : List Char)
  | afterEquals (name : List Char)
  | value (name : List Char) (quote : Char) (text : List Char)
  deriving DecidableEq, Repr

namespace AttrState

/-- The start of the outer loop: a character that is no part of a key is passed over. -/
def restart (ch : Char) : AttrState := if isKeyChar ch then .key [ch] else .skip

def next (state : AttrState) (ch : Char) : AttrState :=
  match state with
  | .skip => restart ch
  | .key name =>
    if isKeyChar ch then .key (name ++ [ch])
    else if isBlank ch then .afterKey name
    else if ch = '=' then .afterEquals name
    else restart ch
  | .afterKey name =>
    if isBlank ch then .afterKey name else if ch = '=' then .afterEquals name else restart ch
  | .afterEquals name =>
    if isBlank ch then .afterEquals name
    else if isQuote ch then .value name ch []
    else restart ch
  | .value name quote text => if ch = quote then .skip else .value name quote (text ++ [ch])

/-- The attribute that ends with a character. -/
def emitted (state : AttrState) (ch : Char) : List (String × String) :=
  match state with
  | .value name quote text => if ch = quote then [(String.ofList name, String.ofList text)] else []
  | _ => []

/-- The attributes that are complete at the end of a text. -/
def attributes : AttrState → List Char → List (String × String)
  | _, [] => []
  | state, ch :: rest => state.emitted ch ++ (state.next ch).attributes rest

end AttrState

def parseXmlAttributes (tag : List Char) : List (String × String) := AttrState.skip.attributes tag

variable (attrs : List (String × String))

/-- `find_attr` in a map that `insert_or_assign` has filled: the last value of a key. -/
def findAttr (key : String) : Option String :=
  attrs.reverse.lookup key

/-- The values of attributes that are left out. -/
structure XmldefCatalogOptions where
  defaultCodecId : UInt16 := 0
  defaultAction : RouteAction := .decodeLocal
  defaultLazyDecode : Bool := true
  deriving DecidableEq, Repr

/-- An attribute with its own parser; an absent one leaves the default. -/
def parsedAttr {α : Type} (attrs : List (String × String)) (key : String)
    (parse : String → Option α) (default : α) (error : String) : Except String α :=
  match findAttr attrs key with
  | none => .ok default
  | some value =>
    match parse value with
    | some parsed => .ok parsed
    | none => .error error

def xmldefRouteId : Except String UInt32 :=
  match findAttr attrs "id" with
  | none => .error "xmldef message/route is missing id"
  | some value =>
    match parseU32 value with
    | some id => if id = 0 then .error "xmldef message/route id must be uint32" else .ok id
    | none => .error "xmldef message/route id must be uint32"

def parseDirection (value : String) : Option RouteDirection :=
  if value = "c2s" ∨ value = "client_to_server" then some .clientToServer
  else if value = "s2c" ∨ value = "server_to_client" then some .serverToClient
  else if value = "bidi" ∨ value = "bidirectional" then some .bidirectional
  else none

/-- Not `parse_bool`, and not trimmed: every text but two is false. -/
def xmldefRequiresAuth : Bool :=
  match findAttr attrs "requires_auth" with
  | none => true
  | some value => value == "true" || value == "1"

def xmldefSchemaId : Except String UInt16 :=
  match findAttr attrs "schema_id" with
  | some _ => parsedAttr attrs "schema_id" parseU16 0 "xmldef schema_id must be uint16"
  | none => parsedAttr attrs "schema" parseU16 0 "xmldef schema must be uint16"

def xmldefEntry (options : XmldefCatalogOptions) (attrs : List (String × String)) :
    Except String RouteEntry := do
  let routeId ← xmldefRouteId attrs
  let direction ← parsedAttr attrs "direction" parseDirection .clientToServer
    "xmldef direction must be c2s/s2c/bidi"
  let codecId ← parsedAttr attrs "codec_id" parseU16 options.defaultCodecId
    "xmldef codec_id must be uint16"
  let schemaId ← xmldefSchemaId attrs
  let action ← parsedAttr attrs "action" parseAction options.defaultAction
    "xmldef action is invalid"
  let lazyDecode ← parsedAttr attrs "lazy_decode" parseBool options.defaultLazyDecode
    "xmldef lazy_decode must be bool"
  return {
    routeId, direction, codecId, schemaId
    requiresAuth := xmldefRequiresAuth attrs
    debugName := (findAttr attrs "name").getD ""
    policy := { action, lazyDecode } }

lemma xmldefEntry_ok {options : XmldefCatalogOptions} {attrs : List (String × String)}
    {entry : RouteEntry} (h : xmldefEntry options attrs = .ok entry) :
    xmldefRouteId attrs = .ok entry.routeId ∧ entry.requiresAuth = xmldefRequiresAuth attrs := by
  obtain ⟨routeId, hid, h⟩ := ok_of_bind_ok h
  obtain ⟨direction, -, h⟩ := ok_of_bind_ok h
  obtain ⟨codecId, -, h⟩ := ok_of_bind_ok h
  obtain ⟨schemaId, -, h⟩ := ok_of_bind_ok h
  obtain ⟨action, -, h⟩ := ok_of_bind_ok h
  obtain ⟨lazyDecode, -, h⟩ := ok_of_bind_ok h
  cases h
  exact ⟨hid, rfl⟩

/-- The texts between each `<` and the next `>`, and whether the last one has no end. The argument
is what was read since the `<`. -/
def cutTags : Option (List Char) → List Char → List (List Char) × Bool
  | none, [] => ([], false)
  | some _, [] => ([], true)
  | none, ch :: rest => cutTags (if ch = '<' then some [] else none) rest
  | some tag, ch :: rest =>
    if ch = '>' then
      let (tags, unterminated) := cutTags none rest
      (tag :: tags, unterminated)
    else cutTags (some (tag ++ [ch])) rest

/-- The text of the attributes of a `message` or `route` tag. -/
def routeElement (rawTag : List Char) : Option (List Char) :=
  let tag := trimCopy rawTag
  let inName (ch : Char) : Bool := !isBlank ch && ch != '/'
  let name := tag.takeWhile inName
  if tag.isEmpty || tag.head? == some '/' || tag.head? == some '?' || tag.head? == some '!' then
    none
  else if name ≠ "message".toList ∧ name ≠ "route".toList then none
  else some ((tag.dropWhile inName).drop 1)

/-- The `message` and `route` elements of a catalog, each as the text of its attributes. -/
def xmldefElements (xml : String) : List (List Char) :=
  (cutTags none xml.toList).1.filterMap routeElement

/-- The table after the elements, and the error that ended the loop. -/
def loadElements (options : XmldefCatalogOptions) :
    RouteTable → List (List Char) → RouteTable × Option String
  | routes, [] => (routes, none)
  | routes, element :: rest =>
    match xmldefEntry options (parseXmlAttributes element) with
    | .error error => (routes, some error)
    | .ok entry =>
      match routes.add entry with
      | (true, routes) => loadElements options routes rest
      | (false, routes) => (routes, some "xmldef contains duplicate route id or name")

lemma loadElements_cons_ok {options : XmldefCatalogOptions} {routes table : RouteTable}
    {element : List Char} {rest : List (List Char)}
    (h : loadElements options routes (element :: rest) = (table, none)) :
    ∃ entry next, xmldefEntry options (parseXmlAttributes element) = .ok entry ∧
      routes.add entry = (true, next) ∧ loadElements options next rest = (table, none) := by
  rw [loadElements] at h
  split at h
  · cases h
  split at h
  · exact ⟨_, _, ‹_›, ‹_›, h⟩
  · cases h

/-- An unterminated tag is noticed after the tags before it have been loaded. -/
def loadXmldefRoutesFromString (xml : String) (routes : RouteTable)
    (options : XmldefCatalogOptions) : RouteTable × Option String :=
  match loadElements options routes (xmldefElements xml) with
  | (routes, some error) => (routes, some error)
  | (routes, none) =>
    (routes, if (cutTags none xml.toList).2 then some "xmldef contains an unterminated tag"
      else none)

end ShieldRuntime.Transport
