import ShieldRuntime.Plugin.Host
import ShieldRuntime.Proofs.JsonRoundTrip

/-!
# The plugins that are declared and those that are seen

`to_json` writes one object with dotted keys, and what `parse_plugin_config` reads from it has no
instances and no bindings.
-/

namespace ShieldRuntime.Proofs
open Transport Configuration Plugin

section Spec

def textEntry : Yaml × Yaml → Option (String × String)
  | (.scalar _ key, .scalar _ text) => some (key, text)
  | _ => none

def entryText (entry : List (Yaml × Yaml)) (key : String) : Option String :=
  match Yaml.find? entry key with
  | some (.scalar _ text) => some text
  | _ => none

def declaredInstance (reader : ScalarReader) (entry : List (Yaml × Yaml)) : InstanceDecl where
  id := (entryText entry "id").getD ""
  package := (entryText entry "package").getD ""
  required := ((entryText entry "required").bind reader.asBool).getD true
  dependencies :=
    match Yaml.find? entry "dependencies" with
    | some (.map pairs) => pairs.filterMap textEntry
    | _ => []
  config := ((Yaml.find? entry "config").bind (yamlToJson reader)).getD (.object [])

def declaredBinding (binding : String × String) : BindingDecl :=
  { logical := binding.1, instanceId := binding.2 }

def pluginMember (document : Yaml) (key : String) : Option Yaml :=
  match document with
  | .map top =>
    match Yaml.find? top "plugins" with
    | some (.map plugins) => Yaml.find? plugins key
    | _ => none
  | _ => none

def instanceEntries (document : Yaml) : List (List (Yaml × Yaml)) :=
  match pluginMember document "instances" with
  | some (.sequence items) => items.filterMap fun
    | .map entry => some entry
    | _ => none
  | _ => []

def bindingEntries (document : Yaml) : List (String × String) :=
  match pluginMember document "bindings" with
  | some (.map pairs) => pairs.filterMap textEntry
  | _ => []

end Spec

section Flat

variable {key : String} {value member : Json} {fields : List (String × Json)}

lemma storageFields_flat (storage : Storage) (fields : List (String × Json))
    (h : ∀ m ∈ fields, m.2.isObject = false) :
    ∀ m ∈ storageFields storage fields, m.2.isObject = false := by
  induction storage generalizing fields with
  | nil => exact h
  | cons entry rest ih =>
    rw [storageFields]
    cases hvalue : entry.2.toJson? with
    | none => exact ih fields h
    | some =>
      refine ih _ fun m hm => ?_
      rcases Json.mem_setField hm with rfl | hm
      · cases hstored : entry.2 <;> rw [hstored] at hvalue <;> cases hvalue <;> rfl
      · exact h m hm

lemma mem_of_lookup (h : fields.lookup key = some member) : (key, member) ∈ fields := by
  obtain ⟨before, after, rfl, -⟩ := List.lookup_eq_some_iff.mp h
  simp

lemma toJson_flat {config : Config} (h : config.toJson.field? key = some member) :
    member.isObject = false := by
  have hflat := storageFields_flat config.storage [] (by simp)
  unfold Config.toJson at h
  split at h
  · cases h
  · exact hflat (key, member) (mem_of_lookup h)

lemma field_of_not_object (h : value.isObject = false) (key : String) :
    value.field? key = none := by
  cases value <;> first | rfl | cases h

lemma parseSection_flat (h : value.isObject = false) : parseSection value = .ok ([], []) := by
  simp only [parseSection, field_of_not_object h]
  rfl

lemma parsePluginConfig_flat {lib : JsonLibrary} {config : Config}
    (hlib : lib.RoundTrips config.toJson) (doubleText : UInt64 → String) :
    parsePluginConfig lib doubleText config =
      .ok { directory := config.getString doubleText "plugins.directory" "./plugins" } := by
  unfold parsePluginConfig
  cases hdump : lib.dump config.toJson with
  | error => rfl
  | ok bytes =>
    obtain ⟨back, hparse, hback⟩ := hlib bytes hdump
    have hread : (Except.ok bytes >>= lib.parse) = .ok back := hparse
    simp only [hread]
    cases hfield : back.field? "plugins" with
    | none => rfl
    | some found =>
      have hordered := field_ordered back "plugins"
      rw [hback, field_ordered, field_normalize, hfield] at hordered
      obtain ⟨_, hnormalized, heq⟩ := Option.map_eq_some_iff.mp hordered
      obtain ⟨member, hmember, rfl⟩ := Option.map_eq_some_iff.mp hnormalized
      have hscalar : found.isObject = false := by
        rw [← isObject_ordered, ← heq, isObject_ordered, isObject_normalize, toJson_flat hmember]
      simp only [parseSection_flat hscalar]
      rfl

end Flat

lemma root_load_fresh (reader : ScalarReader) (document : Yaml) :
    (Config.load reader {} document).1.root = document := by
  have hmerge : mergeYamlNodes (some .null) document = some document := by
    cases document <;> rfl
  simp only [Config.load, hmerge]

/-- After a document was loaded, the tree is that of the document, but the instances and bindings of
`parse_plugin_config` are the declared ones only if none is declared. -/
theorem declared_plugins_seen (lib : JsonLibrary) (doubleText : UInt64 → String)
    (reader : ScalarReader) (document : Yaml) (config : Config)
    (hload : Config.load reader {} document = (config, true))
    (hlib : lib.RoundTrips config.toJson) :
    config.root = document ∧ ∃ seen, parsePluginConfig lib doubleText config = .ok seen ∧
      ((seen.instances = (instanceEntries document).map (declaredInstance reader) ∧
        seen.bindings.Perm ((bindingEntries document).map declaredBinding)) ↔
      instanceEntries document = [] ∧ bindingEntries document = []) := by
  refine ⟨?_, _, parsePluginConfig_flat hlib doubleText, ?_⟩
  · rw [← root_load_fresh reader document, hload]
  constructor
  · rintro ⟨hinstances, hbindings⟩
    exact ⟨List.map_eq_nil_iff.mp hinstances.symm, List.map_eq_nil_iff.mp hbindings.nil_eq.symm⟩
  · rintro ⟨hinstances, hbindings⟩
    rw [hinstances, hbindings]
    exact ⟨rfl, .nil⟩

def pluginDocument (instances : List Yaml) (bindings : List (Yaml × Yaml)) : Yaml :=
  .map [(.scalar "?" "plugins", .map [
    (.scalar "?" "instances", .sequence instances),
    (.scalar "?" "bindings", .map bindings)])]

def textReader : ScalarReader := ⟨fun _ => none, fun _ => none, fun _ => none⟩

def onePlugin : Yaml :=
  pluginDocument [.map [(.scalar "?" "id", .scalar "?" "a"), (.scalar "?" "package", .scalar "?" "base")]]
    [(.scalar "?" "l", .scalar "?" "a")]

def oneText : List UInt8 := bytesOf "\x7b\"plugins.bindings.l\":\"a\"\x7d"

def oneLibrary : JsonLibrary :=
  textLibrary [(oneText, .object [("plugins.bindings.l", .string "a")])]

theorem declared_plugins_seen_one :
    ∃ seen, parsePluginConfig oneLibrary (fun _ => "") (Config.load textReader {} onePlugin).1 =
        .ok seen ∧
      ¬(seen.instances = (instanceEntries onePlugin).map (declaredInstance textReader) ∧
        seen.bindings.Perm ((bindingEntries onePlugin).map declaredBinding)) := by
  have hlib : oneLibrary.RoundTrips (Config.load textReader {} onePlugin).1.toJson := by
    intro bytes h
    cases h
    exact ⟨_, rfl, rfl⟩
  obtain ⟨-, seen, hparse, hiff⟩ := declared_plugins_seen oneLibrary (fun _ => "") textReader
    onePlugin _ rfl hlib
  exact ⟨seen, hparse, fun h => absurd (hiff.mp h).1 (by decide)⟩

/-- The declared instance and binding are not seen. -/
theorem declared_plugin_lost :
    (Config.load textReader {} onePlugin).2 = true ∧
    (Config.load textReader {} onePlugin).1.storage = [("plugins.bindings.l", .text "a")] ∧
    oneLibrary.dump (Config.load textReader {} onePlugin).1.toJson = .ok oneText ∧
    (instanceEntries onePlugin).length = 1 ∧ bindingEntries onePlugin = [("l", "a")] ∧
    parsePluginConfig oneLibrary (fun _ => "") (Config.load textReader {} onePlugin).1 =
      .ok { directory := "./plugins", instances := [], bindings := [] } :=
  ⟨rfl, rfl, rfl, rfl, rfl, rfl⟩

/-- A path that can be written with dots. -/
structure DottedPath where
  segments : List String
  nonempty : segments ≠ []
  plain : ∀ segment ∈ segments, segment ≠ "" ∧ '.' ∉ segment.toList

def DottedPath.text (path : DottedPath) : String :=
  String.ofList (['.'].intercalate (path.segments.map String.toList))

lemma splitOn_text (path : DottedPath) :
    path.text.toList.splitOn '.' = path.segments.map String.toList := by
  rw [DottedPath.text, String.toList_ofList]
  refine List.splitOn_intercalate '.' (fun segment hsegment => ?_) (by simpa using path.nonempty)
  obtain ⟨text, htext, rfl⟩ := List.mem_map.mp hsegment
  exact (path.plain text htext).2

def memberAt : Json → List String → Option Json
  | value, [] => some value
  | value, key :: path => (value.field? key).bind (memberAt · path)

/-- What the path leads through is an object, up to its last segment. -/
def ThroughObjects (config : Json) (segments : List String) : Prop :=
  ∀ before after value, segments = before ++ after → after ≠ [] →
    memberAt config before = some value → value.isObject = true

lemma throughObjects_cons (config : Json) (key : String) (rest : List String) :
    ThroughObjects config (key :: rest) ↔ config.isObject = true ∧
      ∀ item, config.field? key = some item → ThroughObjects item rest := by
  constructor
  · intro h
    refine ⟨h [] _ config rfl (by simp) rfl, fun item hitem before after value heq hne hvalue => ?_⟩
    refine h (key :: before) after value (by rw [heq]; rfl) hne ?_
    rw [memberAt, hitem]
    exact hvalue
  · rintro ⟨hobject, hrest⟩ (_ | ⟨_, before⟩) after value heq hne hvalue
    · cases hvalue
      exact hobject
    · obtain ⟨rfl, htail⟩ := List.cons.inj heq
      obtain ⟨item, hitem, hvalue⟩ := Option.bind_eq_some_iff.mp hvalue
      exact hrest item hitem before after value htail hne hvalue

lemma followPath_spec (config : Json) {segments : List String} (h : ∀ s ∈ segments, s ≠ "") :
    (ThroughObjects config segments ∧
      followPath config (segments.map String.toList) = memberAt config segments) ∨
    (¬ThroughObjects config segments ∧ memberAt config segments = none ∧
      followPath config (segments.map String.toList) ≠ none) := by
  induction segments generalizing config with
  | nil =>
    refine .inl ⟨fun before after value heq hne => ?_, by cases config <;> rfl⟩
    exact absurd (List.append_eq_nil_iff.mp heq.symm).2 hne
  | cons key rest ih =>
    obtain ⟨hkey, hrest⟩ := List.forall_mem_cons.mp h
    rw [throughObjects_cons, List.map_cons]
    cases config with
    | object members =>
      rw [followPath, if_neg (by simp [hkey]), String.ofList_toList, memberAt]
      simp only [Json.field?, Json.fields, Json.isObject, true_and]
      cases members.lookup key with
      | none => simp
      | some item => simpa using ih item hrest
    | _ => exact .inr ⟨by simp [Json.isObject], rfl, by simp [followPath]⟩

/-- `config_get` gives the member at the end of the path, or null, if and only if there is no value
on the way that is no object. -/
theorem config_get_exact_iff (dump : JsonDump) (config : Json) (path : DottedPath) :
    configGet dump config path.text =
        (memberAt config path.segments).map (configText dump) ↔
      ThroughObjects config path.segments := by
  rw [configGet, splitOn_text]
  rcases followPath_spec config (fun s hs => (path.plain s hs).1) with
    ⟨hthrough, heq⟩ | ⟨hnot, hnone, hsome⟩
  · simp only [heq, hthrough]
  · rw [hnone]
    simpa [hnot] using hsome

/-- A path that goes on below a scalar ends there. -/
theorem config_get_below_scalar :
    configGet (Json.dump fun _ => []) (.object [("port", .unsigned 80)]) "port.name" =
        some (.ok (bytesOf "80")) ∧
      memberAt (.object [("port", .unsigned 80)]) ["port", "name"] = none := by
  decide

end ShieldRuntime.Proofs
