import ShieldRuntime.Configuration.Config

/-!
# Layers of configuration

Each document is merged over the tree of those before it. A load that fails does so before the
merged tree is in place; one that does not fail makes the flattened values anew.
-/

namespace ShieldRuntime.Proofs
open ShieldRuntime.Configuration Configuration

section

variable {node : Yaml} {path : List String} {key : String} {entries : List (Yaml × Yaml)}

def isMap : Yaml → Bool
  | .map _ => true
  | _ => false

/-- The node at a path of keys. -/
def valueAt : List String → Yaml → Option Yaml
  | _, .null => none
  | [], node => some node
  | key :: path, .map entries => (Yaml.find? entries key).bind (valueAt path)
  | _ :: _, _ => none

def leafAt (path : List String) (node : Yaml) : Option Yaml :=
  (valueAt path node).filter (!isMap ·)

/-- The document has something at the path, or a leaf on the way to it. -/
def decides (path : List String) (document : Yaml) : Bool :=
  (valueAt path document).isSome ||
    path.inits.dropLast.any fun before => (leafAt before document).isSome

def lastDeciding (path : List String) (documents : List Yaml) : Option Yaml :=
  documents.reverse.find? (decides path)

mutual

/-- All keys of the tree are strings. -/
def StringKeyed : Yaml → Prop
  | .map entries => StringEntries entries
  | _ => True
termination_by structural node => node

def StringEntries : List (Yaml × Yaml) → Prop
  | [] => True
  | (key, value) :: rest =>
    (∃ tag text, key = .scalar tag text ∧ ∀ e ∈ rest, e.1.isKey text = false) ∧
      StringKeyed value ∧ StringEntries rest
termination_by structural entries => entries

end

def loadAllYaml (reader : ScalarReader) (documents : List Yaml) : Config :=
  documents.foldl (fun config document => (config.load reader document).1) {}

@[simp] lemma valueAt_null (path : List String) : valueAt path .null = none := by
  cases path <;> rfl

@[simp] lemma leafAt_null (path : List String) : leafAt path .null = none := by
  rw [leafAt, valueAt_null]
  rfl

lemma valueAt_nil (hnode : node ≠ .null) : valueAt [] node = some node := by
  cases node with
  | null => exact absurd rfl hnode
  | scalar | sequence | map => rfl

@[simp] lemma valueAt_cons (key : String) (path : List String) (entries : List (Yaml × Yaml)) :
    valueAt (key :: path) (.map entries) = (Yaml.find? entries key).bind (valueAt path) := rfl

lemma leafAt_cons (key : String) (path : List String) (entries : List (Yaml × Yaml)) :
    leafAt (key :: path) (.map entries) = (Yaml.find? entries key).bind (leafAt path) := by
  rw [leafAt, valueAt_cons]
  cases Yaml.find? entries key <;> rfl

lemma valueAt_cons_leaf (hleaf : isMap node = false) : valueAt (key :: path) node = none := by
  cases node with
  | null | scalar | sequence => rfl
  | map => cases hleaf

@[simp] lemma decides_null (path : List String) : decides path .null = false := by
  simp [decides]

lemma inits_cons_dropLast (key : String) (path : List String) :
    (key :: path).inits.dropLast = [] :: path.inits.dropLast.map (key :: ·) := by
  have hne : path.inits.map (key :: ·) ≠ [] := by
    intro h
    have hlength := congrArg List.length h
    simp at hlength
  rw [List.inits_cons, List.dropLast_cons_of_ne_nil hne, List.map_dropLast]

lemma decides_cons (key : String) (path : List String) (entries : List (Yaml × Yaml)) :
    decides (key :: path) (.map entries) = (Yaml.find? entries key).any (decides path) := by
  have hroot : leafAt [] (.map entries) = none := rfl
  simp only [decides, inits_cons_dropLast, List.any_cons, hroot, List.any_map, valueAt_cons]
  cases hfind : Yaml.find? entries key with
  | none => simp [Function.comp_def, leafAt_cons, hfind]
  | some => simp [Function.comp_def, leafAt_cons, hfind, decides]

lemma decides_leaf (hleaf : isMap node = false) (hnode : node ≠ .null) :
    decides path node = true := by
  cases path with
  | nil => simp [decides, valueAt_nil hnode]
  | cons =>
    have hroot : leafAt [] node = some node := by simp [leafAt, valueAt_nil hnode, hleaf]
    rw [decides, inits_cons_dropLast, List.any_cons, hroot]
    simp

lemma valueAt_of_not_decides (h : decides path node = false) : valueAt path node = none := by
  simp only [decides, Bool.or_eq_false_iff, Option.isSome_eq_false_iff, Option.isNone_iff_eq_none] at h
  exact h.1

section Merge

variable {motive : Yaml → Prop}

mutual

/-- Induction over a document, with the values of a map at once. -/
@[elab_as_elim]
theorem yaml_induction (leaf : ∀ node, isMap node = false → motive node)
    (map : ∀ entries, (∀ e ∈ entries, motive e.2) → motive (.map entries)) :
    ∀ node : Yaml, motive node
  | .map entries => map entries (yaml_entries_induction leaf map entries)
  | .null => leaf .null rfl
  | .scalar tag text => leaf (.scalar tag text) rfl
  | .sequence items => leaf (.sequence items) rfl

theorem yaml_entries_induction (leaf : ∀ node, isMap node = false → motive node)
    (map : ∀ entries, (∀ e ∈ entries, motive e.2) → motive (.map entries)) :
    ∀ (entries : List (Yaml × Yaml)), ∀ e ∈ entries, motive e.2
  | [], _, h => (List.not_mem_nil h).elim
  | (_, value) :: rest, e, h => by
    rcases List.mem_cons.mp h with rfl | h
    · exact yaml_induction leaf map value
    · exact yaml_entries_induction leaf map rest e h

end

variable {merged : List (Yaml × Yaml)}

lemma eq_of_isKey {a b : String} (ha : node.isKey a = true) (hb : node.isKey b = true) : a = b := by
  cases node with
  | scalar =>
    simp only [Yaml.isKey, beq_iff_eq] at ha hb
    rw [← ha, hb]
  | null | sequence | map => cases ha

@[simp] lemma isKey_scalar (tag text key : String) :
    (Yaml.scalar tag text).isKey key = decide (text = key) := rfl

@[simp] lemma find?_nil (key : String) : Yaml.find? [] key = none := rfl

@[simp] lemma find?_cons (k v : Yaml) (rest : List (Yaml × Yaml)) (key : String) :
    Yaml.find? ((k, v) :: rest) key = if k.isKey key then some v else Yaml.find? rest key := by
  rw [Yaml.find?, List.find?_cons]
  cases k.isKey key <;> rfl

variable {overlay : Yaml}

lemma find?_eq_none (h : ∀ e ∈ entries, e.1.isKey key = false) : Yaml.find? entries key = none := by
  rw [Yaml.find?, Option.map_eq_none_iff]
  exact List.find?_eq_none.mpr fun e he => by simp [h e he]

lemma find?_setEntry (key key' : String) (value : Yaml) (entries : List (Yaml × Yaml)) :
    Yaml.find? (Yaml.setEntry key value entries) key' =
      if key' = key then some value else Yaml.find? entries key' := by
  induction entries with
  | nil => simp [Yaml.setEntry, eq_comm]
  | cons e rest ih =>
    obtain ⟨k, v⟩ := e
    rw [Yaml.setEntry]
    by_cases hk : k.isKey key = true
    · rw [if_pos hk]
      by_cases hkey : key' = key
      · simp [hkey, hk]
      have hother : k.isKey key' = false :=
        Bool.eq_false_iff.mpr fun hk' => hkey (eq_of_isKey hk' hk)
      simp [hother, hkey]
    · rw [if_neg hk, find?_cons, find?_cons, ih]
      by_cases hk' : k.isKey key' = true
      · have hkey : key' ≠ key := fun heq => hk (heq ▸ hk')
        simp [hk', hkey]
      · simp [hk']

lemma setEntry_self {value : Yaml} (h : Yaml.find? entries key = some value) :
    Yaml.setEntry key value entries = entries := by
  induction entries with
  | nil => cases h
  | cons e rest ih =>
    obtain ⟨k, v⟩ := e
    rw [find?_cons] at h
    rw [Yaml.setEntry]
    by_cases hk : k.isKey key = true
    · rw [if_pos hk, Option.some.injEq] at h
      rw [if_pos hk, h]
    · rw [if_neg hk] at h
      rw [if_neg hk, ih h]

lemma StringEntries.value (h : StringEntries entries) : ∀ e ∈ entries, StringKeyed e.2 := by
  induction entries with
  | nil => simp
  | cons e rest ih =>
    obtain ⟨-, hvalue, hrest⟩ := h
    exact List.forall_mem_cons.mpr ⟨hvalue, ih hrest⟩

lemma StringEntries.find (h : StringEntries entries) :
    ∀ e ∈ entries, ∃ key, e.1.asString = some key ∧ Yaml.find? entries key = some e.2 := by
  induction entries with
  | nil => simp
  | cons e rest ih =>
    obtain ⟨k, v⟩ := e
    obtain ⟨⟨tag, text, rfl, hother⟩, -, hrest⟩ := h
    intro e he
    rcases List.mem_cons.mp he with rfl | he
    · exact ⟨text, rfl, by simp⟩
    obtain ⟨key, hstring, hfind⟩ := ih hrest e he
    refine ⟨key, hstring, ?_⟩
    have hne : text ≠ key := by
      rintro rfl
      rw [find?_eq_none hother] at hfind
      cases hfind
    simp [hne, hfind]

/-- The entries of a merged map, key by key. -/
structure MergedEntries (merged entries result : List (Yaml × Yaml)) : Prop where
  absent : ∀ key, Yaml.find? entries key = none → Yaml.find? result key = Yaml.find? merged key
  present : ∀ key value, Yaml.find? entries key = some value →
    Yaml.find? result key = mergeYamlNodes (Yaml.find? merged key) value

lemma mergeEntries_spec (h : StringEntries entries)
    (hmerge : ∀ e ∈ entries, ∀ base, ∃ node, mergeYamlNodes base e.2 = some node)
    (merged : List (Yaml × Yaml)) :
    ∃ result, mergeEntries merged entries = some result ∧ MergedEntries merged entries result := by
  induction entries generalizing merged with
  | nil => exact ⟨merged, rfl, fun _ _ => rfl, fun key value hfind => by cases hfind⟩
  | cons e rest ih =>
    obtain ⟨k, value⟩ := e
    obtain ⟨⟨tag, text, rfl, hother⟩, -, hrest⟩ := h
    obtain ⟨hvalue, hvalues⟩ := List.forall_mem_cons.mp hmerge
    obtain ⟨node, hnode⟩ := hvalue (Yaml.find? merged text)
    obtain ⟨result, hresult, habsent, hpresent⟩ := ih hrest hvalues (Yaml.setEntry text node merged)
    have hnone := find?_eq_none hother
    refine ⟨result, by simp [mergeEntries, Yaml.asString, hnode, hresult], ?_, ?_⟩
    · intro key hfind
      have hkey : text ≠ key := by
        rintro rfl
        simp at hfind
      rw [find?_cons, isKey_scalar, if_neg (by simpa using hkey)] at hfind
      rw [habsent key hfind, find?_setEntry, if_neg (Ne.symm hkey)]
    · intro key value' hfind
      by_cases hkey : text = key
      · subst hkey
        simp only [find?_cons, isKey_scalar, decide_true, if_true, Option.some.injEq] at hfind
        rw [habsent text hnone, find?_setEntry, if_pos rfl, ← hfind, hnode]
      · rw [find?_cons, isKey_scalar, if_neg (by simpa using hkey)] at hfind
        rw [hpresent key value' hfind, find?_setEntry, if_neg (Ne.symm hkey)]

lemma mergeEntries_absorbed (h : ∀ e ∈ entries, ∃ key value, e.1.asString = some key ∧
      Yaml.find? merged key = some value ∧ mergeYamlNodes (some value) e.2 = some value) :
    mergeEntries merged entries = some merged := by
  induction entries with
  | nil => rfl
  | cons e rest ih =>
    obtain ⟨⟨key, value, hkey, hfind, hvalue⟩, hrest⟩ := List.forall_mem_cons.mp h
    simp [mergeEntries, hkey, hfind, hvalue, setEntry_self hfind, ih hrest]

lemma merge_none (overlay : Yaml) : mergeYamlNodes none overlay = some overlay := by
  cases overlay <;> rfl

lemma merge_over_null (base : Yaml) : mergeYamlNodes (some base) .null = some base := by
  cases base <;> rfl

lemma merge_leaf {base : Yaml} (hover : overlay ≠ .null)
    (hleaf : isMap base = false ∨ isMap overlay = false) :
    mergeYamlNodes (some base) overlay = some overlay := by
  cases base <;> cases overlay <;> first | rfl | exact absurd rfl hover | simp [isMap] at hleaf

lemma merge_map (merged entries : List (Yaml × Yaml)) :
    mergeYamlNodes (some (.map merged)) (.map entries) =
      (mergeEntries merged entries).map .map := rfl

/-- A merged tree at a path: the overlay where it decides, the base elsewhere. -/
structure MergedAt (base : Option Yaml) (overlay node : Yaml) (path : List String) : Prop where
  decided : decides path overlay = true → leafAt path node = leafAt path overlay
  kept : decides path overlay = false → valueAt path node = base.bind (valueAt path)

lemma mergedAt_overlay {base : Option Yaml}
    (h : decides path overlay = false → base.bind (valueAt path) = none) :
    MergedAt base overlay overlay path :=
  ⟨fun _ => rfl, fun hnot => by rw [valueAt_of_not_decides hnot, h hnot]⟩

lemma eq_map_of_isMap (h : isMap node = true) : ∃ entries, node = .map entries := by
  cases node with
  | map entries => exact ⟨entries, rfl⟩
  | null | scalar | sequence => cases h

lemma mergedAt_map {result : List (Yaml × Yaml)} (h : MergedEntries merged entries result)
    (hvalues : ∀ e ∈ entries, ∀ base, ∃ node, mergeYamlNodes base e.2 = some node ∧
      ∀ path, MergedAt base e.2 node path) (path : List String) :
    MergedAt (some (.map merged)) (.map entries) (.map result) path := by
  cases path with
  | nil => exact ⟨fun _ => rfl, fun hnot => by cases hnot⟩
  | cons key path =>
    cases hfind : Yaml.find? entries key with
    | none =>
      have hkey := h.absent key hfind
      refine ⟨fun hyes => ?_, fun _ => ?_⟩
      · rw [decides_cons, hfind] at hyes
        cases hyes
      · rw [Option.bind_some, valueAt_cons, valueAt_cons, hkey]
    | some value =>
      have hkey := h.present key value hfind
      obtain ⟨e, he, rfl⟩ : ∃ e ∈ entries, e.2 = value := by
        obtain ⟨e, he, hvalue⟩ := Option.map_eq_some_iff.mp hfind
        exact ⟨e, List.mem_of_find?_eq_some he, hvalue⟩
      obtain ⟨node, hnode, hpaths⟩ := hvalues e he (Yaml.find? merged key)
      refine ⟨fun hyes => ?_, fun hnot => ?_⟩
      · rw [decides_cons, hfind] at hyes
        rw [leafAt_cons, leafAt_cons, hkey, hnode, hfind]
        exact (hpaths path).decided hyes
      · rw [decides_cons, hfind] at hnot
        rw [Option.bind_some, valueAt_cons, valueAt_cons, hkey, hnode]
        exact (hpaths path).kept hnot

theorem merge_spec (overlay : Yaml) (hkeys : StringKeyed overlay) (base : Option Yaml) :
    ∃ node, mergeYamlNodes base overlay = some node ∧ ∀ path, MergedAt base overlay node path := by
  induction overlay using yaml_induction generalizing base with
  | leaf overlay hleaf =>
    cases base with
    | none => exact ⟨overlay, merge_none overlay, fun path => mergedAt_overlay fun _ => rfl⟩
    | some base =>
      by_cases hnull : overlay = .null
      · subst hnull
        exact ⟨base, merge_over_null base, fun path => ⟨by simp, fun _ => rfl⟩⟩
      refine ⟨overlay, merge_leaf hnull (.inr hleaf), fun path => mergedAt_overlay fun hnot => ?_⟩
      rw [decides_leaf hleaf hnull] at hnot
      cases hnot
  | map entries ih =>
    have hvalues := fun e he => ih e he (StringEntries.value hkeys e he)
    cases base with
    | none => exact ⟨_, merge_none _, fun path => mergedAt_overlay fun _ => rfl⟩
    | some base =>
      cases hbase : isMap base with
      | false =>
        refine ⟨_, merge_leaf (by simp) (.inl hbase), fun path => mergedAt_overlay fun hnot => ?_⟩
        cases path with
        | nil => cases hnot
        | cons => exact valueAt_cons_leaf hbase
      | true =>
        obtain ⟨merged, rfl⟩ := eq_map_of_isMap hbase
        obtain ⟨result, hresult, hlookup⟩ := mergeEntries_spec hkeys
          (fun e he base => (hvalues e he base).imp fun node h => h.1) merged
        exact ⟨.map result, by rw [merge_map, hresult]; rfl, mergedAt_map hlookup hvalues⟩

lemma merge_total (hkeys : StringKeyed overlay) (base : Option Yaml) :
    ∃ node, mergeYamlNodes base overlay = some node :=
  (merge_spec overlay hkeys base).imp fun _ h => h.1

/-- A document that was merged changes nothing when it is merged again. -/
theorem merge_again (overlay : Yaml) (hkeys : StringKeyed overlay) (base : Option Yaml) (node : Yaml)
    (h : mergeYamlNodes base overlay = some node) :
    mergeYamlNodes (some node) overlay = some node := by
  induction overlay using yaml_induction generalizing base node with
  | leaf overlay hleaf =>
    by_cases hnull : overlay = .null
    · subst hnull
      exact merge_over_null node
    obtain rfl : overlay = node := by
      cases base with
      | none => rwa [merge_none, Option.some.injEq] at h
      | some => rwa [merge_leaf hnull (.inr hleaf), Option.some.injEq] at h
    exact merge_leaf hnull (.inl hleaf)
  | map entries ih =>
    have hentry := StringEntries.find hkeys
    have hvalue := StringEntries.value hkeys
    -- the document over itself
    have hself : mergeYamlNodes (some (.map entries)) (.map entries) = some (.map entries) := by
      rw [merge_map, mergeEntries_absorbed fun e he => ?_]
      · rfl
      · obtain ⟨key, hkey, hfind⟩ := hentry e he
        exact ⟨key, e.2, hkey, hfind, ih e he (hvalue e he) none e.2 (merge_none e.2)⟩
    cases base with
    | none =>
      rwa [← h]
    | some base =>
      cases hbase : isMap base with
      | false =>
        rw [merge_leaf (by simp) (.inl hbase), Option.some.injEq] at h
        rwa [← h]
      | true =>
        obtain ⟨merged, rfl⟩ := eq_map_of_isMap hbase
        obtain ⟨result, hresult, hlookup⟩ :=
          mergeEntries_spec hkeys (fun e he => merge_total (hvalue e he)) merged
        rw [merge_map, hresult, Option.map_some, Option.some.injEq] at h
        rw [← h, merge_map, mergeEntries_absorbed fun e he => ?_]
        · rfl
        · obtain ⟨key, hkey, hfind⟩ := hentry e he
          obtain ⟨value, hmerged⟩ := merge_total (hvalue e he) (Yaml.find? merged key)
          refine ⟨key, value, hkey, ?_, ih e he (hvalue e he) _ value hmerged⟩
          rw [hlookup.present key e.2 hfind, hmerged]

end Merge

section Layers

variable {reader : ScalarReader} {config : Config}

lemma root_load {document root : Yaml}
    (h : mergeYamlNodes (some config.root) document = some root) :
    (config.load reader document).1.root = root := by
  rw [Config.load, h]

lemma loadAllYaml_concat (reader : ScalarReader) (documents : List Yaml) (document : Yaml) :
    loadAllYaml reader (documents ++ [document]) =
      ((loadAllYaml reader documents).load reader document).1 := by
  rw [loadAllYaml, List.foldl_append]
  rfl

lemma lastDeciding_concat (path : List String) (documents : List Yaml) (document : Yaml) :
    lastDeciding path (documents ++ [document]) =
      if decides path document then some document else lastDeciding path documents := by
  rw [lastDeciding, List.reverse_append, List.reverse_singleton, List.singleton_append,
    List.find?_cons]
  cases decides path document <;> rfl

/-- The leaves of the tree are those of the last documents that decide about them. -/
theorem leafAt_loadAllYaml (reader : ScalarReader) (documents : List Yaml)
    (hkeys : ∀ d ∈ documents, StringKeyed d) (path : List String) :
    leafAt path (loadAllYaml reader documents).root =
      (lastDeciding path documents).bind (leafAt path) := by
  induction documents using List.reverseRecOn with
  | nil => exact leafAt_null path
  | append_singleton documents document ih =>
    obtain ⟨node, hnode, hpaths⟩ := merge_spec document (hkeys document (by simp))
      (some (loadAllYaml reader documents).root)
    have hbefore := ih fun d hd => hkeys d (List.mem_append_left _ hd)
    rw [loadAllYaml_concat, root_load hnode, lastDeciding_concat]
    cases hdecides : decides path document with
    | true => exact (hpaths path).decided hdecides
    | false =>
      rw [leafAt, (hpaths path).kept hdecides]
      exact hbefore

end Layers

def plainReader : ScalarReader := ⟨fun _ => none, fun _ => none, fun _ => none⟩

def layers : List Yaml :=
  [.map [(.scalar "?" "a", .map [(.scalar "?" "b", .scalar "?" "1")]), (.scalar "?" "k", .scalar "?" "v")],
    .map [(.scalar "?" "a", .scalar "?" "2")],
    .map [(.scalar "?" "a", .map [(.scalar "?" "c", .scalar "?" "3")]), (.scalar "?" "k", .null)]]

end

section Flatten

mutual

/-- Every scalar that flattening reaches reads without an exception. -/
def FlattensValue (reader : ScalarReader) : Yaml → Prop
  | .scalar tag text => scalarValue reader tag text ≠ none
  | .map entries => FlattensEntries reader entries
  | _ => True
termination_by structural node => node

def FlattensEntries (reader : ScalarReader) : List (Yaml × Yaml) → Prop
  | [] => True
  | (key, value) :: rest =>
    key.asString ≠ none ∧ FlattensValue reader value ∧ FlattensEntries reader rest
termination_by structural entries => entries

end

/-- The values of the tree can be stored under dotted keys. -/
def Flattens (reader : ScalarReader) : Yaml → Prop
  | .map entries => FlattensEntries reader entries
  | _ => True

variable {reader : ScalarReader}

lemma flattenEntries_completes {entries : List (Yaml × Yaml)}
    (hvalue : ∀ e ∈ entries, ∀ fullKey storage,
      (flattenValue reader e.2 fullKey storage).2 = true ↔ FlattensValue reader e.2)
    (base : String) (storage : Storage) :
    (flattenEntries reader entries base storage).2 = true ↔ FlattensEntries reader entries := by
  induction entries generalizing storage with
  | nil => exact ⟨fun _ => trivial, fun _ => rfl⟩
  | cons e rest ih =>
    obtain ⟨key, value⟩ := e
    obtain ⟨hfirst, hvalues⟩ := List.forall_mem_cons.mp hvalue
    rw [flattenEntries, FlattensEntries]
    cases key.asString with
    | none => simp
    | some text =>
      have hdone := hfirst (if base = "" then text else base ++ "." ++ text) storage
      simp only [ne_eq, reduceCtorEq, not_false_eq_true, true_and]
      rw [← hdone]
      rcases flattenValue reader value (if base = "" then text else base ++ "." ++ text) storage with
        ⟨after, done⟩
      cases done with
      | true => simpa using ih hvalues after
      | false => simp

lemma flattenValue_completes (node : Yaml) (fullKey : String) (storage : Storage) :
    (flattenValue reader node fullKey storage).2 = true ↔ FlattensValue reader node := by
  induction node using yaml_induction generalizing fullKey storage with
  | leaf node hleaf =>
    cases node with
    | null => exact ⟨fun _ => trivial, fun _ => rfl⟩
    | scalar tag text =>
      rw [flattenValue, FlattensValue]
      cases scalarValue reader tag text <;> simp
    | sequence items =>
      rw [flattenValue]
      cases scalarTexts items <;> exact ⟨fun _ => trivial, fun _ => rfl⟩
    | map => cases hleaf
  | map entries ih => exact flattenEntries_completes ih fullKey storage

lemma flattens_completes (root : Yaml) : (flattenYamlNode reader root).2 = true ↔
    Flattens reader root := by
  cases root with
  | map => exact flattenEntries_completes (fun e _ => flattenValue_completes e.2) "" []
  | null | scalar | sequence => exact ⟨fun _ => trivial, fun _ => rfl⟩

/-- The tree and the values are the same, which are all that the queries, `merge` and later loads
read. -/
def Config.Agrees (a b : Config) : Prop := a.root = b.root ∧ a.storage = b.storage

lemma failed_imp_iff {root : Yaml} {p : Prop} :
    ((flattenYamlNode reader root).2 = false → p) ↔ Flattens reader root ∨ p := by
  rw [← flattens_completes]
  cases (flattenYamlNode reader root).2 <;> simp

end Flatten

/-- A load that fails leaves the tree and the values as they were if and only if the tree that it
installs can be flattened or is the one that was there, with the values that are read before the
flattening fails. -/
theorem failed_load_changes_nothing (reader : ScalarReader) (config : Config) :
    (∀ (parent : String) (file : ConfigFile),
      ((config.loadYaml reader parent file).2 = false →
        Config.Agrees (config.loadYaml reader parent file).1 config) ↔
      ∀ root, file.parsed?.bind (mergeYamlNodes (some config.root)) = some root →
        Flattens reader root ∨
          (root = config.root ∧ (flattenYamlNode reader root).1 = config.storage)) ∧
    ∀ parsed : Option Yaml,
      ((config.loadYamlString reader parsed).2 = false →
        Config.Agrees (config.loadYamlString reader parsed).1 config) ↔
      ∀ root, parsed.bind (mergeYamlNodes (some config.root)) = some root →
        Flattens reader root ∨
          (root = config.root ∧ (flattenYamlNode reader root).1 = config.storage) := by
  constructor
  · rintro parent (_ | _ | document)
    · simp [Config.loadYaml, ConfigFile.parsed?, Config.Agrees]
    · simp [Config.loadYaml, ConfigFile.parsed?, Config.Agrees]
    · rw [Config.loadYaml, ConfigFile.parsed?, Option.bind_some]
      cases mergeYamlNodes (some config.root) document with
      | none => simp [Config.Agrees]
      | some root => simp [failed_imp_iff, Config.Agrees]
  · rintro (_ | document)
    · simp [Config.loadYamlString, Config.Agrees]
    · rw [Config.loadYamlString, Config.load, Option.bind_some]
      cases mergeYamlNodes (some config.root) document with
      | none => simp [Config.Agrees]
      | some root => simp [failed_imp_iff, Config.Agrees]

def listKey : Yaml × Yaml := (.sequence [.scalar "?" "x"], .scalar "?" "2")

/-- The document that fails leaves its first value, and every later load fails with it. -/
theorem failed_load_installed :
    Config.has {} "a" = false ∧
    (Config.loadYamlString plainReader {} (some (.map [(.scalar "?" "a", .scalar "?" "1"), listKey]))).2 =
      false ∧
    (Config.loadYamlString plainReader {}
      (some (.map [(.scalar "?" "a", .scalar "?" "1"), listKey]))).1.getString (fun _ => "") "a" "" =
      "1" ∧
    (Config.loadYamlString plainReader {} (some (.map [(.scalar "?" "b", .scalar "?" "2")]))).2 = true ∧
    ((Config.loadYamlString plainReader {}
      (some (.map [(.scalar "?" "a", .scalar "?" "1"), listKey]))).1.loadYamlString plainReader
        (some (.map [(.scalar "?" "b", .scalar "?" "2")]))).2 = false :=
  ⟨rfl, rfl, rfl, rfl, rfl⟩

inductive ConfigOp where
  | loadYaml (parent : String) (file : ConfigFile)
  | loadYamlString (parsed : Option Yaml)
  | set (key : String) (value : StorageValue)
  | merge (other : Config)

def ConfigOp.isLoad : ConfigOp → Bool
  | .loadYaml _ _ | .loadYamlString _ => true
  | .set _ _ | .merge _ => false

/-- The tree that a load installs. -/
def ConfigOp.installed (tree : Yaml) : ConfigOp → Option Yaml
  | .loadYaml _ (.text parsed) | .loadYamlString parsed => parsed.bind (mergeYamlNodes (some tree))
  | _ => none

variable (reader : ScalarReader)

def applyOp (config : Config) : ConfigOp → Config
  | .loadYaml parent file => (config.loadYaml reader parent file).1
  | .loadYamlString parsed => (config.loadYamlString reader parsed).1
  | .set key value => config.set key value
  | .merge other => config.merge other

def applyOps (config : Config) (ops : List ConfigOp) : Config := ops.foldl (applyOp reader) config

lemma applyOp_installed (config : Config) {op : ConfigOp} {root : Yaml}
    (h : op.installed config.root = some root) :
    (applyOp reader config op).root = root ∧
      (applyOp reader config op).storage = (flattenYamlNode reader root).1 := by
  revert h
  fun_cases ConfigOp.installed config.root op with
  | case1 parent parsed | case2 parsed =>
    intro h
    obtain ⟨document, rfl, hmerge⟩ := Option.bind_eq_some_iff.mp h
    simp [applyOp, Config.loadYaml, Config.loadYamlString, Config.load, hmerge]
  | case3 => simp

lemma applyOp_rejected (config : Config) {op : ConfigOp} (h : op.installed config.root = none) :
    (applyOp reader config op).root = config.root ∧
      (op.isLoad = true → applyOp reader config op = config) := by
  cases op with
  | set | merge => exact ⟨rfl, nofun⟩
  | loadYaml parent file =>
    cases file with
    | missing => exact ⟨rfl, fun _ => rfl⟩
    | text parsed => cases parsed <;> simp_all [ConfigOp.installed, applyOp, Config.loadYaml]
  | loadYamlString parsed =>
    cases parsed <;> simp_all [ConfigOp.installed, applyOp, Config.loadYamlString, Config.load]

lemma root_applyOp (config other : Config) (h : other.root = config.root) (op : ConfigOp) :
    (applyOp reader other op).root = (applyOp reader config op).root := by
  cases hroot : op.installed config.root with
  | some =>
    rw [(applyOp_installed reader config hroot).1, (applyOp_installed reader other (h ▸ hroot)).1]
  | none =>
    rw [(applyOp_rejected reader config hroot).1, (applyOp_rejected reader other (h ▸ hroot)).1, h]

lemma root_applyOps_loads (config other : Config) (h : other.root = config.root)
    (ops : List ConfigOp) :
    (applyOps reader other (ops.filter ConfigOp.isLoad)).root =
      (applyOps reader config ops).root := by
  induction ops generalizing config other with
  | nil => exact h
  | cons op ops ih =>
    cases hop : op.isLoad with
    | true =>
      rw [List.filter_cons_of_pos hop]
      exact ih _ _ (root_applyOp reader config other h op)
    | false =>
      rw [List.filter_cons_of_neg (by simp [hop])]
      refine ih _ _ (h.trans ?_)
      cases op <;> first | rfl | cases hop

/-- After any operations, a load keeps the value of a key if and only if it installs no tree or the
documents give the key this value without any `set` and `merge`. -/
theorem setting_survives_load_iff (ops : List ConfigOp) (load : ConfigOp)
    (hload : load.isLoad = true) (key : String) (value : StorageValue)
    (hvalue : (applyOps reader {} ops).storage.lookup key = some value) :
    (applyOps reader {} (ops ++ [load])).storage.lookup key = some value ↔
      load.installed (applyOps reader {} ops).root = none ∨
      (applyOps reader {} (ops.filter ConfigOp.isLoad ++ [load])).storage.lookup key =
        some value := by
  have hroot := root_applyOps_loads reader {} {} rfl ops
  simp only [applyOps, List.foldl_append, List.foldl_cons, List.foldl_nil] at hvalue hroot ⊢
  cases hinstalled : load.installed (ops.foldl (applyOp reader) {}).root with
  | none =>
    rw [(applyOp_rejected reader _ hinstalled).2 hload]
    simp [hvalue]
  | some root =>
    rw [(applyOp_installed reader _ hinstalled).2,
      (applyOp_installed reader _ (hroot ▸ hinstalled)).2]
    simp

def oneEntry (key value : String) : Option Yaml := some (.map [(.scalar "?" key, .scalar "?" value)])

theorem setting_survives_load_documented :
    (applyOps plainReader {} ([.loadYamlString (oneEntry "k" "v"), .set "k" (.text "w"),
      .set "k" (.text "v")] ++ [.loadYamlString (oneEntry "b" "2")])).storage.lookup "k" =
        some (.text "v") :=
  (setting_survives_load_iff plainReader [.loadYamlString (oneEntry "k" "v"), .set "k" (.text "w"),
    .set "k" (.text "v")] (.loadYamlString (oneEntry "b" "2")) rfl "k" _ rfl).mpr (.inr rfl)

theorem setting_lost_by_load :
    (applyOps plainReader {} [.set "k" (.text "v")]).has "k" = true ∧
      (applyOps plainReader {} [.set "k" (.text "v"),
        .loadYamlString (oneEntry "b" "2")]).has "k" = false :=
  ⟨rfl, rfl⟩

end ShieldRuntime.Proofs
