import ShieldRuntime.Proofs.GatewayDelivery

/-!
# Authentication in route catalogs

A route of a catalog is open to everybody if its element says so. The first element
that is not stored ends the load.
-/

namespace ShieldRuntime.Proofs
open Library Transport Net Lua

variable {ch : Char} {state : AttrState} {key value : String} {route : RouteEntry}
  {routes table : RouteTable} {text : List Char} {options : XmldefCatalogOptions}

/-- The grammar of a tag, with the states of `parse_xml_attributes`: a name goes up to a blank, `=` or
`/`, and a quote or an equals sign in any other place ends the reading. -/
def declaredStep (state : AttrState) (ch : Char) : Option AttrState :=
  match state with
  | .skip =>
    if isBlank ch || ch == '/' then some .skip
    else if ch == '=' || isQuote ch then none
    else some (.key [ch])
  | .key name =>
    if isBlank ch then some (.afterKey name)
    else if ch == '=' then some (.afterEquals name)
    else if ch == '/' then some .skip
    else if isQuote ch then none
    else some (.key (name ++ [ch]))
  | .afterKey name =>
    if isBlank ch then some (.afterKey name)
    else if ch == '=' then some (.afterEquals name)
    else if ch == '/' then some .skip
    else if isQuote ch then none
    else some (.key [ch])
  | .afterEquals name =>
    if isBlank ch then some (.afterEquals name)
    else if isQuote ch then some (.value name ch [])
    else none
  | .value name quote text =>
    some (if ch = quote then .skip else .value name quote (text ++ [ch]))

def declaredFrom : AttrState → List Char → List (String × String)
  | _, [] => []
  | state, ch :: rest =>
    state.emitted ch ++
      match declaredStep state ch with
      | some next => declaredFrom next rest
      | none => []

variable (element : List Char)

/-- The attributes that the markup of an element declares. -/
def declaredAttributes : List (String × String) :=
  declaredFrom .skip element

lemma declaredFrom_append {attr : String × String} (h : attr ∈ declaredFrom state text)
    (rest : List Char) : attr ∈ declaredFrom state (text ++ rest) := by
  induction text generalizing state with
  | nil => cases h
  | cons ch text ih =>
    rcases List.mem_append.mp h with hmem | hmem
    · exact List.mem_append_left _ hmem
    refine List.mem_append_right _ ?_
    cases hstep : declaredStep state ch with
    | none =>
      rw [hstep] at hmem
      cases hmem
    | some =>
      rw [hstep] at hmem
      exact ih hmem

section Loading

variable {attrs : List (String × String)}

lemma find_loadElements (options : XmldefCatalogOptions) (elements : List (List Char))
    {id : UInt32} (h : routes.find id = some route) :
    (loadElements options routes elements).1.find id = some route := by
  fun_induction loadElements options routes elements with
  | case1 | case2 => exact h
  | case3 routes element rest entry hentry next hadd ih =>
    apply ih
    obtain ⟨hfree, hfind⟩ := RouteTable.find_add hadd
    rw [hfind, if_neg, h]
    rintro rfl
    rw [hfree] at h
    cases h
  | case4 routes element rest entry hentry next hadd => rwa [RouteTable.add_false hadd]

lemma loadElements_ok {elements : List (List Char)}
    (h : loadElements options routes elements = (table, none)) :
    (∀ element ∈ elements, ∃ route, xmldefEntry options (parseXmlAttributes element) = .ok route ∧
      table.find route.routeId = some route) ∧
    ∀ id route, table.find id = some route → routes.find id = some route ∨
      ∃ element ∈ elements, xmldefEntry options (parseXmlAttributes element) = .ok route := by
  induction elements generalizing routes with
  | nil =>
    cases h
    refine ⟨?_, fun _ _ hfind => .inl hfind⟩
    intro element hmem
    cases hmem
  | cons element elements ih =>
    obtain ⟨entry, next, hentry, hadd, hrest⟩ := loadElements_cons_ok h
    have hfind := (RouteTable.find_add hadd).2
    obtain ⟨helements, horigin⟩ := ih hrest
    constructor
    · intro other hmem
      rcases List.mem_cons.mp hmem with rfl | hmem
      · have hstored := find_loadElements options elements ((hfind _).trans (if_pos rfl))
        rw [hrest] at hstored
        exact ⟨entry, hentry, hstored⟩
      · exact helements other hmem
    · intro id route hroute
      rcases horigin id route hroute with hnext | ⟨other, hmem, hother⟩
      · rw [hfind] at hnext
        split at hnext
        · cases hnext
          exact .inr ⟨element, List.mem_cons_self, hentry⟩
        · exact .inl hnext
      · exact .inr ⟨other, List.mem_cons_of_mem _ hmem, hother⟩

end Loading

/-- The element declares `requires_auth` with a false spelling, also if a quoted `>` has cut it
short. -/
def DisablesAuth : Prop :=
  ∃ value, parseBool value = some false ∧
    ∀ rest, ("requires_auth", value) ∈ declaredAttributes (element ++ rest)

/-- `parse_xml_attributes` finds no `requires_auth`, or one of the two texts that stand for true, or
there is a false spelling in the markup. -/
def AuthSpelledOut : Prop :=
  (findAttr (parseXmlAttributes element) "requires_auth" ∈ [none, some "true", some "1"]) ∨
    ∃ attr ∈ declaredAttributes element, attr.1 = "requires_auth" ∧ parseBool attr.2 = some false

instance (element : List Char) : Decidable (AuthSpelledOut element) :=
  inferInstanceAs (Decidable (_ ∨ _))

lemma disablesAuth_iff : DisablesAuth element ↔
    ∃ attr ∈ declaredAttributes element, attr.1 = "requires_auth" ∧ parseBool attr.2 = some false := by
  constructor
  · rintro ⟨value, hvalue, hrest⟩
    have hmem := hrest []
    rw [List.append_nil] at hmem
    exact ⟨("requires_auth", value), hmem, rfl, hvalue⟩
  · rintro ⟨⟨key, value⟩, hmem, rfl, hvalue⟩
    exact ⟨value, hvalue, declaredFrom_append hmem⟩

lemma open_disables_iff :
    (xmldefRequiresAuth (parseXmlAttributes element) = false → DisablesAuth element) ↔
      AuthSpelledOut element := by
  rw [disablesAuth_iff, AuthSpelledOut, xmldefRequiresAuth]
  cases findAttr (parseXmlAttributes element) "requires_auth" with
  | none => simp
  | some value =>
    have hopen : (value == "true" || value == "1") = false ↔
        some value ∉ [none, some "true", some "1"] := by simp
    rw [hopen]
    exact or_iff_not_imp_left.symm

def catalogSession (xml : String) : TcpSession where
  pipeline := .create
    { envelopeKind := .idLen, envelope := { routeIdBytes := 1, lengthBytes := 1 },
      routeSource := .header }
    (loadXmldefRoutesFromString xml {} {}).1
    ((∅ : AList fun _ : UInt16 => BodyCodec).insert 0 .raw)

def guestAdmissions (xml : String) : List Admission :=
  LuaGatewayBridge.admissions ⟨"auth"⟩ (fun _ => { targetService := "auth" })
    (TcpSession.received unusedLibrary (catalogSession xml) [[7, 1, 0xAA]])

def pingCatalog : String := "<message id=\"7\" name=\"ping\" requires_auth=\" no \"/>"

def yesCatalog : String := "<message id=\"7\" name=\"ping\" requires_auth=\"yes\"/>"

def noteCatalog : String := "<message id=\"7\" not\xe9=\" requires_auth='no' \"/>"

/-- The first element of a catalog can be read and stored. -/
def firstStored (options : XmldefCatalogOptions) (routes : RouteTable) (xml : String) : Bool :=
  match xmldefElements xml with
  | [] => false
  | element :: _ =>
    match xmldefEntry options (parseXmlAttributes element) with
    | .ok entry => (routes.add entry).1
    | .error _ => false

/-- After any load, the table is the one before it if and only if no element was stored. -/
lemma load_kept_iff (xml : String) (routes : RouteTable) (options : XmldefCatalogOptions) :
    (loadXmldefRoutesFromString xml routes options).1 = routes ↔
      firstStored options routes xml = false := by
  have hfst : (loadXmldefRoutesFromString xml routes options).1 =
      (loadElements options routes (xmldefElements xml)).1 := by
    unfold loadXmldefRoutesFromString
    split <;> rename_i h <;> rw [h]
  rw [hfst, firstStored]
  cases xmldefElements xml with
  | nil => simp [loadElements]
  | cons element rest =>
    simp only [loadElements]
    cases xmldefEntry options (parseXmlAttributes element) with
    | error => simp
    | ok entry =>
      cases hadd : routes.add entry with
      | mk inserted next =>
        cases inserted with
        | false => simpa [hadd] using RouteTable.add_false hadd
        | true =>
          simp only [hadd, Bool.true_eq_false, iff_false]
          obtain ⟨hfree, hfind⟩ := RouteTable.find_add hadd
          intro hkept
          have hstored : next.find entry.routeId = some entry := by rw [hfind, if_pos rfl]
          have hlast := find_loadElements options rest hstored
          rw [hkept, hfree] at hlast
          cases hlast

/-- A rejected catalog leaves the table as it was if and only if its first element is not stored. -/
theorem rejected_catalog_kept_iff (xml : String) (routes table : RouteTable)
    (options : XmldefCatalogOptions) (error : String)
    (h : loadXmldefRoutesFromString xml routes options = (table, some error)) :
    table = routes ↔ firstStored options routes xml = false := by
  rw [← load_kept_iff, h]

def halfCatalog : String := "<message id='1' name='a'/><message name='b'/>"

theorem rejected_catalog_kept_half :
    ∃ table, loadXmldefRoutesFromString halfCatalog {} {} =
        (table, some "xmldef message/route is missing id") ∧
      (table = {} ↔ firstStored {} {} halfCatalog = false) :=
  ⟨_, rfl, rejected_catalog_kept_iff halfCatalog {} _ {} _ rfl⟩

/-- The first route of a catalog stays in the table when the second one is rejected. -/
theorem rejected_catalog_stores_route :
    (loadXmldefRoutesFromString halfCatalog {} {}).2 =
        some "xmldef message/route is missing id" ∧
      ((loadXmldefRoutesFromString halfCatalog {} {}).1.find 1).map RouteEntry.debugName =
        some "a" := by
  decide

end ShieldRuntime.Proofs
