import ShieldRuntime.Library.Fallible
import ShieldRuntime.Library.Machine
import ShieldRuntime.Proofs.JsonRoundTrip

/-!
# Names and numbers of routes

An entry is found by its name as long as no `upsert` takes the name of another entry. A number in a
body, in a message or in the list of routes is cast to 32 bits before it is looked up.
-/

namespace ShieldRuntime.Proofs
open Library Transport

section

variable {entry : RouteEntry} {codec : BodyCodec} {table : RouteTable}

def RoutesNamed (table : RouteTable) : Prop :=
  Findable RouteEntry.debugName "" table.find table.nameIndex

lemma routesNamed_empty : RoutesNamed {} :=
  ⟨RouteTable.indexed {}, fun _ _ hfind => nomatch hfind⟩

lemma routesNamed_upsert (h : RoutesNamed table)
    (hfree : entry.debugName = "" ∨ ∀ id route, id ≠ entry.routeId →
      table.find id = some route → route.debugName ≠ entry.debugName) :
    RoutesNamed (table.upsert entry) := by
  have hfind : (table.upsert entry).find =
      Function.update table.find entry.routeId (some entry) :=
    lookup_insert_eq_update table.routes entry.routeId entry
  have hindex : (table.upsert entry).nameIndex = indexKey ""
      (releaseKey RouteEntry.debugName table.find table.nameIndex entry.routeId) entry.routeId
      entry.debugName := by
    rw [← RouteTable.lookup_releaseName]
    exact RouteTable.lookup_insertName ..
  rw [RoutesNamed, hfind, hindex]
  exact h.write hfree

-- `add` inserts as `upsert` does, but only under a free id and with a free name.
lemma routesNamed_add (h : RoutesNamed table) (entry : RouteEntry) :
    RoutesNamed (table.add entry).2 := by
  unfold RouteTable.add
  split
  · exact h
  rename_i hname
  split
  · rename_i hfresh
    have hupsert : RoutesNamed (table.upsert entry) := by
      apply routesNamed_upsert h
      by_cases hempty : entry.debugName = ""
      · exact Or.inl hempty
      refine Or.inr fun id route _ hroute hsame => hname ⟨hempty, ?_⟩
      have hleads := h.leads id route hroute (hsame ▸ hempty)
      rw [hsame] at hleads
      exact Option.isSome_iff_exists.mpr ⟨id, hleads⟩
    simpa only [RouteTable.upsert, RouteTable.releaseName, hfresh] using hupsert
  · exact h

inductive RouteOp where
  | add (entry : RouteEntry)
  | upsert (entry : RouteEntry)
  | clear

def routeStep (table : RouteTable) : RouteOp → Option RouteTable
  | .add entry => some (table.add entry).2
  | .upsert entry => some (table.upsert entry)
  | .clear => some table.clear

/-- An `upsert` does not take a name that another route has. -/
def TakesNoRouteName (table : RouteTable) : RouteOp → Prop
  | .upsert entry => entry.debugName = "" ∨ ∀ id route, id ≠ entry.routeId →
      table.find id = some route → route.debugName ≠ entry.debugName
  | _ => True

lemma routesNamed_step (table : RouteTable) (op : RouteOp) (next : RouteTable)
    (h : RoutesNamed table) (hop : TakesNoRouteName table op)
    (hstep : routeStep table op = some next) : RoutesNamed next := by
  cases op with
  | add entry =>
    cases hstep
    exact routesNamed_add h entry
  | upsert =>
    cases hstep
    exact routesNamed_upsert h hop
  | clear =>
    cases hstep
    exact routesNamed_empty

section Codecs

def CodecsNamed (registry : BodyCodecRegistry) : Prop :=
  Findable BodyCodec.name "" registry.find fun name => registry.codecNames.lookup name

lemma codecsNamed_empty : CodecsNamed {} :=
  ⟨BodyCodecRegistry.name_indexed {}, fun _ _ hfind => nomatch hfind⟩

variable {registry : BodyCodecRegistry}

lemma codecsNamed_upsert (h : CodecsNamed registry) {codecId : UInt16}
    (hfree : codec.name = "" ∨ ∀ id other, id ≠ codecId → registry.find id = some other →
      other.name ≠ codec.name) : CodecsNamed (registry.upsert codecId (some codec)) := by
  have hfind : (registry.upsert codecId (some codec)).find =
      Function.update registry.find codecId (some codec) :=
    lookup_insert_eq_update registry.codecs codecId codec
  have hindex : (fun name => (registry.upsert codecId (some codec)).codecNames.lookup name) =
      indexKey "" (releaseKey BodyCodec.name registry.find
        (fun name => registry.codecNames.lookup name) codecId) codecId codec.name := by
    rw [← BodyCodecRegistry.lookup_releaseName]
    exact BodyCodecRegistry.lookup_insertName ..
  rw [CodecsNamed, hfind, hindex]
  exact h.write hfree

inductive CodecOp where
  | add (codecId : UInt16) (codec : Option BodyCodec)
  | upsert (codecId : UInt16) (codec : Option BodyCodec)
  | clear

def codecStep (registry : BodyCodecRegistry) : CodecOp → Option BodyCodecRegistry
  | .add codecId codec => some (registry.add codecId codec).2
  | .upsert codecId codec => some (registry.upsert codecId codec)
  | .clear => some registry.clear

/-- An `upsert` does not take a name that another codec has. -/
def TakesNoCodecName (registry : BodyCodecRegistry) : CodecOp → Prop
  | .upsert codecId (some codec) => codec.name = "" ∨ ∀ id other, id ≠ codecId →
      registry.find id = some other → other.name ≠ codec.name
  | _ => True

lemma codecsNamed_add (h : CodecsNamed registry) (codecId : UInt16) (codec : Option BodyCodec) :
    CodecsNamed (registry.add codecId codec).2 := by
  cases codec with
  | none => exact h
  | some codec =>
    simp only [BodyCodecRegistry.add]
    split
    · rename_i hfresh
      split
      · exact h
      rename_i hname
      have hupsert : CodecsNamed (registry.upsert codecId (some codec)) := by
        apply codecsNamed_upsert h
        by_cases hempty : codec.name = ""
        · exact Or.inl hempty
        refine Or.inr fun id other _ hother hsame => hname ⟨hempty, ?_⟩
        have hleads := h.leads id other hother (hsame ▸ hempty)
        rw [hsame] at hleads
        exact Option.isSome_iff_exists.mpr ⟨id, hleads⟩
      simpa only [BodyCodecRegistry.upsert, BodyCodecRegistry.releaseName, hfresh] using hupsert
    · exact h

lemma codecsNamed_step (registry : BodyCodecRegistry) (op : CodecOp) (next : BodyCodecRegistry)
    (h : CodecsNamed registry) (hop : TakesNoCodecName registry op)
    (hstep : codecStep registry op = some next) : CodecsNamed next := by
  cases op with
  | add codecId codec =>
    cases hstep
    exact codecsNamed_add h codecId codec
  | upsert codecId codec =>
    cases hstep
    cases codec with
    | none => exact h
    | some => exact codecsNamed_upsert h hop
  | clear =>
    cases hstep
    exact codecsNamed_empty

end Codecs

/-- After any calls none of which takes a name from another entry, a lookup by name finds exactly
the entries that have the name. -/
theorem name_indexes_exact (routeOps : List RouteOp) (codecOps : List CodecOp) :
    (∀ table, Admits routeStep TakesNoRouteName {} routeOps →
      run routeStep {} routeOps = some table →
      NamesExact RouteEntry.debugName "" table.find table.findByName) ∧
      ∀ registry, Admits codecStep TakesNoCodecName {} codecOps →
        run codecStep {} codecOps = some registry →
        NamesExact BodyCodec.name "" registry.find registry.findByName := by
  constructor
  · intro table hgood hrun
    exact (run_invariant routeStep routesNamed_step routesNamed_empty hgood hrun).exact
  · intro registry hgood hrun
    exact (run_invariant codecStep codecsNamed_step codecsNamed_empty hgood hrun).exact

theorem name_indexes_exact_renamed :
    let ops : List RouteOp := [.upsert { routeId := 1, debugName := "a" },
      .add { routeId := 2, debugName := "b" }, .clear, .upsert { routeId := 2, debugName := "a" }]
    ∃ table, run routeStep {} ops = some table ∧
      NamesExact RouteEntry.debugName "" table.find table.findByName := by
  refine ⟨_, rfl, (name_indexes_exact [.upsert { routeId := 1, debugName := "a" },
    .add { routeId := 2, debugName := "b" }, .clear, .upsert { routeId := 2, debugName := "a" }]
    []).1 _ ?_ rfl⟩
  simp only [Admits, routeStep, TakesNoRouteName, Option.mem_some_iff, forall_eq', and_true,
    true_and]
  exact ⟨Or.inr (by simp [RouteTable.find]), Or.inr (by simp [RouteTable.find, RouteTable.clear])⟩

/-- The first entry keeps the name that the second one took and gave up. -/
theorem name_index_loses_entry :
    (∃ table : RouteTable, run routeStep {} [.upsert { routeId := 1, debugName := "a" },
        .upsert { routeId := 2, debugName := "a" }, .upsert { routeId := 2, debugName := "b" }] =
          some table ∧
        table.find 1 = some { routeId := 1, debugName := "a" } ∧ table.findByName "a" = none) ∧
      ∃ registry : BodyCodecRegistry, run codecStep {} [.upsert 1 (some (.passthrough "a")),
          .upsert 2 (some (.passthrough "a")), .upsert 2 (some (.passthrough "b"))] =
            some registry ∧
        registry.find 1 = some (.passthrough "a") ∧ registry.findByName "a" = none :=
  ⟨⟨_, rfl, by decide, by decide⟩, _, rfl, by rfl, by rfl⟩

section Built

/-- Each route has its own name, and none the id zero. -/
structure Unambiguous (table : RouteTable) : Prop where
  named : RoutesNamed table
  nonzero : ∀ id route, table.find id = some route → route.routeId ≠ 0

lemma unambiguous_empty : Unambiguous {} := ⟨routesNamed_empty, fun _ _ hfind => nomatch hfind⟩

variable {next routes : RouteTable} {options : XmldefCatalogOptions} {truncate : UInt64 → Int}

lemma unambiguous_of_find (h : Unambiguous table) (hnamed : RoutesNamed next)
    (hid : entry.routeId ≠ 0)
    (hfind : ∀ id, next.find id = if id = entry.routeId then some entry else table.find id) :
    Unambiguous next := by
  refine ⟨hnamed, ?_⟩
  intro id route hroute
  rw [hfind] at hroute
  split at hroute
  · cases hroute
    exact hid
  · exact h.nonzero id route hroute

lemma routeId_of_xmldefEntry {attrs : List (String × String)}
    (h : xmldefEntry options attrs = .ok entry) : entry.routeId ≠ 0 := by
  have hid := (xmldefEntry_ok h).1
  unfold xmldefRouteId at hid
  split at hid
  · cases hid
  split at hid
  · split at hid
    · cases hid
    rename_i hne
    exact Except.ok.inj hid ▸ hne
  · cases hid

lemma unambiguous_loadElements {elements : List (List Char)} (h : Unambiguous routes)
    (hload : loadElements options routes elements = (table, none)) : Unambiguous table := by
  induction elements generalizing routes with
  | nil =>
    cases hload
    exact h
  | cons element elements ih =>
    obtain ⟨entry, next, hentry, hadd, hload⟩ := loadElements_cons_ok hload
    have hnamed := routesNamed_add h.named entry
    rw [hadd] at hnamed
    exact ih (unambiguous_of_find h hnamed (routeId_of_xmldefEntry hentry)
      (RouteTable.find_add hadd).2) hload

lemma unambiguous_catalog {options : ProtocolBuildOptions} {body routing : Json}
    (h : buildCatalogRoutes options codec body routing = .ok routes) : Unambiguous routes := by
  unfold buildCatalogRoutes at h
  split at h
  · cases h
    exact unambiguous_empty
  obtain ⟨action, -, h⟩ := ok_of_bind_ok h
  obtain ⟨lazyDecode, -, h⟩ := ok_of_bind_ok h
  split at h
  · cases h
  rename_i table hload
  cases h
  unfold loadXmldefRoutesFromFile at hload
  split at hload
  · cases hload
  unfold loadXmldefRoutesFromString at hload
  split at hload
  · cases hload
  rename_i loaded helements
  obtain ⟨rfl, -⟩ := Prod.mk.inj hload
  exact unambiguous_loadElements unambiguous_empty helements

lemma unambiguous_insertRoute (h : Unambiguous routes)
    (hinsert : insertRoute routes entry = .ok next) : Unambiguous next := by
  unfold insertRoute at hinsert
  split at hinsert
  · cases hinsert
  rename_i hid
  split at hinsert
  · cases hinsert
  rename_i hname
  cases hinsert
  apply unambiguous_of_find h _ hid (RouteTable.find_upsert routes entry)
  apply routesNamed_upsert h.named
  by_cases hempty : entry.debugName = ""
  · exact Or.inl hempty
  refine Or.inr fun id route hne hroute hsame => hname ⟨hempty, ?_⟩
  have hleads := h.named.leads id route hroute (hsame ▸ hempty)
  have hfound : routes.findByName entry.debugName = some route := by
    rw [← hsame]
    exact Option.bind_eq_some_iff.mpr ⟨id, hleads, hroute⟩
  rw [hfound, Option.any_some, bne_iff_ne, RouteTable.routeId_of_find hroute]
  exact hne

lemma unambiguous_buildRoutes {items : List Json} (h : Unambiguous routes)
    (hbuild : buildRoutes truncate routes items = .ok table) : Unambiguous table := by
  induction items generalizing routes with
  | nil =>
    cases hbuild
    exact h
  | cons item items ih =>
    rw [buildRoutes] at hbuild
    split at hbuild
    · obtain ⟨entry, -, hbuild⟩ := ok_of_bind_ok hbuild
      obtain ⟨next, hnext, hbuild⟩ := ok_of_bind_ok hbuild
      exact ih (unambiguous_insertRoute h hnext) hbuild
    · exact ih h hbuild

lemma routes_of_buildPipeline {options : ProtocolBuildOptions} {config : Json}
    {pipeline : ProtocolPipeline} (h : buildPipeline truncate options config = .ok pipeline) :
    ∃ routes, Unambiguous routes ∧
      buildRoutes truncate routes (routeItems config) = .ok pipeline.routes := by
  obtain ⟨name, -, h⟩ := ok_of_bind_ok h
  obtain ⟨envelope, -, h⟩ := ok_of_bind_ok h
  obtain ⟨codec, -, h⟩ := ok_of_bind_ok h
  obtain ⟨profile, -, h⟩ := ok_of_bind_ok h
  obtain ⟨routes, hcatalog, h⟩ := ok_of_bind_ok h
  obtain ⟨table, htable, h⟩ := ok_of_bind_ok h
  cases h
  exact ⟨routes, unambiguous_catalog hcatalog, htable⟩

/-- The table of a pipeline that was built: no route has the id zero, no two routes share a name,
and every route is what its id and its name lead to. -/
theorem built_routes_unambiguous (truncate : UInt64 → Int) (lib : JsonLibrary)
    (options : ProtocolBuildOptions) (configJson : List UInt8) (pipeline : ProtocolPipeline)
    (h : buildProtocolPipelineFromJson truncate lib options configJson = .ok pipeline) :
    (∀ id route, pipeline.routes.find id = some route → route.routeId ≠ 0) ∧
      (∀ id id' route route', pipeline.routes.find id = some route →
        pipeline.routes.find id' = some route' → route.debugName ≠ "" →
        route.debugName = route'.debugName → route = route') ∧
      ∀ id route, pipeline.routes.find id = some route →
        pipeline.routes.find route.routeId = some route ∧
          (route.debugName ≠ "" → pipeline.routes.findByName route.debugName = some route) := by
  unfold buildProtocolPipelineFromJson at h
  split at h
  swap
  · cases h
  obtain ⟨routes, hroutes, hbuild⟩ : ∃ routes, Unambiguous routes ∧
      buildRoutes truncate routes (routeItems _) = .ok pipeline.routes := by
    rename_i field fields _
    cases hb : buildPipeline truncate options (.object (field :: fields)) with
    | error =>
      rw [hb] at h
      cases h
    | ok =>
      rw [hb] at h
      cases h
      exact routes_of_buildPipeline hb
  have htable := unambiguous_buildRoutes hroutes hbuild
  have hbyName : ∀ id route, pipeline.routes.find id = some route → route.debugName ≠ "" →
      pipeline.routes.findByName route.debugName = some route := by
    intro id route hroute hname
    exact Option.bind_eq_some_iff.mpr ⟨id, htable.named.leads id route hroute hname, hroute⟩
  refine ⟨htable.nonzero, ?_, ?_⟩
  · intro id id' route route' hroute hroute' hname hsame
    have hfirst := hbyName id route hroute hname
    rw [hsame, hbyName id' route' hroute' (hsame ▸ hname)] at hfirst
    exact (Option.some.inj hfirst).symm
  · intro id route hroute
    rw [RouteTable.routeId_of_find hroute]
    exact ⟨hroute, hbyName id route hroute⟩

def renamedRoutes : Json :=
  .object [("routes", .array [.object [("id", .unsigned 1), ("name", .string "a")],
    .object [("id", .unsigned 1), ("name", .string "b")],
    .object [("id", .unsigned 2), ("name", .string "a")]])]

def renamedText : List UInt8 :=
  bytesOf ("\x7b\"routes\":[\x7b\"id\":1,\"name\":\"a\"\x7d," ++
    "\x7b\"id\":1,\"name\":\"b\"\x7d,\x7b\"id\":2,\"name\":\"a\"\x7d]\x7d")

theorem built_routes_unambiguous_renamed :
    ∃ pipeline, buildProtocolPipelineFromJson (fun _ => 0)
        (textLibrary [(renamedText, renamedRoutes)]) {} renamedText = .ok pipeline ∧
      pipeline.routes.findByName "a" = some { routeId := 2, codecId := 1, debugName := "a" } :=
  ⟨_, rfl, ((built_routes_unambiguous (fun _ => 0) (textLibrary [(renamedText, renamedRoutes)]) {}
    renamedText _ rfl).2.2 2 { routeId := 2, codecId := 1, debugName := "a" } (by decide)).2 (by decide)⟩

end Built

end

def writtenNumber (value : Json) (key : String) : Option Nat :=
  match value.field? key with
  | some (.unsigned n) => some n
  | _ => none

/-- The route number that a body names. -/
def bodyNumber (value : Json) : Option Nat :=
  (writtenNumber value "route_id").or (writtenNumber value "msg_id")

def hintNumber (pipeline : ProtocolPipeline) (message : Json) : Option Nat :=
  let found (n : Nat) : Bool := (pipeline.routes.find (UInt32.ofNat n)).isSome
  ((writtenNumber message "route_id").filter found).or
    ((writtenNumber message "msg_id").filter found)

def writtenInteger : Json → Option Int
  | .integer i => some i
  | .unsigned n => some n
  | _ => none

lemma unsignedField_eq (value : Json) (key : String) :
    value.unsignedField? key = (writtenNumber value key).map UInt32.ofNat := by
  unfold Json.unsignedField? writtenNumber
  cases value.field? key with
  | none => rfl
  | some member => cases member <;> rfl

lemma ofNat_toNat_iff (n : Nat) : (UInt32.ofNat n).toNat = n ↔ n < 2 ^ 32 := by
  rw [UInt32.toNat_ofNat']
  omega

/-- The body decides about the route. -/
structure BodyRouted (lib : JsonLibrary) (pipeline : ProtocolPipeline) (packet : Packet)
    (value : Json) : Prop where
  unrouted : packet.routeId = 0 ∨ pipeline.routes.find packet.routeId = none
  source : pipeline.profile.routeSource = .body
  decodes : pipeline.profile.decodeBodyRoute = true
  codec : pipeline.codecs.lookup pipeline.profile.defaultCodecId = some .json
  parsed : lib.parse packet.body = .ok value

/-- The message decides about the route. -/
structure MessageRouted (pipeline : ProtocolPipeline) (body : DecodedBody) (message : Json) :
    Prop where
  noId : body.routeId = 0 ∨ pipeline.routes.find body.routeId = none
  noName : body.routeName = "" ∨ pipeline.routes.findByName body.routeName = none
  message_eq : body.message = some message

variable {value : Json} {n : Nat} {pipeline : ProtocolPipeline}

lemma isObject_of_written {key : String} (h : writtenNumber value key = some n) :
    value.isObject = true := by
  cases value with
  | object => rfl
  | _ => cases h

lemma structuredRouteKey_number (hn : bodyNumber value = some n) (hcast : UInt32.ofNat n ≠ 0) :
    ∃ key, structuredRouteKey value = some key ∧ key.routeId = UInt32.ofNat n := by
  unfold structuredRouteKey
  simp only [unsignedField_eq]
  rcases Option.or_eq_some_iff.mp hn with h | ⟨hnone, h⟩
  · simp [isObject_of_written h, h, BodyRouteKey.empty, hcast]
  · simp [isObject_of_written h, hnone, h, BodyRouteKey.empty, hcast]

lemma resolveRoute_number {lib : JsonLibrary} {packet : Packet}
    (h : BodyRouted lib pipeline packet value) (hn : bodyNumber value = some n)
    (hcast : UInt32.ofNat n ≠ 0) :
    pipeline.resolveRoute lib packet = ({ packet with routeId := UInt32.ofNat n },
      pipeline.routes.find (UInt32.ofNat n), "") := by
  have hheader : (if packet.routeId ≠ 0 then pipeline.routes.find packet.routeId else none) =
      none := by
    rcases h.unrouted with hzero | hnone
    · rw [if_neg (not_not.mpr hzero)]
    · rw [hnone, ite_self]
  obtain ⟨key, hkey, hid⟩ := structuredRouteKey_number hn hcast
  have hnonempty : key.empty = false := by simp [BodyRouteKey.empty, hid, hcast]
  have hsource : ¬(pipeline.profile.routeSource ≠ .body ∨
      (!pipeline.profile.decodeBodyRoute) = true) := by simp [h.source, h.decodes]
  simp only [ProtocolPipeline.resolveRoute, hheader, if_neg hsource, h.codec, BodyCodec.routeKey,
    h.parsed, hkey, hnonempty, Bool.false_eq_true, ite_false, ProtocolPipeline.routeOfKey, hid,
    if_pos hcast]

lemma resolveOutboundRoute_hint {body : DecodedBody} {message : Json}
    (h : MessageRouted pipeline body message) (hn : hintNumber pipeline message = some n) :
    ∃ route sent, pipeline.resolveOutboundRoute body = some (route, sent) ∧
      pipeline.routes.find (UInt32.ofNat n) = some route := by
  have hid : (if body.routeId ≠ 0 then pipeline.chosenById body body.routeId else none) = none := by
    rcases h.noId with hzero | hnone
    · rw [if_neg (not_not.mpr hzero)]
    · rw [ProtocolPipeline.chosenById, hnone, Option.map_none, ite_self]
  have hname : (if body.routeName ≠ "" then pipeline.chosenByName body body.routeName
      else none) = none := by
    rcases h.noName with hempty | hnone
    · rw [if_neg (not_not.mpr hempty)]
    · rw [ProtocolPipeline.chosenByName, hnone, Option.map_none, ite_self]
  -- A number that finds no route is passed over.
  have hpassed : ∀ key, (writtenNumber message key).filter (fun n =>
        (pipeline.routes.find (UInt32.ofNat n)).isSome) = none →
      (message.unsignedField? key).bind (pipeline.chosenById body) = none := by
    intro key hnone
    rw [unsignedField_eq]
    cases hw : writtenNumber message key with
    | none => rfl
    | some m =>
      rw [hw, Option.filter_some] at hnone
      have hfind : pipeline.routes.find (UInt32.ofNat m) = none := by simpa using hnone
      rw [Option.map_some, Option.bind_some, ProtocolPipeline.chosenById, hfind, Option.map_none]
  have htaken : ∀ key, (writtenNumber message key).filter (fun n =>
        (pipeline.routes.find (UInt32.ofNat n)).isSome) = some n →
      ∃ route sent, (message.unsignedField? key).bind (pipeline.chosenById body) =
        some (route, sent) ∧ pipeline.routes.find (UInt32.ofNat n) = some route := by
    intro key hsome
    obtain ⟨hw, hfound⟩ := Option.filter_eq_some_iff.mp hsome
    obtain ⟨route, hroute⟩ := Option.isSome_iff_exists.mp hfound
    rw [unsignedField_eq, hw, Option.map_some, Option.bind_some, ProtocolPipeline.chosenById, hroute]
    exact ⟨route, _, rfl, rfl⟩
  rw [ProtocolPipeline.resolveOutboundRoute, hid, hname, Option.none_or, Option.none_or,
    h.message_eq, Option.bind_some, ProtocolPipeline.chosenByMessage]
  rcases Option.or_eq_some_iff.mp hn with hfirst | ⟨hnone, hsecond⟩
  · obtain ⟨route, sent, htake, hroute⟩ := htaken "route_id" hfirst
    rw [htake]
    exact ⟨route, sent, rfl, hroute⟩
  · obtain ⟨route, sent, htake, hroute⟩ := htaken "msg_id" hsecond
    rw [hpassed "route_id" hnone, htake]
    exact ⟨route, sent, rfl, hroute⟩

lemma routeId_of_buildRoute {truncate : UInt64 → Int} {route member : Json} {entry : RouteEntry}
    (h : buildRoute truncate route = .ok entry) (hmember : route.field? "id" = some member) :
    ∃ i, Json.getInteger truncate true member = .ok i ∧
      entry.routeId = UInt32.ofNat (i % 2 ^ 32).toNat := by
  obtain ⟨routeId, hid, h⟩ := ok_of_bind_ok h
  obtain ⟨direction, -, h⟩ := ok_of_bind_ok h
  obtain ⟨requiresAuth, -, h⟩ := ok_of_bind_ok h
  obtain ⟨codecId, -, h⟩ := ok_of_bind_ok h
  obtain ⟨schemaId, -, h⟩ := ok_of_bind_ok h
  obtain ⟨debugName, -, h⟩ := ok_of_bind_ok h
  obtain ⟨lazyDecode, -, h⟩ := ok_of_bind_ok h
  obtain ⟨action, -, h⟩ := ok_of_bind_ok h
  cases h
  refine ⟨routeId, ?_, rfl⟩
  unfold Json.valueOr at hid
  split at hid
  · simp only [hmember] at hid
    cases hget : Json.getInteger truncate true member with
    | error =>
      rw [hget] at hid
      cases hid
    | ok =>
      rw [hget] at hid
      exact hid
  · cases hid

/-- Numbers select the routes they name. A number in a body, or one in a message, selects exactly if
it fits 32 bits or if the cast leaves nothing that selects a route; the id of a route in the list is
the one that is written exactly if an integer of 32 bits is written. -/
theorem route_numbers_exact_iff (lib : JsonLibrary) (pipeline : ProtocolPipeline)
    (truncate : UInt64 → Int) :
    (∀ packet value, BodyRouted lib pipeline packet value →
      ((∀ n routed route error, bodyNumber value = some n → UInt32.ofNat n ≠ 0 →
          pipeline.resolveRoute lib packet = (routed, some route, error) →
          route.routeId.toNat = n) ↔
        ∀ n, bodyNumber value = some n → UInt32.ofNat n = 0 ∨
          pipeline.routes.find (UInt32.ofNat n) = none ∨ n < 2 ^ 32)) ∧
    (∀ body message, MessageRouted pipeline body message →
      ((∀ n route sent, hintNumber pipeline message = some n →
          pipeline.resolveOutboundRoute body = some (route, sent) → route.routeId.toNat = n) ↔
        ∀ n, hintNumber pipeline message = some n → n < 2 ^ 32)) ∧
    ∀ route member entry, buildRoute truncate route = .ok entry →
      route.field? "id" = some member →
      (writtenInteger member = some (entry.routeId.toNat : Int) ↔
        ∃ i, writtenInteger member = some i ∧ 0 ≤ i ∧ i < 2 ^ 32) := by
  refine ⟨?_, ?_, ?_⟩
  · intro packet value h
    constructor
    · intro hexact n hn
      by_cases hcast : UInt32.ofNat n = 0
      · exact Or.inl hcast
      cases hroute : pipeline.routes.find (UInt32.ofNat n) with
      | none => exact Or.inr (Or.inl rfl)
      | some route =>
        have hresolved := resolveRoute_number h hn hcast
        rw [hroute] at hresolved
        have hid := hexact n _ route _ hn hcast hresolved
        rw [RouteTable.routeId_of_find hroute, ofNat_toNat_iff] at hid
        exact Or.inr (Or.inr hid)
    · intro hfits n routed route error hn hcast hresolve
      rw [resolveRoute_number h hn hcast] at hresolve
      have hroute := congrArg (·.2.1) hresolve
      rcases hfits n hn with hzero | hnone | hlt
      · exact (hcast hzero).elim
      · rw [hnone] at hroute
        cases hroute
      · rw [RouteTable.routeId_of_find hroute, ofNat_toNat_iff]
        exact hlt
  · intro body message h
    constructor
    · intro hexact n hn
      obtain ⟨route, sent, hresolve, hroute⟩ := resolveOutboundRoute_hint h hn
      have hid := hexact n route sent hn hresolve
      rwa [RouteTable.routeId_of_find hroute, ofNat_toNat_iff] at hid
    · intro hfits n route sent hn hresolve
      obtain ⟨found, sent', hfound, hroute⟩ := resolveOutboundRoute_hint h hn
      rw [hresolve] at hfound
      cases hfound
      rw [RouteTable.routeId_of_find hroute, ofNat_toNat_iff]
      exact hfits n hn
  · intro route member entry hbuild hmember
    obtain ⟨i, hget, hid⟩ := routeId_of_buildRoute hbuild hmember
    have hwritten : ∀ w, writtenInteger member = some w → w = i := by
      intro w hw
      cases member <;> cases hw <;> cases hget <;> rfl
    have hcast : (entry.routeId.toNat : Int) = i % 2 ^ 32 := by
      rw [hid, UInt32.toNat_ofNat']
      omega
    rw [hcast]
    constructor
    · intro hw
      exact ⟨_, hw, by omega, by omega⟩
    · rintro ⟨w, hw, hpos, hlt⟩
      rw [hw, ← hwritten w hw]
      exact congrArg some (by omega)

def sevenPipeline : ProtocolPipeline :=
  .create { defaultCodecId := 1 } (({} : RouteTable).upsert { routeId := 7 })
    (AList.singleton 1 .json)

theorem route_numbers_exact_seven : let value : Json := .object [("route_id", .unsigned 7)]
    let text := bytesOf "\x7b\"route_id\":7\x7d"
    ∀ routed route error,
      sevenPipeline.resolveRoute (textLibrary [(text, value)]) { body := text } =
        (routed, some route, error) →
      route.routeId.toNat = 7 := by
  intro value text routed route error hresolve
  have hrouted : BodyRouted (textLibrary [(text, value)]) sevenPipeline { body := text } value :=
    ⟨Or.inl rfl, rfl, rfl, rfl, rfl⟩
  apply ((route_numbers_exact_iff _ _ fun _ => 0).1 _ _ hrouted).mpr _ 7 routed route error rfl (by decide)
    hresolve
  intro n hn
  cases hn
  exact Or.inr (Or.inr (by decide))

/-- The number `2 ^ 32 + 7` selects route 7 at all three places. -/
theorem route_numbers_wrap : let value : Json := .object [("route_id", .unsigned (2 ^ 32 + 7))]
    let text := bytesOf "\x7b\"route_id\":4294967303\x7d"
    ((sevenPipeline.resolveRoute (textLibrary [(text, value)]) { body := text }).2.1 =
        some { routeId := 7 }) ∧
      ((sevenPipeline.resolveOutboundRoute { message := some value }).map Prod.fst =
        some { routeId := 7 }) ∧
      (buildRoute (fun _ => 0) (.object [("id", .unsigned (2 ^ 32 + 7))])).toOption.map
        RouteEntry.routeId = some 7 := by
  decide

end ShieldRuntime.Proofs
