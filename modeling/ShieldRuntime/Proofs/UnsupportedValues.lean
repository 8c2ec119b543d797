import ShieldRuntime.Proofs.SentinelText

/-!
# Lua values in a request and in a handler

`lua_to_json` fails exactly if a value that it reads has no JSON form. `shield.send` tells such an
argument by its placeholder in the text of the message. The synchronous dispatch gives the handler
the value of every JSON argument at its place.
-/

namespace ShieldRuntime.Proofs
open Transport Lua Library

section Lists

variable {α β γ : Type} {f : α → Option β} {xs : List α}

lemma mapM_eq_none_iff : xs.mapM f = none ↔ ∃ x ∈ xs, f x = none := by
  induction xs with
  | nil => simp
  | cons x xs ih =>
    rw [List.mapM_cons, List.exists_mem_cons_iff, ← ih]
    cases f x with
    | none => simp
    | some => cases xs.mapM f <;> simp

lemma lookup_map [BEq α] (f : β → γ) (key : α) (entries : List (α × β)) :
    (entries.map fun e => (e.1, f e.2)).lookup key = (entries.lookup key).map f := by
  induction entries with
  | nil => rfl
  | cons e entries ih =>
    obtain ⟨k, b⟩ := e
    simp only [List.map_cons, List.lookup_cons, ih]
    cases key == k <;> rfl

end Lists

section Induction

variable {motive : LuaValue → Prop}

mutual

/-- Induction over a value, with the values of a table at once. -/
@[elab_as_elim]
theorem value_induction (atom : ∀ v, (∀ entries, v ≠ .table entries) → motive v)
    (table : ∀ entries, (∀ e ∈ entries, motive e.2) → motive (.table entries)) :
    ∀ v : LuaValue, motive v
  | .table entries => table entries (entries_induction atom table entries)
  | .nil => atom .nil nofun
  | .boolean b => atom (.boolean b) nofun
  | .integer n => atom (.integer n) nofun
  | .float bits => atom (.float bits) nofun
  | .string s => atom (.string s) nofun
  | .function => atom .function nofun
  | .userdata => atom .userdata nofun
  | .thread => atom .thread nofun

theorem entries_induction (atom : ∀ v, (∀ entries, v ≠ .table entries) → motive v)
    (table : ∀ entries, (∀ e ∈ entries, motive e.2) → motive (.table entries)) :
    ∀ (entries : List (LuaKey × LuaValue)), ∀ e ∈ entries, motive e.2
  | [], _, h => (List.not_mem_nil h).elim
  | (_, v) :: rest, e, h => by
    rcases List.mem_cons.mp h with rfl | h
    · exact value_induction atom table v
    · exact entries_induction atom table rest e h

end

end Induction

/-- The value `v` is the given one or stands in it at some depth. -/
inductive Within (v : LuaValue) : LuaValue → Prop
  | here : Within v v
  | entry {entries e} : e ∈ entries → Within v e.2 → Within v (.table entries)

/-- The values with no JSON representation. -/
def Unrepresentable (v : LuaValue) : Prop := v = .function ∨ v = .userdata ∨ v = .thread

/-- A value that JSON cannot hold is in it. -/
def HasUnsupported (v : LuaValue) : Prop := ∃ w, Unrepresentable w ∧ Within w v

section Conversion

variable {sol : Sol2}

/-- The values of a table that `lua_to_json` reads: those at the indices of an array, and those
under a string or a number in another table. -/
def readValues (sol : Sol2) (entries : List (LuaKey × LuaValue)) : List LuaValue :=
  match arraySize? sol (entries.map Prod.fst) with
  | some size => (List.range size).filterMap fun i => entries.lookup (.integer (i + 1))
  | none => (entries.filter fun e => (e.1.objectKey? sol).isSome).map Prod.snd

/-- The value `v` is the given one or stands in it where `lua_to_json` reads it. -/
inductive ReadWithin (sol : Sol2) (v : LuaValue) : LuaValue → Prop
  | here : ReadWithin sol v v
  | entry {entries w} : w ∈ readValues sol entries → ReadWithin sol v w →
    ReadWithin sol v (.table entries)

/-- An unsupported value is read that is no table for sol2. -/
def ReadUnsupported (sol : Sol2) (v : LuaValue) : Prop :=
  ∃ w, Unrepresentable w ∧ (w = .userdata → sol.userdata = none) ∧ ReadWithin sol w v

variable {entries : List (LuaKey × LuaValue)} {v : LuaValue}

lemma entry_of_readValues (h : v ∈ readValues sol entries) : ∃ key, (key, v) ∈ entries := by
  unfold readValues at h
  split at h
  · obtain ⟨i, -, hlookup⟩ := List.mem_filterMap.mp h
    obtain ⟨before, after, heq, -⟩ := List.lookup_eq_some_iff.mp hlookup
    exact ⟨.integer (i + 1), by simp [heq]⟩
  · obtain ⟨⟨key, v⟩, he, rfl⟩ := List.mem_map.mp h
    exact ⟨key, (List.mem_filter.mp he).1⟩

lemma within_of_readWithin {w : LuaValue} (h : ReadWithin sol w v) : Within w v := by
  induction h with
  | here => exact .here
  | entry hread _ ih =>
    obtain ⟨key, he⟩ := entry_of_readValues hread
    exact .entry he ih

lemma hasUnsupported_of_read (h : ReadUnsupported sol v) : HasUnsupported v := by
  obtain ⟨w, hw, -, hwithin⟩ := h
  exact ⟨w, hw, within_of_readWithin hwithin⟩

lemma entriesToJson_eq (entries : List (LuaKey × LuaValue)) :
    entriesToJson sol entries =
      entries.map fun e => (e.1, luaToJson sol e.2) := by
  induction entries with
  | nil => rfl
  | cons e entries ih => rw [entriesToJson, ih, List.map_cons]

lemma objectFields_eq_none (f : LuaValue → Option Json) (entries : List (LuaKey × LuaValue))
    (fields : List (String × Json)) :
    objectFields sol (entries.map fun e => (e.1, f e.2)) fields = none ↔
      ∃ e ∈ entries, (e.1.objectKey? sol).isSome = true ∧ f e.2 = none := by
  induction entries generalizing fields with
  | nil => simp [objectFields]
  | cons e entries ih =>
    rw [List.map_cons, objectFields, List.exists_mem_cons_iff]
    cases e.1.objectKey? sol with
    | none => simp [ih]
    | some => cases f e.2 <;> simp [ih]

lemma tableToJson_eq_none (f : LuaValue → Option Json) (entries : List (LuaKey × LuaValue)) :
    tableToJson sol (entries.map fun e => (e.1, f e.2)) = none ↔
      ∃ v ∈ readValues sol entries, f v = none := by
  have hkeys : (entries.map fun e => (e.1, f e.2)).map Prod.fst = entries.map Prod.fst := by
    rw [List.map_map]
    rfl
  unfold tableToJson readValues
  rw [hkeys]
  cases arraySize? sol (entries.map Prod.fst) with
  | some =>
    simp only [lookup_map, Option.map_eq_none_iff, mapM_eq_none_iff, List.mem_filterMap]
    refine ⟨?_, ?_⟩
    · rintro ⟨i, hi, hnone⟩
      cases hlookup : entries.lookup (.integer (i + 1)) with
      | none => simp [hlookup] at hnone
      | some v => exact ⟨v, ⟨i, hi, hlookup⟩, by simpa [hlookup] using hnone⟩
    · rintro ⟨v, ⟨i, hi, hlookup⟩, hnone⟩
      exact ⟨i, hi, by simpa [hlookup] using hnone⟩
  | none =>
    simp only [Option.map_eq_none_iff, objectFields_eq_none, List.mem_map, List.mem_filter]
    refine ⟨?_, ?_⟩
    · rintro ⟨e, he, hkey, hnone⟩
      exact ⟨e.2, ⟨e, ⟨he, hkey⟩, rfl⟩, hnone⟩
    · rintro ⟨v, ⟨e, ⟨he, hkey⟩, rfl⟩, hnone⟩
      exact ⟨e, he, hkey, hnone⟩

lemma readUnsupported_table : ReadUnsupported sol (.table entries) ↔
    ∃ v ∈ readValues sol entries, ReadUnsupported sol v := by
  constructor
  · rintro ⟨w, hw, huserdata, hwithin⟩
    cases hwithin with
    | here => rcases hw with h | h | h <;> cases h
    | entry hread hwithin => exact ⟨_, hread, w, hw, huserdata, hwithin⟩
  · rintro ⟨v, hread, w, hw, huserdata, hwithin⟩
    exact ⟨w, hw, huserdata, .entry hread hwithin⟩

lemma readUnsupported_atom (hatom : ∀ entries, v ≠ .table entries) :
    ReadUnsupported sol v ↔ Unrepresentable v ∧ (v = .userdata → sol.userdata = none) := by
  constructor
  · rintro ⟨w, hw, huserdata, hwithin⟩
    cases hwithin with
    | here => exact ⟨hw, huserdata⟩
    | entry => exact absurd rfl (hatom _)
  · rintro ⟨hv, huserdata⟩
    exact ⟨v, hv, huserdata, .here⟩

/-- A value has no JSON form exactly if an unsupported one is read in it. -/
theorem luaToJson_eq_none : luaToJson sol v = none ↔ ReadUnsupported sol v := by
  induction v using value_induction with
  | atom v hatom =>
    rw [readUnsupported_atom hatom]
    cases v with
    | table entries => exact absurd rfl (hatom entries)
    | nil | boolean | integer | float | string | function | userdata | thread =>
      simp [luaToJson, Unrepresentable]
  | table entries ih =>
    rw [luaToJson, entriesToJson_eq, tableToJson_eq_none, readUnsupported_table]
    refine exists_congr fun v => and_congr_right fun hread => ?_
    obtain ⟨key, he⟩ := entry_of_readValues hread
    exact ih (key, v) he

end Conversion

/-- A string or a key in the form of an argument is taken for the placeholder. -/
def LooksUnsupported (sol : Sol2) (args : List LuaValue) : Prop :=
  ∃ a ∈ args, ∃ form, luaToJson sol a = some form ∧ ∃ s ∈ jsonStrings form, EndsLikeSentinel s

variable {dump : JsonDump} {floatText : UInt64 → List UInt8} {sol : Sol2} {rt : Runtime}
  {context : RequestContext} {method : String}

def rejectedUnsupported : RequestOutcome :=
  .refused { code := "encode_failed", message := "message contains unsupported value type" }

section

variable {args : List LuaValue}

lemma jsonStrings_arguments (args : List LuaValue) :
    jsonStrings (argumentsToJson sol args) =
      args.flatMap fun a => jsonStrings (argumentToJson sol a) := by
  rw [argumentsToJson, jsonStrings, itemStrings_eq, List.flatMap_map]

lemma endsLikeSentinel_arguments :
    (∃ s ∈ jsonStrings (argumentsToJson sol args), EndsLikeSentinel s) ↔
      (∃ a ∈ args, ReadUnsupported sol a) ∨ LooksUnsupported sol args := by
  rw [jsonStrings_arguments]
  constructor
  · rintro ⟨s, hs, hends⟩
    obtain ⟨a, ha, hs⟩ := List.mem_flatMap.mp hs
    cases hform : luaToJson sol a with
    | none => exact .inl ⟨a, ha, luaToJson_eq_none.mp hform⟩
    | some form =>
      rw [argumentToJson, hform, Option.getD_some] at hs
      exact .inr ⟨a, ha, form, hform, s, hs, hends⟩
  · rintro (⟨a, ha, hread⟩ | ⟨a, ha, form, hform, s, hs, hends⟩)
    · refine ⟨"<unsupported>", List.mem_flatMap.mpr ⟨a, ha, ?_⟩, by decide⟩
      simp [argumentToJson, luaToJson_eq_none.mpr hread, jsonStrings]
    · refine ⟨s, List.mem_flatMap.mpr ⟨a, ha, ?_⟩, hends⟩
      rwa [argumentToJson, hform, Option.getD_some]

lemma argumentsToJson_forms (h : ∀ a ∈ args, ¬ReadUnsupported sol a) :
    ∃ items, argumentsToJson sol args = .array items ∧
      args.map (luaToJson sol) = items.map some := by
  refine ⟨args.map (argumentToJson sol), rfl, ?_⟩
  rw [List.map_map]
  refine List.map_congr_left fun a ha => ?_
  obtain ⟨form, hform⟩ := Option.ne_none_iff_exists'.mp (mt luaToJson_eq_none.mp (h a ha))
  simp [argumentToJson, hform]

variable {target : String} {args : Json} {text : List UInt8}

lemma validateMessagePayload_found (hdump : dump args = .ok text)
    (hsize : text.length ≤ maxMessageSize) (hfound : containsText text unsupportedSentinel = true) :
    validateMessagePayload dump args =
      .ok (.error "message contains unsupported value type") := by
  simp [validateMessagePayload, hdump, Nat.not_lt.mpr hsize, hfound, Bind.bind, Except.bind,
    Pure.pure, Except.pure]

lemma append_ne {a b c : String} (h : ¬a.toList <+: c.toList) : a ++ b ≠ c := by
  rintro rfl
  exact h (by simp)

lemma validateMessagePayload_unsupported (h : validateMessagePayload dump args =
      .ok (.error "message contains unsupported value type")) :
    ∃ text, dump args = .ok text ∧ text.length ≤ maxMessageSize ∧
      containsText text unsupportedSentinel = true := by
  unfold validateMessagePayload at h
  cases hdump : dump args with
  | error =>
    rw [hdump] at h
    cases h
  | ok text =>
    rw [hdump] at h
    simp only [Bind.bind, Except.bind, Pure.pure, Except.pure] at h
    refine ⟨text, rfl, ?_⟩
    split at h
    · simp only [Except.ok.injEq, Except.error.injEq, String.append_assoc] at h
      exact absurd h (append_ne (by decide))
    rename_i hsize
    split at h
    · exact ⟨Nat.not_lt.mp hsize, ‹_›⟩
    · cases h

/-- `send` refuses a message for an unsupported value exactly if the message passes the other checks
and the sentinel is in its text. -/
lemma send_unsupported_iff : rt.send dump context target method args =
      .ok (.error "message contains unsupported value type") ↔
    Checked dump rt context.sender target method args ∧
      ∃ text, dump args = .ok text ∧ containsText text unsupportedSentinel = true := by
  have hresult : SendResult dump rt context target method args _ := send_result
  generalize rt.send dump context target method args = result at hresult ⊢
  constructor
  · intro h
    cases hresult with
    | payload hrunning hmethod hdenial hpayload =>
      cases h
      obtain ⟨hlength, hunreserved⟩ := validateMessageMethod_ok.mp hmethod
      obtain ⟨text, hdump, hsize, hfound⟩ := validateMessagePayload_unsupported hpayload
      exact ⟨⟨hrunning, hlength, hunreserved, denial_eq_none.mp hdenial, text, hdump, hsize⟩, text,
        hdump, hfound⟩
    | method hmethod =>
      cases h
      unfold validateMessageMethod at hmethod
      split_ifs at hmethod <;> simp at hmethod
    | denied | dead | missing =>
      -- the other errors begin differently
      simp only [Except.ok.injEq, Except.error.injEq] at h
      exact absurd h (append_ne (by decide))
    | stopping => simp at h
    | raised | queued => cases h
  · rintro ⟨hchecked, text, hdump, hfound⟩
    obtain ⟨text', hdump', hsize⟩ := hchecked.size
    rw [hdump] at hdump'
    cases hdump'
    have hpayload := validateMessagePayload_found hdump hsize hfound
    have hmethod := validateMessageMethod_ok.mpr ⟨hchecked.length, hchecked.unreserved⟩
    have hdenial := denial_eq_none.mpr hchecked.permitted
    cases hresult with
    | payload _ _ _ h =>
      rw [hpayload] at h
      cases h
      rfl
    | stopping h =>
      rw [hchecked.running] at h
      cases h
    | method h =>
      rw [hmethod] at h
      cases h
    | denied h =>
      rw [hdenial] at h
      cases h
    | raised h | dead _ h | missing _ h | queued _ _ _ h =>
      rw [hpayload] at h
      cases h

end

section

variable {target : LuaTarget} {args : List LuaValue}

lemma shieldSend_rejected_iff : shieldSend dump sol rt context target method args =
      rejectedUnsupported ↔
    target.serviceId ≠ "" ∧ rt.send dump context target.serviceId method (argumentsToJson sol args) =
      .ok (.error "message contains unsupported value type") := by
  have hcode : sendErrorCode "message contains unsupported value type" = ("encode_failed", false) := by
    decide
  by_cases htarget : target.serviceId = ""
  · simp [shieldSend, htarget, rejectedUnsupported, invalidTarget]
  rw [shieldSend, if_neg htarget]
  constructor
  · intro h
    refine ⟨htarget, ?_⟩
    split at h
    · cases h
    · rename_i message hsend
      rw [hsend]
      simp only [rejectedUnsupported, RequestOutcome.refused.injEq, LuaError.mk.injEq] at h
      rw [h.2.1]
    · cases h
  · rintro ⟨-, h⟩
    simp [h, hcode, rejectedUnsupported]

section

variable (hdoc : dump.Documented floatText) (hfloat : ∀ bits, Plain (floatText bits))
include hdoc hfloat

lemma shieldSend_rejected :
    shieldSend dump sol rt context target method args = rejectedUnsupported ↔
      target.serviceId ≠ "" ∧
      Checked dump rt context.sender target.serviceId method (argumentsToJson sol args) ∧
      ((∃ a ∈ args, ReadUnsupported sol a) ∨ LooksUnsupported sol args) := by
  rw [shieldSend_rejected_iff, send_unsupported_iff, ← endsLikeSentinel_arguments]
  refine and_congr_right fun _ => and_congr_right fun hchecked => ?_
  obtain ⟨text, hdump, -⟩ := hchecked.size
  rw [← containsText_dump hdoc hfloat hdump]
  exact ⟨fun ⟨_, h, hfound⟩ => by rwa [← Except.ok.inj (hdump.symm.trans h)] at hfound,
    fun hfound => ⟨text, hdump, hfound⟩⟩

lemma shieldSend_forms
    {H : Type} {modules : Instance → Option (String → ModuleField H)} {handler : H} {received : Json}
    (h : (shieldSend dump sol rt context target method args).reached modules =
      some (handler, received)) :
    ∃ items, received = .array items ∧ args.map (luaToJson sol) = items.map some := by
  obtain ⟨actor, msg, hsend, rfl⟩ := shieldSend_reached h
  obtain ⟨-, hargs, hpayload⟩ := send_checked hsend
  obtain ⟨text, hdump, -, habsent⟩ := validateMessagePayload_ok hpayload
  rw [hargs]
  refine argumentsToJson_forms fun a ha hread => ?_
  have hfound := (containsText_dump hdoc hfloat hdump).mpr
    (endsLikeSentinel_arguments.mpr (.inl ⟨a, ha, hread⟩))
  rw [hfound] at habsent
  cases habsent

end

variable {packedSize : List LuaValue → Nat} {session syncSession : Nat} {api : CallApi} {main : Bool}

lemma callErrorCode_ne (message : String) : callErrorCode message ≠ "encode_failed" := by
  unfold callErrorCode
  split_ifs <;> decide

lemma syncCall_not_rejected :
    syncCall sol rt context target method args syncSession ≠ rejectedUnsupported := by
  intro h
  unfold syncCall rejectedUnsupported at h
  split at h
  · simp [invalidTarget] at h
  split at h
  · simp only [RequestOutcome.refused.injEq, LuaError.mk.injEq] at h
    exact callErrorCode_ne _ h.1
  · cases h

lemma shieldCall_not_rejected : shieldCall sol packedSize api main rt context target method args
    session syncSession ≠ rejectedUnsupported := by
  unfold shieldCall
  split
  · simp [rejectedUnsupported]
  split
  · exact syncCall_not_rejected
  split
  · nofun
  · exact syncCall_not_rejected

variable {H : Type} {modules : Instance → Option (String → ModuleField H)} {handler : H}
  {received : Json}

lemma syncCall_reached (h : (syncCall sol rt context target method args syncSession).reached modules =
    some (handler, received)) : received = argumentsToJson sol args := by
  unfold syncCall at h
  split at h
  · cases h
  split at h
  · cases h
  rename_i hcall
  obtain ⟨_, -, hreceived⟩ := Option.map_eq_some_iff.mp h
  simp only [Runtime.call] at hcall
  split_ifs at hcall <;> split at hcall <;> cases hcall
  exact (Prod.mk.inj hreceived).2.symm

lemma coroCall_args {actor : Instance} {msg : ServiceMessage}
    (h : coroCall sol packedSize rt context target method args session = some (actor, msg)) :
    msg.args = argumentsToJson sol (args.take (packedSize args)) := by
  simp only [coroCall, Runtime.sendCallRequest] at h
  split_ifs at h
  cases hactor : rt.registry.targetActor (rt.registry.queryService target.serviceId) with
  | none => simp [hactor] at h
  | some =>
    simp only [hactor, Option.some.injEq, Prod.mk.injEq] at h
    rw [← h.2]

lemma shieldCall_reached (h : (shieldCall sol packedSize api main rt context target method args
    session syncSession).reached modules = some (handler, received)) :
    ∃ count, received = argumentsToJson sol (args.take count) := by
  have hall : argumentsToJson sol args = argumentsToJson sol (args.take args.length) := by
    rw [List.take_length]
  unfold shieldCall at h
  split at h
  · cases h
  split at h
  · exact ⟨args.length, (syncCall_reached h).trans hall⟩
  split at h
  · rename_i hcoro
    obtain ⟨_, -, hreceived⟩ := Option.map_eq_some_iff.mp h
    exact ⟨packedSize args, (Prod.mk.inj hreceived).2.symm.trans (coroCall_args hcoro)⟩
  · exact ⟨args.length, (syncCall_reached h).trans hall⟩

end

/-- When a request is refused for its unsupported values as it should. By `shield.send`: an argument
has one exactly if the request passes the other checks and one is read or a string looks like one.
By a call: there is none. -/
def DetectsUnsupported (dump : JsonDump) (sol : Sol2) (rt : Runtime) (context : RequestContext)
    (target : LuaTarget) (method : String) (args : List LuaValue) : LuaApi → Prop
  | .send =>
    (∃ a ∈ args, HasUnsupported a) ↔
      target.serviceId ≠ "" ∧
      Checked dump rt context.sender target.serviceId method (argumentsToJson sol args) ∧
      ((∃ a ∈ args, ReadUnsupported sol a) ∨ LooksUnsupported sol args)
  | .call _ _ => ∀ a ∈ args, ¬HasUnsupported a

/-- A request is refused for an unsupported value exactly if it has one, and a handler gets the JSON
forms of the arguments and never the placeholder, if and only if the condition holds. -/
theorem unsupported_values_rejected (dump : JsonDump) (floatText : UInt64 → List UInt8) (sol : Sol2)
    (packedSize : List LuaValue → Nat) (rt : Runtime) (context : RequestContext)
    (target : LuaTarget) (method : String) (args : List LuaValue) (session syncSession : Nat)
    (api : LuaApi) (hdoc : dump.Documented floatText) (hfloat : ∀ bits, Plain (floatText bits)) :
    ((luaRequest dump sol packedSize rt context target method args session syncSession api =
          rejectedUnsupported ↔ ∃ a ∈ args, HasUnsupported a) ∧
      ∀ (H : Type) (modules : Instance → Option (String → ModuleField H)) (handler : H)
        (received : Json),
        (luaRequest dump sol packedSize rt context target method args session syncSession
            api).reached modules = some (handler, received) →
        ∃ count items, received = .array items ∧
          (args.take count).map (luaToJson sol) = items.map some) ↔
    DetectsUnsupported dump sol rt context target method args api := by
  cases api with
  | send =>
    rw [luaRequest, shieldSend_rejected hdoc hfloat, DetectsUnsupported]
    constructor
    · rintro ⟨h, -⟩
      exact h.symm
    · intro h
      refine ⟨h.symm, ?_⟩
      intro H modules handler received hreached
      obtain ⟨items, hitems, hforms⟩ := shieldSend_forms hdoc hfloat hreached
      exact ⟨args.length, items, hitems, by rw [List.take_length, hforms]⟩
  | call api main =>
    rw [luaRequest, DetectsUnsupported]
    constructor
    · rintro ⟨h, -⟩ a ha hunsupported
      exact shieldCall_not_rejected (h.mpr ⟨a, ha, hunsupported⟩)
    · intro hnone
      refine ⟨⟨fun h => absurd h shieldCall_not_rejected, ?_⟩, ?_⟩
      · rintro ⟨a, ha, hunsupported⟩
        exact absurd hunsupported (hnone a ha)
      · intro H modules handler received hreached
        obtain ⟨count, rfl⟩ := shieldCall_reached hreached
        have hread : ∀ a ∈ args.take count, ¬ReadUnsupported sol a := fun a ha hread =>
          hnone a (List.mem_of_mem_take ha) (hasUnsupported_of_read hread)
        obtain ⟨items, hitems, hforms⟩ := argumentsToJson_forms hread
        exact ⟨count, items, hitems, hforms⟩

def fieldFunction : LuaValue := .table [(.string "f", .function)]

lemma readUnsupported_fieldFunction (sol : Sol2) : ReadUnsupported sol fieldFunction :=
  readUnsupported_table.mpr ⟨.function, List.mem_singleton.mpr rfl, .function, .inl rfl, nofun, .here⟩

theorem unsupported_values_rejected_field :
    HasUnsupported fieldFunction ∧
      shieldSend (Json.dump fun _ => []) ⟨fun _ => 0, none⟩ (oneService false) { sender := "a" }
        (.string "b") "greet" [fieldFunction] = rejectedUnsupported := by
  have hread := readUnsupported_fieldFunction ⟨fun _ => 0, none⟩
  have hunsupported := hasUnsupported_of_read hread
  refine ⟨hunsupported, ((unsupported_values_rejected (Json.dump fun _ => []) (fun _ => [])
    ⟨fun _ => 0, none⟩ List.length (oneService false) { sender := "a" } (.string "b") "greet"
    [fieldFunction] 1 1 .send (dump_documented _) (by simp [Plain])).mpr ?_).1.mpr
    ⟨_, List.mem_singleton.mpr rfl, hunsupported⟩⟩
  have hchecked : Checked (Json.dump fun _ => []) (oneService false) "a" "b" "greet"
      (argumentsToJson ⟨fun _ => 0, none⟩ [fieldFunction]) := by
    refine ⟨rfl, by decide, by decide, ?_, _, rfl, by decide⟩
    rintro check h
    cases h
    rfl
  exact ⟨fun _ => ⟨by decide, hchecked, .inl ⟨_, List.mem_singleton.mpr rfl, hread⟩⟩,
    fun _ => ⟨_, List.mem_singleton.mpr rfl, hunsupported⟩⟩

/-- A string is taken for the placeholder. A function under a key that is not read is not noticed.
The handler of a call gets the placeholder. -/
theorem unsupported_values_confused :
    (shieldSend (Json.dump fun _ => []) ⟨fun _ => 0, none⟩ (oneService false) { sender := "a" }
        (.string "b") "greet" [.string "<unsupported>"] = rejectedUnsupported ∧
      ¬HasUnsupported (.string "<unsupported>")) ∧
    ((shieldSend (Json.dump fun _ => []) ⟨fun _ => 0, none⟩ (oneService false) { sender := "a" }
        (.string "b") "greet" [.table [(.boolean true, .function)]]).reached oneModule =
        some ("greet", .array [.object []]) ∧
      HasUnsupported (.table [(.boolean true, .function)])) ∧
    ∀ api, (luaRequest (Json.dump fun _ => []) ⟨fun _ => 0, none⟩ List.length (oneService false)
        { sender := "a" } (.string "b") "greet" [.function] 1 1 (.call api false)).reached oneModule =
      some ("greet", .array [.string "<unsupported>"]) := by
  refine ⟨⟨by rfl, ?_⟩, ⟨by rfl, ?_⟩, fun api => by rfl⟩
  · rintro ⟨w, hw, hwithin⟩
    cases hwithin
    rcases hw with h | h | h <;> cases h
  · exact ⟨.function, .inl rfl, .entry (e := (.boolean true, .function)) (by simp) .here⟩

variable {makeSessionHandle : Option (String → String → Option LuaValue)}

/-- Every value is what `json_to_lua` makes of the argument at its place. -/
def Received (makeSessionHandle : Option (String → String → Option LuaValue)) :
    List Json → List LuaValue → Prop :=
  List.Forall₂ fun item value => jsonToLua makeSessionHandle item = .ok value

/-- No argument that becomes nil stands before one that becomes another value, or some argument
cannot be converted. -/
def NilsLast (makeSessionHandle : Option (String → String → Option LuaValue)) (items : List Json) :
    Prop :=
  ∀ values, Received makeSessionHandle items values →
    values.Pairwise fun value later => value = .nil → later = .nil

lemma eq_nil_of_isNil {value : LuaValue} (h : value.isNil = true) : value = .nil := by
  cases value <;> first | rfl | cases h

variable {items : List Json} {values : List LuaValue}

lemma itemsToLua_eq_ok : itemsToLua makeSessionHandle items = .ok values ↔
    Received makeSessionHandle items values := by
  constructor
  · intro h
    induction items generalizing values with
    | nil =>
      cases h
      exact .nil
    | cons item items ih =>
      obtain ⟨value, hvalue, h⟩ := ok_of_bind_ok h
      obtain ⟨rest, hrest, h⟩ := ok_of_bind_ok h
      cases h
      exact .cons hvalue (ih hrest)
  · intro h
    induction h with
    | nil => rfl
    | cons hitem _ ih =>
      rw [itemsToLua, hitem, ih]
      rfl

lemma fillTable_eq (items : List Json) (table : List LuaValue) :
    fillTable makeSessionHandle items table =
      (itemsToLua makeSessionHandle items).map fun values =>
        table ++ values.filter fun value => !value.isNil := by
  induction items generalizing table with
  | nil => simp [fillTable, itemsToLua, Except.map]
  | cons item items ih =>
    rw [fillTable, itemsToLua]
    cases jsonToLua makeSessionHandle item with
    | error => rfl
    | ok value =>
      simp only [Bind.bind, Except.bind]
      rw [ih]
      cases itemsToLua makeSessionHandle items with
      | error => rfl
      | ok =>
        simp only [Except.map, Pure.pure, Except.pure, appendValue, List.filter_cons]
        cases value.isNil <;> simp

lemma eq_filter_append_nils (h : values.Pairwise fun value later => value = .nil → later = .nil) :
    ∃ k, values = values.filter (fun value => !value.isNil) ++ List.replicate k .nil := by
  induction values with
  | nil => exact ⟨0, rfl⟩
  | cons value values ih =>
    obtain ⟨hfirst, h⟩ := List.pairwise_cons.mp h
    cases hnil : value.isNil with
    | false =>
      obtain ⟨k, hk⟩ := ih h
      refine ⟨k, ?_⟩
      rw [List.filter_cons_of_pos (by simp [hnil]), List.cons_append, ← hk]
    | true =>
      -- everything from the first nil on is nil
      obtain rfl := eq_nil_of_isNil hnil
      have hall : ∀ later ∈ values, later = .nil := fun later hlater => hfirst later hlater rfl
      refine ⟨values.length + 1, ?_⟩
      have hfilter : values.filter (fun value => !value.isNil) = [] :=
        List.filter_eq_nil_iff.mpr fun later hlater => by simp [hall later hlater, LuaValue.isNil]
      rw [List.filter_cons_of_neg (by simp [LuaValue.isNil]), hfilter, List.nil_append,
        List.replicate_succ, List.eq_replicate_of_mem hall]
      simp

lemma nils_last_of_eq {front : List LuaValue} {k : Nat}
    (hfront : front = values.filter fun value => !value.isNil)
    (h : values = front ++ List.replicate k .nil) :
    values.Pairwise fun value later => value = .nil → later = .nil := by
  have hnot : ∀ value ∈ front, value ≠ .nil := by
    rintro value hvalue rfl
    rw [hfront] at hvalue
    simp [LuaValue.isNil] at hvalue
  rw [h, List.pairwise_append]
  refine ⟨List.pairwise_of_forall_mem_list fun value hvalue _ _ hnil => absurd hnil (hnot value hvalue),
    List.pairwise_replicate.mpr (.inr fun _ => rfl), ?_⟩
  intro value hvalue later _ hnil
  exact absurd hnil (hnot value hvalue)

section

variable {H : Type} {service : Option (String → ModuleField H)} {msg : DispatchMessage}
  {items : List Json}

lemma callServiceMethod_eq (hargs : msg.args = .array items) :
    callServiceMethod makeSessionHandle service msg =
      (findHandler service msg).bind fun handler =>
        (itemsToLua makeSessionHandle items).map fun values => (handler, values) := by
  rw [callServiceMethod, hargs]
  cases findHandler service msg with
  | error => rfl
  | ok => cases hitems : itemsToLua makeSessionHandle items <;>
      simp [argumentItems, hitems, Bind.bind, Except.bind, Except.map, Pure.pure, Except.pure]

lemma callServiceMethodCoroutine_eq (hargs : msg.args = .array items) (factory : CoroutineFactory) :
    callServiceMethodCoroutine makeSessionHandle service msg factory =
      (findHandler service msg).bind fun handler =>
        (itemsToLua makeSessionHandle items).map fun values =>
          (handler, if factory = .ready then values.filter fun value => !value.isNil else values) := by
  rw [callServiceMethodCoroutine, hargs, callServiceMethod_eq hargs]
  cases hfind : findHandler service msg with
  | error => rfl
  | ok =>
    cases factory <;> cases hitems : itemsToLua makeSessionHandle items <;>
      simp [argumentItems, fillTable_eq, hitems, Bind.bind, Except.bind, Except.map, Pure.pure,
        Except.pure]

end

/-- The handler gets the value of every JSON argument at its place in both dispatches, where the
coroutine dispatch may leave out nils at the end, and a dispatch that fails fails in both, if and only
if the nils of the arguments come last or no handler is started as a coroutine. -/
theorem handler_arguments_faithful {H : Type}
    (makeSessionHandle : Option (String → String → Option LuaValue))
    (service : Option (String → ModuleField H)) (msg : DispatchMessage)
    (factory : CoroutineFactory) (items : List Json) (hargs : msg.args = .array items) :
    (match callServiceMethod makeSessionHandle service msg with
    | .error what => callServiceMethodCoroutine makeSessionHandle service msg factory = .error what
    | .ok (handler, values) =>
      Received makeSessionHandle items values ∧
      ∃ received k,
        callServiceMethodCoroutine makeSessionHandle service msg factory = .ok (handler, received) ∧
        values = received ++ List.replicate k .nil) ↔
    ∀ handler, findHandler service msg = .ok handler → factory = .ready →
      NilsLast makeSessionHandle items := by
  rw [callServiceMethod_eq hargs, callServiceMethodCoroutine_eq hargs]
  cases findHandler service msg with
  | error =>
    refine ⟨?_, fun _ => rfl⟩
    intro _ handler h
    cases h
  | ok handler =>
    cases hitems : itemsToLua makeSessionHandle items with
    | error =>
      refine ⟨fun _ _ _ _ values hreceived => ?_, fun _ => rfl⟩
      rw [itemsToLua_eq_ok.mpr hreceived] at hitems
      cases hitems
    | ok values =>
      have hreceived := itemsToLua_eq_ok.mp hitems
      constructor
      · rintro ⟨-, front, k, hfront, hvalues⟩ _ _ hready values' hreceived'
        cases hitems.symm.trans (itemsToLua_eq_ok.mpr hreceived')
        refine nils_last_of_eq (Eq.symm ?_) hvalues
        simpa [Except.bind, Except.map, hready] using hfront
      · intro hlast
        refine ⟨hreceived, ?_⟩
        by_cases hready : factory = .ready
        · obtain ⟨k, hk⟩ := eq_filter_append_nils (hlast handler rfl hready values hreceived)
          exact ⟨_, k, by simp [Except.bind, Except.map, hready], hk⟩
        · exact ⟨values, 0, by simp [Except.bind, Except.map, hready], by simp⟩

def anyMethod : Option (String → ModuleField Unit) := some fun _ => .function ()

def messageWith (items : List Json) : DispatchMessage :=
  { sender := "a", method := "m", args := .array items, traceId := "", deadlineMs := 0,
    highPriority := false, callSession := 0 }

theorem handler_arguments_faithful_trailing :
    callServiceMethodCoroutine none anyMethod
        (messageWith [.integer 1, .string "x", .null]) .ready =
      .ok ((), [.integer 1, .string "x"]) ∧
    Received none [.integer 1, .string "x", .null] [.integer 1, .string "x", .nil] ∧
    ∃ received k,
      callServiceMethodCoroutine none anyMethod
        (messageWith [.integer 1, .string "x", .null]) .ready = .ok ((), received) ∧
      [.integer 1, .string "x", .nil] = received ++ List.replicate k .nil := by
  refine ⟨rfl, (handler_arguments_faithful none anyMethod
    (messageWith [.integer 1, .string "x", .null]) .ready _ rfl).mpr ?_⟩
  intro _ _ _ values hvalues
  have hitems : itemsToLua none [.integer 1, .string "x", .null] =
      .ok [.integer 1, .string "x", .nil] := rfl
  cases hitems.symm.trans (itemsToLua_eq_ok.mpr hvalues)
  simp

/-- After a null the arguments move to other places: the handler gets 1 as its first argument
instead of its second. -/
theorem handler_argument_moved :
    callServiceMethod none anyMethod (messageWith [.null, .integer 1]) =
      .ok ((), [.nil, .integer 1]) ∧
    callServiceMethodCoroutine none anyMethod (messageWith [.null, .integer 1]) .ready =
      .ok ((), [.integer 1]) :=
  ⟨rfl, rfl⟩

end ShieldRuntime.Proofs
