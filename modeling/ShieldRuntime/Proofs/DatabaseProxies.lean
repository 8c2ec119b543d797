import Mathlib.Data.List.Induction
import Mathlib.Data.List.Nodup
import ShieldRuntime.Plugins.Database
import ShieldRuntime.Proofs.QueueAcks

/-!
# The proxies and the pools of the database plugins

`transaction` takes a rollback that the connection forced for a success, and a `BEGIN` without a
result for a begun transaction. The mapper script is loaded, but the function in it is not called. A
pool reserves a slot before the connect, and each path that loses the connection gives it back.
-/

namespace ShieldRuntime.Proofs
open Lua Plugins Transport Library

section Transactions

/-- The result says what has become of the transaction. -/
structure Truthful (r : Transaction) : Prop where
  committed : r.result = true ↔ ∃ value, (Statement.commit, Outcome.ok value) ∈ r.log
  begun : r.ending.isSome = true → ∃ value, (Statement.begin, Outcome.ok value) ∈ r.log
  aborted : ∀ ending, r.ending = some ending →
    ending.valid = false ∨ ending.userAbort = true ∨ r.lost = true →
    r.result = false ∧ ∀ outcome, (Statement.commit, outcome) ∉ r.log

/-- The connection is lost in a callback that ends well, and the rollback succeeds. -/
def HiddenRollback (server : Server) (callback : Callback) (log : Log) : Prop :=
  let (ending, log, lost) := runCallback server callback log false
  lost = true ∧ ending.valid = true ∧ ending.userAbort = false ∧
    ∃ value, server log .rollback = .ok value

lemma runCallback_log (server : Server) (callback : Callback) (log : Log) (bad : Bool) :
    ∃ issued, (runCallback server callback log bad).2.1 = log ++ issued ∧
      ∀ entry ∈ issued, ∃ mode sql params, entry.1 = .issued mode sql params := by
  induction callback generalizing log bad with
  | raises | returns => exact ⟨[], (List.append_nil log).symm, by simp⟩
  | call mode sql params next ih =>
    rw [runCallback]
    obtain ⟨issued, hlog, hissued⟩ := ih (reply _) (log ++ [(_, _)]) (bad || _)
    refine ⟨_ :: issued, by rw [hlog, List.append_assoc]; rfl, ?_⟩
    intro entry hentry
    rcases List.mem_cons.mp hentry with rfl | hentry
    · exact ⟨mode, sql, _, rfl⟩
    · exact hissued entry hentry

lemma commit_eq_closing {commit : Bool} : .commit = closing commit ↔ commit = true := by
  cases commit <;> simp [closing]

lemma commits_iff {ending : Ending} {lost : Bool} :
    commits ending lost = true ↔
      ending.valid = true ∧ ending.userAbort = false ∧ lost = false := by
  simp [commits, and_assoc]

section
variable {server : Server} {callback : Callback} {log after : Log} {lost : Bool}
  {ending : Ending} (hrun : runCallback server callback log false = (ending, after, lost))
include hrun

lemma finish_record (connBad : Bool) : let r := finishTransaction server callback log connBad
    let closed := closing (commits ending lost)
    r.ending = some ending ∧ r.lost = lost ∧ r.log = after ++ [(closed, server after closed)] ∧
      (r.result = true ↔ (∃ value, server after closed = .ok value) ∧ ending.valid = true ∧
        ending.userAbort = false) := by
  simp only [finishTransaction, hrun]
  cases hclose : server after (closing (commits ending lost)) with
  | null | failed => simp
  | ok =>
    cases ending with
    | raised => simp [Ending.valid]
    | returned values =>
      cases habort : (Ending.returned values).userAbort <;> simp [Ending.valid]

lemma mem_finish_log {connBad : Bool} {statement : Statement} {outcome : Outcome}
    (hstatement : ∀ mode sql params, statement ≠ .issued mode sql params) :
    (statement, outcome) ∈ (finishTransaction server callback log connBad).log ↔
      (statement, outcome) ∈ log ∨ statement = closing (commits ending lost) ∧
        outcome = server after statement := by
  obtain ⟨issued, hafter, hissued⟩ := runCallback_log server callback log false
  rw [hrun] at hafter
  change after = log ++ issued at hafter
  have hnot : (statement, outcome) ∉ issued := by
    intro hmem
    obtain ⟨mode, sql, params, hsame⟩ := hissued _ hmem
    exact hstatement mode sql params hsame
  rw [(finish_record hrun connBad).2.2.1, List.mem_append, hafter, List.mem_append,
    List.mem_singleton, Prod.mk.injEq, ← hafter]
  constructor
  · rintro ((hmem | hmem) | ⟨rfl, rfl⟩)
    · exact Or.inl hmem
    · exact (hnot hmem).elim
    · exact Or.inr ⟨rfl, rfl⟩
  · rintro (hmem | ⟨rfl, rfl⟩)
    · exact Or.inl (Or.inl hmem)
    · exact Or.inr ⟨rfl, rfl⟩

end

lemma finish_truthful_iff (server : Server) (callback : Callback) (first : Outcome)
    (connBad : Bool) :
    Truthful (finishTransaction server callback [(.begin, first)] connBad) ↔
      (∃ value, first = .ok value) ∧ ¬HiddenRollback server callback [(.begin, first)] := by
  obtain ⟨ending, after, lost, hrun⟩ : ∃ ending after lost,
      runCallback server callback [(.begin, first)] false = (ending, after, lost) := ⟨_, _, _, rfl⟩
  obtain ⟨hending, hlost, -, hresult⟩ := finish_record hrun connBad
  have hmem : ∀ {statement outcome}, (∀ mode sql params, statement ≠ .issued mode sql params) →
      ((statement, outcome) ∈ (finishTransaction server callback [(.begin, first)] connBad).log ↔
        (statement = .begin ∧ outcome = first) ∨ statement = closing (commits ending lost) ∧
          outcome = server after statement) := by
    intro statement outcome hstatement
    rw [mem_finish_log hrun hstatement, List.mem_singleton, Prod.mk.injEq]
  have hcommit : ∀ outcome, (Statement.commit, outcome) ∈
      (finishTransaction server callback [(.begin, first)] connBad).log ↔
        commits ending lost = true ∧ outcome = server after .commit := by
    intro outcome
    rw [hmem (by simp), commit_eq_closing]
    simp
  have hbegin : ∀ outcome, (Statement.begin, outcome) ∈
      (finishTransaction server callback [(.begin, first)] connBad).log ↔ outcome = first := by
    intro outcome
    rw [hmem (by simp)]
    have hne : Statement.begin ≠ closing (commits ending lost) := by
      cases commits ending lost <;> nofun
    simp [hne]
  have hhidden : HiddenRollback server callback [(.begin, first)] ↔ lost = true ∧
      ending.valid = true ∧ ending.userAbort = false ∧
      ∃ value, server after .rollback = .ok value := by
    rw [HiddenRollback, hrun]
  rw [hhidden]
  constructor
  · intro h
    obtain ⟨value, hvalue⟩ := h.begun (by rw [hending]; rfl)
    refine ⟨⟨value, ((hbegin _).mp hvalue).symm⟩, ?_⟩
    rintro ⟨rfl, hvalid, habort, hrollback⟩
    have hclosing : closing (commits ending true) = .rollback := by simp [commits, closing]
    have htrue := hresult.mpr ⟨by rw [hclosing]; exact hrollback, hvalid, habort⟩
    rw [(h.aborted ending hending (Or.inr (Or.inr hlost))).1] at htrue
    cases htrue
  · rintro ⟨⟨value, rfl⟩, hnot⟩
    have hcommits : (finishTransaction server callback [(.begin, .ok value)] connBad).result = true →
        commits ending lost = true := by
      intro htrue
      obtain ⟨hclosed, hvalid, habort⟩ := hresult.mp htrue
      refine commits_iff.mpr ⟨hvalid, habort, Bool.eq_false_iff.mpr ?_⟩
      rintro rfl
      have hclosing : closing (commits ending true) = .rollback := by simp [commits, closing]
      rw [hclosing] at hclosed
      exact hnot ⟨rfl, hvalid, habort, hclosed⟩
    refine ⟨?_, fun _ => ⟨value, (hbegin _).mpr rfl⟩, ?_⟩
    · constructor
      · intro htrue
        have hc := hcommits htrue
        obtain ⟨result, hok⟩ := (hresult.mp htrue).1
        rw [← commit_eq_closing.mpr hc] at hok
        exact ⟨result, (hcommit _).mpr ⟨hc, hok.symm⟩⟩
      · rintro ⟨result, hlogged⟩
        obtain ⟨hc, hok⟩ := (hcommit _).mp hlogged
        obtain ⟨hvalid, habort, -⟩ := commits_iff.mp hc
        exact hresult.mpr ⟨⟨result, by rw [← commit_eq_closing.mpr hc]; exact hok.symm⟩, hvalid,
          habort⟩
    · intro ended hended hreason
      rw [hending] at hended
      cases hended
      have hno : ¬commits ending lost = true := by
        rw [commits_iff, ← hlost]
        rintro ⟨hvalid, habort, hkept⟩
        simp [hvalid, habort, hkept] at hreason
      exact ⟨Bool.eq_false_iff.mpr fun htrue => hno (hcommits htrue),
        fun outcome hlogged => hno ((hcommit outcome).mp hlogged).1⟩

/-- The result of `transaction` is truthful exactly if `BEGIN` gave a result and, once it has
succeeded, the connection was not lost under a callback that ends normally and is rolled back. -/
theorem transaction_truthful_iff (server : Server) (acquired : Except String Unit)
    (callback : Callback) :
    Truthful (transaction server acquired callback) ↔
      (acquired = .ok () → server [] .begin ≠ .null ∧
        ∀ value, server [] .begin = .ok value →
          ¬HiddenRollback server callback [(.begin, .ok value)]) := by
  cases acquired with
  | error =>
    refine iff_of_true ⟨?_, nofun, nofun⟩ nofun
    simp [transaction]
  | ok _ =>
    simp only [transaction, true_implies]
    cases hbegin : server [] .begin with
    | null | ok =>
      rw [finish_truthful_iff]
      simp
    | failed =>
      refine iff_of_true ⟨?_, nofun, nofun⟩ ⟨nofun, nofun⟩
      simp

def oneStatement : Callback := .call "execute" "DELETE FROM t" [] fun _ => .returns []

/-- A statement without a result is followed by a successful `ROLLBACK` and reported as committed;
the callback also runs after a `BEGIN` without a result. -/
theorem transaction_reports_rollback : let lossy : Server := fun _ statement =>
      match statement with
      | .issued .. => .null
      | _ => .ok .nil
    let unbegun : Server := fun _ statement =>
      match statement with
      | .begin => .null
      | _ => .ok .nil
    (transaction lossy (.ok ()) oneStatement).result = true ∧
      (transaction lossy (.ok ()) oneStatement).log.map Prod.fst =
        [.begin, .issued "execute" "DELETE FROM t" [], .rollback] ∧
      (transaction unbegun (.ok ()) oneStatement).ending = some (.returned []) ∧
      (transaction unbegun (.ok ()) oneStatement).log.head? = some (.begin, .null) := by
  exact ⟨rfl, rfl, rfl, rfl⟩

end Transactions

section Parameters

def tableOf (keys : List LuaKey) (values : LuaKey → LuaValue) : List (LuaKey × LuaValue) :=
  keys.map fun key => (key, values key)

def paramAt (params : List (LuaKey × LuaValue)) (i : Nat) : LuaValue :=
  (params.lookup (.integer i)).getD .nil

def largestIndex (keys : List LuaKey) : Nat :=
  (keys.map fun
    | .integer i => i.toNat
    | _ => 0).foldl max 0

/-- Each placeholder gets the value at its position, whatever the values are. -/
def BindsByPosition (collect : List (LuaKey × LuaValue) → List LuaValue) (keys : List LuaKey) :
    Prop :=
  ∀ values : LuaKey → LuaValue, (∀ key ∈ keys, values key ≠ .nil) →
    ∀ i, i < largestIndex keys →
      (collect (tableOf keys values))[i]? = some (paramAt (tableOf keys values) (i + 1))

lemma paramAt_tableOf (keys : List LuaKey) (values : LuaKey → LuaValue) (i : Nat) :
    paramAt (tableOf keys values) i =
      if .integer i ∈ keys then values (.integer i) else .nil := by
  unfold paramAt tableOf
  induction keys with
  | nil => rfl
  | cons key keys ih =>
    rw [List.map_cons, List.lookup_cons]
    by_cases hkey : LuaKey.integer i = key
    · subst hkey
      simp
    have hbeq : (LuaKey.integer i == key) = false := beq_false_of_ne hkey
    simp only [hbeq, List.mem_cons, hkey, false_or]
    exact ih

def markKey (marked : LuaKey) (key : LuaKey) : LuaValue := .boolean (decide (key = marked))

lemma numericValues_tableOf (keys : List LuaKey) (values : LuaKey → LuaValue) :
    numericValues (tableOf keys values) = (keys.filter isNumber).map values := by
  rw [numericValues, tableOf, List.filter_map, List.map_map]
  rfl

lemma numericValues_by_position_iff (keys : List LuaKey) :
    BindsByPosition numericValues keys ↔
      ∀ i, i < largestIndex keys → (keys.filter isNumber)[i]? = some (.integer (i + 1)) := by
  simp only [BindsByPosition, numericValues_tableOf, paramAt_tableOf, List.getElem?_map]
  constructor
  · intro h i hi
    obtain ⟨key, hkey, hvalue⟩ :=
      Option.map_eq_some_iff.mp (h (markKey (.integer (i + 1))) (by simp [markKey]) i hi)
    rw [hkey]
    split at hvalue
    · simpa [markKey] using hvalue
    · cases hvalue
  · intro h values hvalues i hi
    have hmem := List.mem_of_mem_filter (List.mem_of_getElem? (h i hi))
    rw [h i hi, Option.map_some, if_pos (by simpa using hmem)]
    rfl

section
variable (floatIndex : UInt64 → Int)

def lastKey (keys : List LuaKey) (i : Int) : Option LuaKey :=
  keys.reverse.find? fun key => keyIndex floatIndex key == some i

lemma lookup_bucketWrites (keys : List LuaKey) (values : LuaKey → LuaValue) {i : Int} (hi : 1 ≤ i) :
    (bucketWrites floatIndex (tableOf keys values)).reverse.lookup i =
      (lastKey floatIndex keys i).map values := by
  rw [lastKey, bucketWrites, tableOf, ← List.filterMap_reverse, ← List.map_reverse]
  induction keys.reverse with
  | nil => rfl
  | cons key keys ih =>
    rw [List.map_cons, List.filterMap_cons, List.find?_cons]
    cases hkey : keyIndex floatIndex key with
    | none => simpa [hkey] using ih
    | some j =>
      by_cases hj : j = i
      · subst hj
        simp [hi]
      have hne : (i == j) = false := beq_false_of_ne (Ne.symm hj)
      have hne' : (j == i) = false := beq_false_of_ne hj
      by_cases hpos : 1 ≤ j <;> simpa [hpos, hne, hne', List.lookup_cons] using ih

lemma mem_bucketWrites (keys : List LuaKey) (values : LuaKey → LuaValue) (i : Int) :
    i ∈ (bucketWrites floatIndex (tableOf keys values)).map Prod.fst ↔
      1 ≤ i ∧ (lastKey floatIndex keys i).isSome = true := by
  simp only [lastKey, List.find?_isSome, List.mem_reverse, beq_iff_eq, bucketWrites, tableOf,
    List.filterMap_map, List.mem_map, List.mem_filterMap, Function.comp_apply,
    Option.bind_eq_some_iff, Option.ite_none_right_eq_some, Option.some.injEq]
  constructor
  · rintro ⟨-, ⟨key, hkey, j, hj, hpos, rfl⟩, rfl⟩
    exact ⟨hpos, key, hkey, hj⟩
  · rintro ⟨hpos, key, hkey, hi⟩
    exact ⟨(i, values key), ⟨key, hkey, i, hi, hpos, rfl⟩, rfl⟩

lemma integer_of_lastKey {keys : List LuaKey} {i : Int} (h : .integer i ∈ keys) :
    (lastKey floatIndex keys i).isSome = true := by
  rw [lastKey, List.find?_isSome]
  exact ⟨.integer i, List.mem_reverse.mpr h, by simp [keyIndex]⟩

end

lemma sorted_getElem {l : List Int} (hl : l.Pairwise (· < ·)) {first : Int} {n : Nat}
    (hfirst : ∀ j ∈ l, first ≤ j) (hnext : ∀ i : Nat, i < n → first + i ∈ l) {i : Nat} (hi : i < n) :
    l[i]? = some (first + i) := by
  induction l generalizing first n i with
  | nil => cases hnext i hi
  | cons head l ih =>
    obtain ⟨hhead, hl⟩ := List.pairwise_cons.mp hl
    have hsame : head = first := by
      have hle := hfirst head List.mem_cons_self
      rcases List.mem_cons.mp (hnext 0 (by omega)) with h | h
      · omega
      · have hlt := hhead _ h
        omega
    subst hsame
    cases i with
    | zero => simp
    | succ =>
      have hrest : ∀ j : Nat, j < n - 1 → head + 1 + j ∈ l := by
        intro j hj
        rcases List.mem_cons.mp (hnext (j + 1) (by omega)) with h | h
        · omega
        · convert h using 1
          omega
      rw [List.getElem?_cons_succ, ih hl hhead hrest (by omega)]
      exact congrArg some (by omega)

lemma collectPositional_by_position_iff (floatIndex : UInt64 → Int) (keys : List LuaKey) :
    BindsByPosition (collectPositional floatIndex) keys ↔
      ∀ i, i < largestIndex keys → lastKey floatIndex keys (i + 1) = some (.integer (i + 1)) := by
  -- The values in the order of the indices, each that of the last key with its index.
  have hcollect : ∀ values (i : Nat), (collectPositional floatIndex (tableOf keys values))[i]? =
      ((((bucketWrites floatIndex (tableOf keys values)).map Prod.fst).toFinset.sort (· ≤ ·))[i]?).map
        fun j => ((lastKey floatIndex keys j).map values).getD .nil := by
    intro values i
    rw [collectPositional, List.getElem?_map]
    refine Option.map_congr fun j hj => ?_
    have hmem := List.mem_of_getElem? hj
    rw [Finset.mem_sort, List.mem_toFinset, mem_bucketWrites] at hmem
    rw [lookup_bucketWrites floatIndex keys values hmem.1]
  have horder : ∀ values, (∀ i, i < largestIndex keys → .integer (i + 1) ∈ keys) →
      ∀ i, i < largestIndex keys →
        (((bucketWrites floatIndex (tableOf keys values)).map Prod.fst).toFinset.sort
          (· ≤ ·))[i]? = some ((i : Int) + 1) := by
    intro values hkeys i hi
    rw [add_comm]
    apply sorted_getElem (Finset.sortedLT_sort _).pairwise _ _ hi
    · intro j hj
      rw [Finset.mem_sort, List.mem_toFinset, mem_bucketWrites] at hj
      exact hj.1
    · intro j hj
      rw [Finset.mem_sort, List.mem_toFinset, mem_bucketWrites, add_comm]
      exact ⟨by omega, integer_of_lastKey floatIndex (hkeys j hj)⟩
  simp only [BindsByPosition, hcollect, paramAt_tableOf]
  constructor
  · intro h
    have hkeys : ∀ i, i < largestIndex keys → .integer (i + 1) ∈ keys := by
      intro i hi
      obtain ⟨j, hj, hvalue⟩ :=
        Option.map_eq_some_iff.mp (h (markKey (.integer (i + 1))) (by simp [markKey]) i hi)
      have hmem := List.mem_of_getElem? hj
      rw [Finset.mem_sort, List.mem_toFinset, mem_bucketWrites] at hmem
      obtain ⟨key, hkey⟩ := Option.isSome_iff_exists.mp hmem.2
      by_contra hnot
      rw [hkey, if_neg (by simpa using hnot)] at hvalue
      cases hvalue
    intro i hi
    have hvalue := h (markKey (.integer (i + 1))) (by simp [markKey]) i hi
    rw [horder _ hkeys i hi, Option.map_some, if_pos (by simpa using hkeys i hi)] at hvalue
    cases hlast : lastKey floatIndex keys (i + 1) with
    | none =>
      rw [hlast] at hvalue
      cases hvalue
    | some =>
      rw [hlast] at hvalue
      simpa [markKey] using hvalue
  · intro h values hvalues i hi
    have hkeys : ∀ i, i < largestIndex keys → .integer (i + 1) ∈ keys := by
      intro i hi
      exact List.mem_reverse.mp (List.mem_of_find?_eq_some (h i hi))
    rw [horder values hkeys i hi, Option.map_some, h i hi,
      if_pos (by simpa using hkeys i hi)]
    rfl

/-- Whatever values a table holds, its placeholders get the values at their positions exactly if, in
PostgreSQL and SQLite, the numeric keys are visited from 1 on in their order, and in MySQL, every
index up to the largest is a key that no later key with the same index replaces. -/
theorem params_by_position_iff (floatIndex : UInt64 → Int) (keys : List LuaKey) :
    (BindsByPosition collectLuaParams keys ↔
        ∀ i, i < largestIndex keys → (keys.filter isNumber)[i]? = some (.integer (i + 1))) ∧
      (BindsByPosition sqlitePositional keys ↔
        ∀ i, i < largestIndex keys → (keys.filter isNumber)[i]? = some (.integer (i + 1))) ∧
      (BindsByPosition (collectPositional floatIndex) keys ↔
        ∀ i, i < largestIndex keys →
          lastKey floatIndex keys (i + 1) = some (.integer (i + 1))) :=
  ⟨numericValues_by_position_iff keys, numericValues_by_position_iff keys,
    collectPositional_by_position_iff floatIndex keys⟩

/-- A `nil` in front of a value shifts it, and PostgreSQL and SQLite bind in the order of visits. -/
theorem params_shifted : let hole := [(LuaKey.integer 2, LuaValue.string "x")]
    let swapped := [(LuaKey.integer 2, LuaValue.string "x"), (.integer 1, .string "y")]
    (paramAt hole 1 = .nil ∧ collectLuaParams hole = [.string "x"] ∧
        sqlitePositional hole = [.string "x"] ∧ collectPositional (fun _ => 0) hole = [.string "x"]) ∧
      paramAt swapped 1 = .string "y" ∧ collectLuaParams swapped = [.string "x", .string "y"] ∧
      sqlitePositional swapped = [.string "x", .string "y"] := by
  refine ⟨⟨rfl, rfl, rfl, ?_⟩, rfl, rfl, rfl⟩
  simp [collectPositional, bucketWrites, keyIndex]

end Parameters

/-- The proxy offers its three helper calls. -/
def HasHelpers (proxy : Proxy) : Prop :=
  ∀ name ∈ ["mapper", "register_mapper", "entity"], ∃ member ∈ proxy name, member.callable = true

def MapperCall.loaded (call : MapperCall) : Bool := call.valid && call.loads

lemma applyDbMapperApi_eq (loaded : Bool) (call : MapperCall) :
    applyDbMapperApi (if loaded then some .chunk else none) call =
      (if loaded || MapperCall.loaded call then some .chunk else none, call.proxy,
        call.valid && (loaded || call.loads)) := by
  obtain ⟨valid, loads, proxy⟩ := call
  cases valid <;> cases loaded <;> cases loads <;> rfl

lemma cachedAfter_eq (calls : List MapperCall) :
    cachedAfter calls = if calls.any MapperCall.loaded then some .chunk else none := by
  induction calls using List.reverseRecOn with
  | nil => rfl
  | append_singleton calls call ih =>
    have hfold : cachedAfter (calls ++ [call]) = (applyDbMapperApi (cachedAfter calls) call).1 := by
      simp [cachedAfter]
    rw [hfold, ih, applyDbMapperApi_eq]
    simp

/-- A call that returns true leaves the helpers on the proxy only where they were before. -/
theorem helpers_attached_iff (calls : List MapperCall) (call : MapperCall) :
    ((applyDbMapperApi (cachedAfter calls) call).2.2 = true →
      HasHelpers (applyDbMapperApi (cachedAfter calls) call).2.1 ∧
        ∀ name member, call.proxy name = some member →
          (applyDbMapperApi (cachedAfter calls) call).2.1 name = some member) ↔
      (call.valid = true → (call.loads = true ∨ ∃ earlier ∈ calls, earlier.valid ∧ earlier.loads) →
        HasHelpers call.proxy) := by
  have htrue : (call.valid && (calls.any MapperCall.loaded || call.loads)) = true ↔
      call.valid = true ∧ (call.loads = true ∨ ∃ earlier ∈ calls, earlier.valid ∧ earlier.loads) := by
    simp [MapperCall.loaded, or_comm]
  rw [cachedAfter_eq, applyDbMapperApi_eq, htrue, and_imp]
  refine forall₂_congr fun _ _ => ?_
  exact and_iff_left fun _ _ hmember => hmember

def freshProxy : Proxy := fun name => if name = "query" then some (.function 0) else none

/-- Neither the first proxy of a Lua state nor the next one gets the helpers. -/
theorem helpers_missing :
    (applyDbMapperApi none ⟨true, true, freshProxy⟩).2.2 = true ∧
      (applyDbMapperApi none ⟨true, true, freshProxy⟩).2.1 "mapper" = none ∧
      (applyDbMapperApi (cachedAfter [⟨true, true, freshProxy⟩])
        ⟨true, true, freshProxy⟩).2.2 = true ∧
      (applyDbMapperApi (cachedAfter [⟨true, true, freshProxy⟩])
        ⟨true, true, freshProxy⟩).2.1 "mapper" = none := by
  decide

/-! ## Numbers -/

section Numbers

variable (outside : UInt64 → Int64) (other : BoundValue) (doubleText : UInt64 → String)
  (dump : JsonDump) (floatText : UInt64 → List UInt8) (encode : List (LuaKey × LuaValue) → Json)

def wholeValue? : LuaValue → Option Int
  | .integer n => some n
  | .float bits => wholeDouble? bits
  | _ => none

/-- A text of the integer with the value of the number, or of the double that it is. -/
def KeepsText {T : Type} (integerText : Int → T) (doubleText : UInt64 → T) (number : LuaValue)
    (text : T) : Prop :=
  (∃ n, wholeValue? number = some n ∧ text = integerText n) ∨
    ∃ bits, number = .float bits ∧ text = doubleText bits

/-- The bound value still denotes the number. -/
def KeepsNumber (number : LuaValue) : BoundValue → Prop
  | .integer n => wholeValue? number = some n
  | .double bits => number = .float bits
  | .text s => KeepsText toString doubleText number s
  | .null => False

/-- All drivers and the queue give the number on as it is. -/
def KeptByAll (number : LuaValue) : Prop :=
  KeepsNumber doubleText number (sqliteBind outside number) ∧
    KeepsNumber doubleText number (mysqlBind outside other number) ∧
    KeepsNumber doubleText number (pgsqlBind outside doubleText number) ∧
    ∃ text, luaToMessage outside dump encode number = .ok text ∧
      KeepsText (bytesOf ∘ toString) floatText number text

lemma truncate_whole {bits : UInt64} {n : Int} (h : wholeDouble? bits = some n) :
    truncateDouble? bits = some n := by
  unfold wholeDouble? at h
  unfold truncateDouble?
  extract_lets sign exponent fraction at h
  extract_lets
  by_cases hzero : exponent = 0
  · have hsmall : (2 ^ 52 + fraction) / 2 ^ 1075 = 0 := by
      refine Nat.div_eq_of_lt (lt_of_lt_of_le (b := 2 ^ 53) ?_ ?_)
      · exact Nat.add_lt_add_left (Nat.mod_lt _ (by decide)) (2 ^ 52)
      · gcongr <;> decide
    rw [if_neg (by omega), if_pos hzero] at h
    rw [if_neg (by omega), if_neg (by omega), show 1075 - exponent = 1075 by omega, hsmall]
    split_ifs at h
    rw [Nat.cast_zero, mul_zero]
    exact h
  · rw [if_neg hzero] at h
    split_ifs at h ⊢
    all_goals exact h

variable {dump floatText} (hdump : dump.Documented floatText)

include hdump

/-- Each of the four gets the same integer. -/
lemma keptByAll_iff {number : LuaValue} {n : Int} (h : number.asLuaInteger? outside = some n) :
    KeptByAll outside other doubleText dump floatText encode number ↔
      wholeValue? number = some n := by
  cases number with
  | integer | float =>
    simp only [KeptByAll, sqliteBind, mysqlBind, pgsqlBind, bindValue, luaToMessage, h,
      hdump.integer]
    refine ⟨fun hkept => hkept.1, fun hwhole => ⟨hwhole, hwhole, .inl ⟨n, hwhole, rfl⟩, _, rfl, ?_⟩⟩
    exact .inl ⟨n, hwhole, rfl⟩
  | _ => cases h

/-- Integers arrive as they are, and of the floats those that are an `int64_t`. -/
theorem numbers_kept_iff :
    (∀ n, KeptByAll outside other doubleText dump floatText encode (.integer n)) ∧
      ∀ bits, KeptByAll outside other doubleText dump floatText encode (.float bits) ↔
        ∃ n, wholeDouble? bits = some n ∧ -2 ^ 63 ≤ n ∧ n < 2 ^ 63 := by
  refine ⟨fun n => (keptByAll_iff _ _ _ _ hdump rfl).mpr rfl, fun bits => ?_⟩
  rw [keptByAll_iff _ _ _ _ hdump rfl]
  constructor
  · intro hwhole
    refine ⟨_, hwhole, ?_⟩
    rw [truncate_whole hwhole]
    cases hrange : (some _ : Option Int).filter _ with
    | none => exact ⟨(outside bits).le_toInt, (outside bits).toInt_lt⟩
    | some n => simpa using (Option.filter_eq_some_iff.mp hrange).2
  · rintro ⟨n, hwhole, hrange⟩
    rw [truncate_whole hwhole, Option.filter_some_pos (by simpa using hrange)]
    exact hwhole

omit hdump

theorem numbers_kept_iff_three :
    KeptByAll (fun _ => 0) .null (fun _ => "3.000000") (Json.dump fun _ => bytesOf "3.0")
      (fun _ => bytesOf "3.0") (fun _ => .null) (.float 0x4008000000000000) :=
  ((numbers_kept_iff (fun _ => 0) .null (fun _ => "3.000000") (fun _ => .null)
    (dump_documented fun _ => bytesOf "3.0")).2 _).mpr ⟨3, by decide⟩

/-- The number 3.5 is bound as 3, and the message is "3". -/
theorem fraction_truncated :
    sqliteBind (fun _ => 0) (.float 0x400C000000000000) = .integer 3 ∧
      mysqlBind (fun _ => 0) .null (.float 0x400C000000000000) = .integer 3 ∧
      pgsqlBind (fun _ => 0) (fun _ => "3.500000") (.float 0x400C000000000000) = .text "3" ∧
      luaToMessage (fun _ => 0) (Json.dump fun _ => bytesOf "3.5") (fun _ => .null)
        (.float 0x400C000000000000) = .ok (bytesOf "3") := by
  decide

end Numbers

def guardConn : Guard → Option Nat
  | .connecting _ => none
  | .checking _ conn | .held _ conn => some conn

def isHeld : Guard → Bool
  | .held _ _ => true
  | _ => false

def poolConns (s : Pool) : List Nat := s.freeList ++ s.guards.filterMap guardConn

/-- `current_size` counts the connections that are idle or in use. -/
structure PoolCounts (s : Pool) : Prop where
  size : s.currentSize = s.freeList.length + s.guards.length
  bound : s.currentSize ≤ s.poolSize
  fresh : ∀ conn ∈ poolConns s, conn < s.nextConn
  nodup : (poolConns s).Nodup

section

variable {s next : Pool} {l : PoolLabel} {c conn : Nat} {guard : Guard}

lemma guards_perm (hmem : guard ∈ s.guards) : (guard :: s.guards.erase guard).Perm s.guards :=
  (List.perm_cons_erase hmem).symm

lemma size_step (hsize : s.currentSize = s.freeList.length + s.guards.length)
    (hbound : s.currentSize ≤ s.poolSize) (hstep : s.step l = some next) :
    next.currentSize = next.freeList.length + next.guards.length ∧
      next.currentSize ≤ next.poolSize := by
  cases l with
  | acquire | wake | giveUp =>
    grind [Pool.step, Pool.acquire, Pool.wake, Pool.waitOver, Pool.take, Pool.reserve]
  | connected | alive | release => grind [Pool.step]
  | connectFailed | dead | discard => grind [Pool.step, Pool.lose]

lemma conns_take (c : Nat) {rest : List Nat} (hfree : s.freeList = conn :: rest) :
    (poolConns (s.take c conn rest)).Perm (poolConns s) := by
  have hconn : guardConn (if s.driver = .pgsql then .checking c conn else .held c conn) =
      some conn := by
    split <;> rfl
  simp [poolConns, Pool.take, hfree, hconn]

lemma conns_lose (hlose : s.lose guard = some next) :
    (poolConns next).Subperm (poolConns s) ∧ next.nextConn = s.nextConn := by
  obtain ⟨-, heq⟩ := Option.ite_none_right_eq_some.mp hlose
  cases heq
  exact ⟨(((List.erase_sublist ..).filterMap _).append_left _).subperm, rfl⟩

lemma conns_step (hstep : s.step l = some next) :
    ((poolConns next).Subperm (poolConns s) ∧ next.nextConn = s.nextConn) ∨
      ((poolConns next).Perm (s.nextConn :: poolConns s) ∧ next.nextConn = s.nextConn + 1) := by
  have hguards : ∀ {guard}, guard ∈ s.guards →
      (s.freeList ++ (guard :: s.guards.erase guard).filterMap guardConn).Perm (poolConns s) :=
    fun hmem => ((guards_perm hmem).filterMap guardConn).append_left s.freeList
  cases l with
  | connectFailed | discard => exact .inl (conns_lose hstep)
  | dead c conn =>
    obtain ⟨mid, hlose, rfl⟩ := Option.map_eq_some_iff.mp hstep
    have hlost := conns_lose hlose
    exact .inl hlost
  | acquire c =>
    obtain ⟨-, heq⟩ := Option.ite_none_right_eq_some.mp hstep
    cases heq
    unfold Pool.acquire
    split
    · exact .inl ⟨(conns_take c ‹_›).subperm, rfl⟩
    · split <;> exact .inl ⟨.refl _, rfl⟩
  | wake c =>
    obtain ⟨-, heq⟩ := Option.ite_none_right_eq_some.mp hstep
    cases heq
    unfold Pool.wake
    split
    · exact .inl ⟨(conns_take c (by exact ‹_›)).subperm, rfl⟩
    · exact .inl ⟨.refl _, rfl⟩
  | giveUp c =>
    obtain ⟨-, heq⟩ := Option.ite_none_right_eq_some.mp hstep
    cases heq
    exact .inl ⟨.refl _, rfl⟩
  | connected c =>
    obtain ⟨hmem, heq⟩ := Option.ite_none_right_eq_some.mp hstep
    cases heq
    exact .inr ⟨List.perm_middle.trans ((hguards hmem).cons _), rfl⟩
  | alive c conn =>
    obtain ⟨hmem, heq⟩ := Option.ite_none_right_eq_some.mp hstep
    cases heq
    exact .inl ⟨(hguards hmem).subperm, rfl⟩
  | release c conn =>
    obtain ⟨⟨-, hmem⟩, heq⟩ := Option.ite_none_right_eq_some.mp hstep
    cases heq
    refine .inl ⟨?_, rfl⟩
    simpa [poolConns, guardConn] using (hguards hmem).subperm

theorem poolCounts_step (h : PoolCounts s) (hstep : s.step l = some next) : PoolCounts next := by
  obtain ⟨hsize, hbound⟩ := size_step h.size h.bound hstep
  rcases conns_step hstep with ⟨hconns, hnext⟩ | ⟨hconns, hnext⟩
  · refine ⟨hsize, hbound, fun conn hmem => hnext ▸ h.fresh conn (hconns.subset hmem), ?_⟩
    obtain ⟨conns, hperm, hsub⟩ := hconns
    exact hperm.nodup_iff.mp (h.nodup.sublist hsub)
  · have hnew : s.nextConn ∉ poolConns s := fun hmem => lt_irrefl _ (h.fresh _ hmem)
    refine ⟨hsize, hbound, ?_, hconns.nodup_iff.mpr (List.nodup_cons.mpr ⟨hnew, h.nodup⟩)⟩
    intro conn hmem
    rw [hnext, Nat.lt_succ_iff]
    rcases List.mem_cons.mp (hconns.mem_iff.mp hmem) with rfl | hmem
    · exact le_rfl
    · exact (h.fresh conn hmem).le

end

section

variable {driver : Driver} {poolSize : Nat} {labels : List PoolLabel} {s next : Pool} {c : Nat}

lemma poolCounts_reachable (hrun : run Pool.step { driver, poolSize } labels = some s) :
    PoolCounts s := by
  refine reachable_invariant Pool.step (fun _ _ _ h hstep => poolCounts_step h hstep) ?_ hrun
  exact ⟨rfl, Int.natCast_nonneg _, by simp [poolConns], by simp [poolConns]⟩

/-- In every state that a pool reaches `current_size` is the number of its idle connections, those of
its callers and those that are opened or looked at. It is within the limit, and no connection has
two callers. -/
theorem pool_counts_connections (hrun : run Pool.step { driver, poolSize } labels = some s) :
    s.currentSize = s.freeList.length + s.guards.countP isHeld +
        s.guards.countP (fun guard => !isHeld guard) ∧
      0 ≤ s.currentSize ∧ s.currentSize ≤ s.poolSize ∧
      ∀ c c' conn, .held c conn ∈ s.guards → .held c' conn ∈ s.guards → c = c' := by
  have h := poolCounts_reachable hrun
  have hsize := h.size
  have hcount := s.guards.length_eq_countP_add_countP isHeld
  simp only [decide_not, Bool.decide_eq_true] at hcount
  refine ⟨by omega, by omega, h.bound, ?_⟩
  intro c c' conn hmem hmem'
  by_contra hne
  have hother : .held c' conn ∈ s.guards.erase (.held c conn) :=
    (List.mem_erase_of_ne (by simpa using Ne.symm hne)).mpr hmem'
  have hnodup := ((guards_perm hmem).filterMap guardConn).nodup_iff.mpr h.nodup.of_append_right
  exact (List.nodup_cons.mp hnodup).1 (List.mem_filterMap.mpr ⟨_, hother, rfl⟩)

end

/-- Two callers, of whom the first breaks its connection. -/
def discardRun : List PoolLabel :=
  [.acquire 0, .acquire 1, .connected 1, .connected 0, .discard 0 1, .release 1 0, .acquire 2]

theorem pool_counts_connections_one :
    ∃ s, run Pool.step { driver := .pgsql, poolSize := 2 } discardRun = some s ∧
      s.currentSize = 1 := by
  have hrun : run Pool.step { driver := .pgsql, poolSize := 2 } discardRun = some _ := rfl
  exact ⟨_, hrun, (pool_counts_connections hrun).1⟩

/-! ## Locking `pool_mu` again -/

def idle (s : Pool) : List Nat := if s.relocked = none then s.freeList else []

/-- The idle connections that `acquire_conn` finds, when it has locked `pool_mu` or when its wait is
over. -/
def idleFound (s : Pool) (c : Nat) (others : List PoolLabel) : List Nat :=
  if s.freeList = [] ∧ s.poolSize ≤ s.currentSize then
    ((run Pool.step (s.acquire c) others).map idle).getD []
  else s.freeList

section

variable {s next : Pool} {l : PoolLabel} {c : Nat} {others : List PoolLabel}

/-- What the steps of the other calls leave as it is while a call waits. -/
structure Waits (c : Nat) (s : Pool) : Prop where
  driver : s.driver = .pgsql
  waiting : c ∈ s.waiting
  unlocked : s.relocked ≠ some c

lemma Waits.step (h : Waits c s) (hcaller : l.caller ≠ c) (hstep : s.step l = some next) :
    Waits c next := by
  obtain ⟨hdriver, hwaiting, hunlocked⟩ := h
  constructor <;> cases l <;>
    grind [Pool.step, Pool.acquire, Pool.wake, Pool.take, Pool.reserve, Pool.lose, PoolLabel.caller]

lemma Waits.run (h : Waits c s) (hothers : ∀ l ∈ others, l.caller ≠ c)
    (hrun : run Pool.step s others = some next) : Waits c next :=
  run_invariant Pool.step (fun _ _ _ => Waits.step) h
    (admits_of_forall _ (fun l hl _ => hothers l hl) s) hrun

lemma countP_enters_others (hothers : ∀ l ∈ others, l.caller ≠ c) :
    others.countP (PoolLabel.enters c) = 0 := by
  refine List.countP_eq_zero.mpr fun l hl => ?_
  have hcaller := hothers l hl
  cases l <;> simp_all [PoolLabel.enters, PoolLabel.caller, eq_comm]

lemma afterWait_unlocked_iff (h : Waits c s) (healthy : Nat → Bool) :
    ∃ next, run Pool.step s (s.afterWait c healthy) = some next ∧
      ((next.relocked ≠ some c ∧ (s.afterWait c healthy).countP (PoolLabel.enters c) ≤
          (idle s).countP fun conn => !healthy conn) ↔
        ∀ conn ∈ (idle s).head?, healthy conn = true) := by
  obtain ⟨hdriver, hwaiting, hunlocked⟩ := h
  cases hlock : s.relocked with
  | some d => exact ⟨s, by simp_all [Pool.afterWait, run, idle]⟩
  | none =>
    cases hfree : s.freeList with
    | nil =>
      simp [Pool.afterWait, run, Pool.step, Pool.waitOver, PoolLabel.enters, idle, *]
    | cons conn rest =>
      cases hhealthy : healthy conn <;>
        simp [Pool.afterWait, Pool.healthCheck, run, Pool.step, Pool.waitOver, Pool.wake, Pool.take,
          Pool.lose, PoolLabel.enters, idle, *]

end

/-- `acquire_conn` of a PostgreSQL pool does not lock `pool_mu` while it has it, exactly if the first
idle connection that it finds is not dead. -/
theorem attempt_unlocked_iff (s : Pool) (c : Nat) (healthy : Nat → Bool) (connects : Bool)
    (others : List PoolLabel) (hdriver : s.driver = .pgsql) (hlock : s.relocked = none)
    (hothers : ∀ l ∈ others, l.caller ≠ c)
    (hrun : ∃ woken, run Pool.step (s.acquire c) others = some woken) :
    ∃ next, run Pool.step s (s.attempt c healthy connects others) = some next ∧
      ((next.relocked ≠ some c ∧ (s.attempt c healthy connects others).countP (PoolLabel.enters c) ≤
          (idleFound s c others).countP (fun conn => !healthy conn) + 1) ↔
        ∀ conn ∈ (idleFound s c others).head?, healthy conn = true) := by
  have hstart : s.step (.acquire c) = some (s.acquire c) := if_pos hlock
  have henters : PoolLabel.enters c (.acquire c) = true := decide_eq_true rfl
  cases hfree : s.freeList with
  | cons conn rest =>
    cases hhealthy : healthy conn <;>
      simp [Pool.attempt, Pool.healthCheck, idleFound, hfree, hhealthy, run, Pool.step, hlock,
        Pool.acquire, Pool.take, hdriver, Pool.lose, PoolLabel.enters]
  | nil =>
    by_cases hroom : s.currentSize < s.poolSize
    · cases connects <;>
        simp [Pool.attempt, idleFound, hfree, hroom, hroom.not_ge, run, Pool.step, hlock,
          Pool.acquire, Pool.reserve, Pool.lose, PoolLabel.enters]
    · obtain ⟨woken, hwoken⟩ := hrun
      have hwaits : Waits c woken := by
        refine Waits.run ⟨?_, ?_, ?_⟩ hothers hwoken <;> simp [Pool.acquire, *]
      have hfound : idleFound s c others = idle woken := by
        rw [idleFound, if_pos ⟨hfree, not_lt.mp hroom⟩, hwoken]
        rfl
      have hattempt : s.attempt c healthy connects others =
          .acquire c :: (others ++ woken.afterWait c healthy) := by
        simp [Pool.attempt, hfree, hroom, hwoken]
      obtain ⟨next, hnext, hiff⟩ := afterWait_unlocked_iff hwaits healthy
      refine ⟨next, ?_, ?_⟩
      · rw [hattempt, run, hstart]
        exact run_append _ hwoken hnext
      · rw [hfound, hattempt, List.countP_cons_of_pos henters, List.countP_append,
          countP_enters_others hothers, zero_add, Nat.add_le_add_iff_right]
        exact hiff

/-- All connections are in use. -/
def busyPool : Pool :=
  { driver := .pgsql, poolSize := 1, currentSize := 1, guards := [.held 0 0], nextConn := 1 }

/-- The caller waits until the other one has given its connection back. -/
theorem attempt_unlocked_iff_released :
    ∃ next, run Pool.step busyPool (busyPool.attempt 1 (fun _ => true) true [.release 0 0]) =
        some next ∧ next.relocked ≠ some 1 := by
  obtain ⟨next, hrun, hiff⟩ := attempt_unlocked_iff busyPool 1 (fun _ => true) true [.release 0 0]
    rfl rfl (by decide) ⟨_, rfl⟩
  exact ⟨next, hrun, (hiff.mpr fun _ _ => rfl).1⟩

/-- One idle connection that has died while it was idle. -/
def stalePool : Pool :=
  { driver := .pgsql, poolSize := 4, currentSize := 1, freeList := [0], nextConn := 1 }

/-- The caller waits for the lock that it has itself, also if the dead connection is one that it has
waited for. -/
theorem stale_connection_relocks :
    (run Pool.step { driver := .pgsql, poolSize := 4 } [.acquire 0, .connected 0, .release 0 0] =
        some stalePool ∧
      ∃ next, run Pool.step stalePool (stalePool.attempt 1 (fun _ => false) true []) = some next ∧
        next.relocked = some 1) ∧
    run Pool.step { driver := .pgsql, poolSize := 1 } [.acquire 0, .connected 0] = some busyPool ∧
      ∃ next, run Pool.step busyPool (busyPool.attempt 1 (fun _ => false) true [.release 0 0]) =
        some next ∧ next.relocked = some 1 :=
  ⟨⟨rfl, _, rfl, rfl⟩, rfl, _, rfl, rfl⟩

def losesSlot : PoolLabel → Bool
  | .connectFailed _ | .dead _ _ | .discard _ _ => true
  | _ => false

/-- No slot is given up while calls wait for one, except by MySQL. -/
def KeepsSlots (s : Pool) (l : PoolLabel) : Prop :=
  s.driver = .mysql ∨ s.waiting = [] ∨ losesSlot l = false

instance (s : Pool) (l : PoolLabel) : Decidable (KeepsSlots s l) :=
  inferInstanceAs (Decidable (_ ∨ _ ∨ _))

/-- A PostgreSQL caller waits only when the pool cannot grow. -/
def Full (s : Pool) : Prop := s.driver = .pgsql → s.waiting ≠ [] → s.poolSize ≤ s.currentSize

section

variable {s next : Pool} {l : PoolLabel} {guard : Guard}

lemma full_step (h : Full s) (hgood : KeepsSlots s l) (hstep : s.step l = some next) :
    Full next := by
  unfold Full KeepsSlots at *
  cases l with
  | acquire | wake | giveUp =>
    grind [Pool.step, Pool.acquire, Pool.wake, Pool.take, Pool.reserve]
  | connected | alive | release => grind [Pool.step]
  | connectFailed | dead | discard => grind [Pool.step, Pool.lose, losesSlot]

end

/-- A caller that gives up has waited for a pool without an idle connection and without a free slot,
if no slot of a PostgreSQL pool is given back while someone waits. -/
theorem giveUp_exhausted {driver : Driver} {poolSize c : Nat} {labels : List PoolLabel}
    {s next : Pool} (hgood : Admits Pool.step KeepsSlots { driver, poolSize } labels)
    (hrun : run Pool.step { driver, poolSize } labels = some s)
    (hstep : s.step (.giveUp c) = some next) : s.freeList = [] ∧ s.currentSize = s.poolSize := by
  have hcounts := poolCounts_reachable hrun
  have hfull : Full s := run_invariant Pool.step (fun _ _ _ => full_step) (by simp [Full]) hgood hrun
  obtain ⟨⟨-, hmem, hover⟩, -⟩ := Option.ite_none_right_eq_some.mp hstep
  have hnone : s.freeList = [] ∧ (s.driver = .mysql → s.poolSize ≤ s.currentSize) := by
    simpa [Pool.waitOver] using hover
  refine ⟨hnone.1, le_antisymm hcounts.bound ?_⟩
  cases hdriver : s.driver with
  | mysql => exact hnone.2 hdriver
  | pgsql => exact hfull hdriver (List.ne_nil_of_mem hmem)

def waitingRun : List PoolLabel := [.acquire 0, .connected 0, .acquire 1]

def waitingPool : Pool :=
  { driver := .pgsql, poolSize := 1, currentSize := 1, guards := [.held 0 0], waiting := [1],
    nextConn := 1 }

theorem giveUp_exhausted_waiting :
    run Pool.step { driver := .pgsql, poolSize := 1 } waitingRun = some waitingPool ∧
      waitingPool.freeList = [] ∧ waitingPool.currentSize = waitingPool.poolSize := by
  have hstep : waitingPool.step (.giveUp 1) = some { waitingPool with waiting := [] } := rfl
  have hgood : Admits Pool.step KeepsSlots { driver := .pgsql, poolSize := 1 } waitingRun := by
    decide
  exact ⟨rfl, giveUp_exhausted hgood rfl hstep⟩

/-- The broken connection is gone and its slot is free, and the caller gives up. -/
theorem giveUp_beside_free_slot :
    ∃ s next, run Pool.step { driver := .pgsql, poolSize := 1 } (waitingRun ++ [.discard 0 0]) =
        some s ∧
      s.step (.giveUp 1) = some next ∧ s.currentSize < s.poolSize :=
  ⟨_, _, rfl, rfl, by decide⟩

end ShieldRuntime.Proofs
