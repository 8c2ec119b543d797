import Mathlib.Tactic.Common

/-!
# Computations that may fail

Computations in `Except`, and a loop over a vector that updates its elements, writes to a log and
may stop.
-/

namespace ShieldRuntime.Library

variable {ε α β : Type} {f : α → Except ε β} {bs : List β}

lemma ok_of_bind_ok {x : Except ε α} {b : β} (h : (x >>= f) = .ok b) :
    ∃ a, x = .ok a ∧ f a = .ok b := by
  cases x with
  | error => cases h
  | ok a => exact ⟨a, rfl, h⟩

lemma ok_of_mapM_cons {a : α} {as : List α} (h : (a :: as).mapM f = .ok bs) :
    ∃ b rest, f a = .ok b ∧ as.mapM f = .ok rest ∧ bs = b :: rest := by
  rw [List.mapM_cons] at h
  obtain ⟨b, hb, h⟩ := ok_of_bind_ok h
  obtain ⟨rest, hrest, h⟩ := ok_of_bind_ok h
  exact ⟨b, rest, hb, hrest, (Except.ok.inj h).symm⟩

lemma ok_of_mapM_append {before after : List α} {a : α}
    (h : (before ++ a :: after).mapM f = .ok bs) :
    ∃ front b back, before.mapM f = .ok front ∧ f a = .ok b ∧ bs = front ++ b :: back := by
  induction before generalizing bs with
  | nil =>
    obtain ⟨b, back, hb, -, rfl⟩ := ok_of_mapM_cons h
    exact ⟨[], b, back, rfl, hb, rfl⟩
  | cons x before ih =>
    obtain ⟨y, rest, hy, hrest, rfl⟩ := ok_of_mapM_cons h
    obtain ⟨front, b, back, hfront, hb, rfl⟩ := ih hrest
    refine ⟨y :: front, b, back, ?_, hb, rfl⟩
    rw [List.mapM_cons, hy, hfront]
    rfl

/-- The loop; the elements after the one that stops it stay as they are. -/
def forEach {ω : Type} (f : α → α × List ω × Option ε) : List α → List α × List ω × Option ε
  | [] => ([], [], none)
  | a :: rest =>
    match f a with
    | (a', log, some stop) => (a' :: rest, log, some stop)
    | (a', log, none) =>
      let (rest', log', stop) := forEach f rest
      (a' :: rest', log ++ log', stop)

section Loop

variable {ω : Type} {f : α → α × List ω × Option ε} {rest as : List α}

lemma forEach_cons_stop {a : α} {stop : ε} (h : (f a).2.2 = some stop) :
    forEach f (a :: rest) = ((f a).1 :: rest, (f a).2.1, some stop) := by
  obtain ⟨⟨a', log, stop'⟩, hf⟩ : ∃ result, f a = result := ⟨_, rfl⟩
  rw [hf] at h
  cases h
  rw [forEach, hf]

lemma forEach_cons {a : α} (h : (f a).2.2 = none) :
    forEach f (a :: rest) =
      ((f a).1 :: (forEach f rest).1, (f a).2.1 ++ (forEach f rest).2.1, (forEach f rest).2.2) := by
  obtain ⟨⟨a', log, stop⟩, hf⟩ : ∃ result, f a = result := ⟨_, rfl⟩
  rw [hf] at h
  cases h
  rw [forEach, hf]

lemma forEach_none_iff : (forEach f as).2.2 = none ↔ ∀ a ∈ as, (f a).2.2 = none := by
  induction as with
  | nil => simp [forEach]
  | cons a rest ih =>
    cases hstop : (f a).2.2 with
    | some => simp [forEach_cons_stop hstop, hstop]
    | none => simp [forEach_cons hstop, hstop, ih]

lemma forEach_complete (h : (forEach f as).2.2 = none) :
    (forEach f as).1 = as.map (fun a => (f a).1) ∧
      (forEach f as).2.1 = as.flatMap fun a => (f a).2.1 := by
  induction as with
  | nil => exact ⟨rfl, rfl⟩
  | cons a rest ih =>
    have hall := forEach_none_iff.mp h
    obtain ⟨has, hlog⟩ := ih (forEach_none_iff.mpr fun b hb => hall b (List.mem_cons_of_mem _ hb))
    rw [forEach_cons (hall a List.mem_cons_self), has, hlog]
    exact ⟨rfl, rfl⟩

lemma mem_forEach {b : α} (h : b ∈ (forEach f as).1) : ∃ a ∈ as, b = a ∨ b = (f a).1 := by
  induction as with
  | nil => cases h
  | cons a rest ih =>
    have htail : ∀ c ∈ rest, ∀ b, (b = c ∨ b = (f c).1) →
        ∃ a' ∈ a :: rest, b = a' ∨ b = (f a').1 :=
      fun c hc b hb => ⟨c, List.mem_cons_of_mem _ hc, hb⟩
    cases hstop : (f a).2.2 with
    | some =>
      rw [forEach_cons_stop hstop] at h
      rcases List.mem_cons.mp h with rfl | h
      · exact ⟨a, List.mem_cons_self, .inr rfl⟩
      · exact htail b h b (.inl rfl)
    | none =>
      rw [forEach_cons hstop] at h
      rcases List.mem_cons.mp h with rfl | h
      · exact ⟨a, List.mem_cons_self, .inr rfl⟩
      · obtain ⟨c, hc, hb⟩ := ih h
        exact htail c hc b hb

lemma forEach_map {γ : Type} {g : α → γ} (h : ∀ a, g (f a).1 = g a) (as : List α) :
    (forEach f as).1.map g = as.map g := by
  induction as with
  | nil => rfl
  | cons a rest ih =>
    cases hstop : (f a).2.2 with
    | some => rw [forEach_cons_stop hstop, List.map_cons, List.map_cons, h]
    | none => rw [forEach_cons hstop, List.map_cons, List.map_cons, h, ih]

lemma mem_forEach_log {e : ω} (h : e ∈ (forEach f as).2.1) : ∃ a ∈ as, e ∈ (f a).2.1 := by
  induction as with
  | nil => cases h
  | cons a rest ih =>
    cases hstop : (f a).2.2 with
    | some =>
      rw [forEach_cons_stop hstop] at h
      exact ⟨a, List.mem_cons_self, h⟩
    | none =>
      rw [forEach_cons hstop] at h
      rcases List.mem_append.mp h with h | h
      · exact ⟨a, List.mem_cons_self, h⟩
      · obtain ⟨b, hb, he⟩ := ih h
        exact ⟨b, List.mem_cons_of_mem _ hb, he⟩

/-- The elements that the loop comes to. -/
def visited (f : α → α × List ω × Option ε) : List α → List α
  | [] => []
  | a :: rest =>
    match (f a).2.2 with
    | some _ => [a]
    | none => a :: visited f rest

lemma forEach_split (f : α → α × List ω × Option ε) (as : List α) :
    ∃ after, as = visited f as ++ after ∧
      (forEach f as).1 = (visited f as).map (fun a => (f a).1) ++ after ∧
      (forEach f as).2.1 = (visited f as).flatMap fun a => (f a).2.1 := by
  induction as with
  | nil => exact ⟨[], rfl, rfl, rfl⟩
  | cons a rest ih =>
    obtain ⟨after, hsplit, has, hlog⟩ := ih
    cases hstop : (f a).2.2 with
    | some =>
      rw [forEach_cons_stop hstop, visited, hstop]
      exact ⟨rest, rfl, rfl, by simp⟩
    | none =>
      rw [forEach_cons hstop, visited, hstop, has, hlog]
      exact ⟨after, congrArg (a :: ·) hsplit, rfl, rfl⟩

/-- With different keys, the part of the log with the key of an element is what was written for
it. -/
lemma filter_flatMap_keyed {κ : Type} [DecidableEq κ] {key : α → κ} {owner : ω → κ}
    {g : α → List ω} (howner : ∀ a ∈ as, ∀ e ∈ g a, owner e = key a)
    (hnodup : (as.map key).Nodup) {a : α} (ha : a ∈ as) :
    (as.flatMap g).filter (owner · = key a) = g a := by
  induction as with
  | nil => cases ha
  | cons b rest ih =>
    rw [List.map_cons, List.nodup_cons] at hnodup
    obtain ⟨hfirst, hothers⟩ := List.forall_mem_cons.mp howner
    have hrest : ∀ c ∈ rest, key b ≠ key c := fun c hc heq =>
      hnodup.1 (heq ▸ List.mem_map_of_mem hc)
    rw [List.flatMap_cons, List.filter_append]
    rcases List.mem_cons.mp ha with rfl | ha
    · have hnone : (rest.flatMap g).filter (owner · = key a) = [] := by
        refine List.filter_eq_nil_iff.mpr fun e he => ?_
        obtain ⟨c, hc, he⟩ := List.mem_flatMap.mp he
        simpa [hothers c hc e he] using (hrest c hc).symm
      rw [hnone, List.append_nil]
      exact List.filter_eq_self.mpr fun e he => by simpa using hfirst e he
    · have hnone : (g b).filter (owner · = key a) = [] :=
        List.filter_eq_nil_iff.mpr fun e he => by simpa [hfirst e he] using hrest a ha
      rw [hnone, List.nil_append, ih hothers hnodup.2 ha]

end Loop

end ShieldRuntime.Library
