import Mathlib.Tactic

/-!
# Runs of a labelled machine

A machine is a step function on states; a label says which component moves and how its
nondeterminism is resolved.
-/

namespace ShieldRuntime.Library

section

variable {S L : Type} (step : S → L → Option S)

/-- The steps of a machine, one label after the other. -/
def run : S → List L → Option S
  | s, [] => some s
  | s, l :: ls => (step s l).bind fun next => run next ls

/-- Every step of the run that is taken meets the condition in the state before it. -/
def Admits (good : S → L → Prop) : S → List L → Prop
  | _, [] => True
  | s, l :: ls => good s l ∧ ∀ next ∈ step s l, Admits good next ls

instance decidableAdmits (good : S → L → Prop) [∀ s l, Decidable (good s l)] :
    ∀ s ls, Decidable (Admits step good s ls)
  | _, [] => isTrue trivial
  | s, l :: ls =>
    have := fun next => decidableAdmits good next ls
    inferInstanceAs (Decidable (good s l ∧ ∀ next ∈ step s l, Admits step good next ls))

variable {good : S → L → Prop} {s mid last : S} {ls ls' : List L} {inv : S → Prop} {E : Type}

lemma Admits.mono {good' : S → L → Prop} (himp : ∀ s l, good s l → good' s l)
    (h : Admits step good s ls) : Admits step good' s ls := by
  induction ls generalizing s with
  | nil => trivial
  | cons l ls ih => exact ⟨himp s l h.1, fun next hnext => ih (h.2 next hnext)⟩

/-- The conditions agree where `inv` holds, and steps that meet the first keep it. -/
lemma admits_congr (inv : S → Prop) {good' : S → L → Prop}
    (hiff : ∀ s l, inv s → (good s l ↔ good' s l))
    (hstep : ∀ s l next, inv s → good s l → step s l = some next → inv next) (h : inv s) :
    Admits step good s ls ↔ Admits step good' s ls := by
  induction ls generalizing s with
  | nil => rfl
  | cons l ls ih =>
    rw [Admits, Admits, ← hiff s l h]
    refine and_congr_right fun hgood => forall₂_congr fun next hnext => ?_
    exact ih (hstep s l next h hgood hnext)

lemma admits_of_forall (h : ∀ l ∈ ls, ∀ s, good s l) (s : S) : Admits step good s ls := by
  induction ls generalizing s with
  | nil => trivial
  | cons l ls ih =>
    obtain ⟨hl, hls⟩ := List.forall_mem_cons.mp h
    exact ⟨hl s, fun next _ => ih hls next⟩

lemma run_cons {next : S} {l : L} (h : run step s (l :: ls) = some next) :
    ∃ mid, step s l = some mid ∧ run step mid ls = some next :=
  Option.bind_eq_some_iff.mp h

lemma admits_append (h : Admits step good s ls) (hrun : run step s ls = some mid)
    (h' : Admits step good mid ls') : Admits step good s (ls ++ ls') := by
  induction ls generalizing s with
  | nil =>
    cases hrun
    exact h'
  | cons l ls ih =>
    obtain ⟨next, hnext, hrest⟩ := run_cons step hrun
    refine ⟨h.1, ?_⟩
    intro other hother
    have hsame : next = other := Option.some.inj (hnext.symm.trans hother)
    subst hsame
    exact ih (h.2 next hnext) hrest

lemma run_append (h : run step s ls = some mid) (h' : run step mid ls' = some last) :
    run step s (ls ++ ls') = some last := by
  induction ls generalizing s with
  | nil =>
    cases h
    exact h'
  | cons l ls ih =>
    obtain ⟨next, hnext, hrest⟩ := run_cons step h
    simp only [List.cons_append, run, hnext, Option.bind_some]
    exact ih hrest

lemma run_split (h : run step s (ls ++ ls') = some last) :
    ∃ mid, run step s ls = some mid ∧ run step mid ls' = some last := by
  induction ls generalizing s with
  | nil => exact ⟨s, rfl, h⟩
  | cons l ls ih =>
    obtain ⟨next, hnext, hrest⟩ := run_cons step h
    obtain ⟨mid, hmid, hlast⟩ := ih hrest
    refine ⟨mid, ?_, hlast⟩
    rw [run, hnext]
    exact hmid

theorem run_invariant (hstep : ∀ s l next, inv s → good s l → step s l = some next → inv next)
    (hinit : inv s) (hgood : Admits step good s ls) (hrun : run step s ls = some last) :
    inv last := by
  induction ls generalizing s with
  | nil =>
    cases hrun
    exact hinit
  | cons l ls ih =>
    obtain ⟨mid, hmid, hrest⟩ := run_cons step hrun
    exact ih (hstep s l mid hinit hgood.1 hmid) (hgood.2 mid hmid) hrest

/-- An invariant of all steps holds in every state that is reached at all. -/
theorem reachable_invariant (hstep : ∀ s l next, inv s → step s l = some next → inv next)
    (hinit : inv s) (hrun : run step s ls = some last) : inv last := by
  induction ls generalizing s with
  | nil =>
    cases hrun
    exact hinit
  | cons l ls ih =>
    obtain ⟨mid, hmid, hrest⟩ := run_cons step hrun
    exact ih (hstep s l mid hinit hmid) hrest

/-- What is seen of a run, step by step. -/
def observe {E : Type} (see : S → L → Option E) : S → List L → List E
  | _, [] => []
  | s, l :: ls =>
    (see s l).toList ++
      match step s l with
      | some next => observe see next ls
      | none => []

lemma observe_append (see : S → L → Option E) (h : run step s ls = some mid) :
    observe step see s (ls ++ ls') = observe step see s ls ++ observe step see mid ls' := by
  induction ls generalizing s with
  | nil =>
    cases h
    rfl
  | cons l ls ih =>
    obtain ⟨next, hnext, hrest⟩ := run_cons step h
    simp [observe, hnext, ih hrest]

lemma mem_observe {see : S → L → Option E} {e : E} (hrun : run step s ls = some last)
    (h : e ∈ observe step see s ls) :
    ∃ first l second before after, ls = first ++ l :: second ∧ run step s first = some before ∧
      step before l = some after ∧ see before l = some e := by
  induction ls generalizing s with
  | nil => cases h
  | cons l ls ih =>
    obtain ⟨mid, hmid, hrest⟩ := run_cons step hrun
    rw [observe, hmid] at h
    rcases List.mem_append.mp h with h | h
    · exact ⟨[], l, ls, s, mid, rfl, rfl, hmid, Option.mem_toList.mp h⟩
    obtain ⟨first, l', second, before, after, rfl, hfirst, hstep, hsee⟩ := ih hrest h
    refine ⟨l :: first, l', second, before, after, rfl, ?_, hstep, hsee⟩
    rw [run, hmid]
    exact hfirst

/-- An invariant of the state and of what has been seen so far. -/
theorem observe_invariant {see : S → L → Option E} {inv : List E → S → Prop}
    (hstep : ∀ seen s l next, inv seen s → good s l → step s l = some next →
      inv (seen ++ (see s l).toList) next) {seen : List E} (hinit : inv seen s)
    (hgood : Admits step good s ls) (hrun : run step s ls = some last) :
    inv (seen ++ observe step see s ls) last := by
  induction ls generalizing seen s with
  | nil =>
    cases hrun
    simpa [observe] using hinit
  | cons l ls ih =>
    obtain ⟨mid, hmid, hrest⟩ := run_cons step hrun
    have hnext := ih (hstep seen s l mid hinit hgood.1 hmid) (hgood.2 mid hmid) hrest
    simpa only [observe, hmid, List.append_assoc] using hnext

end

end ShieldRuntime.Library
