import Mathlib.Data.List.Infix
import Mathlib.Tactic

/-!
# Counting failures in a row

Reports say who failed, succeeded or was stopped.
-/

namespace ShieldRuntime.Library

inductive Report (ι : Type) where
  | failed (i : ι)
  | succeeded (i : ι)
  | stopped (i : ι)
  deriving DecidableEq, Repr

def Report.subject {ι : Type} : Report ι → ι
  | .failed i => i
  | .succeeded i => i
  | .stopped i => i

section

variable {ι : Type} [DecidableEq ι]

/-- The failures of `i` since its last success. -/
def streak (i : ι) (reports : List (Report ι)) : Nat :=
  reports.foldl (fun n report =>
    match report with
    | .failed j => if j = i then n + 1 else n
    | .succeeded j => if j = i then 0 else n
    | .stopped _ => n) 0

/-- At some point `i` had failed that often in a row. -/
def Peaked (limit : Nat) (i : ι) (reports : List (Report ι)) : Prop :=
  ∃ before, before <+: reports ∧ limit ≤ streak i before

@[simp] lemma streak_failed (i : ι) (reports : List (Report ι)) :
    streak i (reports ++ [.failed i]) = streak i reports + 1 := by
  simp [streak]

@[simp] lemma streak_succeeded (i : ι) (reports : List (Report ι)) :
    streak i (reports ++ [.succeeded i]) = 0 := by
  simp [streak]

@[simp] lemma streak_stopped (i j : ι) (reports : List (Report ι)) :
    streak i (reports ++ [.stopped j]) = streak i reports := by
  simp [streak]

variable {i : ι} {report : Report ι} {limit : Nat} {reports : List (Report ι)}

lemma streak_other (h : report.subject ≠ i) (reports : List (Report ι)) :
    streak i (reports ++ [report]) = streak i reports := by
  cases report with
  | failed j | succeeded j => simp [streak, show j ≠ i from h]
  | stopped => simp [streak]

lemma peaked_of_le (h : limit ≤ streak i reports) : Peaked limit i reports :=
  ⟨reports, List.prefix_refl _, h⟩

lemma Peaked.append (h : Peaked limit i reports) (later : List (Report ι)) :
    Peaked limit i (reports ++ later) := by
  obtain ⟨before, hbefore, hlimit⟩ := h
  exact ⟨before, hbefore.trans (List.prefix_append _ _), hlimit⟩

lemma peaked_concat (h : Peaked limit i (reports ++ [report])) :
    Peaked limit i reports ∨ limit ≤ streak i (reports ++ [report]) := by
  obtain ⟨before, hbefore, hlimit⟩ := h
  rcases List.prefix_concat_iff.mp hbefore with rfl | hbefore
  · exact .inr hlimit
  · exact .inl ⟨before, hbefore, hlimit⟩

lemma not_peaked_nil (hlimit : 0 < limit) (i : ι) : ¬ Peaked limit i [] := by
  rintro ⟨before, hbefore, hle⟩
  rw [List.prefix_nil.mp hbefore] at hle
  simp only [streak, List.foldl_nil] at hle
  omega

end

/-- How far the counter is behind the reports: a failure is not counted yet, it is counted and the
limit not looked at, the subject is about to be stopped, a success has not reset the counter yet, or
none of these. -/
inductive Phase where
  | quiet
  | failing
  | counted
  | stopping
  | succeeding
  deriving DecidableEq, Repr

def Phase.standsFor (count : Nat) : Phase → Nat
  | .failing => count + 1
  | .succeeding => 0
  | _ => count

/-- The counter stands for the failures in a row of `i` as long as `i` is live. A subject is stopped
if it has reached the limit, and one that has reached the limit was or will be stopped. -/
structure Counts {ι : Type} [DecidableEq ι] (limit : Nat) (i : ι) (phase : Phase) (live : Prop)
    (count : Nat) (reports : List (Report ι)) : Prop where
  inStep : live → streak i reports = phase.standsFor count
  stopped : .stopped i ∈ reports → Peaked limit i reports
  stopping : phase = .stopping → Peaked limit i reports
  owed : Peaked limit i reports → .stopped i ∈ reports ∨ phase = .stopping ∨
    ((phase = .failing ∨ phase = .counted) ∧ (live → limit ≤ streak i reports))

namespace Counts

variable {ι : Type} [DecidableEq ι] {limit count count' : Nat} {i : ι} {phase : Phase}
  {live live' : Prop} {reports : List (Report ι)}

theorem init (hlimit : 0 < limit) (i : ι) (hlive : ¬ live) :
    Counts limit i .quiet live count [] where
  inStep := fun h => absurd h hlive
  stopped := by simp
  stopping := by simp
  owed := fun h => absurd h (not_peaked_nil hlimit i)

section

variable (h : Counts limit i phase live count reports)
include h

/-- Nothing is reported, and the counter of a live subject is left alone. -/
theorem same
    (hsame : live' → live ∧ count' = count) : Counts limit i phase live' count' reports where
  inStep := by
    intro hlive
    obtain ⟨hold, rfl⟩ := hsame hlive
    exact h.inStep hold
  stopped := h.stopped
  stopping := h.stopping
  owed := by
    intro hpeaked
    rcases h.owed hpeaked with hstopped | hstopping | ⟨hphase, hlimit⟩
    · exact .inl hstopped
    · exact .inr (.inl hstopping)
    · exact .inr (.inr ⟨hphase, fun hlive => hlimit (hsame hlive).1⟩)

theorem other {report : Report ι}
    (hne : report.subject ≠ i) : Counts limit i phase live count (reports ++ [report]) := by
  have hstreak := streak_other hne reports
  have hpeaked : Peaked limit i (reports ++ [report]) → Peaked limit i reports := by
    intro hpeaked
    rcases peaked_concat hpeaked with hold | hlimit
    · exact hold
    · exact peaked_of_le (hstreak ▸ hlimit)
  have hmem : .stopped i ∈ reports ++ [report] ↔ .stopped i ∈ reports := by
    have hreport : .stopped i ≠ report := by
      rintro rfl
      exact hne rfl
    simp [hreport]
  refine ⟨?_, ?_, ?_, ?_⟩
  · rw [hstreak]
    exact h.inStep
  · intro hstopped
    exact (h.stopped (hmem.mp hstopped)).append _
  · intro hphase
    exact (h.stopping hphase).append _
  · intro hnew
    rw [hmem, hstreak]
    exact h.owed (hpeaked hnew)

/-- A subject that was stopped if it has peaked, as it is when nothing is under way. -/
theorem stopped_of_peaked
    (hstopping : phase ≠ .stopping) (hfailing : phase ≠ .failing) (hcounted : phase ≠ .counted)
    (hpeaked : Peaked limit i reports) : .stopped i ∈ reports := by
  rcases h.owed hpeaked with hstopped | hphase | ⟨hphase | hphase, -⟩
  · exact hstopped
  · exact absurd hphase hstopping
  · exact absurd hphase hfailing
  · exact absurd hphase hcounted

end

theorem fail (h : Counts limit i .quiet live count reports)
    (hsame : live' → live ∧ count' = count) :
    Counts limit i .failing live' count' (reports ++ [.failed i]) where
  inStep := by
    intro hlive
    obtain ⟨hold, rfl⟩ := hsame hlive
    simpa [Phase.standsFor] using h.inStep hold
  stopped := by
    intro hstopped
    exact (h.stopped (by simpa using hstopped)).append _
  stopping := by simp
  owed := by
    intro hpeaked
    rcases peaked_concat hpeaked with hold | hlimit
    · have hstopped := h.stopped_of_peaked (by simp) (by simp) (by simp) hold
      exact .inl (List.mem_append_left _ hstopped)
    · exact .inr (.inr ⟨.inl rfl, fun _ => hlimit⟩)

theorem count_failure (h : Counts limit i .failing live count reports)
    (hsame : live' → live ∧ count' = count + 1) : Counts limit i .counted live' count' reports where
  inStep := by
    intro hlive
    obtain ⟨hold, rfl⟩ := hsame hlive
    exact h.inStep hold
  stopped := h.stopped
  stopping := by simp
  owed := by
    intro hpeaked
    rcases h.owed hpeaked with hstopped | hphase | ⟨-, hlimit⟩
    · exact .inl hstopped
    · cases hphase
    · exact .inr (.inr ⟨.inr rfl, fun hlive => hlimit (hsame hlive).1⟩)

theorem pass (h : Counts limit i .counted live count reports) (hlive : live)
    (hbelow : count < limit) : Counts limit i .quiet live count reports where
  inStep := h.inStep
  stopped := h.stopped
  stopping := by simp
  owed := by
    intro hpeaked
    rcases h.owed hpeaked with hstopped | hphase | ⟨-, hlimit⟩
    · exact .inl hstopped
    · cases hphase
    · have hle := hlimit hlive
      rw [h.inStep hlive] at hle
      simp only [Phase.standsFor] at hle
      omega

theorem giveUp (h : Counts limit i .counted live count reports) (hlive : live)
    (hlimit : limit ≤ count) : Counts limit i .stopping live count reports where
  inStep := h.inStep
  stopped := h.stopped
  stopping := fun _ => peaked_of_le (by rw [h.inStep hlive]; exact hlimit)
  owed := fun _ => .inr (.inl rfl)

theorem stop (h : Counts limit i .stopping live count reports) :
    Counts limit i .quiet live count (reports ++ [.stopped i]) where
  inStep := by
    rw [streak_stopped]
    exact h.inStep
  stopped := fun _ => (h.stopping rfl).append _
  stopping := by simp
  owed := fun _ => .inl (by simp)

theorem succeed (hlimit : 0 < limit) (h : Counts limit i .quiet live count reports) :
    Counts limit i .succeeding live' count' (reports ++ [.succeeded i]) where
  inStep := by simp [Phase.standsFor]
  stopped := by
    intro hstopped
    exact (h.stopped (by simpa using hstopped)).append _
  stopping := by simp
  owed := by
    intro hpeaked
    rcases peaked_concat hpeaked with hold | hle
    · have hstopped := h.stopped_of_peaked (by simp) (by simp) (by simp) hold
      exact .inl (List.mem_append_left _ hstopped)
    · rw [streak_succeeded] at hle
      omega

theorem reset (h : Counts limit i .succeeding live count reports)
    (hsame : live' → live ∧ count' = 0) : Counts limit i .quiet live' count' reports where
  inStep := by
    intro hlive
    obtain ⟨hold, rfl⟩ := hsame hlive
    exact h.inStep hold
  stopped := h.stopped
  stopping := by simp
  owed := fun hpeaked => .inl (h.stopped_of_peaked (by simp) (by simp) (by simp) hpeaked)

/-- A success that does not reset the counter, when it is zero already or about to be. -/
theorem succeed_silently (hlimit : 0 < limit) (h : Counts limit i phase live count reports)
    (hclean : phase = .succeeding ∨ (count = 0 ∧ phase ≠ .failing)) :
    Counts limit i phase live count (reports ++ [.succeeded i]) := by
  have hzero : phase.standsFor count = 0 := by
    rcases hclean with rfl | ⟨rfl, hphase⟩
    · rfl
    cases phase with
    | failing => exact absurd rfl hphase
    | _ => rfl
  refine ⟨?_, ?_, ?_, ?_⟩
  · intro _
    rw [streak_succeeded, hzero]
  · intro hstopped
    exact (h.stopped (by simpa using hstopped)).append _
  · intro hphase
    exact (h.stopping hphase).append _
  · intro hpeaked
    have hold : Peaked limit i reports := by
      rcases peaked_concat hpeaked with hold | hle
      · exact hold
      · rw [streak_succeeded] at hle
        omega
    rcases h.owed hold with hstopped | hphase | ⟨hphase, hle⟩
    · exact .inl (List.mem_append_left _ hstopped)
    · exact .inr (.inl hphase)
    · refine .inr (.inr ⟨hphase, ?_⟩)
      intro hlive
      have hpeak := hle hlive
      rw [h.inStep hlive, hzero] at hpeak
      omega

/-- A subject without failures in a row goes live, with the counter at zero. -/
theorem start (h : Counts limit i .quiet live count reports) (hstreak : streak i reports = 0) :
    Counts limit i .quiet live' 0 reports where
  inStep := fun _ => hstreak
  stopped := h.stopped
  stopping := by simp
  owed := fun hpeaked => .inl (h.stopped_of_peaked (by simp) (by simp) (by simp) hpeaked)

end Counts

end ShieldRuntime.Library
