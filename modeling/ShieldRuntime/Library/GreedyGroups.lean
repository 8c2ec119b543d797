import Mathlib.Data.List.Nodup
import Mathlib.Data.List.Perm.Basic
import Mathlib.Tactic

/-!
# Greedy groups of a sorted list

A pass that starts a group at each element, lets the next ones join it while they are near its
first, and keeps the group if it gets full.
-/

namespace ShieldRuntime.Library

section

variable {α : Type} (near : α → α → Bool) (limit : Int)

/-- The elements that join a group with the given number of members. -/
def joinGroup (first : α) : (size : Nat) → List α → List α
  | _, [] => []
  | size, a :: rest =>
    if (size : Int) < limit ∧ near first a then a :: joinGroup first (size + 1) rest else []

/-- The full groups; the elements of the last one are skipped. -/
def greedyGroups : (skip : Nat) → List α → List (List α)
  | _, [] => []
  | skip + 1, _ :: rest => greedyGroups skip rest
  | 0, first :: rest =>
    let group := first :: joinGroup near limit first 1 rest
    if (group.length : Int) = limit then group :: greedyGroups (group.length - 1) rest
    else greedyGroups 0 rest

def leftOver : (skip : Nat) → List α → List α
  | _, [] => []
  | skip + 1, _ :: rest => leftOver skip rest
  | 0, first :: rest =>
    let group := first :: joinGroup near limit first 1 rest
    if (group.length : Int) = limit then leftOver (group.length - 1) rest
    else first :: leftOver 0 rest

variable {near limit}

section Join

variable {first : α} {size : Nat}

lemma joinGroup_isPrefix (first : α) (size : Nat) (l : List α) :
    joinGroup near limit first size l <+: l := by
  induction l generalizing size with
  | nil => exact List.nil_prefix
  | cons a rest ih =>
    rw [joinGroup]
    split_ifs
    · exact List.cons_prefix_cons.mpr ⟨rfl, ih (size + 1)⟩
    · exact List.nil_prefix

variable {l : List α}

lemma length_joinGroup_le (h : (size : Int) ≤ limit) :
    (size + (joinGroup near limit first size l).length : Int) ≤ limit := by
  induction l generalizing size with
  | nil => simpa [joinGroup] using h
  | cons a rest ih =>
    rw [joinGroup]
    split_ifs with hjoin
    · have hlarger : ((size + 1 : Nat) + (joinGroup near limit first (size + 1) rest).length : Int)
          ≤ limit := ih (by push_cast; omega)
      rw [List.length_cons]
      push_cast at hlarger ⊢
      omega
    · simpa using h

lemma near_of_mem_joinGroup {a : α} (h : a ∈ joinGroup near limit first size l) :
    near first a = true := by
  induction l generalizing size with
  | nil => cases h
  | cons b rest ih =>
    rw [joinGroup] at h
    split_ifs at h with hjoin
    · rcases List.mem_cons.mp h with rfl | h
      · exact hjoin.2
      · exact ih h
    · cases h

lemma length_le_joinGroup {xs : List α} (hsub : xs.Sublist l)
    (hnear : ∀ x ∈ xs, near first x = true)
    (hbetween : ∀ b c, [b, c].Sublist l → near first c = true → near first b = true)
    (hsize : (size + xs.length : Int) ≤ limit) :
    xs.length ≤ (joinGroup near limit first size l).length := by
  induction l generalizing size xs with
  | nil => simp [List.sublist_nil.mp hsub]
  | cons b rest ih =>
    cases xs with
    | nil => simp
    | cons x xs =>
      have hb : near first b = true := by
        rcases List.cons_sublist_cons'.mp hsub with hsub | ⟨rfl, -⟩
        · have hx : x ∈ rest := hsub.subset List.mem_cons_self
          apply hbetween b x
          · exact (List.singleton_sublist.mpr hx).cons_cons b
          · exact hnear x List.mem_cons_self
        · exact hnear x List.mem_cons_self
      have htail : xs.Sublist rest := List.Sublist.tail hsub
      simp only [List.length_cons, Nat.cast_add, Nat.cast_one] at hsize
      rw [joinGroup, if_pos ⟨by omega, hb⟩, List.length_cons, List.length_cons]
      apply Nat.succ_le_succ
      apply ih htail (fun x hx => hnear x (List.mem_cons_of_mem _ hx))
      · exact fun c d hcd => hbetween c d (hcd.cons b)
      · push_cast
        omega

end Join

/-- The groups and what is left make up the list. -/
theorem greedyGroups_perm (skip : Nat) (l : List α) :
    ((greedyGroups near limit skip l).flatten ++ leftOver near limit skip l).Perm (l.drop skip) := by
  induction l generalizing skip with
  | nil => simp [greedyGroups, leftOver]
  | cons first rest ih =>
    cases skip with
    | succ skip => exact ih skip
    | zero =>
      simp only [greedyGroups, leftOver, List.drop_zero]
      split_ifs with hfull
      · have hrest : joinGroup near limit first 1 rest
            ++ rest.drop (joinGroup near limit first 1 rest).length = rest :=
          List.prefix_iff_eq_append.mp (joinGroup_isPrefix first 1 rest)
        rw [List.flatten_cons, List.append_assoc, List.cons_append, List.length_cons,
          Nat.add_sub_cancel]
        apply List.Perm.cons
        exact ((ih _).append_left _).trans (List.Perm.of_eq hrest)
      · exact List.perm_middle.trans ((ih 0).cons first)

/-- A group is a piece of the list, full, and all of it is near its first element. -/
structure IsGroup (near : α → α → Bool) (limit : Int) (l group : List α) : Prop where
  piece : group <:+: l
  full : (group.length : Int) = limit
  near : ∃ first others, group = first :: others ∧ ∀ a ∈ others, near first a = true

variable {skip : Nat} {l : List α}

theorem isGroup_of_mem {group : List α} (h : group ∈ greedyGroups near limit skip l) :
    IsGroup near limit l group := by
  induction l generalizing skip with
  | nil => cases h
  | cons first rest ih =>
    have hlater : ∀ {skip}, group ∈ greedyGroups near limit skip rest →
        IsGroup near limit (first :: rest) group := fun h =>
      ⟨(ih h).piece.trans (List.suffix_cons first rest).isInfix, (ih h).full, (ih h).near⟩
    cases skip with
    | succ => exact hlater h
    | zero =>
      simp only [greedyGroups] at h
      split_ifs at h with hfull
      · rcases List.mem_cons.mp h with rfl | h
        · refine ⟨?_, hfull, first, _, rfl, fun a => near_of_mem_joinGroup⟩
          exact (List.cons_prefix_cons.mpr ⟨rfl, joinGroup_isPrefix first 1 rest⟩).isInfix
        · exact hlater h
      · exact hlater h

lemma leftOver_sublist (skip : Nat) (l : List α) : (leftOver near limit skip l).Sublist l := by
  induction l generalizing skip with
  | nil => exact List.Sublist.refl _
  | cons first rest ih =>
    cases skip with
    | succ skip => exact (ih skip).cons first
    | zero =>
      simp only [leftOver]
      split_ifs
      · exact (ih _).cons first
      · exact (ih 0).cons_cons first

/-- No elements that are left would make a full group. -/
theorem leftOver_maximal
    (hbetween : ∀ a b c, [a, b, c].Sublist l → near a c = true → near a b = true) {first : α}
    {others : List α} (hsub : (first :: others).Sublist (leftOver near limit skip l))
    (hnear : ∀ a ∈ others, near first a = true) : ((first :: others).length : Int) ≠ limit := by
  induction l generalizing skip with
  | nil => simp [leftOver] at hsub
  | cons head rest ih =>
    have hrest : ∀ a b c, [a, b, c].Sublist rest → near a c = true → near a b = true :=
      fun a b c hsub => hbetween a b c (hsub.cons head)
    cases skip with
    | succ => exact ih hrest hsub
    | zero =>
      simp only [leftOver] at hsub
      split_ifs at hsub with hfull
      · exact ih hrest hsub
      · rcases List.cons_sublist_cons'.mp hsub with hlater | ⟨rfl, hothers⟩
        · exact ih hrest hlater
        -- its group at this place would have been full
        intro hlimit
        apply hfull
        simp only [List.length_cons, Nat.cast_add, Nat.cast_one] at hlimit ⊢
        have hone : ((1 : Nat) : Int) = 1 := rfl
        have hlong : others.length ≤ (joinGroup near limit first 1 rest).length :=
          length_le_joinGroup (hothers.trans (leftOver_sublist 0 rest)) hnear
            (fun b c hbc => hbetween first b c (hbc.cons_cons first)) (by omega)
        have hshort : ((1 : Nat) + (joinGroup near limit first 1 rest).length : Int) ≤ limit :=
          length_joinGroup_le (by omega)
        omega

end

end ShieldRuntime.Library
