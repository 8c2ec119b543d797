import Mathlib.Data.Fintype.Basic
import Mathlib.Data.List.Infix
import Mathlib.Data.List.Perm.Subperm
import Mathlib.Logic.Relation
import Mathlib.Order.WellFounded
import Mathlib.Tactic

/-!
# Topological sorting with counters

Kahn's algorithm on a finite graph in which a node may depend on another one several times.
-/

namespace ShieldRuntime.Library

section

variable {α : Type} {needs : α → List α}

/-- Every member comes after all that it needs. -/
def Grounded (needs : α → List α) (order : List α) : Prop :=
  ∀ before a after, order = before ++ a :: after → ∀ d ∈ needs a, d ∈ before

lemma grounded_nil : Grounded needs [] := by
  intro before a after h
  simp at h

variable {order : List α} {a : α}

lemma Grounded.of_append {rest : List α} (h : Grounded needs (order ++ rest)) :
    Grounded needs order := by
  rintro before a after rfl d hd
  exact h before a (after ++ rest) (by simp) d hd

variable (h : Grounded needs order)
include h

lemma Grounded.push (ha : ∀ d ∈ needs a, d ∈ order) :
    Grounded needs (order ++ [a]) := by
  intro before b after hsplit d hd
  rcases List.eq_nil_or_concat after with rfl | ⟨after, last, rfl⟩
  · obtain ⟨rfl, hlast⟩ := List.append_inj' hsplit rfl
    obtain rfl : a = b := by simpa using hlast
    exact ha d hd
  · have hinit : order ++ [a] = (before ++ b :: after) ++ [last] := by simpa using hsplit
    obtain ⟨hinit, -⟩ := List.append_inj' hinit rfl
    exact h before b after hinit d hd

lemma Grounded.idxOf_lt [DecidableEq α] {d : α} (ha : a ∈ order)
    (hd : d ∈ needs a) : order.idxOf d < order.idxOf a := by
  obtain ⟨before, after, rfl, hnot⟩ := List.eq_append_cons_of_mem ha
  have hmem : d ∈ before := h before a after rfl d hd
  rw [List.idxOf_append_of_mem hmem, List.idxOf_append_of_notMem hnot, List.idxOf_cons_self]
  exact List.idxOf_lt_length_of_mem hmem

lemma Grounded.not_sublist (hnodup : order.Nodup) {d : α}
    (hd : d ∈ needs a) : ¬[a, d].Sublist order := by
  intro hsub
  obtain ⟨first, rest, rfl, ha, hrest⟩ := List.cons_sublist_iff.mp hsub
  obtain ⟨before, after, rfl⟩ := List.append_of_mem ha
  have hbefore : d ∈ before := h before a (after ++ rest) (by simp) d hd
  have hdifferent := (List.nodup_append.mp hnodup).2.2
  exact hdifferent d (List.mem_append_left _ hbefore) d (List.singleton_sublist.mp hrest) rfl

end

section

variable {α σ : Type} [DecidableEq α]

def releaseOne (state : (α → Int) × List α) (b : α) : (α → Int) × List α :=
  let left := state.1 b - 1
  (Function.update state.1 b left, if left = 0 then state.2 ++ [b] else state.2)

/-- The loop over the queue, with what it does at each node. -/
def kahnLoop (dependents : α → List α) (visit : σ → α → σ) :
    (fuel : Nat) → (α → Int) → List α → σ → σ
  | 0, _, _, acc => acc
  | _ + 1, _, [], acc => acc
  | fuel + 1, counts, a :: queue, acc =>
    let next := (dependents a).foldl releaseOne (counts, queue)
    kahnLoop dependents visit fuel next.1 next.2 (visit acc a)

variable (dependents : α → List α)

def kahnOrder (fuel : Nat) (counts : α → Int) (queue : List α) : List α :=
  kahnLoop dependents (fun order a => order ++ [a]) fuel counts queue []

lemma kahnLoop_append (fuel : Nat) (counts : α → Int)
    (queue order : List α) :
    kahnLoop dependents (fun order a => order ++ [a]) fuel counts queue order =
      order ++ kahnOrder dependents fuel counts queue := by
  induction fuel generalizing counts queue order with
  | zero => simp [kahnOrder, kahnLoop]
  | succ fuel ih =>
    cases queue with
    | nil => simp [kahnOrder, kahnLoop]
    | cons =>
      simp only [kahnOrder, kahnLoop]
      rw [ih, ih]
      simp

lemma kahnOrder_cons (fuel : Nat) (counts : α → Int) (a : α)
    (queue : List α) :
    kahnOrder dependents (fuel + 1) counts (a :: queue) =
      a :: kahnOrder dependents fuel ((dependents a).foldl releaseOne (counts, queue)).1
        ((dependents a).foldl releaseOne (counts, queue)).2 := by
  simp only [kahnOrder, kahnLoop]
  rw [kahnLoop_append]
  rfl

/-- Whatever the loop does at the nodes, it passes them in the same order. -/
lemma kahnLoop_eq_foldl (visit : σ → α → σ) (fuel : Nat)
    (counts : α → Int) (queue : List α) (acc : σ) :
    kahnLoop dependents visit fuel counts queue acc =
      (kahnOrder dependents fuel counts queue).foldl visit acc := by
  induction fuel generalizing counts queue acc with
  | zero => rfl
  | succ fuel ih =>
    cases queue with
    | nil => rfl
    | cons => rw [kahnOrder_cons, List.foldl_cons, ← ih, kahnLoop]

/-- A finite graph, given by the dependencies of each node and by its dependents. -/
structure DependencyGraph (α : Type) [DecidableEq α] where
  nodes : List α
  deps : α → List α
  dependents : α → List α
  nodup : nodes.Nodup
  deps_mem : ∀ a ∈ nodes, ∀ d ∈ deps a, d ∈ nodes
  dependents_mem : ∀ a, ∀ b ∈ dependents a, b ∈ nodes
  count_dependents : ∀ a, ∀ b ∈ nodes, (dependents a).count b = (deps b).count a

namespace DependencyGraph

variable (G : DependencyGraph α)

/-- Node `a` lists `d` among its dependencies. -/
def Edge (a d : α) : Prop := a ∈ G.nodes ∧ d ∈ G.deps a

def HasCycle : Prop := ∃ a, Relation.TransGen G.Edge a a

/-- The dependencies of a node that are not done. -/
def pending (done : List α) (b : α) : Nat := (G.deps b).countP fun d => decide (d ∉ done)

variable {G}

lemma pending_push {done : List α} {a : α} (ha : a ∉ done) (b : α) :
    G.pending done b = G.pending (done ++ [a]) b + (G.deps b).count a := by
  simp only [pending]
  induction G.deps b with
  | nil => simp
  | cons d rest ih =>
    simp only [List.countP_cons, List.count_cons, ih]
    by_cases hda : d = a
    · subst hda
      have hdone : decide (d ∉ done ++ [d]) = false := by simp
      simp only [ha, not_false_eq_true, decide_true, hdone, beq_self_eq_true, if_true,
        Bool.false_eq_true, if_false]
      omega
    · have hmem : d ∉ done ++ [a] ↔ d ∉ done := by simp [hda]
      simp only [hmem, beq_iff_eq, hda, if_false]
      omega

/-- What is done, what waits in the queue, and the counters. -/
structure Progress (G : DependencyGraph α) (done queue : List α) (counts : α → Int) : Prop where
  nodup : (done ++ queue).Nodup
  mem : ∀ a ∈ done ++ queue, a ∈ G.nodes
  counted : ∀ b ∈ G.nodes, counts b = G.pending done b
  ready : ∀ b ∈ G.nodes, b ∈ done ++ queue ↔ counts b = 0
  grounded : Grounded G.deps done

end DependencyGraph

lemma releaseOne_apply (state : (α → Int) × List α) (b c : α) :
    (releaseOne state b).1 c = state.1 c - if c = b then 1 else 0 := by
  by_cases hc : c = b
  · subst hc
    simp [releaseOne]
  · simp [releaseOne, hc]

lemma count_cons_int (b c : α) (bs : List α) :
    ((b :: bs).count c : Int) = bs.count c + if c = b then 1 else 0 := by
  by_cases hc : c = b
  · subst hc
    simp
  · simp [hc, List.count_cons_of_ne (Ne.symm hc)]

lemma foldl_releaseOne_apply (bs : List α) (state : (α → Int) × List α) (c : α) :
    (bs.foldl releaseOne state).1 c = state.1 c - bs.count c := by
  induction bs generalizing state with
  | nil => simp
  | cons b bs ih =>
    rw [List.foldl_cons, ih, releaseOne_apply, count_cons_int]
    omega

lemma foldl_releaseOne_queue (bs : List α) (state : (α → Int) × List α)
    (henough : ∀ b ∈ bs, (bs.count b : Int) ≤ state.1 b) :
    ∃ new, (bs.foldl releaseOne state).2 = state.2 ++ new ∧ new.Nodup ∧
      ∀ b, b ∈ new ↔ b ∈ bs ∧ state.1 b = bs.count b := by
  induction bs generalizing state with
  | nil => exact ⟨[], by simp⟩
  | cons b bs ih =>
    have hrest : ∀ c ∈ bs, (bs.count c : Int) ≤ (releaseOne state b).1 c := by
      intro c hc
      have h := henough c (List.mem_cons_of_mem _ hc)
      rw [count_cons_int] at h
      rw [releaseOne_apply]
      omega
    obtain ⟨new, hnew, hnodup, hmem⟩ := ih (releaseOne state b) hrest
    have hiff : ∀ c, c ∈ new ↔ c ∈ bs ∧ state.1 c = (b :: bs).count c := by
      intro c
      rw [hmem, releaseOne_apply, count_cons_int]
      exact and_congr_right fun _ => by omega
    have hself := henough b List.mem_cons_self
    rw [List.foldl_cons, hnew]
    rw [count_cons_int, if_pos rfl] at hself
    by_cases hzero : state.1 b - 1 = 0
    · -- the last dependency of `b` is done
      have hbs : b ∉ bs := by
        intro h
        have hpos := List.count_pos_iff.mpr h
        omega
      refine ⟨b :: new, ?_, List.nodup_cons.mpr ⟨fun h => hbs ((hiff b).mp h).1, hnodup⟩, ?_⟩
      · simp [releaseOne, hzero]
      · intro c
        rw [List.mem_cons, List.mem_cons, hiff]
        constructor
        · rintro (rfl | ⟨hc, heq⟩)
          · refine ⟨.inl rfl, ?_⟩
            rw [count_cons_int, if_pos rfl, List.count_eq_zero_of_not_mem hbs]
            omega
          · exact ⟨.inr hc, heq⟩
        · rintro ⟨rfl | hc, heq⟩
          · exact .inl rfl
          · exact .inr ⟨hc, heq⟩
    · refine ⟨new, by simp [releaseOne, hzero], hnodup, fun c => ?_⟩
      rw [hiff, List.mem_cons]
      refine and_congr_left fun heq => ⟨.inr, ?_⟩
      rintro (rfl | hc)
      · rw [count_cons_int, if_pos rfl] at heq
        exact List.count_pos_iff.mp (by omega)
      · exact hc

namespace DependencyGraph

variable {G : DependencyGraph α} {done queue : List α} {counts : α → Int}

lemma Progress.step {a : α} (h : G.Progress done (a :: queue) counts) :
    G.Progress (done ++ [a]) ((G.dependents a).foldl releaseOne (counts, queue)).2
      ((G.dependents a).foldl releaseOne (counts, queue)).1 := by
  have hsplit : done ++ a :: queue = done ++ [a] ++ queue := by simp
  have ha : a ∈ G.nodes := h.mem a (by simp)
  have hnot : a ∉ done := fun hmem =>
    (List.nodup_append.mp h.nodup).2.2 a hmem a List.mem_cons_self rfl
  have hcount : ∀ b ∈ G.nodes, counts b = G.pending (done ++ [a]) b + (G.dependents a).count b := by
    intro b hb
    rw [h.counted b hb, pending_push hnot, G.count_dependents a b hb]
    push_cast
    rfl
  have henough : ∀ b ∈ G.dependents a, ((G.dependents a).count b : Int) ≤ counts b := by
    intro b hb
    have hb := hcount b (G.dependents_mem a b hb)
    omega
  have hcounts := foldl_releaseOne_apply (G.dependents a) (counts, queue)
  obtain ⟨new, hnew, hnodup, hmem⟩ := foldl_releaseOne_queue (G.dependents a) (counts, queue) henough
  dsimp only at hcounts hmem
  rw [hnew]
  have hnewMem : ∀ b ∈ new, b ∈ G.nodes ∧ b ∉ done ++ a :: queue := by
    intro b hb
    obtain ⟨hdep, heq⟩ := (hmem b).mp hb
    have hnode := G.dependents_mem a b hdep
    refine ⟨hnode, fun hin => ?_⟩
    have hzero := (h.ready b hnode).mp hin
    have hpos := List.count_pos_iff.mpr hdep
    omega
  refine ⟨?_, ?_, ?_, ?_, ?_⟩
  · rw [← List.append_assoc, ← hsplit]
    refine List.nodup_append.mpr ⟨h.nodup, hnodup, ?_⟩
    rintro b hb _ hb' rfl
    exact (hnewMem b hb').2 hb
  · intro b hb
    rw [← List.append_assoc, ← hsplit, List.mem_append] at hb
    rcases hb with hb | hb
    · exact h.mem b hb
    · exact (hnewMem b hb).1
  · intro b hb
    rw [hcounts, hcount b hb]
    omega
  · intro b hb
    rw [← List.append_assoc, ← hsplit, List.mem_append, hmem, h.ready b hb, hcounts]
    have hb' := hcount b hb
    constructor
    · rintro (hzero | ⟨-, heq⟩) <;> omega
    · intro hzero
      by_cases hdep : b ∈ G.dependents a
      · exact .inr ⟨hdep, by omega⟩
      · rw [List.count_eq_zero_of_not_mem hdep] at hzero
        exact .inl (by simpa using hzero)
  · refine h.grounded.push fun d hd => ?_
    have hzero := (h.ready a ha).mp (by simp)
    rw [h.counted a ha, Nat.cast_eq_zero, pending, List.countP_eq_zero] at hzero
    simpa using hzero d hd

lemma Progress.length_le (h : G.Progress done queue counts) :
    done.length + queue.length ≤ G.nodes.length := by
  rw [← List.length_append]
  exact (List.subperm_of_subset h.nodup h.mem).length_le

/-- With as many rounds as there are nodes left, the loop ends with an empty queue. -/
theorem Progress.finish {fuel : Nat} (h : G.Progress done queue counts)
    (hfuel : G.nodes.length ≤ done.length + fuel) :
    ∃ counts', G.Progress (done ++ kahnOrder G.dependents fuel counts queue) [] counts' := by
  induction fuel generalizing done queue counts with
  | zero =>
    have hle := h.length_le
    have hqueue : queue = [] := List.length_eq_zero_iff.mp (by omega)
    subst hqueue
    exact ⟨counts, by simpa [kahnOrder, kahnLoop] using h⟩
  | succ fuel ih =>
    cases queue with
    | nil => exact ⟨counts, by simpa [kahnOrder, kahnLoop] using h⟩
    | cons =>
      have hstep := h.step
      obtain ⟨counts', hfinish⟩ := ih hstep (by rw [List.length_append, List.length_singleton]; omega)
      refine ⟨counts', ?_⟩
      rw [kahnOrder_cons]
      simpa using hfinish

/-- What the whole loop leaves, from the nodes without dependencies. -/
theorem progress_order (hqueue : queue.Perm (G.nodes.filter fun a => (G.deps a).isEmpty)) :
    ∃ counts, G.Progress (kahnOrder G.dependents G.nodes.length (fun a => (G.deps a).length) queue)
      [] counts := by
  have hstart : G.Progress [] queue (fun a => (G.deps a).length) := by
    refine ⟨?_, ?_, ?_, ?_, grounded_nil⟩
    · exact hqueue.nodup_iff.mpr (G.nodup.filter _)
    · intro a ha
      exact (List.mem_filter.mp (hqueue.mem_iff.mp ha)).1
    · intro b _
      simp [pending]
    · intro b hb
      rw [List.nil_append, hqueue.mem_iff, List.mem_filter]
      simp [hb]
  have hfuel : G.nodes.length ≤ ([] : List α).length + G.nodes.length := by simp
  simpa using hstart.finish hfuel

section Order

variable {order : List α} {counts : α → Int}

section

variable (h : G.Progress order [] counts)
include h

lemma Progress.exists_pending {b : α} (hb : b ∈ G.nodes)
    (hnot : b ∉ order) : ∃ d ∈ G.deps b, d ∉ order := by
  have hcount : G.pending order b ≠ 0 := by
    intro hzero
    refine hnot ?_
    have hready := (h.ready b hb).mpr (by rw [h.counted b hb, hzero]; rfl)
    simpa using hready
  obtain ⟨d, hd, hpending⟩ := List.countP_pos_iff.mp (Nat.pos_of_ne_zero hcount)
  exact ⟨d, hd, by simpa using hpending⟩

lemma Progress.perm (hlength : order.length = G.nodes.length) :
    order.Perm G.nodes := by
  have hnodup : order.Nodup := by simpa using h.nodup
  have hsubset : order ⊆ G.nodes := fun a ha => h.mem a (by simpa using ha)
  exact (List.subperm_of_subset hnodup hsubset).perm_of_length_le hlength.ge

lemma Progress.acyclic (hlength : order.length = G.nodes.length) :
    ¬G.HasCycle := by
  have hperm := h.perm hlength
  have hlt : ∀ a d, Relation.TransGen G.Edge a d → order.idxOf d < order.idxOf a := by
    intro a d hpath
    induction hpath with
    | single hedge => exact h.grounded.idxOf_lt (hperm.mem_iff.mpr hedge.1) hedge.2
    | tail _ hedge ih => exact (h.grounded.idxOf_lt (hperm.mem_iff.mpr hedge.1) hedge.2).trans ih
  rintro ⟨a, hcycle⟩
  exact absurd (hlt a a hcycle) (lt_irrefl _)

lemma Progress.complete (hacyclic : ¬G.HasCycle) :
    order.length = G.nodes.length := by
  by_contra hne
  have hleft : ∃ b ∈ G.nodes, b ∉ order := by
    by_contra hall
    push Not at hall
    have hle := h.length_le
    have hge := (List.subperm_of_subset G.nodup hall).length_le
    omega
  let r : {a // a ∈ G.nodes} → {a // a ∈ G.nodes} → Prop := fun d a =>
    Relation.TransGen G.Edge a.1 d.1
  have htrans : IsTrans {a // a ∈ G.nodes} r := ⟨fun _ _ _ hab hbc => hbc.trans hab⟩
  have hirrefl : Std.Irrefl r := ⟨fun a ha => hacyclic ⟨a.1, ha⟩⟩
  have hfinite : Finite {a // a ∈ G.nodes} := List.finite_toSet G.nodes
  have hwf : WellFounded r := Finite.wellFounded_of_trans_of_irrefl r
  obtain ⟨b, hb, hnot⟩ := hleft
  obtain ⟨m, hm, hmin⟩ := hwf.has_min {a | a.1 ∉ order} ⟨⟨b, hb⟩, hnot⟩
  obtain ⟨d, hd, hpending⟩ := h.exists_pending m.2 hm
  exact hmin ⟨d, G.deps_mem m.1 m.2 d hd⟩ hpending (.single ⟨m.2, hd⟩)

end

end Order

end DependencyGraph

end

end ShieldRuntime.Library
