import Mathlib.Data.List.Infix
import Mathlib.Tactic

/-!
# Delimited words

Whether a word stands between two delimiters somewhere in a text, found in one pass.
-/

namespace ShieldRuntime.Library

section

variable {α : Type} [DecidableEq α]

/-- What has been read: whether the word was found, and what stands since the last delimiter. -/
def scanStep (delimiter : α) (word : List α) (state : Bool × Option (List α)) (a : α) :
    Bool × Option (List α) :=
  if a = delimiter then (state.1 || state.2 == some word, some [])
  else (state.1, state.2.map (· ++ [a]))

def scan (delimiter : α) (word : List α) (state : Bool × Option (List α)) (text : List α) :
    Bool × Option (List α) :=
  text.foldl (scanStep delimiter word) state

variable {delimiter : α} {word : List α}

section

variable (state : Bool × Option (List α))
include state

lemma scan_append (text rest : List α) :
    scan delimiter word state (text ++ rest) =
      scan delimiter word (scan delimiter word state text) rest :=
  List.foldl_append

lemma scan_cons (a : α) (rest : List α) :
    scan delimiter word state (a :: rest) =
      scan delimiter word (scanStep delimiter word state a) rest :=
  rfl

lemma scan_of_notMem {text : List α} (h : delimiter ∉ text) :
    scan delimiter word state text = (state.1, state.2.map (· ++ text)) := by
  induction text generalizing state with
  | nil => simp [scan]
  | cons a text ih =>
    have ha : a ≠ delimiter := fun heq => h (heq ▸ List.mem_cons_self)
    rw [scan_cons, ih _ fun hmem => h (List.mem_cons_of_mem _ hmem), scanStep, if_neg ha]
    simp [Function.comp_def]

end

/-- What stands since the last delimiter of a text. -/
theorem scan_since_iff (text : List α) (since : List α) :
    (scan delimiter word (false, none) text).2 = some since ↔
      delimiter :: since <:+ text ∧ delimiter ∉ since := by
  induction text using List.reverseRecOn generalizing since with
  | nil => simp [scan]
  | append_singleton text a ih =>
    rw [scan_append, scan_cons, scanStep]
    by_cases ha : a = delimiter
    · rw [if_pos ha]
      simp only [scan, List.foldl_nil, Option.some.injEq, List.suffix_concat_iff]
      constructor
      · rintro rfl
        exact ⟨.inr ⟨[], by rw [ha]; rfl, List.nil_suffix⟩, List.not_mem_nil⟩
      · rintro ⟨hnil | ⟨t, ht, -⟩, hsince⟩
        · cases hnil
        · rcases List.eq_nil_or_concat' since with rfl | ⟨init, last, rfl⟩
          · rfl
          -- The last symbol since the delimiter would be the delimiter itself.
          rw [← List.cons_append] at ht
          have hlast : last = a := List.singleton_inj.mp (List.append_inj' ht rfl).2
          exact absurd (ha ▸ hlast ▸ List.mem_append_right _ List.mem_cons_self) hsince
    · rw [if_neg ha]
      simp only [scan, List.foldl_nil, Option.map_eq_some_iff, List.suffix_concat_iff]
      constructor
      · rintro ⟨old, hold, rfl⟩
        obtain ⟨hsuffix, hnot⟩ := (ih old).mp hold
        refine ⟨.inr ⟨delimiter :: old, rfl, hsuffix⟩, ?_⟩
        simp [hnot, Ne.symm ha]
      · rintro ⟨hnil | ⟨t, ht, hsuffix⟩, hsince⟩
        · cases hnil
        · rcases List.eq_nil_or_concat' since with rfl | ⟨init, last, rfl⟩
          · have hlast : [delimiter].getLast? = (t ++ [a]).getLast? := congrArg List.getLast? ht
            have hdelimiter : delimiter = a := by simpa using hlast
            exact absurd hdelimiter.symm ha
          rw [← List.cons_append] at ht
          obtain ⟨rfl, hlast⟩ := List.append_inj' ht rfl
          refine ⟨init, (ih init).mpr ⟨hsuffix, ?_⟩, by rw [hlast]⟩
          exact fun hmem => hsince (List.mem_append_left _ hmem)

/-- The pass finds the word exactly if it stands between two delimiters. -/
theorem scan_found_iff (hword : delimiter ∉ word) (text : List α) :
    (scan delimiter word (false, none) text).1 = true ↔
      delimiter :: word ++ [delimiter] <:+: text := by
  induction text using List.reverseRecOn with
  | nil => simp [scan]
  | append_singleton text a ih =>
    have hsince : (scan delimiter word (false, none) text).2 = some word ↔
        delimiter :: word <:+ text ∧ delimiter ∉ word := scan_since_iff text word
    rw [scan_append, scan_cons, scanStep, List.infix_concat_iff, List.suffix_concat_iff]
    by_cases ha : a = delimiter
    · rw [if_pos ha]
      simp only [scan, List.foldl_nil, Bool.or_eq_true, beq_iff_eq] at ih hsince ⊢
      rw [ih, hsince]
      constructor
      · rintro (hfound | ⟨hsuffix, -⟩)
        · exact .inr hfound
        · exact .inl (.inr ⟨delimiter :: word, by rw [ha], hsuffix⟩)
      · rintro ((hnil | ⟨t, ht, hsuffix⟩) | hfound)
        · simp at hnil
        · obtain ⟨rfl, -⟩ := List.append_inj' ht rfl
          exact .inr ⟨hsuffix, hword⟩
        · exact .inl hfound
    · rw [if_neg ha]
      simp only [scan, List.foldl_nil] at ih ⊢
      rw [ih]
      constructor
      · exact .inr
      · rintro ((hnil | ⟨t, ht, -⟩) | hfound)
        · simp at hnil
        · have hdelimiter : delimiter = a := List.singleton_inj.mp (List.append_inj' ht rfl).2
          exact absurd hdelimiter.symm ha
        · exact hfound

end

variable {α : Type} [DecidableEq α]

def afterFirst (needle : List α) : List α → Option (List α)
  | [] => if needle = [] then some [] else none
  | a :: rest =>
    if needle.isPrefixOf (a :: rest) then some ((a :: rest).drop needle.length)
    else afterFirst needle rest

variable {needle before after : List α}

lemma not_infix_of_afterFirst {text : List α} (h : afterFirst needle text = none) :
    ¬needle <:+: text := by
  induction text with
  | nil =>
    rw [List.infix_nil]
    rintro rfl
    cases h
  | cons a rest ih =>
    rw [afterFirst] at h
    split_ifs at h with hhead
    rw [List.infix_cons_iff, not_or]
    exact ⟨fun hstarts => hhead (List.isPrefixOf_iff_prefix.mpr hstarts), ih h⟩

lemma afterFirst_eq_some {text rest : List α} (h : afterFirst needle text = some rest) :
    ∃ before, text = before ++ needle ++ rest := by
  induction text with
  | nil =>
    rw [afterFirst] at h
    split_ifs at h with hnil
    exact ⟨[], by rw [← Option.some.inj h, hnil]; rfl⟩
  | cons a tail ih =>
    rw [afterFirst] at h
    split_ifs at h with hhead
    · refine ⟨[], ?_⟩
      rw [← Option.some.inj h, List.nil_append]
      exact (List.prefix_iff_eq_append.mp (List.isPrefixOf_iff_prefix.mp hhead)).symm
    · obtain ⟨before, hbefore⟩ := ih h
      exact ⟨a :: before, by rw [hbefore]; rfl⟩

/-- What is appended to a text stands behind its first match. -/
lemma afterFirst_append_left {text rest : List α} (h : afterFirst needle text = some rest)
    (hneedle : needle ≠ []) (more : List α) : afterFirst needle (text ++ more) = some (rest ++ more) := by
  induction text with
  | nil =>
    rw [afterFirst, if_neg hneedle] at h
    cases h
  | cons a tail ih =>
    rw [afterFirst] at h
    by_cases hhead : needle.isPrefixOf (a :: tail) = true
    · rw [if_pos hhead] at h
      have hstarts := List.isPrefixOf_iff_prefix.mp hhead
      have hlonger : needle.isPrefixOf (a :: (tail ++ more)) = true :=
        List.isPrefixOf_iff_prefix.mpr (hstarts.trans (List.prefix_append _ more))
      rw [List.cons_append, afterFirst, if_pos hlonger, ← Option.some.inj h, ← List.cons_append,
        List.drop_append_of_le_length hstarts.length_le]
    · rw [if_neg hhead] at h
      -- a match at the front would be as long as the one behind it, so inside the text
      have hlonger : ¬needle.isPrefixOf (a :: (tail ++ more)) = true := by
        intro hstarts
        obtain ⟨before, hbefore⟩ := afterFirst_eq_some h
        have hlength : needle.length ≤ (a :: tail).length := by
          rw [hbefore, List.length_cons, List.length_append, List.length_append]
          omega
        exact hhead (List.isPrefixOf_iff_prefix.mpr (List.prefix_of_prefix_length_le
          (List.isPrefixOf_iff_prefix.mp hstarts) (List.prefix_append _ more) hlength))
      rw [List.cons_append, afterFirst, if_neg hlonger]
      exact ih h

lemma afterFirst_append (hneedle : needle ≠ []) (h : ¬needle <:+: before ++ needle.dropLast) :
    afterFirst needle (before ++ needle ++ after) = some after := by
  induction before with
  | nil =>
    obtain ⟨a, rest, rfl⟩ := List.exists_cons_of_ne_nil hneedle
    have hhead : (a :: rest).isPrefixOf (a :: (rest ++ after)) = true :=
      List.isPrefixOf_iff_prefix.mpr (List.prefix_append (a :: rest) after)
    rw [List.nil_append, List.cons_append, afterFirst, if_pos hhead]
    exact congrArg some List.drop_left
  | cons a before ih =>
    have hhead : ¬needle.isPrefixOf (a :: (before ++ needle ++ after)) = true := by
      intro hstarts
      apply h
      have hlong : a :: before ++ needle.dropLast <+: a :: (before ++ needle ++ after) := by
        rw [List.append_assoc, ← List.cons_append]
        exact List.prefix_append_right_inj _ |>.mpr
          ((List.dropLast_prefix needle).trans (List.prefix_append needle after))
      refine (List.prefix_of_prefix_length_le (List.isPrefixOf_iff_prefix.mp hstarts) hlong
        ?_).isInfix
      have hpos := List.length_pos_of_ne_nil hneedle
      rw [List.length_append, List.length_dropLast, List.length_cons]
      omega
    rw [List.cons_append, List.cons_append, afterFirst, if_neg hhead, ih]
    exact fun hpart => h (hpart.trans (List.suffix_cons a _).isInfix)

lemma afterFirst_symbol {a : α} (h : a ∉ before) :
    afterFirst [a] (before ++ a :: after) = some after := by
  have hbefore : ¬[a] <:+: before ++ [a].dropLast := by
    rw [List.dropLast_singleton, List.append_nil]
    exact fun hpart => h (hpart.subset List.mem_cons_self)
  have hfirst : afterFirst [a] (before ++ [a] ++ after) = some after :=
    afterFirst_append (List.cons_ne_nil a []) hbefore
  rwa [List.append_assoc] at hfirst

section Delimited

variable {delimiter : α} {word before after : List α}

lemma afterFirst_delimited (hword : delimiter ∉ word)
    (h : (scan delimiter word (false, none) (before ++ [delimiter])).1 = false) :
    afterFirst (delimiter :: word ++ [delimiter])
      (before ++ (delimiter :: word ++ [delimiter]) ++ after) = some after := by
  apply afterFirst_append (by simp)
  rw [List.dropLast_concat, ← scan_found_iff hword, List.append_cons, scan_append,
    scan_of_notMem _ hword]
  simp [h]

end Delimited

end ShieldRuntime.Library
