import Mathlib.Data.List.AList
import Mathlib.Tactic

/-!
# Names, owners, indexes and counts

A map from names to their owners, together with the list of names of every owner; a map with a
second one from the names of its entries to their keys, where `blank` is the name of an entry that
is not indexed; and a map that counts the items of a collection by a key, without an entry for zero.
-/

namespace ShieldRuntime.Library

section

variable {ι τ : Type}

/-- Nobody holds a thing twice, and no two hold the same one. -/
structure Exclusive (held : ι → List τ) : Prop where
  nodup : ∀ i, (held i).Nodup
  owner : ∀ i j x, x ∈ held i → x ∈ held j → i = j

namespace Exclusive

variable {held held' : ι → List τ} {i : ι}

variable (h : Exclusive held) (hothers : ∀ j, j ≠ i → held' j = held j)
include h hothers

theorem release
    (hheld : (held' i).Sublist (held i)) : Exclusive held' := by
  have hsub : ∀ j, (held' j).Sublist (held j) := by
    intro j
    by_cases hj : j = i
    · exact hj ▸ hheld
    · rw [hothers j hj]
  constructor
  · intro j
    exact (h.nodup j).sublist (hsub j)
  · intro j k x hx hx'
    exact h.owner j k x ((hsub j).mem hx) ((hsub k).mem hx')

theorem acquire {x : τ}
    {rest : List τ} (hheld : held' i = x :: rest) (hrest : rest.Sublist (held i))
    (hfresh : ∀ j, x ∉ held j) : Exclusive held' := by
  have hmem : ∀ j y, y ∈ held' j → y ∈ held j ∨ (j = i ∧ y = x) := by
    intro j y hy
    by_cases hj : j = i
    · subst hj
      rw [hheld] at hy
      rcases List.mem_cons.mp hy with rfl | hy
      · exact .inr ⟨rfl, rfl⟩
      · exact .inl (hrest.mem hy)
    · rw [hothers j hj] at hy
      exact .inl hy
  constructor
  · intro j
    by_cases hj : j = i
    · subst hj
      rw [hheld]
      exact List.nodup_cons.mpr
        ⟨fun hx => hfresh j (hrest.mem hx), (h.nodup j).sublist hrest⟩
    · rw [hothers j hj]
      exact h.nodup j
  · intro j k y hy hy'
    rcases hmem j y hy with hy | ⟨rfl, rfl⟩
    · rcases hmem k y hy' with hy' | ⟨rfl, rfl⟩
      · exact h.owner j k y hy hy'
      · exact absurd hy (hfresh j)
    · rcases hmem k y hy' with hy' | ⟨rfl, -⟩
      · exact absurd hy' (hfresh k)
      · rfl

end Exclusive

end

variable {ν ι : Type} {owner : ν → Option ι} {owned : ι → List ν}

/-- Each name's owner lists it, and only its owner. -/
def Inverse (owner : ν → Option ι) (owned : ι → List ν) : Prop :=
  ∀ n i, owner n = some i ↔ n ∈ owned i

namespace Inverse

variable {n : ν} {i : ι}

theorem unique (h : Inverse owner owned) {j : ι} (hi : n ∈ owned i) (hj : n ∈ owned j) : i = j := by
  have hi := (h n i).mpr hi
  have hj := (h n j).mpr hj
  rw [hi] at hj
  exact Option.some.inj hj

variable [DecidableEq ν] [DecidableEq ι]

variable (h : Inverse owner owned)
include h

theorem add (hfree : ∀ j, owner n = some j → j = i) :
    Inverse (Function.update owner n (some i)) (Function.update owned i (n :: owned i)) := by
  intro m j
  by_cases hm : m = n
  · subst hm
    by_cases hj : j = i
    · simp [hj]
    · have hnot : m ∉ owned j := fun hmem => hj (hfree j ((h m j).mpr hmem))
      simp [hj, Ne.symm hj, hnot]
  · by_cases hj : j = i
    · simp [hm, hj, h m i]
    · simp [hm, hj, h m j]

theorem remove (howner : owner n = some i) :
    Inverse (Function.update owner n none)
      (Function.update owned i ((owned i).filter fun m => m ≠ n)) := by
  intro m j
  by_cases hm : m = n
  · subst hm
    by_cases hj : j = i
    · simp [hj]
    have hnot : m ∉ owned j := by
      intro hmem
      rw [(h m j).mpr hmem] at howner
      exact hj (Option.some.inj howner)
    simp [hj, hnot]
  · by_cases hj : j = i
    · simp [hm, hj, h m i]
    · simp [hm, hj, h m j]

theorem drop (i : ι) :
    Inverse (fun n => if n ∈ owned i then none else owner n) (Function.update owned i []) := by
  intro m j
  by_cases hj : j = i
  · subst hj
    simp [h m j]
  by_cases hmem : m ∈ owned i
  · have hnot : m ∉ owned j := fun hmem' => hj (h.unique hmem' hmem)
    simp [hj, hmem, hnot]
  · simp [hj, hmem, h m j]

end Inverse

variable {κ ν ε : Type} [DecidableEq κ] [DecidableEq ν] {name : ε → ν} {blank : ν}
  {find : κ → Option ε} {index : ν → Option κ}

/-- The index without the name that leads to the entry under a key. -/
def releaseKey (name : ε → ν) (find : κ → Option ε) (index : ν → Option κ) (key : κ) :
    ν → Option κ :=
  match find key with
  | some entry =>
    if index (name entry) = some key then Function.update index (name entry) none else index
  | none => index

/-- The index with a name for a key, unless the name is blank. -/
def indexKey (blank : ν) (index : ν → Option κ) (key : κ) (n : ν) : ν → Option κ :=
  if n = blank then index else Function.update index n (some key)

/-- An indexed name is not blank, and leads to an entry that has it. -/
def Indexed (name : ε → ν) (blank : ν) (find : κ → Option ε) (index : ν → Option κ) : Prop :=
  ∀ n key, index n = some key → n ≠ blank ∧ ∃ entry, find key = some entry ∧ name entry = n

/-- Besides, every entry with a name is the one that its name leads to. -/
structure Findable (name : ε → ν) (blank : ν) (find : κ → Option ε) (index : ν → Option κ) : Prop where
  indexed : Indexed name blank find index
  leads : ∀ key entry, find key = some entry → name entry ≠ blank → index (name entry) = some key

/-- What is found by name: exactly the entries that have a name, each under its own. -/
def NamesExact (name : ε → ν) (blank : ν) (find : κ → Option ε) (findByName : ν → Option ε) :
    Prop :=
  ∀ n, ((findByName n).isSome = true ↔
      n ≠ blank ∧ ∃ key entry, find key = some entry ∧ name entry = n) ∧
    ∀ entry, findByName n = some entry → name entry = n ∧ ∃ key, find key = some entry

lemma Indexed.release (h : Indexed name blank find index) {key : κ} {n : ν} {other : κ}
    (hn : releaseKey name find index key n = some other) : other ≠ key ∧ index n = some other := by
  unfold releaseKey at hn
  cases hfind : find key with
  | none =>
    simp only [hfind] at hn
    refine ⟨?_, hn⟩
    rintro rfl
    obtain ⟨-, entry, hentry, -⟩ := h n other hn
    rw [hfind] at hentry
    cases hentry
  | some entry =>
    simp only [hfind] at hn
    -- A name that leads to the key is the name of its entry.
    have hown : ∀ m, index m = some key → name entry = m := by
      intro m hm
      obtain ⟨-, found, hfound, hname⟩ := h m key hm
      rw [hfind] at hfound
      cases hfound
      exact hname
    split at hn
    · by_cases hm : n = name entry
      · rw [hm, Function.update_self] at hn
        cases hn
      rw [Function.update_of_ne hm] at hn
      refine ⟨?_, hn⟩
      rintro rfl
      exact hm (hown n hn).symm
    · rename_i hnot
      refine ⟨?_, hn⟩
      rintro rfl
      rw [hown n hn] at hnot
      exact hnot hn

/-- Writing an entry keeps the index true, whether or not its name was taken. -/
theorem Indexed.write (h : Indexed name blank find index) (key : κ) (entry : ε) :
    Indexed name blank (Function.update find key (some entry))
      (indexKey blank (releaseKey name find index key) key (name entry)) := by
  intro n other hn
  have hold : releaseKey name find index key n = some other → n ≠ blank ∧
      ∃ found, Function.update find key (some entry) other = some found ∧ name found = n := by
    intro hrelease
    obtain ⟨hne, hindex⟩ := h.release hrelease
    rw [Function.update_of_ne hne]
    exact h n other hindex
  unfold indexKey at hn
  split at hn
  · exact hold hn
  rename_i hblank
  by_cases hm : n = name entry
  · subst hm
    rw [Function.update_self] at hn
    cases hn
    exact ⟨hblank, entry, Function.update_self .., rfl⟩
  · rw [Function.update_of_ne hm] at hn
    exact hold hn

/-- It also keeps every entry findable, if no other entry has the name. -/
theorem Findable.write (h : Findable name blank find index) {key : κ} {entry : ε}
    (hfree : name entry = blank ∨
      ∀ other found, other ≠ key → find other = some found → name found ≠ name entry) :
    Findable name blank (Function.update find key (some entry))
      (indexKey blank (releaseKey name find index key) key (name entry)) := by
  refine ⟨h.indexed.write key entry, ?_⟩
  intro other found hfound hname
  by_cases hkey : other = key
  · subst hkey
    rw [Function.update_self] at hfound
    cases hfound
    rw [indexKey, if_neg hname, Function.update_self]
  rw [Function.update_of_ne hkey] at hfound
  have hleads := h.leads other found hfound hname
  have hrelease : releaseKey name find index key (name found) = some other := by
    unfold releaseKey
    cases find key with
    | none => exact hleads
    | some old =>
      dsimp only
      split
      · rename_i hindex
        rw [Function.update_of_ne, hleads]
        intro hsame
        rw [hsame, hindex] at hleads
        exact hkey (Option.some.inj hleads).symm
      · exact hleads
  unfold indexKey
  split
  · exact hrelease
  rename_i hblank
  rcases hfree with hfree | hfree
  · exact (hblank hfree).elim
  · rw [Function.update_of_ne (hfree other found hkey hfound), hrelease]

omit [DecidableEq κ] [DecidableEq ν] in
theorem Findable.exact (h : Findable name blank find index) :
    NamesExact name blank find fun n => (index n).bind find := by
  intro n
  have hfound : ∀ entry, (index n).bind find = some entry →
      name entry = n ∧ n ≠ blank ∧ ∃ key, find key = some entry := by
    intro entry hentry
    obtain ⟨key, hkey, hfind⟩ := Option.bind_eq_some_iff.mp hentry
    obtain ⟨hblank, other, hother, hname⟩ := h.indexed n key hkey
    rw [hfind] at hother
    cases hother
    exact ⟨hname, hblank, key, hfind⟩
  constructor
  · constructor
    · intro hsome
      obtain ⟨entry, hentry⟩ := Option.isSome_iff_exists.mp hsome
      obtain ⟨hname, hblank, key, hfind⟩ := hfound entry hentry
      exact ⟨hblank, key, entry, hfind, hname⟩
    · rintro ⟨hblank, key, entry, hfind, rfl⟩
      dsimp only
      rw [h.leads key entry hfind hblank, Option.bind_some, hfind]
      rfl
  · intro entry hentry
    obtain ⟨hname, -, hstored⟩ := hfound entry hentry
    exact ⟨hname, hstored⟩

lemma lookup_insert_eq_update (s : AList fun _ : κ => ε) (key : κ) (entry : ε) :
    (fun k => (s.insert key entry).lookup k) =
      Function.update (fun k => s.lookup k) key (some entry) := by
  funext k
  by_cases hk : k = key
  · rw [hk, Function.update_self, AList.lookup_insert]
  · rw [Function.update_of_ne hk, AList.lookup_insert_ne hk]

lemma lookup_erase_eq_update (s : AList fun _ : κ => ε) (key : κ) :
    (fun k => (s.erase key).lookup k) = Function.update (fun k => s.lookup k) key none := by
  funext k
  by_cases hk : k = key
  · rw [hk, Function.update_self, AList.lookup_erase]
  · rw [Function.update_of_ne hk, AList.lookup_erase_ne hk]

section

variable {α : Type} {items : List α} {k : Nat} {a : α}

lemma perm_of_getElem? (h : items[k]? = some a) : items.Perm (a :: items.eraseIdx k) := by
  obtain ⟨hk, rfl⟩ := List.getElem?_eq_some_iff.mp h
  exact (List.getElem_cons_eraseIdx_perm hk).symm

lemma set_perm_of_getElem? (h : items[k]? = some a) (b : α) :
    (items.set k b).Perm (b :: items.eraseIdx k) :=
  List.set_perm_cons_eraseIdx (List.getElem?_eq_some_iff.mp h).1 b

end

variable {α κ : Type} [DecidableEq κ]

def countOf (key : α → κ) (items : List α) (k : κ) : Nat := items.countP fun a => key a = k

@[simp]
lemma countOf_nil (key : α → κ) (k : κ) : countOf key [] k = 0 := rfl

lemma countOf_cons (key : α → κ) (a : α) (items : List α) (k : κ) :
    countOf key (a :: items) k = countOf key items k + if key a = k then 1 else 0 := by
  simp [countOf, List.countP_cons]

lemma countOf_perm (key : α → κ) {items items' : List α} (h : items.Perm items') (k : κ) :
    countOf key items k = countOf key items' k :=
  h.countP_eq _

/-- The map has the count of every key that has one, and no other entry. -/
def KeyCounts (key : α → κ) (items : List α) (counts : κ → Option Nat) : Prop :=
  ∀ k, counts k = if countOf key items k = 0 then none else some (countOf key items k)

namespace KeyCounts

variable {key : α → κ} {items items' : List α} {counts : κ → Option Nat}

theorem nil : KeyCounts key [] fun _ => none := by
  intro k
  simp

theorem getD (h : KeyCounts key items counts) (k : κ) : (counts k).getD 0 = countOf key items k := by
  rw [h k]
  split <;> simp_all

theorem add (h : KeyCounts key items counts) (a : α) :
    KeyCounts key (a :: items)
      (Function.update counts (key a) (some ((counts (key a)).getD 0 + 1))) := by
  intro k
  by_cases hk : k = key a
  · subst hk
    simp [countOf_cons, h.getD]
  · simp [countOf_cons, hk, Ne.symm hk, h k]

variable {a : α}

section

variable (h : KeyCounts key items counts) (hperm : items.Perm (a :: items'))
include h hperm

theorem counted : counts (key a) = some (countOf key items' (key a) + 1) := by
  have hcount := countOf_perm key hperm (key a)
  rw [countOf_cons, if_pos rfl] at hcount
  rw [h (key a), hcount]
  simp

theorem lower {n : Nat} (hn : counts (key a) = some n) :
    KeyCounts key items' (if 1 < n then Function.update counts (key a) (some (n - 1))
      else Function.update counts (key a) none) := by
  obtain rfl : n = countOf key items' (key a) + 1 :=
    Option.some.inj (hn.symm.trans (h.counted hperm))
  intro k
  by_cases hk : k = key a
  · subst hk
    by_cases hlast : countOf key items' (key a) = 0
    · simp [hlast]
    · simp [hlast, Nat.pos_iff_ne_zero]
  · have hsame := countOf_perm key hperm k
    rw [countOf_cons, if_neg (Ne.symm hk)] at hsame
    split <;> simpa [hk, hsame] using h k

end

end KeyCounts

end ShieldRuntime.Library
