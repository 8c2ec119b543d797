import Mathlib.Data.List.Lex
import Mathlib.Tactic

/-!
# Digits packed into a number

The number of a list of digits, the highest first.
-/

namespace ShieldRuntime.Library

section

variable {base : Nat}

def packDigits (base : Nat) : List Nat → Nat
  | [] => 0
  | d :: ds => d * base ^ ds.length + packDigits base ds

def unpackDigits (base n : Nat) : (count : Nat) → List Nat
  | 0 => []
  | count + 1 => n / base ^ count % base :: unpackDigits base n count

variable {ds : List Nat}

lemma packDigits_lt (h : ∀ d ∈ ds, d < base) : packDigits base ds < base ^ ds.length := by
  induction ds with
  | nil => exact Nat.one_pos
  | cons d ds ih =>
    obtain ⟨hd, hds⟩ := List.forall_mem_cons.mp h
    calc
      d * base ^ ds.length + packDigits base ds
        < d * base ^ ds.length + base ^ ds.length := Nat.add_lt_add_left (ih hds) _
      _ = (d + 1) * base ^ ds.length := by ring
      _ ≤ base * base ^ ds.length := Nat.mul_le_mul_right _ hd
      _ = base ^ (d :: ds).length := by rw [List.length_cons, pow_succ, mul_comm]

lemma unpackDigits_add_mul {n high k count : Nat} (hbase : 0 < base) (h : count ≤ k) :
    unpackDigits base (n + high * base ^ k) count = unpackDigits base n count := by
  induction count with
  | zero => rfl
  | succ count ih =>
    have hpow : high * base ^ k = high * base ^ (k - count - 1) * base * base ^ count := by
      rw [mul_assoc, mul_assoc, ← pow_succ', ← pow_add]
      congr 2
      omega
    have hhead : (n + high * base ^ k) / base ^ count % base = n / base ^ count % base := by
      rw [hpow, Nat.add_mul_div_right _ _ (Nat.pow_pos hbase), Nat.add_mul_mod_self_right]
    rw [unpackDigits, unpackDigits, hhead, ih (Nat.le_of_succ_le h)]

theorem unpackDigits_packDigits (h : ∀ d ∈ ds, d < base) :
    unpackDigits base (packDigits base ds) ds.length = ds := by
  induction ds with
  | nil => rfl
  | cons d ds ih =>
    obtain ⟨hd, hds⟩ := List.forall_mem_cons.mp h
    have hbase : 0 < base := Nat.zero_lt_of_lt hd
    have hhead : (packDigits base ds + d * base ^ ds.length) / base ^ ds.length % base = d := by
      rw [Nat.add_mul_div_right _ _ (Nat.pow_pos hbase), Nat.div_eq_of_lt (packDigits_lt hds),
        Nat.zero_add, Nat.mod_eq_of_lt hd]
    rw [packDigits, Nat.add_comm, List.length_cons, unpackDigits, hhead,
      unpackDigits_add_mul hbase le_rfl, ih hds]

lemma length_unpackDigits (n count : Nat) : (unpackDigits base n count).length = count := by
  induction count with
  | zero => rfl
  | succ count ih => rw [unpackDigits, List.length_cons, ih]

theorem packDigits_unpackDigits (n count : Nat) :
    packDigits base (unpackDigits base n count) = n % base ^ count := by
  induction count with
  | zero => simp [unpackDigits, packDigits, Nat.mod_one]
  | succ count ih =>
    rw [unpackDigits, packDigits, ih, length_unpackDigits, pow_succ, Nat.mod_mul, Nat.add_comm,
      Nat.mul_comm]

/-- Numbers are ordered as their digits are. -/
theorem packDigits_lt_iff {as bs : List Nat} (hlength : as.length = bs.length)
    (has : ∀ a ∈ as, a < base) (hbs : ∀ b ∈ bs, b < base) :
    packDigits base as < packDigits base bs ↔ as < bs := by
  induction as generalizing bs with
  | nil =>
    obtain rfl := List.eq_nil_of_length_eq_zero hlength.symm
    simp
  | cons a as ih =>
    cases bs with
    | nil => cases hlength
    | cons b bs =>
      have hlength' : as.length = bs.length := Nat.succ.inj hlength
      obtain ⟨-, has⟩ := List.forall_mem_cons.mp has
      obtain ⟨-, hbs⟩ := List.forall_mem_cons.mp hbs
      have hlow := packDigits_lt has
      have hlow' := packDigits_lt hbs
      rw [List.cons_lt_cons_iff, ← ih hlength' has hbs, packDigits, packDigits, hlength']
      rw [hlength'] at hlow
      rcases Nat.lt_trichotomy a b with hab | rfl | hab
      · have hstep : (a + 1) * base ^ bs.length ≤ b * base ^ bs.length :=
          Nat.mul_le_mul_right _ hab
        rw [add_one_mul] at hstep
        omega
      · omega
      · have hstep : (b + 1) * base ^ bs.length ≤ a * base ^ bs.length :=
          Nat.mul_le_mul_right _ hab
        rw [add_one_mul] at hstep
        omega

end

end ShieldRuntime.Library
