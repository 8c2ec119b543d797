import ShieldRuntime.Library.Machine
import ShieldRuntime.Log.RotatingFile

/-!
# The size of the log files

A rotation sets the counter to zero before the pending record is written.
-/

namespace ShieldRuntime.Proofs
open Library Log

variable (maxFiles : Int)

/-- What is to hold after the record of `line` was written. -/
def Bounded (line : List UInt8) (sink : RotatingFileSink) : Prop :=
  sink.currentSize = sink.base.length ∧ sink.base.length ≤ max sink.maxSize (line.length + 1) ∧
    sink.rotated.length ≤ maxFiles.toNat

def writeStep (sink : RotatingFileSink) (line : List UInt8) : Option RotatingFileSink :=
  some (sink.write line)

/-- The bounds hold after every record. -/
def BoundedLogs : RotatingFileSink → List (List UInt8) → Prop :=
  Admits writeStep fun sink line => Bounded maxFiles line (sink.write line)

instance (sink : RotatingFileSink) (lines) : Decidable (BoundedLogs maxFiles sink lines) :=
  have (sink : RotatingFileSink) (line) : Decidable (Bounded maxFiles line (sink.write line)) :=
    inferInstanceAs (Decidable (_ ∧ _))
  inferInstanceAs (Decidable (Admits _ _ _ _))

def recordSizes (lines : List (List UInt8)) : Nat := (lines.map fun line => line.length + 1).sum

lemma boundedLogs_iff (lines : List (List UInt8)) (sink : RotatingFileSink)
    (hsize : sink.currentSize = sink.base.length) (hmax : sink.base.length ≤ sink.maxSize)
    (hnone : sink.rotated = []) :
    BoundedLogs maxFiles sink lines ↔ sink.base.length + recordSizes lines ≤ sink.maxSize := by
  induction lines generalizing sink with
  | nil => simpa [BoundedLogs, Admits, recordSizes] using hmax
  | cons line lines ih =>
    have hsum : recordSizes (line :: lines) = line.length + 1 + recordSizes lines := rfl
    by_cases hfits : sink.currentSize + (line.length + 1) ≤ sink.maxSize
    · have hwrite : sink.write line = { sink with
          currentSize := sink.currentSize + (line.length + 1)
          base := sink.base ++ line ++ [10] } := by
        simp [RotatingFileSink.write, RotatingFileSink.rotateIfNeeded, hfits]
      have hlength : (sink.write line).base.length = sink.base.length + (line.length + 1) := by
        simp [hwrite]
      have hcount : (sink.write line).currentSize = (sink.write line).base.length := by
        simp [hwrite, hsize]
      have hroom : (sink.write line).base.length ≤ (sink.write line).maxSize := by
        rw [hlength, hwrite, ← hsize]
        exact hfits
      have hkept : (sink.write line).rotated = [] := by rw [hwrite, hnone]
      have hrest := ih (sink.write line) hcount hroom hkept
      rw [hlength, hwrite] at hrest
      rw [hsum, ← Nat.add_assoc, ← hrest, ← hwrite]
      refine ⟨fun h => h.2 _ rfl, fun h => ⟨⟨hcount, ?_, by simp [hkept]⟩, ?_⟩⟩
      · exact hroom.trans (le_max_left _ _)
      · rintro next ⟨⟩
        exact h
    · -- the record is in the new file and not in the counter
      have hrotated : ¬ Bounded maxFiles line (sink.write line) := by
        simp [Bounded, RotatingFileSink.write, RotatingFileSink.rotateIfNeeded, hfits]
      refine iff_of_false (fun h => hrotated h.1) ?_
      omega

/-- The counter is the size of the file after every record exactly when no record makes the file
rotate. -/
theorem log_files_bounded_iff (content : List UInt8) (maxSize : Nat) (maxFiles : Int)
    (lines : List (List UInt8)) (hstart : content.length ≤ maxSize) :
    BoundedLogs maxFiles (.init content maxSize maxFiles) lines ↔
      content.length + recordSizes lines ≤ maxSize :=
  boundedLogs_iff maxFiles lines _ rfl hstart rfl

/-- The line `7 [INFO] a: up`. -/
def upLine : List UInt8 := [55, 32, 91, 73, 78, 70, 79, 93, 32, 97, 58, 32, 117, 112]

theorem log_files_bounded_iff_pair : BoundedLogs 3 (.init (upLine ++ [10]) 50 3) [upLine, upLine] :=
  (log_files_bounded_iff (upLine ++ [10]) 50 3 [upLine, upLine] (by decide)).mpr (by decide)

/-- With room for 25 bytes the file has 30 after the third record, and the counter 15. -/
theorem rotated_log_uncounted :
    ¬ BoundedLogs 1 (.init [] 25 1) (List.replicate 3 upLine) ∧
      ((List.replicate 3 upLine).foldl RotatingFileSink.write (.init [] 25 1)).base.length = 30 := by
  decide

end ShieldRuntime.Proofs
