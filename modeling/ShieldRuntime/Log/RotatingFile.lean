import Mathlib.Data.List.Basic

/-!
# The rotating log file

`RotatingFileSink` over a file system on which every open and every rename succeeds. A record is the
line that `format_record` makes of it.
-/

namespace ShieldRuntime.Log

/-- `base` is the content of the file at `base_path_`, and `rotated` has those of the files beside
it under their numbers. -/
structure RotatingFileSink where
  maxSize : Nat
  maxFiles : Nat
  currentSize : Nat
  currentFile : Nat := 0
  base : List UInt8
  rotated : List (Nat × List UInt8) := []

namespace RotatingFileSink

/-- The constructor, on a file with the given content. -/
def init (content : List UInt8) (maxSize : Nat) (maxFiles : Int) : RotatingFileSink where
  maxSize
  maxFiles := (max 1 maxFiles).toNat
  currentSize := content.length
  base := content

def rotateIfNeeded (sink : RotatingFileSink) : RotatingFileSink :=
  if sink.currentSize ≤ sink.maxSize then sink
  else
    let currentFile := (sink.currentFile + 1) % sink.maxFiles
    { sink with
      currentFile
      rotated := (currentFile, sink.base) :: sink.rotated.filter fun file => file.1 ≠ currentFile
      base := []
      currentSize := 0 }

/-- `write` of a record with its formatted line. -/
def write (sink : RotatingFileSink) (line : List UInt8) : RotatingFileSink :=
  let sink := { sink with currentSize := sink.currentSize + (line.length + 1) }.rotateIfNeeded
  { sink with base := sink.base ++ line ++ [10] }

end RotatingFileSink

end ShieldRuntime.Log
