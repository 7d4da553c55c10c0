/-!
# Tables of code points

A property of code points is listed as closed ranges. A change of single code points
is listed as runs that move by one distance, every code point of the run or every
second one, since many scripts alternate capital and small letters.
-/

namespace WebLinking.Text

/-- Closed ranges of code points. -/
abbrev Ranges := List (Nat × Nat)

/-- A code point lies in one of the ranges. -/
def Ranges.contains (ranges : Ranges) (c : Char) : Bool :=
  ranges.any fun (first, last) => first ≤ c.toNat && c.toNat ≤ last

/-- Code points `first`, `first + step`, … up to `last`, all moved by one distance. -/
structure Run where
  /-- The first code point that moves. -/
  first : Nat
  /-- The last code point that moves. -/
  last : Nat
  /-- The distance between neighbours of the run. -/
  step : Nat
  /-- How far each code point moves. -/
  shift : Int
  deriving DecidableEq, Repr

/-- A code point belongs to a run. -/
def Run.contains (run : Run) (c : Char) : Bool :=
  run.first ≤ c.toNat && c.toNat ≤ run.last && (c.toNat - run.first) % run.step == 0

/-- A code point moved by the run that holds it, or left as it is. -/
def move (runs : List Run) (c : Char) : Char :=
  match runs.find? (·.contains c) with
  | some run => Char.ofNat (c.toNat + run.shift).toNat
  | none => c

end WebLinking.Text
