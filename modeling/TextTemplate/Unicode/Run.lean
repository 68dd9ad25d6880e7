/-!
# Runs of code points

The data of a character property is a list of runs, and the data of a case mapping is a list of
runs that all move by the same distance. This file gives the two row types and the way a list of
rows is read.
-/

namespace TextTemplate.Unicode

/-- The code points `first`, `first + step`, and so on up to `last`. -/
structure Run where
  first : Nat
  last : Nat
  step : Nat

/-- A run whose points all map to the point `distance` further on. -/
structure Shift where
  first : Nat
  last : Nat
  step : Nat
  distance : Int

/-- A point lies in a run if it is between the ends and a whole number of steps from the first. -/
def Run.contains (run : Run) (point : Nat) : Bool :=
  run.first ≤ point && point ≤ run.last && (point - run.first) % run.step == 0

/-- A point lies in a list of runs if one of them contains it. -/
def inRuns (runs : List Run) (point : Nat) : Bool :=
  runs.any fun run => run.contains point

/-- A shift covers the points of its run. -/
def Shift.contains (shift : Shift) (point : Nat) : Bool :=
  shift.first ≤ point && point ≤ shift.last && (point - shift.first) % shift.step == 0

/-- The point that a list of shifts maps `point` to; a point that no shift covers stays. -/
def shiftBy (shifts : List Shift) (point : Nat) : Nat :=
  match shifts.find? fun shift => shift.contains point with
  | some shift => (Int.ofNat point + shift.distance).toNat
  | none => point

end TextTemplate.Unicode
