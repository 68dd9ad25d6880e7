/-!
# Shortest decimals of binary fractions

The decimal text of a floating-point number uses the fewest digits that read back as that number.
A number has an interval of reals that round to it; for one digit, two digits, and so on, its two
neighbours on the decimal grid are tested, and the first grid with a point in the interval gives
the digits. Of two such points the nearer one is taken. All comparisons are between natural
numbers.
-/

namespace TextTemplate.Shortest

/-- A positive finite number `mantissa * 2 ^ exponent`. Next below a power of two the numbers lie
twice as dense, which `denserBelow` records. -/
structure Magnitude where
  mantissa : Nat
  exponent : Int
  denserBelow : Bool

/-- The magnitude of a finite number of 64 bits, read from its bits. -/
def Magnitude.ofBits (bits : Nat) : Magnitude :=
  let biased : Nat := bits / Nat.pow 2 52 % Nat.pow 2 11
  let fraction : Nat := bits % Nat.pow 2 52
  if biased = 0 then ⟨fraction, -1074, false⟩
  else ⟨fraction + Nat.pow 2 52, (biased : Int) - 1075, fraction = 0 && 1 < biased⟩

/-- What becomes of an exact tie between two decimals. -/
inductive Tie where
  | up
  | even

/-- A comparison of quarters of the unit in the last binary place with the points of a decimal
grid: `x` quarters stand for `x * scale`, and the grid point `c` for `c * unit`. -/
structure Grid where
  unit : Nat
  scale : Nat

/-- The grid of multiples of `10 ^ place` beside a number with the given binary exponent. -/
def Grid.ofPlace (exponent place : Int) : Grid where
  unit := Nat.pow 10 place.toNat * Nat.pow 2 (2 - exponent).toNat
  scale := Nat.pow 2 (exponent - 2).toNat * Nat.pow 10 (-place).toNat

/-- The grid point `candidate` rounds to the magnitude. The ends of the interval belong to it
exactly if the mantissa is even. -/
def Grid.reaches (grid : Grid) (magnitude : Magnitude) (candidate : Nat) : Bool :=
  let low := (4 * magnitude.mantissa - if magnitude.denserBelow then 1 else 2) * grid.scale
  let high := (4 * magnitude.mantissa + 2) * grid.scale
  let point := candidate * grid.unit
  if magnitude.mantissa % 2 = 0 then low ≤ point && point ≤ high
  else low < point && point < high

/-- The point of the grid that rounds to the magnitude and lies nearest to it, if there is one. -/
def Grid.pick? (grid : Grid) (tie : Tie) (magnitude : Magnitude) : Option Nat :=
  let exact := 4 * magnitude.mantissa * grid.scale
  let below := exact / grid.unit
  let twiceRest := 2 * (exact - below * grid.unit)
  let preferAbove : Bool := match tie with
    | .up => grid.unit ≤ twiceRest
    | .even => grid.unit < twiceRest || (grid.unit = twiceRest && below % 2 = 1)
  match grid.reaches magnitude below, grid.reaches magnitude (below + 1) with
  | true, true => some (if preferAbove then below + 1 else below)
  | true, false => some below
  | false, true => some (below + 1)
  | false, false => none

/-- The first grid at or below `place` that has a point for the magnitude, with that point. -/
def search (tie : Tie) (magnitude : Magnitude) (place : Int) : Nat → Nat × Int
  | 0 => (0, place)
  | steps + 1 =>
    match (Grid.ofPlace magnitude.exponent place).pick? tie magnitude with
    | some digits => (digits, place)
    | none => search tie magnitude (place - 1) steps

/-- The decimal power at or above which a number with this mantissa and exponent has its first
digit; it may be one too high, which costs one step of the search. -/
def leadingPlace (magnitude : Magnitude) : Int :=
  ((Nat.log2 magnitude.mantissa + magnitude.exponent) * 30103).fdiv 100000 + 1

/-- The shortest decimal `digits * 10 ^ place` that reads back as the magnitude. Seventeen digits
always suffice. -/
def decimal (tie : Tie) (magnitude : Magnitude) : Nat × Int :=
  search tie magnitude (leadingPlace magnitude) 20

end TextTemplate.Shortest
