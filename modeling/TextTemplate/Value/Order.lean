import TextTemplate.Value.Basic

/-!
# Order and equality of values

How conditions compare values. Null comes before everything else and equals only itself; two
numbers are compared as floating-point numbers; any other two values are compared by their texts
without regard to case. The order folds texts to upper case, the equality to lower case, and the
equality of numbers allows for a small difference.
-/

namespace TextTemplate.Value

variable {σ : Type}

/-- Numbers that are closer than this are equal. -/
def tolerance : Float :=
  1e-10

/-- The order of two floating-point numbers; a number that is no number is in order with all. -/
def compareFloats (left right : Float) : Ordering :=
  if left < right then .lt else if right < left then .gt else .eq

/-- The order of two texts, character by character. -/
def compareTexts : Text → Text → Ordering
  | [], [] => .eq
  | [], _ :: _ => .lt
  | _ :: _, [] => .gt
  | c :: left, d :: right =>
    if c.toNat < d.toNat then .lt else if d.toNat < c.toNat then .gt else compareTexts left right

/-- The order of two values. -/
def compare (left right : Value σ) : Ordering :=
  match left, right with
  | null, null => .eq
  | null, _ => .lt
  | _, null => .gt
  | _, _ =>
    match left.toFloat?, right.toFloat? with
    | some x, some y => compareFloats x y
    | _, _ => compareTexts (Unicode.upper left.display) (Unicode.upper right.display)

/-- The equality of two values. -/
def equals (left right : Value σ) : Bool :=
  match left, right with
  | null, null => true
  | null, _ => false
  | _, null => false
  | _, _ =>
    match left.toFloat?, right.toFloat? with
    | some x, some y => (x - y).abs < tolerance
    | _, _ => Unicode.sameFolded left.display right.display

end TextTemplate.Value
