import TextTemplate.Calendar.Pattern
import TextTemplate.Entries
import TextTemplate.NameTable
import TextTemplate.Number.Decimal
import TextTemplate.Number.FloatText

/-!
# Values

The values that templates work on. A value is data throughout: a host object is the list of what
it answers, and a function is a name with a code, where the codes of the host's own services are a
type `σ` that the host chooses. Two further codes belong to the language: the stand-in for a
service that is not registered, and the directory that turns a name into a service.
-/

namespace TextTemplate

/-- What a function does when it is called. -/
inductive Code (σ : Type) where
  | service (handle : σ)
  | unregistered
  | directory (services : NameTable σ)

/-- A function that a template can call. -/
structure Function (σ : Type) where
  name : String
  code : Code σ

/-- An object of the host. Its fields are found by their exact names, and by the names it lists up
to case; an object with a size counts as a collection. Objects have an identity, and only an
object is equal to itself. -/
structure HostObject (α : Type) where
  identity : Nat
  typeName : String
  fields : List (String × α)
  fieldNames : List String
  size : Option Nat
  shown : String

/-- A value of a template. -/
inductive Value (σ : Type) where
  | null
  | bool (b : Bool)
  | int (n : Int64)
  | float (x : Float)
  | decimal (d : Decimal)
  | string (s : String)
  | date (d : Date)
  | dateTime (t : DateTime)
  | list (items : List (Value σ))
  | map (entries : List (String × Value σ))
  | object (o : HostObject (Value σ))
  | function (f : Function σ)

namespace Value

variable {σ : Type}

instance : Inhabited (Value σ) :=
  ⟨null⟩

/-- The value of a piece of text. -/
def ofText (text : Text) : Value σ :=
  string (String.ofList text)

/-- The value of a count; one that needs more than 63 bits is shown as the greatest integer. -/
def ofCount (n : Nat) : Value σ :=
  int (Int64.ofInt (min n (Nat.pow 2 63 - 1)))

/-- The value is null. -/
def isNull : Value σ → Bool
  | null => true
  | _ => false

/-- The value is an integer, a floating-point number or a decimal. -/
def isNumeric : Value σ → Bool
  | int _ => true
  | float _ => true
  | decimal _ => true
  | _ => false

/-- The floating-point number that a numeric value is compared by. -/
def toFloat? : Value σ → Option Float
  | int n => some (Float.ofInt n.toInt)
  | float x => some x
  | decimal d => some d.toFloat
  | _ => none

/-- The string of a string value. -/
def string? : Value σ → Option String
  | string s => some s
  | _ => none

/-- The number of elements of a collection. -/
def size? : Value σ → Option Nat
  | list items => some items.length
  | map entries => some entries.length
  | object o => o.size
  | _ => none

/-- Null, the empty string and empty collections are blank. -/
def isBlank : Value σ → Bool
  | null => true
  | string s => s.isEmpty
  | value => value.size? == some 0

/-- Whether a condition holds that consists of the value alone: null, false, the integer nought,
the empty string and empty collections do not hold. -/
def isTruthy : Value σ → Bool
  | null => false
  | bool b => b
  | int n => n != 0
  | string s => !s.isEmpty
  | list items => !items.isEmpty
  | map entries => !entries.isEmpty
  | object o => o.size != some 0
  | _ => true

/-- A key with its value, as iteration over a map presents them. -/
def entry (key : String) (value : Value σ) : Value σ :=
  map [("Key", string key), ("Value", value)]

mutual

/-- The text that a value leaves in a rendered template. -/
def display : Value σ → Text
  | null => []
  | bool b => (toString b).toList
  | int n => Digits.ofInt n.toInt
  | float x => FloatText.display x
  | decimal d => d.display
  | string s => s.toList
  | date d => Calendar.showDate d
  | dateTime t => Calendar.showDateTime t
  | list items => '[' :: displayItems items ++ [']']
  | map entries => '{' :: displayEntries entries ++ ['}']
  | object o => o.shown.toList
  | function f => f.name.toList ++ ['(', ')']

/-- The texts of the items with commas between them. -/
def displayItems : List (Value σ) → Text
  | [] => []
  | [item] => item.display
  | item :: others => item.display ++ ',' :: ' ' :: displayItems others

/-- The keys and texts of the entries with commas between them. -/
def displayEntries : List (String × Value σ) → Text
  | [] => []
  | [(key, value)] => key.toList ++ ':' :: ' ' :: value.display
  | (key, value) :: others =>
    key.toList ++ ':' :: ' ' :: value.display ++ ',' :: ' ' :: displayEntries others

end

/-- The text of a value as a string. -/
def toString (value : Value σ) : String :=
  String.ofList value.display

/-- A code belongs to the same service. Every look-up makes a new stand-in or directory, so those
are never the same. -/
def sameCode [BEq σ] : Code σ → Code σ → Bool
  | .service left, .service right => left == right
  | _, _ => false

mutual

/-- Two values are identical: of one kind and alike in every part. Functions and objects are
identical to themselves only, and the order of a map's entries does not count. -/
def same [BEq σ] : Value σ → Value σ → Bool
  | null, null => true
  | bool left, bool right => left == right
  | int left, int right => left == right
  | float left, float right => left == right
  | decimal left, decimal right => left.sameNumber right
  | string left, string right => left == right
  | date left, date right => left.same right
  | dateTime left, dateTime right => left.same right
  | list left, list right => sameItems left right
  | map left, map right => left.length == right.length && sameEntries left right
  | object left, object right => left.identity == right.identity
  | function left, function right => sameCode left.code right.code
  | _, _ => false

/-- Two lists are identical item by item. -/
def sameItems [BEq σ] : List (Value σ) → List (Value σ) → Bool
  | [], [] => true
  | left :: lefts, right :: rights => same left right && sameItems lefts rights
  | _, _ => false

/-- Every entry has an identical one in the other map. -/
def sameEntries [BEq σ] : List (String × Value σ) → List (String × Value σ) → Bool
  | [], _ => true
  | (key, left) :: lefts, rights =>
    (match Entries.get? key rights with
      | some right => same left right
      | none => false) && sameEntries lefts rights

end

end Value

end TextTemplate
