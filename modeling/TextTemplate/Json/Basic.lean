import TextTemplate.Entries
import TextTemplate.Text

/-!
# JSON documents

A document of variables is read into this type. Whole numbers that fit 64 bits, signed or not, are
kept exactly; all other numbers are floating-point numbers. The keys of an object are distinct and
in the order of the document.
-/

namespace TextTemplate

/-- A JSON document. -/
inductive Json where
  | null
  | bool (b : Bool)
  | whole (n : Int)
  | float (x : Float)
  | string (s : String)
  | array (items : List Json)
  | object (entries : List (String × Json))

instance : Inhabited Json :=
  ⟨.null⟩

/-- A token of a JSON text. -/
inductive Json.Token where
  | openArray
  | closeArray
  | openObject
  | closeObject
  | comma
  | colon
  | string (s : String)
  | scalar (value : Json)

end TextTemplate
