import TextTemplate.Value.Basic

/-!
# Fields

One segment of a dotted path: the fields of maps and objects, the length of lists and strings, and
the items of lists. An exact name goes before one that differs in case.
-/

namespace TextTemplate.Value

open Unicode (sameName)

variable {σ : Type}

/-- The entry of a map under this name or else under the first name that differs in case only. -/
def lookup? (entries : List (String × Value σ)) (name : String) : Option (Value σ) :=
  (Entries.get? name entries).or
    ((entries.find? fun pair => sameName pair.1 name).map Prod.snd)

/-- The field of an object under this name, or else under the first listed name that differs in
case only. -/
def objectField? (o : HostObject (Value σ)) (name : String) : Option (Value σ) :=
  (Entries.get? name o.fields).or
    ((o.fieldNames.find? fun candidate => sameName candidate name).bind fun candidate =>
      Entries.get? candidate o.fields)

/-- The field of a value, if there is one. -/
def field? (value : Value σ) (name : String) : Option (Value σ) :=
  match value with
  | map entries => lookup? entries name
  | object o => objectField? o name
  | list items =>
    if sameName name "Count" || sameName name "Length" then some (ofCount items.length)
    else (Digits.size? name.toList).bind fun position => items[position]?
  | string s => if sameName name "Length" then some (ofCount s.length) else none
  | _ => none

end TextTemplate.Value
