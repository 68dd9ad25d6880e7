import TextTemplate.Json.Reading
import TextTemplate.Scope
import TextTemplate.Value.Json
import TextTemplate.Yaml.Reading

/-!
# Documents of variables

A document of variables is a JSON object or a YAML mapping. Its entries become variables in their
order. A blank document has none; one that is neither is refused as a whole and changes nothing.
-/

namespace TextTemplate

/-- The entries of a document of variables, if it is one. -/
def Json.bindings? (document : Text) : Option (List (String × Json)) :=
  (Json.readObject? document).or (Yaml.readObject? document)

namespace Scope

variable {σ : Type}

/-- Binds a variable for each entry, one after the other. -/
def setAll (scope : Scope σ) (entries : List (String × Value σ)) : Scope σ :=
  entries.foldl (fun scope entry => scope.set entry.1 entry.2) scope

/-- Takes the variables of a document. The scope is what has been reached, also when the document is
refused. -/
def takeDocument (scope : Scope σ) (document : Text) : Scope σ × Except Error Unit :=
  if Text.isBlankText document then (scope, .ok ())
  else
    match Json.bindings? document with
    | some entries => (scope.setAll (Value.ofJsonEntries entries), .ok ())
    | none => (scope, .error (.context .unreadable))

/-- The scope with the variables of a document, unless it is refused. -/
def addDocument (scope : Scope σ) (document : Text) : Except Error (Scope σ) :=
  match scope.takeDocument document with
  | (taken, .ok ()) => .ok taken
  | (_, .error fault) => .error fault

/-- The scope with the variables of the document at a path, given what reading the file yields:
its text, or what the system says is wrong. -/
def loadDocument (scope : Scope σ) (path : String) (reading : Except String Text) :
    Attempt (Scope σ) := do
  Attempt.ofTraced (Traced.report (.loading path))
  let document ← Attempt.ofExcept (reading.mapError Error.system)
  Attempt.ofExcept (scope.addDocument document)

end Scope

end TextTemplate
