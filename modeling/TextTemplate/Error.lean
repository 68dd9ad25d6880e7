/-!
# Errors

What can stop a render or the loading of variables. Names that lead nowhere, calls that fail and
regions that are not well formed are no errors: they leave a blank or plain text.
-/

namespace TextTemplate

/-- What can be wrong with a document of variables or with an assignment. -/
inductive ContextFault where
  | notAnAssignment (written : String)
  | missingKey (written : String)
  | unreadable
  | reported (message : String)
deriving DecidableEq

/-- The causes for which rendering or loading stops. -/
inductive Error where
  | stringCollection (collection : String)
  | helper (name message : String)
  | nesting (limit : Nat)
  | context (fault : ContextFault)
  | system (message : String)
deriving DecidableEq

/-- The fault in words. -/
def ContextFault.message : ContextFault → String
  | .notAnAssignment written => "Expected KEY=VALUE, got '" ++ written ++ "'"
  | .missingKey written => "Missing key in '" ++ written ++ "'"
  | .unreadable => "Invalid context format"
  | .reported message => message

/-- The error in words. -/
def Error.message : Error → String
  | .stringCollection collection =>
    "Cannot iterate over string value of '" ++ collection ++ "' in @foreach."
  | .helper name message => "Helper '" ++ name ++ "' failed: " ++ message ++ "."
  | .nesting limit => "Template nesting exceeds the maximum depth of " ++ toString limit ++ "."
  | .context fault => "Context error: " ++ fault.message ++ "."
  | .system message => "IO error: " ++ message ++ "."

end TextTemplate
