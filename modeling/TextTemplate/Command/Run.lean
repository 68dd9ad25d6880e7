import TextTemplate.Command.Directory
import TextTemplate.Command.Options
import TextTemplate.Variables.Assignment
import TextTemplate.Variables.Document

/-!
# Running the command

A run reads the template, loads the document of variables, applies the assignments and renders, in
this order. The first error ends it, and nothing has been printed or written by then. The result
is printed or written to a file.
-/

namespace TextTemplate.Command

/-- A template of the command has no services to call. -/
instance : Host Empty :=
  ⟨fun handle => nomatch handle⟩

/-- The scope of a template, without variables. -/
def Options.scope (options : Options) : Scope Empty :=
  match options.key with
  | some key => .withKey key
  | none => .empty

/-- Loads the document that the options name, given what reading it yields. -/
def loadContext (options : Options) (context : String → Except String Text)
    (scope : Scope Empty) : Attempt (Scope Empty) :=
  match options.context with
  | some path => scope.loadDocument path (context path)
  | none => pure scope

/-- The scope after the assignments. -/
def applyAssignments (options : Options) (scope : Scope Empty) : Attempt (Scope Empty) := do
  let (scope, result) ← Attempt.ofTraced (scope.assign options.assignments)
  let _ ← Attempt.ofExcept result
  pure scope

/-- The rendered text, given what reading the template and the document yields. -/
def produce (options : Options) (template : Except String Text)
    (context : String → Except String Text) : Attempt Text := do
  let template ← Attempt.ofExcept (template.mapError Error.system)
  let scope ← loadContext options context options.scope
  let scope ← applyAssignments options scope
  Renderer.render { Renderer.standard with maxDepth := options.maxDepth } scope template

/-- What a run leaves behind: its exit code, the text on standard output, the error that ended it,
and the files. -/
structure Outcome (φ : Type) where
  code : Nat
  printed : Text
  error? : Option Error
  directory : φ

/-- The path that stands for standard input. -/
def standardInput : String :=
  "-"

section

variable {φ : Type} [FileSystem φ]

/-- Reads a file as text. -/
def readText (directory : φ) (path : String) : Except String Text :=
  (FileSystem.read directory path).bind Directory.decode

/-- The result of reading the template. -/
def readTemplate (options : Options) (directory : φ) (input : ByteArray) : Except String Text :=
  if options.template = standardInput then Directory.decode input
  else readText directory options.template

/-- The outcome of a run that an error ends. -/
def Outcome.failed (directory : φ) (error : Error) : Outcome φ :=
  ⟨1, [], some error, directory⟩

/-- Prints the text or writes it to a file. -/
def deliver (options : Options) (directory : φ) (text : Text) : Traced (Outcome φ) :=
  match options.output with
  | none => pure ⟨0, text, none, directory⟩
  | some path =>
    match FileSystem.write directory path (String.ofList text).toUTF8 with
    | (directory, .error message) => pure (.failed directory (.system message))
    | (directory, .ok ()) => do
      Traced.report (.delivered options.template path)
      pure ⟨0, [], none, directory⟩

/-- Runs the command on files. -/
def run (options : Options) (directory : φ) (input : ByteArray) : Traced (Outcome φ) := do
  let template := readTemplate options directory input
  let result ← (produce options template (readText directory)).run
  match result with
  | .ok text => deliver options directory text
  | .error error => pure (.failed directory error)

end

end TextTemplate.Command
