import TextTemplate.Command.Arguments
import TextTemplate.Command.Run

/-!
# The command line

The command reads its files, lets the library do the work and prints or writes the result.
-/

namespace TextTemplate.Command.Terminal

/-- The content of a file, or what the system says is wrong. -/
def readContent (path : String) : IO (Except String Text) :=
  try
    let content ← IO.FS.readBinFile path
    pure (Directory.decode content)
  catch problem => pure (.error (toString problem))

/-- The content of standard input. -/
def readInput : IO (Except String Text) :=
  try
    let input ← IO.getStdin
    let content ← input.readBinToEnd
    pure (Directory.decode content)
  catch problem => pure (.error (toString problem))

/-- The path before the last slash. -/
def parentPath (path : String) : String :=
  String.ofList ((path.toList.reverse.dropWhile (· != '/')).drop 1).reverse

/-- Writes a file, making the directories on the way to it. -/
def writeContent (path : String) (text : Text) : IO (Except String Unit) :=
  try
    let parent := parentPath path
    if parent ≠ "" then IO.FS.createDirAll parent
    IO.FS.writeFile path (String.ofList text)
    pure (.ok ())
  catch problem => pure (.error (toString problem))

/-- Prints events to standard error if they are wanted. -/
def logEvents (verbose : Bool) (events : List Event) : IO Unit := do
  if verbose then
    for event in events do
      IO.eprintln ("[" ++ event.level.name ++ "] " ++ event.message)

/-- Prints an error and yields the exit code. -/
def fail (error : Error) : IO UInt32 := do
  IO.eprintln error.message
  pure 1

/-- Renders as the options say. -/
def render (options : Options) : IO UInt32 := do
  let template ←
    if options.template = standardInput then readInput else readContent options.template
  let context ← match options.context with
    | some path => readContent path
    | none => pure (.ok [])
  let result := (produce options template fun _ => context).run
  logEvents options.verbose result.events
  match result.value, options.output with
  | .error error, _ => fail error
  | .ok text, none => do
    (← IO.getStdout).putStr (String.ofList text)
    pure 0
  | .ok text, some path => do
    match ← writeContent path text with
    | .error message => fail (.system message)
    | .ok () => do
      logEvents options.verbose [.delivered options.template path]
      pure 0

end TextTemplate.Command.Terminal

open TextTemplate.Command in
/-- Does what the command line asks for and yields the exit code. -/
def main (arguments : List String) : IO UInt32 := do
  match Request.ofArguments arguments with
  | .run options => Terminal.render options
  | .help => do
    Request.helpLines.forM IO.println
    pure 0
  | .version => do
    IO.println Request.versionLine
    pure 0
  | .refused .missingTemplate => do
    Request.helpLines.forM IO.println
    pure 1
  | .refused fault => do
    IO.eprintln ("error: " ++ fault.message)
    pure (UInt32.ofNat fault.exitCode)
