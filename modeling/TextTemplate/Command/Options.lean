import TextTemplate.Template.Render

/-!
# The options of the command

What a command line asks for: a render with its options, the help, the version, or nothing because
it is at fault.
-/

namespace TextTemplate.Command

/-- The options of a render. -/
structure Options where
  template : String
  context : Option String
  output : Option String
  assignments : List String
  key : Option String
  maxDepth : Nat
  verbose : Bool

/-- What can be named with dashes on a command line. -/
inductive Switch where
  | context
  | output
  | set
  | key
  | maxDepth
  | verbose
  | help
  | version
deriving DecidableEq

/-- What can be wrong with a command line. -/
inductive Fault where
  | missingTemplate
  | unknown (argument : String)
  | missingValue (switch : Switch)
  | surplusValue (switch : Switch)
  | repeated (switch : Switch)
  | notACount (written : String)

/-- What a command line asks for. -/
inductive Request where
  | run (options : Options)
  | help
  | version
  | refused (fault : Fault)

namespace Switch

/-- All that can be named with dashes, in the order of the help. -/
def all : List Switch :=
  [.context, .output, .set, .key, .maxDepth, .verbose, .help, .version]

/-- The name behind two dashes. -/
def longName : Switch → String
  | .context => "context"
  | .output => "output"
  | .set => "set"
  | .key => "key"
  | .maxDepth => "max-depth"
  | .verbose => "verbose"
  | .help => "help"
  | .version => "version"

/-- The letter behind a single dash. -/
def letter? : Switch → Option Char
  | .context => some 'c'
  | .output => some 'o'
  | .set => some 's'
  | .key => some 'k'
  | .maxDepth => none
  | .verbose => some 'v'
  | .help => some 'h'
  | .version => some 'V'

/-- The name of the value, for a switch that takes one. -/
def valueName? : Switch → Option String
  | .context => some "FILE"
  | .output => some "FILE"
  | .set => some "KEY=VALUE"
  | .key => some "KEY"
  | .maxDepth => some "MAX_DEPTH"
  | .verbose => none
  | .help => none
  | .version => none

/-- What the help says. -/
def description : Switch → String
  | .context => "JSON or YAML file whose top-level keys become template variables"
  | .output => "Write the rendered output to this file instead of stdout"
  | .set => "Set a variable, overriding the context file. The value is parsed as JSON when "
      ++ "possible, e.g. `--set Count=3`"
  | .key => "Identifying key for the root scope"
  | .maxDepth => "Maximum nesting depth of @if/@foreach regions [default: 64]"
  | .verbose => "Enable verbose logging output"
  | .help => "Print help"
  | .version => "Print version"

/-- The switch takes a value. -/
def takesValue (switch : Switch) : Bool :=
  switch.valueName?.isSome

/-- The switch of a long name. -/
def ofLongName? (name : Text) : Option Switch :=
  all.find? fun switch => switch.longName.toList == name

/-- The switch of a letter. -/
def ofLetter? (letter : Char) : Option Switch :=
  all.find? fun switch => switch.letter? == some letter

/-- How the help writes the switch. -/
def usage (switch : Switch) : String :=
  let letter := match switch.letter? with
    | some letter => "-" ++ letter.toString ++ ", "
    | none => "    "
  let value := match switch.valueName? with
    | some name => " <" ++ name ++ ">"
    | none => ""
  letter ++ "--" ++ switch.longName ++ value

end Switch

namespace Fault

/-- The fault in words. -/
def message : Fault → String
  | .missingTemplate => "the template is missing"
  | .unknown argument => "unexpected argument '" ++ argument ++ "' found"
  | .missingValue switch => "a value is required for '--" ++ switch.longName ++ "'"
  | .surplusValue switch => "'--" ++ switch.longName ++ "' takes no value"
  | .repeated switch => "'--" ++ switch.longName ++ "' cannot be used multiple times"
  | .notACount written => "'" ++ written ++ "' is no count"

/-- The exit code after a fault. -/
def exitCode : Fault → Nat
  | .missingTemplate => 1
  | _ => 2

end Fault

namespace Request

/-- The name and version of the command. -/
def versionLine : String :=
  "stencil 0.1.0"

/-- A line of the help: a switch in a column of at least 27 characters, and what it does. -/
def helpLine (switch : Switch) : String :=
  let column := switch.usage.toList
  "  " ++ String.ofList (column ++ List.replicate (27 - column.length) ' ') ++ "  " ++
    switch.description

/-- The help in lines. -/
def helpLines : List String :=
  ["stencil: render text templates against a JSON or YAML context", "",
    "Usage: stencil [OPTIONS] <TEMPLATE>", "",
    "Arguments:",
    "  <TEMPLATE>  Path to the template file, or '-' to read the template from stdin", "",
    "Options:"] ++ Switch.all.map helpLine

end Request

end TextTemplate.Command
