import TextTemplate.Command.Options

/-!
# Reading the command line

The arguments are taken one after the other. A value that is complete takes effect when the next
argument is accepted, or at the end, so that an argument which is not accepted at all is reported
before a fault in the value before it. Behind a double dash every argument is a plain one.
-/

namespace TextTemplate.Command

/-- The options that have been read so far. -/
structure Draft where
  template : Option String
  context : Option String
  output : Option String
  assignments : List String
  key : Option String
  maxDepth : Option Nat
  verbose : Bool

/-- A switch that waits for its value, or a value that has not taken effect. -/
inductive Pending where
  | nothing
  | awaiting (switch : Switch)
  | value (switch : Switch) (written : Text)

/-- The state of reading. -/
structure Reader where
  draft : Draft
  pending : Pending
  plainOnly : Bool

namespace Draft

/-- Nothing has been read. -/
def empty : Draft :=
  ⟨none, none, none, [], none, none, false⟩

/-- A value for a switch that takes one at most. -/
def only {α : Type} (switch : Switch) (earlier : Option α) (value : Except Fault α) :
    Except Fault (Option α) :=
  if earlier.isSome then .error (.repeated switch) else value.map some

/-- The path of a file, which is not empty. -/
def path (switch : Switch) (written : Text) : Except Fault String :=
  if written = [] then .error (.missingValue switch) else .ok (String.ofList written)

/-- A count of 64 bits. -/
def count (written : Text) : Except Fault Nat :=
  match Digits.size? written with
  | some n => .ok n
  | none => .error (.notACount (String.ofList written))

/-- Gives a switch its value. -/
def put (draft : Draft) (switch : Switch) (written : Text) : Except Fault Draft :=
  match switch with
  | .context => do
    let context ← only switch draft.context (path switch written)
    .ok { draft with context }
  | .output => do
    let output ← only switch draft.output (path switch written)
    .ok { draft with output }
  | .key => do
    let key ← only switch draft.key (.ok (String.ofList written))
    .ok { draft with key }
  | .maxDepth => do
    let maxDepth ← only switch draft.maxDepth (count written)
    .ok { draft with maxDepth }
  | .set => .ok { draft with assignments := draft.assignments ++ [String.ofList written] }
  | _ => .error (.surplusValue switch)

/-- The options, if the template is given. -/
def finish (draft : Draft) : Except Fault Options :=
  match draft.template with
  | none => .error .missingTemplate
  | some template =>
    .ok ⟨template, draft.context, draft.output, draft.assignments, draft.key,
      draft.maxDepth.getD (Renderer.standard (σ := Empty)).maxDepth, draft.verbose⟩

end Draft

namespace Reader

/-- Reading goes on, or the request is clear. -/
abbrev Step (α : Type) : Type :=
  Except Request α

/-- A fault ends the reading. -/
def check {α : Type} (result : Except Fault α) : Step α :=
  result.mapError .refused

/-- Lets a value take effect; a switch must not wait for one any longer. -/
def settle (reader : Reader) : Step Draft :=
  match reader.pending with
  | .nothing => .ok reader.draft
  | .awaiting switch => .error (.refused (.missingValue switch))
  | .value switch written => check (reader.draft.put switch written)

/-- Takes a switch with the value attached to it. -/
def takeValue (reader : Reader) (switch : Switch) (written : Text) : Step Reader := do
  let draft ← reader.settle
  let draft ← check (draft.put switch written)
  .ok { reader with draft, pending := .nothing }

/-- Takes a switch whose value is the next argument. -/
def awaitValue (reader : Reader) (switch : Switch) : Step Reader := do
  let draft ← reader.settle
  .ok { reader with draft, pending := .awaiting switch }

/-- Takes a switch that has no value. -/
def takeFlag (reader : Reader) (switch : Switch) : Step Reader := do
  let draft ← reader.settle
  match switch with
  | .help => .error .help
  | .version => .error .version
  | _ =>
    if draft.verbose then .error (.refused (.repeated switch))
    else .ok { reader with draft := { draft with verbose := true }, pending := .nothing }

/-- Takes an argument that begins with two dashes, which are left out here. -/
def takeLong (reader : Reader) (body : Text) : Step Reader :=
  let (name, attached) := match Text.cutAt? '=' body with
    | some (name, value) => (name, some value)
    | none => (body, none)
  match Switch.ofLongName? name with
  | none => .error (.refused (.unknown ("--" ++ String.ofList name)))
  | some switch =>
    match switch.takesValue, attached with
    | true, some value => reader.takeValue switch value
    | true, none => reader.awaitValue switch
    | false, some _ => .error (.refused (.surplusValue switch))
    | false, none => reader.takeFlag switch

/-- The value attached to a letter, an equals sign being allowed between them. -/
def attached? : Text → Option Text
  | [] => none
  | '=' :: value => some value
  | value => some value

/-- Takes an argument that begins with a single dash, which is left out here. -/
def takeShort (reader : Reader) : Text → Step Reader
  | [] => .ok reader
  | letter :: rest =>
    match Switch.ofLetter? letter with
    | none => .error (.refused (.unknown (String.ofList ['-', letter])))
    | some switch =>
      if switch.takesValue then
        match attached? rest with
        | some value => reader.takeValue switch value
        | none => reader.awaitValue switch
      else do
        let reader ← reader.takeFlag switch
        takeShort reader rest

/-- Takes the template. -/
def takeTemplate (reader : Reader) (argument : String) : Step Reader :=
  if reader.draft.template.isSome then .error (.refused (.unknown argument))
  else do
    let draft ← reader.settle
    .ok { reader with draft := { draft with template := some argument }, pending := .nothing }

/-- Takes an argument without a dash before it. -/
def takePlain (reader : Reader) (argument : String) : Step Reader :=
  match reader.pending with
  | .awaiting switch => .ok { reader with pending := .value switch argument.toList }
  | _ => reader.takeTemplate argument

/-- Takes an argument. -/
def take (reader : Reader) (argument : String) : Step Reader :=
  if reader.plainOnly then reader.takeTemplate argument
  else
    match argument.toList with
    | ['-', '-'] => .ok { reader with plainOnly := true }
    | '-' :: '-' :: body => reader.takeLong body
    | '-' :: letter :: rest => reader.takeShort (letter :: rest)
    | _ => reader.takePlain argument

/-- Takes all arguments. -/
def takeAll (reader : Reader) : List String → Step Options
  | [] => do
    let draft ← reader.settle
    check draft.finish
  | argument :: others => do
    let reader ← reader.take argument
    takeAll reader others

end Reader

/-- What a command line asks for, the name of the command being left out. -/
def Request.ofArguments (arguments : List String) : Request :=
  match Reader.takeAll ⟨.empty, .nothing, false⟩ arguments with
  | .ok options => .run options
  | .error request => request

end TextTemplate.Command
