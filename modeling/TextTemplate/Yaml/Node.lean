import TextTemplate.Yaml.Token

/-!
# YAML nodes

The tokens of a document form a tree of scalars, sequences and mappings. An anchor gives its node a
number, and an alias refers to that number. The number of an anchor is the count of the names that
had been anchored before, so a name that is anchored again shares its new number with the next new
name, and the later node has it.
-/

namespace TextTemplate.Yaml

/-- A node of a document. -/
inductive Node where
  | scalar (tag : Option Tag) (plain : Bool) (text : Text)
  | sequence (tag : Option Tag) (items : List Node)
  | mapping (tag : Option Tag) (entries : List (Node × Node))
  | alias (number : Nat)

/-- What stands where a node is missing. -/
def Node.missing : Node :=
  .scalar none true []

/-- The state of reading nodes: the tokens left, the tag handles, the numbers of the anchored
names, the place of the latest node of every number, and the anchored nodes by their places. -/
structure Composing where
  tokens : List Token
  handles : List (Text × Tag)
  numbers : List (Text × Nat)
  latest : List (Nat × Nat)
  anchored : List (Nat × Node)

/-- Reading takes tokens and may fail. -/
abbrev Compose (α : Type) : Type :=
  StateT Composing Option α

namespace Compose

/-- The next token. -/
def peek : Compose Token := do
  pure ((← get).tokens.headD .streamEnd)

/-- Takes the next token. -/
def skip : Compose Unit :=
  modify fun state => { state with tokens := state.tokens.drop 1 }

/-- The tokens that can follow where a node is missing in a block mapping. -/
def endsBlockPart : Token → Bool
  | .key => true
  | .value => true
  | .blockEnd => true
  | _ => false

/-- The tokens that can follow where a node is missing in a flow collection. -/
def endsFlowPart : Token → Bool
  | .flowEntry => true
  | .flowSequenceEnd => true
  | .flowMappingEnd => true
  | _ => false

/-- Gives a name its number and its node a place. -/
def anchor (name : Text) : Compose Nat := do
  let state ← get
  let number := state.numbers.length
  let place := state.latest.length
  set { state with
    numbers := (name, number) :: state.numbers.filter fun pair => pair.1 != name
    latest := (number, place) :: state.latest }
  pure place

/-- The anchor and the tag before a node, in either order. -/
def properties : Compose (Option Text × Option (Text × Tag)) := do
  match ← peek with
  | .anchor name => do
    skip
    match ← peek with
    | .tag handle suffix => do
      skip
      pure (some name, some (handle, suffix))
    | _ => pure (some name, none)
  | .tag handle suffix => do
    skip
    match ← peek with
    | .anchor name => do
      skip
      pure (some name, some (handle, suffix))
    | _ => pure (none, some (handle, suffix))
  | _ => pure (none, none)

/-- The tag that a handle and a suffix denote. -/
def fullTag (parts : Text × Tag) : Compose Tag := do
  if parts.1 = [] then pure parts.2
  else
    match (← get).handles.find? fun handle => handle.1 == parts.1 with
    | some handle => pure (handle.2 ++ parts.2)
    | none => failure

mutual

/-- The node at the front. Block collections are read in a block only, and a sequence that is not
indented only as a part of a block mapping. The first number bounds the steps. -/
def node (steps : Nat) (inBlock unindented : Bool) : Compose Node :=
  match steps with
  | 0 => failure
  | steps + 1 => do
    match ← peek with
    | .alias name => do
      skip
      match (← get).numbers.find? fun pair => pair.1 == name with
      | some pair => pure (.alias pair.2)
      | none => failure
    | _ => do
      let (name, parts) ← properties
      let tag ← match parts with
        | some parts => some <$> fullTag parts
        | none => pure none
      let token ← peek
      let hasContent := match token with
        | .scalar _ _ => true
        | .flowSequenceStart => true
        | .flowMappingStart => true
        | .blockSequenceStart => inBlock
        | .blockMappingStart => inBlock
        | .blockEntry => unindented
        | _ => false
      if !hasContent && name.isNone && tag.isNone then failure
      else
        match name with
        | none => content steps tag inBlock unindented
        | some name => do
          let place ← anchor name
          let content ← content steps tag inBlock unindented
          modify fun state => { state with anchored := (place, content) :: state.anchored }
          pure content

/-- The content of a node behind its anchor and tag. -/
def content (steps : Nat) (tag : Option Tag) (inBlock unindented : Bool) : Compose Node :=
  match steps with
  | 0 => failure
  | steps + 1 => do
    match ← peek with
    | .scalar plain text => do
      skip
      pure (.scalar tag plain text)
    | .flowSequenceStart => do
      skip
      .sequence tag <$> flowItems steps true
    | .flowMappingStart => do
      skip
      .mapping tag <$> flowEntries steps true
    | .blockSequenceStart =>
      if inBlock then do
        skip
        .sequence tag <$> blockItems steps
      else pure (.scalar tag true [])
    | .blockMappingStart =>
      if inBlock then do
        skip
        .mapping tag <$> blockEntries steps
      else pure (.scalar tag true [])
    | .blockEntry =>
      if unindented then .sequence tag <$> unindentedItems steps
      else pure (.scalar tag true [])
    | _ => pure (.scalar tag true [])

/-- The items of a block sequence. -/
def blockItems (steps : Nat) : Compose (List Node) :=
  match steps with
  | 0 => failure
  | steps + 1 => do
    match ← peek with
    | .blockEntry => do
      skip
      let item ← match ← peek with
        | .blockEntry => pure .missing
        | .blockEnd => pure .missing
        | _ => node steps true false
      (item :: ·) <$> blockItems steps
    | .blockEnd => do
      skip
      pure []
    | _ => failure

/-- The items of a sequence that is indented no further than the mapping around it. -/
def unindentedItems (steps : Nat) : Compose (List Node) :=
  match steps with
  | 0 => failure
  | steps + 1 => do
    match ← peek with
    | .blockEntry => do
      skip
      let token ← peek
      let item ← match token with
        | .blockEntry => pure .missing
        | _ => if endsBlockPart token then pure .missing else node steps true false
      (item :: ·) <$> unindentedItems steps
    | _ => pure []

/-- A key or value of a block mapping, which may be missing. -/
def blockPart (steps : Nat) : Compose Node :=
  match steps with
  | 0 => failure
  | steps + 1 => do
    if endsBlockPart (← peek) then pure .missing else node steps true true

/-- The entries of a block mapping. -/
def blockEntries (steps : Nat) : Compose (List (Node × Node)) :=
  match steps with
  | 0 => failure
  | steps + 1 => do
    match ← peek with
    | .blockEnd => do
      skip
      pure []
    | .key => do
      skip
      let key ← blockPart steps
      let value ← blockValue steps
      ((key, value) :: ·) <$> blockEntries steps
    | .value => failure
    | _ => failure

/-- The value of an entry of a block mapping behind its colon, if there is one. -/
def blockValue (steps : Nat) : Compose Node :=
  match steps with
  | 0 => failure
  | steps + 1 => do
    match ← peek with
    | .value => do
      skip
      blockPart steps
    | _ => pure .missing

/-- The items of a flow sequence. An item may be a mapping of a single entry. -/
def flowItems (steps : Nat) (first : Bool) : Compose (List Node) :=
  match steps with
  | 0 => failure
  | steps + 1 => do
    match ← peek with
    | .flowSequenceEnd => do
      skip
      pure []
    | token => do
      let separated ← match token with
        | .flowEntry => if first then pure true else do
          skip
          pure true
        | _ => pure first
      if !separated then failure
      else
        match ← peek with
        | .key => do
          skip
          let key ← soleKey steps
          let value ← flowValue steps
          (.mapping none [(key, value)] :: ·) <$> flowItems steps false
        | .flowSequenceEnd => do
          skip
          pure []
        | _ => do
          let item ← node steps false false
          (item :: ·) <$> flowItems steps false

/-- The key of a mapping that is an item of a flow sequence. Where it is missing, the token in its
place is passed over. -/
def soleKey (steps : Nat) : Compose Node :=
  match steps with
  | 0 => failure
  | steps + 1 => do
    match ← peek with
    | .value => do
      skip
      pure .missing
    | .flowEntry => do
      skip
      pure .missing
    | .flowSequenceEnd => do
      skip
      pure .missing
    | _ => node steps false false

/-- The value behind a colon in a flow collection, which may be missing. -/
def flowValue (steps : Nat) : Compose Node :=
  match steps with
  | 0 => failure
  | steps + 1 => do
    match ← peek with
    | .value => do
      skip
      if endsFlowPart (← peek) then pure .missing else node steps false false
    | _ => pure .missing

/-- The entries of a flow mapping. A node without a colon is a key without a value. -/
def flowEntries (steps : Nat) (first : Bool) : Compose (List (Node × Node)) :=
  match steps with
  | 0 => failure
  | steps + 1 => do
    match ← peek with
    | .flowMappingEnd => do
      skip
      pure []
    | token => do
      let separated ← match token with
        | .flowEntry => if first then pure true else do
          skip
          pure true
        | _ => pure first
      if !separated then failure
      else
        match ← peek with
        | .key => do
          skip
          let token ← peek
          let key ← match token with
            | .value => pure .missing
            | _ => if endsFlowPart token then pure .missing else node steps false false
          let value ← flowValue steps
          ((key, value) :: ·) <$> flowEntries steps false
        | .flowMappingEnd => do
          skip
          pure []
        | _ => do
          let key ← node steps false false
          ((key, .missing) :: ·) <$> flowEntries steps false

end

/-- The tag handles that every document has. -/
def defaultHandles : List (Text × Tag) :=
  [(['!'], Tag.mark), (['!', '!'], Tag.standard "")]

/-- The directives before a document. There may be one version, which has to be known, and every
handle may be given once. The first number bounds the steps. -/
def directives : Nat → Bool → Compose Unit
  | 0, _ => failure
  | steps + 1, versioned => do
    match ← peek with
    | .versionDirective major minor => do
      let one := Nat.ofDigitChars 10 major 0 == 1
      let known := Nat.ofDigitChars 10 minor 0 == 1 || Nat.ofDigitChars 10 minor 0 == 2
      if versioned || !one || !known then failure
      else do
        skip
        directives steps true
    | .tagDirective handle stem => do
      let state ← get
      if state.handles.any fun known => known.1 == handle then failure
      else do
        set { state with handles := state.handles ++ [(handle, stem)] }
        skip
        directives steps versioned
    | _ => modify fun state => { state with handles := state.handles ++ defaultHandles }

/-- The content of a document behind its mark, which may be missing. -/
def markedContent (steps : Nat) : Compose Node := do
  match ← peek with
  | .versionDirective _ _ => pure .missing
  | .tagDirective _ _ => pure .missing
  | .documentStart => pure .missing
  | .documentEnd => pure .missing
  | .streamEnd => pure .missing
  | _ => node steps true false

/-- The document with which the tokens begin; none if there are no tokens. -/
def document (steps : Nat) : Compose (Option Node) := do
  let marked ← match ← peek with
    | .versionDirective _ _ => pure true
    | .tagDirective _ _ => pure true
    | .documentStart => pure true
    | _ => pure false
  if marked then do
    directives steps false
    match ← peek with
    | .documentStart => do
      skip
      some <$> markedContent steps
    | _ => failure
  else
    match ← peek with
    | .streamEnd => pure none
    | _ => do
      directives steps false
      some <$> node steps true false

/-- Passes over the marks behind a document, after which nothing may be left. -/
def finish : Nat → Compose Unit
  | 0 => failure
  | steps + 1 => do
    match ← peek with
    | .documentEnd => do
      skip
      finish steps
    | .streamEnd => pure ()
    | _ => failure

end Compose

/-- A document and the nodes that its aliases refer to. -/
structure Document where
  root : Option Node
  anchored : Nat → Option Node

/-- The only document of a text. -/
def document? (text : Text) : Option Document := do
  let tokens ← tokens? text
  let steps := 4 * tokens.length + 8
  let reading : Compose (Option Node) := do
    let root ← Compose.document steps
    Compose.finish steps
    pure root
  let (root, state) ← reading.run ⟨tokens, [], [], [], []⟩
  some ⟨root, fun number => do
    let pair ← state.latest.find? fun pair => pair.1 == number
    let node ← state.anchored.find? fun node => node.1 == pair.2
    some node.2⟩

end TextTemplate.Yaml
