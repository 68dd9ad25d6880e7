import TextTemplate.Json.Reading

/-!
# Trees of JSON documents

The tokens of a JSON document are those of a tree in which the members of an object stand as they
are written, one behind the other and also if a key is repeated. The reader accepts the tokens of
trees that are not too deep and no others, and what it reads is the value of the tree, where a
repeated key has its first place and its last value (`Json.run_eq_some`).

Both directions follow a single value: behind its tokens the reader goes on as if the value had been
handed to the innermost open array or object (`Json.runAfter`).
-/

namespace TextTemplate.Json

/-- A document as it is written. -/
inductive Tree where
  | scalar (value : Json)
  | string (s : String)
  | array (items : List Tree)
  | object (members : List (String × Tree))

namespace Tree

mutual

/-- The document that a tree stands for. -/
def value : Tree → Json
  | scalar value => value
  | string s => .string s
  | array items => .array (values items)
  | object members => .object (Entries.ofSequence (memberValues members))

/-- The documents of the items of an array. -/
def values : List Tree → List Json
  | [] => []
  | item :: others => item.value :: values others

/-- The members of an object with their documents, repeated keys included. -/
def memberValues : List (String × Tree) → List (String × Json)
  | [] => []
  | (key, member) :: others => (key, member.value) :: memberValues others

end

mutual

/-- How many arrays and objects are open at once when the tree is read. -/
def height : Tree → Nat
  | scalar _ => 0
  | string _ => 0
  | array items => heights items + 1
  | object members => memberHeights members + 1

/-- The greatest height of an item of an array. -/
def heights : List Tree → Nat
  | [] => 0
  | item :: others => max item.height (heights others)

/-- The greatest height of a member of an object. -/
def memberHeights : List (String × Tree) → Nat
  | [] => 0
  | (_, member) :: others => max member.height (memberHeights others)

end

mutual

/-- The tokens of a tree. -/
def tokens : Tree → List Token
  | scalar value => [.scalar value]
  | string s => [.string s]
  | array [] => [.openArray, .closeArray]
  | array (item :: others) => .openArray :: (item.tokens ++ tokensBehindItem others)
  | object [] => [.openObject, .closeObject]
  | object ((key, member) :: others) =>
    .openObject :: .string key :: .colon :: (member.tokens ++ tokensBehindMember others)

/-- The tokens of the items behind another one, with the end of the array. -/
def tokensBehindItem : List Tree → List Token
  | [] => [.closeArray]
  | item :: others => .comma :: (item.tokens ++ tokensBehindItem others)

/-- The tokens of the members behind another one, with the end of the object. -/
def tokensBehindMember : List (String × Tree) → List Token
  | [] => [.closeObject]
  | (key, member) :: others =>
    .comma :: .string key :: .colon :: (member.tokens ++ tokensBehindMember others)

end

end Tree

/-- Reads on behind a value that is complete. -/
def runAfter (value : Json) (frames : List Frame) (tokens : List Token) : Option Json :=
  run (attach value frames).1 (attach value frames).2 tokens

/-! ## Reading the tokens of a tree -/

theorem run_openArray {frames : List Frame} (room : frames.length < maxOpen) (tokens : List Token) :
    run .value frames (.openArray :: tokens) = run .itemOrEnd (.array [] :: frames) tokens := by
  simp [run, step, beginValue, openFrame, room]

theorem run_openObject {frames : List Frame} (room : frames.length < maxOpen)
    (tokens : List Token) :
    run .value frames (.openObject :: tokens) =
      run .keyOrEnd (.object [] "" :: frames) tokens := by
  simp [run, step, beginValue, openFrame, room]

/-- An array that has just been opened takes a value as any other place does. -/
theorem run_itemOrEnd (tree : Tree) (frames : List Frame) (rest : List Token) :
    run .itemOrEnd frames (tree.tokens ++ rest) = run .value frames (tree.tokens ++ rest) := by
  cases tree with
  | scalar value => rfl
  | string s => rfl
  | array items => cases items <;> rfl
  | object members => cases members <;> rfl

mutual

theorem run_tree (tree : Tree) (frames : List Frame)
    (room : frames.length + tree.height ≤ maxOpen) (rest : List Token) :
    run .value frames (tree.tokens ++ rest) = runAfter tree.value frames rest := by
  cases tree with
  | scalar value => rfl
  | string s => rfl
  | array items =>
      simp only [Tree.height] at room
      have opened : frames.length < maxOpen := by omega
      cases items with
      | nil =>
          rw [Tree.tokens, List.cons_append, run_openArray opened]
          rfl
      | cons item others =>
          simp only [Tree.heights] at room
          rw [Tree.tokens, List.cons_append, List.append_assoc, run_openArray opened, run_itemOrEnd,
            run_tree item _ (by simp only [List.length_cons]; omega), runAfter, attach,
            run_tokensBehindItem others _ _ (by omega)]
          rfl
  | object members =>
      simp only [Tree.height] at room
      have opened : frames.length < maxOpen := by omega
      cases members with
      | nil =>
          rw [Tree.tokens, List.cons_append, run_openObject opened]
          rfl
      | cons first others =>
          rcases first with ⟨key, member⟩
          simp only [Tree.memberHeights] at room
          have entered (tokens : List Token) :
              run .keyOrEnd (.object [] "" :: frames) (.string key :: .colon :: tokens) =
                run .value (.object [] key :: frames) tokens := rfl
          rw [Tree.tokens, List.cons_append, List.cons_append, List.cons_append, List.append_assoc,
            run_openObject opened, entered,
            run_tree member _ (by simp only [List.length_cons]; omega), runAfter, attach,
            run_tokensBehindMember others _ _ _ (by omega)]
          rfl

/-- The items behind the first ones of an array join these. -/
theorem run_tokensBehindItem (items : List Tree) (done : List Json) (frames : List Frame)
    (room : frames.length + (Tree.heights items + 1) ≤ maxOpen) (rest : List Token) :
    run .afterItem (.array done :: frames) (Tree.tokensBehindItem items ++ rest) =
      runAfter (.array (done.reverse ++ Tree.values items)) frames rest := by
  cases items with
  | nil =>
      rw [Tree.values, List.append_nil]
      rfl
  | cons item others =>
      simp only [Tree.heights] at room
      have separated (tokens : List Token) :
          run .afterItem (.array done :: frames) (.comma :: tokens) =
            run .value (.array done :: frames) tokens := rfl
      rw [Tree.tokensBehindItem, List.cons_append, List.append_assoc, separated,
        run_tree item _ (by simp only [List.length_cons]; omega), runAfter, attach,
        run_tokensBehindItem others _ _ (by omega), Tree.values, List.reverse_cons,
        List.append_assoc, List.singleton_append]

/-- The members behind the first ones of an object are put among their entries. -/
theorem run_tokensBehindMember (members : List (String × Tree)) (entries : List (String × Json))
    (key : String) (frames : List Frame)
    (room : frames.length + (Tree.memberHeights members + 1) ≤ maxOpen) (rest : List Token) :
    run .afterItem (.object entries key :: frames) (Tree.tokensBehindMember members ++ rest) =
      runAfter (.object ((Tree.memberValues members).foldl
        (fun entries entry => Entries.put entry.1 entry.2 entries) entries)) frames rest := by
  cases members with
  | nil => rfl
  | cons first others =>
      rcases first with ⟨next, member⟩
      simp only [Tree.memberHeights] at room
      have separated (tokens : List Token) :
          run .afterItem (.object entries key :: frames)
              (.comma :: .string next :: .colon :: tokens) =
            run .value (.object entries next :: frames) tokens := rfl
      rw [Tree.tokensBehindMember, List.cons_append, List.cons_append, List.cons_append,
        List.append_assoc, separated, run_tree member _ (by simp only [List.length_cons]; omega),
        runAfter, attach, run_tokensBehindMember others _ _ _ (by omega), Tree.memberValues,
        List.foldl_cons]

end

/-! ## Trees behind the tokens that are read -/

theorem run_cons {stage : Stage} {frames : List Frame} {token : Token} {rest : List Token}
    {document : Json} (accepted : run stage frames (token :: rest) = some document) :
    ∃ next, step stage frames token = some next ∧ run next.1 next.2 rest = some document :=
  Option.bind_eq_some_iff.mp accepted

/-- Where a key is due, nothing else is taken, and a colon and a value have to follow. -/
theorem run_key {frames : List Frame} {entries : List (String × Json)} {earlier : String}
    {tokens : List Token} {document : Json}
    (accepted : run .key (.object entries earlier :: frames) tokens = some document) :
    ∃ key rest, tokens = .string key :: .colon :: rest ∧
      run .value (.object entries key :: frames) rest = some document := by
  cases tokens with
  | nil => contradiction
  | cons token tokens =>
      rcases run_cons accepted with ⟨next, taken, accepted⟩
      cases token with
      | string key =>
          simp only [step, takeKey, Option.some.injEq] at taken
          subst taken
          cases tokens with
          | nil => contradiction
          | cons token rest =>
              rcases run_cons accepted with ⟨next, taken, accepted⟩
              cases token with
              | colon =>
                  simp only [step, Option.some.injEq] at taken
                  subst taken
                  exact ⟨key, rest, rfl, accepted⟩
              | _ => contradiction
      | _ => contradiction

theorem run_firstItem {frames : List Frame} {tokens : List Token} {document : Json}
    (accepted : run .itemOrEnd (.array [] :: frames) tokens = some document) :
    (∃ rest, tokens = .closeArray :: rest ∧ runAfter (.array []) frames rest = some document) ∨
      run .value (.array [] :: frames) tokens = some document := by
  cases tokens with
  | nil => contradiction
  | cons token rest =>
      cases token with
      | closeArray => exact .inl ⟨rest, rfl, accepted⟩
      | _ => exact .inr accepted

theorem run_firstKey {frames : List Frame} {tokens : List Token} {document : Json}
    (accepted : run .keyOrEnd (.object [] "" :: frames) tokens = some document) :
    (∃ rest, tokens = .closeObject :: rest ∧ runAfter (.object []) frames rest = some document) ∨
      run .key (.object [] "" :: frames) tokens = some document := by
  cases tokens with
  | nil => contradiction
  | cons token rest =>
      cases token with
      | closeObject => exact .inl ⟨rest, rfl, accepted⟩
      | _ => exact .inr accepted

-- The reader takes one token at a time, and a value takes one at least: the trees are found by
-- induction on the number of tokens that are left.
mutual

theorem tree_of_run {frames : List Frame} {tokens : List Token} {document : Json}
    (accepted : run .value frames tokens = some document) (room : frames.length ≤ maxOpen) :
    ∃ (tree : Tree) (rest : List Token), tokens = tree.tokens ++ rest ∧
      frames.length + tree.height ≤ maxOpen ∧ runAfter tree.value frames rest = some document := by
  cases tokens with
  | nil => contradiction
  | cons token tokens =>
      rcases run_cons accepted with ⟨next, taken, accepted⟩
      simp only [step] at taken
      cases token with
      | scalar value =>
          simp only [beginValue, Option.some.injEq] at taken
          subst taken
          exact ⟨.scalar value, tokens, rfl, room, accepted⟩
      | string s =>
          simp only [beginValue, Option.some.injEq] at taken
          subst taken
          exact ⟨.string s, tokens, rfl, room, accepted⟩
      | openArray =>
          simp only [beginValue, openFrame, Option.ite_none_right_eq_some,
            Option.some.injEq] at taken
          rcases taken with ⟨opened, rfl⟩
          rcases run_firstItem accepted with ⟨rest, rfl, accepted⟩ | accepted
          · exact ⟨.array [], rest, rfl, opened, accepted⟩
          · rcases tree_of_run accepted opened with ⟨item, rest, rfl, height, accepted⟩
            rcases items_of_run accepted opened with ⟨others, rest, rfl, heights, accepted⟩
            refine ⟨.array (item :: others), rest, ?_, ?_, accepted⟩
            · simp [Tree.tokens]
            · simp only [List.length_cons] at height
              simp only [Tree.height, Tree.heights]
              omega
      | openObject =>
          simp only [beginValue, openFrame, Option.ite_none_right_eq_some,
            Option.some.injEq] at taken
          rcases taken with ⟨opened, rfl⟩
          rcases run_firstKey accepted with ⟨rest, rfl, accepted⟩ | accepted
          · exact ⟨.object [], rest, rfl, opened, accepted⟩
          · rcases run_key accepted with ⟨key, tokens, rfl, accepted⟩
            rcases tree_of_run accepted opened with ⟨member, rest, rfl, height, accepted⟩
            rcases members_of_run accepted opened with ⟨others, rest, rfl, heights, accepted⟩
            refine ⟨.object ((key, member) :: others), rest, ?_, ?_, accepted⟩
            · simp [Tree.tokens]
            · simp only [List.length_cons] at height
              simp only [Tree.height, Tree.memberHeights]
              omega
      | _ => contradiction
termination_by tokens.length

theorem items_of_run {done : List Json} {frames : List Frame} {tokens : List Token}
    {document : Json} (accepted : run .afterItem (.array done :: frames) tokens = some document)
    (room : frames.length < maxOpen) :
    ∃ (items : List Tree) (rest : List Token), tokens = Tree.tokensBehindItem items ++ rest ∧
      frames.length + (Tree.heights items + 1) ≤ maxOpen ∧
      runAfter (.array (done.reverse ++ Tree.values items)) frames rest = some document := by
  cases tokens with
  | nil => contradiction
  | cons token tokens =>
      rcases run_cons accepted with ⟨next, taken, accepted⟩
      simp only [step] at taken
      cases token with
      | closeArray =>
          simp only [continueFrame, Option.some.injEq] at taken
          subst taken
          refine ⟨[], tokens, rfl, room, ?_⟩
          rw [Tree.values, List.append_nil]
          exact accepted
      | comma =>
          simp only [continueFrame, Option.some.injEq] at taken
          subst taken
          rcases tree_of_run accepted room with ⟨item, rest, rfl, height, accepted⟩
          rcases items_of_run accepted room with ⟨others, rest, rfl, heights, accepted⟩
          refine ⟨item :: others, rest, ?_, ?_, ?_⟩
          · simp [Tree.tokensBehindItem]
          · simp only [List.length_cons] at height
            simp only [Tree.heights]
            omega
          · simpa [Tree.values] using accepted
      | _ => contradiction
termination_by tokens.length

theorem members_of_run {entries : List (String × Json)} {key : String} {frames : List Frame}
    {tokens : List Token} {document : Json}
    (accepted : run .afterItem (.object entries key :: frames) tokens = some document)
    (room : frames.length < maxOpen) :
    ∃ (members : List (String × Tree)) (rest : List Token),
      tokens = Tree.tokensBehindMember members ++ rest ∧
      frames.length + (Tree.memberHeights members + 1) ≤ maxOpen ∧
      runAfter (.object ((Tree.memberValues members).foldl
        (fun entries entry => Entries.put entry.1 entry.2 entries) entries)) frames rest =
        some document := by
  cases tokens with
  | nil => contradiction
  | cons token tokens =>
      rcases run_cons accepted with ⟨next, taken, accepted⟩
      simp only [step] at taken
      cases token with
      | closeObject =>
          simp only [continueFrame, Option.some.injEq] at taken
          subst taken
          exact ⟨[], tokens, rfl, room, accepted⟩
      | comma =>
          simp only [continueFrame, Option.some.injEq] at taken
          subst taken
          rcases run_key accepted with ⟨next, tokens, rfl, accepted⟩
          rcases tree_of_run accepted room with ⟨member, rest, rfl, height, accepted⟩
          rcases members_of_run accepted room with ⟨others, rest, rfl, heights, accepted⟩
          refine ⟨(next, member) :: others, rest, ?_, ?_, accepted⟩
          · simp [Tree.tokensBehindMember]
          · simp only [List.length_cons] at height
            simp only [Tree.memberHeights]
            omega
      | _ => contradiction
termination_by tokens.length

end

/-- The reader accepts the tokens of the trees that are not too deep, and reads their values. -/
theorem run_eq_some {tokens : List Token} {document : Json} :
    run .value [] tokens = some document ↔
      ∃ tree : Tree, tokens = tree.tokens ∧ tree.height ≤ maxOpen ∧ document = tree.value := by
  constructor
  · intro accepted
    rcases tree_of_run accepted (Nat.zero_le maxOpen) with ⟨tree, rest, rfl, height, accepted⟩
    rw [List.length_nil, Nat.zero_add] at height
    cases rest with
    | nil => exact ⟨tree, List.append_nil _, height, (Option.some.inj accepted).symm⟩
    | cons token rest => contradiction
  · rintro ⟨tree, rfl, height, rfl⟩
    have read := run_tree tree [] (by simpa using height) []
    rwa [List.append_nil] at read

end TextTemplate.Json
