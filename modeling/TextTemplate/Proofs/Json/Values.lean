import TextTemplate.Helper.Registry
import TextTemplate.Proofs.Entries
import TextTemplate.Proofs.Json.Tokens
import TextTemplate.Proofs.Json.Tree
import TextTemplate.Proofs.Variables.Assignments

/-!
# Values in JSON

The JSON text of a value is a tree of tokens, and what is read from it is the value again: strings
and numbers come back as they were written, and the keys of a map are distinct, so that each entry
of the object that is read stands where it stood in the map.
-/

namespace TextTemplate

open Json (Token Tree Lexes EndsNumber)

namespace Value

variable {σ : Type}

/-! ## Values that JSON can express -/

mutual

/-- The value consists of null, booleans, integers, strings, lists and maps with distinct keys. -/
def IsData : Value σ → Prop
  | null => True
  | bool _ => True
  | int _ => True
  | string _ => True
  | list items => ItemsAreData items
  | map entries => (entries.map Prod.fst).Nodup ∧ EntriesAreData entries
  | _ => False

/-- Each item of a list is data. -/
def ItemsAreData : List (Value σ) → Prop
  | [] => True
  | item :: others => item.IsData ∧ ItemsAreData others

/-- Each value of a map is data. -/
def EntriesAreData : List (String × Value σ) → Prop
  | [] => True
  | (_, value) :: others => value.IsData ∧ EntriesAreData others

end

mutual

/-- How many lists and maps lie within each other. -/
def depth : Value σ → Nat
  | list items => itemsDepth items + 1
  | map entries => entriesDepth entries + 1
  | _ => 0

/-- The greatest depth of an item of a list. -/
def itemsDepth : List (Value σ) → Nat
  | [] => 0
  | item :: others => max item.depth (itemsDepth others)

/-- The greatest depth of a value of a map. -/
def entriesDepth : List (String × Value σ) → Nat
  | [] => 0
  | (_, value) :: others => max value.depth (entriesDepth others)

end

mutual

/-- The document that the JSON text of a value shows. The kinds that JSON lacks are strings. -/
def tree : Value σ → Tree
  | null => .scalar .null
  | bool b => .scalar (.bool b)
  | int n => .scalar (.whole n.toInt)
  | float x => .scalar (.float x)
  | list items => .array (trees items)
  | map entries => .object (memberTrees entries)
  | string s => .string s
  | value => .string value.toString

/-- The trees of the items of a list. -/
def trees : List (Value σ) → List Tree
  | [] => []
  | item :: others => item.tree :: trees others

/-- The trees of the values of a map under their keys. -/
def memberTrees : List (String × Value σ) → List (String × Tree)
  | [] => []
  | (key, value) :: others => (key, value.tree) :: memberTrees others

end

/-! ## The tokens of a JSON text -/

theorem jsonItems_cons (item : Value σ) (others : List (Value σ)) :
    jsonItems (item :: others) =
      item.jsonText ++ others.flatMap fun other => ',' :: other.jsonText := by
  induction others generalizing item with
  | nil => simp [jsonItems]
  | cons next others ih => simp [jsonItems, ih]

theorem jsonEntries_cons (key : String) (value : Value σ) (others : List (String × Value σ)) :
    jsonEntries ((key, value) :: others) =
      quoteText key.toList ++ ':' :: value.jsonText ++
        others.flatMap fun other => ',' :: quoteText other.1.toList ++ ':' :: other.2.jsonText := by
  induction others generalizing key value with
  | nil => simp [jsonEntries]
  | cons next others ih => simp [jsonEntries, ih]

/-- Behind the first of several parts that have commas in front, a number ends. -/
theorem endsNumber_flatMap {α : Type} (parts : List α) (part : α → Text) {last : Char}
    (mark : last ∈ [',', ']', '}']) (rest : Text) :
    EndsNumber (parts.flatMap (fun one => ',' :: part one) ++ last :: rest) := by
  cases parts with
  | nil => exact Json.endsNumber_cons mark rest
  | cons one others => exact Json.endsNumber_cons (by simp) _

mutual

theorem lexes_jsonText (value : Value σ) (data : value.IsData) {rest : Text} {tokens : List Token}
    (behind : Lexes rest tokens) (ends : EndsNumber rest) :
    Lexes (value.jsonText ++ rest) (value.tree.tokens ++ tokens) := by
  cases value with
  | null => exact behind.cons (c := 'n') rfl rfl (by simp; omega)
  | bool b =>
      cases b
      · exact behind.cons (c := 'f') rfl rfl (by simp; omega)
      · exact behind.cons (c := 't') rfl rfl (by simp; omega)
  | int n => exact behind.ofInt ends n
  | string s =>
      have quoted := behind.quoteText s.toList
      rwa [String.ofList_toList] at quoted
  | list items =>
      have closed : Lexes (']' :: rest) (.closeArray :: tokens) := behind.mark rfl rfl
      cases items with
      | nil => exact closed.mark rfl rfl
      | cons item others =>
          rw [IsData, ItemsAreData] at data
          -- The text is put together from its end, so that every number has its end behind it.
          have first := lexes_jsonText item data.1 (lexes_otherItems others data.2 behind)
            (endsNumber_flatMap others _ (by simp) rest)
          have opened := first.mark (c := '[') rfl rfl
          simpa [jsonText, jsonItems_cons, tree, trees, Tree.tokens] using opened
  | map entries =>
      have closed : Lexes ('}' :: rest) (.closeObject :: tokens) := behind.mark rfl rfl
      cases entries with
      | nil => exact closed.mark rfl rfl
      | cons entry others =>
          rcases entry with ⟨key, value⟩
          rw [IsData, EntriesAreData] at data
          have first := lexes_jsonText value data.2.1 (lexes_otherEntries others data.2.2 behind)
            (endsNumber_flatMap others _ (by simp) rest)
          have keyed := (first.mark (c := ':') rfl rfl).quoteText key.toList
          have opened := keyed.mark (c := '{') rfl rfl
          simpa [jsonText, jsonEntries_cons, tree, memberTrees, Tree.tokens] using opened
  | _ => exact data.elim

theorem lexes_otherItems (items : List (Value σ)) (data : ItemsAreData items) {rest : Text}
    {tokens : List Token} (behind : Lexes rest tokens) :
    Lexes (items.flatMap (fun item => ',' :: item.jsonText) ++ ']' :: rest)
      (Tree.tokensBehindItem (trees items) ++ tokens) := by
  cases items with
  | nil => exact behind.mark rfl rfl
  | cons item others =>
      rw [ItemsAreData] at data
      have first := lexes_jsonText item data.1 (lexes_otherItems others data.2 behind)
        (endsNumber_flatMap others _ (by simp) rest)
      have separated := first.mark (c := ',') rfl rfl
      simpa [trees, Tree.tokensBehindItem] using separated

theorem lexes_otherEntries (entries : List (String × Value σ)) (data : EntriesAreData entries)
    {rest : Text} {tokens : List Token} (behind : Lexes rest tokens) :
    Lexes (entries.flatMap (fun entry =>
        ',' :: quoteText entry.1.toList ++ ':' :: entry.2.jsonText) ++ '}' :: rest)
      (Tree.tokensBehindMember (memberTrees entries) ++ tokens) := by
  cases entries with
  | nil => exact behind.mark rfl rfl
  | cons entry others =>
      rcases entry with ⟨key, value⟩
      rw [EntriesAreData] at data
      have first := lexes_jsonText value data.1 (lexes_otherEntries others data.2 behind)
        (endsNumber_flatMap others _ (by simp) rest)
      have keyed := (first.mark (c := ':') rfl rfl).quoteText key.toList
      have separated := keyed.mark (c := ',') rfl rfl
      simpa [memberTrees, Tree.tokensBehindMember] using separated

end

/-! ## Reading the text of a value back -/

mutual

theorem height_tree (value : Value σ) : value.tree.height = value.depth := by
  cases value with
  | list items => rw [tree, Json.Tree.height, depth, heights_trees]
  | map entries => rw [tree, Json.Tree.height, depth, memberHeights_memberTrees]
  | _ => rfl

theorem heights_trees (items : List (Value σ)) : Tree.heights (trees items) = itemsDepth items := by
  cases items with
  | nil => rfl
  | cons item others => rw [trees, Tree.heights, itemsDepth, height_tree, heights_trees]

theorem memberHeights_memberTrees (entries : List (String × Value σ)) :
    Tree.memberHeights (memberTrees entries) = entriesDepth entries := by
  cases entries with
  | nil => rfl
  | cons entry others =>
      rw [memberTrees, Tree.memberHeights, entriesDepth, height_tree, memberHeights_memberTrees]

end

theorem keys_memberTrees (entries : List (String × Value σ)) :
    (Tree.memberValues (memberTrees entries)).map Prod.fst = entries.map Prod.fst := by
  induction entries with
  | nil => rfl
  | cons entry others ih => simp [memberTrees, Tree.memberValues, ih]

theorem ofWhole_toInt (n : Int64) : ofWhole n.toInt = (int n : Value σ) := by
  have below : n.toInt < Nat.pow 2 63 := n.toInt_lt
  rw [ofWhole, if_pos below, Int64.ofInt_toInt]

mutual

theorem ofJson_tree (value : Value σ) (data : value.IsData) : ofJson value.tree.value = value := by
  cases value with
  | null => rfl
  | bool b => rfl
  | string s => rfl
  | int n => exact ofWhole_toInt n
  | list items =>
      rw [IsData] at data
      rw [tree, Tree.value, ofJson, ofJsonItems_trees items data]
  | map entries =>
      rw [IsData] at data
      have distinct : ((Tree.memberValues (memberTrees entries)).map Prod.fst).Nodup := by
        rw [keys_memberTrees]
        exact data.1
      rw [tree, Tree.value, Entries.ofSequence_of_nodup distinct, ofJson,
        ofJsonEntries_memberTrees entries data.2]
  | _ => exact data.elim

theorem ofJsonItems_trees (items : List (Value σ)) (data : ItemsAreData items) :
    ofJsonItems (Tree.values (trees items)) = items := by
  cases items with
  | nil => rfl
  | cons item others =>
      rw [ItemsAreData] at data
      rw [trees, Tree.values, ofJsonItems, ofJson_tree item data.1,
        ofJsonItems_trees others data.2]

theorem ofJsonEntries_memberTrees (entries : List (String × Value σ))
    (data : EntriesAreData entries) :
    ofJsonEntries (Tree.memberValues (memberTrees entries)) = entries := by
  cases entries with
  | nil => rfl
  | cons entry others =>
      rw [EntriesAreData] at data
      rw [memberTrees, Tree.memberValues, ofJsonEntries, ofJson_tree entry.2 data.1,
        ofJsonEntries_memberTrees others data.2]

end

theorem read?_jsonText {value : Value σ} (data : value.IsData)
    (shallow : value.depth ≤ Json.maxOpen) :
    Json.read? value.jsonText = some value.tree.value := by
  have ends : EndsNumber [] := by simp [EndsNumber]
  have lexed := lexes_jsonText value data Json.lexes_nil ends
  simp only [List.append_nil] at lexed
  have tokens : Json.tokens? value.jsonText = some value.tree.tokens := lexed _ (Nat.le_refl _)
  rw [Json.read?, tokens, Option.bind_some, Json.run_eq_some]
  exact ⟨value.tree, rfl, by rwa [height_tree], rfl⟩

/-- The text that the helper `json` writes for a value is read back as the same value, and an
assignment of the text assigns it. -/
theorem json_reads_back (value : Value σ) (data : value.IsData) (shallow : value.depth ≤ 127) :
    (∀ argument, Registry.builtin.apply value "json" argument = pure (.ofText value.jsonText)) ∧
      (Json.read? value.jsonText).map ofJson = some value ∧
      ∀ key : String, key.toList ≠ [] → Text.trim key.toList = key.toList → '=' ∉ key.toList →
        Assignment.ofString (key ++ "=" ++ String.ofList value.jsonText) = .ok ⟨key, value⟩ := by
  have read : (Json.read? value.jsonText).map ofJson = some value := by
    rw [read?_jsonText data shallow, Option.map_some, ofJson_tree value data]
  refine ⟨fun argument => rfl, read, ?_⟩
  intro key named trimmed free
  have written : (key ++ "=" ++ String.ofList value.jsonText).toList =
      key.toList ++ '=' :: value.jsonText := by simp
  rw [Assignment.ofString_eq_ok]
  refine ⟨key.toList, value.jsonText, written, free, by rwa [trimmed], ?_⟩
  rw [trimmed, String.ofList_toList, Assignment.valueOf, read, Option.getD_some]

/-- A map with characters that are escaped, an empty key and the least integer. -/
def awkward : Value Empty :=
  .map [("a\"\\\n", .list [.int Int64.minValue, .null, .list [], .bool false]),
    ("", .map [("\x01", .string "\t/\x7fé"), ("A", .map []), ("a", .string "null")])]

theorem json_reads_back_awkward :
    awkward.IsData ∧ awkward.depth ≤ 127 ∧
      (Json.read? awkward.jsonText).map ofJson = some awkward ∧
      Assignment.ofString ("k v" ++ "=" ++ String.ofList awkward.jsonText) =
        .ok ⟨"k v", awkward⟩ := by
  have data : awkward.IsData := by
    simp [awkward, IsData, ItemsAreData, EntriesAreData]
  have law := json_reads_back awkward data (by decide)
  exact ⟨data, by decide, law.2.1, law.2.2 "k v" (by decide) (by decide) (by decide)⟩

end Value

end TextTemplate
