import TextTemplate.Proofs.Entries
import TextTemplate.Proofs.Json.Tokens
import TextTemplate.Proofs.Json.Tree
import TextTemplate.Variables.Document

/-!
# Entries of documents

The keys of a document of variables are distinct, whichever notation it is written in: a key that is
repeated keeps its first place and takes its last value. The entries of a JSON object stand in the
order in which the object is written.
-/

namespace TextTemplate

/-! ## JSON objects -/

namespace Json

/-- An object is read from the tokens of its members. -/
theorem readObject?_eq_some {document : Text} {entries : List (String × Json)} :
    readObject? document = some entries ↔
      ∃ members, tokens? document = some (Tree.object members).tokens ∧
        (Tree.object members).height ≤ maxOpen ∧
        entries = Entries.ofSequence (Tree.memberValues members) := by
  have object : readObject? document = some entries ↔ read? document = some (.object entries) := by
    unfold readObject?
    split <;> simp_all
  rw [object, read?, Option.bind_eq_some_iff]
  constructor
  · rintro ⟨tokens, lexed, accepted⟩
    rcases run_eq_some.mp accepted with ⟨tree, rfl, height, value⟩
    cases tree with
    | object members => exact ⟨members, lexed, height, Json.object.inj value⟩
    | scalar scalar =>
        -- A tree may hold any document as a scalar, but a text shows none that has parts.
        have kind := isScalar_of_mem_tokensWithin lexed (List.mem_singleton_self _)
        rw [← show Json.object entries = scalar from value] at kind
        cases kind
    | string s => contradiction
    | array items => contradiction
  · rintro ⟨members, lexed, height, rfl⟩
    exact ⟨_, lexed, run_eq_some.mpr ⟨.object members, rfl, height, rfl⟩⟩

theorem nodup_readObject? {document : Text} {entries : List (String × Json)}
    (read : readObject? document = some entries) : (entries.map Prod.fst).Nodup := by
  rcases readObject?_eq_some.mp read with ⟨members, -, -, rfl⟩
  exact Entries.nodup_ofSequence _

theorem isBlankText_of_readObject? {document : Text} {entries : List (String × Json)}
    (read : readObject? document = some entries) : Text.isBlankText document = false := by
  rcases readObject?_eq_some.mp read with ⟨members, lexed, -, -⟩
  have opened : ∃ tokens, (Tree.object members).tokens = .openObject :: tokens := by
    cases members with
    | nil => exact ⟨_, rfl⟩
    | cons first others => exact ⟨_, rfl⟩
  rcases opened with ⟨tokens, opened⟩
  rw [opened] at lexed
  have brace : Unicode.isBlank '{' = false := by decide
  simp only [Text.isBlankText, List.all_eq_false]
  exact ⟨'{', mem_of_openObject lexed, by simp [brace]⟩

end Json

/-! ## YAML mappings -/

namespace Yaml

theorem nodup_putEntries {document : Document} {limit : Nat} {convert : Node → Converting Json}
    {nodes : List (Node × Node)} {done entries : List (String × Json)} {count next : Nat}
    (converted : (putEntries document limit convert done nodes).run count = some (entries, next))
    (distinct : (done.map Prod.fst).Nodup) : (entries.map Prod.fst).Nodup := by
  induction nodes generalizing done count with
  | nil =>
      have same : done = entries := by
        simpa [putEntries] using congrArg (Option.map Prod.fst) converted
      rwa [← same]
  | cons node others ih =>
      simp only [putEntries, StateT.run_bind, Option.bind_eq_bind,
        Option.bind_eq_some_iff] at converted
      rcases converted with ⟨key, -, value, -, converted⟩
      exact ih converted (Entries.nodup_put distinct key.1 value.1)

theorem nodup_readObject? {document : Text} {entries : List (String × Json)}
    (read : readObject? document = some entries) : (entries.map Prod.fst).Nodup := by
  simp only [readObject?, Option.bind_eq_bind, Option.bind_eq_some_iff] at read
  rcases read with ⟨nodes, -, read⟩
  split at read
  · simp [← Option.some.inj read]
  · simp [← Option.some.inj read]
  · simp only [Option.bind_eq_some_iff, Option.some.injEq] at read
    rcases read with ⟨⟨entries, count⟩, converted, rfl⟩
    exact nodup_putEntries converted List.nodup_nil
  · contradiction

end Yaml

/-! ## Documents of variables -/

theorem Json.nodup_bindings? {document : Text} {entries : List (String × Json)}
    (bound : Json.bindings? document = some entries) : (entries.map Prod.fst).Nodup := by
  rcases Option.or_eq_some_iff.mp bound with read | ⟨-, read⟩
  · exact Json.nodup_readObject? read
  · exact Yaml.nodup_readObject? read

theorem Value.ofJsonEntries_eq_map {σ : Type} (entries : List (String × Json)) :
    ofJsonEntries entries =
      entries.map fun entry => (entry.1, (ofJson entry.2 : Value σ)) := by
  induction entries with
  | nil => rw [ofJsonEntries, List.map_nil]
  | cons entry others ih => rw [ofJsonEntries, List.map_cons, ih]

namespace Scope

variable {σ : Type}

/-- The entries that a document adds to a scope: its keys with their values, in their order. -/
def documentEntries (document : Text) : List (String × Value σ) :=
  if Text.isBlankText document then []
  else ((Json.bindings? document).getD []).map fun entry => (entry.1, .ofJson entry.2)

theorem takeDocument_of_bindings? {document : Text} {entries : List (String × Json)}
    (visible : Text.isBlankText document = false) (bound : Json.bindings? document = some entries)
    (scope : Scope σ) :
    scope.takeDocument document =
      (scope.setAll (entries.map fun entry => (entry.1, .ofJson entry.2)), .ok ()) := by
  simp [takeDocument, visible, bound, Value.ofJsonEntries_eq_map]

theorem takeDocument_of_readObject? {document : Text} {entries : List (String × Json)}
    (read : Json.readObject? document = some entries) (scope : Scope σ) :
    scope.takeDocument document =
      (scope.setAll (entries.map fun entry => (entry.1, .ofJson entry.2)), .ok ()) := by
  have bound : Json.bindings? document = some entries := by
    rw [Json.bindings?, read, Option.some_or]
  exact takeDocument_of_bindings? (Json.isBlankText_of_readObject? read) bound scope

/-- Whether the document is taken or refused, its entries are what is added. -/
theorem takeDocument_fst (scope : Scope σ) (document : Text) :
    (scope.takeDocument document).1 = scope.setAll (documentEntries document) := by
  unfold takeDocument documentEntries
  split
  · rfl
  · split
    · rename_i entries bound
      rw [bound, Option.getD_some, Value.ofJsonEntries_eq_map]
    · rename_i unreadable
      rw [unreadable]
      rfl

theorem eq_setAll_of_addDocument {scope loaded : Scope σ} {document : Text}
    (added : scope.addDocument document = .ok loaded) :
    loaded = scope.setAll (documentEntries document) := by
  rw [← takeDocument_fst]
  unfold addDocument at added
  split at added
  · rename_i taken reached
    rw [reached, Except.ok.inj added]
  · contradiction

theorem takeDocument_of_error {scope : Scope σ} {document : Text} {fault : Error}
    (refused : (scope.takeDocument document).2 = .error fault) :
    (scope.takeDocument document).1 = scope := by
  unfold takeDocument at refused ⊢
  split
  · rfl
  · split
    · simp_all
    · rfl

end Scope

end TextTemplate
