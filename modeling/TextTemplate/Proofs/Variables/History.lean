import TextTemplate.NameTable
import Mathlib.Data.List.Induction

/-!
# Histories of name tables

A table of names is the result of a history of writes: names were bound, and names lost their
binding. What a table holds is read off its history here, without following the table. The current
binding of a name is the last one that no later write is about, and a name is bound since the first
of its bindings that it has not lost again.

`NameTable.records_replay` says that these two notions determine the table: its entries are the
current bindings, in the order of the positions since which their names are bound.
-/

namespace TextTemplate.NameTable

open Unicode (foldName)

variable {α : Type}

/-- The folded names in the order of the table. -/
def keys (table : NameTable α) : List String :=
  table.entries.map Entry.key

/-! ## Placing and removing -/

theorem keys_place (binding : Entry α) (entries : List (Entry α)) :
    (place binding entries).map Entry.key =
      if binding.key ∈ entries.map Entry.key then entries.map Entry.key
      else entries.map Entry.key ++ [binding.key] := by
  induction entries with
  | nil => simp [place]
  | cons entry others ih =>
      unfold place
      split
      · rename_i here
        simp [here]
      · rename_i different
        simp only [List.map_cons, ih, List.mem_cons, Ne.symm different, false_or]
        split <;> simp

theorem keys_insert (table : NameTable α) (name : String) (value : α) :
    (table.insert name value).keys =
      if foldName name ∈ table.keys then table.keys else table.keys ++ [foldName name] :=
  keys_place ⟨foldName name, name, value⟩ table.entries

theorem nodup_keys_insert {table : NameTable α} (distinct : table.keys.Nodup) (name : String)
    (value : α) : (table.insert name value).keys.Nodup := by
  rw [keys_insert]
  split
  · exact distinct
  · rename_i fresh
    rw [List.nodup_append]
    refine ⟨distinct, by simp, ?_⟩
    intro key listed other isName same
    rw [List.mem_singleton.mp isName] at same
    exact fresh (same ▸ listed)

theorem keys_erase (table : NameTable α) (name : String) :
    (table.erase name).keys = table.keys.filter (· != foldName name) := by
  simp only [keys, erase, List.filter_map]
  rfl

theorem mem_place {binding entry : Entry α} {entries : List (Entry α)}
    (distinct : (entries.map Entry.key).Nodup) :
    entry ∈ place binding entries ↔
      entry = binding ∨ entry.key ≠ binding.key ∧ entry ∈ entries := by
  induction entries with
  | nil => simp [place]
  | cons first others ih =>
      rw [List.map_cons, List.nodup_cons] at distinct
      rcases distinct with ⟨fresh, distinct⟩
      unfold place
      split
      · rename_i here
        have elsewhere : ∀ other ∈ others, other.key ≠ binding.key := by
          intro other listed same
          apply fresh
          rw [here, ← same]
          exact List.mem_map_of_mem listed
        simp only [List.mem_cons]
        constructor
        · rintro (rfl | listed)
          · exact .inl rfl
          · exact .inr ⟨elsewhere entry listed, .inr listed⟩
        · rintro (rfl | ⟨different, rfl | listed⟩)
          · exact .inl rfl
          · exact absurd here different
          · exact .inr listed
      · rename_i different
        simp only [List.mem_cons, ih distinct]
        constructor
        · rintro (rfl | rfl | ⟨apart, listed⟩)
          · exact .inr ⟨different, .inl rfl⟩
          · exact .inl rfl
          · exact .inr ⟨apart, .inr listed⟩
        · rintro (rfl | ⟨apart, rfl | listed⟩)
          · exact .inr (.inl rfl)
          · exact .inl rfl
          · exact .inr (.inr ⟨apart, listed⟩)

theorem mem_erase {table : NameTable α} {name : String} {entry : Entry α} :
    entry ∈ (table.erase name).entries ↔ entry.key ≠ foldName name ∧ entry ∈ table.entries := by
  simp only [erase, List.mem_filter, bne_iff_ne]
  exact and_comm

theorem find?_of_mem {table : NameTable α} {name : String} {entry : Entry α}
    (distinct : table.keys.Nodup) (listed : entry ∈ table.entries)
    (here : entry.key = foldName name) : table.find? name = some entry := by
  rcases table with ⟨entries⟩
  simp only [find?, ← here]
  simp only [keys] at distinct listed
  induction entries with
  | nil => contradiction
  | cons first others ih =>
      rw [List.map_cons, List.nodup_cons] at distinct
      rcases List.mem_cons.mp listed with rfl | listed
      · simp
      · have apart : first.key ≠ entry.key := by
          intro same
          exact distinct.1 (same ▸ List.mem_map_of_mem listed)
        rw [List.find?_cons_of_neg (by simpa using apart)]
        exact ih distinct.2 listed

theorem contains_eq_true {table : NameTable α} {name : String} :
    table.contains name = true ↔ foldName name ∈ table.keys := by
  simp [contains, find?, keys, List.find?_isSome]

/-! ## Writes -/

/-- A name is bound to a value, or loses its binding. -/
inductive Write (α : Type) where
  | bind (name : String) (value : α)
  | unbind (name : String)

/-- The folded name that a write is about. -/
def Write.key : Write α → String
  | .bind name _ => foldName name
  | .unbind name => foldName name

/-- The table behind one write. -/
def write (table : NameTable α) : Write α → NameTable α
  | .bind name value => table.insert name value
  | .unbind name => table.erase name

/-- The table behind writes that follow each other. -/
def writeAll (table : NameTable α) (writes : List (Write α)) : NameTable α :=
  writes.foldl write table

/-- The table that a history leaves. -/
def replay (history : List (Write α)) : NameTable α :=
  empty.writeAll history

theorem writeAll_append (table : NameTable α) (first second : List (Write α)) :
    table.writeAll (first ++ second) = (table.writeAll first).writeAll second :=
  List.foldl_append

/-! ## Parts of a table -/

/-- The entries whose folded names are to be kept. -/
def restrict (keep : String → Bool) (table : NameTable α) : NameTable α :=
  ⟨table.entries.filter fun entry => keep entry.key⟩

theorem filter_place (keep : String → Bool) (binding : Entry α) (entries : List (Entry α)) :
    (place binding entries).filter (fun entry => keep entry.key) =
      if keep binding.key then place binding (entries.filter fun entry => keep entry.key)
      else entries.filter fun entry => keep entry.key := by
  induction entries with
  | nil => rw [place, List.filter_cons, List.filter_nil, place]
  | cons entry others ih =>
      by_cases here : entry.key = binding.key
      · by_cases kept : keep binding.key = true
        · simp [place, here, kept]
        · simp [place, here, kept]
      · by_cases inside : keep entry.key = true
        · simp [place, here, inside, ih, apply_ite (List.cons entry)]
        · simp [place, here, inside, ih]

theorem restrict_write (keep : String → Bool) (table : NameTable α) (write : Write α) :
    (table.write write).restrict keep =
      if keep write.key then (table.restrict keep).write write else table.restrict keep := by
  cases write with
  | bind name value =>
      have placed := filter_place keep ⟨foldName name, name, value⟩ table.entries
      exact (congrArg mk placed).trans (apply_ite mk _ _ _)
  | unbind name =>
      split
      · simp only [NameTable.write, erase, restrict, List.filter_filter]
        exact congrArg mk (List.filter_congr fun _ _ => Bool.and_comm _ _)
      · rename_i dropped
        -- No entry of the part has the name, so nothing is taken from it.
        simp only [NameTable.write, erase, restrict, List.filter_filter]
        apply congrArg mk
        apply List.filter_congr
        intro entry listed
        cases inside : keep entry.key with
        | false => rfl
        | true =>
            have apart : entry.key ≠ foldName name := by
              intro same
              rw [same] at inside
              exact dropped inside
            simpa using apart

/-- A part of a table has the writes to its names for its history. -/
theorem restrict_writeAll (keep : String → Bool) (table : NameTable α) (writes : List (Write α)) :
    (table.writeAll writes).restrict keep =
      (table.restrict keep).writeAll (writes.filter fun write => keep write.key) := by
  induction writes generalizing table with
  | nil => rfl
  | cons first others ih =>
      have here := restrict_write keep table first
      refine (ih (table.write first)).trans ?_
      rw [here, List.filter_cons]
      split <;> rfl

/-! ## What a history leaves -/

/-- The last write about a name binds it, with this spelling and value. -/
def Current (history : List (Write α)) (binding : Entry α) : Prop :=
  ∃ before after, history = before ++ .bind binding.spelling binding.value :: after ∧
    binding.key = foldName binding.spelling ∧ ∀ write ∈ after, write.key ≠ binding.key

/-- The write at a position binds a name that is not bound before it, and the name does not lose
its binding later. -/
def BoundSince (history : List (Write α)) (key : String) (position : Nat) : Prop :=
  ∃ before name value after, history = before ++ .bind name value :: after ∧
    position = before.length ∧ key = foldName name ∧
    (∀ binding, Current before binding → binding.key ≠ key) ∧
    ∀ lost, .unbind lost ∈ after → foldName lost ≠ key

theorem not_current_nil (binding : Entry α) : ¬ Current [] binding := by
  rintro ⟨before, after, whole, -⟩
  simp at whole

theorem not_boundSince_nil (key : String) (position : Nat) :
    ¬ BoundSince ([] : List (Write α)) key position := by
  rintro ⟨before, name, value, after, whole, -⟩
  simp at whole

/-- One more write: its own binding is current, and so is what it is not about. -/
theorem current_concat {history : List (Write α)} {last : Write α} {binding : Entry α} :
    Current (history ++ [last]) binding ↔
      last = .bind binding.spelling binding.value ∧ binding.key = foldName binding.spelling ∨
        last.key ≠ binding.key ∧ Current history binding := by
  constructor
  · rintro ⟨before, after, whole, keyed, later⟩
    cases after using List.reverseRecOn with
    | nil =>
        left
        rcases List.append_inj' whole rfl with ⟨-, ends⟩
        exact ⟨List.head_eq_of_cons_eq ends, keyed⟩
    | append_singleton after final =>
        right
        rw [← List.cons_append, ← List.append_assoc] at whole
        rcases List.append_inj' whole rfl with ⟨rfl, ends⟩
        rcases List.head_eq_of_cons_eq ends
        refine ⟨later last (by simp), before, after, rfl, keyed, ?_⟩
        intro write listed
        exact later write (by simp [listed])
  · rintro (⟨rfl, keyed⟩ | ⟨different, before, after, rfl, keyed, later⟩)
    · exact ⟨history, [], rfl, keyed, by simp⟩
    · refine ⟨before, after ++ [last], by simp, keyed, ?_⟩
      intro write listed
      rcases List.mem_append.mp listed with listed | listed
      · exact later write listed
      · rw [List.mem_singleton.mp listed]
        exact different

theorem boundSince_concat {history : List (Write α)} {last : Write α} {key : String}
    {position : Nat} :
    BoundSince (history ++ [last]) key position ↔
      BoundSince history key position ∧ (∀ name, last = .unbind name → foldName name ≠ key) ∨
        (∃ name value, last = .bind name value ∧ key = foldName name) ∧
          position = history.length ∧
          ∀ binding, Current history binding → binding.key ≠ key := by
  constructor
  · rintro ⟨before, name, value, after, whole, rfl, keyed, unbound, kept⟩
    cases after using List.reverseRecOn with
    | nil =>
        right
        rcases List.append_inj' whole rfl with ⟨rfl, ends⟩
        exact ⟨⟨name, value, List.head_eq_of_cons_eq ends, keyed⟩, rfl, unbound⟩
    | append_singleton after final =>
        left
        rw [← List.cons_append, ← List.append_assoc] at whole
        rcases List.append_inj' whole rfl with ⟨rfl, ends⟩
        rcases List.head_eq_of_cons_eq ends
        refine ⟨⟨before, name, value, after, rfl, rfl, keyed, unbound, ?_⟩, ?_⟩
        · intro lost listed
          exact kept lost (by simp [listed])
        · rintro lost rfl
          exact kept lost (by simp)
  · rintro (⟨⟨before, name, value, after, rfl, rfl, keyed, unbound, kept⟩, spared⟩ |
      ⟨⟨name, value, rfl, keyed⟩, rfl, unbound⟩)
    · refine ⟨before, name, value, after ++ [last], by simp, rfl, keyed, unbound, ?_⟩
      intro lost listed
      rcases List.mem_append.mp listed with listed | listed
      · exact kept lost listed
      · exact spared lost (List.mem_singleton.mp listed).symm
    · exact ⟨history, name, value, [], rfl, rfl, keyed, unbound, by simp⟩

theorem BoundSince.lt_length {history : List (Write α)} {key : String} {position : Nat}
    (since : BoundSince history key position) : position < history.length := by
  rcases since with ⟨before, name, value, after, rfl, rfl, -⟩
  simp

theorem BoundSince.current {history : List (Write α)} {key : String} {position : Nat}
    (since : BoundSince history key position) :
    ∃ binding, Current history binding ∧ binding.key = key := by
  induction history using List.reverseRecOn with
  | nil => exact absurd since (not_boundSince_nil key position)
  | append_singleton history last ih =>
      rcases boundSince_concat.mp since with ⟨since, spared⟩ | ⟨⟨name, value, rfl, keyed⟩, -⟩
      · rcases ih since with ⟨binding, current, rfl⟩
        by_cases about : last.key = binding.key
        · cases last with
          | bind name value =>
              exact ⟨⟨foldName name, name, value⟩, current_concat.mpr (.inl ⟨rfl, rfl⟩), about⟩
          | unbind name => exact absurd about (spared name rfl)
        · exact ⟨binding, current_concat.mpr (.inr ⟨about, current⟩), rfl⟩
      · exact ⟨⟨foldName name, name, value⟩, current_concat.mpr (.inl ⟨rfl, rfl⟩), keyed.symm⟩

theorem BoundSince.unique {history : List (Write α)} {key : String} {first second : Nat}
    (one : BoundSince history key first) (other : BoundSince history key second) :
    first = second := by
  induction history using List.reverseRecOn with
  | nil => exact absurd one (not_boundSince_nil key first)
  | append_singleton history last ih =>
      -- A position at the end is new only if the name was not bound before, which an earlier one
      -- excludes.
      rcases boundSince_concat.mp one with ⟨one, -⟩ | ⟨-, rfl, unbound⟩
      · rcases boundSince_concat.mp other with ⟨other, -⟩ | ⟨-, -, unbound⟩
        · exact ih one other
        · rcases one.current with ⟨binding, current, here⟩
          exact absurd here (unbound binding current)
      · rcases boundSince_concat.mp other with ⟨other, -⟩ | ⟨-, rfl, -⟩
        · rcases other.current with ⟨binding, current, here⟩
          exact absurd here (unbound binding current)
        · rfl

/-- A name is bound since an earlier position than another one. -/
def BoundBefore (history : List (Write α)) (first second : String) : Prop :=
  ∃ earlier later, BoundSince history first earlier ∧ BoundSince history second later ∧
    earlier < later

namespace BoundSince

variable {history : List (Write α)} {key : String} {position : Nat}

theorem bind (since : BoundSince history key position) (name : String) (value : α) :
    BoundSince (history ++ [.bind name value]) key position := by
  refine boundSince_concat.mpr (.inl ⟨since, ?_⟩)
  intro lost written
  contradiction

theorem unbind {name : String} (since : BoundSince history key position)
    (different : key ≠ foldName name) :
    BoundSince (history ++ [.unbind name]) key position := by
  refine boundSince_concat.mpr (.inl ⟨since, ?_⟩)
  intro lost written
  rw [← Write.unbind.inj written]
  exact Ne.symm different

end BoundSince

theorem BoundBefore.bind {history : List (Write α)} {first second : String}
    (inOrder : BoundBefore history first second) (name : String) (value : α) :
    BoundBefore (history ++ [.bind name value]) first second := by
  rcases inOrder with ⟨earlier, later, one, other, before⟩
  exact ⟨earlier, later, one.bind name value, other.bind name value, before⟩

/-! ## Tables and histories -/

/-- A table holds what its history leaves: the current bindings, each once, in the order in which
their names were bound. -/
structure Records (history : List (Write α)) (table : NameTable α) : Prop where
  distinct : table.keys.Nodup
  entries : ∀ binding, binding ∈ table.entries ↔ Current history binding
  since : ∀ key ∈ table.keys, ∃ position, BoundSince history key position
  ordered : table.keys.Pairwise (BoundBefore history)

namespace Records

variable {history : List (Write α)} {table : NameTable α}

theorem mem_keys (records : Records history table) {key : String} :
    key ∈ table.keys ↔ ∃ binding, Current history binding ∧ binding.key = key := by
  simp only [keys, List.mem_map, records.entries]

theorem find?_eq_some (records : Records history table) {name : String} {entry : Entry α} :
    table.find? name = some entry ↔ entry.key = foldName name ∧ Current history entry := by
  rw [← records.entries]
  constructor
  · intro found
    have here := List.find?_some found
    exact ⟨beq_iff_eq.mp here, List.mem_of_find?_eq_some found⟩
  · rintro ⟨here, listed⟩
    exact find?_of_mem records.distinct listed here

theorem get?_eq_some (records : Records history table) {name : String} {value : α} :
    table.get? name = some value ↔
      ∃ spelling, Current history ⟨foldName name, spelling, value⟩ := by
  rw [get?, Option.map_eq_some_iff]
  constructor
  · rintro ⟨entry, found, rfl⟩
    rcases records.find?_eq_some.mp found with ⟨here, current⟩
    rw [← here]
    exact ⟨entry.spelling, current⟩
  · rintro ⟨spelling, current⟩
    exact ⟨_, records.find?_eq_some.mpr ⟨rfl, current⟩, rfl⟩

theorem mem_insert (records : Records history table) (name : String) (value : α)
    (binding : Entry α) :
    binding ∈ (table.insert name value).entries ↔
      Current (history ++ [.bind name value]) binding := by
  rw [insert, mem_place records.distinct, current_concat, records.entries]
  rcases binding with ⟨key, spelling, bound⟩
  apply or_congr
  · simp only [Entry.mk.injEq, Write.bind.injEq]
    constructor
    · rintro ⟨rfl, rfl, rfl⟩
      exact ⟨⟨rfl, rfl⟩, rfl⟩
    · rintro ⟨⟨rfl, rfl⟩, rfl⟩
      exact ⟨rfl, rfl, rfl⟩
  · exact and_congr_left fun _ => ne_comm

theorem rebind (records : Records history table) {name : String} (value : α)
    (bound : foldName name ∈ table.keys) :
    Records (history ++ [.bind name value]) (table.insert name value) := by
  have same : (table.insert name value).keys = table.keys := by
    rw [keys_insert, if_pos bound]
  refine ⟨nodup_keys_insert records.distinct name value, records.mem_insert name value, ?_, ?_⟩
  · intro key listed
    rw [same] at listed
    rcases records.since key listed with ⟨position, since⟩
    exact ⟨position, since.bind name value⟩
  · rw [same]
    exact records.ordered.imp fun inOrder => inOrder.bind name value

theorem bindNew (records : Records history table) {name : String} (value : α)
    (fresh : foldName name ∉ table.keys) :
    Records (history ++ [.bind name value]) (table.insert name value) := by
  have longer : (table.insert name value).keys = table.keys ++ [foldName name] := by
    rw [keys_insert, if_neg fresh]
  have added : BoundSince (history ++ [.bind name value]) (foldName name) history.length := by
    refine boundSince_concat.mpr (.inr ⟨⟨name, value, rfl, rfl⟩, rfl, ?_⟩)
    intro binding current here
    exact fresh (records.mem_keys.mpr ⟨binding, current, here⟩)
  refine ⟨nodup_keys_insert records.distinct name value, records.mem_insert name value, ?_, ?_⟩
  · intro key listed
    rw [longer, List.mem_append, List.mem_singleton] at listed
    rcases listed with listed | rfl
    · rcases records.since key listed with ⟨position, since⟩
      exact ⟨position, since.bind name value⟩
    · exact ⟨history.length, added⟩
  · rw [longer, List.pairwise_append]
    refine ⟨?_, List.pairwise_singleton _ _, ?_⟩
    · exact records.ordered.imp fun inOrder => inOrder.bind name value
    · intro key listed other isName
      rw [List.mem_singleton.mp isName]
      rcases records.since key listed with ⟨position, since⟩
      exact ⟨position, history.length, since.bind name value, added, since.lt_length⟩

theorem unbind (records : Records history table) (name : String) :
    Records (history ++ [.unbind name]) (table.erase name) := by
  refine ⟨?_, ?_, ?_, ?_⟩
  · rw [keys_erase]
    exact records.distinct.filter _
  · intro binding
    rw [mem_erase, current_concat, records.entries]
    constructor
    · rintro ⟨different, current⟩
      exact .inr ⟨Ne.symm different, current⟩
    · rintro (⟨written, -⟩ | ⟨different, current⟩)
      · contradiction
      · exact ⟨Ne.symm different, current⟩
  · intro key listed
    rw [keys_erase, List.mem_filter, bne_iff_ne] at listed
    rcases records.since key listed.1 with ⟨position, since⟩
    exact ⟨position, since.unbind listed.2⟩
  · rw [keys_erase, List.pairwise_filter]
    refine records.ordered.imp ?_
    rintro first second ⟨earlier, later, one, other, before⟩ firstApart secondApart
    exact ⟨earlier, later, one.unbind (bne_iff_ne.mp firstApart),
      other.unbind (bne_iff_ne.mp secondApart), before⟩

theorem write (records : Records history table) (write : Write α) :
    Records (history ++ [write]) (table.write write) := by
  cases write with
  | bind name value =>
      by_cases bound : foldName name ∈ table.keys
      · exact records.rebind value bound
      · exact records.bindNew value bound
  | unbind name => exact records.unbind name

theorem writeAll (records : Records history table) (writes : List (Write α)) :
    Records (history ++ writes) (table.writeAll writes) := by
  induction writes generalizing history table with
  | nil =>
      rw [List.append_nil]
      exact records
  | cons first others ih =>
      rw [List.append_cons]
      exact ih (records.write first)

end Records

theorem records_empty : Records [] (empty : NameTable α) := by
  refine ⟨List.nodup_nil, ?_, ?_, List.Pairwise.nil⟩
  · intro binding
    simp [empty, not_current_nil]
  · intro key listed
    contradiction

/-- The table that a history leaves holds its current bindings in the order of their names. -/
theorem records_replay (history : List (Write α)) : Records history (replay history) :=
  records_empty.writeAll history

end TextTemplate.NameTable
