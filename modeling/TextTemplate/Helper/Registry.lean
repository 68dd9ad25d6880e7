import TextTemplate.Helper.Builtin
import TextTemplate.Trace

/-!
# Helper registries

A registry knows the built-in helpers and those that the host adds. An added helper goes before a
built-in one of the same name, and a later one replaces an earlier one. The case of names does not
count. A name that is unknown stands for a helper that does nothing.
-/

namespace TextTemplate

/-- A helper of the host: it takes a value and an optional argument and may fail. -/
abbrev Helper (σ : Type) : Type :=
  Value σ → Option Text → Except Error (Value σ)

/-- The helpers that a host has added, under their folded names in the order of the first
addition. -/
structure Registry (σ : Type) where
  added : List (String × Helper σ)

namespace Registry

open Unicode (foldName)

variable {σ : Type}

/-- The registry of the built-in helpers alone. -/
def builtin : Registry σ :=
  ⟨[]⟩

/-- Adds a helper. -/
def register (registry : Registry σ) (name : String) (helper : Helper σ) : Registry σ :=
  ⟨Entries.put (foldName name) helper registry.added⟩

/-- A helper of this name is known. -/
def exists? (registry : Registry σ) (name : String) : Bool :=
  (Entries.get? (foldName name) registry.added).isSome ||
    (Entries.get? (foldName name) (Builtin.table (σ := σ))).isSome

/-- The names of all helpers: the built-in ones, then the others that were added. -/
def names (registry : Registry σ) : List String :=
  let known := (Builtin.table (σ := σ)).map Prod.fst
  known ++ (registry.added.map Prod.fst).filter fun name => !known.contains name

/-- Applies the helper of a name. -/
def apply (registry : Registry σ) (value : Value σ) (name : String) (argument : Option Text) :
    Attempt (Value σ) :=
  match Entries.get? (foldName name) registry.added with
  | some helper => Attempt.ofExcept (helper value argument)
  | none =>
    match Entries.get? (foldName name) Builtin.table with
    | some helper => pure (helper value argument)
    | none => do
      Attempt.ofTraced (Traced.report (.helperMissing name))
      pure value

end Registry

end TextTemplate
