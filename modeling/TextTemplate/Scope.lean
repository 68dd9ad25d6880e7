import TextTemplate.Trace
import TextTemplate.Value.Basic

/-!
# Scopes

A scope holds the variables and services that a template sees, and a stack of cursors that follows
an iteration. The item, index and key of the topmost cursor are variables as well. A child scope
takes a copy of the variables and services, so that neither scope sees later changes of the other;
it starts without cursors.
-/

namespace TextTemplate

/-- A position in an iteration. -/
structure Cursor (σ : Type) where
  item : Value σ
  index : Nat
  key : Option String

/-- The variables, services and cursors of a render. The topmost cursor comes first. -/
structure Scope (σ : Type) where
  key : Option String
  parent : Option String
  bindings : NameTable (Value σ)
  services : NameTable σ
  cursors : List (Cursor σ)

/-- What the services of a host answer. -/
class Host (σ : Type) where
  call : σ → Value σ → Except Error (Value σ)

namespace Function

variable {σ : Type}

/-- The service of a table under a name. A name that is missing stands for a function that answers
so, which is reported. -/
def ofServices (services : NameTable σ) (name : String) : Traced (Function σ) :=
  match services.find? name with
  | some entry => pure ⟨entry.spelling, .service entry.value⟩
  | none => do
    Traced.report (.serviceMissing name)
    pure ⟨name, .unregistered⟩

/-- Calls a function. A directory takes the text of its argument as the name of a service. -/
def call [Host σ] (function : Function σ) (argument : Value σ) :
    Traced (Except Error (Value σ)) :=
  match function.code with
  | .service handle => pure (Host.call handle argument)
  | .unregistered => pure (.ok (.string (function.name ++ " not registered")))
  | .directory services => do
    let service ← ofServices services argument.toString
    pure (.ok (.function service))

end Function

namespace Scope

variable {σ : Type}

/-- The variable that holds the item of the topmost cursor. -/
def currentName : String :=
  "Current"

/-- The variable that holds the index of the topmost cursor. -/
def currentIndexName : String :=
  "CurrentIndex"

/-- The variable that holds the key of the topmost cursor. -/
def currentKeyName : String :=
  "CurrentKey"

/-- A scope without variables, services and cursors. -/
def empty : Scope σ :=
  ⟨none, none, .empty, .empty, []⟩

/-- An empty scope with a key of its own. -/
def withKey (key : String) : Scope σ :=
  { empty with key := some key }

/-- The value of a variable. -/
def get? (scope : Scope σ) (name : String) : Option (Value σ) :=
  scope.bindings.get? name

/-- The variable is bound. -/
def has (scope : Scope σ) (name : String) : Bool :=
  scope.bindings.contains name

/-- Binds a variable. -/
def set (scope : Scope σ) (name : String) (value : Value σ) : Scope σ :=
  { scope with bindings := scope.bindings.insert name value }

/-- The names of the variables in order. -/
def names (scope : Scope σ) : List String :=
  scope.bindings.names

/-- A scope with copies of the variables and services. -/
def child (scope : Scope σ) (key : Option String) : Scope σ :=
  { scope with key := key, parent := scope.key, cursors := [] }

/-- The value of an optional key. -/
def keyValue (key : Option String) : Value σ :=
  match key with
  | some key => .string key
  | none => .null

/-- Gives the variables of the topmost cursor their values, or removes them if there is none. -/
def syncCursor (scope : Scope σ) : Scope σ :=
  match scope.cursors with
  | cursor :: _ =>
    { scope with
      bindings := ((scope.bindings.insert currentName cursor.item).insert currentIndexName
        (.ofCount cursor.index)).insert currentKeyName (keyValue cursor.key) }
  | [] =>
    { scope with
      bindings := ((scope.bindings.erase currentName).erase currentIndexName).erase
        currentKeyName }

/-- Puts a cursor on top. -/
def pushCursor (scope : Scope σ) (cursor : Cursor σ) : Scope σ :=
  syncCursor { scope with cursors := cursor :: scope.cursors }

/-- Takes the topmost cursor away. -/
def popCursor (scope : Scope σ) : Scope σ :=
  syncCursor { scope with cursors := scope.cursors.tail }

/-- The topmost cursor. -/
def cursor? (scope : Scope σ) : Option (Cursor σ) :=
  scope.cursors.head?

/-- Binds a service to a name. -/
def register (scope : Scope σ) (name : String) (handle : σ) : Scope σ :=
  { scope with services := scope.services.insert name handle }

/-- A service is bound to the name. -/
def hasService (scope : Scope σ) (name : String) : Bool :=
  scope.services.contains name

/-- The service of a name, or its stand-in. -/
def service (scope : Scope σ) (name : String) : Traced (Function σ) :=
  Function.ofServices scope.services name

/-- The function that turns names into the services that are bound now. -/
def directory (scope : Scope σ) : Function σ :=
  ⟨"Services", .directory scope.services⟩

/-- Copies the named variables of another scope as far as it has them. -/
def merge (scope other : Scope σ) (names : List String) : Scope σ :=
  names.foldl (fun merged name =>
    match other.get? name with
    | some value => merged.set name value
    | none => merged) scope

end Scope

end TextTemplate
