import TextTemplate.Error

/-!
# Traced computations

Rendering reports what it does on the way: services that are missing, calls that fail, the clause
that was chosen. A traced computation is its result together with the events in their order, and
one that may stop with an error keeps the events up to that point.
-/

namespace TextTemplate

/-- What a render, a load or a run reports. -/
inductive Event where
  | serviceMissing (name : String)
  | notCallable (shown : String)
  | callFailed (name : String) (cause : Error)
  | helperMissing (name : String)
  | clauseSelected (position count : Nat)
  | noClauseSelected
  | iterating (collection : String) (count : Nat)
  | overriding (key : String)
  | loading (path : String)
  | delivered (template path : String)

/-- How important an event is. -/
inductive Level where
  | info
  | debug
  | trace

/-- The name of a level in a log. -/
def Level.name : Level → String
  | .info => "INFO"
  | .debug => "DEBUG"
  | .trace => "TRACE"

/-- The importance of an event. -/
def Event.level : Event → Level
  | .serviceMissing _ => .trace
  | .notCallable _ => .debug
  | .callFailed _ _ => .debug
  | .helperMissing _ => .trace
  | .clauseSelected _ _ => .trace
  | .noClauseSelected => .trace
  | .iterating _ _ => .debug
  | .overriding _ => .debug
  | .loading _ => .debug
  | .delivered _ _ => .info

/-- The event in words. -/
def Event.message : Event → String
  | .serviceMissing name => "Service '" ++ name ++ "' is not registered"
  | .notCallable shown => "Cannot invoke non-callable value '" ++ shown ++ "'"
  | .callFailed name cause => "Invocation of '" ++ name ++ "' failed: " ++ cause.message
  | .helperMissing name => "Unknown helper '" ++ name ++ "', value passed through"
  | .clauseSelected position count =>
    "Selected clause " ++ toString position ++ " of " ++ toString count
  | .noClauseSelected => "No clause selected"
  | .iterating collection count =>
    "Iterating '" ++ collection ++ "' over " ++ toString count ++ " item(s)"
  | .overriding key => "Overriding '" ++ key ++ "'"
  | .loading path => "Loading context from " ++ path
  | .delivered template path => "Rendered '" ++ template ++ "' to '" ++ path ++ "'"

/-- A result and the events on the way to it. -/
structure Traced (α : Type) where
  value : α
  events : List Event

namespace Traced

variable {α β : Type}

instance : Monad Traced where
  pure value := ⟨value, []⟩
  bind first next :=
    let second := next first.value
    ⟨second.value, first.events ++ second.events⟩

/-- Reports an event. -/
def report (event : Event) : Traced Unit :=
  ⟨(), [event]⟩

@[simp]
theorem value_pure (value : α) : (pure value : Traced α).value = value :=
  rfl

@[simp]
theorem value_bind (first : Traced α) (next : α → Traced β) :
    (first >>= next).value = (next first.value).value :=
  rfl

instance : LawfulMonad Traced :=
  LawfulMonad.mk' Traced
    (fun computation => by
      cases computation
      simp [Functor.map])
    (fun value next => by simp [bind, pure])
    (fun first second third => by simp [bind])

end Traced

/-- A traced computation that may stop with an error. -/
abbrev Attempt (α : Type) : Type :=
  ExceptT Error Traced α

namespace Attempt

variable {α : Type}

/-- The result or the error, without the events. -/
def outcome (attempt : Attempt α) : Except Error α :=
  attempt.run.value

/-- Runs a computation that cannot stop. -/
def ofTraced (computation : Traced α) : Attempt α :=
  ExceptT.lift computation

/-- A result or an error that is reached without events. -/
def ofExcept (result : Except Error α) : Attempt α :=
  ExceptT.mk (pure result)

@[simp]
theorem outcome_pure (value : α) : (pure value : Attempt α).outcome = .ok value :=
  rfl

@[simp]
theorem outcome_throw (cause : Error) : (throw cause : Attempt α).outcome = .error cause :=
  rfl

@[simp]
theorem outcome_ofTraced (computation : Traced α) :
    (ofTraced computation).outcome = .ok computation.value :=
  rfl

@[simp]
theorem outcome_ofExcept (result : Except Error α) : (ofExcept result).outcome = result :=
  rfl

@[simp]
theorem outcome_bind {β : Type} (first : Attempt α) (next : α → Attempt β) :
    (first >>= next).outcome = first.outcome >>= fun value => (next value).outcome := by
  simp only [outcome, ExceptT.run_bind, Traced.value_bind]
  cases first.run.value <;> rfl

/-- A computation in two steps stops in the first or, after a result of that, in the second. -/
theorem outcome_bind_eq_error {β : Type} {first : Attempt α} {next : α → Attempt β}
    {cause : Error} :
    (first >>= next).outcome = .error cause ↔
      first.outcome = .error cause ∨
        ∃ value, first.outcome = .ok value ∧ (next value).outcome = .error cause := by
  rw [outcome_bind]
  cases first.outcome <;> simp [bind, Except.bind]

end Attempt

end TextTemplate
