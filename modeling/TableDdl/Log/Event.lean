import TableDdl.Text.Basic

/-!
# Log events

What a run reports about itself. A computation that reports is a list of events together with its
outcome, so that what is logged can be stated and the outcome does not depend on it.
-/

namespace TableDdl

/-- What is reported: a schema document of some size was read from a file, a column was replaced, an
overlay does not apply to an explicit object, some columns were compiled, or a command starts. -/
inductive Event where
  | documentLoaded (file : Text) (size : Nat)
  | overlayApplied (column replacement : Text)
  | overlaySkipped
  | columnsCompiled (count : Nat)
  | compiling (file : Text)
  | rendering (table : Text)
  deriving DecidableEq, Repr

/-- A computation that reports events, in order, and succeeds or fails. -/
structure Traced (ε α : Type) where
  events : List Event
  outcome : Except ε α

namespace Traced

variable {ε ε' α β : Type}

/-- An outcome without events. -/
def ofExcept (outcome : Except ε α) : Traced ε α := ⟨[], outcome⟩

/-- Reports an event. -/
def emit (event : Event) : Traced ε Unit := ⟨[event], .ok ()⟩

/-- Fails without an event. -/
def fail (error : ε) : Traced ε α := ⟨[], .error error⟩

/-- Goes on with the result of a computation; after a failure nothing more is reported. -/
def bind (x : Traced ε α) (f : α → Traced ε β) : Traced ε β :=
  match x.outcome with
  | .error error => ⟨x.events, .error error⟩
  | .ok a => ⟨x.events ++ (f a).events, (f a).outcome⟩

/-- Changes the error of a failure. -/
def mapError (f : ε → ε') (x : Traced ε α) : Traced ε' α :=
  ⟨x.events, x.outcome.mapError f⟩

instance : Monad (Traced ε) where
  pure a := ⟨[], .ok a⟩
  bind := bind

/-! The outcome of a computation does not depend on what is reported, and what is reported after a
success follows what was reported before it. -/

@[simp] theorem outcome_pure (a : α) : (pure a : Traced ε α).outcome = .ok a := rfl

@[simp] theorem outcome_emit (event : Event) : (emit event : Traced ε Unit).outcome = .ok () := rfl

@[simp] theorem outcome_bind (x : Traced ε α) (f : α → Traced ε β) :
    (x >>= f).outcome = x.outcome >>= fun a => (f a).outcome := by
  show (Traced.bind x f).outcome = _
  unfold Traced.bind
  cases x.outcome <;> rfl

@[simp] theorem outcome_mapError (f : ε → ε') (x : Traced ε α) :
    (x.mapError f).outcome = x.outcome.mapError f := rfl

end Traced

end TableDdl
