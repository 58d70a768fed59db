import TableDdl.Log.Event

/-!
# Outcomes of computations that can fail

When a computation made of smaller ones succeeds, and when it fails. These lemmas take a reading
apart into the readings of its parts.
-/

namespace TableDdl.Outcome

variable {ε ε' α β : Type} {x : Except ε α} {f : α → Except ε β} {g : α → β} {h : ε → ε'}

theorem ok_bind (a : α) (f : α → Except ε β) : (Except.ok a >>= f) = f a := rfl

theorem ok_map (a : α) (g : α → β) : g <$> (Except.ok a : Except ε α) = .ok (g a) := rfl

theorem bind_eq_ok_iff {b : β} : x >>= f = .ok b ↔ ∃ a, x = .ok a ∧ f a = .ok b := by
  cases x <;> simp [bind, Except.bind]

theorem bind_eq_error_iff {e : ε} :
    x >>= f = .error e ↔ x = .error e ∨ ∃ a, x = .ok a ∧ f a = .error e := by
  cases x <;> simp [bind, Except.bind]

theorem map_eq_ok_iff {b : β} : g <$> x = .ok b ↔ ∃ a, x = .ok a ∧ g a = b := by
  cases x <;> simp [Functor.map, Except.map]

theorem map_eq_error_iff {e : ε} : g <$> x = .error e ↔ x = .error e := by
  cases x <;> simp [Functor.map, Except.map]

theorem mapError_eq_ok_iff {a : α} : x.mapError h = .ok a ↔ x = .ok a := by
  cases x with
  | error e =>
    constructor <;>
    · intro eq
      cases eq
  | ok b => rw [show (Except.ok b : Except ε α).mapError h = .ok b from rfl, Except.ok.injEq,
      Except.ok.injEq]

theorem mapError_eq_error_iff {e' : ε'} :
    x.mapError h = .error e' ↔ ∃ e, x = .error e ∧ h e = e' := by
  cases x with
  | error e =>
    rw [show (Except.error e : Except ε α).mapError h = .error (h e) from rfl, Except.error.injEq]
    simp only [Except.error.injEq, exists_eq_left']
  | ok a =>
    apply iff_of_false <;>
    · intro failed
      rcases failed with ⟨_, ⟨⟩, _⟩

theorem mapError_ok (a : α) : (Except.ok a : Except ε α).mapError h = .ok a := rfl

theorem mapError_map : (g <$> x).mapError h = g <$> x.mapError h := by
  cases x <;> rfl

theorem mapError_bind : (x >>= f).mapError h = x.mapError h >>= fun a => (f a).mapError h := by
  cases x <;> rfl

/-- What each step keeps, a run keeps. -/
theorem foldlM_invariant {step : α → β → Except ε α} {inv : α → Prop} {bs : List β} {a a' : α}
    (keeps : ∀ b ∈ bs, ∀ a a', inv a → step a b = .ok a' → inv a') (start : inv a)
    (run : bs.foldlM step a = .ok a') : inv a' := by
  induction bs generalizing a with
  | nil =>
    cases run
    exact start
  | cons b bs ih =>
    rw [List.foldlM_cons] at run
    obtain ⟨middle, first, others⟩ := bind_eq_ok_iff.mp run
    exact ih (fun b mem => keeps b (List.mem_cons_of_mem _ mem))
      (keeps b List.mem_cons_self a middle start first) others

/-! ## The error of a computation -/

/-- The error of a computation that fails. -/
def error? : Except ε α → Option ε
  | .error e => some e
  | .ok _ => none

theorem error?_eq_some_iff {e : ε} : error? x = some e ↔ x = .error e := by
  cases x <;> simp [error?]

theorem error?_map : error? (g <$> x) = error? x := by
  cases x <;> rfl

theorem error?_mapError : error? (x.mapError h) = (error? x).map h := by
  cases x <;> rfl

/-- A computation whose second part fails in the same way whatever the first one gives. -/
theorem error?_bind {o : Option ε} (same : ∀ a, error? (f a) = o) :
    error? (x >>= f) = (error? x).or o := by
  cases x with
  | error e => rfl
  | ok a => exact same a

/-- A computation whose second part cannot fail. -/
theorem error?_bind_ok : error? (x >>= fun a => .ok (g a)) = error? x := by
  cases x <;> rfl

/-! ## Computations that report -/

theorem outcome_ofExcept (x : Except ε α) : (Traced.ofExcept x).outcome = x := rfl

section Events

variable {y : Traced ε α} {k : α → Traced ε β}

/-- What is reported after a success follows what was reported before it. -/
theorem events_bind_of_ok {a : α} (done : y.outcome = .ok a) :
    (y >>= k).events = y.events ++ (k a).events := by
  show (Traced.bind y k).events = _
  rw [Traced.bind, done]

/-- After a failure nothing more is reported. -/
theorem events_bind_of_error {e : ε} (failed : y.outcome = .error e) :
    (y >>= k).events = y.events := by
  show (Traced.bind y k).events = _
  rw [Traced.bind, failed]

/-- What does not report leaves the events as they are. -/
theorem events_bind_of_silent (silent : ∀ a, (k a).events = []) :
    (y >>= k).events = y.events := by
  cases done : y.outcome with
  | error e => exact events_bind_of_error done
  | ok a => rw [events_bind_of_ok done, silent, List.append_nil]

end Events

end TableDdl.Outcome
