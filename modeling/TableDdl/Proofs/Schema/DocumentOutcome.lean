import TableDdl.Proofs.Schema.Level

/-!
# What the reading of a document comes to

The reading of a document reports events. These equations give its outcome alone, as a computation
that reports nothing: that of a column, of the columns, and of a document in each of its forms.
-/

namespace TableDdl.Schema

open Outcome

variable {overlay : Option Overlay} {members : Json.Members}

/-! ## Columns -/

theorem columnOf_outcome (overlay : Option Overlay) (key : Text) (definition : Json) :
    (columnOf overlay key definition).outcome =
      match Overlay.replacement? overlay key with
      | .error fault => .error ⟨[.field key], fault⟩
      | .ok none => (key, ·) <$> (Step.field key).inside (typeOf definition)
      | .ok (some (name, replacement)) =>
        (name, ·) <$> (Step.field name).inside (typeOf replacement) := by
  unfold columnOf
  rcases Overlay.replacement? overlay key with fault | _ | ⟨name, replacement⟩ <;> rfl

theorem columnsOf_outcome_singleton (overlay : Option Overlay) (key : Text) (definition : Json) :
    (columnsOf overlay [(key, definition)]).outcome =
      (fun column => .last column.1 column.2) <$> (columnOf overlay key definition).outcome := by
  rw [columnsOf, Traced.outcome_bind]
  cases (columnOf overlay key definition).outcome <;> rfl

theorem columnsOf_outcome_cons (overlay : Option Overlay) (key : Text) (definition : Json)
    (next : Text × Json) (rest : Json.Members) :
    (columnsOf overlay ((key, definition) :: next :: rest)).outcome =
      (do
        let column ← (columnOf overlay key definition).outcome
        .more column.1 column.2 <$> (columnsOf overlay (next :: rest)).outcome) := by
  rw [columnsOf, Traced.outcome_bind]
  cases (columnOf overlay key definition).outcome with
  | error placed => rfl
  | ok column =>
    show (columnsOf overlay (next :: rest) >>= _).outcome = _
    rw [Traced.outcome_bind]
    show _ = _ <$> (columnsOf overlay (next :: rest)).outcome
    cases (columnsOf overlay (next :: rest)).outcome <;> rfl

/-! ## Documents -/

/-- The record of a grouping whose members are replaced by an overlay. -/
def groupingOf (overlay : Option Overlay) (members : Json.Members) : Except PlacedFault Record := do
  let inner ← (groupingMembers members).mapError (⟨[], ·⟩)
  let fields ← (columnsOf overlay inner).outcome
  .ok ⟨.implicit, fields⟩

/-- The record of an explicit object. -/
def explicitOf (members : Json.Members) : Except PlacedFault Record := do
  let properties ← (propertiesOf .object members).mapError (⟨[], ·⟩)
  let fields ← fieldsOf properties
  .ok ⟨.explicit, fields⟩

theorem recordOf_outcome_of_untyped (untyped : IsUntyped members) :
    (recordOf overlay (.object members)).outcome =
      (groupingOf overlay members).mapError (PlacedFault.toError []) := by
  simp only [recordOf, typeWord?_eq_none_iff.2 untyped, Traced.outcome_mapError,
    Traced.outcome_bind, outcome_ofExcept, Traced.outcome_pure]
  rfl

theorem typeWord?_of_text {word : Text} (typed : members.get? "type" = some (.text word)) :
    typeWord? members = some (.text word) :=
  typeWord?_eq_some_iff.2 ⟨typed, nofun⟩

/-- An explicit object is read without the overlay. -/
theorem recordOf_outcome_of_object (typed : members.get? "type" = some (.text "object")) :
    (recordOf overlay (.object members)).outcome =
      (explicitOf members).mapError (PlacedFault.toError []) := by
  have keyword : keywordOf (.text "object") = .ok .object := keywordOf_eq_ok_iff.2 rfl
  simp only [recordOf, typeWord?_of_text typed, keyword, Traced.outcome_mapError,
    Traced.outcome_bind, outcome_ofExcept, Traced.outcome_pure]
  have reported : (reportSkipped overlay).outcome = .ok () := by
    unfold reportSkipped
    split <;> rfl
  rw [reported]
  rfl

end TableDdl.Schema
