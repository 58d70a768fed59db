import TableDdl.Platform.ControlSequence
import TableDdl.Proofs.Command.Toolkit

/-!
# Texts without control sequences

Leaving out control sequences takes points away and adds none, and it leaves a text without an
escape as it is.
-/

namespace TableDdl

namespace Text

theorem leaveOutControlSequences_sublist (skipped : Nat) (t : Text) :
    (leaveOutControlSequences skipped t).Sublist t := by
  induction t generalizing skipped with
  | nil => rw [leaveOutControlSequences]
  | cons p rest ih =>
    cases skipped with
    | succ skipped => exact (ih skipped).cons p
    | zero =>
      rw [leaveOutControlSequences]
      split
      · exact (ih _).cons p
      · exact (ih 0).cons_cons p

theorem withoutControlSequences_sublist (t : Text) : (withoutControlSequences t).Sublist t :=
  leaveOutControlSequences_sublist 0 t

theorem controlSequenceLength?_cons {p : CodePoint} (other : p ≠ escape) (rest : Text) :
    controlSequenceLength? (p :: rest) = none := by
  unfold controlSequenceLength?
  split
  · rename_i same
    exact absurd (List.cons.inj same).1 other
  · rfl

/-- A text without an escape in it is printed as it is. -/
theorem withoutControlSequences_eq_self {t : Text} (noEscape : escape ∉ t) :
    withoutControlSequences t = t := by
  rw [withoutControlSequences]
  induction t with
  | nil => rfl
  | cons p rest ih =>
    have other : p ≠ escape := (List.ne_of_not_mem_cons noEscape).symm
    rw [leaveOutControlSequences, controlSequenceLength?_cons other]
    exact congrArg _ (ih (List.not_mem_of_not_mem_cons noEscape))

end Text

end TableDdl
