import TableDdl.Proofs.Json.Quotation

/-!
# Texts that can be written

A text has bytes in UTF-8 exactly if it is a row of characters. An escape is one, but it makes a
terminal read what follows as a control sequence.
-/

namespace TableDdl

open Json

/-- The code point that a control sequence starts with. -/
def Text.escape : CodePoint := .scalar '\x1b'

theorem Text.isSome_chars?_iff {t : Text} : t.chars?.isSome ↔ IsScalar t := by
  induction t with
  | nil => simp [chars?, IsScalar]
  | cons p rest ih =>
    rw [IsScalar, List.forall_mem_cons, ← IsScalar, ← ih, chars?, List.mapM_cons, ← chars?]
    cases p.char? <;> cases Text.chars? rest <;> simp

namespace Utf8

theorem isScalar_of_firstRefused? {t : Text} {position : Nat}
    (accepted : firstRefused? (·.char?.isSome) position t = none) : IsScalar t := by
  induction t generalizing position with
  | nil => exact fun _ mem => absurd mem List.not_mem_nil
  | cons p rest ih =>
    rw [firstRefused?] at accepted
    split at accepted
    · rename_i scalar
      exact List.forall_mem_cons.mpr ⟨scalar, ih accepted⟩
    · cases accepted

/-- A text has bytes exactly if there is no surrogate in it. -/
theorem encodeText_eq_ok_iff {t : Text} {bytes : List UInt8} :
    encodeText t = .ok bytes ↔ IsScalar t ∧ bytes = encode (t.filterMap CodePoint.char?) := by
  unfold encodeText
  constructor
  · intro written
    split at written
    · cases written
    · rename_i accepted
      cases written
      exact ⟨isScalar_of_firstRefused? accepted, rfl⟩
  · rintro ⟨scalar, rfl⟩
    rw [firstRefused?_eq_none scalar]

theorem encodeText_of_isScalar {t : Text} (scalar : IsScalar t) :
    ∃ bytes, encodeText t = .ok bytes :=
  ⟨_, encodeText_eq_ok_iff.mpr ⟨scalar, rfl⟩⟩

end Utf8

namespace Json.IsScalar

variable {t u : Text}

theorem append (first : IsScalar t) (second : IsScalar u) : IsScalar (t ++ u) :=
  List.forall_mem_append.mpr ⟨first, second⟩

theorem ofString (s : String) : IsScalar (Text.ofString s) :=
  isScalar_map_scalar s.toList

end Json.IsScalar

end TableDdl
