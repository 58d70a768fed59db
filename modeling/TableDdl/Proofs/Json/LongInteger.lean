import TableDdl.Proofs.Json.ReadValue
import TableDdl.Proofs.Json.Written

/-!
# Integers that are too long

The reader gives up on an integer with too many digits. It does so at a token of the text, and the
digits of this token stand in the text in a row. A number that is written with too many digits is
such a text.
-/

namespace TableDdl.Json

open Outcome

/-- The test for a text with a number of digits in a row that is more than are read. -/
def HasLongInteger (t : Text) (n : Nat) : Prop :=
  maxIntegerDigits < n ∧ ∃ digits, digits <:+: t ∧ digits.length = n ∧ ∀ p ∈ digits, p.isDigit

variable {t rest : Text} {n : Nat}

theorem HasLongInteger.of_suffix (long : HasLongInteger rest n) (suffix : rest <:+ t) :
    HasLongInteger t n := by
  obtain ⟨more, digits, inside, length, all⟩ := long
  exact ⟨more, digits, inside.trans suffix.isInfix, length, all⟩

/-! ## Tokens -/

theorem hasLongInteger_of_scanSigned? (found : scanSigned? t = some (.long n, rest)) :
    HasLongInteger t n := by
  obtain ⟨-, rfl, ⟨negative, digits, ⟨sign, rfl, -, whole⟩, eq⟩ | ⟨m, -, eq⟩⟩ :=
    text_of_scanSigned? found
  · unfold ScannedNumber.ofDigits at eq
    split at eq
    · rename_i long
      cases eq
      obtain ⟨-, -, -, -, all⟩ := whole.front
      exact ⟨long, digits, List.infix_append sign digits rest, rfl, all⟩
    · cases eq
  · cases eq

theorem hasLongInteger_of_scanAtom? (found : scanAtom? t = some (.longInteger n, rest)) :
    HasLongInteger t n := by
  unfold scanAtom? at found
  split at found
  · rename_i word
    cases found
    obtain ⟨entry, -, isAtom, -⟩ := mem_of_scanWord? word
    cases isAtom
  · obtain ⟨⟨number, after⟩, scanned, eq⟩ := Option.map_eq_some_iff.mp found
    cases number with
    | value v => cases eq
    | long digits =>
      cases eq
      exact hasLongInteger_of_scanSigned? scanned

theorem hasLongInteger_of_scanToken {p : CodePoint}
    (found : (scanToken p t).1 = .longInteger n) : HasLongInteger (p :: t) n := by
  unfold scanToken at found
  split at found
  iterate 6 cases found
  · split at found <;> cases found
  · cases scanned : scanAtom? (p :: t) with
    | none =>
      rw [scanned] at found
      cases found
    | some token =>
      obtain ⟨lexeme, after⟩ := token
      rw [scanned] at found
      obtain rfl : lexeme = .longInteger n := found
      exact hasLongInteger_of_scanAtom? scanned

theorem suffix_of_scanPieces {opening after : Text} {pieces : List Piece}
    (found : scanPieces opening t = .ok (pieces, after)) : after <:+ t := by
  fun_induction scanPieces opening t generalizing pieces with
  | case1 | case3 | case5 | case6 | case8 | case9 => cases found
  | case2 rest =>
    cases found
    exact List.suffix_cons _ _
  | case4 a b c d e more n hex ih =>
    obtain ⟨⟨ps, rest⟩, inner, eq⟩ := map_eq_ok_iff.mp found
    cases eq
    exact (ih inner).trans ⟨[_, _, _, _, _, _], rfl⟩
  | case7 e more _ _ c short ih =>
    obtain ⟨⟨ps, rest⟩, inner, eq⟩ := map_eq_ok_iff.mp found
    cases eq
    exact (ih inner).trans ⟨[_, _], rfl⟩
  | case10 p rest _ _ _ ih =>
    obtain ⟨⟨ps, after⟩, inner, eq⟩ := map_eq_ok_iff.mp found
    cases eq
    exact (ih inner).trans (List.suffix_cons _ _)

theorem scanToken_suffix (p : CodePoint) (t : Text) : (scanToken p t).2 <:+ p :: t := by
  have rest := List.suffix_cons p t
  unfold scanToken
  split
  iterate 6 exact rest
  · split
    · rename_i found
      exact (suffix_of_scanPieces found).trans rest
    · exact List.nil_suffix
  · cases found : scanAtom? (p :: t) with
    | none => exact List.nil_suffix
    | some scanned => exact suffix_of_scanAtom? found

theorem hasLongInteger_of_mem_tokens :
    ∀ token ∈ tokens t, token.lexeme = .longInteger n → HasLongInteger t n := by
  fun_induction tokens t with
  | case1 => exact fun token mem => absurd mem List.not_mem_nil
  | case2 first rest blank ih =>
    exact fun token mem long => (ih token mem long).of_suffix (List.suffix_cons _ _)
  | case3 first rest dark ih =>
    intro token mem long
    rcases List.mem_cons.mp mem with rfl | mem
    · exact hasLongInteger_of_scanToken long
    · exact (ih token mem long).of_suffix (scanToken_suffix first rest)

/-! ## The machine -/

section Machine

variable {token : Token}

theorem lexeme_of_stepValue {frames : List Frame}
    (refused : stepValue frames token = .error (.longInteger n)) :
    token.lexeme = .longInteger n := by
  unfold stepValue at refused
  split at refused <;> cases refused
  assumption

theorem stepKey_ne_longInteger (members : Members) (frames : List Frame) :
    stepKey members frames token ≠ .error (.longInteger n) := by
  intro refused
  unfold stepKey at refused
  split at refused <;> cases refused

theorem stepComplete_ne_longInteger (value : Json) (frames : List Frame) :
    stepComplete value frames token ≠ .error (.longInteger n) := by
  intro refused
  unfold stepComplete at refused
  split at refused
  · cases refused
  · split at refused <;> cases refused
  · split at refused <;> cases refused

/-- The machine gives up on an integer at the token of this integer only. -/
theorem lexeme_of_step {state : State} (refused : state.step token = .error (.longInteger n)) :
    token.lexeme = .longInteger n := by
  cases state with
  | needValue frames => exact lexeme_of_stepValue refused
  | needItem frames =>
    simp only [State.step] at refused
    split at refused
    · cases refused
    · exact lexeme_of_stepValue refused
  | needMember frames =>
    simp only [State.step] at refused
    split at refused
    · cases refused
    · exact absurd refused (stepKey_ne_longInteger _ _)
  | needKey members frames => exact absurd refused (stepKey_ne_longInteger members frames)
  | needColon members key frames =>
    simp only [State.step] at refused
    split at refused <;> cases refused
  | complete value frames => exact absurd refused (stepComplete_ne_longInteger value frames)

theorem finish_ne_longInteger (state : State) : state.finish ≠ .error (.longInteger n) := by
  intro refused
  unfold State.finish at refused
  split at refused <;> cases refused

/-- A run that gives up on an integer has met the token of this integer. -/
theorem exists_token_of_run {ts : List Token} {state : State}
    (refused : state.run ts = .error (.longInteger n)) :
    ∃ token ∈ ts, token.lexeme = .longInteger n := by
  induction ts generalizing state with
  | nil => exact absurd refused (finish_ne_longInteger state)
  | cons token ts ih =>
    rw [State.run, List.foldlM_cons, bind_assoc] at refused
    rcases bind_eq_error_iff.mp refused with here | ⟨next, -, later⟩
    · exact ⟨token, List.mem_cons_self, lexeme_of_step here⟩
    · obtain ⟨other, mem, long⟩ := ih later
      exact ⟨other, List.mem_cons_of_mem _ mem, long⟩

end Machine

theorem mapError_locate_eq_longInteger_iff {α : Type} {x : Except Refusal α} :
    x.mapError (Refusal.locate t) = .error (.longInteger n) ↔ x = .error (.longInteger n) := by
  rcases x with (flaw | digits) | value <;> simp [Except.mapError, Refusal.locate]

/-- An integer that the reader gives up on stands in the text. -/
theorem hasLongInteger_of_read (refused : read t = .error (.longInteger n)) :
    HasLongInteger t n := by
  unfold read at refused
  split at refused
  · cases refused
  · obtain ⟨token, mem, long⟩ :=
      exists_token_of_run (mapError_locate_eq_longInteger_iff.mp refused)
    exact hasLongInteger_of_mem_tokens token mem long

/-! ## Long numbers -/

/-- A number with too many digits is one token. -/
theorem tokens_ofNat_of_long (long : maxIntegerDigits < (Text.ofNat n).length) :
    tokens (Text.ofNat n) = [⟨.longInteger (Text.ofNat n).length, Text.ofNat n⟩] := by
  have ends : EndsNumber [] := fun p mem => absurd mem (Option.not_mem_none p)
  have scanned := scanSigned?_integer (isIntegerText_ofNat n) ends
  rw [List.append_nil] at scanned
  rw [tokens_of_scanSigned? scanned, ScannedNumber.ofDigits, if_pos long, ScannedNumber.lexeme,
    tokens]

/-- A number with too many digits is refused. -/
theorem read_ofNat_of_long (long : maxIntegerDigits < (Text.ofNat n).length) :
    read (Text.ofNat n) = .error (.longInteger (Text.ofNat n).length) := by
  unfold read
  split
  · rename_i rest eq
    have mark : CodePoint.isDigit (.scalar '\ufeff') :=
      Text.isDigit_of_mem_ofNat (n := n) (eq ▸ List.mem_cons_self)
    cases mark
  · rw [tokens_ofNat_of_long long]
    rfl

end TableDdl.Json
