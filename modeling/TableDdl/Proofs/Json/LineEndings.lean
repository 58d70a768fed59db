import TableDdl.Proofs.Json.Atoms
import TableDdl.Proofs.Json.LongInteger

/-!
# Line endings

A text is read to the same value when its line endings are made line feeds. The tokens of the two
texts correspond one by one: a token cannot hold a carriage return, and a line ending between two
tokens is white space in either form. Only the places of complaints move, since the texts have
different lengths. So the two runs of the reader correspond step by step (`read_unifyLines`).
-/

namespace TableDdl.Json

open Outcome

/-- The text with a line feed for every carriage return and for every carriage return with a line
feed after it. -/
def unifyLines : Text → Text
  | [] => []
  | .scalar '\r' :: .scalar '\n' :: rest => .scalar '\n' :: unifyLines rest
  | .scalar '\r' :: rest => .scalar '\n' :: unifyLines rest
  | p :: rest => p :: unifyLines rest

theorem unifyLines_cons {p : CodePoint} (noReturn : p ≠ .scalar '\r') (t : Text) :
    unifyLines (p :: t) = p :: unifyLines t := by
  rw [unifyLines]
  · intro rest same
    exact absurd same noReturn
  · exact noReturn

/-- A carriage return becomes a line feed, and takes one after it with it. -/
theorem unifyLines_return (t : Text) :
    ∃ rest, unifyLines (.scalar '\r' :: t) = .scalar '\n' :: rest ∧
      (rest = unifyLines t ∨ unifyLines t = .scalar '\n' :: rest) := by
  cases t with
  | nil => exact ⟨[], rfl, Or.inl rfl⟩
  | cons p t =>
    by_cases feed : p = .scalar '\n'
    · rw [feed]
      exact ⟨unifyLines t, rfl, Or.inr (unifyLines_cons (by decide) t)⟩
    · refine ⟨unifyLines (p :: t), ?_, Or.inl rfl⟩
      rw [unifyLines]
      intro rest same
      exact feed (List.cons.inj same).1

/-- What begins with no line feed after the line endings are unified began with it before. -/
theorem eq_cons_of_unifyLines {p : CodePoint} {t rest : Text} (noFeed : p ≠ .scalar '\n')
    (eq : unifyLines t = p :: rest) : ∃ rest', t = p :: rest' ∧ unifyLines rest' = rest := by
  cases t with
  | nil => cases eq
  | cons q t =>
    by_cases isReturn : q = .scalar '\r'
    · obtain ⟨after, unified, -⟩ := unifyLines_return t
      rw [isReturn, unified] at eq
      exact absurd (List.cons.inj eq).1.symm noFeed
    · rw [unifyLines_cons isReturn] at eq
      obtain ⟨same, rest_eq⟩ := List.cons.inj eq
      exact ⟨t, by rw [same], rest_eq⟩

theorem unifyLines_ne_nil {t : Text} (more : t ≠ []) : unifyLines t ≠ [] := by
  obtain ⟨p, t, rfl⟩ := List.exists_cons_of_ne_nil more
  by_cases isReturn : p = .scalar '\r'
  · obtain ⟨rest, unified, -⟩ := unifyLines_return t
    rw [isReturn, unified]
    exact List.cons_ne_nil _ _
  · rw [unifyLines_cons isReturn]
    exact List.cons_ne_nil _ _

/-- The test for a text without line endings. -/
def IsOneLine (t : Text) : Prop :=
  ∀ p ∈ t, p ≠ .scalar '\r' ∧ p ≠ .scalar '\n'

theorem unifyLines_append {line : Text} (oneLine : IsOneLine line) (t : Text) :
    unifyLines (line ++ t) = line ++ unifyLines t := by
  induction line with
  | nil => rfl
  | cons p line ih =>
    rw [List.cons_append, unifyLines_cons (oneLine p List.mem_cons_self).1,
      ih fun q mem => oneLine q (List.mem_cons_of_mem _ mem), List.cons_append]

theorem eq_append_of_unifyLines {line t rest : Text} (oneLine : IsOneLine line)
    (eq : unifyLines t = line ++ rest) : ∃ rest', t = line ++ rest' ∧ unifyLines rest' = rest := by
  induction line generalizing t with
  | nil => exact ⟨t, rfl, eq⟩
  | cons p line ih =>
    obtain ⟨t, rfl, inner⟩ := eq_cons_of_unifyLines (oneLine p List.mem_cons_self).2 eq
    obtain ⟨rest', rfl, after⟩ := ih (fun q mem => oneLine q (List.mem_cons_of_mem _ mem)) inner
    exact ⟨rest', rfl, after⟩

/-! ## Tokens -/

/-- A flaw of a text, as it is in the text with unified line endings. -/
def Flaw.unifyLines (flaw : Flaw) : Flaw :=
  ⟨flaw.complaint, Json.unifyLines flaw.rest⟩

/-- The content of a token, as it is in the text with unified line endings. -/
def Lexeme.unifyLines : Lexeme → Lexeme
  | .flawed flaw => .flawed flaw.unifyLines
  | lexeme => lexeme

/-- A token, as it is in the text with unified line endings. -/
def Token.unifyLines (token : Token) : Token :=
  ⟨token.lexeme.unifyLines, Json.unifyLines token.rest⟩

/-- A line ending stands for white space in either form. -/
theorem keepsAtoms_unifyLines : KeepsAtoms unifyLines where
  cons p t inside := by
    refine unifyLines_cons ?_ t
    intro isReturn
    rw [isReturn] at inside
    cases inside
  ends t ends := by
    cases t with
    | nil => exact endsToken_nil
    | cons p t =>
      by_cases isReturn : p = .scalar '\r'
      · obtain ⟨rest, unified, -⟩ := unifyLines_return t
        rw [isReturn, unified]
        exact endsToken_cons rfl rest
      · rw [unifyLines_cons isReturn]
        exact endsToken_cons (ends p rfl) (unifyLines t)

/-! ## Quotations -/

/-- What follows the letter of an escape by number does not hold four digits with something after
them. -/
def IsNoUnit (t : Text) : Prop :=
  ∀ a b c d e more, t = a :: b :: c :: d :: e :: more → unitOfHex? a b c d = none

theorem scanPieces_noUnit {t : Text} (noUnit : IsNoUnit t) (opening : Text) :
    scanPieces opening (.scalar '\\' :: .scalar 'u' :: t) =
      .error ⟨.unicodeEscape, .scalar 'u' :: t⟩ := by
  by_cases five : ∃ a b c d e more, t = a :: b :: c :: d :: e :: more
  · obtain ⟨a, b, c, d, e, more, rfl⟩ := five
    rw [scanPieces, noUnit a b c d e more rfl]
  · rw [scanPieces]
    intro a b c d e more eq
    exact five ⟨a, b, c, d, e, more, eq⟩

theorem scanPieces_noEscape {p : CodePoint} (noShort : shortEscape? p = none)
    (noUnit : p ≠ .scalar 'u') (opening more : Text) :
    scanPieces opening (.scalar '\\' :: p :: more) =
      .error ⟨.escape, .scalar '\\' :: p :: more⟩ := by
  rw [scanPieces]
  · rw [noShort]
  · intro _ _ _ _ _ _ unit
    exact absurd unit noUnit
  · exact noUnit

theorem scanPieces_control {p : CodePoint} (control : p.value < 0x20) (opening more : Text) :
    scanPieces opening (p :: more) = .error ⟨.control, p :: more⟩ := by
  rw [scanPieces]
  · rw [if_pos control]
  · intro quote
    rw [quote] at control
    exact absurd control (by decide)
  · intro escape
    rw [escape] at control
    exact absurd control (by decide)

/-- Hexadecimal digits are no part of a line ending. -/
theorem oneLine_of_hexDigit? {p : CodePoint} {n : Nat} (digit : Text.hexDigit? p = some n) :
    p ≠ .scalar '\r' ∧ p ≠ .scalar '\n' := by
  constructor <;>
  · intro same
    rw [same] at digit
    cases digit

theorem isOneLine_of_unitOfHex? {a b c d : CodePoint} {n : Nat}
    (unit : unitOfHex? a b c d = some n) : IsOneLine [a, b, c, d] := by
  obtain ⟨na, first, unit⟩ := Option.bind_eq_some_iff.mp unit
  obtain ⟨nb, second, unit⟩ := Option.bind_eq_some_iff.mp unit
  obtain ⟨nc, third, unit⟩ := Option.bind_eq_some_iff.mp unit
  obtain ⟨nd, fourth, -⟩ := Option.bind_eq_some_iff.mp unit
  simp only [IsOneLine, List.forall_mem_cons]
  exact ⟨oneLine_of_hexDigit? first, oneLine_of_hexDigit? second, oneLine_of_hexDigit? third,
    oneLine_of_hexDigit? fourth, List.forall_mem_nil _⟩

/-- Unifying line endings makes no escape by number out of what is none. -/
theorem IsNoUnit.unifyLines {t : Text} (noUnit : IsNoUnit t) : IsNoUnit (unifyLines t) := by
  intro a b c d e more eq
  by_contra hex
  obtain ⟨n, unit⟩ := Option.ne_none_iff_exists'.mp hex
  have eq : Json.unifyLines t = [a, b, c, d] ++ e :: more := eq
  obtain ⟨after, rfl, unified⟩ := eq_append_of_unifyLines (isOneLine_of_unitOfHex? unit) eq
  cases after with
  | nil => cases unified
  | cons e' more' => exact hex (noUnit a b c d e' more' rfl)

/-- A quotation with unified line endings is read to the same pieces, or has the same flaw. -/
theorem scanPieces_unifyLines (opening t : Text) :
    scanPieces (unifyLines opening) (unifyLines t) =
      (fun (pieces, after) => (pieces, unifyLines after)) <$>
        (scanPieces opening t).mapError Flaw.unifyLines := by
  have numbered : ∀ t, unifyLines (.scalar '\\' :: .scalar 'u' :: t) =
      .scalar '\\' :: .scalar 'u' :: unifyLines t := by
    intro t
    rw [unifyLines_cons (by decide), unifyLines_cons (by decide)]
  have flaw : ∀ t, IsNoUnit t →
      scanPieces (unifyLines opening) (unifyLines (.scalar '\\' :: .scalar 'u' :: t)) =
        .error (Flaw.unifyLines ⟨.unicodeEscape, .scalar 'u' :: t⟩) := by
    intro t noUnit
    rw [numbered, scanPieces_noUnit noUnit.unifyLines, Flaw.unifyLines, unifyLines_cons (by decide)]
  fun_induction scanPieces opening t with
  | case1 => rfl
  | case2 rest =>
    rw [unifyLines_cons (by decide)]
    rfl
  | case3 => rfl
  | case4 a b c d e more n hex ih =>
    have digits : unifyLines (a :: b :: c :: d :: e :: more) =
        a :: b :: c :: d :: unifyLines (e :: more) :=
      unifyLines_append (isOneLine_of_unitOfHex? hex) (e :: more)
    obtain ⟨e', more', unified⟩ := List.exists_cons_of_ne_nil
      (unifyLines_ne_nil (List.cons_ne_nil e more))
    rw [numbered, digits, unified, scanPieces, hex]
    simp only [← unified, ih]
    cases scanPieces opening (e :: more) <;> rfl
  | case5 a b c d e more hex =>
    rw [flaw]
    · rfl
    · intro _ _ _ _ _ _ eq
      cases eq
      exact hex
  | case6 t short =>
    rw [flaw]
    · rfl
    · exact fun a b c d e more eq => absurd eq (short a b c d e more)
  | case7 e more _ _ c short ih =>
    have noReturn : e ≠ .scalar '\r' := by
      intro same
      rw [same] at short
      cases short
    rw [unifyLines_cons (by decide), unifyLines_cons noReturn, scanPieces_shortEscape short, ih]
    cases scanPieces opening more <;> rfl
  | case8 e more _ noUnit noShort =>
    have same : scanPieces (unifyLines opening) (unifyLines (.scalar '\\' :: e :: more)) =
        .error ⟨.escape, unifyLines (.scalar '\\' :: e :: more)⟩ := by
      rw [unifyLines_cons (by decide)]
      by_cases isReturn : e = .scalar '\r'
      · obtain ⟨rest, unified, -⟩ := unifyLines_return more
        rw [isReturn, unified, scanPieces_noEscape rfl (by decide)]
      · rw [unifyLines_cons isReturn, scanPieces_noEscape noShort noUnit]
    exact same
  | case9 p rest noQuote noEscape control =>
    have same : scanPieces (unifyLines opening) (unifyLines (p :: rest)) =
        .error ⟨.control, unifyLines (p :: rest)⟩ := by
      by_cases isReturn : p = .scalar '\r'
      · obtain ⟨rest', unified, -⟩ := unifyLines_return rest
        rw [isReturn, unified, scanPieces_control (by decide)]
      · rw [unifyLines_cons isReturn, scanPieces_control control]
    exact same
  | case10 p rest noQuote noEscape visible ih =>
    have noReturn : p ≠ .scalar '\r' := by
      intro same
      rw [same] at visible
      exact visible (by decide)
    rw [unifyLines_cons noReturn,
      scanPieces_visible (Nat.le_of_not_lt visible) noQuote noEscape, ih]
    cases scanPieces opening rest <;> rfl

theorem unifyLines_of_scanAtom? {t rest : Text} {lexeme : Lexeme}
    (found : scanAtom? t = some (lexeme, rest)) : lexeme.unifyLines = lexeme := by
  unfold scanAtom? at found
  split at found
  · rename_i word
    cases found
    obtain ⟨entry, -, rfl, -⟩ := mem_of_scanWord? word
    rfl
  · obtain ⟨⟨number, after⟩, -, eq⟩ := Option.map_eq_some_iff.mp found
    cases eq
    cases number <;> rfl

theorem scanToken_unifyLines {first : CodePoint} (noReturn : first ≠ .scalar '\r') (rest : Text) :
    scanToken first (unifyLines rest) =
      ((scanToken first rest).1.unifyLines, unifyLines (scanToken first rest).2) := by
  have whole : unifyLines (first :: rest) = first :: unifyLines rest :=
    unifyLines_cons noReturn rest
  have quoted := scanPieces_unifyLines (first :: rest) rest
  have atom := keepsAtoms_unifyLines.scanAtom? (first :: rest)
  rw [whole] at quoted atom
  unfold scanToken
  split
  iterate 6 rfl
  · rw [quoted]
    cases scanPieces (.scalar '"' :: rest) rest <;> rfl
  · rw [atom]
    cases found : scanAtom? (first :: rest) with
    | none => rfl
    | some token =>
      show (token.1, unifyLines token.2) = (token.1.unifyLines, unifyLines token.2)
      rw [unifyLines_of_scanAtom? found]

theorem tokens_blank {p : CodePoint} (blank : isBlank p) (t : Text) :
    tokens (p :: t) = tokens t := by
  rw [tokens, if_pos blank]

/-- The tokens of a text with unified line endings are those of the text. -/
theorem tokens_unifyLines (t : Text) : tokens (unifyLines t) = (tokens t).map Token.unifyLines := by
  fun_induction tokens t with
  | case1 =>
    rw [unifyLines, tokens]
    rfl
  | case2 first rest blank ih =>
    by_cases isReturn : first = .scalar '\r'
    · obtain ⟨rest', unified, same | again⟩ := unifyLines_return rest
      · rw [isReturn, unified, tokens_blank rfl, same, ih]
      · rw [isReturn, unified, tokens_blank rfl, ← ih, again, tokens_blank rfl]
    · rw [unifyLines_cons isReturn, tokens_blank blank, ih]
  | case3 first rest dark ih =>
    have noReturn : first ≠ .scalar '\r' := by
      intro same
      rw [same] at dark
      exact dark rfl
    rw [unifyLines_cons noReturn, tokens, if_neg dark, scanToken_unifyLines noReturn, ih,
      List.map_cons, Token.unifyLines, unifyLines_cons noReturn]

/-! ## The machine -/

/-- A refusal, as it is of the text with unified line endings. -/
def Refusal.unifyLines : Refusal → Refusal
  | .flawed flaw => .flawed flaw.unifyLines
  | .longInteger digits => .longInteger digits

theorem stepValue_unifyLines (frames : List Frame) (token : Token) :
    stepValue frames token.unifyLines =
      (stepValue frames token).mapError Refusal.unifyLines := by
  obtain ⟨lexeme, rest⟩ := token
  cases lexeme <;> rfl

theorem stepKey_unifyLines (members : Members) (frames : List Frame) (token : Token) :
    stepKey members frames token.unifyLines =
      (stepKey members frames token).mapError Refusal.unifyLines := by
  obtain ⟨lexeme, rest⟩ := token
  cases lexeme <;> rfl

/-- The machine reads a token to the same state, or refuses it for the same. -/
theorem step_unifyLines (state : State) (token : Token) :
    state.step token.unifyLines = (state.step token).mapError Refusal.unifyLines := by
  cases state with
  | needValue frames => exact stepValue_unifyLines frames token
  | needItem frames =>
    obtain ⟨lexeme, rest⟩ := token
    cases lexeme <;> rfl
  | needMember frames =>
    obtain ⟨lexeme, rest⟩ := token
    cases lexeme <;> rfl
  | needKey members frames => exact stepKey_unifyLines members frames token
  | needColon members key frames =>
    obtain ⟨lexeme, rest⟩ := token
    cases lexeme <;> rfl
  | complete value frames =>
    obtain ⟨lexeme, rest⟩ := token
    rcases frames with _ | ⟨items | ⟨members, key⟩, frames⟩
    · rfl
    · cases lexeme <;> rfl
    · cases lexeme <;> rfl

theorem finish_unifyLines (state : State) :
    state.finish = state.finish.mapError Refusal.unifyLines := by
  cases state with
  | complete value frames => cases frames <;> rfl
  | needValue | needItem | needMember | needKey | needColon => rfl

theorem run_cons (state : State) (token : Token) (ts : List Token) :
    state.run (token :: ts) = state.step token >>= fun next => next.run ts := by
  simp only [State.run, List.foldlM_cons, bind_assoc]

/-- The run on the corresponding tokens ends with the same value, or with the same refusal. -/
theorem run_unifyLines (state : State) (ts : List Token) :
    state.run (ts.map Token.unifyLines) = (state.run ts).mapError Refusal.unifyLines := by
  induction ts generalizing state with
  | nil => exact finish_unifyLines state
  | cons token ts ih =>
    rw [List.map_cons, run_cons, run_cons, step_unifyLines, mapError_bind]
    cases state.step token with
    | error refusal => rfl
    | ok next => exact ih next

/-! ## Reading -/

/-- A text with unified line endings is read to the same value, or refused for the same complaint
or the same number of digits. -/
theorem read_unifyLines (t : Text) :
    (∃ v, read t = .ok v ∧ read (unifyLines t) = .ok v) ∨
      (∃ placed placed', read t = .error (.malformed placed) ∧
        read (unifyLines t) = .error (.malformed placed') ∧
        placed'.complaint = placed.complaint) ∨
      ∃ n, read t = .error (.longInteger n) ∧ read (unifyLines t) = .error (.longInteger n) := by
  by_cases marked : ∃ rest, t = .scalar '\ufeff' :: rest
  · obtain ⟨rest, rfl⟩ := marked
    rw [unifyLines_cons (by decide)]
    exact Or.inr (Or.inl ⟨_, _, rfl, rfl, rfl⟩)
  · have unmarked : ∀ t, (¬ ∃ rest, t = .scalar '\ufeff' :: rest) →
        read t = ((State.needValue []).run (tokens t)).mapError (Refusal.locate t) := by
      intro t noMark
      unfold read
      split
      · exact absurd ⟨_, rfl⟩ noMark
      · rfl
    have noMark := mt (keepsAtoms_unifyLines.exists_eq_cons_iff rfl t).mp marked
    rw [unmarked _ marked, unmarked _ noMark, tokens_unifyLines, run_unifyLines]
    rcases (State.needValue []).run (tokens t) with (flaw | n) | v
    · exact Or.inr (Or.inl ⟨_, _, rfl, rfl, rfl⟩)
    · exact Or.inr (Or.inr ⟨n, rfl, rfl⟩)
    · exact Or.inl ⟨v, rfl, rfl⟩

end TableDdl.Json
