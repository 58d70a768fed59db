import TableDdl.Proofs.Json.Atoms
import TableDdl.Proofs.Json.ReadValue
import TableDdl.Proofs.Json.RoundTrip

/-!
# Values inside of a text

A text that is read as a value is read as this value inside of a longer text too, where a value is
needed and a delimiter follows. It is cut into the same tokens there (`lexemesOf_append`), and the
machine does not look below the frames that these tokens open (`reaches_of_read`).
-/

namespace TableDdl.Json

open Outcome

variable {t rest : Text}

/-! ## Tokens before a delimiter -/

theorem keepsAtoms_append (ends : EndsToken rest) : KeepsAtoms (· ++ rest) where
  cons _ _ _ := rfl
  ends t front := by
    cases t with
    | nil => exact ends
    | cons p t => exact endsToken_cons (front p rfl) (t ++ rest)

/-- A quotation ends at its closing mark, whatever follows it. -/
theorem scanPieces_append {opening after : Text} {pieces : List Piece}
    (found : scanPieces opening t = .ok (pieces, after)) (opening' rest : Text) :
    scanPieces opening' (t ++ rest) = .ok (pieces, after ++ rest) := by
  fun_induction scanPieces opening t generalizing pieces with
  | case1 | case3 | case5 | case6 | case8 | case9 => cases found
  | case2 more =>
    cases found
    rfl
  | case4 a b c d e more n hex ih =>
    obtain ⟨⟨ps, rest'⟩, inner, eq⟩ := map_eq_ok_iff.mp found
    cases eq
    have inner := ih inner
    rw [List.cons_append] at inner
    simp only [List.cons_append]
    rw [scanPieces, hex]
    simp only [inner, ok_map]
  | case7 e more _ _ c short ih =>
    obtain ⟨⟨ps, rest'⟩, inner, eq⟩ := map_eq_ok_iff.mp found
    cases eq
    rw [List.cons_append, List.cons_append, scanPieces_shortEscape short, ih inner, ok_map]
  | case10 p more noQuote noEscape visible ih =>
    obtain ⟨⟨ps, rest'⟩, inner, eq⟩ := map_eq_ok_iff.mp found
    cases eq
    rw [List.cons_append, scanPieces_visible (Nat.le_of_not_lt visible) noQuote noEscape, ih inner,
      ok_map]

/-- The test for the content of a token that was read as far as it goes. -/
def Lexeme.IsWhole : Lexeme → Prop
  | .flawed _ | .unknown => False
  | _ => True

theorem scanToken_append (ends : EndsToken rest) {p : CodePoint}
    (whole : (scanToken p t).1.IsWhole) :
    scanToken p (t ++ rest) = ((scanToken p t).1, (scanToken p t).2 ++ rest) := by
  have atom : scanAtom? (p :: (t ++ rest)) = _ := (keepsAtoms_append ends).scanAtom? (p :: t)
  revert whole
  unfold scanToken
  split
  iterate 6 exact fun _ => rfl
  · cases found : scanPieces (.scalar '"' :: t) t with
    | error flaw => exact nofun
    | ok token =>
      intro _
      obtain ⟨pieces, after⟩ := token
      rw [scanPieces_append found]
  · rw [atom]
    cases scanAtom? (p :: t) with
    | none => exact nofun
    | some token => exact fun _ => rfl

/-- A text whose tokens are whole is cut into these tokens before a delimiter. -/
theorem lexemesOf_append (ends : EndsToken rest) (whole : ∀ l ∈ lexemesOf t, l.IsWhole) :
    lexemesOf (t ++ rest) = lexemesOf t ++ lexemesOf rest := by
  revert whole
  unfold lexemesOf
  fun_induction tokens t with
  | case1 => exact fun _ => rfl
  | case2 first more blank ih =>
    intro whole
    rw [List.cons_append, tokens, if_pos blank, ih whole]
  | case3 first more dark ih =>
    intro whole
    obtain ⟨here, later⟩ := List.forall_mem_cons.mp whole
    rw [List.cons_append, tokens, if_neg dark, scanToken_append ends here, List.map_cons,
      List.map_cons, ih later, List.cons_append]

/-! ## Runs above some frames -/

/-- A state inside of further arrays and objects. -/
def State.above (below : List Frame) : State → State
  | .needValue frames => .needValue (frames ++ below)
  | .needItem frames => .needItem (frames ++ below)
  | .needMember frames => .needMember (frames ++ below)
  | .needKey members frames => .needKey members (frames ++ below)
  | .needColon members key frames => .needColon members key (frames ++ below)
  | .complete value frames => .complete value (frames ++ below)

/-- A step does not look below the frames of its state, nor at the text of its token. -/
theorem step_above {state next : State} {token : Token} (step : state.step token = .ok next)
    (below : List Frame) (rest : Text) :
    (state.above below).step ⟨token.lexeme, rest⟩ = .ok (next.above below) := by
  obtain ⟨lexeme, rest'⟩ := token
  cases state with
  | needValue frames | needItem frames | needMember frames | needKey members frames
    | needColon members key frames =>
    cases lexeme <;> cases step <;> rfl
  | complete value frames =>
    rcases frames with _ | ⟨items | ⟨members, key⟩, frames⟩
    · cases step
    · cases lexeme <;> cases step <;> rfl
    · cases lexeme <;> cases step <;> rfl

theorem isWhole_of_step {state next : State} {token : Token} (step : state.step token = .ok next) :
    token.lexeme.IsWhole := by
  obtain ⟨lexeme, rest⟩ := token
  cases lexeme with
  | flawed | unknown =>
    cases state with
    | needValue | needItem | needMember | needKey | needColon => cases step
    | complete value frames => rcases frames with _ | ⟨_ | _, _⟩ <;> cases step
  | openArray | closeArray | openObject | closeObject | colon | comma | atom | text
    | longInteger => trivial

/-- A run goes the same way above any frames, and all tokens of it are whole. -/
theorem reaches_of_run {state next : State} {ts : List Token}
    (run : ts.foldlM State.step state = .ok next) (below : List Frame) :
    Reaches (state.above below) (ts.map Token.lexeme) (next.above below) ∧
      ∀ l ∈ ts.map Token.lexeme, l.IsWhole := by
  induction ts generalizing state with
  | nil =>
    cases run
    exact ⟨.refl _, fun _ mem => absurd mem List.not_mem_nil⟩
  | cons token ts ih =>
    rw [List.foldlM_cons] at run
    obtain ⟨middle, step, run⟩ := bind_eq_ok_iff.mp run
    obtain ⟨reaches, whole⟩ := ih run
    rw [List.map_cons]
    exact ⟨.cons (step_above step below) reaches,
      List.forall_mem_cons.mpr ⟨isWhole_of_step step, whole⟩⟩

/-- A text that is read as a value completes this value where one is needed. -/
theorem reaches_of_read {v : Json} (found : read t = .ok v) (frames : List Frame) :
    Reaches (.needValue frames) (lexemesOf t) (.complete v frames) ∧
      ∀ l ∈ lexemesOf t, l.IsWhole :=
  reaches_of_run (run_of_read found) frames

end TableDdl.Json
