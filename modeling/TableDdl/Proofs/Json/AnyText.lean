import TableDdl.Proofs.Json.Written

/-!
# Quotations of any text

The writer gives surrogates by their units, and two of these may be joined to a character when they
are read back. A quotation that shows them as they are is read back whatever the text is
(`lexemesOf_shown`).
-/

namespace TableDdl.Json

/-- A code point in a quotation that shows what can be shown: quotation marks and backslashes behind
a backslash, control characters by number, and all others as they are. -/
def shownPoint (p : CodePoint) : Text :=
  if p = .scalar '"' ∨ p = .scalar '\\' then [.scalar '\\', p]
  else if p.value < 0x20 then unitEscape p.value
  else [p]

/-- The quotation of a text that shows what can be shown. -/
def shown (t : Text) : Text :=
  .scalar '"' :: (t.flatMap shownPoint ++ [.scalar '"'])

/-- The piece that a code point is read as. -/
def shownPiece (p : CodePoint) : Piece :=
  if p.value < 0x20 then .unit p.value else .plain p

theorem scanPieces_shownPoint (p : CodePoint) (opening : Text) {rest : Text} (more : rest ≠ []) :
    scanPieces opening (shownPoint p ++ rest) =
      (fun (ps, after) => (shownPiece p :: ps, after)) <$> scanPieces opening rest := by
  rw [shownPoint]
  split
  · rename_i special
    rcases special with rfl | rfl
    · exact scanPieces_shortEscape rfl opening rest
    · exact scanPieces_shortEscape rfl opening rest
  · rename_i plain
    rw [shownPiece]
    split
    · rename_i control
      exact scanPieces_unitEscape (Nat.lt_trans control (by decide)) opening more
    · rename_i visible
      exact scanPieces_visible (Nat.le_of_not_lt visible) (fun same => plain (Or.inl same))
        (fun same => plain (Or.inr same)) opening rest

/-- The pieces of a quotation are read up to the closing mark. -/
theorem scanPieces_shown (t opening rest : Text) :
    scanPieces opening (t.flatMap shownPoint ++ .scalar '"' :: rest) =
      .ok (t.map shownPiece, rest) := by
  induction t with
  | nil => rw [List.flatMap_nil, List.nil_append, scanPieces, List.map_nil]
  | cons p t ih =>
    rw [List.flatMap_cons, List.append_assoc, scanPieces_shownPoint p opening (by simp), ih]
    rfl

/-- Nothing is joined: a unit is that of a control character. -/
theorem joinPieces_shown (t : Text) : joinPieces (t.map shownPiece) = t := by
  induction t with
  | nil => rfl
  | cons p t ih =>
    rw [List.map_cons]
    by_cases control : p.value < 0x20
    · have unit : shownPiece p = .unit p.value := if_pos control
      rw [unit, joinPieces_unit, pointOfUnit_value, ih]
      intro low more _ surrogates
      exact absurd surrogates.1 (by omega)
    · have plain : shownPiece p = .plain p := if_neg control
      rw [plain, joinPieces, ih]

/-- A quotation that shows what can be shown is the token of its text, whatever the text is. -/
theorem lexemesOf_shown (t rest : Text) :
    lexemesOf (shown t ++ rest) = .text t :: lexemesOf rest := by
  rw [shown, List.cons_append, List.append_assoc]
  refine lexemesOf_cons rfl ?_
  show scanToken _ (t.flatMap shownPoint ++ .scalar '"' :: rest) = _
  simp only [scanToken, scanPieces_shown, joinPieces_shown]

end TableDdl.Json
