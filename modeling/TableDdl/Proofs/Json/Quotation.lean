import Mathlib.Data.List.Chain
import TableDdl.Json.Quotation
import TableDdl.Json.Writer
import TableDdl.Proofs.Text.Utf8

/-!
# Quotations read back

A quoted text is read as the pieces that its code points are spelled with, and these are joined to
the text again unless two of its surrogates are halves of a character (`joinPieces_flatMap`). Where
no surrogate stands in the quotation itself, what is read is never such a text
(`isJoined_joinPieces`).
-/

namespace TableDdl.Json

/-! ## Units -/

/-- A hexadecimal digit as a code point. -/
def hexPoint (d : Nat) : CodePoint :=
  .scalar d.digitChar

theorem hexDigit?_hexPoint : ∀ d < 16, Text.hexDigit? (hexPoint d) = some d := by
  decide

/-- A number of at most sixteen bits has four hexadecimal digits. -/
theorem hex_four {n : Nat} (lt : n < 0x10000) :
    Text.hex 4 n =
      [hexPoint (n / 4096), hexPoint (n / 256 % 16), hexPoint (n / 16 % 16),
        hexPoint (n % 16)] := by
  have base : 1 < 16 := by decide
  unfold Text.hex
  by_cases one : n < 16
  · have zero : n / 4096 = 0 ∧ n / 256 % 16 = 0 ∧ n / 16 % 16 = 0 ∧ n % 16 = n := by omega
    rw [Nat.toDigits_of_lt_base one, zero.1, zero.2.1, zero.2.2.1, zero.2.2.2]
    rfl
  rw [Nat.toDigits_of_base_le base (by omega)]
  by_cases two : n / 16 < 16
  · have zero : n / 4096 = 0 ∧ n / 256 % 16 = 0 ∧ n / 16 % 16 = n / 16 := by omega
    rw [Nat.toDigits_of_lt_base two, zero.1, zero.2.1, zero.2.2]
    rfl
  rw [Nat.toDigits_of_base_le base (by omega)]
  by_cases three : n / 16 / 16 < 16
  · have zero : n / 4096 = 0 ∧ n / 256 % 16 = n / 16 / 16 := by omega
    rw [Nat.toDigits_of_lt_base three, zero.1, zero.2]
    rfl
  rw [Nat.toDigits_of_base_le base (by omega)]
  have four : n / 16 / 16 / 16 = n / 4096 ∧ n / 16 / 16 = n / 256 ∧ n / 4096 < 16 := by omega
  rw [four.1, four.2.1, Nat.toDigits_of_lt_base four.2.2]
  rfl

/-- A unit written by its number is read as this number, if something follows it. -/
theorem scanPieces_unitEscape {n : Nat} (lt : n < 0x10000) (opening : Text) {rest : Text}
    (more : rest ≠ []) :
    scanPieces opening (unitEscape n ++ rest) =
      (fun (ps, after) => (.unit n :: ps, after)) <$> scanPieces opening rest := by
  obtain ⟨e, tail, rfl⟩ := List.exists_cons_of_ne_nil more
  have value : unitOfHex? (hexPoint (n / 4096)) (hexPoint (n / 256 % 16)) (hexPoint (n / 16 % 16))
      (hexPoint (n % 16)) = some n := by
    simp only [unitOfHex?, hexDigit?_hexPoint _ (show n / 4096 < 16 by omega),
      hexDigit?_hexPoint _ (show n / 256 % 16 < 16 by omega),
      hexDigit?_hexPoint _ (show n / 16 % 16 < 16 by omega),
      hexDigit?_hexPoint _ (show n % 16 < 16 by omega)]
    show some _ = some n
    rw [Option.some.injEq]
    omega
  rw [unitEscape, hex_four lt]
  show scanPieces opening (.scalar '\\' :: .scalar 'u' :: _ :: _ :: _ :: _ :: e :: tail) = _
  rw [scanPieces, value]

/-! ## Code points -/

/-- The pieces that a code point without a short escape is read as. -/
def numberedPiecesOf (p : CodePoint) : List Piece :=
  if 0x20 ≤ p.value ∧ p.value < 0x7F then [.plain p]
  else if p.value < 0x10000 then [.unit p.value]
  else
    let offset := p.value - 0x10000
    [.unit (0xD800 + offset / 0x400), .unit (0xDC00 + offset % 0x400)]

/-- The pieces that a code point is read as. -/
def piecesOf (p : CodePoint) : List Piece :=
  match p with
  | .scalar '\n' | .scalar '\r' | .scalar '\t' | .scalar '\x0c' | .scalar '\x08' => [.plain p]
  | p => numberedPiecesOf p

/-- A code point is read as itself, as its unit, or as the two units of its halves. -/
theorem piecesOf_cases (p : CodePoint) :
    piecesOf p = [.plain p] ∨ (p.value < 0x10000 ∧ piecesOf p = [.unit p.value]) ∨
      (0x10000 ≤ p.value ∧
        piecesOf p = [.unit (0xD800 + (p.value - 0x10000) / 0x400),
          .unit (0xDC00 + (p.value - 0x10000) % 0x400)]) := by
  unfold piecesOf
  split
  iterate 5 exact Or.inl rfl
  unfold numberedPiecesOf
  split
  · exact Or.inl rfl
  · split
    · rename_i low
      exact Or.inr (Or.inl ⟨low, rfl⟩)
    · rename_i high
      exact Or.inr (Or.inr ⟨Nat.le_of_not_lt high, rfl⟩)

theorem value_lt (p : CodePoint) : p.value < 0x110000 := by
  cases p with
  | scalar c => exact (Utf8.toNat_bounds c).2
  | surrogate offset =>
    simp only [CodePoint.value, CodePoint.surrogateBase]
    omega

theorem scanPieces_shortEscape {q : CodePoint} {c : Char} (short : shortEscape? q = some c)
    (opening more : Text) :
    scanPieces opening (.scalar '\\' :: q :: more) =
      (fun (ps, after) => (.plain c :: ps, after)) <$> scanPieces opening more := by
  have noUnit : q ≠ .scalar 'u' := by
    intro unit
    rw [unit] at short
    cases short
  rw [scanPieces]
  · rw [short]
  · intro _ _ _ _ _ _ unit
    exact absurd unit noUnit
  · exact noUnit

theorem scanPieces_visible {p : CodePoint} (visible : 0x20 ≤ p.value) (noQuote : p ≠ .scalar '"')
    (noEscape : p ≠ .scalar '\\') (opening more : Text) :
    scanPieces opening (p :: more) =
      (fun (ps, after) => (.plain p :: ps, after)) <$> scanPieces opening more := by
  rw [scanPieces]
  · rw [if_neg (by omega)]
  · exact noQuote
  · exact noEscape

/-- A code point is read from its spelling, if something follows it. -/
theorem scanPieces_escapePoint (p : CodePoint) (opening : Text) {rest : Text} (more : rest ≠ []) :
    scanPieces opening (escapePoint p ++ rest) =
      (fun (ps, after) => (piecesOf p ++ ps, after)) <$> scanPieces opening rest := by
  unfold escapePoint
  split
  iterate 7 exact scanPieces_shortEscape rfl opening rest
  · rename_i noQuote noEscape _ _ _ _ _
    have pieces : piecesOf p = numberedPiecesOf p := by
      unfold piecesOf
      split
      iterate 5 contradiction
      rfl
    rw [pieces, numberedPiecesOf]
    split
    · rename_i visible
      exact scanPieces_visible visible.1 noQuote noEscape opening rest
    · split
      · rename_i low
        exact scanPieces_unitEscape low opening more
      · have bound := value_lt p
        have high : 0xD800 + (p.value - 0x10000) / 0x400 < 0x10000 := by omega
        have low : 0xDC00 + (p.value - 0x10000) % 0x400 < 0x10000 := by omega
        have moreUnits := List.append_ne_nil_of_right_ne_nil
          (unitEscape (0xDC00 + (p.value - 0x10000) % 0x400)) more
        rw [List.append_assoc, scanPieces_unitEscape high opening moreUnits,
          scanPieces_unitEscape low opening more]
        cases scanPieces opening rest <;> rfl

/-- The pieces of a quoted text are read up to the closing mark. -/
theorem scanPieces_quoted (t opening rest : Text) :
    scanPieces opening (t.flatMap escapePoint ++ .scalar '"' :: rest) =
      .ok (t.flatMap piecesOf, rest) := by
  induction t with
  | nil => rw [List.flatMap_nil, List.nil_append, scanPieces, List.flatMap_nil]
  | cons p t ih =>
    rw [List.flatMap_cons, List.append_assoc, scanPieces_escapePoint p opening (by simp), ih]
    rfl

/-! ## Joining the pieces -/

/-- The test for a surrogate that a low one may join to a character. -/
def IsHigh (p : CodePoint) : Prop :=
  0xD800 ≤ p.value ∧ p.value < 0xDC00

/-- The test for a surrogate that may be joined to a high one before it. -/
def IsLow (p : CodePoint) : Prop :=
  0xDC00 ≤ p.value ∧ p.value < 0xE000

/-- A text is joined if none of its surrogates are two halves of a character. -/
def IsJoined (t : Text) : Prop :=
  t.IsChain fun p q => ¬ (IsHigh p ∧ IsLow q)

/-- The test for a text of characters. -/
def IsScalar (t : Text) : Prop :=
  ∀ p ∈ t, p.char?.isSome

theorem isScalar_map_scalar (cs : List Char) : IsScalar (cs.map .scalar) :=
  fun _ => Utf8.isSome_char?_of_mem_map_scalar

theorem not_surrogate_of_char? {p : CodePoint} (scalar : p.char?.isSome) :
    ¬ IsHigh p ∧ ¬ IsLow p := by
  cases p with
  | scalar c =>
    have bounds := (Utf8.toNat_bounds c).1
    simp only [IsHigh, IsLow, CodePoint.value]
    omega
  | surrogate offset => cases scalar

/-- A text of characters is joined. -/
theorem IsScalar.isJoined {t : Text} (scalar : IsScalar t) : IsJoined t := by
  induction t with
  | nil => exact List.IsChain.nil
  | cons p t ih =>
    refine List.isChain_cons.mpr ⟨fun q _ both => ?_, ih fun q mem => scalar q (by simp [mem])⟩
    exact (not_surrogate_of_char? (scalar p List.mem_cons_self)).1 both.1

theorem ofValue?_value (p : CodePoint) : CodePoint.ofValue? p.value = some p := by
  cases p with
  | scalar c =>
    have valid : c.toNat.isValidChar := c.valid
    exact dif_pos valid
  | surrogate offset =>
    have bound := offset.isLt
    have invalid : ¬ (CodePoint.surrogateBase + offset.val).isValidChar := by
      simp only [Nat.isValidChar, CodePoint.surrogateBase]
      omega
    have back : CodePoint.surrogateBase + offset.val - CodePoint.surrogateBase = offset := by omega
    rw [CodePoint.ofValue?, CodePoint.value, dif_neg invalid, dif_pos (by omega)]
    simp only [back]

@[simp] theorem pointOfUnit_value (p : CodePoint) : pointOfUnit p.value = p := by
  rw [pointOfUnit, ofValue?_value, Option.getD_some]

theorem joinPieces_unit {n : Nat} {rest : List Piece}
    (alone : ∀ low more, rest = .unit low :: more →
      ¬ (0xD800 ≤ n ∧ n < 0xDC00 ∧ 0xDC00 ≤ low ∧ low < 0xE000)) :
    joinPieces (.unit n :: rest) = pointOfUnit n :: joinPieces rest := by
  match rest with
  | [] => rfl
  | .plain p :: more => rfl
  | .unit low :: more => rw [joinPieces, if_neg (alone low more rfl)]

/-- A piece in front is a low unit only if the text begins with a low surrogate. -/
theorem isLow_of_pieces {t : Text} {low : Nat} {more : List Piece}
    (eq : t.flatMap piecesOf = .unit low :: more) (bounds : 0xDC00 ≤ low ∧ low < 0xE000) :
    ∃ q ∈ t.head?, IsLow q := by
  cases t with
  | nil => cases eq
  | cons q t =>
    refine ⟨q, rfl, ?_⟩
    have bound := value_lt q
    rw [List.flatMap_cons] at eq
    rcases piecesOf_cases q with plain | ⟨-, unit⟩ | ⟨-, halves⟩
    · rw [plain] at eq
      cases eq
    · rw [unit] at eq
      cases eq
      exact bounds
    · rw [halves] at eq
      have same := Piece.unit.inj (List.cons.inj eq).1
      omega

/-- The pieces of a joined text are joined to this text. -/
theorem joinPieces_flatMap {t : Text} (joined : IsJoined t) :
    joinPieces (t.flatMap piecesOf) = t := by
  induction t with
  | nil => rfl
  | cons p t ih =>
    obtain ⟨first, joined⟩ := List.isChain_cons.mp joined
    have ih := ih joined
    rw [List.flatMap_cons]
    rcases piecesOf_cases p with plain | ⟨-, unit⟩ | ⟨above, halves⟩
    · rw [plain]
      show p :: joinPieces (t.flatMap piecesOf) = _
      rw [ih]
    · rw [unit]
      show joinPieces (.unit p.value :: t.flatMap piecesOf) = _
      rw [joinPieces_unit, pointOfUnit_value, ih]
      intro low more eq both
      obtain ⟨q, mem, isLow⟩ := isLow_of_pieces eq both.2.2
      exact first q mem ⟨⟨both.1, both.2.1⟩, isLow⟩
    · have bound := value_lt p
      rw [halves]
      show joinPieces (.unit _ :: .unit _ :: t.flatMap piecesOf) = _
      rw [joinPieces, if_pos (by omega), ih]
      have value : 0x10000 + (0xD800 + (p.value - 0x10000) / 0x400 - 0xD800) * 0x400 +
          (0xDC00 + (p.value - 0x10000) % 0x400 - 0xDC00) = p.value := by omega
      rw [value, pointOfUnit_value]

/-! ## What is read is joined -/

theorem value_of_ofValue? {n : Nat} {p : CodePoint} (found : CodePoint.ofValue? n = some p) :
    p.value = n := by
  rw [CodePoint.ofValue?] at found
  by_cases valid : n.isValidChar
  · rw [dif_pos valid] at found
    cases found
    rfl
  · rw [dif_neg valid] at found
    by_cases small : n - CodePoint.surrogateBase < 2048
    · rw [dif_pos small] at found
      cases found
      simp only [Nat.isValidChar, CodePoint.surrogateBase] at valid small
      simp only [CodePoint.value, CodePoint.surrogateBase]
      omega
    · rw [dif_neg small] at found
      cases found

/-- A surrogate that a unit stands for has the number of that unit. -/
theorem value_pointOfUnit {n : Nat} (surrogate : 0xD800 ≤ (pointOfUnit n).value) :
    (pointOfUnit n).value = n := by
  unfold pointOfUnit at surrogate ⊢
  cases found : CodePoint.ofValue? n with
  | some p => exact value_of_ofValue? found
  | none =>
    rw [found] at surrogate
    exact absurd surrogate (by decide)

theorem bounds_of_isHigh {n : Nat} (high : IsHigh (pointOfUnit n)) : 0xD800 ≤ n ∧ n < 0xDC00 := by
  have value := value_pointOfUnit high.1
  rwa [IsHigh, value] at high

theorem bounds_of_isLow {n : Nat} (low : IsLow (pointOfUnit n)) : 0xDC00 ≤ n ∧ n < 0xE000 := by
  have value := value_pointOfUnit (Nat.le_trans (by decide) low.1)
  rwa [IsLow, value] at low

/-- The test for pieces of a text that holds no surrogate itself. -/
def NoSurrogates (pieces : List Piece) : Prop :=
  ∀ p, Piece.plain p ∈ pieces → p.char?.isSome

/-- A low surrogate in front comes from a low unit in front. -/
theorem unit_of_isLow {pieces : List Piece} (noSurrogates : NoSurrogates pieces) {q : CodePoint}
    (mem : q ∈ (joinPieces pieces).head?) (low : IsLow q) :
    ∃ n more, pieces = .unit n :: more ∧ 0xDC00 ≤ n ∧ n < 0xE000 := by
  revert mem
  fun_cases joinPieces pieces with
  | case1 => exact nofun
  | case2 p rest =>
    intro mem
    cases mem
    exact absurd low (not_surrogate_of_char? (noSurrogates _ (by simp))).2
  | case3 high low' rest both =>
    intro mem
    rw [List.head?_cons, Option.mem_some_iff] at mem
    subst mem
    have bounds := bounds_of_isLow low
    omega
  | case4 high low' rest apart =>
    intro mem
    rw [List.head?_cons, Option.mem_some_iff] at mem
    subst mem
    exact ⟨high, _, rfl, bounds_of_isLow low⟩
  | case5 n rest alone =>
    intro mem
    rw [List.head?_cons, Option.mem_some_iff] at mem
    subst mem
    exact ⟨n, _, rfl, bounds_of_isLow low⟩

/-- The pieces of a text without surrogates are joined to a text in which no two surrogates are
halves of a character. -/
theorem isJoined_joinPieces {pieces : List Piece} (noSurrogates : NoSurrogates pieces) :
    IsJoined (joinPieces pieces) := by
  fun_induction joinPieces pieces with
  | case1 => exact List.IsChain.nil
  | case2 p rest ih =>
    have inRest : NoSurrogates rest := fun q mem => noSurrogates q (by simp [mem])
    refine List.isChain_cons.mpr ⟨fun q mem both => ?_, ih inRest⟩
    exact (not_surrogate_of_char? (noSurrogates p (by simp))).1 both.1
  | case3 high low rest both ih =>
    have inRest : NoSurrogates rest := fun q mem => noSurrogates q (by simp [mem])
    refine List.isChain_cons.mpr ⟨fun q mem surrogates => ?_, ih inRest⟩
    have bounds := bounds_of_isHigh surrogates.1
    omega
  | case4 high low rest apart ih =>
    have inRest : NoSurrogates (.unit low :: rest) :=
      fun q mem => noSurrogates q (by simpa using mem)
    refine List.isChain_cons.mpr ⟨fun q mem surrogates => ?_, ih inRest⟩
    obtain ⟨n, more, eq, bounds⟩ := unit_of_isLow inRest mem surrogates.2
    cases eq
    have bounds' := bounds_of_isHigh surrogates.1
    exact apart ⟨bounds'.1, bounds'.2, bounds⟩
  | case5 n rest alone ih =>
    have inRest : NoSurrogates rest := fun q mem => noSurrogates q (by simp [mem])
    refine List.isChain_cons.mpr ⟨fun q mem surrogates => ?_, ih inRest⟩
    obtain ⟨low, more, eq, -⟩ := unit_of_isLow inRest mem surrogates.2
    exact alone low more eq

end TableDdl.Json
