import TableDdl.Json.Token
import TableDdl.Proofs.Json.NumberText

/-!
# Words and numbers in changed texts

A word or a number is read up to the first delimiter: a mark that follows a value, white space, or
the end of the text. So it is read alike in two texts that differ only from the delimiters on. The
changes of a text for which this holds are those that keep what stands before a delimiter
(`KeepsAtoms`); one lemma for each scanner says how it follows such a change.
-/

namespace TableDdl.Json

/-- The test for a code point that neither a word nor a number holds: the marks that follow a value
and white space. -/
def isDelimiter : CodePoint → Bool
  | .scalar c => c ∈ [',', ':', ']', '\x7d', ' ', '\t', '\n', '\r']
  | .surrogate _ => false

/-- The test for a text that does not go on with a word or a number before it. -/
def EndsToken (t : Text) : Prop :=
  ∀ p ∈ t.head?, isDelimiter p = true

theorem endsToken_nil : EndsToken [] :=
  fun _ mem => absurd mem (Option.not_mem_none _)

theorem endsToken_cons {p : CodePoint} (delimiter : isDelimiter p = true) (t : Text) :
    EndsToken (p :: t) := by
  intro q mem
  cases mem
  exact delimiter

/-- A text ends a token, or begins with a code point that is no delimiter. -/
theorem endsToken_or_cons (t : Text) :
    EndsToken t ∨ ∃ p rest, t = p :: rest ∧ isDelimiter p = false := by
  cases t with
  | nil => exact Or.inl endsToken_nil
  | cons p rest =>
    cases delimiter : isDelimiter p with
    | true => exact Or.inl (endsToken_cons delimiter rest)
    | false => exact Or.inr ⟨p, rest, rfl, delimiter⟩

theorem EndsToken.ne_cons {t : Text} (ends : EndsToken t) {p : CodePoint}
    (inside : isDelimiter p = false) (rest : Text) : t ≠ p :: rest := by
  intro eq
  have delimiter := ends p (by rw [eq]; rfl)
  rw [inside] at delimiter
  cases delimiter

/-- The changes of a text that keep what stands before a delimiter. -/
structure KeepsAtoms (f : Text → Text) : Prop where
  cons : ∀ p t, isDelimiter p = false → f (p :: t) = p :: f t
  ends : ∀ t, EndsToken t → EndsToken (f t)

/-! ## The first code point -/

theorem isDelimiter_of_isBlank {p : CodePoint} (blank : isBlank p) : isDelimiter p = true := by
  cases p with
  | surrogate offset => cases blank
  | scalar c =>
    simp only [isBlank, Bool.or_eq_true, decide_eq_true_eq] at blank
    rcases blank with ((rfl | rfl) | rfl) | rfl <;> rfl

/-- What ends a token ends a number. -/
theorem EndsToken.endsNumber {t : Text} (ends : EndsToken t) : EndsNumber t := by
  intro p mem
  have delimiter := ends p mem
  cases p with
  | surrogate offset => cases delimiter
  | scalar c =>
    simp only [isDelimiter, List.mem_cons, List.not_mem_nil, or_false, decide_eq_true_eq]
      at delimiter
    rcases delimiter with rfl | rfl | rfl | rfl | rfl | rfl | rfl | rfl
    all_goals exact ⟨rfl, by decide, by decide, by decide⟩

theorem splitDigits_of_endsToken {t : Text} (ends : EndsToken t) :
    Numeral.splitDigits t = ([], t) :=
  Numeral.splitDigits_append (List.forall_mem_nil _) fun p mem => (ends.endsNumber p mem).1

theorem splitWhole_of_noZero {t : Text} (noZero : ¬ ∃ rest, t = .scalar '0' :: rest) :
    splitWhole t = Numeral.splitDigits t := by
  unfold splitWhole
  split
  · exact absurd ⟨_, rfl⟩ noZero
  · rfl

theorem splitFraction_of_noPoint {t : Text} (noPoint : ¬ ∃ rest, t = .scalar '.' :: rest) :
    splitFraction t = ([], t) := by
  unfold splitFraction
  split
  · exact absurd ⟨_, rfl⟩ noPoint
  · rfl

theorem splitSign_of_noSign {t : Text} (noMinus : ¬ ∃ rest, t = .scalar '-' :: rest)
    (noPlus : ¬ ∃ rest, t = .scalar '+' :: rest) : Numeral.splitSign t = (false, t) := by
  unfold Numeral.splitSign
  split
  · exact absurd ⟨_, rfl⟩ noMinus
  · exact absurd ⟨_, rfl⟩ noPlus
  · rfl

theorem scanSigned?_of_noMinus {t : Text} (noMinus : ¬ ∃ rest, t = .scalar '-' :: rest) :
    scanSigned? t = scanNumber? false t := by
  unfold scanSigned?
  split
  · exact absurd ⟨_, rfl⟩ noMinus
  · rfl

theorem splitExponent?_of_endsToken {t : Text} (ends : EndsToken t) :
    Numeral.splitExponent? t = none :=
  Numeral.splitExponent?_of_noLetter fun p mem => (ends.endsNumber p mem).2.2

/-! ## Scanners -/

namespace KeepsAtoms

variable {f : Text → Text} (keeps : KeepsAtoms f)

include keeps

/-- A changed text begins with the same code point, if this is no delimiter. -/
theorem exists_eq_cons_iff {p : CodePoint} (inside : isDelimiter p = false) (t : Text) :
    (∃ rest, f t = p :: rest) ↔ ∃ rest, t = p :: rest := by
  constructor
  · intro starts
    obtain ⟨rest, eq⟩ := starts
    rcases endsToken_or_cons t with ends | ⟨q, t, rfl, within⟩
    · exact absurd eq ((keeps.ends t ends).ne_cons inside rest)
    · rw [keeps.cons q t within] at eq
      exact ⟨t, by rw [(List.cons.inj eq).1]⟩
  · intro starts
    obtain ⟨rest, rfl⟩ := starts
    exact ⟨f rest, keeps.cons p rest inside⟩

theorem splitDigits (t : Text) :
    Numeral.splitDigits (f t) = ((Numeral.splitDigits t).1, f (Numeral.splitDigits t).2) := by
  induction t with
  | nil => rw [splitDigits_of_endsToken (keeps.ends [] endsToken_nil)]; rfl
  | cons p t ih =>
    rcases endsToken_or_cons (p :: t) with ends | ⟨q, t', same, inside⟩
    · rw [splitDigits_of_endsToken (keeps.ends _ ends), splitDigits_of_endsToken ends]
    · cases same
      rw [keeps.cons p t inside]
      simp only [Numeral.splitDigits, Prod.mk.injEq] at ih ⊢
      cases digit : p.isDigit with
      | true =>
        rw [List.takeWhile_cons_of_pos digit, List.takeWhile_cons_of_pos digit,
          List.dropWhile_cons_of_pos digit, List.dropWhile_cons_of_pos digit]
        exact ⟨by rw [ih.1], ih.2⟩
      | false =>
        have noDigit : ¬ p.isDigit = true := by simp [digit]
        rw [List.takeWhile_cons_of_neg noDigit, List.takeWhile_cons_of_neg noDigit,
          List.dropWhile_cons_of_neg noDigit, List.dropWhile_cons_of_neg noDigit,
          keeps.cons p t inside]
        exact ⟨rfl, rfl⟩

theorem splitWhole (t : Text) :
    Json.splitWhole (f t) = ((Json.splitWhole t).1, f (Json.splitWhole t).2) := by
  by_cases zero : ∃ rest, t = .scalar '0' :: rest
  · obtain ⟨rest, rfl⟩ := zero
    rw [keeps.cons _ _ rfl]
    rfl
  · have noZero := mt (keeps.exists_eq_cons_iff rfl t).mp zero
    rw [splitWhole_of_noZero zero, splitWhole_of_noZero noZero, keeps.splitDigits]

theorem splitFraction (t : Text) :
    Json.splitFraction (f t) = ((Json.splitFraction t).1, f (Json.splitFraction t).2) := by
  by_cases point : ∃ rest, t = .scalar '.' :: rest
  · obtain ⟨rest, rfl⟩ := point
    rw [keeps.cons _ _ rfl, Json.splitFraction, Json.splitFraction, keeps.splitDigits]
    rcases Numeral.splitDigits rest with ⟨_ | ⟨digit, digits⟩, after⟩
    · show ([], _) = ([], f (.scalar '.' :: rest))
      rw [keeps.cons _ _ rfl]
    · rfl
  · have noPoint := mt (keeps.exists_eq_cons_iff rfl t).mp point
    rw [splitFraction_of_noPoint point, splitFraction_of_noPoint noPoint]

theorem splitSign (t : Text) :
    Numeral.splitSign (f t) = ((Numeral.splitSign t).1, f (Numeral.splitSign t).2) := by
  by_cases minus : ∃ rest, t = .scalar '-' :: rest
  · obtain ⟨rest, rfl⟩ := minus
    rw [keeps.cons _ _ rfl]
    rfl
  by_cases plus : ∃ rest, t = .scalar '+' :: rest
  · obtain ⟨rest, rfl⟩ := plus
    rw [keeps.cons _ _ rfl]
    rfl
  have noMinus := mt (keeps.exists_eq_cons_iff rfl t).mp minus
  have noPlus := mt (keeps.exists_eq_cons_iff rfl t).mp plus
  rw [splitSign_of_noSign minus plus, splitSign_of_noSign noMinus noPlus]

theorem splitExponent? (t : Text) :
    Numeral.splitExponent? (f t) =
      (Numeral.splitExponent? t).map fun (exponent, rest) => (exponent, f rest) := by
  rcases endsToken_or_cons t with ends | ⟨p, t, rfl, inside⟩
  · rw [splitExponent?_of_endsToken ends, splitExponent?_of_endsToken (keeps.ends t ends)]
    rfl
  · rw [keeps.cons p t inside]
    cases p with
    | surrogate offset => rfl
    | scalar c =>
      simp only [Numeral.splitExponent?, keeps.splitSign, keeps.splitDigits]
      by_cases letter : c = 'e' ∨ c = 'E'
      · rw [if_pos letter, if_pos letter]
        split <;> rfl
      · rw [if_neg letter, if_neg letter]
        rfl

theorem scanNumber? (negative : Bool) (t : Text) :
    Json.scanNumber? negative (f t) =
      (Json.scanNumber? negative t).map fun (number, rest) => (number, f rest) := by
  simp only [Json.scanNumber?, keeps.splitWhole, keeps.splitFraction, keeps.splitExponent?]
  split
  · rfl
  · cases Numeral.splitExponent? (Json.splitFraction (Json.splitWhole t).2).2 with
    | some found => rfl
    | none =>
      simp only [Option.map_none]
      split
      · split <;> rfl
      · rfl

theorem scanSigned? (t : Text) :
    Json.scanSigned? (f t) =
      (Json.scanSigned? t).map fun (number, rest) => (number, f rest) := by
  by_cases minus : ∃ rest, t = .scalar '-' :: rest
  · obtain ⟨rest, rfl⟩ := minus
    rw [keeps.cons _ _ rfl, Json.scanSigned?, Json.scanSigned?, keeps.scanNumber?]
  · have noMinus := mt (keeps.exists_eq_cons_iff rfl t).mp minus
    rw [scanSigned?_of_noMinus minus, scanSigned?_of_noMinus noMinus, keeps.scanNumber?]

theorem dropWord? {word : Text} (inside : ∀ p ∈ word, isDelimiter p = false) (t : Text) :
    Json.dropWord? word (f t) = (Json.dropWord? word t).map f := by
  induction word generalizing t with
  | nil =>
    rw [Json.dropWord?, Json.dropWord?]
    rfl
  | cons p word ih =>
    have first := inside p List.mem_cons_self
    have ih := ih fun q mem => inside q (List.mem_cons_of_mem _ mem)
    by_cases starts : ∃ rest, t = p :: rest
    · obtain ⟨rest, rfl⟩ := starts
      rw [keeps.cons p rest first, Json.dropWord?, Json.dropWord?, if_pos rfl, if_pos rfl, ih]
    · have other : ∀ t, (¬ ∃ rest, t = p :: rest) → Json.dropWord? (p :: word) t = none := by
        intro t starts
        cases t with
        | nil => rfl
        | cons q t =>
          rw [Json.dropWord?, if_neg]
          intro same
          exact starts ⟨t, by rw [same]⟩
      rw [other t starts, other _ (mt (keeps.exists_eq_cons_iff first t).mp starts)]
      rfl

theorem scanWord? (t : Text) {table : List (Text × Json)}
    (inside : ∀ entry ∈ table, ∀ p ∈ entry.1, isDelimiter p = false) :
    Json.scanWord? (f t) table =
      (Json.scanWord? t table).map fun (lexeme, rest) => (lexeme, f rest) := by
  induction table with
  | nil => rfl
  | cons entry more ih =>
    have ih := ih fun other mem => inside other (List.mem_cons_of_mem _ mem)
    rw [Json.scanWord?, Json.scanWord?, keeps.dropWord? (inside entry List.mem_cons_self)]
    cases Json.dropWord? entry.1 t with
    | none => exact ih
    | some rest => rfl

/-- A word or a number is read alike in a changed text. -/
theorem scanAtom? (t : Text) :
    Json.scanAtom? (f t) =
      (Json.scanAtom? t).map fun (lexeme, rest) => (lexeme, f rest) := by
  unfold Json.scanAtom?
  rw [keeps.scanWord? t (by decide), keeps.scanSigned?]
  cases Json.scanWord? t words with
  | some found => rfl
  | none =>
    cases Json.scanSigned? t with
    | some found => rfl
    | none => rfl

end KeepsAtoms

end TableDdl.Json
