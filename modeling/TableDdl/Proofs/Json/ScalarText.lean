import TableDdl.Proofs.Json.ObjectText

/-!
# Texts of numbers and strings

The text of a number or a string may have white space around it. It is read as this number or string
(`read_of_isIntegerText`, `read_of_isRealText`, `read_of_spells`), and every text that is read as a
number is the text of one or a word for it (`text_of_read`): the machine that reads a text does not
come out of an array or object with anything but an array or object.
-/

namespace TableDdl.Json

open Outcome

variable {t inner after : Text} {l : Lexeme} {v : Json}

/-! ## Texts of one token -/

theorem endsNumber_of_blanks (blanks : ∀ p ∈ after, isBlank p) : EndsNumber after :=
  EndsToken.endsNumber fun p mem => isDelimiter_of_isBlank (blanks p (List.mem_of_mem_head? mem))

theorem lexemesOf_eq_nil_iff : lexemesOf t = [] ↔ ∀ p ∈ t, isBlank p := by
  constructor
  · intro nothing
    unfold lexemesOf at nothing
    fun_induction tokens t with
    | case1 => exact fun p mem => absurd mem List.not_mem_nil
    | case2 first more blank ih => exact List.forall_mem_cons.mpr ⟨blank, ih nothing⟩
    | case3 first more dark ih => cases nothing
  · intro blanks
    rw [← List.append_nil t, lexemesOf_blanks blanks, lexemesOf_nil]

/-- The text of one token is read as the value of this token, also with white space around it. -/
theorem read_of_isPadded (padded : Text.IsPadded isBlank t inner)
    (front : ∃ p more, inner = p :: more ∧ p ≠ .scalar '\ufeff')
    (token : ∀ rest, EndsNumber rest → lexemesOf (inner ++ rest) = l :: lexemesOf rest)
    (step : ∀ rest, (State.needValue []).step ⟨l, rest⟩ = .ok (.complete v [])) :
    read t = .ok v := by
  obtain ⟨before, after, blanks, blanks', rfl⟩ := padded
  have noMark : ¬ ∃ rest, inner ++ after = .scalar '\ufeff' :: rest := by
    intro marked
    obtain ⟨p, more, rfl, dark⟩ := front
    obtain ⟨rest, eq⟩ := marked
    exact dark (List.cons.inj eq).1
  have nothing : lexemesOf after = [] := lexemesOf_eq_nil_iff.mpr blanks'
  refine read_of_reaches (noMark_of_blanks blanks noMark) ?_
  rw [lexemesOf_blanks blanks, token after (endsNumber_of_blanks blanks'), nothing]
  exact .cons step (.refl _)

theorem read_of_scanSigned? (padded : Text.IsPadded isBlank t inner)
    (scanned : ∀ rest, EndsNumber rest → scanSigned? (inner ++ rest) = some (.value v, rest)) :
    read t = .ok v := by
  have whole := scanned [] fun p mem => absurd mem (Option.not_mem_none p)
  rw [List.append_nil] at whole
  obtain ⟨p, more, eq, start, -⟩ := front_of_scanSigned? whole
  have dark : p ≠ .scalar '\ufeff' := by
    intro mark
    rw [mark] at start
    cases start
  exact read_of_isPadded padded ⟨p, more, eq, dark⟩
    (fun rest ends => lexemesOf_of_scanSigned? (scanned rest ends)) fun _ => rfl

variable {negative : Bool} {digits : Text} {m : Numeral}

/-- An integer of few digits is read as it is. -/
theorem read_of_isIntegerText (padded : Text.IsPadded isBlank t inner)
    (integer : IsIntegerText inner negative digits) (few : digits.length ≤ maxIntegerDigits) :
    read t = .ok (.int (signedInt negative digits)) := by
  refine read_of_scanSigned? padded fun rest ends => ?_
  rw [scanSigned?_integer integer ends, ScannedNumber.ofDigits, if_neg (Nat.not_lt.mpr few)]

/-- A number with a fraction or an exponent is read as the number that it is rounded to. -/
theorem read_of_isRealText (padded : Text.IsPadded isBlank t inner) (real : IsRealText inner m) :
    read t = .ok (.real m.toBinary64) :=
  read_of_scanSigned? padded fun _ ends => scanSigned?_real real ends

/-- A quotation is read as the characters that it spells. -/
theorem read_of_spells {spelled : Text} {cs : List Char}
    (padded : Text.IsPadded isBlank t (.scalar '"' :: (spelled ++ [.scalar '"'])))
    (spells : Spells spelled cs) : read t = .ok (.text (cs.map .scalar)) := by
  have token : ∀ rest, lexemesOf (.scalar '"' :: (spelled ++ [.scalar '"']) ++ rest) =
      .text (cs.map .scalar) :: lexemesOf rest := by
    intro rest
    rw [List.cons_append, List.append_assoc]
    exact lexemesOf_spelled spells rest
  exact read_of_isPadded padded ⟨_, _, rfl, nofun⟩ (fun rest _ => token rest) fun _ => rfl

/-! ## Values of one token -/

/-- The test for a value that has further values inside. -/
def IsComposite : Json → Prop
  | .array _ | .object _ => True
  | _ => False

/-- The test for a state inside of an array or object, or behind one. -/
def State.IsNested : State → Prop
  | .needValue frames => frames ≠ []
  | .complete v frames => frames ≠ [] ∨ v.IsComposite
  | _ => True

theorem isNested_of_stepValue {frames : List Frame} {token : Token} {next : State}
    (nested : frames ≠ []) (step : stepValue frames token = .ok next) : next.IsNested := by
  unfold stepValue at step
  split at step
  all_goals cases step
  · trivial
  · trivial
  · exact Or.inl nested
  · exact Or.inl nested

theorem isNested_of_stepKey {members : Members} {frames : List Frame} {token : Token} {next : State}
    (step : stepKey members frames token = .ok next) : next.IsNested := by
  unfold stepKey at step
  split at step
  all_goals cases step
  trivial

/-- A step does not lead out of an array or object but to its end. -/
theorem isNested_of_step {state next : State} {token : Token} (nested : state.IsNested)
    (step : state.step token = .ok next) : next.IsNested := by
  cases state with
  | needValue frames => exact isNested_of_stepValue nested step
  | needKey members frames => exact isNested_of_stepKey step
  | needItem frames =>
    simp only [State.step] at step
    split at step
    · cases step
      exact Or.inr trivial
    · exact isNested_of_stepValue (List.cons_ne_nil _ _) step
  | needMember frames =>
    simp only [State.step] at step
    split at step
    · cases step
      exact Or.inr trivial
    · exact isNested_of_stepKey step
  | needColon members key frames =>
    simp only [State.step] at step
    split at step
    · cases step
      exact List.cons_ne_nil _ _
    · cases step
  | complete value frames =>
    simp only [State.step, stepComplete] at step
    split at step
    · cases step
    · split at step
      all_goals cases step
      · exact List.cons_ne_nil _ _
      · exact Or.inr trivial
    · split at step
      all_goals cases step
      · trivial
      · exact Or.inr trivial

theorem isNested_of_run {ts : List Token} {state next : State} (nested : state.IsNested)
    (run : ts.foldlM State.step state = .ok next) : next.IsNested :=
  foldlM_invariant (fun _ _ _ _ => isNested_of_step) nested run

/-- Nothing follows a whole value. -/
theorem eq_nil_of_run {ts : List Token} {w : Json} {next : State}
    (run : ts.foldlM State.step (.complete w []) = .ok next) : ts = [] ∧ next = .complete w [] := by
  cases ts with
  | nil =>
    cases run
    exact ⟨rfl, rfl⟩
  | cons token ts =>
    rw [List.foldlM_cons] at run
    obtain ⟨middle, step, -⟩ := bind_eq_ok_iff.mp run
    cases step

/-- A text that is read as anything but an array or object is one token. -/
theorem lexemesOf_of_read (found : read t = .ok v) (simple : ¬ v.IsComposite) :
    lexemesOf t = [.atom v] ∨ ∃ s, lexemesOf t = [.text s] ∧ v = .text s := by
  have run := run_of_read found
  unfold lexemesOf
  generalize tokens t = ts at run ⊢
  cases ts with
  | nil => cases run
  | cons token ts =>
    rw [List.foldlM_cons] at run
    obtain ⟨middle, step, run⟩ := bind_eq_ok_iff.mp run
    have noNesting : ¬ middle.IsNested := by
      intro nested
      rcases isNested_of_run nested run with inside | composite
      · exact inside rfl
      · exact simple composite
    obtain ⟨lexeme, rest⟩ := token
    simp only [State.step, stepValue] at step
    split at step
    all_goals cases step
    · exact absurd trivial noNesting
    · exact absurd trivial noNesting
    · obtain ⟨rfl, same⟩ := eq_nil_of_run run
      cases same
      exact Or.inl rfl
    · obtain ⟨rfl, same⟩ := eq_nil_of_run run
      cases same
      exact Or.inr ⟨_, rfl, rfl⟩

/-- A text of one token is this token with white space around it. -/
theorem isPadded_of_lexemesOf (one : lexemesOf t = [l]) :
    ∃ p more after, scanToken p more = (l, after) ∧ (∀ q ∈ after, isBlank q) ∧
      ∃ before, (∀ q ∈ before, isBlank q) ∧ t = before ++ p :: more := by
  unfold lexemesOf at one
  fun_induction tokens t with
  | case1 => cases one
  | case2 first more blank ih =>
    obtain ⟨p, tail, after, token, blanks, before, blanks', rfl⟩ := ih one
    exact ⟨p, tail, after, token, blanks, first :: before,
      List.forall_mem_cons.mpr ⟨blank, blanks'⟩, rfl⟩
  | case3 first more dark ih =>
    obtain ⟨lexeme, nothing⟩ := List.cons.inj one
    refine ⟨first, more, _, Prod.ext lexeme rfl, lexemesOf_eq_nil_iff.mp nothing, [], ?_, rfl⟩
    exact fun q mem => absurd mem List.not_mem_nil

theorem scanAtom?_of_scanToken {p : CodePoint} {more : Text}
    (token : scanToken p more = (.atom v, after)) :
    scanAtom? (p :: more) = some (.atom v, after) := by
  unfold scanToken at token
  split at token
  iterate 6 cases token
  · split at token <;> cases token
  · cases found : scanAtom? (p :: more) with
    | none =>
      rw [found] at token
      cases token
    | some scanned =>
      rw [found] at token
      exact congrArg some token

/-- A text that is read as a number is the text of one, or of a word for it. -/
theorem text_of_read (found : read t = .ok v) (number : (∃ n, v = .int n) ∨ ∃ x, v = .real x) :
    ∃ inner, Text.IsPadded isBlank t inner ∧
      ((∃ negative digits, IsIntegerText inner negative digits ∧ digits.length ≤ maxIntegerDigits ∧
          v = .int (signedInt negative digits)) ∨
        (∃ m, IsRealText inner m ∧ v = .real m.toBinary64) ∨ (inner, v) ∈ words) := by
  have simple : ¬ v.IsComposite := by
    rcases number with ⟨n, rfl⟩ | ⟨x, rfl⟩
    · exact not_false
    · exact not_false
  have one : lexemesOf t = [.atom v] := by
    rcases lexemesOf_of_read found simple with one | ⟨s, -, rfl⟩
    · exact one
    · rcases number with ⟨n, eq⟩ | ⟨x, eq⟩
      · cases eq
      · cases eq
  obtain ⟨p, more, after, token, blanks', before, blanks, rfl⟩ := isPadded_of_lexemesOf one
  have atom := scanAtom?_of_scanToken token
  unfold scanAtom? at atom
  split at atom
  · rename_i word
    cases atom
    obtain ⟨entry, mem, same, dropped⟩ := mem_of_scanWord? word
    cases same
    rw [eq_append_of_dropWord? dropped]
    exact ⟨entry.1, ⟨before, after, blanks, blanks', rfl⟩, Or.inr (Or.inr mem)⟩
  · obtain ⟨⟨number, rest⟩, scanned, eq⟩ := Option.map_eq_some_iff.mp atom
    obtain ⟨isLexeme, rfl⟩ := Prod.ext_iff.mp eq
    obtain ⟨front, row, isNumber⟩ := text_of_scanSigned? scanned
    refine ⟨front, ⟨before, rest, blanks, blanks', by rw [row]⟩, ?_⟩
    rcases isNumber with ⟨negative, digits, integer, rfl⟩ | ⟨m, real, rfl⟩
    · by_cases long : maxIntegerDigits < digits.length
      · rw [ScannedNumber.ofDigits, if_pos long] at isLexeme
        cases isLexeme
      · rw [ScannedNumber.ofDigits, if_neg long] at isLexeme
        cases isLexeme
        exact Or.inl ⟨negative, digits, integer, Nat.le_of_not_lt long, rfl⟩
    · cases isLexeme
      exact Or.inr (Or.inl ⟨m, real, rfl⟩)

end TableDdl.Json
