import TableDdl.Number.Numeral
import TableDdl.Proofs.Text.Case
import TableDdl.Proofs.Text.Digits

/-!
# The texts of numerals

A text stands for a number if it is a numeral or the name of one. A numeral may have a sign, digits
before and after a point, of which there is at least one, and an exponent; white space may stand
around it, underscores between digits, and the digits may be those of any script.
`ofText?_eq_some_iff` says that these texts and no others are read.
-/

namespace TableDdl

/-! ## White space -/

namespace Text

/-- `IsPadded isBlank t inner`: the text `t` is `inner` with white space around it. -/
def IsPadded (isBlank : CodePoint → Bool) (t inner : Text) : Prop :=
  ∃ before after : Text, (∀ p ∈ before, isBlank p) ∧ (∀ p ∈ after, isBlank p) ∧
    t = before ++ (inner ++ after)

variable {isBlank : CodePoint → Bool}

theorem dropWhile_append_of_dark {before t : Text}
    (blanks : ∀ p ∈ before, isBlank p) (dark : ∀ p ∈ t.head?, isBlank p = false) :
    (before ++ t).dropWhile isBlank = t := by
  rw [List.dropWhile_append_of_pos blanks]
  cases t with
  | nil => rfl
  | cons p t => rw [List.dropWhile_cons, dark p rfl, if_neg Bool.false_ne_true]

/-- White space around a text without any is dropped. -/
theorem trim_of_isPadded {t inner : Text} (padded : IsPadded isBlank t inner)
    (dark : ∀ p ∈ inner, isBlank p = false) : t.trim isBlank = inner := by
  obtain ⟨before, after, blanks, blanks', rfl⟩ := padded
  by_cases empty : inner = []
  · have all : ∀ p ∈ before ++ ([] ++ after), isBlank p := by
      intro p mem
      rw [List.nil_append] at mem
      exact (List.mem_append.mp mem).elim (blanks p) (blanks' p)
    rw [empty, trim, ← List.append_nil (before ++ ([] ++ after)),
      List.dropWhile_append_of_pos all]
    rfl
  · obtain ⟨p, more, rfl⟩ := List.exists_cons_of_ne_nil empty
    have front : ∀ q ∈ (p :: more ++ after).head?, isBlank q = false := by
      intro q mem
      cases mem
      exact dark p List.mem_cons_self
    have back : ∀ q ∈ (p :: more).reverse.head?, isBlank q = false :=
      fun q mem => dark q (List.mem_reverse.mp (List.mem_of_mem_head? mem))
    have blanks' : ∀ q ∈ after.reverse, isBlank q :=
      fun q mem => blanks' q (List.mem_reverse.mp mem)
    rw [trim, dropWhile_append_of_dark blanks front, List.reverse_append,
      dropWhile_append_of_dark blanks' back, List.reverse_reverse]

theorem isPadded_trim (isBlank : CodePoint → Bool) (t : Text) :
    IsPadded isBlank t (t.trim isBlank) := by
  refine ⟨t.takeWhile isBlank, ((t.dropWhile isBlank).reverse.takeWhile isBlank).reverse,
    List.all_eq_true.mp List.all_takeWhile, ?_, ?_⟩
  · intro p mem
    exact List.all_eq_true.mp List.all_takeWhile p (List.mem_reverse.mp mem)
  · rw [trim, ← List.reverse_append, List.takeWhile_append_dropWhile, List.reverse_reverse,
      List.takeWhile_append_dropWhile]

end Text

namespace Numeral

/-! ## Grammar -/

/-- `IsSign t negative`: the text `t` is the sign of a number, or there is none. -/
inductive IsSign : Text → Bool → Prop
  | absent : IsSign [] false
  | plus : IsSign [.scalar '+'] false
  | minus : IsSign [.scalar '-'] true

/-- `IsFraction t digits`: the text `t` is a point and digits, or there is none. -/
inductive IsFraction : Text → Text → Prop
  | absent : IsFraction [] []
  | point {digits : Text} : (∀ p ∈ digits, p.isDigit) → IsFraction (.scalar '.' :: digits) digits

/-- `IsExponent t n`: the text `t` is a letter and an integer with an optional sign, or there is
none. -/
inductive IsExponent : Text → Int → Prop
  | absent : IsExponent [] 0
  | letter {c : Char} {sign digits : Text} {negative : Bool} : c = 'e' ∨ c = 'E' →
    IsSign sign negative → digits ≠ [] → (∀ p ∈ digits, p.isDigit) →
    IsExponent (.scalar c :: (sign ++ digits))
      (if negative then -Int.ofNat (Text.digitsValue digits)
        else Int.ofNat (Text.digitsValue digits))

/-- `IsUnsigned m t`: the text `t` has the parts of the numeral `m` without its sign. -/
def IsUnsigned (m : Numeral) (t : Text) : Prop :=
  ∃ fraction exponent : Text, t = m.whole ++ (fraction ++ exponent) ∧ (∀ p ∈ m.whole, p.isDigit) ∧
    IsFraction fraction m.fraction ∧ IsExponent exponent m.exponent ∧
    ¬ (m.whole = [] ∧ m.fraction = [])

/-- `IsGrouped t digits`: the text `t` has single underscores between digits of `digits`, and no
others. -/
inductive IsGrouped : Text → Text → Prop
  | nil : IsGrouped [] []
  | cons {p : CodePoint} {t digits : Text} : p ≠ .scalar '_' → IsGrouped t digits →
    IsGrouped (p :: t) (p :: digits)
  | underscore {p q : CodePoint} {t digits : Text} : p.isDigit → q.isDigit →
    IsGrouped (q :: t) (q :: digits) → IsGrouped (p :: .scalar '_' :: q :: t) (p :: q :: digits)

/-- `IsLoose t negative body`: the text `t` is `body` in the loose form in which texts stand for
numbers: with a sign and white space, underscores between digits, and digits of any script. -/
def IsLoose (t : Text) (negative : Bool) (body : Text) : Prop :=
  ∃ grouped sign : Text, Text.IsPadded CodePoint.isNumeralBlank (asciiDigits t) grouped ∧
    IsGrouped grouped (sign ++ body) ∧ IsSign sign negative

/-- `IsNumeralText t m`: the text `t` is the numeral `m`. -/
def IsNumeralText (t : Text) (m : Numeral) : Prop :=
  ∃ body, IsLoose t m.negative body ∧ IsUnsigned m body

/-- `IsNameText t x`: the text `t` is a name of an infinite number or of the undefined one, in small
letters or capitals. -/
inductive IsNameText (t : Text) : Binary64 → Prop
  | infinity {negative : Bool} {name : Text} : IsLoose t negative name →
    name.map CodePoint.toLower ∈ infinityNames → IsNameText t (.infinite negative)
  | nan {negative : Bool} {name : Text} : IsLoose t negative name →
    name.map CodePoint.toLower = nanName → IsNameText t .nan

/-! ## Digits -/

/-- The test for a text that does not go on with digits that stand before it. -/
def EndsDigits (t : Text) : Prop :=
  ∀ p ∈ t.head?, p.isDigit = false

theorem splitDigits_append {digits rest : Text} (all : ∀ p ∈ digits, p.isDigit)
    (ends : EndsDigits rest) : splitDigits (digits ++ rest) = (digits, rest) := by
  have stop : rest.takeWhile CodePoint.isDigit = [] ∧ rest.dropWhile CodePoint.isDigit = rest := by
    cases rest with
    | nil => exact ⟨rfl, rfl⟩
    | cons p rest =>
      rw [List.takeWhile_cons, List.dropWhile_cons, ends p rfl]
      exact ⟨rfl, rfl⟩
  rw [splitDigits, List.takeWhile_append_of_pos all, List.dropWhile_append_of_pos all, stop.1,
    stop.2, List.append_nil]

theorem eq_append_of_splitDigits {t digits rest : Text} (split : splitDigits t = (digits, rest)) :
    t = digits ++ rest ∧ ∀ p ∈ digits, p.isDigit := by
  cases split
  exact ⟨List.takeWhile_append_dropWhile.symm, List.all_eq_true.mp List.all_takeWhile⟩

/-! ## Signs -/

/-- The test for a text that does not begin with a sign. -/
def IsUnmarked (t : Text) : Prop :=
  ∀ p ∈ t.head?, p ≠ .scalar '-' ∧ p ≠ .scalar '+'

theorem splitSign_append {sign t : Text} {negative : Bool} (isSign : IsSign sign negative)
    (unmarked : IsUnmarked t) : splitSign (sign ++ t) = (negative, t) := by
  cases isSign with
  | plus | minus => rfl
  | absent =>
    rw [List.nil_append, splitSign]
    · intro rest eq
      exact (unmarked _ (eq ▸ rfl)).1 rfl
    · intro rest eq
      exact (unmarked _ (eq ▸ rfl)).2 rfl

theorem eq_append_of_splitSign {t rest : Text} {negative : Bool}
    (split : splitSign t = (negative, rest)) :
    ∃ sign, t = sign ++ rest ∧ IsSign sign negative := by
  unfold splitSign at split
  split at split
  · cases split
    exact ⟨_, rfl, .minus⟩
  · cases split
    exact ⟨_, rfl, .plus⟩
  · cases split
    exact ⟨_, rfl, .absent⟩

theorem isUnmarked_of_isDigit {t : Text} (digits : ∀ p ∈ t.head?, p.isDigit) : IsUnmarked t := by
  intro p mem
  have digit := digits p mem
  constructor
  · intro eq
    rw [eq] at digit
    cases digit
  · intro eq
    rw [eq] at digit
    cases digit

/-! ## Exponents -/

theorem splitExponent?_append {t rest : Text} {n : Int} (isExponent : IsExponent t n)
    (given : t ≠ []) (ends : EndsDigits rest) : splitExponent? (t ++ rest) = some (n, rest) := by
  cases isExponent with
  | absent => exact absurd rfl given
  | @letter c sign digits negative letter isSign nonempty all =>
    have unmarked : IsUnmarked (digits ++ rest) := by
      refine isUnmarked_of_isDigit fun p mem => ?_
      obtain ⟨first, more, rfl⟩ := List.exists_cons_of_ne_nil nonempty
      cases mem
      exact all p List.mem_cons_self
    have nonempty : digits.isEmpty = false := List.isEmpty_eq_false_iff.mpr nonempty
    rw [List.cons_append, List.append_assoc]
    simp only [splitExponent?, if_pos letter, splitSign_append isSign unmarked,
      splitDigits_append all ends, nonempty, Bool.false_eq_true, if_false]

theorem splitExponent?_of_noLetter {rest : Text}
    (ends : ∀ p ∈ rest.head?, p ≠ .scalar 'e' ∧ p ≠ .scalar 'E') : splitExponent? rest = none := by
  unfold splitExponent?
  split
  · rename_i c tail
    have noLetter : ¬ (c = 'e' ∨ c = 'E') := by
      intro letter
      rcases letter with rfl | rfl
      · exact (ends _ rfl).1 rfl
      · exact (ends _ rfl).2 rfl
    rw [if_neg noLetter]
  · rfl

theorem eq_append_of_splitExponent? {t rest : Text} {n : Int}
    (split : splitExponent? t = some (n, rest)) :
    ∃ exponent, t = exponent ++ rest ∧ exponent ≠ [] ∧ IsExponent exponent n := by
  unfold splitExponent? at split
  split at split
  · rename_i c tail
    split at split
    · rename_i letter
      rcases signed : splitSign tail with ⟨negative, body⟩
      rcases cut : splitDigits body with ⟨digits, after⟩
      obtain ⟨sign, rfl, isSign⟩ := eq_append_of_splitSign signed
      obtain ⟨rfl, all⟩ := eq_append_of_splitDigits cut
      simp only [signed, cut] at split
      split at split
      · cases split
      · rename_i nonempty
        cases split
        have nonempty : digits ≠ [] := fun empty => nonempty (List.isEmpty_iff.mpr empty)
        refine ⟨_, ?_, List.cons_ne_nil _ _, .letter letter isSign nonempty all⟩
        rw [List.cons_append, List.append_assoc]
    · cases split
  · cases split

theorem IsExponent.head {t : Text} {n : Int} (isExponent : IsExponent t n) :
    ∀ p ∈ t.head?, p = .scalar 'e' ∨ p = .scalar 'E' := by
  intro p mem
  cases isExponent with
  | absent => cases mem
  | letter letter =>
    cases mem
    exact letter.imp (congrArg _) (congrArg _)

/-- Reads an exponent that fills a text. -/
def exponentOf? (t : Text) : Option Int :=
  match t with
  | [] => some 0
  | rest =>
    match splitExponent? rest with
    | some (exponent, []) => some exponent
    | _ => none

theorem exponentOf?_eq_some_iff {t : Text} {n : Int} :
    exponentOf? t = some n ↔ IsExponent t n := by
  constructor
  · intro found
    unfold exponentOf? at found
    split at found
    · cases found
      exact .absent
    · split at found
      · rename_i exponent split
        cases found
        obtain ⟨exponent, eq, -, isExponent⟩ := eq_append_of_splitExponent? split
        rwa [eq, List.append_nil]
      · cases found
  · intro isExponent
    by_cases given : t = []
    · subst given
      cases isExponent
      rfl
    · have ends : EndsDigits [] := fun p mem => absurd mem (Option.not_mem_none p)
      have split := splitExponent?_append isExponent given ends
      rw [List.append_nil] at split
      unfold exponentOf?
      simp only [split]

/-! ## Fractions -/

/-- Reads the digits after a point. -/
def splitPoint (t : Text) : Text × Text :=
  match t with
  | .scalar '.' :: rest => splitDigits rest
  | rest => ([], rest)

theorem splitPoint_append {fraction digits rest : Text} (isFraction : IsFraction fraction digits)
    (ends : EndsDigits rest) (noPoint : ∀ p ∈ rest.head?, p ≠ .scalar '.') :
    splitPoint (fraction ++ rest) = (digits, rest) := by
  cases isFraction with
  | point all => exact splitDigits_append all ends
  | absent =>
    rw [List.nil_append, splitPoint]
    intro tail eq
    exact noPoint _ (eq ▸ rfl) rfl

theorem eq_append_of_splitPoint {t digits rest : Text} (split : splitPoint t = (digits, rest)) :
    ∃ fraction, t = fraction ++ rest ∧ IsFraction fraction digits := by
  unfold splitPoint at split
  split at split
  · obtain ⟨rfl, all⟩ := eq_append_of_splitDigits split
    exact ⟨_, rfl, .point all⟩
  · cases split
    exact ⟨_, rfl, .absent⟩

/-! ## Numerals without a sign -/

/-- A point or the letter of an exponent ends the digits before it. -/
theorem endsDigits_of_parts {fraction digits exponent : Text} {n : Int}
    (isFraction : IsFraction fraction digits) (isExponent : IsExponent exponent n) :
    EndsDigits (fraction ++ exponent) := by
  intro p mem
  cases isFraction with
  | absent =>
    rcases isExponent.head p mem with rfl | rfl
    · rfl
    · rfl
  | point =>
    cases mem
    rfl

theorem ofUnsigned?_eq (negative : Bool) {t whole rest fraction exponent : Text}
    (cut : splitDigits t = (whole, rest)) (pointed : splitPoint rest = (fraction, exponent)) :
    ofUnsigned? negative t =
      if whole.isEmpty && fraction.isEmpty then none
      else (exponentOf? exponent).map (⟨negative, whole, fraction, ·⟩) := by
  have tail : ∀ after : Text,
      (match after with
        | [] => some (⟨negative, whole, fraction, 0⟩ : Numeral)
        | after =>
          match splitExponent? after with
          | some (exponent, []) => some ⟨negative, whole, fraction, exponent⟩
          | _ => none) = (exponentOf? after).map (⟨negative, whole, fraction, ·⟩) := by
    intro after
    unfold exponentOf?
    split
    · rfl
    · split <;> simp [*]
  unfold splitPoint at pointed
  unfold ofUnsigned?
  split at pointed
  · simp only [cut, pointed]
    congr 1
    exact tail exponent
  · cases pointed
    simp only [cut]
    congr 1
    exact tail rest

/-- A numeral without a sign is read as its parts, and nothing else is read. -/
theorem ofUnsigned?_eq_some_iff {negative : Bool} {t : Text} {m : Numeral} :
    ofUnsigned? negative t = some m ↔ IsUnsigned m t ∧ m.negative = negative := by
  constructor
  · intro found
    rcases cut : splitDigits t with ⟨whole, rest⟩
    rcases pointed : splitPoint rest with ⟨digits, after⟩
    rw [ofUnsigned?_eq negative cut pointed] at found
    obtain ⟨rfl, all⟩ := eq_append_of_splitDigits cut
    obtain ⟨fraction, rfl, isFraction⟩ := eq_append_of_splitPoint pointed
    split at found
    · cases found
    · rename_i given
      obtain ⟨exponent, read, rfl⟩ := Option.map_eq_some_iff.mp found
      rw [Bool.and_eq_true, List.isEmpty_iff, List.isEmpty_iff] at given
      exact ⟨⟨fraction, after, rfl, all, isFraction, exponentOf?_eq_some_iff.mp read, given⟩, rfl⟩
  · intro numeral
    obtain ⟨⟨fraction, exponent, rfl, all, isFraction, isExponent, given⟩, rfl⟩ := numeral
    have cut := splitDigits_append all (endsDigits_of_parts isFraction isExponent)
    have pointed : splitPoint (fraction ++ exponent) = (m.fraction, exponent) := by
      refine splitPoint_append isFraction ?_ ?_
      · exact endsDigits_of_parts .absent isExponent
      · intro p mem
        rcases isExponent.head p mem with rfl | rfl
        · nofun
        · nofun
    have given : ¬ (m.whole.isEmpty && m.fraction.isEmpty) = true := by
      rwa [Bool.and_eq_true, List.isEmpty_iff, List.isEmpty_iff]
    rw [ofUnsigned?_eq m.negative cut pointed, if_neg given, exponentOf?_eq_some_iff.mpr isExponent]
    rfl

/-! ## Underscores -/

theorem IsGrouped.head {q : CodePoint} {t digits : Text} (grouped : IsGrouped (q :: t) digits) :
    q ≠ .scalar '_' ∧ ∃ more, digits = q :: more := by
  cases grouped with
  | cons other => exact ⟨other, _, rfl⟩
  | underscore digit =>
    refine ⟨fun eq => ?_, _, rfl⟩
    rw [eq] at digit
    cases digit

/-- The underscores between digits are dropped, and no others are read. -/
theorem joinDigitGroups?_eq_some_iff {t digits : Text} :
    joinDigitGroups? t = some digits ↔ IsGrouped t digits := by
  constructor
  · intro found
    fun_induction joinDigitGroups? t generalizing digits with
    | case1 =>
      cases found
      exact .nil
    | case2 => cases found
    | case3 p q rest noUnderscore bothDigits ih =>
      obtain ⟨joined, inner, rfl⟩ := Option.map_eq_some_iff.mp found
      obtain ⟨-, more, rfl⟩ := (ih inner).head
      obtain ⟨first, second⟩ := Bool.and_eq_true_iff.mp bothDigits
      exact .underscore first second (ih inner)
    | case4 => cases found
    | case5 p rest noUnderscore noGroup ih =>
      obtain ⟨joined, inner, rfl⟩ := Option.map_eq_some_iff.mp found
      exact .cons noUnderscore (ih inner)
  · intro grouped
    induction grouped with
    | nil => rfl
    | @cons p t digits other grouped ih =>
      have step : joinDigitGroups? (p :: t) = (p :: ·) <$> joinDigitGroups? t := by
        rw [joinDigitGroups?]
        · exact other
        · intro q rest eq
          rw [eq] at grouped
          exact grouped.head.1 rfl
      rw [step, ih]
      rfl
    | @underscore p q t digits first second grouped ih =>
      rw [joinDigitGroups?, first, second, ih]
      · rfl
      · intro eq
        rw [eq] at first
        cases first

/-- What holds of the underscore and of all code points without their underscores holds of all. -/
theorem IsGrouped.forall {t digits : Text} (grouped : IsGrouped t digits) {P : CodePoint → Prop}
    (underscore : P (.scalar '_')) (all : ∀ p ∈ digits, P p) : ∀ p ∈ t, P p := by
  induction grouped with
  | nil => exact fun p mem => absurd mem List.not_mem_nil
  | cons other grouped ih =>
    obtain ⟨first, others⟩ := List.forall_mem_cons.mp all
    exact List.forall_mem_cons.mpr ⟨first, ih others⟩
  | underscore p q grouped ih =>
    obtain ⟨first, others⟩ := List.forall_mem_cons.mp all
    exact List.forall_mem_cons.mpr ⟨first, List.forall_mem_cons.mpr ⟨underscore, ih others⟩⟩

/-! ## Digits, capitals and white space -/

theorem toLower_of_isDigit {p : CodePoint} (digit : p.isDigit) : p.toLower = p := by
  cases p with
  | surrogate offset => rfl
  | scalar c =>
    have bounds := Text.bounds_of_isDigit digit
    exact CodePoint.toLower_of_noCapital (by omega)

theorem bounds_of_mem_numeralBlanks :
    ∀ range ∈ CodePoint.numeralBlanks, range.2 < 48 ∨ 122 < range.1 := by
  decide

/-- White space is no digit and no capital. -/
theorem of_isNumeralBlank {p : CodePoint} (blank : p.isNumeralBlank) :
    p.isDigit = false ∧ p.toLower = p := by
  cases p with
  | surrogate offset => exact ⟨rfl, rfl⟩
  | scalar c =>
    have outside : c.toNat < 48 ∨ 122 < c.toNat := by
      obtain ⟨range, mem, inside⟩ := List.any_eq_true.mp blank
      rw [Bool.and_eq_true, decide_eq_true_iff, decide_eq_true_iff, CodePoint.value] at inside
      have bounds := bounds_of_mem_numeralBlanks range mem
      omega
    refine ⟨?_, CodePoint.toLower_of_noCapital (by omega)⟩
    rw [Bool.eq_false_iff]
    intro digit
    have bounds := Text.bounds_of_isDigit digit
    omega

theorem bounds_of_mem_decimalZeros :
    ∀ first ∈ CodePoint.decimalZeros, first = 48 ∨ 128 ≤ first := by
  decide

/-- ASCII text has no other digits than those of ASCII. -/
theorem asciiDigits_eq_self {t : Text} (ascii : ∀ p ∈ t, p.value < 128) : asciiDigits t = t := by
  have each : ∀ p ∈ t, ∀ d, p.decimalDigit? = some d → .scalar (Nat.digitChar d) = p := by
    intro p mem d found
    obtain ⟨first, isFirst, rfl⟩ := Option.map_eq_some_iff.mp found
    have range := List.find?_some isFirst
    rw [Bool.and_eq_true, decide_eq_true_iff, decide_eq_true_iff] at range
    have small := ascii p mem
    have bounds := bounds_of_mem_decimalZeros first (List.mem_of_find?_eq_some isFirst)
    obtain rfl : first = 48 := by omega
    cases p with
    | scalar c => exact congrArg _ (Text.digitChar_toNat_sub range)
    | surrogate offset =>
      rw [CodePoint.value, CodePoint.surrogateBase] at small
      omega
  refine (List.map_congr_left fun p mem => ?_).trans (List.map_id t)
  split
  · rename_i d found
    exact each p mem d found
  · rfl

theorem not_isNumeralBlank_of_isDigit {p : CodePoint} (digit : p.isDigit) :
    p.isNumeralBlank = false := by
  rw [Bool.eq_false_iff]
  intro blank
  rw [(of_isNumeralBlank blank).1] at digit
  cases digit

/-! ## The parts of numerals -/

theorem IsSign.dark {sign : Text} {negative : Bool} (isSign : IsSign sign negative) :
    ∀ p ∈ sign, p.isNumeralBlank = false := by
  cases isSign <;> decide

theorem dark_of_digits {digits : Text} (all : ∀ p ∈ digits, p.isDigit) :
    ∀ p ∈ digits, p.isNumeralBlank = false :=
  fun p mem => not_isNumeralBlank_of_isDigit (all p mem)

theorem IsFraction.dark {t digits : Text} (isFraction : IsFraction t digits) :
    ∀ p ∈ t, p.isNumeralBlank = false := by
  cases isFraction with
  | absent => exact fun p mem => absurd mem List.not_mem_nil
  | point all => exact List.forall_mem_cons.mpr ⟨rfl, dark_of_digits all⟩

theorem IsExponent.dark {t : Text} {n : Int} (isExponent : IsExponent t n) :
    ∀ p ∈ t, p.isNumeralBlank = false := by
  cases isExponent with
  | absent => exact fun p mem => absurd mem List.not_mem_nil
  | letter letter isSign _ all =>
    refine List.forall_mem_cons.mpr
      ⟨?_, List.forall_mem_append.mpr ⟨isSign.dark, dark_of_digits all⟩⟩
    rcases letter with rfl | rfl
    · rfl
    · rfl

variable {m : Numeral} {t body : Text} {negative : Bool}

theorem IsUnsigned.dark (numeral : IsUnsigned m body) : ∀ p ∈ body, p.isNumeralBlank = false := by
  obtain ⟨fraction, exponent, rfl, whole, isFraction, isExponent, -⟩ := numeral
  exact List.forall_mem_append.mpr
    ⟨dark_of_digits whole, List.forall_mem_append.mpr ⟨isFraction.dark, isExponent.dark⟩⟩

/-- A numeral begins with a digit, or with a point and a digit. -/
theorem IsUnsigned.front (numeral : IsUnsigned m body) : ∃ p, p.isDigit ∧
    ((∃ rest, body = p :: rest) ∨ ∃ rest, body = .scalar '.' :: p :: rest) := by
  obtain ⟨fraction, exponent, rfl, whole, isFraction, -, given⟩ := numeral
  by_cases empty : m.whole = []
  · have nonempty : m.fraction ≠ [] := fun nothing => given ⟨empty, nothing⟩
    generalize m.fraction = digits at isFraction nonempty
    cases isFraction with
    | absent => exact absurd rfl nonempty
    | point all =>
      obtain ⟨p, more, rfl⟩ := List.exists_cons_of_ne_nil nonempty
      rw [empty]
      exact ⟨p, all p List.mem_cons_self, Or.inr ⟨_, rfl⟩⟩
  · obtain ⟨p, more, eq⟩ := List.exists_cons_of_ne_nil empty
    rw [eq] at whole ⊢
    exact ⟨p, whole p List.mem_cons_self, Or.inl ⟨_, rfl⟩⟩

theorem IsUnsigned.isUnmarked (numeral : IsUnsigned m body) : IsUnmarked body := by
  obtain ⟨p, digit, ⟨rest, rfl⟩ | ⟨rest, rfl⟩⟩ := numeral.front
  · refine isUnmarked_of_isDigit fun q mem => ?_
    cases mem
    exact digit
  · intro q mem
    cases mem
    exact ⟨nofun, nofun⟩

/-! ## Names -/

/-- The code points of the names are neither digits nor white space nor signs. -/
theorem of_mem_names : ∀ name ∈ nanName :: infinityNames, ∀ p ∈ name,
    p.isDigit = false ∧ p.isNumeralBlank = false ∧ p ≠ .scalar '-' ∧ p ≠ .scalar '+' := by
  decide

/-- A numeral is no name. -/
theorem IsUnsigned.not_mem_names (numeral : IsUnsigned m body) :
    body.map CodePoint.toLower ∉ nanName :: infinityNames := by
  intro isName
  obtain ⟨p, digit, row⟩ := numeral.front
  have mem : p ∈ body := by
    rcases row with ⟨rest, rfl⟩ | ⟨rest, rfl⟩
    · exact List.mem_cons_self
    · exact List.mem_cons_of_mem _ List.mem_cons_self
  have inName : p ∈ body.map CodePoint.toLower :=
    List.mem_map.mpr ⟨p, mem, toLower_of_isDigit digit⟩
  rw [(of_mem_names _ isName p inName).1] at digit
  cases digit

theorem of_isName (isName : body.map CodePoint.toLower ∈ nanName :: infinityNames) :
    (∀ p ∈ body, p.isNumeralBlank = false) ∧ IsUnmarked body := by
  have each : ∀ p ∈ body, p.toLower.isNumeralBlank = false ∧ p.toLower ≠ .scalar '-' ∧
      p.toLower ≠ .scalar '+' := by
    intro p mem
    exact (of_mem_names _ isName _ (List.mem_map_of_mem mem)).2
  refine ⟨fun p mem => ?_, fun p mem => ?_⟩
  · rw [Bool.eq_false_iff]
    intro blank
    have dark := (each p mem).1
    rw [(of_isNumeralBlank blank).2, blank] at dark
    cases dark
  · obtain ⟨-, noMinus, noPlus⟩ := each p (List.mem_of_mem_head? mem)
    refine ⟨fun eq => ?_, fun eq => ?_⟩
    · rw [eq] at noMinus
      exact noMinus rfl
    · rw [eq] at noPlus
      exact noPlus rfl

/-! ## The texts that stand for numbers -/

/-- The number that a text without its sign and its white space stands for. -/
def ofBody? (negative : Bool) (body : Text) : Option Binary64 :=
  if infinityNames.contains (body.map CodePoint.toLower) then some (.infinite negative)
  else if body.map CodePoint.toLower = nanName then some .nan
  else toBinary64 <$> ofUnsigned? negative body

theorem ofText?_of_isLoose (loose : IsLoose t negative body)
    (dark : ∀ p ∈ body, p.isNumeralBlank = false) (unmarked : IsUnmarked body) :
    Binary64.ofText? t = ofBody? negative body := by
  obtain ⟨grouped, sign, padded, joined, isSign⟩ := loose
  have inside : ∀ p ∈ grouped, p.isNumeralBlank = false :=
    joined.forall rfl (List.forall_mem_append.mpr ⟨isSign.dark, dark⟩)
  have trimmed := Text.trim_of_isPadded padded inside
  have ungrouped := joinDigitGroups?_eq_some_iff.mpr joined
  simp only [Binary64.ofText?, ofBody?, trimmed, ungrouped, Option.bind_eq_bind, Option.bind_some,
    splitSign_append isSign unmarked, List.contains_iff_mem]

theorem exists_isLoose_of_ofText? {x : Binary64} (found : Binary64.ofText? t = some x) :
    ∃ negative body, IsLoose t negative body ∧ ofBody? negative body = some x := by
  unfold Binary64.ofText? at found
  obtain ⟨joined, grouped, found⟩ := Option.bind_eq_some_iff.mp found
  rcases signed : splitSign joined with ⟨negative, body⟩
  obtain ⟨sign, rfl, isSign⟩ := eq_append_of_splitSign signed
  rw [signed] at found
  have loose : IsLoose t negative body :=
    ⟨_, sign, Text.isPadded_trim _ _, joinDigitGroups?_eq_some_iff.mp grouped, isSign⟩
  exact ⟨negative, body, loose, by rw [← found]; simp only [ofBody?, List.contains_iff_mem]⟩

/-- The texts that stand for numbers are the numerals, which are rounded, and the names. -/
theorem ofText?_eq_some_iff {x : Binary64} :
    Binary64.ofText? t = some x ↔ (∃ m, IsNumeralText t m ∧ m.toBinary64 = x) ∨ IsNameText t x := by
  constructor
  · intro found
    obtain ⟨negative, body, loose, found⟩ := exists_isLoose_of_ofText? found
    unfold ofBody? at found
    split at found
    · rename_i isName
      cases found
      exact Or.inr (.infinity loose (List.contains_iff_mem.mp isName))
    · split at found
      · rename_i isName
        cases found
        exact Or.inr (.nan loose isName)
      · obtain ⟨m, read, rfl⟩ := Option.map_eq_some_iff.mp found
        obtain ⟨numeral, rfl⟩ := ofUnsigned?_eq_some_iff.mp read
        exact Or.inl ⟨m, ⟨body, loose, numeral⟩, rfl⟩
  · intro stands
    rcases stands with ⟨m, ⟨body, loose, numeral⟩, rfl⟩ | named
    · have noName := numeral.not_mem_names
      rw [List.mem_cons, not_or] at noName
      have noInfinity := mt List.contains_iff_mem.mp noName.2
      rw [ofText?_of_isLoose loose numeral.dark numeral.isUnmarked, ofBody?, if_neg noInfinity,
        if_neg noName.1, ofUnsigned?_eq_some_iff.mpr ⟨numeral, rfl⟩]
      rfl
    · cases named with
      | infinity loose isName =>
        obtain ⟨dark, unmarked⟩ := of_isName (List.mem_cons_of_mem _ isName)
        rw [ofText?_of_isLoose loose dark unmarked, ofBody?,
          if_pos (List.contains_iff_mem.mpr isName)]
      | nan loose isName =>
        obtain ⟨dark, unmarked⟩ := of_isName (List.mem_cons.mpr (Or.inl isName))
        have noInfinity : ¬ infinityNames.contains nanName := by decide
        rw [ofText?_of_isLoose loose dark unmarked, ofBody?, isName, if_neg noInfinity, if_pos rfl]

end Numeral

end TableDdl
