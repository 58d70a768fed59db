import TableDdl.Proofs.Column.Plain
import TableDdl.Proofs.Text.Case

/-!
# Sanitized names

What becomes of field names as column names. Whether a name is put between backticks is decided on
the whole name, and what stands between them is what is left of it. The two may disagree: a name may
be reserved while what is left of it is not, or the other way round. `sanitize_tells_names_apart`
says which names become the same column name, and which column names would stay as they are.
-/

namespace TableDdl.Column

/-! ## What is left of a name -/

/-- What is left of a name without the code points that a column name may not hold. -/
def stripped (name : Text) : Text :=
  name.filter isNamePoint

/-- The test for a name that nothing has to be dropped from. -/
def IsLegal (name : Text) : Prop :=
  ∀ p ∈ name, isNamePoint p

instance (name : Text) : Decidable (IsLegal name) :=
  inferInstanceAs (Decidable (∀ p ∈ name, isNamePoint p))

/-- A text between backticks. -/
def quoted (t : Text) : Text :=
  .scalar '\x60' :: t ++ [.scalar '\x60']

/-- The code points of a column name are those between A and Z, a and z, 0 and 9, and two more. -/
theorem isNamePoint_iff {p : CodePoint} :
    isNamePoint p ↔ ∃ c : Char, p = .scalar c ∧
      ('A' ≤ c ∧ c ≤ 'Z' ∨ 'a' ≤ c ∧ c ≤ 'z' ∨ '0' ≤ c ∧ c ≤ '9' ∨ c = '_' ∨ c = '-') := by
  cases p with
  | surrogate offset => simp [isNamePoint]
  | scalar c =>
    have ranges : c.isAlphanum =
        (decide ('A' ≤ c ∧ c ≤ 'Z') || ('a' ≤ c && c ≤ 'z') || ('0' ≤ c && c ≤ '9')) := rfl
    simp only [isNamePoint, ranges, Bool.or_eq_true, Bool.and_eq_true, decide_eq_true_eq, or_assoc,
      CodePoint.scalar.injEq, exists_eq_left']

theorem stripped_of_isLegal {name : Text} (legal : IsLegal name) : stripped name = name :=
  List.filter_eq_self.mpr legal

theorem isLegal_stripped (name : Text) : IsLegal (stripped name) :=
  fun _ mem => (List.mem_filter.mp mem).2

theorem backtick_notMem_stripped (name : Text) : CodePoint.scalar '\x60' ∉ stripped name :=
  fun mem => absurd (isLegal_stripped name _ mem) (by decide)

theorem stripped_quoted (t : Text) : stripped (quoted t) = stripped t := by
  have front : quoted t = [.scalar '\x60'] ++ t ++ [.scalar '\x60'] := rfl
  have dropped : List.filter isNamePoint [.scalar '\x60'] = [] := rfl
  rw [front, stripped, List.filter_append, List.filter_append, dropped, List.nil_append,
    List.append_nil, stripped]

theorem quoted_inj {t u : Text} : quoted t = quoted u ↔ t = u := by
  rw [quoted, quoted, List.append_cancel_right_eq, List.cons.injEq, eq_self, true_and]

theorem quoted_ne_stripped (t name : Text) : quoted t ≠ stripped name := by
  intro same
  refine backtick_notMem_stripped name ?_
  rw [← same]
  exact List.mem_cons_self

/-! ## Reserved words -/

/-- The reserved words are in ASCII without backticks, and each has a legal letter that is not the
one of the Kelvin sign. -/
theorem points_of_mem_reservedWords : ∀ word ∈ reservedWords,
    (∀ p ∈ Text.ofString word, p.value < 0x80 ∧ p ≠ .scalar '\x60') ∧
      ∃ p ∈ Text.ofString word, isNamePoint p ∧ p ≠ .scalar 'k' := by
  decide +kernel

theorem isReserved_iff_toLower {name : Text} :
    isReserved name ↔ ∃ word ∈ reservedWords, name.toLower = Text.ofString word := by
  rw [isReserved, List.any_eq_true]
  refine exists_congr fun word => and_congr_right fun _ => ?_
  rw [decide_eq_true_eq, eq_comm]

/-- A name is reserved exactly if its small letters, in whatever script its capitals are, are those
of a reserved word. -/
theorem isReserved_iff {name : Text} :
    isReserved name ↔ ∃ word ∈ reservedWords, name.toSmall = Text.ofString word := by
  rw [isReserved_iff_toLower]
  refine exists_congr fun word => and_congr_right fun mem => ?_
  exact (Text.toSmall_eq_iff fun p inWord =>
    ((points_of_mem_reservedWords word mem).1 p inWord).1).symm

theorem isNamePoint_of_toLower {p : CodePoint} (legal : isNamePoint p.toLower) : isNamePoint p := by
  by_cases ascii : p.value < 0x80
  · revert legal
    apply CodePoint.forall_ascii (motive := fun p => isNamePoint p.toLower → isNamePoint p) _ ascii
    decide +kernel
  · rwa [CodePoint.toLower_of_le (Nat.le_of_not_lt ascii)] at legal

/-- Something is left of a reserved name: a Kelvin sign is dropped, but no reserved word is made of
its letter alone. -/
theorem stripped_ne_nil {name : Text} (reserved : isReserved name) : stripped name ≠ [] := by
  obtain ⟨word, mem, lower⟩ := isReserved_iff_toLower.mp reserved
  obtain ⟨q, inWord, legal, other⟩ := (points_of_mem_reservedWords word mem).2
  rw [← lower, Text.toLower] at inWord
  obtain ⟨p, inName, isLower⟩ := List.mem_map.mp inWord
  split at isLower
  · exact absurd isLower.symm other
  · rw [← isLower] at legal
    have left : p ∈ stripped name :=
      List.mem_filter.mpr ⟨inName, isNamePoint_of_toLower legal⟩
    exact List.ne_nil_of_mem left

/-- No name between backticks is reserved. -/
theorem isReserved_quoted (t : Text) : isReserved (quoted t) = false := by
  by_contra reserved
  obtain ⟨word, mem, lower⟩ := isReserved_iff_toLower.mp (Bool.not_eq_false _ ▸ reserved)
  have first : CodePoint.scalar '\x60' ∈ Text.ofString word := by
    rw [← lower]
    exact List.mem_cons_self
  exact ((points_of_mem_reservedWords word mem).1 _ first).2 rfl

/-! ## Column names -/

theorem sanitize_of_reserved {name : Text} (reserved : isReserved name) :
    sanitize name = quoted (stripped name) := by
  rw [sanitize, if_pos reserved, quoted, stripped]

theorem sanitize_of_free {name : Text} (free : isReserved name = false) :
    sanitize name = stripped name := by
  rw [sanitize, if_neg (Bool.eq_false_iff.mp free), stripped]

theorem sanitize_eq_quoted_iff {name : Text} :
    sanitize name = quoted (stripped name) ↔ isReserved name := by
  refine ⟨fun same => ?_, sanitize_of_reserved⟩
  by_contra free
  rw [sanitize_of_free (Bool.eq_false_iff.mpr free)] at same
  exact quoted_ne_stripped _ _ same.symm

/-- Two names become the same column name exactly if the same is left of them and both or none of
them are reserved. -/
theorem sanitize_eq_sanitize_iff {a b : Text} :
    sanitize a = sanitize b ↔ stripped a = stripped b ∧ isReserved a = isReserved b := by
  cases reserved : isReserved a with
  | true =>
    cases reserved' : isReserved b with
    | true => simp [sanitize_of_reserved reserved, sanitize_of_reserved reserved', quoted_inj]
    | false =>
      simp [sanitize_of_reserved reserved, sanitize_of_free reserved', quoted_ne_stripped]
  | false =>
    cases reserved' : isReserved b with
    | true =>
      simp [sanitize_of_free reserved, sanitize_of_reserved reserved',
        (quoted_ne_stripped _ _).symm]
    | false => simp [sanitize_of_free reserved, sanitize_of_free reserved']

/-- Backticks are dropped when a column name is taken as a field name. -/
theorem sanitize_quoted (t : Text) : sanitize (quoted t) = stripped t := by
  rw [sanitize_of_free (isReserved_quoted t), stripped_quoted]

theorem sanitize_sanitize_eq_iff {name : Text} :
    sanitize (sanitize name) = sanitize name ↔
      isReserved name = false ∧ isReserved (stripped name) = false := by
  cases reserved : isReserved name with
  | true =>
    rw [sanitize_of_reserved reserved, sanitize_quoted]
    simp [(quoted_ne_stripped _ _).symm]
  | false =>
    have left := stripped_of_isLegal (isLegal_stripped name)
    rw [sanitize_of_free reserved]
    cases reservedLeft : isReserved (stripped name) with
    | true =>
      rw [sanitize_of_reserved reservedLeft, left]
      simp [quoted_ne_stripped]
    | false =>
      rw [sanitize_of_free reservedLeft, left]
      simp

/-- A column name is what is left of the field name without all but ASCII letters and digits, `_`
and `-`. It stands between backticks exactly if the field name is reserved in the small letters of
any script; then it is not empty. Two field names become the same column name exactly if the same is
left of them and both or none of them are reserved, so that legal names are never mixed up. A column
name stays as it is when it is taken as a field name again, exactly if neither the field name nor
what is left of it is reserved; a legal reserved name is put between backticks again the third
time. -/
theorem sanitize_tells_names_apart (a b : Text) :
    (∀ p, isNamePoint p = true ↔ ∃ c : Char, p = .scalar c ∧
      ('A' ≤ c ∧ c ≤ 'Z' ∨ 'a' ≤ c ∧ c ≤ 'z' ∨ '0' ≤ c ∧ c ≤ '9' ∨ c = '_' ∨ c = '-')) ∧
    ((sanitize a = stripped a ∧ isReserved a = false ∨
        sanitize a = quoted (stripped a) ∧ stripped a ≠ [] ∧ isReserved a = true) ∧
      (sanitize a = quoted (stripped a) ↔ isReserved a = true) ∧
      (isReserved a = true ↔ ∃ word ∈ reservedWords, a.toSmall = Text.ofString word)) ∧
    ((sanitize a = sanitize b ↔ stripped a = stripped b ∧ isReserved a = isReserved b) ∧
      (IsLegal a → IsLegal b → sanitize a = sanitize b → a = b)) ∧
    (sanitize (sanitize a) = sanitize a ↔
      isReserved a = false ∧ isReserved (stripped a) = false) ∧
    (isReserved a = true → IsLegal a → sanitize (sanitize (sanitize a)) = sanitize a) := by
  refine ⟨fun p => isNamePoint_iff, ⟨?kinds, sanitize_eq_quoted_iff, isReserved_iff⟩,
    ⟨sanitize_eq_sanitize_iff, ?legal⟩, sanitize_sanitize_eq_iff, ?again⟩
  case kinds =>
    cases reserved : isReserved a with
    | true => exact Or.inr ⟨sanitize_of_reserved reserved, stripped_ne_nil reserved, rfl⟩
    | false => exact Or.inl ⟨sanitize_of_free reserved, rfl⟩
  case legal =>
    intro legal legal' same
    have left := (sanitize_eq_sanitize_iff.mp same).1
    rwa [stripped_of_isLegal legal, stripped_of_isLegal legal'] at left
  case again =>
    intro reserved legal
    rw [sanitize_of_reserved reserved, sanitize_quoted, stripped_of_isLegal legal,
      stripped_of_isLegal legal, sanitize_of_reserved reserved, stripped_of_isLegal legal]

/-- A legal reserved name, the same name in small letters, and the same name with a Kelvin sign, of
which less is left, become three column names. -/
theorem sanitize_like :
    isReserved "Like" = true ∧ IsLegal "Like" ∧ IsLegal "like" ∧
      sanitize (sanitize (sanitize "Like")) = sanitize "Like" ∧
      sanitize "Like" ≠ sanitize "like" ∧
      isReserved "Li\u212ae" = true ∧ sanitize "Like" ≠ sanitize "Li\u212ae" := by
  have reserved : isReserved "Like" = true := by decide +kernel
  have kelvin : isReserved "Li\u212ae" = true := by decide +kernel
  have legal : IsLegal "Like" := by decide
  have legal' : IsLegal "like" := by decide
  rcases sanitize_tells_names_apart "Like" "like" with ⟨-, -, ⟨-, apart⟩, -, again⟩
  rcases sanitize_tells_names_apart "Like" "Li\u212ae" with ⟨-, -, ⟨collide, -⟩, -⟩
  refine ⟨reserved, legal, legal', again reserved legal, ?_, kelvin, ?_⟩
  · intro same
    exact absurd (apart legal legal' same) (by decide)
  · intro same
    exact absurd (collide.mp same).1 (by decide)

end TableDdl.Column
