import Mathlib.Data.List.Basic
import TableDdl.Text.Basic

/-!
# Literals between single quotation marks

A statement is read as far as its quotation marks go. A literal runs from a mark to the next mark
that is not doubled, and a doubled mark stands for one, so that a text is written by doubling its
marks. `parts?` reads what is written in this way, and nothing else (`parts?_eq_some_iff`). Texts
that are put between marks as they are can be told from what is around them exactly if no mark is
among their code points (`parts?_bare_iff`).
-/

namespace TableDdl.Literal

/-- The quotation mark of literals. -/
def mark : CodePoint := .scalar '\x27'

/-- A part of a statement: a code point outside of all literals, or the value of a literal. -/
inductive Part where
  | outside (p : CodePoint)
  | literal (value : Text)
  deriving DecidableEq

/-- The value of a part that is a literal. -/
def Part.value? : Part → Option Text
  | .outside _ => none
  | .literal value => some value

/-! ## The reader -/

/-- Where the reader of a statement stands: outside of all literals, inside a literal, or behind a
mark that ends a literal unless it is doubled. A literal is known by what was read of its value. -/
inductive Position where
  | outside
  | inside (value : Text)
  | behindMark (value : Text)

/-- The parts of a text that is read from a position on; there are none if a literal does not end.
-/
def partsFrom? : Position → Text → Option (List Part)
  | .outside, [] => some []
  | .inside _, [] => none
  | .behindMark value, [] => some [.literal value]
  | .outside, p :: rest =>
    if p = mark then partsFrom? (.inside []) rest
    else (Part.outside p :: ·) <$> partsFrom? .outside rest
  | .inside value, p :: rest =>
    if p = mark then partsFrom? (.behindMark value) rest
    else partsFrom? (.inside (value ++ [p])) rest
  | .behindMark value, p :: rest =>
    if p = mark then partsFrom? (.inside (value ++ [p])) rest
    else (fun parts => .literal value :: .outside p :: parts) <$> partsFrom? .outside rest

/-- The parts of a text. -/
def parts? (t : Text) : Option (List Part) :=
  partsFrom? .outside t

/-! ## The writer -/

/-- The text with its marks doubled. -/
def double (t : Text) : Text :=
  t.flatMap fun p => if p = mark then [mark, mark] else [p]

/-- How a part is written. -/
def Part.text : Part → Text
  | .outside p => [p]
  | .literal value => mark :: double value ++ [mark]

/-- How a part is written if no mark is doubled. -/
def Part.bare : Part → Text
  | .outside p => [p]
  | .literal value => mark :: value ++ [mark]

/-- Parts that do not run into each other: no mark is outside of the literals, and no two literals
are neighbours. -/
def AreSeparate : List Part → Prop
  | [] => True
  | .outside p :: rest => p ≠ mark ∧ AreSeparate rest
  | .literal _ :: .literal _ :: _ => False
  | .literal _ :: rest => AreSeparate rest

variable {p : CodePoint} {t value rest : Text} {parts : List Part}

theorem double_cons_mark : double (mark :: t) = mark :: mark :: double t := rfl

theorem double_cons_of_ne (differs : p ≠ mark) : double (p :: t) = p :: double t := by
  rw [double, List.flatMap_cons, if_neg differs]
  rfl

theorem AreSeparate.of_cons {part : Part} (separate : AreSeparate (part :: parts)) :
    AreSeparate parts := by
  cases part with
  | outside p => exact separate.2
  | literal value =>
    rcases parts with _ | ⟨⟨p⟩ | ⟨other⟩, rest⟩
    · trivial
    · exact separate
    · exact separate.elim

/-! ## What is written is read back -/

/-- Inside a literal a doubled text is read as the text. -/
theorem partsFrom?_inside_double (t value rest : Text) :
    partsFrom? (.inside value) (double t ++ rest) = partsFrom? (.inside (value ++ t)) rest := by
  induction t generalizing value with
  | nil => rw [List.append_nil]; rfl
  | cons p t ih =>
    have longer : value ++ p :: t = (value ++ [p]) ++ t := by rw [List.append_assoc]; rfl
    rw [longer, ← ih]
    by_cases same : p = mark
    · subst same
      rfl
    · rw [double_cons_of_ne same, List.cons_append, partsFrom?, if_neg same]

theorem parts?_cons_of_ne (differs : p ≠ mark) :
    parts? (p :: t) = (Part.outside p :: ·) <$> parts? t := by
  rw [parts?, partsFrom?, if_neg differs]
  rfl

theorem parts?_text (separate : AreSeparate parts) :
    parts? (parts.flatMap Part.text) = some parts := by
  induction parts with
  | nil => rfl
  | cons part rest ih =>
    have read := ih separate.of_cons
    cases part with
    | outside p =>
      show parts? (p :: rest.flatMap Part.text) = _
      rw [parts?_cons_of_ne separate.1, read]
      rfl
    | literal value =>
      have opened : parts? ((Part.literal value :: rest).flatMap Part.text) =
          partsFrom? (.behindMark value) (rest.flatMap Part.text) := by
        show partsFrom? (.inside []) ((double value ++ [mark]) ++ rest.flatMap Part.text) = _
        rw [List.append_assoc, partsFrom?_inside_double]
        rfl
      rw [opened]
      -- What follows the literal decides that its last mark is not doubled.
      rcases rest with _ | ⟨⟨p⟩ | ⟨other⟩, rest⟩
      · rfl
      · have differs : p ≠ mark := separate.1
        change parts? (p :: rest.flatMap Part.text) = _ at read
        rw [parts?_cons_of_ne differs, Option.map_eq_map, Option.map_eq_some_iff] at read
        obtain ⟨others, read, same⟩ := read
        cases same
        show partsFrom? (.behindMark value) (p :: rest.flatMap Part.text) = _
        rw [partsFrom?, if_neg differs, ← parts?, read]
        rfl
      · exact separate.elim

/-! ## What is read was written -/

/-- How parts that are read from a position on are written. Behind a mark, the reader has yet to
take the mark. -/
def IsWritten (parts : List Part) : Position → Text → Prop
  | .outside, t => t = parts.flatMap Part.text
  | .inside value, t => ∃ more rest, parts = .literal (value ++ more) :: rest ∧
      t = double more ++ mark :: rest.flatMap Part.text
  | .behindMark value, t => ∃ more rest, parts = .literal (value ++ more) :: rest ∧
      mark :: t = double more ++ mark :: rest.flatMap Part.text

/-- What is read inside a literal is more of its value. -/
theorem IsWritten.inside_cons (written : IsWritten parts (.inside (value ++ [p])) t) :
    ∃ more rest, parts = .literal (value ++ p :: more) :: rest ∧
      double (p :: more) ++ mark :: rest.flatMap Part.text = double [p] ++ t := by
  obtain ⟨more, rest, same, rfl⟩ := written
  refine ⟨more, rest, ?_, ?_⟩
  · rw [same, List.append_assoc]
    rfl
  · rw [← List.append_assoc, double, double, double, ← List.flatMap_append]
    rfl

/-- The parts that are read from a position on are separate, and were written there. -/
theorem isWritten_of_partsFrom? {position : Position} (read : partsFrom? position t = some parts) :
    AreSeparate parts ∧ IsWritten parts position t := by
  induction t generalizing position parts with
  | nil =>
    cases position with
    | outside =>
      cases read
      exact ⟨trivial, rfl⟩
    | inside value => cases read
    | behindMark value =>
      cases read
      exact ⟨trivial, [], [], by rw [List.append_nil], rfl⟩
  | cons p t ih =>
    rw [partsFrom?.eq_def] at read
    cases position with
    | outside =>
      dsimp only at read
      split at read
      · rename_i isMark
        obtain ⟨separate, more, rest, rfl, rfl⟩ := ih read
        refine ⟨separate, ?_⟩
        rw [isMark]
        show mark :: (double more ++ mark :: rest.flatMap Part.text) =
          (mark :: double more ++ [mark]) ++ rest.flatMap Part.text
        simp
      · rename_i differs
        obtain ⟨others, readRest, rfl⟩ := Option.map_eq_some_iff.mp read
        obtain ⟨separate, rfl⟩ := ih readRest
        exact ⟨⟨differs, separate⟩, rfl⟩
    | inside value =>
      dsimp only at read
      split at read
      · rename_i isMark
        obtain ⟨separate, more, rest, same, written⟩ := ih read
        exact ⟨separate, more, rest, same, isMark ▸ written⟩
      · rename_i differs
        obtain ⟨separate, written⟩ := ih read
        obtain ⟨more, rest, same, text⟩ := written.inside_cons
        exact ⟨separate, p :: more, rest, same, by
          rw [text, double_cons_of_ne differs]; rfl⟩
    | behindMark value =>
      dsimp only at read
      split at read
      · rename_i isMark
        obtain ⟨separate, written⟩ := ih read
        obtain ⟨more, rest, same, text⟩ := written.inside_cons
        exact ⟨separate, p :: more, rest, same, by rw [text, isMark]; rfl⟩
      · rename_i differs
        obtain ⟨others, readRest, rfl⟩ := Option.map_eq_some_iff.mp read
        obtain ⟨separate, rfl⟩ := ih readRest
        exact ⟨⟨differs, separate⟩, [], .outside p :: others, by rw [List.append_nil], rfl⟩

/-- A text is read as some parts exactly if they are separate and it is how they are written. -/
theorem parts?_eq_some_iff :
    parts? t = some parts ↔ AreSeparate parts ∧ t = parts.flatMap Part.text := by
  constructor
  · exact isWritten_of_partsFrom?
  · intro h
    obtain ⟨separate, rfl⟩ := h
    exact parts?_text separate

/-! ## Texts between marks as they are -/

theorem length_double (t : Text) : (double t).length = t.length + t.count mark := by
  induction t with
  | nil => rfl
  | cons p t ih =>
    by_cases same : p = mark
    · subst same
      rw [double_cons_mark, List.count_cons_self, List.length_cons, List.length_cons,
        List.length_cons, ih]
      omega
    · rw [double_cons_of_ne same, List.count_cons_of_ne same, List.length_cons, List.length_cons,
        ih]
      omega

theorem double_eq_self (unmarked : mark ∉ t) : double t = t := by
  induction t with
  | nil => rfl
  | cons p t ih =>
    obtain ⟨differs, unmarked⟩ := List.ne_and_not_mem_of_not_mem_cons unmarked
    rw [double_cons_of_ne (Ne.symm differs), ih unmarked]

/-- Each mark of a value is written once more. -/
theorem length_flatMap_text (parts : List Part) :
    (parts.flatMap Part.text).length =
      (parts.flatMap Part.bare).length + (parts.filterMap Part.value?).flatten.count mark := by
  induction parts with
  | nil => rfl
  | cons part rest ih =>
    rw [List.flatMap_cons, List.flatMap_cons, List.length_append, List.length_append, ih]
    cases part with
    | outside p =>
      rw [List.filterMap_cons_none rfl, Part.text, Part.bare]
      omega
    | literal value =>
      have taken : (Part.literal value).value? = some value := rfl
      have doubled := length_double value
      rw [List.filterMap_cons_some taken, List.flatten_cons, List.count_append, Part.text,
        Part.bare]
      simp only [List.length_append, List.length_cons, List.length_nil]
      omega

/-- No mark of some parts is doubled exactly if their values hold none. -/
theorem flatMap_bare_eq_text_iff :
    parts.flatMap Part.bare = parts.flatMap Part.text ↔
      ∀ value ∈ parts.filterMap Part.value?, mark ∉ value := by
  constructor
  · intro same value mem holds
    have none : (parts.filterMap Part.value?).flatten.count mark = 0 := by
      have lengths := length_flatMap_text parts
      rw [same] at lengths
      omega
    exact List.count_eq_zero.mp none (List.mem_flatten_of_mem mem holds)
  · intro unmarked
    apply List.flatMap_congr
    intro part mem
    cases part with
    | outside p => rfl
    | literal value =>
      have valueMem : value ∈ parts.filterMap Part.value? :=
        List.mem_filterMap.mpr ⟨.literal value, mem, rfl⟩
      rw [Part.bare, Part.text, double_eq_self (unmarked value valueMem)]

/-- Texts between marks as they are, are read back exactly if no mark is among their code points. -/
theorem parts?_bare_iff (separate : AreSeparate parts) :
    parts? (parts.flatMap Part.bare) = some parts ↔
      ∀ value ∈ parts.filterMap Part.value?, mark ∉ value := by
  rw [parts?_eq_some_iff, flatMap_bare_eq_text_iff]
  exact and_iff_right separate

end TableDdl.Literal
