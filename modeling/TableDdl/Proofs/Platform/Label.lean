import Mathlib.Data.List.TakeWhile
import Mathlib.Tactic.Conv
import TableDdl.Platform.Layout

/-!
# Labels of printed lines

A text that begins with a label, a word in front of a space, is printed with this label in front:
wrapping takes the word as the first one of the first line, and where that line is cut, the label is
what is kept first.
-/

namespace TableDdl

open CodePoint

/-- The test for a word that can stand as a label: no white space, and one cell for each point. -/
structure Text.IsLabel (word : Text) : Prop where
  nonempty : word ≠ []
  visible : ∀ p ∈ word, p.isSpace = false ∧ p.cells = 1

/-- The text that begins with a label: its word and a space. -/
def Text.labelled (word rest : Text) : Text :=
  word ++ .scalar ' ' :: rest

variable {word rest : Text} {width : Nat} {p : CodePoint}

/-! ## The points of a label -/

theorem ne_joiner_of_cells (one : p.cells = 1) : p ≠ joiner := by
  rintro rfl
  revert one
  decide

theorem ne_pictureSelector_of_cells (one : p.cells = 1) : p ≠ pictureSelector := by
  rintro rfl
  revert one
  decide

theorem Layout.not_isHiddenControl_of_cells (one : p.cells = 1) : isHiddenControl p = false := by
  rw [← Bool.not_eq_true]
  intro hidden
  simp only [isHiddenControl, List.mem_cons, List.not_mem_nil, or_false, decide_eq_true_eq]
    at hidden
  rw [cells] at one
  rcases hidden with value | value | value | value | value <;>
  · rw [value] at one
    revert one
    decide

namespace Text

theorem IsLabel.notMem (label : word.IsLabel) (space : p.isSpace) : p ∉ word := by
  intro mem
  rw [(label.visible p mem).1] at space
  cases space

theorem labelled_eq_append (word rest : Text) :
    word.labelled rest = (word ++ [.scalar ' ']) ++ rest :=
  List.append_cons word _ rest

theorem labelled_append (word rest more : Text) :
    word.labelled rest ++ more = word.labelled (rest ++ more) := by
  rw [labelled_eq_append, labelled_eq_append, List.append_assoc]

theorem cellsAfter_of_visible (one : ∀ p ∈ word, p.cells = 1) (last : Option CodePoint) :
    cellsAfter last word = word.length := by
  induction word generalizing last with
  | nil => rfl
  | cons p word ih =>
    obtain ⟨own, others⟩ := List.forall_mem_cons.mp one
    have some_cells : p.cells ≠ 0 := by rw [own]; exact Nat.one_ne_zero
    unfold cellsAfter
    rw [if_neg (ne_joiner_of_cells own), if_neg (ne_pictureSelector_of_cells own),
      if_neg some_cells, own, ih others, List.length_cons, Nat.add_comm]

theorem IsLabel.cells_eq (label : word.IsLabel) : word.cells = word.length :=
  cellsAfter_of_visible (fun p mem => (label.visible p mem).2) none

theorem IsLabel.trimEnd_labelled (label : word.IsLabel) (blank : ∀ p ∈ rest, p.isSpace) :
    (word.labelled rest).trimEnd = word := by
  have blanks : ∀ p ∈ rest.reverse ++ [.scalar ' '], p.isSpace := by
    simp only [List.forall_mem_append, List.mem_reverse, List.forall_mem_singleton]
    exact ⟨blank, rfl⟩
  have kept : word.reverse.dropWhile isSpace = word.reverse := by
    rw [List.dropWhile_eq_self_iff]
    intro positive
    have mem : word.reverse[0] ∈ word := List.mem_reverse.mp (List.getElem_mem positive)
    rw [(label.visible _ mem).1]
    exact Bool.false_ne_true
  rw [trimEnd, labelled, List.reverse_append, List.reverse_cons,
    List.dropWhile_append_of_pos blanks, kept, List.reverse_reverse]

theorem exists_split_append {separator : CodePoint} {front : Text} (free : separator ∉ front)
    (t : Text) : ∃ piece others, split separator (front ++ t) = (front ++ piece) :: others := by
  induction front with
  | nil =>
    cases cut : split separator t with
    | nil => cases t with
      | nil => cases cut
      | cons p t =>
        rw [split] at cut
        split at cut
        · cases cut
        · split at cut <;> cases cut
    | cons piece others => exact ⟨piece, others, cut⟩
  | cons p front ih =>
    obtain ⟨piece, others, cut⟩ := ih fun mem => free (List.mem_cons_of_mem _ mem)
    have differs : p ≠ separator := fun same => free (same ▸ List.mem_cons_self)
    exact ⟨piece, others, by rw [List.cons_append, split, if_neg differs, cut]; rfl⟩

theorem IsLabel.exists_split (label : word.IsLabel) (separator : CodePoint)
    (space : separator.isSpace) (differs : .scalar ' ' ≠ separator) (rest : Text) :
    ∃ more others, split separator (word.labelled rest) = word.labelled more :: others := by
  have free : separator ∉ word ++ [.scalar ' '] := by
    simp only [List.mem_append, List.mem_singleton, not_or]
    exact ⟨label.notMem space, differs.symm⟩
  rw [labelled_eq_append]
  obtain ⟨more, others, cut⟩ := exists_split_append free rest
  exact ⟨more, others, by rw [cut, labelled_eq_append]⟩

end Text

namespace Layout

open Text

/-! ## Lines -/

theorem exists_expandTabs (label : word.IsLabel) (rest : Text) :
    ∃ more, expandTabs (word.labelled rest) = word.labelled more := by
  obtain ⟨piece, others, cut⟩ := label.exists_split (.scalar '\t') rfl (by decide) rest
  rw [expandTabs, cut]
  cases others with
  | nil => exact ⟨piece, rfl⟩
  | cons next others =>
    simp only [fillTabs, labelled_append]
    exact ⟨_, rfl⟩

theorem exists_placeWords (longWord : LongWord) (width used : Nat) (words : List Text)
    {line : Text} (nonempty : line ≠ []) :
    ∃ more others, placeWords longWord width line used words = (line ++ more) :: others := by
  induction words generalizing line used with
  | nil => exact ⟨[], [], by rw [placeWords, List.append_nil]⟩
  | cons word words ih =>
    simp only [placeWords]
    split
    · obtain ⟨more, others, eq⟩ :=
        ih (used + word.cells) (List.append_ne_nil_of_left_ne_nil nonempty word)
      exact ⟨word ++ more, others, by rw [eq, List.append_assoc]⟩
    · rw [if_neg (by simpa using nonempty)]
      exact ⟨[], _, by rw [List.append_nil]; rfl⟩

/-- The first word of a text with a label is the word of the label, with white space after it. -/
theorem exists_wordsIn (label : word.IsLabel) (rest : Text) (steps : Nat) :
    ∃ more words, wordsIn (steps + 1) (word.labelled rest) = word.labelled more :: words ∧
      ∀ p ∈ more, p.isSpace := by
  have dark : ∀ p ∈ word, (!p.isSpace) = true := fun p mem => by rw [(label.visible p mem).1]; rfl
  have before : (word.labelled rest).takeWhile isSpace = [] := by
    obtain ⟨p, more, rfl⟩ := List.exists_cons_of_ne_nil label.nonempty
    rw [labelled, List.cons_append, List.takeWhile_cons, (label.visible p List.mem_cons_self).1]
    rfl
  have body : (word.labelled rest).takeWhile (!isSpace ·) = word := by
    rw [labelled, List.takeWhile_append_of_pos dark, List.takeWhile_cons_of_neg (by decide),
      List.append_nil]
  have nonempty : word.isEmpty = false := List.isEmpty_eq_false_iff.mpr label.nonempty
  have behind : (word.labelled rest).drop word.length = .scalar ' ' :: rest := List.drop_left
  have after : (CodePoint.scalar ' ' :: rest).takeWhile isSpace =
      .scalar ' ' :: rest.takeWhile isSpace := rfl
  simp only [wordsIn, before, List.length_nil, List.drop_zero, body, nonempty, Bool.false_eq_true,
    if_false, behind, after, List.nil_append]
  exact ⟨rest.takeWhile isSpace, _, rfl, fun p mem => List.mem_takeWhile_imp mem⟩

theorem exists_cropEnd (short : word.length < width) (rest : Text) :
    ∃ more, cropEnd width (word.labelled rest) = word.labelled more := by
  have enough : (word ++ [CodePoint.scalar ' ']).length ≤
      max width (word.labelled rest).trimEnd.length := by
    rw [List.length_append, List.length_singleton]
    exact Nat.le_trans short (Nat.le_max_left _ _)
  rw [cropEnd]
  generalize max width (word.labelled rest).trimEnd.length = kept at enough
  rw [labelled_eq_append, List.take_append, List.take_of_length_le enough, ← labelled_eq_append]
  exact ⟨_, rfl⟩

theorem exists_wrap (label : word.IsLabel) (short : word.length < width) (longWord : LongWord)
    (rest : Text) :
    ∃ more others, wrap longWord width (word.labelled rest) = word.labelled more :: others := by
  obtain ⟨line, expanded⟩ := exists_expandTabs label rest
  have length : (word.labelled line).length = (word.length + line.length) + 1 := by
    rw [labelled, List.length_append, List.length_cons, Nat.add_assoc]
  obtain ⟨blank, words, cut, blanks⟩ := exists_wordsIn label line (word.length + line.length)
  have fits : 0 + (word.labelled blank).trimEnd.cells ≤ width := by
    rw [label.trimEnd_labelled blanks, label.cells_eq, Nat.zero_add]
    exact Nat.le_of_lt short
  have nonempty : word.labelled blank ≠ [] := List.append_ne_nil_of_right_ne_nil _ nofun
  obtain ⟨more, others, placed⟩ :=
    exists_placeWords longWord width (0 + (word.labelled blank).cells) words nonempty
  simp only [wrap, expanded, length, cut, placeWords, fits, if_true, List.isEmpty_cons,
    Bool.false_eq_true, if_false, List.nil_append, placed, List.map_cons, labelled_append]
  obtain ⟨kept, cropped⟩ := exists_cropEnd short (blank ++ more)
  exact ⟨kept, _, by rw [cropped]⟩

theorem exists_lines (label : word.IsLabel) (short : word.length < width) (longWord : LongWord)
    (rest : Text) :
    ∃ more others, lines longWord width (word.labelled rest) = word.labelled more :: others := by
  have shown : (word ++ [CodePoint.scalar ' ']).filter (!isHiddenControl ·) =
      word ++ [.scalar ' '] := by
    rw [List.filter_eq_self]
    simp only [List.forall_mem_append, List.forall_mem_singleton]
    refine ⟨fun p mem => ?_, rfl⟩
    rw [not_isHiddenControl_of_cells (label.visible p mem).2]
    rfl
  obtain ⟨first, more, cut⟩ :=
    label.exists_split (.scalar '\n') rfl (by decide) (rest.filter (!isHiddenControl ·))
  obtain ⟨line, others, wrapped⟩ := exists_wrap label short longWord first
  rw [lines, labelled_eq_append, List.filter_append, shown, ← labelled_eq_append, cut,
    List.flatMap_cons, wrapped]
  exact ⟨line, _, rfl⟩

/-! ## Cutting -/

/-- A cluster that takes no more cells for a picture keeps its cells, whatever follows it. -/
theorem exists_clustersAfter (cluster : Text.Cluster) (last : Option CodePoint)
    (plain : selectorCells last = 0) (t : Text) :
    ∃ more others, clustersAfter (some cluster) last t =
      ⟨cluster.text ++ more, cluster.cells⟩ :: others := by
  generalize begun : some cluster = current
  fun_induction clustersAfter current last t generalizing cluster with
  | case1 current last =>
    cases begun
    exact ⟨[], [], by rw [List.append_nil]; rfl⟩
  | case2 => cases begun
  | case3 last c =>
    cases begun
    exact ⟨_, [], rfl⟩
  | case4 last c q rest ih =>
    cases begun
    obtain ⟨more, others, eq⟩ := ih _ plain rfl
    exact ⟨[joiner, q] ++ more, others, by rw [eq, Text.Cluster.extend, List.append_assoc]; rfl⟩
  | case5 last rest c _ ih =>
    cases begun
    obtain ⟨more, others, eq⟩ := ih _ (by rw [if_pos plain]; exact plain) rfl
    refine ⟨[pictureSelector] ++ more, others, ?_⟩
    rw [eq, Text.Cluster.extend, plain, List.append_assoc]
    rfl
  | case6 last p rest c _ _ _ ih =>
    cases begun
    obtain ⟨more, others, eq⟩ := ih _ plain rfl
    exact ⟨[p] ++ more, others, by rw [eq, Text.Cluster.extend, List.append_assoc]; rfl⟩
  | case7 last p rest c _ _ _ ih =>
    cases begun
    exact ⟨[], _, by rw [List.append_nil]⟩

theorem clustersAfter_cons_of_cells (one : p.cells = 1) (cluster : Text.Cluster)
    (last : Option CodePoint) (t : Text) :
    clustersAfter (some cluster) last (p :: t) =
      cluster :: clustersAfter (some ⟨[p], 1⟩) (some p) t := by
  have some_cells : p.cells ≠ 0 := by rw [one]; exact Nat.one_ne_zero
  conv_lhs => unfold clustersAfter
  dsimp only
  rw [if_neg (ne_joiner_of_cells one), if_neg (ne_pictureSelector_of_cells one),
    if_neg some_cells, one]

/-- Of a line with a label the label is taken, if there is room for it. -/
theorem exists_takeCells (one : ∀ q ∈ word, q.cells = 1) (p : CodePoint)
    (room : word.length + 1 < width) (rest : Text) :
    ∃ more, takeCells width (clustersAfter (some ⟨[p], 1⟩) (some p) (word.labelled rest)) =
      p :: word.labelled more := by
  have first : 1 ≤ width := Nat.le_of_lt (Nat.lt_of_le_of_lt (Nat.le_add_left 1 _) room)
  have left : word.length < width - 1 := Nat.lt_sub_of_add_lt room
  induction word generalizing p width with
  | nil =>
    have second : 1 ≤ width - 1 := left
    obtain ⟨more, others, eq⟩ :=
      exists_clustersAfter ⟨[.scalar ' '], 1⟩ (some (.scalar ' ')) rfl rest
    rw [labelled, List.nil_append, clustersAfter_cons_of_cells rfl, eq, takeCells, if_pos first,
      takeCells, if_pos second, List.append_assoc]
    exact ⟨_, rfl⟩
  | cons q word ih =>
    obtain ⟨own, others⟩ := List.forall_mem_cons.mp one
    have second : 1 ≤ width - 1 := Nat.le_of_lt (Nat.lt_of_le_of_lt (Nat.le_add_left 1 _) left)
    obtain ⟨more, eq⟩ := ih others q left second (Nat.lt_sub_of_add_lt left)
    rw [labelled, List.cons_append, ← labelled, clustersAfter_cons_of_cells own, takeCells,
      if_pos first, eq]
    exact ⟨more, rfl⟩

theorem exists_cutTo (label : word.IsLabel) (short : word.length < width) (rest : Text) :
    ∃ more, cutTo width (word.labelled rest) = word.labelled more := by
  rw [cutTo]
  split
  · exact ⟨rest, rfl⟩
  · obtain ⟨p, word, rfl⟩ := List.exists_cons_of_ne_nil label.nonempty
    have own : p.cells = 1 := (label.visible p List.mem_cons_self).2
    have others : ∀ q ∈ word, q.cells = 1 :=
      fun q mem => (label.visible q (List.mem_cons_of_mem _ mem)).2
    have begun : clusters (labelled (p :: word) rest) =
        clustersAfter (some ⟨[p], 1⟩) (some p) (labelled word rest) := by
      rw [labelled, List.cons_append, ← labelled, clusters, clustersAfter, own]
      rfl
    rw [begun]
    exact exists_takeCells others p short rest

theorem exists_printed (label : word.IsLabel) (short : word.length < width) (rest : Text) :
    ∃ more, printed width (word.labelled rest) = word.labelled more := by
  obtain ⟨more, others, eq⟩ := exists_lines label short .folded rest
  obtain ⟨kept, cut⟩ := exists_cutTo label short more
  rw [printed, eq, List.flatMap_cons, cut, labelled_append, labelled_append]
  exact ⟨_, rfl⟩

end Layout

end TableDdl
