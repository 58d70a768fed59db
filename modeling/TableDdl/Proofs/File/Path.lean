import TableDdl.File.Path

/-!
# Paths and their texts

A path that was read off a text is normal: its parts are not empty, are no single dots and hold no
slash. The text of a normal path spells this path again.
-/

namespace TableDdl

/-! ## Pieces of a text -/

namespace Text

variable {separator : CodePoint}

theorem split_of_notMem {piece : Text} (free : separator ∉ piece) :
    split separator piece = [piece] := by
  induction piece with
  | nil => rfl
  | cons p piece ih =>
    have differs : p ≠ separator := fun same => free (same ▸ List.mem_cons_self)
    rw [split, if_neg differs, ih fun mem => free (List.mem_cons_of_mem _ mem)]

theorem split_append_cons {piece : Text} (free : separator ∉ piece) (rest : Text) :
    split separator (piece ++ separator :: rest) = piece :: split separator rest := by
  induction piece with
  | nil => rw [List.nil_append, split, if_pos rfl]
  | cons p piece ih =>
    have differs : p ≠ separator := fun same => free (same ▸ List.mem_cons_self)
    rw [List.cons_append, split, if_neg differs, ih fun mem => free (List.mem_cons_of_mem _ mem)]

/-- Pieces that are joined by a separator are cut apart again. -/
theorem split_join {parts : List Text} (nonempty : parts ≠ [])
    (free : ∀ part ∈ parts, separator ∉ part) :
    split separator (join [separator] parts) = parts := by
  induction parts with
  | nil => exact absurd rfl nonempty
  | cons part rest ih =>
    obtain ⟨own, others⟩ := List.forall_mem_cons.mp free
    cases rest with
    | nil => rw [join, List.intercalate_singleton, split_of_notMem own]
    | cons next rest =>
      rw [join, List.intercalate_cons_of_ne_nil (List.cons_ne_nil _ _), List.append_assoc,
        List.singleton_append, split_append_cons own, ← join, ih (List.cons_ne_nil _ _) others]

theorem notMem_of_mem_split {t piece : Text} (mem : piece ∈ split separator t) :
    separator ∉ piece := by
  induction t generalizing piece with
  | nil =>
    rw [List.mem_singleton.mp mem]
    exact List.not_mem_nil
  | cons p rest ih =>
    rw [split] at mem
    split at mem
    · rcases List.mem_cons.mp mem with rfl | mem
      · exact List.not_mem_nil
      · exact ih mem
    · rename_i differs
      split at mem
      · rw [List.mem_singleton.mp mem]
        exact fun same => differs (List.mem_singleton.mp same).symm
      · rename_i first more cut
        rcases List.mem_cons.mp mem with rfl | mem
        · intro found
          rcases List.mem_cons.mp found with same | found
          · exact differs same.symm
          · exact ih (cut ▸ List.mem_cons_self) found
        · exact ih (cut ▸ List.mem_cons_of_mem _ mem)

end Text

/-! ## Normal paths -/

namespace Path

/-- The slash, which separates the parts of a path. -/
def slash : CodePoint := .scalar '/'

/-- The test for a part of a normal path. -/
def IsNormalPart (part : Text) : Prop :=
  part ≠ [] ∧ part ≠ dot ∧ slash ∉ part

/-- The test for a path whose text spells it. -/
def IsNormal (path : Path) : Prop :=
  ∀ part ∈ path.parts, IsNormalPart part

theorem isNormal_ofText (t : Text) : (ofText t).IsNormal := by
  intro part mem
  obtain ⟨piece, kept⟩ := List.mem_filter.mp mem
  simp only [Bool.not_eq_true', Bool.or_eq_false_iff, List.isEmpty_eq_false_iff,
    decide_eq_false_iff_not] at kept
  exact ⟨kept.1, kept.2, Text.notMem_of_mem_split piece⟩

theorem IsNormal.within {directory path : Path} (directoryNormal : directory.IsNormal)
    (normal : path.IsNormal) : (directory.within path).IsNormal := by
  unfold Path.within
  split
  · exact normal
  · exact List.forall_mem_append.mpr ⟨directoryNormal, normal⟩

/-- The pieces of the text of normal parts, without the empty ones, are the parts. -/
theorem filter_split_join {parts : List Text} (normal : ∀ part ∈ parts, IsNormalPart part) :
    ((Text.join "/" parts).split slash).filter (fun part => !(part.isEmpty || part = dot)) =
      parts := by
  have kept : parts.filter (fun part => !(part.isEmpty || part = dot)) = parts := by
    refine List.filter_eq_self.mpr fun part mem => ?_
    simp [(normal part mem).1, (normal part mem).2.1]
  cases parts with
  | nil => rfl
  | cons first rest =>
    have pieces : (Text.join "/" (first :: rest)).split slash = first :: rest :=
      Text.split_join (List.cons_ne_nil _ _) fun part mem => (normal part mem).2.2
    rw [pieces, kept]

/-- The text of normal parts does not begin with a slash. -/
theorem head?_join_ne {parts : List Text} (normal : ∀ part ∈ parts, IsNormalPart part) :
    (Text.join "/" parts).head? ≠ some slash := by
  cases parts with
  | nil => simp [Text.join]
  | cons first rest =>
    obtain ⟨nonempty, -, free⟩ := normal first List.mem_cons_self
    obtain ⟨p, first, rfl⟩ := List.exists_cons_of_ne_nil nonempty
    intro starts
    have head : (Text.join "/" ((p :: first) :: rest)).head? = some p := by
      cases rest with
      | nil => rfl
      | cons next rest => rfl
    rw [head] at starts
    exact free (Option.some.inj starts ▸ List.mem_cons_self)

theorem anchorOf_of_head?_ne {t : Text} (other : t.head? ≠ some slash) :
    anchorOf t = .relative := by
  unfold anchorOf
  split
  · exact absurd rfl other
  · exact absurd rfl other
  · exact absurd rfl other
  · rfl

theorem anchorOf_slash_cons {t : Text} (other : t.head? ≠ some slash) :
    anchorOf (slash :: t) = .root ∧ anchorOf (slash :: slash :: t) = .doubleRoot := by
  cases t with
  | nil => exact ⟨rfl, rfl⟩
  | cons p t =>
    have differs : p ≠ .scalar '/' := fun same => other (congrArg some same)
    exact ⟨by simp [anchorOf, slash, differs], by simp [anchorOf, slash, differs]⟩

theorem ofText_toText {path : Path} (normal : path.IsNormal) : ofText path.toText = path := by
  obtain ⟨anchor, parts⟩ := path
  have pieces := filter_split_join normal
  have starts := head?_join_ne normal
  obtain ⟨root, doubleRoot⟩ := anchorOf_slash_cons starts
  have dropped (t : Text) : Text.split slash (slash :: t) = [] :: Text.split slash t :=
    Text.split_append_cons List.not_mem_nil t
  cases anchor with
  | relative =>
    cases parts with
    | nil => rfl
    | cons first rest =>
      show ofText (Text.join "/" (first :: rest)) = _
      rw [ofText, anchorOf_of_head?_ne starts, ← slash, pieces]
  | root =>
    show ofText (slash :: Text.join "/" parts) = _
    rw [ofText, root, ← slash, dropped]
    exact congrArg _ pieces
  | doubleRoot =>
    show ofText (slash :: slash :: Text.join "/" parts) = _
    rw [ofText, doubleRoot, ← slash, dropped, dropped]
    exact congrArg _ pieces

end Path

end TableDdl
