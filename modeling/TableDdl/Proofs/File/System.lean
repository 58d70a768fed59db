import TableDdl.File.System
import TableDdl.Proofs.Outcome

/-!
# Writing a file

What is read from a file after it was written, and that nothing else changes. A path leads to the
same names before and after, because the walk along it only passes through directories and the
written entry is none.
-/

namespace TableDdl.FileSystem

open Outcome

variable {fs fs' : FileSystem} {names other : List FileName} {entry : Entry} {path : Path}
  {bytes : List UInt8}

/-! ## Entries -/

theorem lookup_map_replace (entries : List (List FileName × Entry)) :
    (entries.map fun known => if known.1 = names then (names, entry) else known).lookup other =
      if other = names then (entries.lookup names).map (fun _ => entry)
      else entries.lookup other := by
  induction entries with
  | nil => simp
  | cons known rest ih =>
    obtain ⟨key, value⟩ := known
    rw [List.map_cons]
    by_cases same : key = names
    · subst same
      by_cases asked : other = key
      · simp [asked]
      · simp only [if_true, List.lookup_cons, beq_eq_false_iff_ne.mpr asked, ih, asked, if_false]
    · by_cases asked : other = names
      · subst asked
        have differs : (other == key) = false := beq_eq_false_iff_ne.mpr (Ne.symm same)
        simp only [same, if_false, List.lookup_cons, differs, ih, if_true]
      · simp only [same, if_false, List.lookup_cons, ih, asked]

theorem lookup_put (fs : FileSystem) :
    (fs.put names entry).entries.lookup other =
      if other = names then some entry else fs.entries.lookup other := by
  unfold put
  cases known : fs.entries.lookup names with
  | none =>
    show (fs.entries ++ [(names, entry)]).lookup other = _
    rw [List.lookup_append]
    by_cases asked : other = names
    · subst asked
      simp [known]
    · simp [asked, List.lookup_cons, beq_eq_false_iff_ne.mpr asked]
  | some old =>
    show (fs.entries.map _).lookup other = _
    rw [lookup_map_replace, known]
    rfl

theorem entry?_put_self (below : names ≠ []) : entry? (fs.put names entry) names = some entry := by
  unfold entry?
  rw [lookup_put, if_pos rfl, if_neg (by simpa using below)]

theorem entry?_put_of_ne (differs : other ≠ names) :
    entry? (fs.put names entry) other = fs.entry? other := by
  unfold entry?
  rw [lookup_put, if_neg differs]

theorem workingDirectory_put (fs : FileSystem) :
    (fs.put names entry).workingDirectory = fs.workingDirectory := by
  unfold put
  split <;> rfl

/-! ## Paths -/

theorem step_put {current next : List FileName} {part : Text}
    (noDirectory : fs.entry? names ≠ some .directory) (step : fs.step current part = .ok next) :
    (fs.put names entry).step current part = .ok next := by
  have directory : fs.entry? current = some .directory := by
    unfold FileSystem.step at step
    split at step
    · cases step
    · cases step
    · assumption
  have differs : current ≠ names := by
    rintro rfl
    exact noDirectory directory
  rw [FileSystem.step, entry?_put_of_ne differs, directory]
  rw [FileSystem.step, directory] at step
  exact step

theorem foldlM_step_put {parts : List Text} {start stop : List FileName}
    (noDirectory : fs.entry? names ≠ some .directory)
    (walk : parts.foldlM fs.step start = .ok stop) :
    parts.foldlM (fs.put names entry).step start = .ok stop := by
  induction parts generalizing start with
  | nil => exact walk
  | cons part rest ih =>
    rw [List.foldlM_cons] at walk ⊢
    obtain ⟨next, step, walk⟩ := bind_eq_ok_iff.mp walk
    exact bind_eq_ok_iff.mpr ⟨next, step_put noDirectory step, ih walk⟩

/-- A path leads to the same names after a file is put where no directory was. -/
theorem locate_put {stop : List FileName} (noDirectory : fs.entry? names ≠ some .directory)
    (located : fs.locate path = .ok stop) : (fs.put names entry).locate path = .ok stop := by
  unfold locate at located ⊢
  split at located
  · cases located
  · rename_i short
    rw [if_neg short, start, workingDirectory_put]
    exact foldlM_step_put noDirectory located

/-! ## Writing -/

theorem write_eq_ok_iff :
    fs.write path bytes = .ok fs' ↔
      ∃ names, path.refusal? = none ∧ fs.locate path = .ok names ∧
        fs.entry? names ≠ some .directory ∧ fs' = fs.put names (.file bytes) := by
  unfold write
  cases path.refusal? with
  | some refusal => simp
  | none =>
    cases fs.locate path with
    | error flaw => simp
    | ok names =>
      simp only [Except.ok.injEq, true_and, exists_eq_left']
      rcases fs.entry? names with _ | _ | _ <;> simp [eq_comm]

/-- Whether a file can be written does not depend on what is written. -/
theorem write_eq_ok_of_write {bytes' : List UInt8} {opened : FileSystem}
    (written : fs.write path bytes' = .ok opened) : ∃ fs', fs.write path bytes = .ok fs' := by
  obtain ⟨names, accepted, located, noDirectory, -⟩ := write_eq_ok_iff.mp written
  exact ⟨_, write_eq_ok_iff.mpr ⟨names, accepted, located, noDirectory, rfl⟩⟩

/-- A file that was written holds what was written, and all other entries are as they were. -/
theorem read_of_write (written : fs.write path bytes = .ok fs') :
    fs'.read path = .ok bytes ∧
      ∃ names, fs.locate path = .ok names ∧
        ∀ other ≠ names, entry? fs' other = entry? fs other := by
  obtain ⟨names, accepted, located, noDirectory, rfl⟩ := write_eq_ok_iff.mp written
  have below : names ≠ [] := by
    rintro rfl
    exact noDirectory rfl
  refine ⟨?_, names, located, fun other differs => entry?_put_of_ne differs⟩
  have found : (fs.put names (.file bytes)).find? path = .ok (.file bytes) := by
    refine bind_eq_ok_iff.mpr ⟨names, locate_put noDirectory located, ?_⟩
    rw [entry?_put_self below]
  rw [read, accepted, found]

end TableDdl.FileSystem
