import TableDdl.Platform.Arguments
import TableDdl.Proofs.Command.Source

/-!
# The paths of a command line

The paths that a command line gives are read off its arguments, so they are normal.
-/

namespace TableDdl.Request

variable {arguments : List Text} {request : Request} {source : Source}

theorem isNormal_of_pathOf? {argument : Text} {path : Path}
    (read : Arguments.pathOf? argument = some path) : path.IsNormal := by
  simp only [Arguments.pathOf?] at read
  split at read
  · cases read
    exact Path.isNormal_ofText argument
  · cases read

theorem isNormal_of_sourceOf? {schemaFile : Text} {a : Arguments}
    (read : sourceOf? schemaFile a = some source) : source.IsNormal := by
  simp only [sourceOf?, Option.bind_eq_bind, Option.bind_eq_some_iff] at read
  obtain ⟨file, fileRead, mapping, -, directory, directoryRead, same⟩ := read
  cases same
  refine ⟨isNormal_of_pathOf? fileRead, ?_⟩
  rintro path rfl
  unfold Arguments.path? at directoryRead
  split at directoryRead
  · obtain ⟨other, read, same⟩ := Option.map_eq_some_iff.mp directoryRead
    cases same
    exact isNormal_of_pathOf? read
  · cases directoryRead

theorem isNormal_of_columnsOf? (read : columnsOf? arguments = some request) :
    request.source.IsNormal := by
  obtain ⟨a, -, read⟩ := Option.bind_eq_some_iff.mp read
  split at read
  · obtain ⟨source, sourceRead, read⟩ := Option.bind_eq_some_iff.mp read
    obtain ⟨output, -, same⟩ := Option.bind_eq_some_iff.mp read
    cases same
    exact isNormal_of_sourceOf? sourceRead
  · cases read

theorem isNormal_of_showSchemaOf? (read : showSchemaOf? arguments = some request) :
    request.source.IsNormal := by
  obtain ⟨a, -, read⟩ := Option.bind_eq_some_iff.mp read
  split at read
  · obtain ⟨source, sourceRead, same⟩ := Option.bind_eq_some_iff.mp read
    cases same
    exact isNormal_of_sourceOf? sourceRead
  · cases read

theorem isNormal_of_createTableOf? (read : createTableOf? arguments = some request) :
    request.source.IsNormal := by
  obtain ⟨a, -, read⟩ := Option.bind_eq_some_iff.mp read
  split at read
  · obtain ⟨source, sourceRead, read⟩ := Option.bind_eq_some_iff.mp read
    obtain ⟨output, -, same⟩ := Option.bind_eq_some_iff.mp read
    cases same
    exact isNormal_of_sourceOf? sourceRead
  · cases read

theorem isNormal_of_ofCommand? (read : ofCommand? arguments = some request) :
    request.source.IsNormal := by
  cases arguments with
  | nil => cases read
  | cons name arguments =>
    rw [ofCommand?] at read
    split at read
    · rename_i command reader found
      have known := List.mem_of_find?_eq_some found
      simp only [commands, List.mem_cons, Prod.mk.injEq, List.not_mem_nil, or_false] at known
      rcases known with ⟨-, rfl⟩ | ⟨-, rfl⟩ | ⟨-, rfl⟩
      · exact isNormal_of_columnsOf? read
      · exact isNormal_of_showSchemaOf? read
      · exact isNormal_of_createTableOf? read
    · cases read

/-- The paths of a request that was read off a command line are normal. -/
theorem isNormal_of_ofArguments? (read : ofArguments? arguments = some request) :
    request.source.IsNormal := by
  unfold ofArguments? at read
  split at read
  · exact isNormal_of_ofCommand? read
  · exact isNormal_of_ofCommand? read

end TableDdl.Request
