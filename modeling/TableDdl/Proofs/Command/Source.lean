import TableDdl.Command.Run
import TableDdl.Proofs.File.Path
import TableDdl.Proofs.Outcome
import TableDdl.Proofs.Table.Definition

/-!
# The paths of a request

A path that was read off a text is normal, and its text spells it again. The schema directory of the
settings is such a path, since a setting is a text, and so is its usual value. If the paths of a
request are normal, the path of its schema file is normal too.
-/

namespace TableDdl

open Outcome

/-! ## Settings -/

namespace Settings

variable {settings : Settings} {fs : FileSystem} {path found : Path}

theorem isNormal_of_path {location : List LocationStep} {v : Json}
    (passed : Check.path location v = .ok path) : path.IsNormal := by
  cases v with
  | text t =>
    cases passed
    exact Path.isNormal_ofText t
  | _ => cases passed

theorem isNormal_schemaDirectory_of_check {given : String → Option Json}
    (checked : check given = .ok settings) : settings.schemaDirectory.IsNormal := by
  simp only [check, Checked.of, Checked.ap_eq_ok_iff] at checked
  obtain ⟨_, _, ⟨_, _, ⟨_, directory, made, passed, rfl⟩, _, rfl⟩, _, rfl⟩ := checked
  cases made
  split at passed
  · exact isNormal_of_path passed
  · cases passed
    exact Path.isNormal_ofText _

/-- The schema directory of settings that were loaded is normal. -/
theorem isNormal_schemaDirectory_of_settings {kit : Toolkit} {s : Surroundings}
    (loaded : (kit.settings s).2 = .ok settings) : settings.schemaDirectory.IsNormal := by
  obtain ⟨given, -, checked⟩ := bind_eq_ok_iff.mp loaded
  exact isNormal_schemaDirectory_of_check (mapError_eq_ok_iff.mp checked)

theorem isNormal_of_schemaPath (directory : settings.schemaDirectory.IsNormal)
    (normal : path.IsNormal) (resolved : settings.schemaPath fs path = .ok found) :
    found.IsNormal := by
  obtain ⟨there, -, chosen⟩ := bind_eq_ok_iff.mp resolved
  split at chosen
  · cases chosen
    exact normal
  · cases chosen
    exact directory.within normal

end Settings

/-! ## Requests -/

/-- The paths of a source that lead to its schema file are normal. -/
structure Source.IsNormal (source : Source) : Prop where
  schemaFile : source.schemaFile.IsNormal
  schemaDirectory : ∀ directory, source.schemaDirectory = some directory → directory.IsNormal

/-- The settings of a request have a normal schema directory if those of the surroundings do. -/
theorem Request.isNormal_settings {request : Request} {settings : Settings}
    (normal : request.source.IsNormal) (directory : settings.schemaDirectory.IsNormal) :
    (request.settings settings).schemaDirectory.IsNormal := by
  unfold Request.settings
  split
  · rename_i own given
    exact normal.schemaDirectory own given
  · exact directory

end TableDdl
