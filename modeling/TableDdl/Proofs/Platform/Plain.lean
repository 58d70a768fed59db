import TableDdl.Platform.Plain
import TableDdl.Proofs.Command.Run
import TableDdl.Proofs.Platform.Arguments
import TableDdl.Proofs.Platform.ControlSequence
import TableDdl.Proofs.Platform.Escape
import TableDdl.Proofs.Platform.Label

/-!
# The laws of the plain packages

The packages that the program runs with keep the laws that results about the commands rest on, in
lines of any width; the label of a report needs a line that is longer than its word. With these
packages the list of a schema file with one column can be followed from the file to the list.
-/

namespace TableDdl

open Json Outcome

theorem Encoding.takes_utf8 {t : Text} (scalar : IsScalar t) : utf8.Takes t := by
  obtain ⟨bytes, encoded⟩ := Utf8.encodeText_of_isScalar scalar
  exact ⟨bytes, mapError_eq_ok_iff.mpr encoded⟩

theorem Encoding.encode_utf8_ofString (s : String) :
    utf8.encode (Text.ofString s) = .ok (Utf8.encode s.toList) := by
  have points : (Text.ofString s).filterMap CodePoint.char? = s.toList := by
    rw [Text.ofString, List.filterMap_map]
    exact List.filterMap_some
  exact mapError_eq_ok_iff.mpr (Utf8.encodeText_eq_ok_iff.mpr ⟨.ofString s, by rw [points]⟩)

namespace Toolkit

variable (width : Nat) (site : Option Text)

theorem stripsEchoes_plain (s : Surroundings) : (plain width site).StripsEchoes s where
  sublist := Text.withoutControlSequences_sublist
  plain _ := Text.withoutControlSequences_eq_self

theorem reportsEscaped_plain (s : Surroundings) : (plain width site).ReportsEscaped s := by
  intro t
  obtain ⟨shown, rendered⟩ := Markup.render_errorLine t
  exact ⟨_, map_eq_ok_iff.mpr ⟨_, rendered, rfl⟩⟩

theorem isLabel_error : Text.IsLabel "Error:" where
  nonempty := List.cons_ne_nil _ _
  visible := by decide

variable {width}

theorem labelsReports_plain (wide : 6 < width) (s : Surroundings) :
    (plain width site).LabelsReports s := by
  intro t
  obtain ⟨shown, rendered⟩ := Markup.render_errorLine t
  obtain ⟨more, printed⟩ := Layout.exists_printed isLabel_error wide shown
  exact ⟨more, map_eq_ok_iff.mpr ⟨_, rendered, printed⟩⟩

/-- What is told about a file is displayed after a check mark, as it is but for its emoji codes, if
the path has no opening bracket. -/
theorem display_savedText {output : Output} (s : Surroundings)
    (whatFree : Markup.bracket ∉ Text.ofString output.what)
    (free : Markup.bracket ∉ output.path.toText) :
    (plain width site).display s (Request.savedText output) =
      displayLines s (Layout.printed width ("✓" ++
        Markup.Emoji.replace (" " ++ output.what ++ " written to " ++ output.path.toText))) := by
  have sign : Text.ofString "[green]✓[/green] " = Text.ofString "[green]✓[/green]" ++ " " := rfl
  have cut : Request.savedText output = Text.ofString "[green]✓[/green]" ++
      (" " ++ output.what ++ " written to " ++ output.path.toText) := by
    simp only [Request.savedText, sign, List.append_assoc]
  have messageFree :
      Markup.bracket ∉ (" " ++ output.what ++ " written to " ++ output.path.toText : Text) := by
    simp only [List.mem_append, not_or]
    exact ⟨⟨⟨by decide, whatFree⟩, by decide⟩, free⟩
  show (Markup.render _ >>= fun t => displayLines s (Layout.printed width t)) = _
  rw [cut, Markup.render_after_checkMark messageFree, ok_bind]

/-- The packages on a terminal of the usual width, without a site that explains issues. -/
def usual : Toolkit := plain 80 none

end Toolkit

/-! ## A list of one column -/

namespace Request

/-- The surroundings of a run in UTF-8, in which there is a schema file with one column, and a
directory whose name ends in an opening bracket. -/
def oneColumnSurroundings : Surroundings where
  environment := []
  files := oneColumnFiles.put [FileName.ofText "o["] .directory
  time := []
  stdout := .utf8
  textFiles := .utf8
  stderr := Encoding.utf8Spelled

/-- The schema file in these surroundings. -/
def oneColumnSource : Source := ⟨.ofText "s", none, none⟩

theorem ofArguments?_oneColumn :
    ofArguments? ["columns", "s"] = some (columns oneColumnSource none) := by
  decide +kernel

theorem isNormal_oneColumnSource : oneColumnSource.IsNormal :=
  isNormal_of_ofArguments? ofArguments?_oneColumn

theorem lists_oneColumn : Lists .usual oneColumnSurroundings oneColumnSource "id string" := by
  have built : ((Document.bytes oneColumnBytes).buildRecord none).outcome =
      .ok ⟨.implicit, .last "id" (.primitive .string)⟩ :=
    Document.buildRecord_outcome_eq_ok_iff.mpr ⟨oneColumn, oneColumnBytes_loads,
      Schema.read_of_describesDocument (.grouping (Or.inl rfl) (Or.inr ⟨rfl, rfl⟩)
        (.last (.kept rfl) (Schema.describes_encode (.primitive .string))))⟩
  have located : locateSchema .usual oneColumnSurroundings oneColumnSource =
      .ok (.ofText "s") := rfl
  have unmapped : Mapping.load oneColumnSurroundings.files oneColumnSource.mapping =
      .ok none := rfl
  have inFile : oneColumnSurroundings.files.read (.ofText "s") = .ok oneColumnBytes := rfl
  have read : reading .usual oneColumnSurroundings oneColumnSource =
      .ok ⟨.implicit, .last "id" (.primitive .string)⟩ := by
    simp only [reading, readSchema, located, unmapped, inFile, Except.mapError, ok_bind, built]
  exact lists_iff.mpr ⟨_, read, rfl⟩

/-- The same surroundings with an output in Latin-1. -/
def latinSurroundings : Surroundings :=
  { oneColumnSurroundings with stdout := .latin1 }

/-- The list does not depend on the encoding of standard output. -/
theorem lists_oneColumn_latin : Lists .usual latinSurroundings oneColumnSource "id string" :=
  lists_oneColumn

end Request

end TableDdl
