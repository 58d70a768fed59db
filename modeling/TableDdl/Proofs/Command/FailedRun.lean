import TableDdl.Proofs.Platform.Plain

/-!
# What a failed run leaves behind

A run that fails leaves all files as they were, with two exceptions, for which the file for what it
makes has to be open already: the encoding of the file does not take what was made, so that the file
is left empty; or what was made is in the file, but the packages do not display that it is. Whenever
one of these is the case, a run does fail and leaves the file behind. Both are read off the program
for every toolkit; the display fails if the path is read as a closing tag, and if the encoding of
standard output has no check mark.
-/

namespace TableDdl.Request

open Json Outcome

variable {kit : Toolkit} {s : Surroundings} {request : Request} {output : Output} {t : Text}
  {after : FileSystem}

/-- `LeftBehind kit s request output after`: the files after a run that had opened the file for what
it made. The file is empty, because its encoding does not take what was made; or it holds what was
made, and it cannot be displayed that it does. -/
inductive LeftBehind (kit : Toolkit) (s : Surroundings) (request : Request) (output : Output) :
    FileSystem → Prop
  | emptied {after : FileSystem} {t complaint : Text}
    (made : request.made kit s = .ok (.text t))
    (refused : s.textFiles.encode t.line = .error complaint)
    (opened : s.files.write output.path [] = .ok after) : LeftBehind kit s request output after
  | written {after : FileSystem} {t : Text} {bytes : List UInt8} {error : PackageError}
    (made : request.made kit s = .ok (.text t))
    (encoded : s.textFiles.encode t.line = .ok bytes)
    (writing : s.files.write output.path bytes = .ok after)
    (untold : kit.display s (savedText output) = .error error) :
    LeftBehind kit s request output after

/-- A request with a file for what it makes makes a text. -/
theorem exists_text_of_made {product : Product} (given : request.output? = some output)
    (made : request.made kit s = .ok product) : ∃ t, product = .text t := by
  rw [made_eq] at made
  obtain ⟨path, -, produced⟩ := bind_eq_ok_iff.mp made
  cases request with
  | showSchema source => cases given
  | _ =>
    simp only [produce, Traced.outcome_bind] at produced
    obtain ⟨t, -, wrapped⟩ := bind_eq_ok_iff.mp produced
    cases wrapped
    exact ⟨t, rfl⟩

/-- A run that fails leaves all files as they were, unless it had opened the file for what it made,
and the encoding of the file does not take this, or it cannot be displayed that the file was
written. -/
theorem failed_run_leaves_files (kit : Toolkit) (s : Surroundings) (request : Request)
    (failed : (request.run kit s).status ≠ 0) :
    (request.run kit s).files = s.files ∨
      ∃ output, request.output? = some output ∧
        LeftBehind kit s request output (request.run kit s).files := by
  rcases run_cases kit s request with ⟨-, -, -, files⟩ | ⟨product, made, files, -⟩
  · exact Or.inl files
  rw [files]
  cases given : request.output? with
  | none => exact Or.inl (files_deliver_of_none given product)
  | some output =>
    obtain ⟨t, rfl⟩ := exists_text_of_made given made
    rw [deliver_text_some given]
    rcases save_cases kit s output t with
      ⟨e, -, saved⟩ | ⟨opened, complaint, opening, refused, saved⟩ |
        ⟨bytes, written, encoded, writing, saved⟩
    · rw [saved]
      exact Or.inl rfl
    · rw [saved]
      exact Or.inr ⟨output, rfl, .emptied made refused opening⟩
    · rw [saved]
      refine Or.inr ⟨output, rfl, ?_⟩
      cases told : kit.display s (savedText output) with
      | error error => exact .written made encoded writing told
      | ok shown => exact absurd (status_run_of_save given made encoded writing told) failed

/-- Where a file is left behind the run does fail. -/
theorem run_of_leftBehind (given : request.output? = some output)
    (left : LeftBehind kit s request output after) :
    (request.run kit s).status = 1 ∧ (request.run kit s).files = after := by
  have ends {t : Text} {failure : Failure} (made : request.made kit s = .ok (.text t))
      (saved : save kit s output t = ⟨after, .error failure⟩) :
      (request.run kit s).status = 1 ∧ (request.run kit s).files = after := by
    rcases run_cases kit s request with ⟨failure, unmade, -⟩ | ⟨product, made', files, delivered⟩
    · cases made.symm.trans unmade
    · cases made.symm.trans made'
      rw [deliver_text_some given, saved] at files delivered
      rcases delivered with ⟨failure, -, status⟩ | ⟨bytes, printed, -⟩
      · exact ⟨status, files⟩
      · cases printed
  cases left with
  | emptied made refused opened => exact ends made (save_of_refused opened refused)
  | written made encoded writing untold =>
    exact ends made (by rw [save_of_write encoded writing, untold]; rfl)

/-! ## Texts of a request -/

/-- The texts that a request gives for a table. -/
def texts : Request → List Text
  | columns _ _ => []
  | showSchema _ => []
  | createTable _ table _ => table.texts

/-- What is made for a file is a row of characters if the texts of the request are. -/
theorem isScalar_of_made (normal : request.source.IsNormal)
    (given : request.output? = some output) (scalar : ∀ u ∈ request.texts, IsScalar u)
    (made : request.made kit s = .ok (.text t)) : IsScalar t := by
  cases request with
  | columns source path =>
    obtain ⟨list, same, lists⟩ := exists_lists_of_made made
    cases same
    exact (isPlain_of_lists lists).isScalar
  | showSchema source => cases given
  | createTable source table path =>
    obtain ⟨-, list, lists, same⟩ := (made_createTable_eq_ok_iff normal).mp made
    cases same
    exact isScalar_statement scalar (isPlain_of_lists lists)

/-- In an encoding that takes every row of characters a file is left empty only because of a
surrogate in a text of the request. -/
theorem exists_surrogate_of_refused (normal : request.source.IsNormal)
    (given : request.output? = some output) (takes : ∀ u, IsScalar u → s.textFiles.Takes u)
    (made : request.made kit s = .ok (.text t)) {complaint : Text}
    (refused : s.textFiles.encode t.line = .error complaint) :
    ∃ u ∈ request.texts, ¬ IsScalar u := by
  by_contra none
  have scalar : ∀ u ∈ request.texts, IsScalar u := by simpa using none
  obtain ⟨bytes, encoded⟩ :=
    takes _ (Text.isScalar_line (isScalar_of_made normal given scalar made))
  cases refused.symm.trans encoded

/-! ## Files that are left behind -/

/-- A path that is read as a closing tag. -/
def tagPath : Path := .ofText "o[/]"

/-- A command line that asks for a list in the file at this path. -/
def tagArguments : List Text := ["columns", "s", "-o", "o[/]"]

theorem display_tagPath (s : Surroundings) :
    Toolkit.usual.display s (savedText ⟨tagPath, "Column list"⟩) =
      .error Markup.markupError := by
  have cut : Markup.parts (savedText ⟨tagPath, "Column list"⟩) =
      [.tag 0 "green", .plain "✓", .tag 0 "/green", .plain " Column list written to o",
        .tag 0 "/"] := by
    decide +kernel
  have unmatched : Markup.applyTag [] "/" = .error Markup.markupError := rfl
  have rendered : Markup.render (savedText ⟨tagPath, "Column list"⟩) =
      .error Markup.markupError := by
    rw [Markup.render, cut, Markup.showParts_after_checkMark, Markup.showParts_plain,
      Markup.showParts_tag, unmatched]
    rfl
  show (Markup.render _ >>= fun t => Toolkit.displayLines s (Layout.printed 80 t)) = _
  rw [rendered]
  rfl

/-- What is told about any file holds a check mark, which is not in Latin-1. -/
theorem display_checkMark :
    Toolkit.usual.display latinSurroundings (savedText ⟨.ofText "o", "Column list"⟩) =
      .error (Toolkit.undisplayable
        (Encoding.limitComplaint "latin-1" 0x100 "✓ Column list written to o\n")) := by
  have shown : Layout.printed 80 ("✓" ++ Markup.Emoji.replace
      (" " ++ Text.ofString "Column list" ++ " written to " ++ (Path.ofText "o").toText)) =
        Text.ofString "✓ Column list written to o\n" := by
    decide +kernel
  rw [Toolkit.usual, Toolkit.display_savedText none _ (by decide) (by decide), shown]
  rfl

/-- Two runs that fail with the list in its file already: because the path of the file is read as a
closing tag, and because standard output is in Latin-1. -/
theorem lists_are_left_behind :
    (ofArguments? tagArguments = some (columns oneColumnSource (some tagPath)) ∧
      ((columns oneColumnSource (some tagPath)).run .usual oneColumnSurroundings).status = 1 ∧
      oneColumnSurroundings.files.read tagPath = .error (.onPath .notFound tagPath) ∧
      FileSystem.read
        ((columns oneColumnSource (some tagPath)).run .usual oneColumnSurroundings).files
        tagPath = .ok (Utf8.encode "id string\n".toList)) ∧
    ((columns oneColumnSource (some (.ofText "o"))).run .usual latinSurroundings).status = 1 ∧
      latinSurroundings.files.read (.ofText "o") = .error (.onPath .notFound (.ofText "o")) ∧
      FileSystem.read
        ((columns oneColumnSource (some (.ofText "o"))).run .usual latinSurroundings).files
        (.ofText "o") = .ok (Utf8.encode "id string\n".toList) := by
  have line := Encoding.encode_utf8_ofString "id string\n"
  have writtenTag : oneColumnSurroundings.files.write tagPath (Utf8.encode "id string\n".toList) =
      .ok (oneColumnSurroundings.files.put [FileName.ofText "o[", FileName.ofText "]"]
        (.file (Utf8.encode "id string\n".toList))) := rfl
  have written : latinSurroundings.files.write (.ofText "o") (Utf8.encode "id string\n".toList) =
      .ok (latinSurroundings.files.put [FileName.ofText "o"]
        (.file (Utf8.encode "id string\n".toList))) := rfl
  have leftTag : LeftBehind .usual oneColumnSurroundings (columns oneColumnSource (some tagPath))
      ⟨tagPath, "Column list"⟩ _ :=
    .written lists_oneColumn line writtenTag (display_tagPath oneColumnSurroundings)
  have left : LeftBehind .usual latinSurroundings (columns oneColumnSource (some (.ofText "o")))
      ⟨.ofText "o", "Column list"⟩ _ :=
    .written lists_oneColumn_latin line written display_checkMark
  constructor
  · obtain ⟨status, files⟩ := run_of_leftBehind rfl leftTag
    rw [files]
    exact ⟨by decide +kernel, status, rfl, (FileSystem.read_of_write writtenTag).1⟩
  · obtain ⟨status, files⟩ := run_of_leftBehind rfl left
    rw [files]
    exact ⟨status, rfl, (FileSystem.read_of_write written).1⟩

/-- A run that cannot open its file fails and leaves all files as they were. -/
theorem directory_is_left :
    ((columns oneColumnSource (some (.ofText "."))).run .usual oneColumnSurroundings).status ≠ 0 ∧
      ((columns oneColumnSource (some (.ofText "."))).run .usual oneColumnSurroundings).files =
        oneColumnSurroundings.files := by
  have refused (bytes : List UInt8) : oneColumnSurroundings.files.write (.ofText ".") bytes =
      .error (.onPath .isDirectory (.ofText ".")) := rfl
  have failed : ((columns oneColumnSource (some (.ofText "."))).run .usual
      oneColumnSurroundings).status ≠ 0 := by
    intro succeeded
    obtain ⟨product, bytes, made, printed⟩ := status_run_eq_zero_iff.mp succeeded
    obtain ⟨list, rfl, -⟩ := exists_lists_of_made made
    rw [deliver_text_some rfl, save, refused] at printed
    cases printed
  refine ⟨failed, ?_⟩
  rcases failed_run_leaves_files .usual oneColumnSurroundings _ failed with
    same | ⟨output, given, left⟩
  · exact same
  · cases given
    cases left with
    | emptied made refused' opened => cases (refused []).symm.trans opened
    | written made encoded writing untold => cases (refused _).symm.trans writing

end TableDdl.Request
