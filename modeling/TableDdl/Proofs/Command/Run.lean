import TableDdl.Proofs.Command.Reading
import TableDdl.Proofs.File.System

/-!
# How a run ends

A run first makes something, for which files are only read, and then brings it to its place.
`Request.run_eq_cases` says how it ends in each case, for every toolkit.
-/

namespace TableDdl.Request

open Json Outcome

variable {kit : Toolkit} {s : Surroundings} {request : Request} {product : Product} {t : Text}

/-! ## Where it goes -/

theorem deliver_text_none (none : request.output? = none) (t : Text) :
    request.deliver kit s (.text t) = print kit s t := by
  rw [deliver, none]

theorem deliver_text_some {output : Output} (given : request.output? = some output) (t : Text) :
    request.deliver kit s (.text t) = save kit s output t := by
  rw [deliver, given]

/-- Without a file for what is made all files stay as they are. -/
theorem files_deliver_of_none (none : request.output? = none) (product : Product) :
    (request.deliver kit s product).files = s.files := by
  cases product with
  | text t =>
    rw [deliver_text_none none]
    rfl
  | sheet sheet => rfl

/-- A file that can be opened is left empty if its encoding does not take the text. -/
theorem save_of_refused {output : Output} {opened : FileSystem} {complaint : Text}
    (opening : s.files.write output.path [] = .ok opened)
    (refused : s.textFiles.encode t.line = .error complaint) :
    save kit s output t = ⟨opened, .error (.unencodable complaint)⟩ := by
  simp only [save, opening, refused]

/-- A text whose encoding takes it is saved in a file that can be written, and then something is
told. -/
theorem save_of_write {output : Output} {written : FileSystem} {bytes : List UInt8}
    (encoded : s.textFiles.encode t.line = .ok bytes)
    (writing : s.files.write output.path bytes = .ok written) :
    save kit s output t =
      ⟨written, (kit.display s (savedText output)).mapError Failure.package⟩ := by
  obtain ⟨opened, opening⟩ : ∃ opened, s.files.write output.path [] = .ok opened :=
    FileSystem.write_eq_ok_of_write writing
  simp only [save, opening, encoded, writing]

/-- A text is saved in a file: the file cannot be opened, or it is opened and empty and its encoding
does not take the text, or the text is written and something is told. -/
theorem save_cases (kit : Toolkit) (s : Surroundings) (output : Output) (t : Text) :
    (∃ e, s.files.write output.path [] = .error e ∧
      save kit s output t = ⟨s.files, .error (.file e)⟩) ∨
    (∃ opened complaint, s.files.write output.path [] = .ok opened ∧
      s.textFiles.encode t.line = .error complaint ∧
      save kit s output t = ⟨opened, .error (.unencodable complaint)⟩) ∨
    ∃ bytes written, s.textFiles.encode t.line = .ok bytes ∧
      s.files.write output.path bytes = .ok written ∧
      save kit s output t =
        ⟨written, (kit.display s (savedText output)).mapError Failure.package⟩ := by
  cases opening : s.files.write output.path [] with
  | error e => exact Or.inl ⟨e, rfl, by simp only [save, opening]⟩
  | ok opened =>
    cases encoded : s.textFiles.encode t.line with
    | error complaint =>
      exact Or.inr (Or.inl ⟨opened, complaint, rfl, rfl, save_of_refused opening encoded⟩)
    | ok bytes =>
      obtain ⟨written, writing⟩ := FileSystem.write_eq_ok_of_write opening
      exact Or.inr (Or.inr ⟨bytes, written, rfl, writing, save_of_write encoded writing⟩)

/-! ## The run -/

/-- What a run writes of warnings and events, whether it succeeds or not. -/
def logged (kit : Toolkit) (s : Surroundings) (request : Request) : Text :=
  let (warnings, loaded) := kit.settings s
  match loaded with
  | .error _ => warnings
  | .ok settings =>
    match (request.settings settings).logging with
    | .error _ => warnings
    | .ok logging =>
      warnings ++ logging.write (kit.logLine s)
        (request.product s.files (request.settings settings)).events

theorem status_failed (files : FileSystem) (logged : Text) (failure : Failure) :
    (request.failed kit s files logged failure).status = 1 := by
  rw [failed]
  split
  · split <;> rfl
  · rfl

theorem files_failed (files : FileSystem) (logged : Text) (failure : Failure) :
    (request.failed kit s files logged failure).files = files := by
  rw [failed]
  split
  · split <;> rfl
  · rfl

/-- The outcome of a run: it failed because nothing was made or because what was made did not get to
its place, or it succeeded. -/
theorem run_eq_cases (kit : Toolkit) (s : Surroundings) (request : Request) :
    (∃ failure, request.made kit s = .error failure ∧
      request.run kit s = request.failed kit s s.files (request.logged kit s) failure) ∨
    ∃ product, request.made kit s = .ok product ∧
      ((∃ failure, (request.deliver kit s product).printed = .error failure ∧
        request.run kit s = request.failed kit s (request.deliver kit s product).files
          (request.logged kit s) failure) ∨
      ∃ printed, (request.deliver kit s product).printed = .ok printed ∧
        request.run kit s = ⟨0, printed, s.stderr (request.logged kit s),
          (request.deliver kit s product).files, none⟩) := by
  unfold run made logged
  rcases kit.settings s with ⟨warnings, loaded⟩
  cases loaded with
  | error failure => exact Or.inl ⟨failure, rfl, rfl⟩
  | ok settings =>
    simp only [ok_bind, runWith]
    cases (request.settings settings).logging with
    | error failure => exact Or.inl ⟨failure, rfl, rfl⟩
    | ok logging =>
      simp only [ok_bind]
      cases (request.product s.files (request.settings settings)).outcome with
      | error failure => exact Or.inl ⟨failure, rfl, rfl⟩
      | ok product =>
        simp only
        cases printed : (request.deliver kit s product).printed with
        | error failure => exact Or.inr ⟨product, rfl, Or.inl ⟨failure, printed, rfl⟩⟩
        | ok bytes => exact Or.inr ⟨product, rfl, Or.inr ⟨bytes, printed, rfl⟩⟩

/-- How a run ends: nothing is made and the files stay as they are, or what is made does not get to
its place, or it does. -/
theorem run_cases (kit : Toolkit) (s : Surroundings) (request : Request) :
    (∃ failure, request.made kit s = .error failure ∧ (request.run kit s).status = 1 ∧
      (request.run kit s).files = s.files) ∨
    ∃ product, request.made kit s = .ok product ∧
      (request.run kit s).files = (request.deliver kit s product).files ∧
      ((∃ failure, (request.deliver kit s product).printed = .error failure ∧
        (request.run kit s).status = 1) ∨
      ∃ printed, (request.deliver kit s product).printed = .ok printed ∧
        (request.run kit s).status = 0 ∧ (request.run kit s).stdout = printed) := by
  rcases run_eq_cases kit s request with ⟨failure, made, ends⟩ | ⟨product, made, delivered⟩
  · rw [ends]
    exact Or.inl ⟨failure, made, status_failed .., files_failed ..⟩
  · rcases delivered with ⟨failure, printed, ends⟩ | ⟨bytes, printed, ends⟩
    · rw [ends]
      exact Or.inr ⟨product, made, files_failed .., Or.inl ⟨failure, printed, status_failed ..⟩⟩
    · rw [ends]
      exact Or.inr ⟨product, made, rfl, Or.inr ⟨bytes, printed, rfl, rfl⟩⟩

theorem files_run_of_made (made : request.made kit s = .ok product) :
    (request.run kit s).files = (request.deliver kit s product).files := by
  rcases run_cases kit s request with ⟨failure, failed, -⟩ | ⟨other, made', files, -⟩
  · cases made.symm.trans failed
  · cases made.symm.trans made'
    exact files

/-- A run succeeds, with some bytes on standard output, exactly if something is made and these bytes
get there. -/
theorem run_succeeds_iff {bytes : List UInt8} :
    (request.run kit s).status = 0 ∧ (request.run kit s).stdout = bytes ↔
      ∃ product, request.made kit s = .ok product ∧
        (request.deliver kit s product).printed = .ok bytes := by
  rcases run_cases kit s request with
    ⟨failure, made, status, -⟩ |
      ⟨product, made, -, ⟨failure, printed, status⟩ | ⟨other, printed, status, stdout⟩⟩
  · simp [made, status]
  · simp [made, status, printed]
  · simp [made, status, printed, stdout]

/-- A run succeeds exactly if something is made and gets to its place. -/
theorem status_run_eq_zero_iff :
    (request.run kit s).status = 0 ↔
      ∃ product bytes, request.made kit s = .ok product ∧
        (request.deliver kit s product).printed = .ok bytes := by
  have bytes := @run_succeeds_iff kit s request (request.run kit s).stdout
  constructor
  · intro succeeded
    obtain ⟨product, made, printed⟩ := bytes.mp ⟨succeeded, rfl⟩
    exact ⟨product, _, made, printed⟩
  · intro delivered
    obtain ⟨product, bytes, made, printed⟩ := delivered
    exact (run_succeeds_iff.mpr ⟨product, made, printed⟩).1

/-- A run that saves a text succeeds, if its encoding takes the text, the file can be written and
this can be told. -/
theorem status_run_of_save {output : Output} {written : FileSystem} {bytes shown : List UInt8}
    (given : request.output? = some output) (made : request.made kit s = .ok (.text t))
    (encoded : s.textFiles.encode t.line = .ok bytes)
    (writing : s.files.write output.path bytes = .ok written)
    (told : kit.display s (savedText output) = .ok shown) : (request.run kit s).status = 0 := by
  refine status_run_eq_zero_iff.mpr ⟨_, shown, made, ?_⟩
  rw [deliver_text_some given, save_of_write encoded writing, told]
  rfl

end TableDdl.Request
