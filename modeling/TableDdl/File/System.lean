import TableDdl.File.Name
import TableDdl.Text.Quoted

/-!
# The file system

The files and directories that a run may meet. A path is followed part by part from the working
directory or from the root; every part but the last has to lead to a directory.
-/

namespace TableDdl

/-- Why a file cannot be read or written. -/
inductive FileFlaw where
  | notFound
  | notDirectory
  | isDirectory
  | nameTooLong
  deriving DecidableEq, Repr

/-- Why a file is not opened: a flaw of the file system, with the path it was met on, or a path that
no file can have, because there are surrogates or a null character in it. -/
inductive FileError where
  | onPath (flaw : FileFlaw) (path : Path)
  | unencodable (surrogates : Utf8.Unencodable)
  | nullCharacter
  deriving DecidableEq, Repr

/-- The number that the operating system gives a flaw. -/
def FileFlaw.code : FileFlaw → Nat
  | .notFound => 2
  | .notDirectory => 20
  | .isDirectory => 21
  | .nameTooLong => 36

/-- The wording of a flaw. -/
def FileFlaw.message : FileFlaw → String
  | .notFound => "No such file or directory"
  | .notDirectory => "Not a directory"
  | .isDirectory => "Is a directory"
  | .nameTooLong => "File name too long"

/-- The report of an error. -/
def FileError.message : FileError → Text
  | .onPath flaw path =>
    "[Errno " ++ Text.ofNat flaw.code ++ "] " ++ flaw.message ++ ": " ++ path.toText.quoted
  | .unencodable surrogates => surrogates.message
  | .nullCharacter => "embedded null byte"

/-- Why the operating system cannot be asked about a path. -/
def Path.refusal? (path : Path) : Option FileError :=
  match path.unencodable? with
  | some surrogates => some (.unencodable surrogates)
  | none => if path.hasNull then some .nullCharacter else none

/-- What a name in a directory stands for. -/
inductive Entry where
  | file (bytes : List UInt8)
  | directory
  deriving DecidableEq, Repr

/-- The working directory and the known entries, by the names that lead to them from the root, in
order of creation. -/
structure FileSystem where
  workingDirectory : List FileName
  entries : List (List FileName × Entry)
  deriving Repr

namespace FileSystem

/-- The entry that names lead to. The root is a directory. -/
def entry? (fs : FileSystem) (names : List FileName) : Option Entry :=
  if names.isEmpty then some .directory else fs.entries.lookup names

/-- Gives names an entry; one that is there is replaced in its place. -/
def put (fs : FileSystem) (names : List FileName) (entry : Entry) : FileSystem :=
  if (fs.entries.lookup names).isSome then
    { fs with entries := fs.entries.map fun known =>
        if known.1 = names then (names, entry) else known }
  else { fs with entries := fs.entries ++ [(names, entry)] }

/-- Makes a directory and the directories above it, where there is nothing yet. -/
def makeDirectory (fs : FileSystem) (names : List FileName) : FileSystem :=
  ((List.range (names.length + 1)).map names.take).foldl
    (fun fs above => if (fs.entry? above).isSome then fs else fs.put above .directory) fs

/-- A file system in which there is only the working directory. -/
def inDirectory (workingDirectory : List FileName) : FileSystem :=
  (FileSystem.mk workingDirectory []).makeDirectory workingDirectory

/-- Goes from a directory along the next part of a path. Above the root there is only the root. -/
def step (fs : FileSystem) (names : List FileName) (part : Text) :
    Except FileFlaw (List FileName) :=
  match fs.entry? names with
  | none => .error .notFound
  | some (.file _) => .error .notDirectory
  | some .directory =>
    if part = Path.dotDot then .ok names.dropLast
    else
      let name := FileName.ofText part
      if FileName.maxSize < name.length then .error .nameTooLong else .ok (names ++ [name])

/-- The names at which a path starts. -/
def start (fs : FileSystem) (path : Path) : List FileName :=
  if path.isAbsolute then [] else fs.workingDirectory

/-- The names that a path leads to. There need not be an entry at them. -/
def locate (fs : FileSystem) (path : Path) : Except FileFlaw (List FileName) :=
  if Path.maxSize < path.size then .error .nameTooLong
  else path.parts.foldlM fs.step (fs.start path)

/-- The entry that a path leads to. -/
def find? (fs : FileSystem) (path : Path) : Except FileFlaw Entry := do
  let names ← fs.locate path
  match fs.entry? names with
  | some entry => .ok entry
  | none => .error .notFound

/-- The test for a path that leads to an entry. It gives no answer for a name that is too long. -/
def pathExists (fs : FileSystem) (path : Path) : Except FileError Bool :=
  if path.isAskable then
    match fs.find? path with
    | .ok _ => .ok true
    | .error .nameTooLong => .error (.onPath .nameTooLong path)
    | .error _ => .ok false
  else .ok false

/-- The bytes of the file that a path leads to. -/
def read (fs : FileSystem) (path : Path) : Except FileError (List UInt8) :=
  match path.refusal? with
  | some refusal => .error refusal
  | none =>
    match fs.find? path with
    | .ok (.file bytes) => .ok bytes
    | .ok .directory => .error (.onPath .isDirectory path)
    | .error flaw => .error (.onPath flaw path)

/-- Writes a file: one that is there is replaced, a new one is made in a directory that has to be
there. -/
def write (fs : FileSystem) (path : Path) (bytes : List UInt8) : Except FileError FileSystem :=
  match path.refusal? with
  | some refusal => .error refusal
  | none =>
    match fs.locate path with
    | .error flaw => .error (.onPath flaw path)
    | .ok names =>
      match fs.entry? names with
      | some .directory => .error (.onPath .isDirectory path)
      | _ => .ok (fs.put names (.file bytes))

/-- Adds an entry under a path from the working directory, with the directories that lead to it. -/
def add (fs : FileSystem) (path : Path) (entry : Entry) : FileSystem :=
  let names := fs.start path ++ path.parts.map FileName.ofText
  match entry with
  | .directory => fs.makeDirectory names
  | .file bytes => (fs.makeDirectory names.dropLast).put names (.file bytes)

/-- The files that are new or differ from those of an earlier state, with their bytes. -/
def changedSince (earlier later : FileSystem) : List (List FileName × List UInt8) :=
  later.entries.filterMap fun (names, entry) =>
    match entry with
    | .directory => none
    | .file bytes =>
      if earlier.entry? names = some (.file bytes) then none else some (names, bytes)

end FileSystem

end TableDdl
