import Std.Time.DateTime
import TableDdl.Command.Run
import TableDdl.Platform.Arguments
import TableDdl.Platform.Plain

/-!
# The command line program

Fetches what a run depends on from the operating system, runs the request, and carries out what it
says.
-/

namespace TableDdl.Main

/-- The string of a text; surrogates have none. -/
def string (t : Text) : String :=
  String.ofList (t.filterMap CodePoint.char?)

/-- The spelling of names from the root for the operating system; there is none for names that are
no UTF-8. -/
def systemPath? (names : List FileName) : Option String :=
  let parts := names.mapM fun name => (Utf8.decode name).toOption.map String.ofList
  parts.map fun parts => "/" ++ String.intercalate "/" parts

/-- The entry that names lead to. What can be opened and not read is a directory. -/
def fetchEntry (names : List FileName) : IO (Option Entry) := do
  match systemPath? names with
  | none => return none
  | some path =>
    match ← (IO.FS.Handle.mk path .read).toBaseIO with
    | .error _ => return none
    | .ok handle =>
      match ← handle.readBinToEnd.toBaseIO with
      | .error _ => return some .directory
      | .ok bytes => return some (.file bytes.toList)

/-- Adds the entries along a path to a file system. -/
def fetchAlong (fs : FileSystem) (names : List FileName) : List Text → IO FileSystem
  | [] => return fs
  | part :: rest =>
    match fs.step names part with
    | .error _ => return fs
    | .ok next => do
      if (fs.entry? next).isSome then fetchAlong fs next rest
      else
        match ← fetchEntry next with
        | none => return fs
        | some entry => fetchAlong (fs.put next entry) next rest

/-- Adds the entries along some paths to a file system. -/
def fetchPaths (fs : FileSystem) (paths : List Path) : IO FileSystem :=
  paths.foldlM (fun fs path => fetchAlong fs (fs.start path) path.parts) fs

/-- The values of those environment variables that are set. -/
def fetchVariables (names : List Text) : IO (List (Text × Text)) :=
  names.filterMapM fun name => do
    return (← IO.getEnv (string name)).map fun value => (name, Text.ofString value)

/-- The cells of a line where nothing is said about them. -/
def usualWidth : Nat := 80

/-- The packages with the width that the environment gives to lines. -/
def fetchToolkit : IO Toolkit := do
  let columns := (← IO.getEnv "COLUMNS").bind String.toNat?
  return .plain (columns.getD usualWidth) none

/-- A number in decimal digits, filled with zeros up to a width. -/
def digits (width : Nat) (n : Int) : String :=
  let text := toString n.natAbs
  String.ofList (List.replicate (width - text.length) '0') ++ text

/-- The time now, in universal time. -/
def timeStamp : IO Text := do
  let now := Std.Time.PlainDateTime.ofWallTime (.ofDuration (← Std.Time.Timestamp.now).val)
  let date := String.intercalate "-"
    [digits 4 now.date.year, digits 2 now.date.month.val, digits 2 now.date.day.val]
  let clock := String.intercalate ":"
    [digits 2 now.time.hour.val, digits 2 now.time.minute.val, digits 2 now.time.second.val]
  let micros := digits 6 (now.time.nanosecond.val / 1000)
  return Text.ofString (date ++ "T" ++ clock ++ "." ++ micros ++ "Z")

/-- The surroundings of a run in UTF-8. -/
def surroundings (environment : List (Text × Text)) (fs : FileSystem) (time : Text) :
    Surroundings where
  environment := environment
  files := fs
  time := time
  stdout := .utf8
  textFiles := .utf8
  stderr := Encoding.utf8Spelled

/-- Runs a request and gives the status. -/
def perform (request : Request) : IO UInt32 := do
  let kit ← fetchToolkit
  let here := (Path.ofText (Text.ofString (← IO.currentDir).toString)).parts.map FileName.ofText
  let fs ← fetchPaths (.inDirectory here) [Settings.environmentFile]
  let environment ← fetchVariables
    (Variables.names fs Settings.variableStem Settings.environmentFile Settings.fields)
  let time ← timeStamp
  let fs ←
    match (kit.settings (surroundings environment fs time)).2 with
    | .ok settings => fetchPaths fs (request.paths (request.settings settings))
    | .error _ => pure fs
  let outcome := request.run kit (surroundings environment fs time)
  for (names, bytes) in fs.changedSince outcome.files do
    if let some path := systemPath? names then
      IO.FS.writeBinFile path ⟨bytes.toArray⟩
  (← IO.getStdout).write ⟨outcome.stdout.toArray⟩
  (← IO.getStderr).write ⟨outcome.stderr.toArray⟩
  if let some failure := outcome.unexpected then
    IO.eprintln (string (failure.message kit.explain))
  return outcome.status.toUInt32

end TableDdl.Main

/-- The program: a command line that is not understood ends with its own status, after the forms
that are. -/
def main (arguments : List String) : IO UInt32 := do
  match TableDdl.Request.ofArguments? (arguments.map TableDdl.Text.ofString) with
  | some request => TableDdl.Main.perform request
  | none =>
    for form in TableDdl.Request.usage do
      IO.eprintln ("Usage: " ++ form)
    return TableDdl.usageStatus.toUInt32
