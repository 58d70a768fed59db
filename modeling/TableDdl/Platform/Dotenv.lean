import TableDdl.Text.CharClass

/-!
# Environment files

A file of bindings, one on a line: a name, an equals sign and a value. A value may stand in
quotation marks, with escapes, and may then go over several lines. Values may refer to variables
that are set before them. A line that is no binding is passed over with a warning.
-/

namespace TableDdl.Dotenv

/-- A binding; a name without an equals sign has no value. -/
structure Binding where
  name : Text
  value : Option Text
  deriving DecidableEq, Repr

/-! ## Reading lines -/

/-- A line feed or a carriage return. -/
def isLineEnd (p : CodePoint) : Bool :=
  p = .scalar '\n' || p = .scalar '\r'

/-- White space within a line. -/
def isInnerSpace (p : CodePoint) : Bool :=
  p.isSpace && !isLineEnd p

/-- A text without the white space within a line at its start. -/
def skipInner (t : Text) : Text :=
  t.dropWhile isInnerSpace

/-- Passes over the word `export` and the white space after it. -/
def skipExport (t : Text) : Text :=
  match t with
  | .scalar 'e' :: .scalar 'x' :: .scalar 'p' :: .scalar 'o' :: .scalar 'r' :: .scalar 't' ::
      p :: rest => if isInnerSpace p then skipInner rest else t
  | t => t

/-- The points of a name without quotation marks. -/
def isNamePoint (p : CodePoint) : Bool :=
  !(p = .scalar '=' || p = .scalar '#' || p.isSpace)

/-- Reads the name of a binding. There is none in front of a comment. -/
def readName? (t : Text) : Option (Option Text × Text) :=
  match t with
  | .scalar '#' :: _ => some (none, t)
  | .scalar '\x27' :: rest =>
    let name := rest.takeWhile (· ≠ .scalar '\x27')
    match name, rest.drop name.length with
    | [], _ => none
    | _, [] => none
    | name, _ :: after => some (some name, after)
  | t =>
    match t.takeWhile isNamePoint with
    | [] => none
    | name => some (some name, t.dropWhile isNamePoint)

/-- The text up to a closing quotation mark, and what follows the mark. A backslash and the point
after it belong together, so that a mark after a backslash does not close, but a mark after two
backslashes does. -/
def readQuoted? (mark : Char) : Text → Option (Text × Text)
  | [] => none
  | p :: rest =>
    if p = .scalar mark then some ([], rest)
    else
      match p, rest with
      | .scalar '\\', q :: more =>
        (readQuoted? mark more).map fun (value, after) => (p :: q :: value, after)
      | _, rest => (readQuoted? mark rest).map fun (value, after) => (p :: value, after)

/-- The character of an escape in a value between double marks. -/
def doubleEscape? : CodePoint → Option Char
  | .scalar '\\' => some '\\'
  | .scalar '\x27' => some '\x27'
  | .scalar '"' => some '"'
  | .scalar 'a' => some '\x07'
  | .scalar 'b' => some '\x08'
  | .scalar 'f' => some '\x0c'
  | .scalar 'n' => some '\n'
  | .scalar 'r' => some '\r'
  | .scalar 't' => some '\t'
  | .scalar 'v' => some '\x0b'
  | _ => none

/-- The character of an escape in a value between single marks. -/
def singleEscape? : CodePoint → Option Char
  | .scalar '\\' => some '\\'
  | .scalar '\x27' => some '\x27'
  | _ => none

/-- Replaces the escapes of a value; a backslash that starts none stays. -/
def unescape (escape? : CodePoint → Option Char) : Text → Text
  | [] => []
  | .scalar '\\' :: p :: rest =>
    match escape? p with
    | some c => .scalar c :: unescape escape? rest
    | none => .scalar '\\' :: unescape escape? (p :: rest)
  | p :: rest => p :: unescape escape? rest

/-- A value without quotation marks, up to a comment that follows white space. -/
def cutComment : Text → Text
  | [] => []
  | p :: rest =>
    if p.isSpace && (rest.dropWhile CodePoint.isSpace).head? = some (.scalar '#') then []
    else p :: cutComment rest

/-- Reads a value. -/
def readValue? (t : Text) : Option (Text × Text) :=
  match t with
  | .scalar '\x27' :: rest =>
    (readQuoted? '\x27' rest).map fun (value, after) => (unescape singleEscape? value, after)
  | .scalar '"' :: rest =>
    (readQuoted? '"' rest).map fun (value, after) => (unescape doubleEscape? value, after)
  | t =>
    let line := t.takeWhile (!isLineEnd ·)
    some ((cutComment line).trimEnd, t.dropWhile (!isLineEnd ·))

/-- Passes over the end of a line; a carriage return and a line feed are one end. -/
def dropLineEnd : Text → Text
  | .scalar '\r' :: .scalar '\n' :: rest => rest
  | p :: rest => if isLineEnd p then rest else p :: rest
  | [] => []

/-- Passes over a comment and the end of the line, with nothing else in between. -/
def finishLine? (t : Text) : Option Text :=
  let t := skipInner t
  let t :=
    match t with
    | .scalar '#' :: _ => t.dropWhile (!isLineEnd ·)
    | t => t
  match t with
  | [] => some []
  | p :: _ => if isLineEnd p then some (dropLineEnd t) else none

/-- A result, or the text that was left when there was none. -/
def orLeft {α : Type} (left : Text) : Option α → Except Text α
  | some a => .ok a
  | none => .error left

/-- Reads what follows the equals sign of a binding: its value. A comment after white space leaves
the value empty; without white space the sign of a comment is a part of the value. -/
def readAssigned? (t : Text) : Option (Text × Text) :=
  let start := skipInner t
  if start.head? = some (.scalar '#') && start.length < t.length then some ([], start)
  else readValue? start

/-- Reads one line, which is not blank: its binding, if it has one, and what follows the line. A
line that is no binding gives the text from the place on where it stops being one. -/
def readLine (t : Text) : Except Text (Option Binding × Text) := do
  let start := skipExport t
  let (name?, rest) ← orLeft start (readName? start)
  let (value?, rest) ←
    match skipInner rest with
    | .scalar '=' :: rest =>
      (fun (value, after) => (some value, after)) <$> orLeft (skipInner rest) (readAssigned? rest)
    | rest => .ok (none, rest)
  let after ← orLeft rest (finishLine? rest)
  pure (name?.map (⟨·, value?⟩), after)

/-- What follows the line that a text starts with. -/
def dropLine (t : Text) : Text :=
  dropLineEnd (t.dropWhile (!isLineEnd ·))

/-- What a file holds: its bindings in order, and the numbers of the lines that are none. -/
structure Content where
  bindings : List Binding
  warnings : List Nat

/-- Reads lines from a given line number on. Every line takes at least one code point, so that as
many steps as there are code points suffice. -/
def readLines (lineNumber : Nat) : Nat → Text → Content
  | 0, _ => ⟨[], []⟩
  | steps + 1, t =>
    match t.dropWhile CodePoint.isSpace with
    | [] => ⟨[], []⟩
    | start =>
      let next (after : Text) : Content :=
        let consumed := t.take (t.length - after.length)
        readLines (lineNumber + consumed.count (.scalar '\n')) steps after
      match readLine start with
      | .ok (some binding, after) =>
        let more := next after
        ⟨binding :: more.bindings, more.warnings⟩
      | .ok (none, after) => next after
      | .error left =>
        let more := next (dropLine left)
        ⟨more.bindings, lineNumber :: more.warnings⟩

/-- The text without a byte order mark at its start. -/
def dropMark (t : Text) : Text :=
  if t.head? = some (.scalar '\ufeff') then t.tail else t

/-- The content of a file's text, which may begin with a byte order mark. -/
def read (t : Text) : Content :=
  let t := dropMark t
  readLines 1 t.length t

/-! ## References to variables -/

/-- A reference to a variable in a value: `$`, and in braces the name and, after `:-`, what stands
for a variable that is not set. -/
structure Reference where
  name : Text
  absent : Text

/-- Reads a reference after its dollar sign. -/
def readReference? : Text → Option (Reference × Text)
  | .scalar '\x7b' :: rest =>
    let isNameEnd (p : CodePoint) : Bool := p = .scalar '\x7d' || p = .scalar ':'
    let name := rest.takeWhile (!isNameEnd ·)
    match rest.drop name.length with
    | .scalar '\x7d' :: after => some (⟨name, []⟩, after)
    | .scalar ':' :: .scalar '-' :: more =>
      let absent := more.takeWhile (· ≠ .scalar '\x7d')
      match more.drop absent.length with
      | _ :: after => some (⟨name, absent⟩, after)
      | [] => none
    | _ => none
  | _ => none

/-- The variables that a value may refer to; one without a value is set to nothing. -/
abbrev Variables := List (Text × Option Text)

/-- Gives a variable a value. One that is there already keeps its place. -/
def Variables.put (name : Text) (value : Option Text) : Variables → Variables
  | [] => [(name, value)]
  | (known, old) :: rest =>
    if known = name then (name, value) :: rest else (known, old) :: put name value rest

/-- The value of a reference. A variable without a value is empty. -/
def Reference.value (scope : Variables) (r : Reference) : Text :=
  match scope.lookup r.name with
  | some value => value.getD []
  | none => r.absent

/-- Replaces the references in a value. Each step takes at least one code point. -/
def substituteSteps (scope : Variables) : Nat → Text → Text
  | 0, t => t
  | _, [] => []
  | steps + 1, .scalar '$' :: rest =>
    match readReference? rest with
    | some (r, after) => r.value scope ++ substituteSteps scope steps after
    | none => .scalar '$' :: substituteSteps scope steps rest
  | steps + 1, p :: rest => p :: substituteSteps scope steps rest

/-- Replaces the references in a value. -/
def substitute (scope : Variables) (value : Text) : Text :=
  substituteSteps scope value.length value

/-- The names of the variables that a value refers to. -/
def referenceNames : Text → List Text
  | [] => []
  | p :: rest =>
    match p, readReference? rest with
    | .scalar '$', some (r, _) => r.name :: referenceNames rest
    | _, _ => referenceNames rest

/-- The values of bindings in order. A value may refer to the bindings above it and, where these do
not set a name, to the environment. -/
def resolve (environment : List (Text × Text)) (bindings : List Binding) : Variables :=
  let outer : Variables := environment.map fun (name, value) => (name, some value)
  bindings.foldl
    (fun resolved binding =>
      resolved.put binding.name (binding.value.map (substitute (resolved ++ outer))))
    ([] : Variables)

end TableDdl.Dotenv
