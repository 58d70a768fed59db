import TableDdl.Failure
import TableDdl.Platform.Markup.Emoji
import TableDdl.Platform.Markup.Literal
import TableDdl.Platform.Markup.Style

/-!
# Markup

Messages may hold tags in square brackets that set a style and end it. On a terminal without styles
they only disappear, but each end has to fit a beginning. Codes of emoji are replaced between tags.
`escape` protects a text from being read as tags.
-/

namespace TableDdl.Markup

/-- The points that a tag may begin with. -/
def startsTag (p : CodePoint) : Bool :=
  match p with
  | .scalar c => c.isLower || c = '#' || c = '/' || c = '@'
  | .surrogate _ => false

/-- Reads a tag: what stands in its brackets, and what follows it. -/
def readTag? : Text → Option (Text × Text)
  | .scalar '[' :: p :: rest =>
    if startsTag p then
      let body := rest.takeWhile fun q => q ≠ .scalar '[' && q ≠ .scalar ']'
      match rest.drop body.length with
      | .scalar ']' :: after => some (p :: body, after)
      | _ => none
    else none
  | _ => none

/-- A part of a marked-up text: a text without tags, or a tag after some backslashes. -/
inductive Part where
  | plain (t : Text)
  | tag (backslashes : Nat) (body : Text)
  deriving DecidableEq, Repr

/-- The test for a backslash. -/
def isBackslash (p : CodePoint) : Bool :=
  p = .scalar '\\'

/-- Adds a point that is no part of a tag in front of some parts. -/
def addPoint (p : CodePoint) : List Part → List Part
  | .plain t :: rest => .plain (p :: t) :: rest
  | rest => .plain [p] :: rest

/-- The parts of a text. Each step takes at least one code point. -/
def partsIn : Nat → Text → List Part
  | 0, _ => []
  | _, [] => []
  | steps + 1, p :: rest =>
    let backslashes := (p :: rest).takeWhile isBackslash
    match readTag? ((p :: rest).dropWhile isBackslash) with
    | some (body, after) => .tag backslashes.length body :: partsIn steps after
    | none => addPoint p (partsIn steps rest)

/-- The parts of a text. -/
def parts (t : Text) : List Part :=
  partsIn t.length t

/-- Some backslashes. -/
def backslashes (n : Nat) : Text :=
  List.replicate n (.scalar '\\')

/-- A tag with its brackets. -/
def tagText (body : Text) : Text :=
  "[" ++ body ++ "]"

/-- A part of a text that is to be shown as it is: the backslashes before a tag are doubled, and one
more is put before it. -/
def escapePart : Part → Text
  | .plain t => t
  | .tag n body => backslashes (2 * n + 1) ++ tagText body

/-- A text that is shown as it is. A single backslash at the end is doubled. -/
def escape (t : Text) : Text :=
  let escaped := (parts t).flatMap escapePart
  match escaped.reverse with
  | .scalar '\\' :: .scalar '\\' :: _ => escaped
  | .scalar '\\' :: _ => escaped ++ backslashes 1
  | _ => escaped

/-! ## Tags -/

/-- The error of an end that fits no beginning, and of arguments that are no literals. -/
def markupError : PackageError := .other "MarkupError"

/-- The error of a colour of three numbers that lacks one. -/
def missingNumberError : PackageError :=
  .value "ValueError" "invalid literal for int() with base 10: ''"

/-- A tag that sets a style: its name, and what stands after an equals sign, if there is one. -/
structure Tag where
  name : Text
  parameters : Option Text
  deriving DecidableEq, Repr

namespace Tag

/-- The name in a tag, up to an equals sign. -/
def nameOf (body : Text) : Text :=
  body.takeWhile (· ≠ .scalar '=')

/-- The common spelling of a name, or the error of reading it as a style. -/
def readName (t : Text) : Except PackageError Text :=
  (commonName t).mapError fun _ => missingNumberError

/-- The tag that sets a style. -/
def read (body : Text) : Except PackageError Tag := do
  let written := nameOf body
  let name ← readName written
  match body.drop written.length with
  | [] => pure ⟨name, none⟩
  | _ :: parameters => pure ⟨name, some parameters⟩

/-- The test for a tag that names an action. -/
def isAction (tag : Tag) : Bool :=
  tag.name.head? = some (.scalar '@')

/-- The test for a character of the name of a handler. Beyond ASCII all that is shown counts. -/
def isHandlerPoint (p : CodePoint) : Bool :=
  match p with
  | .scalar c => c.isAlphanum || c = '_' || c = '.' || (0x80 ≤ c.toNat && !p.isUnprintable)
  | .surrogate _ => false

/-- The arguments of an action. The name of a handler may stand before them, and without them there
are none. -/
def arguments (parameters : Text) : Text :=
  let parameters := parameters.trim CodePoint.isSpace
  match parameters.dropWhile isHandlerPoint with
  | [] => "()"
  | first :: rest =>
    if first = .scalar '(' && rest.getLast? = some (.scalar ')') && .scalar '\n' ∉ rest then
      first :: rest
    else parameters

/-- Checks a tag when its style ends: the arguments of an action have to be literals. -/
def checkEnd (tag : Tag) : Except PackageError Unit :=
  match tag.parameters with
  | none | some [] => .ok ()
  | some parameters =>
    if tag.isAction && !Literal.isLiteral (arguments parameters) then
      .error markupError
    else .ok ()

/-- Checks a tag when its style is shown: its name and parameters are read as one style. -/
def checkStyle (tag : Tag) : Except PackageError Unit :=
  match tag.parameters with
  | none => .ok ()
  | some parameters => do
    let _ ← readName (tag.name ++ " " ++ parameters)

end Tag

/-- The tags that are open after a tag, the last one first. A closing tag without a name ends the
last one; one with a name ends the last of that name. -/
def applyTag (opened : List Tag) : Text → Except PackageError (List Tag)
  | .scalar '/' :: body => do
    let written := (Tag.nameOf body).trim CodePoint.isSpace
    match written, opened with
    | [], [] => throw markupError
    | [], tag :: rest => do
      tag.checkEnd
      pure rest
    | written, opened => do
      let name ← Tag.readName written
      match opened.find? (·.name = name) with
      | none => throw markupError
      | some tag => do
        tag.checkEnd
        pure (opened.eraseP (·.name = name))
  | body => do
    let tag ← Tag.read body
    pure (tag :: opened)

/-! ## Showing -/

/-- A text in which a backslash before an opening bracket is dropped. -/
def dropEscapes : Text → Text
  | [] => []
  | .scalar '\\' :: .scalar '[' :: rest => .scalar '[' :: dropEscapes rest
  | p :: rest => p :: dropEscapes rest

/-- Shows the parts of a text within some open tags. Two backslashes before a tag are one, and a tag
after an odd number of them is shown. -/
def showParts (opened : List Tag) : List Part → Except PackageError Text
  | [] => .ok []
  | .plain t :: rest => do
    let shown ← showParts opened rest
    pure (Emoji.replace (dropEscapes t) ++ shown)
  | .tag n body :: rest => do
    let kept := if n % 2 = 0 then [] else Emoji.replace (tagText body)
    let opened ← if n % 2 = 0 then applyTag opened body else .ok opened
    let shown ← showParts opened rest
    pure (backslashes (n / 2) ++ kept ++ shown)

/-- The tags of some parts that set a style. -/
def openingTags (parts : List Part) : List Text :=
  parts.filterMap fun part =>
    match part with
    | .tag n body => if n % 2 = 0 && body.head? ≠ some (.scalar '/') then some body else none
    | .plain _ => none

/-- What a terminal without styles shows of a marked-up text. -/
def render (t : Text) : Except PackageError Text := do
  let shown ← showParts [] (parts t)
  for body in openingTags (parts t) do
    let tag ← Tag.read body
    tag.checkStyle
  pure shown

end TableDdl.Markup
