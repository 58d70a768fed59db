import TableDdl.Text.Basic

/-!
# Paths

A path is its anchor and its parts. Reading one drops repeated slashes, single dots and a slash at
the end; double dots stay, because what they lead to is known only to the file system.
-/

namespace TableDdl

/-- Where a path starts: at the working directory, or at the root, which has two spellings. -/
inductive Anchor where
  | relative
  | root
  | doubleRoot
  deriving DecidableEq, Inhabited, Repr

/-- A path. -/
structure Path where
  anchor : Anchor
  parts : List Text
  deriving DecidableEq, Inhabited, Repr

namespace Path

/-- The part that stands for the directory itself. -/
def dot : Text := "."

/-- The part that stands for the directory above. -/
def dotDot : Text := ".."

/-- The anchor of a path's text. Exactly two slashes in front differ from one or more than two. -/
def anchorOf : Text → Anchor
  | .scalar '/' :: .scalar '/' :: .scalar '/' :: _ => .root
  | .scalar '/' :: .scalar '/' :: _ => .doubleRoot
  | .scalar '/' :: _ => .root
  | _ => .relative

/-- The path that a text spells. -/
def ofText (t : Text) : Path where
  anchor := anchorOf t
  parts := (t.split (.scalar '/')).filter fun part => !(part.isEmpty || part = dot)

/-- The text of an anchor. -/
def anchorText : Anchor → Text
  | .relative => []
  | .root => ['/']
  | .doubleRoot => ['/', '/']

/-- The text of a path. The empty relative path is a dot. -/
def toText (path : Path) : Text :=
  match path with
  | ⟨.relative, []⟩ => dot
  | ⟨anchor, parts⟩ => anchorText anchor ++ Text.join "/" parts

/-- The test for a path that starts at the root. -/
def isAbsolute (path : Path) : Bool :=
  path.anchor ≠ .relative

/-- The last part of a path; it is empty if the path has no parts. -/
def name (path : Path) : Text :=
  path.parts.getLast?.getD []

/-- The test for a null character in a path, which is in no name of a file. -/
def hasNull (path : Path) : Bool :=
  path.parts.any (·.contains (.scalar '\x00'))

/-- A path taken relative to a directory. An absolute path stays as it is. -/
def within (directory path : Path) : Path :=
  if path.isAbsolute then path else ⟨directory.anchor, directory.parts ++ path.parts⟩

end Path

end TableDdl
