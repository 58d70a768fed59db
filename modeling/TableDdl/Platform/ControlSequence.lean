import TableDdl.Text.Basic

/-!
# Control sequences

A control sequence makes a terminal do something, for instance change its colour. It is an escape
and an opening bracket, then parameters, and then a letter. `Text.withoutControlSequences` is what
is left of a text for a reader that is no terminal.
-/

namespace TableDdl.Text

/-- The test for a part of the parameters of a control sequence: a digit, a semicolon or a question
mark. -/
def isControlParameter (p : CodePoint) : Bool :=
  p.isDigit || p = .scalar ';' || p = .scalar '?'

/-- The test for an ASCII letter, which ends a control sequence. -/
def isControlEnd : CodePoint → Bool
  | .scalar c => c.isAlpha
  | .surrogate _ => false

/-- The length of the control sequence that a text starts with. -/
def controlSequenceLength? : Text → Option Nat
  | .scalar '\x1b' :: .scalar '[' :: rest =>
    let parameters := rest.takeWhile isControlParameter
    if (rest.drop parameters.length).head?.any isControlEnd then some (2 + parameters.length + 1)
    else none
  | _ => none

/-- Leaves out a number of code points, and every control sequence after them. What comes to stand
side by side by this is not looked at again. -/
def leaveOutControlSequences : Nat → Text → Text
  | _, [] => []
  | skipped + 1, _ :: rest => leaveOutControlSequences skipped rest
  | 0, p :: rest =>
    match controlSequenceLength? (p :: rest) with
    | some length => leaveOutControlSequences (length - 1) rest
    | none => p :: leaveOutControlSequences 0 rest

/-- A text without its control sequences. -/
def withoutControlSequences (t : Text) : Text :=
  leaveOutControlSequences 0 t

end TableDdl.Text
