import TableDdl.Platform.ControlSequence
import TableDdl.Platform.Encoding
import TableDdl.Platform.Layout
import TableDdl.Platform.LogLine
import TableDdl.Platform.Markup
import TableDdl.Platform.Report
import TableDdl.Platform.Variables

/-!
# Plain packages

The packages as they are with streams that are no terminals: no colours are shown, control sequences
are left out of what is echoed, and lines have a fixed width.
-/

namespace TableDdl

namespace Toolkit

/-- The error of a text that cannot be displayed in an encoding. -/
def undisplayable (complaint : Text) : PackageError :=
  .value "UnicodeEncodeError" (complaint ++
    "\n*** You may need to add PYTHONIOENCODING=utf-8 to your environment ***")

/-- Displays lines on standard output. -/
def displayLines (s : Surroundings) (lines : Text) : Except PackageError (List UInt8) :=
  (s.stdout.encode lines).mapError undisplayable

/-- The encoding in which echoed texts are written. ASCII is taken for a mistake, and UTF-8 is used in
its place. -/
def correctedStdout (s : Surroundings) : Encoding :=
  if s.stdout.name = Encoding.ascii.name then .utf8Marked else s.stdout

/-- The packages with lines of a width, perhaps with a site that explains issues. -/
def plain (width : Nat) (site : Option Text) : Toolkit where
  given s stem path := Variables.load s.environment s.files stem path
  explain := ValidationReport.text site
  logLine s := Event.line s.time
  echoEncoding := correctedStdout
  echo _ := Text.withoutControlSequences
  escape := Markup.escape
  display s t := do displayLines s (Layout.printed width (← Markup.render t))
  displaySheet s sheet := do
    displayLines s (Layout.table width (← Markup.render sheet.title) sheet)
  report _ t := Layout.printed width <$> Markup.render t

end Toolkit

end TableDdl
