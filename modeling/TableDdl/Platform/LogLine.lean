import TableDdl.Json.Writer
import TableDdl.Log.Level

/-!
# Log lines

The line of an event, either a JSON object or a coloured line for a console.
-/

namespace TableDdl.Event

/-- An event as a JSON object: its particulars, its name and level, and the time. -/
def jsonLine (time : Text) (event : Event) : Text :=
  let common : Json.Members :=
    [("event", .text event.name), ("level", .text event.level.name), ("timestamp", .text time)]
  Json.write (.object (event.particulars ++ common))

/-- The sequence that sets a style of a terminal. -/
def styleCode (code : String) : Text :=
  "\x1b[" ++ Text.ofString code ++ "m"

/-- A text after the sequences of some styles and before the one that resets them. -/
def styled (codes : List String) (t : Text) : Text :=
  codes.flatMap styleCode ++ t ++ styleCode "0"

/-- A text filled with spaces at its end up to a width. -/
def padTo (width : Nat) (t : Text) : Text :=
  t ++ List.replicate (width - t.length) (.scalar ' ')

/-- The characters that make a console line show a text in quotation marks. -/
def needsQuotes (p : CodePoint) : Bool :=
  p ∈ Text.ofString " \t=\r\n\"'"

/-- A value in a console line. -/
def consoleValue : Json → Text
  | .text t => if t.any needsQuotes then t.quoted else t
  | value => value.display

/-- A particular in a console line. -/
def consoleField (field : Text × Json) : Text :=
  " " ++ styled ["36"] field.1 ++ "=" ++ styled ["35"] (consoleValue field.2)

/-- An event as a console line: the time, the level, the name, and the particulars in the order of
their names. Each event gives them in that order already. -/
def consoleLine (time : Text) (event : Event) : Text :=
  styled ["2"] time ++ " [" ++ styled ["32", "1"] (padTo 9 event.level.name) ++ "] " ++
    styled ["1"] (padTo 30 event.name) ++
    event.particulars.flatMap consoleField

/-- The line of an event in a form. -/
def line (time : Text) (form : LogForm) (event : Event) : Text :=
  match form with
  | .json => event.jsonLine time
  | .console => event.consoleLine time

end TableDdl.Event
