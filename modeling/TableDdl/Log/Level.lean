import TableDdl.Failure
import TableDdl.Log.Event

/-!
# Levels of logging

What is written of events: those that pass the level of logging, in the order in which they are
reported, each on a line of its own.
-/

namespace TableDdl

/-- The two forms of a log line. -/
inductive LogForm where
  | console
  | json
  deriving DecidableEq, Repr

/-- The settings of logging: the least severity that is written, and the form of a line. -/
structure Logging where
  threshold : Nat
  form : LogForm
  deriving DecidableEq, Repr

/-- A level of logging by name and severity. -/
structure Level where
  name : String
  severity : Nat

namespace Level

/-- The level of events of interest when something is searched for. -/
def debug : Level := ⟨"debug", 10⟩

/-- The level of events that tell what is done. -/
def info : Level := ⟨"info", 20⟩

/-- The severity from which on events are written if nothing else is said. -/
def warningSeverity : Nat := 30

/-- The severities by the names that a setting may give. The last name sets no severity of its own,
so that the usual one holds. -/
def named : List (String × Nat) :=
  [("CRITICAL", 50), ("FATAL", 50), ("ERROR", 40), ("WARNING", warningSeverity),
   ("WARN", warningSeverity), ("INFO", info.severity), ("DEBUG", debug.severity),
   ("NOTSET", warningSeverity)]

/-- The text that one name stands for, which looks like a level and is none. -/
def formatText : String := "%(levelname)s:%(name)s:%(message)s"

/-- The table that another such name stands for. -/
def stylesText : String :=
  "\x7b'%': (<class 'logging.PercentStyle'>, '%(levelname)s:%(name)s:%(message)s'), " ++
    "'\x7b': (<class 'logging.StrFormatStyle'>, " ++
    "'\x7blevelname\x7d:\x7bname\x7d:\x7bmessage\x7d'), " ++
    "'$': (<class 'logging.StringTemplateStyle'>, " ++
    "'$\x7blevelname\x7d:$\x7bname\x7d:$\x7bmessage\x7d')\x7d"

/-- The names that look like levels and are none, and what comes of them. -/
def misnamed : List (String × Failure) :=
  [("BASIC_FORMAT", .unknownLevel formatText), ("_STYLES", .unusableLevel stylesText)]

/-- A letter in capitals: a letter of ASCII, one of the two whose capital is in ASCII alone, or one
of two joined letters. -/
def capital (p : CodePoint) : Text :=
  if p = .scalar '\u0131' then "I"
  else if p = .scalar '\u017f' then "S"
  else if p = .scalar '\ufb05' || p = .scalar '\ufb06' then "ST"
  else [p.toUpper]

/-- A name in capitals. -/
def capitals (name : Text) : Text :=
  name.flatMap capital

end Level

namespace Logging

/-- The severity that a name stands for; an unknown name stands for the usual one. -/
def thresholdOf (name : Text) : Except Failure Nat :=
  let upper := Level.capitals name
  match Level.misnamed.find? (fun entry => Text.ofString entry.1 = upper) with
  | some (_, failure) => .error failure
  | none =>
    match Level.named.find? (fun level => Text.ofString level.1 = upper) with
    | some (_, severity) => .ok severity
    | none => .ok Level.warningSeverity

/-- The form that a name stands for; all names but one stand for a console. -/
def formOf (name : Text) : LogForm :=
  if name = Text.ofString "json" then .json else .console

/-- The settings that two names stand for. -/
def ofNames (level form : Text) : Except Failure Logging := do
  let threshold ← thresholdOf level
  pure ⟨threshold, formOf form⟩

end Logging

namespace Event

/-- The level of an event. -/
def level : Event → Level
  | .compiling _ | .rendering _ => .info
  | _ => .debug

/-- The name of an event. -/
def name : Event → Text
  | .documentLoaded _ _ => "schema_document_loaded"
  | .overlayApplied _ _ => "overlay_applied"
  | .overlaySkipped => "overlay_skipped_for_object_root"
  | .columnsCompiled _ => "columns_compiled"
  | .compiling _ => "compiling_schema"
  | .rendering _ => "rendering_create_table"

/-- The particulars of an event, in the order in which they are given. -/
def particulars : Event → Json.Members
  | .documentLoaded file size => [("path", .text file), ("size", .int size)]
  | .overlayApplied column replacement =>
    [("column", .text column), ("replacement", .text replacement)]
  | .overlaySkipped => []
  | .columnsCompiled count => [("column_count", .int count)]
  | .compiling file => [("schema_file", .text file)]
  | .rendering table => [("table_name", .text table)]

end Event

/-- What a logger writes of some events: for each that is severe enough its line in the form of the
logging. -/
def Logging.write (logging : Logging) (line : LogForm → Event → Text) (events : List Event) :
    Text :=
  (events.filter fun event => logging.threshold ≤ event.level.severity).flatMap
    fun event => line logging.form event ++ [.scalar '\n']

end TableDdl
