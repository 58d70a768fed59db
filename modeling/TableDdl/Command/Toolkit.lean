import TableDdl.Log.Level

/-!
# What the commands are built on

The surroundings of a run, and the packages that do its reading of settings and its writing to
streams. The packages are a parameter: `Toolkit` has one function for each thing that the commands
have them do. What these do is up to the packages, to the environment and to the terminals.
-/

namespace TableDdl

/-- A text as a line. -/
def Text.line (t : Text) : Text :=
  t ++ [.scalar '\n']

/-- How texts become bytes. A text that an encoding does not take comes back with a complaint. -/
structure Encoding where
  name : String
  encode : Text → Except Text (List UInt8)

/-- The surroundings of a run: the variables of the environment, the files, the time that log lines
show, and the encodings of standard output, of text files and of standard error, which takes every
text. -/
structure Surroundings where
  environment : List (Text × Text)
  files : FileSystem
  time : Text
  stdout : Encoding
  textFiles : Encoding
  stderr : Text → List UInt8

/-- The heading of a column of a table, the style of the column, and whether its cells are kept on
one line. -/
structure Heading where
  text : Text
  style : Text
  noWrap : Bool

/-- A table of two columns that is to be displayed. The title and the cells are marked up. -/
structure Sheet where
  title : Text
  left : Heading
  right : Heading
  rows : List (Text × Text)

/-- The packages that the commands are built on. -/
structure Toolkit where
  /-- What is given for each field of the settings by variables, whose names begin with a stem, and
  by an environment file, after the warnings about this file. -/
  given : Surroundings → Text → Path → Text × Except PackageError (String → Option Json)
  /-- The wording of a report about faulty values. -/
  explain : ValidationReport → Text
  /-- The line of a log for an event. -/
  logLine : Surroundings → LogForm → Event → Text
  /-- The encoding in which what is echoed is written to standard output. It need not be the one of
  the stream. -/
  echoEncoding : Surroundings → Encoding
  /-- What is written to standard output of a text that is echoed. -/
  echo : Surroundings → Text → Text
  /-- A text as it has to be written to be shown as it is where markup is read. -/
  escape : Text → Text
  /-- The bytes that standard output gets of a marked-up text. -/
  display : Surroundings → Text → Except PackageError (List UInt8)
  /-- The bytes that standard output gets of a table. -/
  displaySheet : Surroundings → Sheet → Except PackageError (List UInt8)
  /-- What reaches standard error of a marked-up text. -/
  report : Surroundings → Text → Except PackageError Text

end TableDdl
