import TableDdl.Text.Basic

/-!
# Column names

A field name becomes a column name by dropping what is not allowed in one; a reserved word is put
between backticks.
-/

namespace TableDdl.Column

/-- The words that the dialect reserves, in lower case. -/
def reservedWords : List String :=
  ["all", "alter", "and", "array", "as", "authorization", "between", "bigint", "binary", "boolean",
   "both", "by", "case", "cashe", "cast", "char", "column", "conf", "constraint", "commit",
   "create", "cross", "cube", "current", "current_date", "current_timestamp", "cursor", "database",
   "date", "dayofweek", "decimal", "delete", "describe", "distinct", "double", "drop", "else",
   "end", "exchange", "exists", "extended", "external", "extract", "false", "fetch", "float",
   "floor", "following", "for", "foreign", "from", "full", "function", "grant", "group",
   "grouping", "having", "if", "import", "in", "inner", "insert", "int", "integer", "intersect",
   "interval", "into", "is", "join", "lateral", "left", "less", "like", "local", "macro", "map",
   "more", "none", "not", "null", "numeric", "of", "on", "only", "or", "order", "out", "outer",
   "over", "partialscan", "partition", "percent", "preceding", "precision", "preserve", "primary",
   "procedure", "range", "reads", "reduce", "regexp", "references", "revoke", "right", "rlike",
   "rollback", "rollup", "row", "rows", "select", "set", "smallint", "start", "table",
   "tablesample", "then", "time", "timestamp", "to", "transform", "trigger", "true", "truncate",
   "unbounded", "union", "uniquejoin", "update", "user", "using", "utc_timestamp", "values",
   "varchar", "views", "when", "where", "window", "with"]

/-- The test for a reserved word in any case. -/
def isReserved (name : Text) : Bool :=
  reservedWords.any fun word => Text.ofString word = name.toLower

/-- The code points that a column name may hold: ASCII letters and digits, `_` and `-`. -/
def isNamePoint : CodePoint → Bool
  | .scalar c => c.isAlphanum || c = '_' || c = '-'
  | .surrogate _ => false

/-- The column name of a field name. The test for a reserved word is made before anything is
dropped. -/
def sanitize (name : Text) : Text :=
  let kept := name.filter isNamePoint
  if isReserved name then .scalar '\x60' :: kept ++ [.scalar '\x60'] else kept

end TableDdl.Column
