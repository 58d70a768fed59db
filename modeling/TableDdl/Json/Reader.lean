import TableDdl.Json.Token

/-!
# Reading JSON texts

The tokens of a text are read from left to right by a machine that keeps the arrays and objects it
is inside of. A text is refused at the first token that cannot stand where it does.
-/

namespace TableDdl.Json

/-- A complaint with the line and column, counted from one, and the number of the code point it is
about. -/
structure PlacedComplaint where
  complaint : Complaint
  line : Nat
  column : Nat
  index : Nat
  deriving DecidableEq, Repr

/-- Why a text is no JSON value: it breaks the rules of JSON, or holds an integer with too many
digits. -/
inductive ReadError where
  | malformed (complaint : PlacedComplaint)
  | longInteger (digits : Nat)
  deriving DecidableEq, Repr

/-- An array or object that is being read: an array with the items read so far, the last one first,
or an object with the members read so far and the key of the next one. -/
inductive Frame where
  | array (items : List Json)
  | object (members : Members) (key : Text)

/-- What has been read, and with it what may follow. The frames are those around it, the innermost
one first. -/
inductive State where
  | needValue (frames : List Frame)
  | needItem (frames : List Frame)
  | needMember (frames : List Frame)
  | needKey (members : Members) (frames : List Frame)
  | needColon (members : Members) (key : Text) (frames : List Frame)
  | complete (value : Json) (frames : List Frame)

/-- Why the machine stops. -/
inductive Refusal where
  | flawed (flaw : Flaw)
  | longInteger (digits : Nat)

/-- A refusal with a complaint about the text from a token on. -/
def Token.refuse {α : Type} (token : Token) (complaint : Complaint) : Except Refusal α :=
  .error (.flawed ⟨complaint, token.rest⟩)

/-- Reads a token where a value has to stand. -/
def stepValue (frames : List Frame) (token : Token) : Except Refusal State :=
  match token.lexeme with
  | .openArray => .ok (.needItem frames)
  | .openObject => .ok (.needMember frames)
  | .atom value => .ok (.complete value frames)
  | .text value => .ok (.complete (.text value) frames)
  | .longInteger digits => .error (.longInteger digits)
  | .flawed flaw => .error (.flawed flaw)
  | _ => token.refuse .value

/-- Reads a token where a key has to stand. -/
def stepKey (members : Members) (frames : List Frame) (token : Token) : Except Refusal State :=
  match token.lexeme with
  | .text key => .ok (.needColon members key frames)
  | .flawed flaw => .error (.flawed flaw)
  | _ => token.refuse .propertyName

/-- Reads a token after a value. -/
def stepComplete (value : Json) (frames : List Frame) (token : Token) : Except Refusal State :=
  match frames with
  | [] => token.refuse .extraData
  | .array items :: frames =>
    match token.lexeme with
    | .comma => .ok (.needValue (.array (value :: items) :: frames))
    | .closeArray => .ok (.complete (.array (value :: items).reverse) frames)
    | _ => token.refuse .comma
  | .object members key :: frames =>
    match token.lexeme with
    | .comma => .ok (.needKey (members.put key value) frames)
    | .closeObject => .ok (.complete (.object (members.put key value)) frames)
    | _ => token.refuse .comma

/-- Reads one token. -/
def State.step (state : State) (token : Token) : Except Refusal State :=
  match state with
  | .needValue frames => stepValue frames token
  | .needItem frames =>
    match token.lexeme with
    | .closeArray => .ok (.complete (.array []) frames)
    | _ => stepValue (.array [] :: frames) token
  | .needMember frames =>
    match token.lexeme with
    | .closeObject => .ok (.complete (.object []) frames)
    | _ => stepKey [] frames token
  | .needKey members frames => stepKey members frames token
  | .needColon members key frames =>
    match token.lexeme with
    | .colon => .ok (.needValue (.object members key :: frames))
    | _ => token.refuse .colon
  | .complete value frames => stepComplete value frames token

/-- The value that has been read when the text ends, or what is missing there. -/
def State.finish : State → Except Refusal Json
  | .complete value [] => .ok value
  | .complete _ (_ :: _) => .error (.flawed ⟨.comma, []⟩)
  | .needValue _ => .error (.flawed ⟨.value, []⟩)
  | .needItem _ => .error (.flawed ⟨.value, []⟩)
  | .needMember _ => .error (.flawed ⟨.propertyName, []⟩)
  | .needKey _ _ => .error (.flawed ⟨.propertyName, []⟩)
  | .needColon _ _ _ => .error (.flawed ⟨.colon, []⟩)

/-- Reads tokens to the end. -/
def State.run (state : State) (tokens : List Token) : Except Refusal Json := do
  (← tokens.foldlM State.step state).finish

/-- A complaint about a rest of a text, with its place in that text. -/
def Flaw.locate (whole : Text) (flaw : Flaw) : PlacedComplaint :=
  let before := whole.take (whole.length - flaw.rest.length)
  { complaint := flaw.complaint
    line := before.count (.scalar '\n') + 1
    column := (before.reverse.takeWhile (· ≠ .scalar '\n')).length + 1
    index := before.length }

/-- The place of a refusal in the text that was read. -/
def Refusal.locate (whole : Text) : Refusal → ReadError
  | .flawed flaw => .malformed (flaw.locate whole)
  | .longInteger digits => .longInteger digits

/-- Reads a text that consists of one JSON value. A byte order mark in front is refused. -/
def read (t : Text) : Except ReadError Json :=
  match t with
  | .scalar '\ufeff' :: _ => .error (.malformed (Flaw.locate t ⟨.byteOrderMark, t⟩))
  | t => ((State.needValue []).run (tokens t)).mapError (Refusal.locate t)

/-- The wording of a complaint with its place. -/
def PlacedComplaint.message (placed : PlacedComplaint) : Text :=
  placed.complaint.message ++ ": line " ++ Text.ofNat placed.line ++ " column " ++
    Text.ofNat placed.column ++ " (char " ++ Text.ofNat placed.index ++ ")"

/-- The wording of the limit on the digits of an integer. -/
def longIntegerMessage (digits : Nat) : Text :=
  "Exceeds the limit (" ++ Text.ofNat maxIntegerDigits ++
    " digits) for integer string conversion: value has " ++ Text.ofNat digits ++
    " digits; use sys.set_int_max_str_digits() to increase the limit"

end TableDdl.Json
