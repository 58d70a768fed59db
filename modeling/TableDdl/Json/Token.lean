import TableDdl.Json.Number
import TableDdl.Json.Quotation

/-!
# The tokens of a JSON text

A JSON text is cut into tokens before its structure is looked at. Each token remembers the text that
starts with it, which gives its place in an error message. What is no token ends the list: it is an
error wherever it stands, but which error depends on what was expected there.
-/

namespace TableDdl.Json

/-- The content of a token. -/
inductive Lexeme where
  | openArray
  | closeArray
  | openObject
  | closeObject
  | colon
  | comma
  | atom (value : Json)
  | text (value : Text)
  | longInteger (digits : Nat)
  | flawed (flaw : Flaw)
  | unknown
  deriving Repr

/-- A token and the text that starts with it. -/
structure Token where
  lexeme : Lexeme
  rest : Text
  deriving Repr

/-- The white space between tokens. -/
def isBlank : CodePoint → Bool
  | .scalar c => c = ' ' || c = '\t' || c = '\n' || c = '\r'
  | .surrogate _ => false

/-- The words that are values. -/
def words : List (Text × Json) :=
  [("null", .null), ("true", .bool true), ("false", .bool false), ("NaN", .real .nan),
   ("Infinity", .real (.infinite false)), ("-Infinity", .real (.infinite true))]

/-- What follows a word at the start of a text. -/
def dropWord? : Text → Text → Option Text
  | [], t => some t
  | p :: word, q :: t => if p = q then dropWord? word t else none
  | _ :: _, [] => none

/-- The first word of a list that a text starts with, its value, and what follows it. -/
def scanWord? (t : Text) : List (Text × Json) → Option (Lexeme × Text)
  | [] => none
  | (word, value) :: more =>
    match dropWord? word t with
    | some rest => some (.atom value, rest)
    | none => scanWord? t more

/-- The content of the token of a number. -/
def ScannedNumber.lexeme : ScannedNumber → Lexeme
  | .value v => .atom v
  | .long n => .longInteger n

/-- The token of a word or a number. -/
def scanAtom? (t : Text) : Option (Lexeme × Text) :=
  match scanWord? t words with
  | some found => some found
  | none => (scanSigned? t).map fun (number, rest) => (number.lexeme, rest)

/-- The token that a text without white space in front starts with, and what follows it. Nothing
follows a token that cannot be read. -/
def scanToken (first : CodePoint) (rest : Text) : Lexeme × Text :=
  match first with
  | .scalar '[' => (.openArray, rest)
  | .scalar ']' => (.closeArray, rest)
  | .scalar '\x7b' => (.openObject, rest)
  | .scalar '\x7d' => (.closeObject, rest)
  | .scalar ':' => (.colon, rest)
  | .scalar ',' => (.comma, rest)
  | .scalar '"' =>
    match scanPieces (first :: rest) rest with
    | .ok (pieces, after) => (.text (joinPieces pieces), after)
    | .error flaw => (.flawed flaw, [])
  | first => (scanAtom? (first :: rest)).getD (.unknown, [])

theorem eq_append_of_dropWord? {word t rest : Text} (h : dropWord? word t = some rest) :
    t = word ++ rest := by
  fun_induction dropWord? word t with
  | case1 t =>
    cases h
    rfl
  | case2 p word t ih => rw [List.cons_append, ← ih h]
  | case3 => cases h
  | case4 => cases h

theorem length_of_dropWord? {word t rest : Text} (h : dropWord? word t = some rest) :
    word.length + rest.length = t.length := by
  rw [eq_append_of_dropWord? h, List.length_append]

theorem length_of_scanWord? {t after : Text} {lexeme : Lexeme} {table : List (Text × Json)}
    (nonempty : ∀ entry ∈ table, 0 < entry.1.length)
    (h : scanWord? t table = some (lexeme, after)) : after.length < t.length := by
  induction table with
  | nil => cases h
  | cons entry more ih =>
    obtain ⟨word, value⟩ := entry
    simp only [scanWord?] at h
    split at h
    · rename_i dropped
      have := length_of_dropWord? dropped
      have := nonempty _ (List.mem_cons_self ..)
      cases h
      simp_all
      omega
    · exact ih (fun entry mem => nonempty entry (List.mem_cons_of_mem _ mem)) h

theorem length_of_scanAtom? {t after : Text} {lexeme : Lexeme}
    (h : scanAtom? t = some (lexeme, after)) : after.length < t.length := by
  unfold scanAtom? at h
  split at h
  · rename_i word_eq
    cases h
    exact length_of_scanWord? (by decide) word_eq
  · obtain ⟨⟨number, rest⟩, number_eq, pair_eq⟩ := Option.map_eq_some_iff.1 h
    cases pair_eq
    exact length_of_scanSigned? number_eq

theorem length_scanToken_le (first : CodePoint) (rest : Text) :
    (scanToken first rest).2.length ≤ rest.length := by
  unfold scanToken
  split
  iterate 6 simp
  · split
    · rename_i ok
      exact length_of_scanPieces ok
    · simp
  · rcases atom : scanAtom? (first :: rest) with _ | ⟨lexeme, after⟩
    · simp
    · have := length_of_scanAtom? atom
      simp at this ⊢
      omega

/-- The tokens of a text. -/
def tokens (t : Text) : List Token :=
  match t with
  | [] => []
  | first :: rest =>
    if isBlank first then tokens rest
    else
      ⟨(scanToken first rest).1, first :: rest⟩ :: tokens (scanToken first rest).2
termination_by t.length
decreasing_by
  · simp
  · have := length_scanToken_le first rest
    simp
    omega

end TableDdl.Json
