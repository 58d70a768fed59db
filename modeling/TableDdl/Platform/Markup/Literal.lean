import TableDdl.Text.Basic

/-!
# Literals

A tag may name an action and give it arguments. They have to be literals: numbers, texts, the words
for truth and for nothing, and tuples, sets and dictionaries of literals. `isLiteral` says whether a
text is one; what it stands for is of no interest here.
-/

namespace TableDdl.Markup.Literal

/-! ## Tokens -/

/-- A part of a literal. -/
inductive Token where
  | number (isImaginary : Bool)
  | quoted (isBytes : Bool)
  | word (spelling : String)
  | mark (c : Char)
  | dots
  | lineEnd
  deriving DecidableEq, Repr

/-- The test for a hexadecimal digit. -/
def isHexDigit (c : Char) : Bool :=
  (Text.hexDigit? (.scalar c)).isSome

/-- The test for a character that goes on with a word. Beyond ASCII all characters do. -/
def isWordChar (c : Char) : Bool :=
  c.isAlphanum || c = '_' || 0x80 ≤ c.toNat

/-- What follows a row of digits, in which single underscores may stand between two digits. -/
def dropDigits (isDigit : Char → Bool) : List Char → List Char
  | [] => []
  | c :: rest =>
    if isDigit c then dropDigits isDigit rest
    else
      match c, rest with
      | '_', d :: more => if isDigit d then dropDigits isDigit more else c :: rest
      | _, _ => c :: rest

/-- What follows an integer to a base, after the sign of the base. There is at least one digit. -/
def readDigits? (isDigit : Char → Bool) (cs : List Char) : Option (List Char) :=
  let after := dropDigits isDigit cs
  if after.length < cs.length then some after else none

/-- What follows a fraction, if there is one. -/
def dropFraction : List Char → List Char
  | '.' :: c :: rest => if c.isDigit then dropDigits Char.isDigit (c :: rest) else c :: rest
  | '.' :: rest => rest
  | cs => cs

/-- What follows an exponent, if there is one. -/
def dropExponent (cs : List Char) : List Char :=
  let unsigned :=
    match cs with
    | _ :: '+' :: rest | _ :: '-' :: rest => rest
    | _ :: rest => rest
    | [] => []
  match cs, unsigned with
  | e :: _, c :: rest =>
    if (e = 'e' || e = 'E') && c.isDigit then dropDigits Char.isDigit (c :: rest) else cs
  | _, _ => cs

/-- Reads a number with decimal digits. An integer that is not zero does not begin with a zero. -/
def readDecimal? (cs : List Char) : Option (Bool × List Char) :=
  let whole := dropDigits Char.isDigit cs
  let real := dropExponent (dropFraction whole)
  let (isImaginary, after) :=
    match real with
    | 'j' :: rest | 'J' :: rest => (true, rest)
    | real => (false, real)
  let digits := cs.take (cs.length - after.length)
  if after.length = whole.length && digits.head? = some '0' && digits.any ('1' ≤ ·) then none
  else some (isImaginary, after)

/-- Reads a number. No word may follow it without a blank. -/
def readNumber? (cs : List Char) : Option (Token × List Char) := do
  let (isImaginary, after) ←
    match cs with
    | '0' :: 'x' :: rest | '0' :: 'X' :: rest => (readDigits? isHexDigit rest).map (false, ·)
    | '0' :: 'o' :: rest | '0' :: 'O' :: rest =>
      (readDigits? (fun c => '0' ≤ c && c ≤ '7') rest).map (false, ·)
    | '0' :: 'b' :: rest | '0' :: 'B' :: rest =>
      (readDigits? (fun c => c = '0' || c = '1') rest).map (false, ·)
    | cs => readDecimal? cs
  if after.head?.any isWordChar then none else some (.number isImaginary, after)

/-- The test for an escape that is complete, given the letter after the backslash and the text after
the letter. Characters are not named in escapes. -/
def isEscape (isBytes : Bool) (letter : Char) (rest : List Char) : Bool :=
  let hasDigits (n : Nat) : Bool := (rest.take n).length = n && (rest.take n).all isHexDigit
  let value (n : Nat) : Nat :=
    (rest.take n).foldl (fun v c => 16 * v + (Text.hexDigit? (.scalar c)).getD 0) 0
  match letter with
  | 'x' => hasDigits 2
  | 'u' => isBytes || hasDigits 4
  | 'U' => isBytes || (hasDigits 8 && value 8 < 0x110000)
  | 'N' => isBytes
  | _ => true

/-- What follows a text in quotation marks, after the first of them. A text between three marks may
go over several lines; one with a raw spelling has no escapes. -/
def readBody? (mark : Char) (isTriple isRaw isBytes : Bool) : List Char → Option (List Char)
  | [] => none
  | '\\' :: c :: rest =>
    if (isRaw || isEscape isBytes c rest) && !(isBytes && 0x80 ≤ c.toNat) then
      readBody? mark isTriple isRaw isBytes rest
    else none
  | c :: rest =>
    if c = mark && (!isTriple || (rest.take 2 = [mark, mark])) then
      some (if isTriple then rest.drop 2 else rest)
    else if (c = '\n' && !isTriple) || (isBytes && 0x80 ≤ c.toNat) then none
    else readBody? mark isTriple isRaw isBytes rest

/-- The test for a quotation mark. -/
def isMark (c : Char) : Bool :=
  c = '\x27' || c = '"'

/-- Reads a text in quotation marks, given the letters before it, which say how it is spelled. -/
def readQuoted? (spelling : String) (cs : List Char) : Option (Token × List Char) := do
  let spelling := spelling.toLower
  if spelling ∉ ["", "r", "u", "b", "br", "rb"] then none
  else
    let isRaw := spelling.contains 'r'
    let isBytes := spelling.contains 'b'
    let after ←
      match cs with
      | a :: b :: c :: rest =>
        if a = b && b = c then readBody? a true isRaw isBytes rest
        else readBody? a false isRaw isBytes (b :: c :: rest)
      | a :: rest => readBody? a false isRaw isBytes rest
      | [] => none
    some (.quoted isBytes, after)

/-- Reads a word, or the letters before a text in quotation marks and the text. -/
def readWord? (cs : List Char) : Option (Token × List Char) :=
  let spelling := String.ofList (cs.takeWhile isWordChar)
  let after := cs.dropWhile isWordChar
  if after.head?.any isMark then readQuoted? spelling after
  else some (.word spelling, after)

/-- Reads a token at the start of a text that is not empty. -/
def readToken? (cs : List Char) : Option (Token × List Char) :=
  match cs with
  | '.' :: '.' :: '.' :: rest => some (.dots, rest)
  | '.' :: c :: _ => if c.isDigit then readNumber? cs else none
  | c :: rest =>
    if c ∈ ['(', ')', '\x7b', '\x7d', ',', ':', '+', '-'] then some (.mark c, rest)
    else if c.isDigit then readNumber? cs
    else if isWordChar c || isMark c then readWord? cs
    else none
  | [] => none

/-- The depth of parentheses and braces after a token. -/
def depthAfter (depth : Nat) : Token → Nat
  | .mark '(' | .mark '\x7b' => depth + 1
  | .mark ')' | .mark '\x7d' => depth - 1
  | _ => depth

/-- The tokens of a text, given the depth of parentheses and braces. Blanks and comments separate
tokens, and within parentheses and braces the ends of lines do, too. Each step takes at least one
character. -/
def tokensIn (depth : Nat) : Nat → List Char → Option (List Token)
  | _, [] => some []
  | 0, _ => none
  | steps + 1, c :: rest =>
    if c = ' ' || c = '\t' || c = '\x0c' then tokensIn depth steps rest
    else if c = '#' then tokensIn depth steps (rest.dropWhile (· ≠ '\n'))
    else if c = '\\' && rest.head? = some '\n' then tokensIn depth steps rest.tail
    else if c = '\n' then
      if depth = 0 then (tokensIn depth steps rest).map (.lineEnd :: ·)
      else tokensIn depth steps rest
    else do
      let (token, after) ← readToken? (c :: rest)
      let more ← tokensIn (depthAfter depth token) steps after
      pure (token :: more)

/-! ## Values -/

/-- What matters of a value: whether it is a number that may be a part of a sum, and whether it may
be in a set. -/
inductive Kind where
  | number (isSigned isImaginary : Bool)
  | fixed
  | changeable
  deriving DecidableEq, Repr

/-- The test for a value that may be in a set or a key of a dictionary. -/
def Kind.isFixed (kind : Kind) : Bool :=
  kind ≠ .changeable

/-- The kind of a tuple. -/
def tupleKind (items : List Kind) : Kind :=
  if items.all Kind.isFixed then .fixed else .changeable

/-- The test for a place where a list of values ends. -/
def endsList : List Token → Bool
  | [] | .lineEnd :: _ | .mark ')' :: _ | .mark '\x7d' :: _ => true
  | _ => false

/-- What follows texts in quotation marks that are one text; bytes do not go with others. -/
def dropQuoted? (isBytes : Bool) : List Token → Option (List Token)
  | .quoted other :: rest => if other = isBytes then dropQuoted? isBytes rest else none
  | tokens => some tokens

mutual

/-- Reads a value: an item, perhaps with a sign, or the sum or difference of a real and an imaginary
number. -/
def readValue? : Nat → List Token → Option (Kind × List Token)
  | 0, _ => none
  | steps + 1, tokens => do
    let (left, rest) ←
      match tokens with
      | .mark '+' :: rest | .mark '-' :: rest => do
        match ← readItem? steps rest with
        | (.number false isImaginary, rest) => some (.number true isImaginary, rest)
        | _ => none
      | tokens => readItem? steps tokens
    match rest with
    | .mark '+' :: rest | .mark '-' :: rest => do
      match left, ← readItem? steps rest with
      | .number _ false, (.number false true, rest) => some (.fixed, rest)
      | _, _ => none
    | rest => some (left, rest)

/-- Reads a value that stands by itself. -/
def readItem? : Nat → List Token → Option (Kind × List Token)
  | 0, _ => none
  | steps + 1, tokens =>
    match tokens with
    | .number isImaginary :: rest => some (.number false isImaginary, rest)
    | .quoted isBytes :: rest => (dropQuoted? isBytes rest).map (.fixed, ·)
    | .dots :: rest => some (.fixed, rest)
    | .word "set" :: .mark '(' :: .mark ')' :: rest => some (.changeable, rest)
    | .word spelling :: rest =>
      if spelling ∈ ["True", "False", "None"] then some (.fixed, rest) else none
    | .mark '(' :: .mark ')' :: rest => some (.fixed, rest)
    | .mark '(' :: rest => do
      match ← readItems? steps rest with
      | ([kind], false, .mark ')' :: rest) => some (kind, rest)
      | (kinds, _, .mark ')' :: rest) => some (tupleKind kinds, rest)
      | _ => none
    | .mark '\x7b' :: .mark '\x7d' :: rest => some (.changeable, rest)
    | .mark '\x7b' :: rest => (readEntries? steps none rest).map (.changeable, ·)
    | _ => none

/-- Reads values between commas, and tells whether there is a comma. -/
def readItems? : Nat → List Token → Option (List Kind × Bool × List Token)
  | 0, _ => none
  | steps + 1, tokens => do
    let (kind, rest) ← readValue? steps tokens
    match rest with
    | .mark ',' :: rest =>
      if endsList rest then some ([kind], true, rest)
      else
        let (kinds, _, rest) ← readItems? steps rest
        some (kind :: kinds, true, rest)
    | rest => some ([kind], false, rest)

/-- Reads the entries of a set or of a dictionary, as the first of them is, and the closing brace.
-/
def readEntries? : Nat → Option Bool → List Token → Option (List Token)
  | 0, _, _ => none
  | steps + 1, isDictionary, tokens => do
    let (key, rest) ← readValue? steps tokens
    let isPair : Bool := rest.head? = some (.mark ':')
    if !key.isFixed || isDictionary.any (· != isPair) then none
    else
      let rest ← if isPair then (readValue? steps rest.tail).map (·.2) else some rest
      match rest with
      | .mark '\x7d' :: rest | .mark ',' :: .mark '\x7d' :: rest => some rest
      | .mark ',' :: rest => readEntries? steps (some isPair) rest
      | _ => none

end

/-- The test for the tokens of a literal: one value, or several of them, between ends of lines. At
most three steps are taken for each parenthesis, and one for any other token. -/
def areLiteral (tokens : List Token) : Bool :=
  match readItems? (3 * tokens.length + 3) (tokens.dropWhile (· = .lineEnd)) with
  | some (_, _, rest) => rest.all (· = .lineEnd)
  | none => false

/-- The test for a literal. -/
def isLiteral (t : Text) : Bool :=
  match t.chars? with
  | none => false
  | some cs =>
    match tokensIn 0 cs.length cs with
    | some tokens => areLiteral tokens
    | none => false

end TableDdl.Markup.Literal
