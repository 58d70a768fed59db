import TableDdl.Json.Token
import TableDdl.Proofs.Json.NumberText
import TableDdl.Proofs.Json.Quotation
import TableDdl.Proofs.Json.Regular

/-!
# The tokens of a written value

A value that is written is cut into the tokens that its structure tells, whatever follows it. Only a
number has to end: what follows it must not go on with it.
-/

namespace TableDdl.Json

/-! ## The tokens of a text one by one -/

/-- The contents of the tokens of a text. -/
def lexemesOf (t : Text) : List Lexeme :=
  (tokens t).map Token.lexeme

@[simp] theorem lexemesOf_nil : lexemesOf [] = [] := by
  rw [lexemesOf, tokens, List.map_nil]

theorem lexemesOf_blank {p : CodePoint} {t : Text} (blank : isBlank p) :
    lexemesOf (p :: t) = lexemesOf t := by
  rw [lexemesOf, tokens, if_pos blank, ← lexemesOf]

theorem lexemesOf_cons {p : CodePoint} {t after : Text} {lexeme : Lexeme} (dark : isBlank p = false)
    (found : scanToken p t = (lexeme, after)) : lexemesOf (p :: t) = lexeme :: lexemesOf after := by
  rw [lexemesOf, tokens, if_neg (by simp [dark]), found, List.map_cons, ← lexemesOf]

/-- The token of a quoted text. -/
theorem lexemesOf_quote {t : Text} (joined : IsJoined t) (rest : Text) :
    lexemesOf (quote t ++ rest) = .text t :: lexemesOf rest := by
  have opened : quote t ++ rest =
      .scalar '"' :: (t.flatMap escapePoint ++ .scalar '"' :: rest) := by
    rw [quote, List.append_assoc, List.append_assoc]
    rfl
  rw [opened]
  refine lexemesOf_cons rfl ?_
  simp only [scanToken, scanPieces_quoted, joinPieces_flatMap joined]

/-! ## Numbers -/

/-- The words have no digits, and none is shorter than two code points. -/
theorem noDigit_of_mem_words : ∀ entry ∈ words,
    2 ≤ entry.1.length ∧ ∀ p ∈ entry.1, p.isDigit = false := by
  decide

/-- No word stands in front of a number. -/
theorem scanWord?_eq_none {t : Text} (digit : ∃ p ∈ t.take 2, p.isDigit) :
    scanWord? t words = none := by
  have noWord : ∀ table : List (Text × Json),
      (∀ entry ∈ table, 2 ≤ entry.1.length ∧ ∀ p ∈ entry.1, p.isDigit = false) →
      scanWord? t table = none := by
    intro table noDigits
    induction table with
    | nil => rfl
    | cons entry more ih =>
      obtain ⟨long, noDigit⟩ := noDigits entry List.mem_cons_self
      rw [scanWord?, ih fun entry mem => noDigits entry (List.mem_cons_of_mem _ mem)]
      cases found : dropWord? entry.1 t with
      | none => rfl
      | some rest =>
        obtain ⟨p, mem, isDigit⟩ := digit
        rw [eq_append_of_dropWord? found, List.take_append_of_le_length long] at mem
        rw [noDigit p (List.mem_of_mem_take mem)] at isDigit
        cases isDigit
  exact noWord words noDigit_of_mem_words

theorem scanToken_of_signOrDigit {p : CodePoint} (start : Text.isSignOrDigit p) (t : Text) :
    scanToken p t = (scanAtom? (p :: t)).getD (.unknown, []) := by
  unfold scanToken
  split
  iterate 7 cases start
  rfl

theorem not_isBlank_of_signOrDigit {p : CodePoint} (start : Text.isSignOrDigit p) :
    isBlank p = false := by
  cases blank : isBlank p with
  | false => rfl
  | true =>
    cases p with
    | surrogate offset => cases blank
    | scalar c =>
      simp only [isBlank, Bool.or_eq_true, decide_eq_true_eq] at blank
      rcases blank with ((rfl | rfl) | rfl) | rfl <;> cases start

/-- A number begins with its sign or a digit, and has a digit in the first two places. -/
theorem front_of_scanSigned? {t rest : Text} {number : ScannedNumber}
    (found : scanSigned? t = some (number, rest)) :
    ∃ p more, t = p :: more ∧ Text.isSignOrDigit p ∧ ∃ q ∈ (p :: more).take 2, q.isDigit := by
  obtain ⟨sign, body, q, more, eq, isSign, digit⟩ : ∃ sign negative q more,
      t = sign ++ q :: more ∧ IsMinus sign negative ∧ q.isDigit := by
    obtain ⟨front, rfl, isNumber⟩ := text_of_scanSigned? found
    rcases isNumber with ⟨negative, digits, ⟨sign, rfl, isSign, whole⟩, -⟩ |
      ⟨m, ⟨sign, body, rfl, isSign, fraction, exponent, rfl, whole, -⟩, -⟩
    · obtain ⟨q, more, rfl, digit, -⟩ := whole.front
      exact ⟨sign, negative, q, more ++ rest, by simp, isSign, digit⟩
    · obtain ⟨q, more, eq, digit, -⟩ := whole.front
      exact ⟨sign, m.negative, q, more ++ (fraction ++ exponent) ++ rest, by simp [eq], isSign,
        digit⟩
  cases isSign with
  | absent => exact ⟨q, more, eq, by simp [Text.isSignOrDigit, digit], q, by simp, digit⟩
  | minus => exact ⟨.scalar '-', q :: more, eq, rfl, q, by simp, digit⟩

/-- A number is one token. -/
theorem tokens_of_scanSigned? {t rest : Text} {number : ScannedNumber}
    (found : scanSigned? t = some (number, rest)) :
    tokens t = ⟨number.lexeme, t⟩ :: tokens rest := by
  obtain ⟨p, more, rfl, start, digit⟩ := front_of_scanSigned? found
  have token : scanToken p more = (number.lexeme, rest) := by
    rw [scanToken_of_signOrDigit start, scanAtom?, scanWord?_eq_none digit, found]
    rfl
  rw [tokens, if_neg (by simp [not_isBlank_of_signOrDigit start]), token]

theorem lexemesOf_of_scanSigned? {t rest : Text} {number : ScannedNumber}
    (found : scanSigned? t = some (number, rest)) :
    lexemesOf t = number.lexeme :: lexemesOf rest := by
  rw [lexemesOf, tokens_of_scanSigned? found, List.map_cons, ← lexemesOf]

/-! ## Written integers -/

theorem isWhole_ofNat (n : Nat) : IsWhole (Text.ofNat n) := by
  obtain ⟨p, more, eq⟩ := List.exists_cons_of_ne_nil (Text.ofNat_ne_nil n)
  by_cases zero : p = .scalar '0'
  · rw [zero] at eq
    rw [Text.eq_zero_of_ofNat_eq_cons eq]
    exact .zero
  · have all : ∀ q ∈ p :: more, q.isDigit := fun q mem => Text.isDigit_of_mem_ofNat (eq ▸ mem)
    rw [eq]
    exact .digits zero all

theorem isIntegerText_ofNat (n : Nat) : IsIntegerText (Text.ofNat n) false (Text.ofNat n) :=
  ⟨[], rfl, .absent, isWhole_ofNat n⟩

/-- The token of a written integer, if what follows does not go on with it. -/
theorem lexemesOf_ofInt {n : Int} {rest : Text} (few : FewDigits n) (ends : EndsNumber rest) :
    lexemesOf (Text.ofInt n ++ rest) = .atom (.int n) :: lexemesOf rest := by
  have token : ∀ negative m, IsIntegerText (Text.ofInt n) negative (Text.ofNat m) →
      (Text.ofNat m).length ≤ maxIntegerDigits → signedInt negative (Text.ofNat m) = n →
      lexemesOf (Text.ofInt n ++ rest) = .atom (.int n) :: lexemesOf rest := by
    intro negative m integer few value
    rw [lexemesOf_of_scanSigned? (scanSigned?_integer integer ends), ScannedNumber.ofDigits,
      if_neg (Nat.not_lt.mpr few), value, ScannedNumber.lexeme]
  cases n with
  | ofNat n => exact token false n (isIntegerText_ofNat n) few (by simp [signedInt])
  | negSucc n =>
    have integer : IsIntegerText (Text.ofInt (.negSucc n)) true (Text.ofNat (n + 1)) :=
      ⟨_, rfl, .minus, isWhole_ofNat (n + 1)⟩
    exact token true (n + 1) integer few (by simp [signedInt]; omega)

/-! ## Values -/

mutual

/-- The tokens of a value. -/
def lexemes : Json → List Lexeme
  | .text t => [.text t]
  | .array items => .openArray :: (itemLexemes items ++ [.closeArray])
  | .object members => .openObject :: (memberLexemes members ++ [.closeObject])
  | v => [.atom v]

/-- The tokens of the items of an array. -/
def itemLexemes : List Json → List Lexeme
  | [] => []
  | [item] => lexemes item
  | item :: next :: rest => lexemes item ++ .comma :: itemLexemes (next :: rest)

/-- The tokens of the members of an object. -/
def memberLexemes : List (Text × Json) → List Lexeme
  | [] => []
  | [(key, v)] => .text key :: .colon :: lexemes v
  | (key, v) :: next :: rest =>
    .text key :: .colon :: (lexemes v ++ .comma :: memberLexemes (next :: rest))

end

/-- What follows a value inside of an array or object ends a number. -/
theorem endsNumber_of_mark {c : Char} (mark : c ∈ [',', ']', '\x7d']) (rest : Text) :
    EndsNumber (.scalar c :: rest) := by
  intro p mem
  cases mem
  simp only [List.mem_cons, List.not_mem_nil, or_false] at mark
  rcases mark with rfl | rfl | rfl <;> decide

theorem lexemesOf_comma_blank (t : Text) :
    lexemesOf (.scalar ',' :: .scalar ' ' :: t) = .comma :: lexemesOf t := by
  rw [lexemesOf_cons (p := .scalar ',') rfl rfl, lexemesOf_blank rfl]

/-- `IsCut v`: the text of `v` is cut into the tokens of `v`, whatever ends it. -/
def IsCut (v : Json) : Prop :=
  ∀ rest, EndsNumber rest → lexemesOf (write v ++ rest) = lexemes v ++ lexemesOf rest

theorem lexemesOf_items {items : List Json} (cut : ∀ item ∈ items, IsCut item) (rest : Text) :
    lexemesOf (Text.join ", " (printItems .document items) ++ .scalar ']' :: rest) =
      itemLexemes items ++ .closeArray :: lexemesOf rest := by
  induction items with
  | nil => exact lexemesOf_cons rfl rfl
  | cons item items ih =>
    have first := cut item List.mem_cons_self
    cases items with
    | nil =>
      show lexemesOf (Text.join ", " [write item] ++ _) = _
      rw [Text.join, List.intercalate_singleton,
        first _ (endsNumber_of_mark (by simp) rest), lexemesOf_cons (p := .scalar ']') rfl rfl,
        itemLexemes]
    | cons next items =>
      have others := ih fun item mem => cut item (List.mem_cons_of_mem _ mem)
      show lexemesOf (Text.join ", " (write item :: write next :: _) ++ _) = _
      rw [Text.join, List.intercalate_cons_cons, List.append_assoc, List.append_assoc]
      show lexemesOf (write item ++ .scalar ',' :: .scalar ' ' ::
        (Text.join ", " (printItems .document (next :: items)) ++ _)) = _
      rw [first _ (endsNumber_of_mark (by simp) _), lexemesOf_comma_blank, others, itemLexemes,
        List.append_assoc]
      rfl

/-- The text of a member. -/
def writeMember (key : Text) (v : Json) : Text :=
  quote key ++ ": " ++ write v

/-- A member is cut into the tokens of its key, the colon, and those of its value. -/
theorem lexemesOf_member {key : Text} {v : Json} (joined : IsJoined key) (cut : IsCut v)
    {rest : Text} (ends : EndsNumber rest) :
    lexemesOf (writeMember key v ++ rest) =
      .text key :: .colon :: (lexemes v ++ lexemesOf rest) := by
  rw [writeMember, List.append_assoc, List.append_assoc, lexemesOf_quote joined]
  show _ :: lexemesOf (.scalar ':' :: .scalar ' ' :: (write v ++ rest)) = _
  rw [lexemesOf_cons (p := .scalar ':') rfl rfl, lexemesOf_blank rfl, cut rest ends]

theorem lexemesOf_members {members : Members} (names : ∀ member ∈ members, IsJoined member.1)
    (cut : ∀ member ∈ members, IsCut member.2) (rest : Text) :
    lexemesOf (Text.join ", " (printMembers .document members) ++ .scalar '\x7d' :: rest) =
      memberLexemes members ++ .closeObject :: lexemesOf rest := by
  induction members with
  | nil => exact lexemesOf_cons rfl rfl
  | cons member members ih =>
    obtain ⟨key, v⟩ := member
    have joined : IsJoined key := names _ List.mem_cons_self
    have first : IsCut v := cut _ List.mem_cons_self
    cases members with
    | nil =>
      show lexemesOf (Text.join ", " [writeMember key v] ++ _) = _
      rw [Text.join, List.intercalate_singleton,
        lexemesOf_member joined first (endsNumber_of_mark (by simp) rest),
        lexemesOf_cons (p := .scalar '\x7d') rfl rfl, memberLexemes, List.cons_append,
        List.cons_append]
    | cons next members =>
      have others := ih (fun member mem => names member (List.mem_cons_of_mem _ mem))
        fun member mem => cut member (List.mem_cons_of_mem _ mem)
      show lexemesOf (Text.join ", " (writeMember key v :: _ :: _) ++ _) = _
      rw [Text.join, List.intercalate_cons_cons, List.append_assoc, List.append_assoc]
      show lexemesOf (writeMember key v ++ .scalar ',' :: .scalar ' ' ::
        (Text.join ", " (printMembers .document (next :: members)) ++ _)) = _
      rw [lexemesOf_member joined first (endsNumber_of_mark (by simp) _), lexemesOf_comma_blank,
        others, memberLexemes, List.cons_append, List.cons_append, List.append_assoc]
      rfl

/-- A value without fractions whose texts are joined is cut into its tokens. -/
theorem lexemesOf_write {v : Json} (regular : IsRegular IsJoined (fun _ => False) v) :
    IsCut v := by
  intro rest ends
  induction regular generalizing rest with
  | null => exact lexemesOf_cons rfl rfl
  | bool value =>
    cases value with
    | true => exact lexemesOf_cons rfl rfl
    | false => exact lexemesOf_cons rfl rfl
  | int few => exact lexemesOf_ofInt few ends
  | real allowed => exact allowed.elim
  | text joined => exact lexemesOf_quote joined rest
  | @array items _ ih =>
    show lexemesOf (.scalar '[' :: (Text.join ", " (printItems .document items) ++ [.scalar ']']) ++
      rest) = _
    rw [List.cons_append, lexemesOf_cons (p := .scalar '[') rfl rfl, List.append_assoc]
    show _ :: lexemesOf (_ ++ .scalar ']' :: rest) = _
    rw [lexemesOf_items fun item mem rest ends => ih item mem rest ends, lexemes, List.cons_append,
      List.append_assoc]
    rfl
  | @object members _ names _ ih =>
    show lexemesOf (.scalar '\x7b' :: (Text.join ", " (printMembers .document members) ++
      [.scalar '\x7d']) ++ rest) = _
    rw [List.cons_append, lexemesOf_cons (p := .scalar '\x7b') rfl rfl, List.append_assoc]
    show _ :: lexemesOf (_ ++ .scalar '\x7d' :: rest) = _
    rw [lexemesOf_members names fun member mem rest ends => ih member mem rest ends, lexemes,
      List.cons_append, List.append_assoc]
    rfl

end TableDdl.Json
