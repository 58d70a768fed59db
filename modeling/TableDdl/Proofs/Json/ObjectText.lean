import TableDdl.Proofs.Json.Embedded
import TableDdl.Proofs.Json.Overwritten

/-!
# Texts of objects

The texts of objects with given keys and given texts of their values: `IsObjectText` admits all
spellings of the keys and white space wherever it may stand, and the same key more than once. Each
of these texts is read as the object of what is left of its entries (`read_of_isObjectText`).
-/

namespace TableDdl.Json

open Outcome

/-! ## Spellings -/

/-- `SpellsChar s c`: in a quotation the text `s` stands for the character `c`. A character stands
for itself, unless it is a quotation mark, a backslash or a control character. It may be given by a
short escape, by its number in four hexadecimal digits, or, if its number is longer, by the numbers
of its two halves. -/
inductive SpellsChar : Text → Char → Prop
  | plain {c : Char} : 0x20 ≤ c.toNat → c ≠ '"' → c ≠ '\\' → SpellsChar [.scalar c] c
  | short {p : CodePoint} {c : Char} : shortEscape? p = some c → SpellsChar [.scalar '\\', p] c
  | number {p q r s : CodePoint} {c : Char} : unitOfHex? p q r s = some c.toNat →
    SpellsChar [.scalar '\\', .scalar 'u', p, q, r, s] c
  | halves {p q r s p' q' r' s' : CodePoint} {c : Char} : 0x10000 ≤ c.toNat →
    unitOfHex? p q r s = some (0xD800 + (c.toNat - 0x10000) / 0x400) →
    unitOfHex? p' q' r' s' = some (0xDC00 + (c.toNat - 0x10000) % 0x400) →
    SpellsChar [.scalar '\\', .scalar 'u', p, q, r, s, .scalar '\\', .scalar 'u', p', q', r', s'] c

/-- `Spells t cs`: in a quotation the text `t` stands for the characters `cs`. -/
inductive Spells : Text → List Char → Prop
  | nil : Spells [] []
  | cons {s t : Text} {c : Char} {cs : List Char} : SpellsChar s c → Spells t cs →
    Spells (s ++ t) (c :: cs)

/-- Characters that need no escape are spelled by themselves. -/
theorem spells_self {cs : List Char}
    (plain : ∀ c ∈ cs, 0x20 ≤ c.toNat ∧ c ≠ '"' ∧ c ≠ '\\') : Spells (cs.map .scalar) cs := by
  induction cs with
  | nil => exact .nil
  | cons c cs ih =>
    obtain ⟨⟨visible, noQuote, noEscape⟩, others⟩ := List.forall_mem_cons.mp plain
    exact .cons (.plain visible noQuote noEscape) (ih others)

theorem scanPieces_number {p q r s : CodePoint} {n : Nat} (number : unitOfHex? p q r s = some n)
    (opening : Text) {rest : Text} (more : rest ≠ []) :
    scanPieces opening (.scalar '\\' :: .scalar 'u' :: p :: q :: r :: s :: rest) =
      (fun (ps, after) => (.unit n :: ps, after)) <$> scanPieces opening rest := by
  obtain ⟨e, tail, rfl⟩ := List.exists_cons_of_ne_nil more
  rw [scanPieces, number]

/-- The spelling of a character is read as pieces that are joined to this character. -/
theorem SpellsChar.pieces {s : Text} {c : Char} (spells : SpellsChar s c) :
    ∃ ps, (∀ opening rest, rest ≠ [] → scanPieces opening (s ++ rest) =
        (fun (more, after) => (ps ++ more, after)) <$> scanPieces opening rest) ∧
      ∀ more, joinPieces (ps ++ more) = .scalar c :: joinPieces more := by
  cases spells with
  | plain visible noQuote noEscape =>
    refine ⟨[.plain (.scalar c)], fun opening rest _ => ?_, fun more => rfl⟩
    have visible : 0x20 ≤ (CodePoint.scalar c).value := visible
    refine scanPieces_visible visible ?_ ?_ opening rest
    · intro same
      cases same
      exact noQuote rfl
    · intro same
      cases same
      exact noEscape rfl
  | short short =>
    exact ⟨[.plain (.scalar c)], fun opening rest _ => scanPieces_shortEscape short opening rest,
      fun more => rfl⟩
  | number number =>
    have point : pointOfUnit c.toNat = .scalar c := pointOfUnit_value (.scalar c)
    refine ⟨[.unit c.toNat], fun opening rest => scanPieces_number number opening, fun more => ?_⟩
    rw [List.singleton_append, joinPieces_unit, point]
    intro low rest _ both
    have bounds := (Utf8.toNat_bounds c).1
    omega
  | halves long high low =>
    have point : pointOfUnit c.toNat = .scalar c := pointOfUnit_value (.scalar c)
    have bound := (Utf8.toNat_bounds c).2
    refine ⟨[.unit (0xD800 + (c.toNat - 0x10000) / 0x400),
      .unit (0xDC00 + (c.toNat - 0x10000) % 0x400)], fun opening rest more => ?_, fun more => ?_⟩
    · simp only [List.cons_append, List.nil_append]
      rw [scanPieces_number high opening (List.cons_ne_nil _ _),
        scanPieces_number low opening more]
      cases scanPieces opening rest <;> rfl
    · have value : 0x10000 + (0xD800 + (c.toNat - 0x10000) / 0x400 - 0xD800) * 0x400 +
          (0xDC00 + (c.toNat - 0x10000) % 0x400 - 0xDC00) = c.toNat := by omega
      show joinPieces (.unit _ :: .unit _ :: more) = _
      rw [joinPieces, if_pos (by omega), value, point]

/-- A spelling with its closing mark is read as pieces that are joined to its characters. -/
theorem Spells.pieces {t : Text} {cs : List Char} (spells : Spells t cs) :
    ∃ ps, (∀ opening rest, scanPieces opening (t ++ .scalar '"' :: rest) = .ok (ps, rest)) ∧
      joinPieces ps = cs.map .scalar := by
  induction spells with
  | nil => exact ⟨[], fun opening rest => rfl, rfl⟩
  | cons first _ ih =>
    obtain ⟨front, frontScanned, frontJoined⟩ := first.pieces
    obtain ⟨back, backScanned, backJoined⟩ := ih
    refine ⟨front ++ back, fun opening rest => ?_, ?_⟩
    · rw [List.append_assoc, frontScanned _ _ (by simp), backScanned, ok_map]
    · rw [frontJoined, backJoined, List.map_cons]

theorem lexemesOf_spelled {t : Text} {cs : List Char} (spells : Spells t cs) (rest : Text) :
    lexemesOf (.scalar '"' :: (t ++ .scalar '"' :: rest)) =
      .text (cs.map .scalar) :: lexemesOf rest := by
  obtain ⟨ps, scanned, joined⟩ := spells.pieces
  refine lexemesOf_cons rfl ?_
  simp only [scanToken, scanned, joined]

theorem lexemesOf_blanks {blanks : Text} (blank : ∀ p ∈ blanks, isBlank p) (t : Text) :
    lexemesOf (blanks ++ t) = lexemesOf t := by
  induction blanks with
  | nil => rfl
  | cons p blanks ih =>
    rw [List.cons_append, lexemesOf_blank (blank p List.mem_cons_self),
      ih fun q mem => blank q (List.mem_cons_of_mem _ mem)]

/-! ## Members and objects -/

/-- `IsMemberText key value t`: the text `t` has a key and, after a colon, the text of a value. The
white space before and after this value is part of its text. -/
def IsMemberText (key : List Char) (value t : Text) : Prop :=
  ∃ before spelled after : Text, (∀ p ∈ before, isBlank p) ∧ Spells spelled key ∧
    (∀ p ∈ after, isBlank p) ∧
    t = before ++ .scalar '"' :: (spelled ++ .scalar '"' :: (after ++ .scalar ':' :: value))

/-- `IsMembersText entries t`: the text `t` has the members with the given keys and texts of values,
at least one, in this order and with commas between them. -/
inductive IsMembersText : List (Text × Text) → Text → Prop
  | last {key : List Char} {value t : Text} : IsMemberText key value t →
    IsMembersText [(key.map .scalar, value)] t
  | more {key : List Char} {value t rest : Text} {entries : List (Text × Text)} :
    IsMemberText key value t → IsMembersText entries rest →
    IsMembersText ((key.map .scalar, value) :: entries) (t ++ .scalar ',' :: rest)

/-- `IsObjectText entries t`: the text `t` is an object with the given keys and texts of values. -/
def IsObjectText (entries : List (Text × Text)) (t : Text) : Prop :=
  ∃ before inner after : Text, (∀ p ∈ before, isBlank p) ∧ IsMembersText entries inner ∧
    (∀ p ∈ after, isBlank p) ∧
    t = before ++ .scalar '\x7b' :: (inner ++ .scalar '\x7d' :: after)

/-- The value that a text is read as, if it is read. -/
def valueOf (t : Text) : Json :=
  (read t).toOption.getD .null

theorem read_eq_valueOf {t : Text} (readable : ∃ v, read t = .ok v) :
    read t = .ok (valueOf t) := by
  obtain ⟨v, found⟩ := readable
  rw [valueOf, found]
  rfl

theorem valueOf_eq {t : Text} {v : Json} (found : read t = .ok v) : valueOf t = v := by
  rw [valueOf, found]
  rfl

variable {key : List Char} {value t rest : Text} {entries : List (Text × Text)}

/-- A key that needs no escape may be spelled by itself. -/
theorem isMemberText_self (plain : ∀ c ∈ key, 0x20 ≤ c.toNat ∧ c ≠ '"' ∧ c ≠ '\\')
    (value : Text) :
    IsMemberText key value
      (.scalar '"' :: (key.map .scalar ++ .scalar '"' :: .scalar ':' :: value)) :=
  ⟨[], _, [], nofun, spells_self plain, nofun, rfl⟩

/-- A member is read as its key and its value. -/
theorem IsMemberText.lexemesOf_append (member : IsMemberText key value t)
    (readable : ∃ v, read value = .ok v) (ends : EndsToken rest) :
    lexemesOf (t ++ rest) =
      .text (key.map .scalar) :: .colon :: (lexemesOf value ++ lexemesOf rest) := by
  obtain ⟨before, spelled, after, blanks, spells, blanks', rfl⟩ := member
  have inside := Json.lexemesOf_append ends (reaches_of_read (read_eq_valueOf readable) []).2
  have colon : lexemesOf (.scalar ':' :: (value ++ rest)) =
      .colon :: lexemesOf (value ++ rest) := lexemesOf_cons rfl rfl
  simp only [List.append_assoc, List.cons_append]
  rw [lexemesOf_blanks blanks, lexemesOf_spelled spells, lexemesOf_blanks blanks', colon, inside]

/-- The tokens of some members. -/
def entryLexemes : List (Text × Text) → List Lexeme
  | [] => []
  | [(key, value)] => .text key :: .colon :: lexemesOf value
  | (key, value) :: next :: rest =>
    .text key :: .colon :: (lexemesOf value ++ .comma :: entryLexemes (next :: rest))

theorem entryLexemes_cons (entry : Text × Text) (entries : List (Text × Text)) :
    ∃ ls, entryLexemes (entry :: entries) = .text entry.1 :: ls := by
  cases entries <;> exact ⟨_, rfl⟩

theorem IsMembersText.ne_nil (members : IsMembersText entries t) : entries ≠ [] := by
  cases members <;> exact List.cons_ne_nil _ _

theorem IsObjectText.ne_nil (object : IsObjectText entries t) : entries ≠ [] := by
  obtain ⟨_, _, _, -, members, -⟩ := object
  exact members.ne_nil

theorem IsMembersText.lexemesOf_append (members : IsMembersText entries t)
    (readable : ∀ entry ∈ entries, ∃ v, read entry.2 = .ok v) (rest : Text) :
    lexemesOf (t ++ .scalar '\x7d' :: rest) =
      entryLexemes entries ++ .closeObject :: lexemesOf rest := by
  have close : lexemesOf (.scalar '\x7d' :: rest) = .closeObject :: lexemesOf rest :=
    lexemesOf_cons rfl rfl
  induction members with
  | last member =>
    obtain ⟨found, -⟩ := List.forall_mem_cons.mp readable
    rw [member.lexemesOf_append found (endsToken_cons rfl rest), close]
    rfl
  | @more key value t t' entries member members ih =>
    obtain ⟨found, readable⟩ := List.forall_mem_cons.mp readable
    have comma : lexemesOf (.scalar ',' :: (t' ++ .scalar '\x7d' :: rest)) =
        .comma :: lexemesOf (t' ++ .scalar '\x7d' :: rest) := lexemesOf_cons rfl rfl
    obtain ⟨next, others, rfl⟩ := List.exists_cons_of_ne_nil members.ne_nil
    rw [List.append_assoc, List.cons_append,
      member.lexemesOf_append found (endsToken_cons rfl _), comma, ih readable, entryLexemes]
    simp

/-- The values of some members, which stand under their keys. -/
def entryValues (entries : List (Text × Text)) : Members :=
  entries.map fun entry => (entry.1, valueOf entry.2)

/-- The members of an object are put one by one up to its end, after those that were put before. -/
theorem reaches_entries {entry : Text × Text}
    (readable : ∀ e ∈ entry :: entries, ∃ v, read e.2 = .ok v) (done : Members)
    (frames : List Frame) :
    Reaches (.needKey done frames) (entryLexemes (entry :: entries) ++ [.closeObject])
      (.complete (.object (putAll done (entryValues (entry :: entries)))) frames) := by
  obtain ⟨key, value⟩ := entry
  obtain ⟨found, others⟩ := List.forall_mem_cons.mp readable
  have first := (reaches_of_read (read_eq_valueOf found) (.object done key :: frames)).1
  induction entries generalizing key value done with
  | nil =>
    rw [entryLexemes, List.cons_append, List.cons_append]
    exact .cons (fun _ => rfl)
      (.cons (fun _ => rfl) (first.append (.cons (fun _ => rfl) (.refl _))))
  | cons next entries ih =>
    obtain ⟨found', others'⟩ := List.forall_mem_cons.mp others
    have later := ih (done.put key (valueOf value)) next.1 next.2 others found' others'
      (reaches_of_read (read_eq_valueOf found') _).1
    rw [entryLexemes, List.cons_append, List.cons_append, List.append_assoc, List.cons_append]
    exact .cons (fun _ => rfl) (.cons (fun _ => rfl) (first.append (.cons (fun _ => rfl) later)))

/-- A text without a mark in front is read as the value that its tokens complete. -/
theorem read_of_reaches {v : Json} (noMark : ¬ ∃ rest, t = .scalar '\ufeff' :: rest)
    (reaches : Reaches (.needValue []) (lexemesOf t) (.complete v [])) : read t = .ok v := by
  unfold read
  split
  · exact absurd ⟨_, rfl⟩ noMark
  · rw [State.run, reaches (tokens t) rfl]
    rfl

/-- No mark stands in front of white space and a token. -/
theorem noMark_of_blanks {blanks : Text} (blank : ∀ p ∈ blanks, isBlank p)
    (dark : ¬ ∃ rest, t = .scalar '\ufeff' :: rest) :
    ¬ ∃ rest, blanks ++ t = .scalar '\ufeff' :: rest := by
  intro marked
  cases blanks with
  | nil => exact dark marked
  | cons p blanks =>
    obtain ⟨rest, eq⟩ := marked
    have first := blank p List.mem_cons_self
    rw [(List.cons.inj eq).1] at first
    cases first

/-- The text of an object is read as what is left of its entries. -/
theorem read_of_isObjectText (object : IsObjectText entries t)
    (readable : ∀ entry ∈ entries, ∃ v, read entry.2 = .ok v) :
    read t = .ok (.object (entryValues (overwritten entries))) := by
  obtain ⟨before, inner, after, blanks, members, blanks', rfl⟩ := object
  obtain ⟨entry, others, rfl⟩ := List.exists_cons_of_ne_nil members.ne_nil
  have opened : lexemesOf (.scalar '\x7b' :: (inner ++ .scalar '\x7d' :: after)) =
      .openObject :: lexemesOf (inner ++ .scalar '\x7d' :: after) := lexemesOf_cons rfl rfl
  have nothing : lexemesOf after = [] := by
    rw [← List.append_nil after, lexemesOf_blanks blanks', lexemesOf_nil]
  refine read_of_reaches (noMark_of_blanks blanks (by nofun)) ?_
  have reaches := reaches_entries readable [] []
  obtain ⟨ls, first⟩ := entryLexemes_cons entry others
  rw [putAll_nil, entryValues, overwritten_map, first, List.cons_append] at reaches
  rw [lexemesOf_blanks blanks, opened, members.lexemesOf_append readable, nothing, first,
    List.cons_append]
  -- The opening mark asks for a member, where a key is read as where a key is needed.
  refine .cons (fun _ => rfl) (.of_step_eq ?_ reaches)
  exact fun _ => rfl

end TableDdl.Json
