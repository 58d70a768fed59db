import TableDdl.Json.Reader
import TableDdl.Proofs.Json.NumberText
import TableDdl.Proofs.Json.Quotation
import TableDdl.Proofs.Json.Regular
import TableDdl.Proofs.Number.Range
import TableDdl.Proofs.Outcome

/-!
# What is read is regular

Every value that is read off a text is regular. The tokens of a text are regular, and the machine
keeps what it has taken regular at every step, so that what it hands out in the end is regular too.
-/

namespace TableDdl.Json

open Outcome

/-! ## Numbers -/

theorem digit_lt (p : CodePoint) : p.digit?.getD 0 < 10 := by
  cases p with
  | surrogate offset => exact Nat.zero_lt_succ 9
  | scalar c =>
    rw [CodePoint.digit?]
    split
    · rename_i digit
      have bounds := Char.isDigit_iff_toNat.mp digit
      have nine : '9'.toNat = '0'.toNat + 9 := rfl
      rw [Option.getD_some]
      omega
    · decide

theorem digitsValue_lt (digits : Text) : Text.digitsValue digits < Nat.pow 10 digits.length := by
  induction digits using List.reverseRecOn with
  | nil => decide
  | append_singleton digits p ih =>
    have digit := digit_lt p
    have more : Nat.pow 10 (digits.length + 1) = Nat.pow 10 digits.length * 10 := rfl
    rw [Text.digitsValue_append_singleton, List.length_append, List.length_singleton, more]
    omega

theorem digitsValue_lt_of_length_le {digits : Text} {width : Nat} (le : digits.length ≤ width) :
    Text.digitsValue digits < Nat.pow 10 width :=
  Nat.lt_of_lt_of_le (digitsValue_lt digits) (Nat.pow_le_pow_right (by decide) le)

/-- An integer with few enough digits before it is read has few enough after. -/
theorem fewDigits_of_length_le {digits : Text} (few : digits.length ≤ maxIntegerDigits)
    {n : Int} (value : n.natAbs = Text.digitsValue digits) : FewDigits n := by
  rw [fewDigits_iff, value]
  exact digitsValue_lt_of_length_le few

theorem toBinary64_inRange (n : Numeral) : n.toBinary64.InRange :=
  Binary64.ofDecimal_inRange _ _ _

variable {texts : Text → Prop}

theorem isRegular_of_scanSigned? {t rest : Text} {v : Json}
    (found : scanSigned? t = some (.value v, rest)) : IsRegular texts Binary64.InRange v := by
  obtain ⟨-, -, ⟨negative, digits, -, eq⟩ | ⟨m, -, eq⟩⟩ := text_of_scanSigned? found
  · unfold ScannedNumber.ofDigits at eq
    split at eq
    · cases eq
    · rename_i few
      cases eq
      refine .int (fewDigits_of_length_le (Nat.not_lt.mp few) ?_)
      cases negative with
      | false => rfl
      | true => exact Int.natAbs_neg _
  · cases eq
    exact .real (toBinary64_inRange m)

/-! ## Tokens -/

/-- The test for a token whose content is regular. -/
def Lexeme.IsRegular (texts : Text → Prop) : Lexeme → Prop
  | .atom v => Json.IsRegular texts Binary64.InRange v
  | .text t => texts t
  | _ => True

theorem isRegular_of_mem_words : ∀ entry ∈ words, IsRegular texts Binary64.InRange entry.2 := by
  intro entry mem
  simp only [words, List.mem_cons, List.not_mem_nil, or_false] at mem
  rcases mem with rfl | rfl | rfl | rfl | rfl | rfl
  · exact .null
  · exact .bool true
  · exact .bool false
  · exact .real trivial
  · exact .real trivial
  · exact .real trivial

theorem mem_of_scanWord? {t rest : Text} {lexeme : Lexeme} {table : List (Text × Json)}
    (found : scanWord? t table = some (lexeme, rest)) :
    ∃ entry ∈ table, lexeme = .atom entry.2 ∧ dropWord? entry.1 t = some rest := by
  induction table with
  | nil => cases found
  | cons entry more ih =>
    rw [scanWord?] at found
    split at found
    · rename_i dropped
      cases found
      exact ⟨entry, List.mem_cons_self, rfl, dropped⟩
    · obtain ⟨other, mem, same⟩ := ih found
      exact ⟨other, List.mem_cons_of_mem _ mem, same⟩

theorem isRegular_of_scanAtom? {t rest : Text} {lexeme : Lexeme}
    (found : scanAtom? t = some (lexeme, rest)) : lexeme.IsRegular texts := by
  unfold scanAtom? at found
  split at found
  · rename_i word
    cases found
    obtain ⟨entry, mem, rfl, -⟩ := mem_of_scanWord? word
    exact isRegular_of_mem_words entry mem
  · obtain ⟨⟨number, after⟩, scanned, eq⟩ := Option.map_eq_some_iff.mp found
    cases eq
    cases number with
    | value v => exact isRegular_of_scanSigned? scanned
    | long digits => trivial

/-- A token is regular if its text is, should it be one. -/
theorem isRegular_of_scanToken {p : CodePoint} {t : Text}
    (joined : ∀ name, (scanToken p t).1 = .text name → texts name) :
    (scanToken p t).1.IsRegular texts := by
  revert joined
  unfold scanToken
  split
  iterate 6 exact fun _ => trivial
  · split
    · exact fun joined => joined _ rfl
    · exact fun _ => trivial
  · intro _
    cases found : scanAtom? (p :: t) with
    | none => trivial
    | some scanned => exact isRegular_of_scanAtom? found

theorem isRegular_of_mem_tokens {t : Text}
    (joined : ∀ token ∈ tokens t, ∀ name, token.lexeme = .text name → texts name) :
    ∀ token ∈ tokens t, token.lexeme.IsRegular texts := by
  fun_induction tokens t with
  | case1 => exact nofun
  | case2 first rest blank ih => exact ih joined
  | case3 first rest dark ih =>
    intro token mem
    rcases List.mem_cons.mp mem with rfl | mem
    · exact isRegular_of_scanToken (joined _ List.mem_cons_self)
    · exact ih (fun token mem => joined token (List.mem_cons_of_mem _ mem)) token mem

/-! ## The machine -/

/-- The test for an array or object that is being read with regular parts. -/
def Frame.IsRegular (texts : Text → Prop) : Frame → Prop
  | .array items => ∀ item ∈ items, Json.IsRegular texts Binary64.InRange item
  | .object members key => Json.IsRegular texts Binary64.InRange (.object members) ∧ texts key

/-- The invariant of the machine: whatever it has taken is regular. -/
def State.IsRegular (texts : Text → Prop) : State → Prop
  | .needValue frames | .needItem frames | .needMember frames =>
    ∀ frame ∈ frames, frame.IsRegular texts
  | .needKey members frames =>
    Json.IsRegular texts Binary64.InRange (.object members) ∧
      ∀ frame ∈ frames, frame.IsRegular texts
  | .needColon members key frames =>
    (Json.IsRegular texts Binary64.InRange (.object members) ∧ texts key) ∧
      ∀ frame ∈ frames, frame.IsRegular texts
  | .complete value frames =>
    Json.IsRegular texts Binary64.InRange value ∧ ∀ frame ∈ frames, frame.IsRegular texts

theorem isRegular_emptyObject {reals : Binary64 → Prop} :
    IsRegular texts reals (.object []) :=
  .object List.nodup_nil nofun nofun

section Step

variable {token : Token} {state : State} {frames : List Frame}

theorem isRegular_of_stepValue (lexeme : token.lexeme.IsRegular texts)
    (regular : ∀ frame ∈ frames, frame.IsRegular texts)
    (next : stepValue frames token = .ok state) : state.IsRegular texts := by
  unfold stepValue at next
  cases content : token.lexeme with
  | openArray | openObject =>
    rw [content] at next
    cases next
    exact regular
  | atom v =>
    rw [content] at next lexeme
    cases next
    exact ⟨lexeme, regular⟩
  | text t =>
    rw [content] at next lexeme
    cases next
    exact ⟨.text lexeme, regular⟩
  | closeArray | closeObject | colon | comma | longInteger | flawed | unknown =>
    rw [content] at next
    cases next

theorem isRegular_of_stepKey {members : Members} (lexeme : token.lexeme.IsRegular texts)
    (object : IsRegular texts Binary64.InRange (.object members))
    (regular : ∀ frame ∈ frames, frame.IsRegular texts)
    (next : stepKey members frames token = .ok state) : state.IsRegular texts := by
  unfold stepKey at next
  cases content : token.lexeme with
  | text key =>
    rw [content] at next lexeme
    cases next
    exact ⟨⟨object, lexeme⟩, regular⟩
  | openArray | openObject | closeArray | closeObject | colon | comma | atom | longInteger | flawed
    | unknown =>
    rw [content] at next
    cases next

theorem isRegular_of_stepComplete {v : Json} (value : IsRegular texts Binary64.InRange v)
    (regular : ∀ frame ∈ frames, frame.IsRegular texts)
    (next : stepComplete v frames token = .ok state) : state.IsRegular texts := by
  unfold stepComplete at next
  cases frames with
  | nil => cases next
  | cons frame frames =>
    have inner := regular frame List.mem_cons_self
    have outer := fun other mem => regular other (List.mem_cons_of_mem frame mem)
    cases frame with
    | array items =>
      have all : ∀ item ∈ v :: items, IsRegular texts Binary64.InRange item := by
        intro item mem
        rcases List.mem_cons.mp mem with rfl | mem
        · exact value
        · exact inner item mem
      dsimp only at next
      split at next
      · cases next
        intro other mem
        rcases List.mem_cons.mp mem with rfl | mem
        · exact all
        · exact outer other mem
      · cases next
        exact ⟨.array fun item mem => all item (List.mem_reverse.mp mem), outer⟩
      · cases next
    | object members key =>
      have object := inner.1.put inner.2 value
      dsimp only at next
      split at next
      · cases next
        exact ⟨object, outer⟩
      · cases next
        exact ⟨object, outer⟩
      · cases next

/-- The machine keeps its invariant on a regular token. -/
theorem isRegular_of_step {before : State} (lexeme : token.lexeme.IsRegular texts)
    (regular : before.IsRegular texts) (next : before.step token = .ok state) :
    state.IsRegular texts := by
  cases before with
  | needValue frames => exact isRegular_of_stepValue lexeme regular next
  | needItem frames =>
    simp only [State.step] at next
    split at next
    · cases next
      exact ⟨.array nofun, regular⟩
    · refine isRegular_of_stepValue lexeme ?_ next
      intro frame mem
      rcases List.mem_cons.mp mem with rfl | mem
      · exact nofun
      · exact regular frame mem
  | needMember frames =>
    simp only [State.step] at next
    split at next
    · cases next
      exact ⟨isRegular_emptyObject, regular⟩
    · exact isRegular_of_stepKey lexeme isRegular_emptyObject regular next
  | needKey members frames => exact isRegular_of_stepKey lexeme regular.1 regular.2 next
  | needColon members key frames =>
    simp only [State.step] at next
    split at next
    · cases next
      intro frame mem
      rcases List.mem_cons.mp mem with rfl | mem
      · exact regular.1
      · exact regular.2 frame mem
    · cases next
  | complete v frames => exact isRegular_of_stepComplete regular.1 regular.2 next

end Step

/-- The machine keeps its invariant on a row of regular tokens. -/
theorem isRegular_of_run {ts : List Token} {before state : State}
    (lexemes : ∀ token ∈ ts, token.lexeme.IsRegular texts) (regular : before.IsRegular texts)
    (run : ts.foldlM State.step before = .ok state) : state.IsRegular texts :=
  foldlM_invariant (fun token mem _ _ => isRegular_of_step (lexemes token mem)) regular run

theorem complete_of_finish {state : State} {v : Json} (finish : state.finish = .ok v) :
    state = .complete v [] := by
  unfold State.finish at finish
  split at finish
  · cases finish
    rfl
  all_goals cases finish

/-- When a text is read as a value, the machine has completed this value at the end of the text. -/
theorem run_of_read {t : Text} {v : Json} (found : read t = .ok v) :
    (tokens t).foldlM State.step (.needValue []) = .ok (.complete v []) := by
  unfold read at found
  split at found
  · cases found
  · rw [mapError_eq_ok_iff, State.run, bind_eq_ok_iff] at found
    obtain ⟨state, run, finish⟩ := found
    rw [complete_of_finish finish] at run
    exact run

/-- What is read off a text is regular. -/
theorem isRegular_of_read {t : Text} {v : Json}
    (joined : ∀ token ∈ tokens t, ∀ name, token.lexeme = .text name → texts name)
    (found : read t = .ok v) : IsRegular texts Binary64.InRange v := by
  have start : State.IsRegular texts (.needValue []) := nofun
  have regular := isRegular_of_run (isRegular_of_mem_tokens joined) start (run_of_read found)
  exact regular.1

/-! ## Texts in a text without surrogates -/

theorem IsScalar.of_suffix {t rest : Text} (scalar : IsScalar t) (suffix : rest <:+ t) :
    IsScalar rest :=
  fun p mem => scalar p (suffix.subset mem)

theorem suffix_of_scanSigned? {t rest : Text} {number : ScannedNumber}
    (found : scanSigned? t = some (number, rest)) : rest <:+ t := by
  obtain ⟨front, rfl, -⟩ := text_of_scanSigned? found
  exact List.suffix_append front rest

theorem suffix_of_scanAtom? {t rest : Text} {lexeme : Lexeme}
    (found : scanAtom? t = some (lexeme, rest)) : rest <:+ t := by
  unfold scanAtom? at found
  split at found
  · rename_i word
    cases found
    obtain ⟨entry, -, -, dropped⟩ := mem_of_scanWord? word
    exact ⟨entry.1, (eq_append_of_dropWord? dropped).symm⟩
  · obtain ⟨⟨number, after⟩, scanned, eq⟩ := Option.map_eq_some_iff.mp found
    cases eq
    exact suffix_of_scanSigned? scanned

/-- A quotation in a text of characters has no surrogate itself, though it may have units. -/
theorem noSurrogates_of_scanPieces {opening t after : Text} {pieces : List Piece}
    (scalar : IsScalar t) (found : scanPieces opening t = .ok (pieces, after)) :
    NoSurrogates pieces ∧ IsScalar after := by
  fun_induction scanPieces opening t generalizing pieces with
  | case1 => cases found
  | case2 rest =>
    cases found
    refine ⟨?_, scalar.of_suffix (List.suffix_cons _ _)⟩
    intro p mem
    cases mem
  | case3 => cases found
  | case4 a b c d e more n hex ih =>
    obtain ⟨⟨ps, rest⟩, inner, eq⟩ := map_eq_ok_iff.mp found
    cases eq
    obtain ⟨ps_in, rest_in⟩ := ih (scalar.of_suffix ⟨[_, _, _, _, _, _], rfl⟩) inner
    exact ⟨fun p mem => ps_in p (by simpa using mem), rest_in⟩
  | case5 => cases found
  | case6 => cases found
  | case7 e more _ _ c short ih =>
    obtain ⟨⟨ps, rest⟩, inner, eq⟩ := map_eq_ok_iff.mp found
    cases eq
    obtain ⟨ps_in, rest_in⟩ := ih (scalar.of_suffix ⟨[_, _], rfl⟩) inner
    refine ⟨fun p mem => ?_, rest_in⟩
    rcases List.mem_cons.mp mem with same | mem
    · cases same
      rfl
    · exact ps_in p mem
  | case8 => cases found
  | case9 => cases found
  | case10 p rest _ _ _ ih =>
    obtain ⟨⟨ps, after⟩, inner, eq⟩ := map_eq_ok_iff.mp found
    cases eq
    obtain ⟨ps_in, rest_in⟩ := ih (scalar.of_suffix (List.suffix_cons _ _)) inner
    refine ⟨fun q mem => ?_, rest_in⟩
    rcases List.mem_cons.mp mem with same | mem
    · cases same
      exact scalar p List.mem_cons_self
    · exact ps_in q mem

/-- A token of a text of characters has a joined text, should it have one, and such a text follows
it. -/
theorem isJoined_of_scanToken {p : CodePoint} {t : Text} (scalar : IsScalar (p :: t)) :
    (∀ name, (scanToken p t).1 = .text name → IsJoined name) ∧ IsScalar (scanToken p t).2 := by
  have rest := scalar.of_suffix (List.suffix_cons p t)
  unfold scanToken
  split
  iterate 6 exact ⟨nofun, rest⟩
  · split
    · rename_i found
      obtain ⟨pieces, after⟩ := noSurrogates_of_scanPieces rest found
      refine ⟨fun name eq => ?_, after⟩
      cases eq
      exact isJoined_joinPieces pieces
    · exact ⟨nofun, nofun⟩
  · cases found : scanAtom? (p :: t) with
    | none => exact ⟨nofun, nofun⟩
    | some scanned =>
      refine ⟨fun name eq => ?_, scalar.of_suffix (suffix_of_scanAtom? found)⟩
      -- A word and a number are no text, so they are regular even where no text is.
      have noText : scanned.1.IsRegular fun _ => False := isRegular_of_scanAtom? found
      rw [Option.getD_some] at eq
      rw [eq] at noText
      exact noText.elim

theorem isJoined_of_mem_tokens {t : Text} (scalar : IsScalar t) :
    ∀ token ∈ tokens t, ∀ name, token.lexeme = .text name → IsJoined name := by
  fun_induction tokens t with
  | case1 => exact nofun
  | case2 first rest blank ih => exact ih (scalar.of_suffix (List.suffix_cons _ _))
  | case3 first rest dark ih =>
    obtain ⟨own, after⟩ := isJoined_of_scanToken scalar
    intro token mem
    rcases List.mem_cons.mp mem with rfl | mem
    · exact own
    · exact ih after token mem

end TableDdl.Json
