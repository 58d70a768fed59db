import TableDdl.Proofs.Document.DeclarationOrder
import TableDdl.Proofs.Json.ScalarText
import TableDdl.Proofs.Number.NumeralValue
import TableDdl.Proofs.Schema.FirstFault

/-!
# The parameters of decimal types

The precision and the scale of a decimal type may be written in many ways: as integers, as numbers
with a fraction or an exponent, or as texts that stand for numbers. `IsKept` says which texts of a
parameter are which integer, and `IsRefused` which are none. What is written with a value of at most
2^53 is exactly this value, since a number that is rounded to its nearest neighbour stays as it is
if it is its own neighbour; no trace is left of how it was written. Every text that is read as a
value is on one of both sides (`decimal_parameters_are_exact`).
-/

namespace TableDdl

open Binary64 Column Json Numeral Outcome Schema

/-! ## Texts of parameters -/

/-- `WritesNumber P q`: the text `P` is a number with a fraction or an exponent or a string that is
a numeral, and its value is `q`. -/
inductive WritesNumber (P : Text) : ℚ → Prop
  | number {inner : Text} {m : Numeral} : Text.IsPadded isBlank P inner → IsRealText inner m →
    WritesNumber P m.value
  | text {s : Text} {m : Numeral} : Json.read P = .ok (.text s) → IsNumeralText s m →
    WritesNumber P m.value

/-- `IsKept P n`: a parameter with the text `P` is the integer `n`. It is an integer of at most 4300
digits, or what it writes is an integer up to 2^53 or is rounded to an integer. -/
inductive IsKept (P : Text) : Int → Prop
  | integer {inner digits : Text} {negative : Bool} : Text.IsPadded isBlank P inner →
    IsIntegerText inner negative digits → digits.length ≤ 4300 →
    IsKept P (signedInt negative digits)
  | exact {n : Int} : WritesNumber P n → n.natAbs ≤ 2 ^ 53 → IsKept P n
  | rounded {q : ℚ} {x : Binary64} {n : Int} : WritesNumber P q → IsNearest q x →
    x.value? = some (n : ℚ) → IsKept P n

/-- The words for numbers that are not finite. -/
def nonFiniteWords : List Text := ["NaN", "Infinity", "-Infinity"]

/-- `IsRefused P`: the text `P` cannot be that of a parameter. It is no number and no string, or a
string that is no numeral, or a word for a number that is not finite, or it is rounded to a number
that is no integer or not finite. -/
inductive IsRefused (P : Text) : Prop
  | noNumber {v : Json} : Json.read P = .ok v →
    (v = .null ∨ (∃ b, v = .bool b) ∨ (∃ items, v = .array items) ∨
      ∃ members, v = .object members) → IsRefused P
  | noNumeral {s : Text} : Json.read P = .ok (.text s) → (∀ m, ¬ IsNumeralText s m) → IsRefused P
  | word {inner : Text} : Text.IsPadded isBlank P inner →
    inner ∈ nonFiniteWords → IsRefused P
  | noInteger {q : ℚ} {x : Binary64} : WritesNumber P q → IsNearest q x →
    (∀ n : Int, x.value? ≠ some (n : ℚ)) → IsRefused P

variable {P S t : Text} {n p s : Int}

/-- What writes a number is read as a value that is compared with integers by what the number is
rounded to. -/
theorem WritesNumber.value {q : ℚ} (writes : WritesNumber P q) :
    ∃ (v : Json) (x : Binary64), Json.read P = .ok v ∧ IsNearest q x ∧
      (v = .real x ∨ ∃ s, v = .text s ∧ Binary64.ofText? s = some x) := by
  cases writes with
  | @number inner m padded real =>
    exact ⟨_, _, read_of_isRealText padded real, m.toBinary64_isNearest, Or.inl rfl⟩
  | @text s m found numeral =>
    have stands : Binary64.ofText? s = some m.toBinary64 :=
      ofText?_eq_some_iff.mpr (Or.inl ⟨m, numeral, rfl⟩)
    exact ⟨_, _, found, m.toBinary64_isNearest, Or.inr ⟨s, rfl, stands⟩⟩

theorem WritesNumber.isParameter {q : ℚ} {x : Binary64} (writes : WritesNumber P q)
    (nearest : IsNearest q x) (value : x.value? = some (n : ℚ)) :
    ∃ v, Json.read P = .ok v ∧ IsParameter v n := by
  obtain ⟨v, y, found, nearest', isNumber⟩ := writes.value
  rw [nearest.value?_unique nearest'] at value
  rcases isNumber with rfl | ⟨s, rfl, stands⟩
  · exact ⟨_, found, .real value⟩
  · exact ⟨_, found, .text stands value⟩

/-- A text that is kept is read as a parameter. -/
theorem IsKept.isParameter (kept : IsKept P n) : ∃ v, Json.read P = .ok v ∧ IsParameter v n := by
  cases kept with
  | integer padded integer few => exact ⟨_, read_of_isIntegerText padded integer few, .int _⟩
  | rounded writes nearest value => exact writes.isParameter nearest value
  | exact writes small =>
    obtain ⟨v, x, -, nearest, -⟩ := writes.value
    exact writes.isParameter nearest (nearest.value?_eq small)

/-! ## Refused parameters -/

theorem exists_of_mem_nonFiniteWords {inner : Text} (word : inner ∈ nonFiniteWords) :
    ∃ x : Binary64, x.value? = none ∧ (∃ p more, inner = p :: more ∧ p ≠ .scalar '\ufeff') ∧
      ∀ rest, lexemesOf (inner ++ rest) = .atom (.real x) :: lexemesOf rest := by
  simp only [nonFiniteWords, List.mem_cons, List.not_mem_nil, or_false] at word
  rcases word with rfl | rfl | rfl
  · exact ⟨.nan, rfl, ⟨_, _, rfl, nofun⟩, fun rest => lexemesOf_cons rfl rfl⟩
  · exact ⟨.infinite false, rfl, ⟨_, _, rfl, nofun⟩, fun rest => lexemesOf_cons rfl rfl⟩
  · exact ⟨.infinite true, rfl, ⟨_, _, rfl, nofun⟩, fun rest => lexemesOf_cons rfl rfl⟩

theorem mem_nonFiniteWords {inner : Text} {x : Binary64} (word : (inner, Json.real x) ∈ words) :
    inner ∈ nonFiniteWords := by
  simp only [words, List.mem_cons, Prod.mk.injEq, reduceCtorEq, and_false, false_or, or_false,
    List.not_mem_nil] at word
  rcases word with ⟨rfl, -⟩ | ⟨rfl, -⟩ | ⟨rfl, -⟩
  all_goals decide

/-- Names stand for no finite number. -/
theorem value?_of_isNameText {s : Text} {x : Binary64} (named : IsNameText s x) :
    x.value? = none := by
  cases named <;> rfl

/-- A text that is refused is read as a value that is no parameter. -/
theorem IsRefused.parameterFault (refused : IsRefused P) (parameter : Parameter) :
    ∃ v fault, Json.read P = .ok v ∧ ParameterFault parameter v fault := by
  cases refused with
  | @noNumber v found other =>
    refine ⟨v, _, found, .notNumber ?_ ?_ ?_⟩
    all_goals
      intro _ eq
      rw [eq] at other
      rcases other with other | ⟨_, other⟩ | ⟨_, other⟩ | ⟨_, other⟩
      all_goals cases other
  | @noNumeral s found noNumeral =>
    cases stands : Binary64.ofText? s with
    | none =>
      refine ⟨_, _, found, .notNumber nofun nofun fun t same => ?_⟩
      cases same
      exact stands
    | some x =>
      refine ⟨_, _, found, .text stands fun n value => ?_⟩
      rcases ofText?_eq_some_iff.mp stands with ⟨m, numeral, -⟩ | named
      · exact noNumeral m numeral
      · rw [value?_of_isNameText named] at value
        cases value
  | word padded word =>
    obtain ⟨x, infinite, front, token⟩ := exists_of_mem_nonFiniteWords word
    refine ⟨.real x, _, read_of_isPadded padded front (fun rest _ => token rest) fun _ => rfl,
      .real fun n value => ?_⟩
    rw [infinite] at value
    cases value
  | noInteger writes nearest noInteger =>
    obtain ⟨v, y, found, nearest', isNumber⟩ := writes.value
    rw [nearest.value?_unique nearest'] at noInteger
    rcases isNumber with rfl | ⟨s, rfl, stands⟩
    · exact ⟨_, _, found, .real noInteger⟩
    · exact ⟨_, _, found, .text stands noInteger⟩

/-- What writes a number is kept or refused. -/
theorem WritesNumber.isKept_or_isRefused {q : ℚ} (writes : WritesNumber P q) :
    (∃ n, IsKept P n) ∨ IsRefused P := by
  obtain ⟨-, x, -, nearest, -⟩ := writes.value
  by_cases integer : ∃ n : Int, x.value? = some (n : ℚ)
  · obtain ⟨n, value⟩ := integer
    exact Or.inl ⟨n, .rounded writes nearest value⟩
  · exact Or.inr (.noInteger writes nearest (not_exists.mp integer))

/-- Every text that is read is kept or refused. -/
theorem isKept_or_isRefused {v : Json} (found : Json.read P = .ok v) :
    (∃ n, IsKept P n) ∨ IsRefused P := by
  cases v with
  | null => exact Or.inr (.noNumber found (Or.inl rfl))
  | bool b => exact Or.inr (.noNumber found (Or.inr (Or.inl ⟨b, rfl⟩)))
  | array items => exact Or.inr (.noNumber found (Or.inr (Or.inr (Or.inl ⟨items, rfl⟩))))
  | object members => exact Or.inr (.noNumber found (Or.inr (Or.inr (Or.inr ⟨members, rfl⟩))))
  | int n =>
    obtain ⟨inner, padded, ⟨negative, digits, integer, few, eq⟩ | ⟨m, -, eq⟩ | word⟩ :=
      text_of_read found (Or.inl ⟨n, rfl⟩)
    · exact Or.inl ⟨_, .integer padded integer few⟩
    · cases eq
    · simp [words] at word
  | real x =>
    obtain ⟨inner, padded, ⟨negative, digits, -, -, eq⟩ | ⟨m, real, -⟩ | word⟩ :=
      text_of_read found (Or.inr ⟨x, rfl⟩)
    · cases eq
    · exact (WritesNumber.number padded real).isKept_or_isRefused
    · exact Or.inr (.word padded (mem_nonFiniteWords word))
  | text s =>
    by_cases numeral : ∃ m, IsNumeralText s m
    · obtain ⟨m, numeral⟩ := numeral
      exact (WritesNumber.text found numeral).isKept_or_isRefused
    · exact Or.inr (.noNumeral found (not_exists.mp numeral))

/-! ## Texts of decimal types -/

/-- `IsDecimalText P S t`: the text `t` is the definition of a decimal type whose precision has the
text `P` and whose scale has the text `S`. -/
def IsDecimalText (P S t : Text) : Prop :=
  ∃ (members parameters : List (Text × Text)) (word inner : Text),
    IsObjectText members t ∧ AreReadable members ∧
    lastGiven? "type" members = some word ∧ Json.read word = .ok (.text "decimal") ∧
    lastGiven? "properties" members = some inner ∧
    IsObjectText parameters inner ∧ AreReadable parameters ∧
    lastGiven? "precision" parameters = some P ∧ lastGiven? "scale" parameters = some S

/-- The text of a decimal type is read as a definition with these parameters. -/
theorem IsDecimalText.read (decimal : IsDecimalText P S t) :
    ∃ (members properties : Json.Members) (precision scale : Json),
      Json.read t = .ok (.object members) ∧ members.get? "type" = some (.text "decimal") ∧
      members.get? "properties" = some (.object properties) ∧
      properties.get? "precision" = some precision ∧ Json.read P = .ok precision ∧
      properties.get? "scale" = some scale ∧ Json.read S = .ok scale := by
  obtain ⟨members, parameters, word, inner, object, readable, typed, isDecimal, inside, declared,
    readable', precision, scale⟩ := decimal
  have found := read_of_isObjectText declared readable'
  refine ⟨entryValues (overwritten members), entryValues (overwritten parameters), valueOf P,
    valueOf S, read_of_isObjectText object readable, ?_, ?_, ?_, ?_, ?_, ?_⟩
  · rw [get?_entryValues, typed, Option.map_some, valueOf_eq isDecimal]
  · rw [get?_entryValues, inside, Option.map_some, valueOf_eq found]
  · rw [get?_entryValues, precision, Option.map_some]
  · exact read_eq_valueOf (readable' _ (mem_of_lastGiven? precision))
  · rw [get?_entryValues, scale, Option.map_some]
  · exact read_eq_valueOf (readable' _ (mem_of_lastGiven? scale))

/-- Two kept parameters make a decimal type of these integers. -/
theorem IsDecimalText.describes (decimal : IsDecimalText P S t) (keptP : IsKept P p)
    (keptS : IsKept S s) : IsDefinitionText t (.decimal p s) := by
  obtain ⟨members, properties, precision, scale, found, typed, inside, precisionAt, readP, scaleAt,
    readS⟩ := decimal.read
  obtain ⟨v, readP', isP⟩ := keptP.isParameter
  obtain ⟨w, readS', isS⟩ := keptS.isParameter
  cases readP.symm.trans readP'
  cases readS.symm.trans readS'
  exact ⟨_, found, .decimal typed inside precisionAt scaleAt isP isS⟩

/-- A refused parameter is a fault of the decimal type itself. -/
theorem IsDecimalText.hasFault (decimal : IsDecimalText P S t)
    (refused : IsRefused P ∨ IsRefused S) :
    ∃ v fault, Json.read t = .ok v ∧ HasFault v fault ∧ fault.faultClass = .malformedNode := by
  obtain ⟨members, properties, precision, scale, found, typed, inside, precisionAt, readP, scaleAt,
    readS⟩ := decimal.read
  have hasFault : ∀ fault, DecimalFault members fault → HasFault (.object members) fault :=
    fun fault isFault => @HasFault.keyword members .decimal fault typed (.decimal isFault)
  -- The precision is checked first, whatever the scale is.
  by_cases refusedP : IsRefused P
  · obtain ⟨v, fault, readP', isFault⟩ := refusedP.parameterFault .precision
    cases readP.symm.trans readP'
    exact ⟨_, fault, found, hasFault fault (.precision inside precisionAt scaleAt isFault),
      isFault.faultClass_eq⟩
  · obtain ⟨p, keptP⟩ := (isKept_or_isRefused readP).resolve_right refusedP
    obtain ⟨v, readP', isP⟩ := keptP.isParameter
    obtain ⟨w, fault, readS', isFault⟩ := (refused.resolve_left refusedP).parameterFault .scale
    cases readP.symm.trans readP'
    cases readS.symm.trans readS'
    exact ⟨_, fault, found, hasFault fault (.scale inside precisionAt scaleAt isP isFault),
      isFault.faultClass_eq⟩

/-! ## Written integers -/

/-- `IsPlain t n`: the text `t` is the integer `n` in decimal digits without a zero in front, after
a minus sign if it is negative. -/
def IsPlain (t : Text) (n : Int) : Prop :=
  ∃ sign digits : Text, t = sign ++ digits ∧ IsWhole digits ∧
    (sign = [] ∧ n = Text.digitsValue digits ∨
      sign = [.scalar '-'] ∧ n < 0 ∧ -n = Text.digitsValue digits)

/-- An integer is written plainly in one way only. -/
theorem isPlain_iff : IsPlain t n ↔ t = Text.ofInt n := by
  constructor
  · intro plain
    obtain ⟨sign, digits, rfl, whole, ⟨rfl, value⟩ | ⟨rfl, negative, value⟩⟩ := plain
    · rw [List.nil_append, value, ← whole.ofNat_eq, Text.digitsValue_ofNat]
      rfl
    · obtain ⟨k, rfl⟩ := Int.eq_negSucc_of_lt_zero negative
      have size : Text.digitsValue digits = k + 1 := by omega
      rw [← whole.ofNat_eq, size]
      rfl
  · intro eq
    subst eq
    cases n with
    | ofNat n => exact ⟨[], Text.ofNat n, rfl, isWhole_ofNat n, Or.inl ⟨rfl, by simp⟩⟩
    | negSucc n =>
      refine ⟨[.scalar '-'], Text.ofNat (n + 1), rfl, isWhole_ofNat (n + 1), Or.inr ⟨rfl, ?_, ?_⟩⟩
      · exact Int.negSucc_lt_zero n
      · simp

/-! ## Refused documents -/

/-- A document is refused because of a fault that no other visit comes before, at its place. -/
theorem compile_of_isFirstFault {document : Document} {overlay : Option Overlay} {v : Json}
    {steps : List Step} {visit : Visit} {fault : Fault} (loaded : document.load = .ok v)
    (noRoot : ∀ f, ¬ HasRootFault v f)
    (first : IsFirstFault (documentVisits overlay v) steps visit fault) :
    (document.compile overlay).outcome = .error (.schema ⟨fault, some (pathFrom [] steps)⟩) := by
  have found : firstFault? (documentVisits overlay v) = some ⟨steps, fault⟩ :=
    firstFault?_eq_some_iff.mpr ⟨visit, first⟩
  have refused : (recordOf overlay v).outcome = .error ⟨fault, some (pathFrom [] steps)⟩ := by
    rw [← error?_eq_some_iff, error?_recordOf noRoot, found]
    rfl
  rw [Document.compile_outcome, Document.buildRecord, Traced.outcome_bind, outcome_ofExcept, loaded,
    ok_bind, Traced.outcome_mapError, refused]
  rfl

/-- A definition with a fault of its own is refused where it stands. -/
theorem typeOf_of_hasFault {v : Json} {fault : Fault} (isFault : HasFault v fault) :
    typeOf v = .error ⟨[], fault⟩ := by
  have first : IsFirstFault (definitionVisits v) [] (.definition v) fault := by
    rw [definitionVisits_eq]
    exact ⟨[], _, rfl, fun _ mem => absurd mem List.not_mem_nil, isFault⟩
  have found : firstFault? (definitionVisits v) = some ⟨[], fault⟩ :=
    firstFault?_eq_some_iff.mpr ⟨_, first⟩
  rw [← error?_eq_some_iff, error?_typeOf_eq_firstFault?, found]

/-! ## Decimal types -/

/-- A decimal type has exactly the integers that its parameters are written as, and they come out in
plain digits, however they are written. If a parameter is refused, the definition is a malformed
node, and a document in which it is the first fault is refused at its place. There is no third case.
-/
theorem decimal_parameters_are_exact (decimal : IsDecimalText P S t) :
    (∀ p s, IsKept P p → IsKept S s →
      (∃ v, Json.read t = .ok v ∧ typeOf v = .ok (.decimal p s)) ∧
        ∃ p' s', IsPlain p' p ∧ IsPlain s' s ∧
          typeText (.decimal p s) = "decimal(" ++ p' ++ "," ++ s' ++ ")" ∧
          ∀ form name document, IsRecordText form [(name, t)] document →
            ((Document.text document).compile none).outcome =
              .ok (sanitize name ++ separator form ++ ("decimal(" ++ p' ++ "," ++ s' ++ ")"))) ∧
    (IsRefused P ∨ IsRefused S →
      ∃ v fault, Json.read t = .ok v ∧ typeOf v = .error ⟨[], fault⟩ ∧
        fault.faultClass = .malformedNode ∧
        ∀ (document : Document) overlay value steps before after, document.load = .ok value →
          (∀ f, ¬ HasRootFault value f) →
          documentVisits overlay value = before ++ (steps, .definition v) :: after →
          (∀ earlier ∈ before, ∀ f, ¬ earlier.2.HasFault f) →
          (document.compile overlay).outcome =
            .error (.schema ⟨fault, some (pathFrom [] steps)⟩)) ∧
    ((∃ p, IsKept P p) ∨ IsRefused P) ∧ ((∃ s, IsKept S s) ∨ IsRefused S) := by
  refine ⟨?kept, ?refused, ?precision, ?scale⟩
  case kept =>
    intro p s keptP keptS
    have definition := decimal.describes keptP keptS
    refine ⟨?built, Text.ofInt p, Text.ofInt s, isPlain_iff.mpr rfl, isPlain_iff.mpr rfl,
      by rw [typeText], ?compiled⟩
    case built =>
      obtain ⟨v, found, describes⟩ := definition
      exact ⟨v, found, typeOf_eq_ok_iff.mpr describes⟩
    case compiled =>
      intro form name document record
      have compiled := @IsRecordText.compile_outcome form _ document (fun _ => .decimal p s) record
        (List.forall_mem_singleton.mpr definition)
      rw [overwritten_singleton, List.map_singleton, Text.join, List.intercalate_singleton,
        fieldText, typeText] at compiled
      exact compiled
  case refused =>
    intro refused
    obtain ⟨v, fault, found, isFault, malformed⟩ := decimal.hasFault refused
    refine ⟨v, fault, found, typeOf_of_hasFault isFault, malformed, ?_⟩
    intro document overlay value steps before after loaded noRoot walk noEarlier
    exact compile_of_isFirstFault loaded noRoot ⟨before, after, walk, noEarlier, isFault⟩
  case precision =>
    obtain ⟨_, _, _, _, -, -, -, -, found, -, -⟩ := decimal.read
    exact isKept_or_isRefused found
  case scale =>
    obtain ⟨_, _, _, _, -, -, -, -, -, -, found⟩ := decimal.read
    exact isKept_or_isRefused found

/-! ## A price -/

/-- A precision in a string, with a sign, an underscore and white space. -/
def pricePrecision : Text := "\" +1_0 \""

/-- A scale with an exponent. -/
def priceScale : Text := "200e-2"

theorem pricePrecision_isKept : IsKept pricePrecision 10 := by
  have spelled : Spells " +1_0 " " +1_0 ".toList := spells_self (by simp)
  have found : Json.read pricePrecision = .ok (.text " +1_0 ") :=
    read_of_spells ⟨[], [], nofun, nofun, rfl⟩ spelled
  have padded : Text.IsPadded CodePoint.isNumeralBlank (asciiDigits " +1_0 ") "+1_0" := by
    rw [asciiDigits_eq_self (by decide)]
    exact ⟨" ", " ", by decide, by decide, rfl⟩
  have grouped : IsGrouped "+1_0" "+10" :=
    .cons (by decide) (.underscore rfl rfl (.cons (by decide) .nil))
  have numeral : IsNumeralText " +1_0 " ⟨false, "10", [], 0⟩ :=
    ⟨"10", ⟨"+1_0", "+", padded, grouped, .plus⟩, [], [], rfl, by decide, .absent, .absent,
      by decide⟩
  have writes := WritesNumber.text found numeral
  have digits : Text.digitsValue (("10" : Text) ++ []) = 10 := rfl
  have value : Numeral.value ⟨false, "10", [], 0⟩ = ((10 : Int) : ℚ) := by
    rw [Numeral.value, digits]
    norm_num
  rw [value] at writes
  exact .exact writes (by decide)

theorem priceScale_isKept : IsKept priceScale 2 := by
  have whole : IsWhole "200" := .digits (by decide) (by decide)
  have exponent : IsExponent "e-2" (-2) := .letter (Or.inl rfl) .minus (by decide) (by decide)
  have real : IsRealText priceScale ⟨false, "200", [], -2⟩ :=
    ⟨[], priceScale, rfl, .absent, [], "e-2", rfl, whole, .absent, nofun, exponent, by decide⟩
  have writes := WritesNumber.number ⟨[], [], nofun, nofun, rfl⟩ real
  have digits : Text.digitsValue (("200" : Text) ++ []) = 200 := rfl
  have value : Numeral.value ⟨false, "200", [], -2⟩ = ((2 : Int) : ℚ) := by
    rw [Numeral.value, digits]
    norm_num
  rw [value] at writes
  exact .exact writes (by decide)

/-- The parameters of a price. -/
def priceParameters : Text :=
  "\x7b\"precision\":" ++ pricePrecision ++ ",\"scale\":" ++ priceScale ++ "\x7d"

/-- The definition of a price. -/
def priceType : Text :=
  "\x7b\"type\":\"decimal\",\"properties\":" ++ priceParameters ++ "\x7d"

theorem priceType_isDecimalText : IsDecimalText pricePrecision priceScale priceType := by
  have precision := @isMemberText_self "precision".toList (by simp) pricePrecision
  have scale := @isMemberText_self "scale".toList (by simp) priceScale
  have type := @isMemberText_self "type".toList (by simp) "\"decimal\""
  have properties := @isMemberText_self "properties".toList (by simp) priceParameters
  have declared : IsObjectText [("precision", pricePrecision), ("scale", priceScale)]
      priceParameters := ⟨[], _, [], nofun, .more precision (.last scale), nofun, rfl⟩
  have object : IsObjectText [("type", "\"decimal\""), ("properties", priceParameters)] priceType :=
    ⟨[], _, [], nofun, .more type (.last properties), nofun, rfl⟩
  have spelled : Spells "decimal" "decimal".toList := spells_self (by simp)
  have isDecimal : Json.read "\"decimal\"" = .ok (.text "decimal") :=
    read_of_spells ⟨[], [], nofun, nofun, rfl⟩ spelled
  have readable : AreReadable [("precision", pricePrecision), ("scale", priceScale)] := by
    obtain ⟨v, readPrecision, -⟩ := pricePrecision_isKept.isParameter
    obtain ⟨w, readScale, -⟩ := priceScale_isKept.isParameter
    simp only [AreReadable, List.forall_mem_cons]
    exact ⟨⟨v, readPrecision⟩, ⟨w, readScale⟩, List.forall_mem_nil _⟩
  have readable' : AreReadable [("type", "\"decimal\""), ("properties", priceParameters)] := by
    simp only [AreReadable, List.forall_mem_cons]
    exact ⟨⟨_, isDecimal⟩, ⟨_, read_of_isObjectText declared readable⟩, List.forall_mem_nil _⟩
  exact ⟨_, _, _, _, object, readable', rfl, isDecimal, rfl, declared, readable, rfl, rfl⟩

/-- The document of a price. -/
def priceDocument : Text := "\x7b\"price\":" ++ priceType ++ "\x7d"

theorem price_column :
    IsDecimalText pricePrecision priceScale priceType ∧
      ((Document.text priceDocument).compile none).outcome = .ok "price decimal(10,2)" := by
  have member := @isMemberText_self "price".toList (by simp) priceType
  have object : IsObjectText [("price", priceType)] priceDocument :=
    ⟨[], _, [], nofun, .last member, nofun, rfl⟩
  have record : IsRecordText .implicit [("price", priceType)] priceDocument := by
    refine .members object ?_ rfl
    intro word given
    cases given
  obtain ⟨-, p, s, plainP, plainS, -, columns⟩ :=
    (decimal_parameters_are_exact priceType_isDecimalText).1 10 2 pricePrecision_isKept
      priceScale_isKept
  rw [isPlain_iff.mp plainP, isPlain_iff.mp plainS] at columns
  exact ⟨priceType_isDecimalText, columns .implicit "price" priceDocument record⟩

end TableDdl
