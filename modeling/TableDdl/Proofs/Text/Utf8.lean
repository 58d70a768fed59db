import TableDdl.Text.Utf8

/-!
# UTF-8 read back

The bytes of a row of characters are read back as these characters. Each character is read from its
own bytes whatever follows them, so that a row is read character by character.
-/

namespace TableDdl.Utf8

variable {a b c d : UInt8} {rest : List UInt8}

/-! ## Leading bytes -/

/-- What a byte announces that one more byte follows. -/
theorem lead_of_two (low : 0xC2 ≤ a.toNat) (high : a.toNat < 0xE0) :
    Lead.of? a = some ⟨0, 0x80, 0xBF, a.toNat - 0xC0⟩ := by
  simp only [Lead.of?, UInt8.lt_iff_toNat_lt, UInt8.reduceToNat]
  rw [if_neg (by omega), if_pos high]

/-- What a byte announces that two more bytes follow. The first of them is neither too small, which
makes the form overlong, nor that of a surrogate. -/
theorem lead_of_three (low : 0xE0 ≤ a.toNat) (high : a.toNat < 0xF0) (tail : 0x80 ≤ b.toNat)
    (tail' : b.toNat ≤ 0xBF) (shortest : a.toNat = 0xE0 → 0xA0 ≤ b.toNat)
    (scalar : a.toNat = 0xED → b.toNat ≤ 0x9F) :
    ∃ lead, Lead.of? a = some lead ∧ lead.more = 1 ∧ lead.bits = a.toNat - 0xE0 ∧
      lead.low ≤ b ∧ b ≤ lead.high := by
  simp only [Lead.of?, UInt8.lt_iff_toNat_lt, UInt8.le_iff_toNat_le, ← UInt8.toNat_inj,
    UInt8.reduceToNat]
  rw [if_neg (by omega), if_neg (by omega)]
  split
  · rename_i same
    exact ⟨_, rfl, rfl, rfl, shortest same, tail'⟩
  · split
    · rename_i same
      exact ⟨_, rfl, rfl, rfl, tail, scalar same⟩
    · exact ⟨_, rfl, rfl, rfl, tail, tail'⟩

/-- What a byte announces that three more bytes follow. The first of them is neither too small,
which makes the form overlong, nor that of a number above U+10FFFF. -/
theorem lead_of_four (low : 0xF0 ≤ a.toNat) (high : a.toNat ≤ 0xF4) (tail : 0x80 ≤ b.toNat)
    (tail' : b.toNat ≤ 0xBF) (shortest : a.toNat = 0xF0 → 0x90 ≤ b.toNat)
    (bounded : a.toNat = 0xF4 → b.toNat ≤ 0x8F) :
    ∃ lead, Lead.of? a = some lead ∧ lead.more = 2 ∧ lead.bits = a.toNat - 0xF0 ∧
      lead.low ≤ b ∧ b ≤ lead.high := by
  simp only [Lead.of?, UInt8.lt_iff_toNat_lt, UInt8.le_iff_toNat_le, ← UInt8.toNat_inj,
    UInt8.reduceToNat]
  rw [if_neg (by omega), if_neg (by omega), if_neg (by omega), if_neg (by omega),
    if_neg (by omega)]
  split
  · rename_i same
    exact ⟨_, rfl, rfl, rfl, shortest same, tail'⟩
  · split
    · exact ⟨_, rfl, rfl, rfl, tail, tail'⟩
    · have same : a.toNat = 0xF4 := by omega
      rw [if_pos same]
      exact ⟨_, rfl, rfl, rfl, tail, bounded same⟩

theorem isContinuation_iff : isContinuation b = true ↔ 0x80 ≤ b.toNat ∧ b.toNat ≤ 0xBF := by
  simp [isContinuation, UInt8.le_iff_toNat_le]

/-! ## One character -/

theorem decodeFrom_one (position : Nat) (ascii : a.toNat < 0x80) :
    decodeFrom position (a :: rest) =
      (Char.ofNat a.toNat :: ·) <$> decodeFrom (position + 1) rest := by
  rw [decodeFrom, if_pos (by simpa [UInt8.lt_iff_toNat_lt] using ascii)]

theorem decodeFrom_two (position : Nat) {lead : Lead} (not_ascii : 0x80 ≤ a.toNat)
    (found : Lead.of? a = some lead) (more : lead.more = 0) (low : lead.low ≤ b)
    (high : b ≤ lead.high) :
    decodeFrom position (a :: b :: rest) =
      (Char.ofNat (extend lead.bits b) :: ·) <$> decodeFrom (position + 2) rest := by
  rw [decodeFrom, if_neg (by simpa [UInt8.lt_iff_toNat_lt] using not_ascii), found]
  simp [low, high, more]

theorem decodeFrom_three (position : Nat) {lead : Lead} (not_ascii : 0x80 ≤ a.toNat)
    (found : Lead.of? a = some lead) (more : lead.more = 1) (low : lead.low ≤ b)
    (high : b ≤ lead.high) (tail : isContinuation c) :
    decodeFrom position (a :: b :: c :: rest) =
      (Char.ofNat (extend (extend lead.bits b) c) :: ·) <$> decodeFrom (position + 3) rest := by
  rw [decodeFrom, if_neg (by simpa [UInt8.lt_iff_toNat_lt] using not_ascii), found]
  simp [low, high, more, tail]

theorem decodeFrom_four (position : Nat) {lead : Lead} (not_ascii : 0x80 ≤ a.toNat)
    (found : Lead.of? a = some lead) (more : lead.more = 2) (low : lead.low ≤ b)
    (high : b ≤ lead.high) (tail : isContinuation c) (tail' : isContinuation d) :
    decodeFrom position (a :: b :: c :: d :: rest) =
      (Char.ofNat (extend (extend (extend lead.bits b) c) d) :: ·) <$>
        decodeFrom (position + 4) rest := by
  rw [decodeFrom, if_neg (by simpa [UInt8.lt_iff_toNat_lt] using not_ascii), found]
  simp [low, high, more, tail, tail']

/-- The six bits of a continuation byte are added at the low end. -/
theorem extend_tail {bits n : Nat} (lt : n < 64) :
    extend bits (UInt8.ofNat (n + 0x80)) = 64 * bits + n := by
  have byte : (UInt8.ofNat (n + 0x80)).toNat = n + 0x80 :=
    UInt8.toNat_ofNat_of_lt (show n + 0x80 < 256 by omega)
  unfold extend
  omega

/-- The number of a character is that of no surrogate, and it is at most 0x10FFFF. -/
theorem toNat_bounds (ch : Char) :
    (ch.toNat < 0xD800 ∨ 0xDFFF < ch.toNat) ∧ ch.toNat < 0x110000 := by
  rcases ch.valid with low | ⟨high, bound⟩
  · exact ⟨Or.inl low, Nat.lt_trans low (by decide)⟩
  · exact ⟨Or.inr high, bound⟩

/-- A character is read from its bytes, whatever follows them. -/
theorem decodeFrom_encodeChar_append (position : Nat) (ch : Char) (rest : List UInt8) :
    ∃ next, decodeFrom position (String.utf8EncodeChar ch ++ rest) =
      (ch :: ·) <$> decodeFrom next rest := by
  obtain ⟨scalar, bound⟩ := toNat_bounds ch
  have back : ∀ n, n = ch.toNat → Char.ofNat n = ch := by
    intro n eq
    rw [eq, Char.ofNat_toNat]
  have byte : ∀ n < 256, (UInt8.ofNat n).toNat = n := fun n lt => UInt8.toNat_ofNat_of_lt lt
  unfold String.utf8EncodeChar
  simp only [show ch.val.toNat = ch.toNat from rfl]
  generalize ch.toNat = v at *
  split
  · have first := byte v (by omega)
    refine ⟨position + 1, (decodeFrom_one position (by omega)).trans ?_⟩
    rw [back _ first]
    rfl
  split
  · have first := byte (v / 64 % 0x20 + 0xc0) (by omega)
    have second := byte (v % 0x40 + 0x80) (by omega)
    have lead := lead_of_two (a := UInt8.ofNat (v / 64 % 0x20 + 0xc0)) (by omega) (by omega)
    refine ⟨position + 2, (decodeFrom_two position (by omega) lead rfl ?_ ?_).trans ?_⟩
    · simp only [UInt8.le_iff_toNat_le, second, UInt8.reduceToNat]
      omega
    · simp only [UInt8.le_iff_toNat_le, second, UInt8.reduceToNat]
      omega
    · have value : 64 * (v / 64 % 0x20) + v % 0x40 = v := by omega
      rw [first, Nat.add_sub_cancel, extend_tail (by omega), back _ value]
      rfl
  split
  · have first := byte (v / 4096 % 0x10 + 0xe0) (by omega)
    have second := byte (v / 64 % 0x40 + 0x80) (by omega)
    have third := byte (v % 0x40 + 0x80) (by omega)
    obtain ⟨lead, found, more, bits, low, high⟩ :=
      lead_of_three (a := UInt8.ofNat (v / 4096 % 0x10 + 0xe0))
        (b := UInt8.ofNat (v / 64 % 0x40 + 0x80))
        (by omega) (by omega) (by omega) (by omega) (by omega) (by omega)
    refine ⟨position + 3, (decodeFrom_three position (by omega) found more low high ?_).trans ?_⟩
    · exact isContinuation_iff.mpr (by omega)
    · have value : 64 * (64 * (v / 4096 % 0x10) + v / 64 % 0x40) + v % 0x40 = v := by omega
      rw [bits, first, Nat.add_sub_cancel, extend_tail (by omega), extend_tail (by omega),
        back _ value]
      rfl
  · have first := byte (v / 262144 % 0x08 + 0xf0) (by omega)
    have second := byte (v / 4096 % 0x40 + 0x80) (by omega)
    have third := byte (v / 64 % 0x40 + 0x80) (by omega)
    have fourth := byte (v % 0x40 + 0x80) (by omega)
    obtain ⟨lead, found, more, bits, low, high⟩ :=
      lead_of_four (a := UInt8.ofNat (v / 262144 % 0x08 + 0xf0))
        (b := UInt8.ofNat (v / 4096 % 0x40 + 0x80))
        (by omega) (by omega) (by omega) (by omega) (by omega) (by omega)
    refine ⟨position + 4, (decodeFrom_four position (by omega) found more low high ?_ ?_).trans ?_⟩
    · exact isContinuation_iff.mpr (by omega)
    · exact isContinuation_iff.mpr (by omega)
    · have value : 64 * (64 * (64 * (v / 262144 % 0x08) + v / 4096 % 0x40) + v / 64 % 0x40) +
          v % 0x40 = v := by omega
      rw [bits, first, Nat.add_sub_cancel, extend_tail (by omega), extend_tail (by omega),
        extend_tail (by omega), back _ value]
      rfl

/-! ## Rows of characters -/

/-- Characters are read from their bytes, whatever follows them. -/
theorem decodeFrom_encode_append (position : Nat) (cs : List Char) (rest : List UInt8) :
    ∃ next, decodeFrom position (encode cs ++ rest) = (cs ++ ·) <$> decodeFrom next rest := by
  induction cs generalizing position with
  | nil =>
    refine ⟨position, ?_⟩
    show decodeFrom position rest = _
    cases decodeFrom position rest <;> rfl
  | cons ch cs ih =>
    rw [encode, List.flatMap_cons, List.append_assoc]
    obtain ⟨next, eq⟩ := decodeFrom_encodeChar_append position ch (encode cs ++ rest)
    obtain ⟨last, others⟩ := ih next
    refine ⟨last, ?_⟩
    rw [← encode, eq, others]
    cases decodeFrom last rest <;> rfl

theorem decodeFrom_encode (position : Nat) (cs : List Char) :
    decodeFrom position (encode cs) = .ok cs := by
  obtain ⟨next, eq⟩ := decodeFrom_encode_append position cs []
  rw [List.append_nil] at eq
  rw [eq]
  show Except.ok (cs ++ []) = _
  rw [List.append_nil]

/-- The bytes of characters are read back as these characters. -/
theorem decode_encode (cs : List Char) : decode (encode cs) = .ok cs :=
  decodeFrom_encode 0 cs

/-! ## Rows of bytes -/

/-- What a leading byte announces, by the number of bytes after the next one. The bounds of the next
byte leave out overlong forms, surrogates and numbers above U+10FFFF. -/
theorem lead_cases {lead : Lead} (found : Lead.of? a = some lead)
    (low : lead.low ≤ b) (high : b ≤ lead.high) :
    (0x80 ≤ b.toNat ∧ b.toNat ≤ 0xBF) ∧
      ((lead.more = 0 ∧ lead.bits = a.toNat - 0xC0 ∧ 0xC2 ≤ a.toNat ∧ a.toNat < 0xE0) ∨
        (lead.more = 1 ∧ lead.bits = a.toNat - 0xE0 ∧ 0xE0 ≤ a.toNat ∧ a.toNat < 0xF0 ∧
          (a.toNat = 0xE0 → 0xA0 ≤ b.toNat) ∧ (a.toNat = 0xED → b.toNat ≤ 0x9F)) ∨
        (lead.more = 2 ∧ lead.bits = a.toNat - 0xF0 ∧ 0xF0 ≤ a.toNat ∧ a.toNat ≤ 0xF4 ∧
          (a.toNat = 0xF0 → 0x90 ≤ b.toNat) ∧ (a.toNat = 0xF4 → b.toNat ≤ 0x8F))) := by
  simp only [Lead.of?, UInt8.lt_iff_toNat_lt, ← UInt8.toNat_inj, UInt8.reduceToNat] at found
  split at found
  · cases found
  split at found
  · cases found
    simp only [UInt8.le_iff_toNat_le, UInt8.reduceToNat] at low high
    exact ⟨⟨low, high⟩, Or.inl ⟨rfl, rfl, by omega, by omega⟩⟩
  iterate 3
    split at found
    · cases found
      simp only [UInt8.le_iff_toNat_le, UInt8.reduceToNat] at low high
      exact ⟨by omega, Or.inr (Or.inl ⟨rfl, rfl, by omega, by omega, by omega, by omega⟩)⟩
  iterate 3
    split at found
    · cases found
      simp only [UInt8.le_iff_toNat_le, UInt8.reduceToNat] at low high
      exact ⟨by omega, Or.inr (Or.inr ⟨rfl, rfl, by omega, by omega, by omega, by omega⟩)⟩
  cases found

/-- The number of a character that was made from a number. -/
theorem toNat_ofNat {v : Nat} (valid : v < 0xD800 ∨ 0xDFFF < v ∧ v < 0x110000) :
    (Char.ofNat v).val.toNat = v := by
  rw [Char.ofNat, dif_pos valid]
  rfl

/-- A byte made from the number of a byte. -/
theorem ofNat_eq_of_toNat_eq {v : Nat} (eq : a.toNat = v) : UInt8.ofNat v = a := by
  rw [← eq, UInt8.ofNat_toNat]

theorem encodeChar_one (ascii : a.toNat < 0x80) :
    String.utf8EncodeChar (Char.ofNat a.toNat) = [a] := by
  unfold String.utf8EncodeChar
  simp only [toNat_ofNat (v := a.toNat) (by omega)]
  rw [if_pos (by omega), ofNat_eq_of_toNat_eq rfl]

theorem encodeChar_two {bits : Nat} (bits_eq : bits = a.toNat - 0xC0) (low : 0xC2 ≤ a.toNat)
    (high : a.toNat < 0xE0) (tail : 0x80 ≤ b.toNat ∧ b.toNat ≤ 0xBF) :
    String.utf8EncodeChar (Char.ofNat (extend bits b)) = [a, b] := by
  have value : extend bits b = 64 * (a.toNat - 0xC0) + (b.toNat - 0x80) := by
    unfold extend
    rw [bits_eq]
  generalize extend bits b = v at value
  unfold String.utf8EncodeChar
  simp only [toNat_ofNat (v := v) (by omega)]
  have first : UInt8.ofNat (v / 64 % 32 + 192) = a := ofNat_eq_of_toNat_eq (by omega)
  have second : UInt8.ofNat (v % 64 + 128) = b := ofNat_eq_of_toNat_eq (by omega)
  rw [if_neg (by omega), if_pos (by omega), first, second]

theorem encodeChar_three {bits : Nat} (bits_eq : bits = a.toNat - 0xE0) (low : 0xE0 ≤ a.toNat)
    (high : a.toNat < 0xF0) (tail : 0x80 ≤ b.toNat ∧ b.toNat ≤ 0xBF)
    (shortest : a.toNat = 0xE0 → 0xA0 ≤ b.toNat) (scalar : a.toNat = 0xED → b.toNat ≤ 0x9F)
    (tail' : 0x80 ≤ c.toNat ∧ c.toNat ≤ 0xBF) :
    String.utf8EncodeChar (Char.ofNat (extend (extend bits b) c)) = [a, b, c] := by
  have value : extend (extend bits b) c =
      64 * (64 * (a.toNat - 0xE0) + (b.toNat - 0x80)) + (c.toNat - 0x80) := by
    unfold extend
    rw [bits_eq]
  generalize extend (extend bits b) c = v at value
  unfold String.utf8EncodeChar
  simp only [toNat_ofNat (v := v) (by omega)]
  have first : UInt8.ofNat (v / 4096 % 16 + 224) = a := ofNat_eq_of_toNat_eq (by omega)
  have second : UInt8.ofNat (v / 64 % 64 + 128) = b := ofNat_eq_of_toNat_eq (by omega)
  have third : UInt8.ofNat (v % 64 + 128) = c := ofNat_eq_of_toNat_eq (by omega)
  rw [if_neg (by omega), if_neg (by omega), if_pos (by omega), first, second, third]

theorem encodeChar_four {bits : Nat} (bits_eq : bits = a.toNat - 0xF0) (low : 0xF0 ≤ a.toNat)
    (high : a.toNat ≤ 0xF4) (tail : 0x80 ≤ b.toNat ∧ b.toNat ≤ 0xBF)
    (shortest : a.toNat = 0xF0 → 0x90 ≤ b.toNat) (bounded : a.toNat = 0xF4 → b.toNat ≤ 0x8F)
    (tail' : 0x80 ≤ c.toNat ∧ c.toNat ≤ 0xBF) (tail'' : 0x80 ≤ d.toNat ∧ d.toNat ≤ 0xBF) :
    String.utf8EncodeChar (Char.ofNat (extend (extend (extend bits b) c) d)) = [a, b, c, d] := by
  have value : extend (extend (extend bits b) c) d =
      64 * (64 * (64 * (a.toNat - 0xF0) + (b.toNat - 0x80)) + (c.toNat - 0x80)) +
        (d.toNat - 0x80) := by
    unfold extend
    rw [bits_eq]
  generalize extend (extend (extend bits b) c) d = v at value
  unfold String.utf8EncodeChar
  simp only [toNat_ofNat (v := v) (by omega)]
  have first : UInt8.ofNat (v / 262144 % 8 + 240) = a := ofNat_eq_of_toNat_eq (by omega)
  have second : UInt8.ofNat (v / 4096 % 64 + 128) = b := ofNat_eq_of_toNat_eq (by omega)
  have third : UInt8.ofNat (v / 64 % 64 + 128) = c := ofNat_eq_of_toNat_eq (by omega)
  have fourth : UInt8.ofNat (v % 64 + 128) = d := ofNat_eq_of_toNat_eq (by omega)
  rw [if_neg (by omega), if_neg (by omega), if_neg (by omega), first, second, third, fourth]

/-- The rest of the bytes of which the first ones are those of a character. -/
theorem encode_of_map_cons {ch : Char} {front rest : List UInt8} {cs : List Char}
    {decoded : Except Malformed (List Char)} (own : String.utf8EncodeChar ch = front)
    (others : ∀ cs, decoded = .ok cs → encode cs = rest)
    (found : (ch :: ·) <$> decoded = .ok cs) : encode cs = front ++ rest := by
  cases decoded with
  | error malformed => cases found
  | ok tail =>
    cases found
    rw [encode, List.flatMap_cons, own, ← encode, others tail rfl]

/-- Bytes that are read as characters are the bytes of these characters. -/
theorem encode_of_decodeFrom {position : Nat} {bytes : List UInt8} {cs : List Char}
    (found : decodeFrom position bytes = .ok cs) : encode cs = bytes := by
  fun_induction decodeFrom position bytes generalizing cs with
  | case1 =>
    cases found
    rfl
  | case2 position a rest ascii ih =>
    have small : a.toNat < 0x80 := by simpa [UInt8.lt_iff_toNat_lt] using ascii
    exact encode_of_map_cons (encodeChar_one small) (fun _ => ih) found
  | case3 | case4 | case5 | case7 | case8 | case10 | case11 => cases found
  | case6 position a not_ascii lead lead_eq b rest bounds more ih =>
    obtain ⟨low, high⟩ := Decidable.not_not.mp bounds
    obtain ⟨tail, ⟨-, bits, low_a, high_a⟩ | ⟨other, -⟩ | ⟨other, -⟩⟩ :=
      lead_cases lead_eq low high
    · exact encode_of_map_cons (encodeChar_two bits low_a high_a tail) (fun _ => ih) found
    · omega
    · omega
  | case9 position a not_ascii lead lead_eq b bounds zero c rest continues more ih =>
    obtain ⟨low, high⟩ := Decidable.not_not.mp bounds
    have tail' := isContinuation_iff.mp (Decidable.not_not.mp continues)
    obtain ⟨tail, ⟨other, -⟩ | ⟨-, bits, low_a, high_a, shortest, scalar⟩ | ⟨other, -⟩⟩ :=
      lead_cases lead_eq low high
    · omega
    · exact encode_of_map_cons (encodeChar_three bits low_a high_a tail shortest scalar tail')
        (fun _ => ih) found
    · omega
  | case12 position a not_ascii lead lead_eq b bounds zero c continues one d rest continues' ih =>
    obtain ⟨low, high⟩ := Decidable.not_not.mp bounds
    have tail' := isContinuation_iff.mp (Decidable.not_not.mp continues)
    have tail'' := isContinuation_iff.mp (Decidable.not_not.mp continues')
    obtain ⟨tail, ⟨other, -⟩ | ⟨other, -⟩ | ⟨-, bits, low_a, high_a, shortest, bounded⟩⟩ :=
      lead_cases lead_eq low high
    · omega
    · omega
    · exact encode_of_map_cons
        (encodeChar_four bits low_a high_a tail shortest bounded tail' tail'')
        (fun _ => ih) found

/-- Bytes are read as some characters exactly if they are the bytes of these characters. So reading
is strict: whatever no character is written as is refused. -/
theorem decode_eq_ok_iff {bytes : List UInt8} {cs : List Char} :
    decode bytes = .ok cs ↔ bytes = encode cs := by
  constructor
  · intro found
    exact (encode_of_decodeFrom found).symm
  · rintro rfl
    exact decode_encode cs

theorem exists_malformed_iff {bytes : List UInt8} :
    (∃ malformed, decode bytes = .error malformed) ↔ ∀ cs, bytes ≠ encode cs := by
  constructor
  · rintro ⟨malformed, refused⟩ cs same
    rw [decode_eq_ok_iff.mpr same] at refused
    cases refused
  · intro noText
    cases found : decode bytes with
    | ok cs => exact absurd (decode_eq_ok_iff.mp found) (noText cs)
    | error malformed => exact ⟨malformed, rfl⟩

/-! ## Texts -/

theorem firstRefused?_eq_none {isAccepted : CodePoint → Bool} {t : Text} {position : Nat}
    (accepted : ∀ p ∈ t, isAccepted p) : firstRefused? isAccepted position t = none := by
  induction t generalizing position with
  | nil => rfl
  | cons p rest ih =>
    rw [firstRefused?, if_pos (accepted p (by simp))]
    exact ih fun q mem => accepted q (by simp [mem])

theorem isSome_char?_of_mem_map_scalar {cs : List Char} {p : CodePoint}
    (mem : p ∈ cs.map CodePoint.scalar) : p.char?.isSome := by
  obtain ⟨c, -, rfl⟩ := List.mem_map.mp mem
  rfl

/-- A text of characters is written as their bytes. -/
theorem encodeText_map_scalar (cs : List Char) :
    encodeText (cs.map .scalar) = .ok (encode cs) := by
  have accepted : ∀ p ∈ cs.map CodePoint.scalar, p.char?.isSome :=
    fun _ => isSome_char?_of_mem_map_scalar
  have chars : (cs.map CodePoint.scalar).filterMap CodePoint.char? = cs := by
    rw [List.filterMap_map]
    exact List.filterMap_some
  rw [encodeText, firstRefused?_eq_none accepted, chars]

end TableDdl.Utf8
