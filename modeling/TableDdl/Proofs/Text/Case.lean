import TableDdl.Proofs.Json.Quotation
import TableDdl.Text.Case

/-!
# Small letters of ASCII words

Two functions give a text small letters: `Text.toSmall` knows the capitals of all scripts, and
`Text.toLower` those of ASCII and the Kelvin sign. A text that becomes a word in ASCII under one of
them becomes the same word under the other (`toSmall_eq_iff`): no other capital has a small letter
in ASCII alone.
-/

namespace TableDdl

open Json

namespace CodePoint

variable {p : CodePoint}

/-- What holds of the 128 code points of ASCII one by one holds of every code point of ASCII. -/
theorem forall_ascii {motive : CodePoint → Prop}
    (each : ∀ n < 0x80, motive (.scalar (Char.ofNat n))) (ascii : p.value < 0x80) : motive p := by
  cases p with
  | surrogate offset =>
    simp only [value, surrogateBase] at ascii
    omega
  | scalar c =>
    have holds := each c.toNat ascii
    rwa [Char.ofNat_toNat] at holds

theorem toLower_of_noCapital {c : Char} (outside : c.toNat < 65 ∨ 90 < c.toNat) :
    (CodePoint.scalar c).toLower = .scalar c := by
  have noCapital : ¬ (c.val ≥ 'A'.val ∧ c.val ≤ 'Z'.val) := by
    intro capital
    have range : 65 ≤ c.toNat ∧ c.toNat ≤ 90 := by
      simpa [UInt32.le_iff_toNat_le] using capital
    omega
  have same : c.toLower = c := dif_neg noCapital
  rw [CodePoint.toLower, same]

theorem toLower_of_le (beyond : 0x80 ≤ p.value) : p.toLower = p := by
  cases p with
  | surrogate offset => rfl
  | scalar c =>
    rw [value] at beyond
    exact toLower_of_noCapital (by omega)

/-- The small letter of a code point of ASCII. -/
theorem small_of_lt (ascii : p.value < 0x80) : p.small = [p.toLower] := by
  apply forall_ascii (motive := fun p => p.small = [p.toLower]) _ ascii
  decide +kernel

theorem small_kelvin : small (.scalar '\u212a') = [.scalar 'k'] := by
  decide +kernel

/-- The small letters of the rows beyond ASCII lie beyond ASCII too, the Kelvin sign apart. -/
theorem small_of_mem_capitalRows : ∀ row ∈ capitalRows,
    row.last < 0x80 ∨ (row.first = 0x212A ∧ row.last = 0x212A) ∨
      0x80 ≤ row.small ∧ row.small + (row.last - row.first) < 0x110000 := by
  decide +kernel

theorem exists_ofValue? {n : Nat} (lt : n < 0x110000) : ∃ q, ofValue? n = some q := by
  by_cases valid : n.isValidChar
  · exact ⟨_, dif_pos valid⟩
  · have surrogate : n - surrogateBase < 2048 := by
      simp only [Nat.isValidChar, surrogateBase] at valid ⊢
      omega
    rw [ofValue?, dif_neg valid, dif_pos surrogate]
    exact ⟨_, rfl⟩

/-- Beyond ASCII the Kelvin sign alone has a small letter in ASCII alone. -/
theorem exists_mem_small (beyond : 0x80 ≤ p.value) (other : p ≠ .scalar '\u212a') :
    ∃ q ∈ p.small, 0x80 ≤ q.value := by
  unfold small
  split
  · exact ⟨.scalar '\u0307', by simp, by decide⟩
  · split
    · rename_i row found
      have inRow := List.find?_some found
      simp only [CapitalRow.contains, Bool.and_eq_true, decide_eq_true_eq] at inRow
      obtain ⟨⟨first, last⟩, -⟩ := inRow
      rcases small_of_mem_capitalRows row (List.mem_of_find?_eq_some found) with
        inAscii | kelvin | beyondAscii
      · omega
      · have number : p.value = (CodePoint.scalar '\u212a').value := by
          show p.value = 0x212A
          omega
        have same := congrArg ofValue? number
        rw [ofValue?_value, ofValue?_value, Option.some.injEq] at same
        exact absurd same other
      · have lt : row.smallOf p.value < 0x110000 := by
          rw [CapitalRow.smallOf]
          omega
        obtain ⟨q, isSmall⟩ := exists_ofValue? lt
        refine ⟨q, by simp [isSmall], ?_⟩
        rw [value_of_ofValue? isSmall, CapitalRow.smallOf]
        omega
    · exact ⟨p, List.mem_singleton_self p, beyond⟩

end CodePoint

namespace Text

theorem toLower_cons (p : CodePoint) (t : Text) :
    toLower (p :: t) = (if p = .scalar '\u212a' then .scalar 'k' else p.toLower) :: toLower t := rfl

theorem toSmall_cons (p : CodePoint) (t : Text) : toSmall (p :: t) = p.small ++ toSmall t := rfl

/-- A text has a word of ASCII for its small letters exactly if it has this word in lower case. -/
theorem toSmall_eq_iff {t word : Text} (ascii : ∀ p ∈ word, p.value < 0x80) :
    t.toSmall = word ↔ t.toLower = word := by
  induction t generalizing word with
  | nil => rfl
  | cons p t ih =>
    rw [toLower_cons, toSmall_cons]
    by_cases beyond : 0x80 ≤ p.value ∧ p ≠ .scalar '\u212a'
    · -- Neither of the two can be the word, which is all in ASCII.
      constructor
      · rintro rfl
        obtain ⟨q, mem, above⟩ := CodePoint.exists_mem_small beyond.1 beyond.2
        have below := ascii q (List.mem_append_left _ mem)
        omega
      · rw [if_neg beyond.2, CodePoint.toLower_of_le beyond.1]
        rintro rfl
        have below := ascii p List.mem_cons_self
        omega
    · have single : p.small = [if p = .scalar '\u212a' then .scalar 'k' else p.toLower] := by
        split
        · rename_i kelvin
          rw [kelvin, CodePoint.small_kelvin]
        · rename_i other
          have below : p.value < 0x80 := by
            by_contra above
            exact beyond ⟨Nat.le_of_not_lt above, other⟩
          exact CodePoint.small_of_lt below
      rw [single, List.singleton_append]
      cases word with
      | nil => simp
      | cons q word =>
        rw [List.cons.injEq, List.cons.injEq, ih fun r mem => ascii r (List.mem_cons_of_mem _ mem)]

end Text

end TableDdl
