import TableDdl.Json.Reader
import TableDdl.Proofs.Json.Written

/-!
# Values read back from their texts

The machine that reads tokens goes from a value being needed to that value being complete on exactly
the tokens of the value, inside of any arrays and objects. With the cutting of a written value into
its tokens this gives `read_write`: a value without fractions is read back from its text.
-/

namespace TableDdl.Json

/-! ## Runs of the machine -/

/-- `Reaches s ls s'`: on tokens with the contents `ls` the machine goes from `s` to `s'`. -/
def Reaches (s : State) (ls : List Lexeme) (s' : State) : Prop :=
  ∀ ts : List Token, ts.map Token.lexeme = ls → ts.foldlM State.step s = .ok s'

namespace Reaches

variable {s s₁ s₂ : State} {l : Lexeme} {ls ls' : List Lexeme}

theorem refl (s : State) : Reaches s [] s := by
  intro ts eq
  rw [List.map_eq_nil_iff.mp eq]
  rfl

theorem cons (step : ∀ rest, s.step ⟨l, rest⟩ = .ok s₁) (reaches : Reaches s₁ ls s₂) :
    Reaches s (l :: ls) s₂ := by
  intro ts eq
  obtain ⟨⟨lexeme, rest⟩, tail, rfl, same, tail_eq⟩ := List.map_eq_cons_iff.mp eq
  cases same
  rw [List.foldlM_cons, step rest]
  exact reaches tail tail_eq

theorem append (front : Reaches s ls s₁) (back : Reaches s₁ ls' s₂) : Reaches s (ls ++ ls') s₂ := by
  intro ts eq
  obtain ⟨ts₁, ts₂, rfl, eq₁, eq₂⟩ := List.map_eq_append_iff.mp eq
  rw [List.foldlM_append, front ts₁ eq₁]
  exact back ts₂ eq₂

/-- What a state reads first is all that a run depends on it for. -/
theorem of_step_eq (same : ∀ rest, s.step ⟨l, rest⟩ = s₁.step ⟨l, rest⟩)
    (reaches : Reaches s₁ (l :: ls) s₂) : Reaches s (l :: ls) s₂ := by
  intro ts eq
  obtain ⟨⟨lexeme, rest⟩, tail, rfl, lexeme_eq, -⟩ := List.map_eq_cons_iff.mp eq
  cases lexeme_eq
  rw [← reaches _ eq, List.foldlM_cons, List.foldlM_cons, same rest]

end Reaches

/-! ## Values -/

/-- `IsTaken v`: where a value is needed, the tokens of `v` complete the value `v`. -/
def IsTaken (v : Json) : Prop :=
  ∀ frames, Reaches (.needValue frames) (lexemes v) (.complete v frames)

/-- The items of an array are taken up to its end, after those that were taken before. -/
theorem reaches_items {item : Json} {items : List Json} (taken : ∀ v ∈ item :: items, IsTaken v)
    (done : List Json) (frames : List Frame) :
    Reaches (.needValue (.array done :: frames)) (itemLexemes (item :: items) ++ [.closeArray])
      (.complete (.array (done.reverse ++ item :: items)) frames) := by
  induction items generalizing item done with
  | nil =>
    have first := taken item List.mem_cons_self (.array done :: frames)
    rw [itemLexemes]
    refine first.append (.cons (fun _ => rfl) ?_)
    rw [List.reverse_cons]
    exact .refl _
  | cons next items ih =>
    have first := taken item List.mem_cons_self (.array done :: frames)
    have others := ih (fun v mem => taken v (List.mem_cons_of_mem _ mem)) (item :: done)
    rw [itemLexemes, List.append_assoc, List.cons_append]
    refine first.append (.cons (fun _ => rfl) ?_)
    rw [List.reverse_cons, List.append_assoc] at others
    exact others

theorem notMem_keys_of_nodup {done members : Members} {key : Text} {v : Json}
    (distinct : (Members.keys (done ++ (key, v) :: members)).Nodup) : key ∉ done.keys := by
  rw [Members.keys, List.map_append] at distinct
  intro mem
  exact (List.nodup_append.mp distinct).2.2 key mem key List.mem_cons_self rfl

/-- The members of an object are taken up to its end, after those that were taken before, if all
keys are distinct. -/
theorem reaches_members {member : Text × Json} {members : Members}
    (taken : ∀ m ∈ member :: members, IsTaken m.2) (done : Members)
    (distinct : (Members.keys (done ++ member :: members)).Nodup) (frames : List Frame) :
    Reaches (.needKey done frames) (memberLexemes (member :: members) ++ [.closeObject])
      (.complete (.object (done ++ member :: members)) frames) := by
  induction members generalizing member done with
  | nil =>
    obtain ⟨key, v⟩ := member
    have first := taken (key, v) List.mem_cons_self (.object done key :: frames)
    have new := notMem_keys_of_nodup distinct
    rw [memberLexemes, List.cons_append, List.cons_append]
    refine .cons (fun _ => rfl) (.cons (fun _ => rfl) (first.append (.cons (fun _ => rfl) ?_)))
    rw [Members.put_of_notMem new]
    exact .refl _
  | cons next members ih =>
    obtain ⟨key, v⟩ := member
    have first := taken (key, v) List.mem_cons_self (.object done key :: frames)
    have new := notMem_keys_of_nodup distinct
    have others := ih (fun m mem => taken m (List.mem_cons_of_mem _ mem)) (done ++ [(key, v)])
      (by simpa using distinct)
    rw [memberLexemes, List.cons_append, List.cons_append, List.append_assoc, List.cons_append]
    refine .cons (fun _ => rfl) (.cons (fun _ => rfl) (first.append (.cons (fun _ => rfl) ?_)))
    rw [Members.put_of_notMem new]
    rw [List.append_assoc] at others
    exact others

/-- The tokens of a value do not begin with the end of an array. -/
theorem lexemes_eq_cons (v : Json) : ∃ l ls, lexemes v = l :: ls ∧ l ≠ .closeArray := by
  cases v with
  | null | bool | int | real => exact ⟨_, [], rfl, nofun⟩
  | text t => exact ⟨.text t, [], rfl, nofun⟩
  | array items => exact ⟨.openArray, _, rfl, nofun⟩
  | object members => exact ⟨.openObject, _, rfl, nofun⟩

theorem itemLexemes_eq_cons (item : Json) (items : List Json) :
    ∃ l ls, itemLexemes (item :: items) = l :: ls ∧ l ≠ .closeArray := by
  obtain ⟨l, ls, eq, noEnd⟩ := lexemes_eq_cons item
  cases items with
  | nil => exact ⟨l, ls, by rw [itemLexemes, eq], noEnd⟩
  | cons next items => exact ⟨l, _, by rw [itemLexemes, eq, List.cons_append], noEnd⟩

theorem reaches_array {items : List Json} (taken : ∀ v ∈ items, IsTaken v) :
    IsTaken (.array items) := by
  intro frames
  rw [lexemes]
  refine .cons (fun _ => rfl) ?_
  cases items with
  | nil => exact .cons (fun _ => rfl) (.refl _)
  | cons item items =>
    have reaches := reaches_items taken [] frames
    obtain ⟨l, ls, eq, noEnd⟩ := itemLexemes_eq_cons item items
    rw [eq, List.cons_append] at reaches ⊢
    -- What does not end the array is its first item.
    refine .of_step_eq (fun _ => ?_) reaches
    cases l with
    | closeArray => exact absurd rfl noEnd
    | openArray | openObject | closeObject | colon | comma | atom | text | longInteger | flawed
      | unknown => rfl

theorem reaches_object {members : Members} (taken : ∀ m ∈ members, IsTaken m.2)
    (distinct : members.keys.Nodup) : IsTaken (.object members) := by
  intro frames
  rw [lexemes]
  refine .cons (fun _ => rfl) ?_
  cases members with
  | nil => exact .cons (fun _ => rfl) (.refl _)
  | cons member members =>
    obtain ⟨key, v⟩ := member
    have reaches := reaches_members taken [] distinct frames
    rw [List.nil_append] at reaches
    cases members with
    | nil =>
      rw [memberLexemes, List.cons_append] at reaches ⊢
      refine .of_step_eq ?_ reaches
      exact fun _ => rfl
    | cons next members =>
      rw [memberLexemes, List.cons_append] at reaches ⊢
      refine .of_step_eq ?_ reaches
      exact fun _ => rfl

/-- The tokens of a value with distinct keys complete this value. -/
theorem isTaken_of_isRegular {texts : Text → Prop} {reals : Binary64 → Prop} {v : Json}
    (regular : IsRegular texts reals v) : IsTaken v := by
  induction regular with
  | null => exact fun frames => .cons (fun _ => rfl) (.refl _)
  | bool value => exact fun frames => .cons (fun _ => rfl) (.refl _)
  | int few => exact fun frames => .cons (fun _ => rfl) (.refl _)
  | real allowed => exact fun frames => .cons (fun _ => rfl) (.refl _)
  | text allowed => exact fun frames => .cons (fun _ => rfl) (.refl _)
  | array all ih => exact reaches_array ih
  | object distinct names values ih => exact reaches_object ih distinct

/-! ## Written values are in ASCII -/

/-- The test for an ASCII character. -/
def IsAscii (p : CodePoint) : Prop :=
  p.value < 0x80

instance (p : CodePoint) : Decidable (IsAscii p) :=
  inferInstanceAs (Decidable (p.value < 0x80))

theorem isAscii_ofInt {n : Int} {p : CodePoint} (mem : p ∈ Text.ofInt n) : IsAscii p := by
  have written := Text.isSignOrDigit_of_mem_ofInt mem
  cases p with
  | surrogate offset => cases written
  | scalar c =>
    simp only [Text.isSignOrDigit, CodePoint.isDigit, CodePoint.scalar.injEq, Bool.or_eq_true,
      decide_eq_true_eq] at written
    rcases written with rfl | digit
    · decide
    · exact Nat.lt_of_le_of_lt (Char.isDigit_iff_toNat.mp digit).2 (by decide)

theorem isAscii_hexPoint : ∀ d < 16, IsAscii (hexPoint d) := by
  decide

theorem isAscii_unitEscape {n : Nat} (lt : n < 0x10000) {p : CodePoint} (mem : p ∈ unitEscape n) :
    IsAscii p := by
  rw [unitEscape, hex_four lt] at mem
  rcases List.mem_append.mp mem with start | digit
  · exact (by decide : ∀ q ∈ Text.ofString "\\u", IsAscii q) p start
  · simp only [List.mem_cons, List.not_mem_nil, or_false] at digit
    rcases digit with rfl | rfl | rfl | rfl
    all_goals exact isAscii_hexPoint _ (by omega)

theorem isAscii_escapePoint {p q : CodePoint} (mem : q ∈ escapePoint p) : IsAscii q := by
  unfold escapePoint at mem
  split at mem
  iterate 7 (revert q; decide)
  split at mem
  · rename_i visible
    rw [List.mem_singleton.mp mem]
    exact Nat.lt_trans visible.2 (by decide)
  · split at mem
    · rename_i low
      exact isAscii_unitEscape low mem
    · have bound := value_lt p
      rcases List.mem_append.mp mem with high | low
      · exact isAscii_unitEscape (by omega) high
      · exact isAscii_unitEscape (by omega) low

theorem isAscii_quote {t : Text} {p : CodePoint} (mem : p ∈ quote t) : IsAscii p := by
  rcases List.mem_append.mp mem with opened | close
  · rcases List.mem_append.mp opened with start | inside
    · rw [List.mem_singleton.mp start]
      decide
    · obtain ⟨q, -, mem⟩ := List.mem_flatMap.mp inside
      exact isAscii_escapePoint mem
  · rw [List.mem_singleton.mp close]
    decide

theorem mem_join {separator : Text} {parts : List Text} {p : CodePoint}
    (mem : p ∈ Text.join separator parts) : p ∈ separator ∨ ∃ part ∈ parts, p ∈ part := by
  induction parts with
  | nil => cases mem
  | cons part parts ih =>
    cases parts with
    | nil =>
      rw [Text.join, List.intercalate_singleton] at mem
      exact Or.inr ⟨part, List.mem_cons_self, mem⟩
    | cons next parts =>
      rw [Text.join, List.intercalate_cons_cons, ← Text.join] at mem
      rcases List.mem_append.mp mem with front | others
      · rcases List.mem_append.mp front with first | between
        · exact Or.inr ⟨part, List.mem_cons_self, first⟩
        · exact Or.inl between
      · rcases ih others with between | inside
        · exact Or.inl between
        · obtain ⟨other, other_mem, mem⟩ := inside
          exact Or.inr ⟨other, List.mem_cons_of_mem _ other_mem, mem⟩

theorem printItems_eq_map (items : List Json) :
    printItems .document items = items.map write := by
  induction items with
  | nil => rw [printItems, List.map_nil]
  | cons item items ih => rw [printItems, ih, List.map_cons, write]

theorem printMembers_eq_map (members : Members) :
    printMembers .document members = members.map fun (key, v) => writeMember key v := by
  induction members with
  | nil => rw [printMembers, List.map_nil]
  | cons member members ih =>
    rw [printMembers, ih, List.map_cons]
    rfl

/-- What stands between two brackets is in ASCII if its parts are. -/
theorem isAscii_enclosed (opening closing : CodePoint)
    (ascii : IsAscii opening ∧ IsAscii closing) {parts : List Text}
    (inside : ∀ part ∈ parts, ∀ p ∈ part, IsAscii p) {p : CodePoint}
    (mem : p ∈ [opening] ++ Text.join ", " parts ++ [closing]) : IsAscii p := by
  rcases List.mem_append.mp mem with front | close
  · rcases List.mem_append.mp front with start | joined
    · rw [List.mem_singleton.mp start]
      exact ascii.1
    · rcases mem_join joined with separator | ⟨part, part_mem, mem⟩
      · exact (by decide : ∀ q ∈ Text.ofString ", ", IsAscii q) p separator
      · exact inside part part_mem p mem
  · rw [List.mem_singleton.mp close]
    exact ascii.2

theorem isAscii_writeMember {key : Text} {v : Json} (value : ∀ p ∈ write v, IsAscii p)
    {p : CodePoint} (mem : p ∈ writeMember key v) : IsAscii p := by
  rcases List.mem_append.mp mem with front | mem
  · rcases List.mem_append.mp front with mem | separator
    · exact isAscii_quote mem
    · exact (by decide : ∀ q ∈ Text.ofString ": ", IsAscii q) p separator
  · exact value p mem

/-- The text of a value without fractions is in ASCII, whatever its texts hold. -/
theorem isAscii_write {texts : Text → Prop} {v : Json}
    (regular : IsRegular texts (fun _ => False) v) : ∀ p ∈ write v, IsAscii p := by
  induction regular with
  | null => decide
  | bool value => cases value <;> decide
  | int few => exact fun p => isAscii_ofInt
  | real allowed => exact allowed.elim
  | text allowed => exact fun p => isAscii_quote
  | @array items _ ih =>
    intro p mem
    have inside : p ∈ [.scalar '['] ++ Text.join ", " (items.map write) ++ [.scalar ']'] := by
      rw [← printItems_eq_map]
      exact mem
    refine isAscii_enclosed _ _ (by decide) ?_ inside
    intro part part_mem
    obtain ⟨item, item_mem, rfl⟩ := List.mem_map.mp part_mem
    exact ih item item_mem
  | @object members _ _ _ ih =>
    intro p mem
    have inside : p ∈ [.scalar '\x7b'] ++
        Text.join ", " (members.map fun (key, v) => writeMember key v) ++ [.scalar '\x7d'] := by
      rw [← printMembers_eq_map]
      exact mem
    refine isAscii_enclosed _ _ (by decide) ?_ inside
    intro part part_mem
    obtain ⟨⟨key, v⟩, member_mem, rfl⟩ := List.mem_map.mp part_mem
    exact fun q => isAscii_writeMember (ih (key, v) member_mem)

theorem exists_chars_of_isAscii {t : Text} (ascii : ∀ p ∈ t, IsAscii p) :
    ∃ cs : List Char, t = cs.map .scalar := by
  induction t with
  | nil => exact ⟨[], rfl⟩
  | cons p t ih =>
    obtain ⟨cs, rfl⟩ := ih fun q mem => ascii q (List.mem_cons_of_mem _ mem)
    cases p with
    | scalar c => exact ⟨c :: cs, rfl⟩
    | surrogate offset =>
      have bound := ascii _ List.mem_cons_self
      simp only [IsAscii, CodePoint.value, CodePoint.surrogateBase] at bound
      omega

/-! ## The round trip -/

/-- A value without fractions whose texts are joined is read back from its text. -/
theorem read_write {v : Json} (regular : IsRegular IsJoined (fun _ => False) v) :
    read (write v) = .ok v := by
  have cut : lexemesOf (write v) = lexemes v := by
    have cut := lexemesOf_write regular [] nofun
    rwa [List.append_nil, lexemesOf_nil, List.append_nil] at cut
  have run : State.run (.needValue []) (tokens (write v)) = .ok v := by
    rw [State.run, isTaken_of_isRegular regular [] (tokens (write v)) cut]
    rfl
  unfold read
  split
  · rename_i rest eq
    have mark : .scalar '\ufeff' ∈ write v := by
      rw [eq]
      exact List.mem_cons_self
    have ascii : IsAscii (.scalar '\ufeff') := isAscii_write regular _ mark
    exact absurd ascii (by decide)
  · rw [run]
    rfl

end TableDdl.Json
