import Mathlib.Data.List.TakeWhile
import Mathlib.Tactic.Conv
import TableDdl.Proofs.Platform.Markup

/-!
# Escaped texts

A text that was escaped is shown whatever is in it: no tag of it is applied. The tags that the
reading finds in an escaped text are those of the text itself, now after an odd number of
backslashes, because escaping adds backslashes before tags only: it turns nothing else into a tag
and no tag into something else. A line that reports a failure can therefore always be shown
(`render_errorLine`).
-/

namespace TableDdl.Markup

open Outcome

variable {t tail rest after body : Text} {p : CodePoint} {n k : Nat}

/-! ## Tags in a text -/

/-- The test for a bracket. -/
def isBracket (p : CodePoint) : Bool :=
  p = .scalar '[' || p = .scalar ']'

theorem readTag?_eq (start : startsTag p) (rest : Text) :
    readTag? (.scalar '[' :: p :: rest) =
      match rest.dropWhile (!isBracket ·) with
      | .scalar ']' :: after => some (p :: rest.takeWhile (!isBracket ·), after)
      | _ => none := by
  have test : (fun q : CodePoint => q ≠ .scalar '[' && q ≠ .scalar ']') = (!isBracket ·) := by
    funext q
    simp [isBracket]
  have whole := List.takeWhile_append_dropWhile (p := (!isBracket ·)) (l := rest)
  have behind : rest.drop (rest.takeWhile (!isBracket ·)).length =
      rest.dropWhile (!isBracket ·) := by
    conv_lhs => arg 2; rw [← whole]
    exact List.drop_left
  simp only [readTag?, start, if_true, test]
  exact congrArg (fun found : List CodePoint => match found with
    | .scalar ']' :: after => some (p :: rest.takeWhile (!isBracket ·), after)
    | _ => none) behind

theorem tagText_append (p : CodePoint) (inner after : Text) :
    tagText (p :: inner) ++ after = .scalar '[' :: p :: (inner ++ .scalar ']' :: after) := by
  simp only [tagText, List.append_assoc, List.cons_append]
  rfl

/-- A tag stands in brackets: a point that starts a tag, and more up to the closing bracket, which
is the next bracket of the text. -/
theorem readTag?_eq_some_iff :
    readTag? t = some (body, after) ↔ ∃ p inner, body = p :: inner ∧ startsTag p ∧
      (∀ q ∈ inner, isBracket q = false) ∧ t = tagText body ++ after := by
  constructor
  · intro read
    have opened : ∃ p rest, t = .scalar '[' :: p :: rest ∧ startsTag p := by
      unfold readTag? at read
      split at read
      · split at read
        · exact ⟨_, _, rfl, ‹_›⟩
        · cases read
      · cases read
    obtain ⟨p, rest, rfl, start⟩ := opened
    rw [readTag?_eq start] at read
    split at read
    · rename_i closed
      cases read
      refine ⟨p, _, rfl, start, fun q mem => ?_, ?_⟩
      · simpa using List.mem_takeWhile_imp mem
      · rw [tagText_append, ← closed, List.takeWhile_append_dropWhile]
    · cases read
  · rintro ⟨p, inner, rfl, start, free, rfl⟩
    have inside : ∀ q ∈ inner, (!isBracket q) = true := fun q mem => by rw [free q mem]; rfl
    rw [tagText_append, readTag?_eq start, List.takeWhile_append_of_pos inside,
      List.dropWhile_append_of_pos inside, List.takeWhile_cons_of_neg (by decide),
      List.dropWhile_cons_of_neg (by decide), List.append_nil]
    rfl

/-- What was read as a tag is read as one whatever follows it. -/
theorem readTag?_tagText (read : readTag? t = some (body, after)) (more : Text) :
    readTag? (tagText body ++ more) = some (body, more) := by
  obtain ⟨p, inner, shape, start, free, -⟩ := readTag?_eq_some_iff.mp read
  exact readTag?_eq_some_iff.mpr ⟨p, inner, shape, start, free, rfl⟩

/-- Whether there is a tag is told by the point after an opening bracket and by the bracket after
it. -/
theorem readTag?_ne_none_iff :
    readTag? t ≠ none ↔ ∃ q rest, t = bracket :: q :: rest ∧ startsTag q ∧
      rest.find? isBracket = some (.scalar ']') := by
  simp only [ne_eq, Option.ne_none_iff_exists', Prod.exists, readTag?_eq_some_iff,
    List.find?_eq_some_iff_append, Bool.not_eq_true']
  constructor
  · rintro ⟨body, after, q, inner, rfl, start, free, rfl⟩
    exact ⟨q, inner ++ .scalar ']' :: after, tagText_append q inner after, start, rfl, inner, after,
      rfl, free⟩
  · rintro ⟨q, rest, rfl, start, -, inner, after, rfl, free⟩
    exact ⟨_, after, q, inner, rfl, start, free, (tagText_append q inner after).symm⟩

/-! ## The parts of a text -/

theorem partsIn_of_tag (read : readTag? (t.dropWhile isBackslash) = some (body, after)) :
    partsIn (n + 1) t = .tag (t.takeWhile isBackslash).length body :: partsIn n after := by
  cases t with
  | nil => cases read
  | cons p rest => simp only [partsIn, read]

theorem partsIn_of_none (read : readTag? ((p :: rest).dropWhile isBackslash) = none) :
    partsIn (n + 1) (p :: rest) = addPoint p (partsIn n rest) := by
  simp only [partsIn, read]

/-- The parts of a text with its tags after an odd number of backslashes. -/
def escapedIn (n : Nat) (t : Text) : Text :=
  (partsIn n t).flatMap escapePart

theorem escapedIn_of_tag (read : readTag? (t.dropWhile isBackslash) = some (body, after)) :
    escapedIn (n + 1) t =
      backslashes (2 * (t.takeWhile isBackslash).length + 1) ++ tagText body ++
        escapedIn n after := by
  rw [escapedIn, partsIn_of_tag read, List.flatMap_cons, escapePart, ← escapedIn]

theorem flatMap_addPoint (p : CodePoint) (parts : List Part) :
    (addPoint p parts).flatMap escapePart = p :: parts.flatMap escapePart := by
  unfold addPoint
  split <;> rfl

theorem escapedIn_of_none (read : readTag? ((p :: rest).dropWhile isBackslash) = none) :
    escapedIn (n + 1) (p :: rest) = p :: escapedIn n rest := by
  rw [escapedIn, partsIn_of_none read, flatMap_addPoint, ← escapedIn]

theorem escapedIn_nil (n : Nat) : escapedIn n [] = [] := by
  cases n <;> rfl

theorem not_isBracket_of_mem_backslashes : ∀ q ∈ backslashes k, isBracket q = false := by
  intro q mem
  rw [List.eq_of_mem_replicate mem]
  rfl

theorem find?_backslashes_append (k : Nat) (t : Text) :
    (backslashes k ++ t).find? isBracket = t.find? isBracket := by
  rw [List.find?_append, List.find?_eq_none.mpr]
  · rfl
  · intro q mem
    rw [not_isBracket_of_mem_backslashes q mem]
    exact Bool.false_ne_true

theorem find?_tagText (body after : Text) :
    (tagText body ++ after).find? isBracket = some bracket := rfl

theorem takeWhile_backslash (t : Text) :
    t.takeWhile isBackslash = backslashes (t.takeWhile isBackslash).length := by
  refine List.eq_replicate_of_mem fun q mem => ?_
  simpa [isBackslash] using List.mem_takeWhile_imp mem

/-- A text in which a tag stands after some backslashes. -/
theorem eq_of_tag (read : readTag? (t.dropWhile isBackslash) = some (body, after)) :
    t = backslashes (t.takeWhile isBackslash).length ++ (tagText body ++ after) := by
  obtain ⟨p, inner, -, -, -, shape⟩ := readTag?_eq_some_iff.mp read
  rw [← takeWhile_backslash, ← shape, List.takeWhile_append_dropWhile]

theorem length_of_tag (read : readTag? (t.dropWhile isBackslash) = some (body, after)) :
    after.length < t.length := by
  have length := congrArg List.length (eq_of_tag read)
  simp only [tagText, List.length_append] at length
  have opening : (Text.ofString "[").length = 1 := rfl
  omega

/-- Escaping leaves the first bracket of a text what it is. -/
theorem find?_escapedIn (enough : t.length ≤ n) :
    (escapedIn n t).find? isBracket = t.find? isBracket := by
  induction n generalizing t with
  | zero => rw [List.eq_nil_of_length_eq_zero (Nat.le_zero.mp enough), escapedIn_nil]
  | succ n ih =>
    cases read : readTag? (t.dropWhile isBackslash) with
    | some tag =>
      obtain ⟨body, after⟩ := tag
      rw [escapedIn_of_tag read, List.append_assoc, find?_backslashes_append, find?_tagText]
      conv_rhs => rw [eq_of_tag read]
      rw [find?_backslashes_append, find?_tagText]
    | none =>
      cases t with
      | nil => rw [escapedIn_nil]
      | cons p rest =>
        rw [escapedIn_of_none read, List.find?_cons, List.find?_cons,
          ih (Nat.le_of_succ_le_succ enough)]

/-- An escaped text begins with the first point of the text, or with a backslash, which starts no
tag. -/
theorem eq_of_escapedIn_append {q : CodePoint} {behind : Text} (start : startsTag q)
    (eq : escapedIn (n + 1) (p :: rest) ++ tail = q :: behind) :
    p = q ∧ escapedIn n rest ++ tail = behind := by
  cases tagged : readTag? ((p :: rest).dropWhile isBackslash) with
  | some tag =>
    rw [escapedIn_of_tag tagged] at eq
    obtain ⟨rfl, -⟩ := List.cons.inj eq
    cases start
  | none =>
    rw [escapedIn_of_none tagged, List.cons_append] at eq
    exact List.cons.inj eq

/-- Escaping makes no tag where there is none. -/
theorem readTag?_escapedIn (free : tail.find? isBracket = none) (enough : t.length ≤ n)
    (read : readTag? (t.dropWhile isBackslash) = none) :
    readTag? ((escapedIn n t ++ tail).dropWhile isBackslash) = none := by
  have tail_free : bracket ∉ tail := fun mem => absurd rfl (List.find?_eq_none.mp free _ mem)
  induction t generalizing n with
  | nil =>
    rw [escapedIn_nil, List.nil_append]
    exact readTag?_of_notMem fun mem => tail_free (List.dropWhile_subset _ mem)
  | cons p rest ih =>
    obtain ⟨n, rfl⟩ := Nat.exists_eq_succ_of_ne_zero (Nat.ne_of_gt (Nat.lt_of_lt_of_le
      (Nat.succ_pos _) enough))
    have fewer : rest.length ≤ n := Nat.le_of_succ_le_succ enough
    rw [escapedIn_of_none read, List.cons_append]
    by_cases slash : isBackslash p
    · rw [List.dropWhile_cons_of_pos slash] at read ⊢
      exact ih fewer read
    · rw [List.dropWhile_cons_of_neg slash] at read ⊢
      by_contra found
      obtain ⟨q, behind, shape, start, closed⟩ := readTag?_ne_none_iff.mp found
      obtain ⟨rfl, eq⟩ := List.cons.inj shape
      clear shape
      cases rest with
      | nil =>
        rw [escapedIn_nil, List.nil_append] at eq
        have mem : .scalar ']' ∈ tail :=
          eq ▸ List.mem_cons_of_mem _ (List.mem_of_find?_eq_some closed)
        exact List.find?_eq_none.mp free _ mem rfl
      | cons q' rest =>
        obtain ⟨n, rfl⟩ := Nat.exists_eq_succ_of_ne_zero (Nat.ne_of_gt (Nat.lt_of_lt_of_le
          (Nat.succ_pos _) fewer))
        obtain ⟨rfl, rfl⟩ := eq_of_escapedIn_append start eq
        rw [List.find?_append, free, Option.or_none,
          find?_escapedIn (Nat.le_of_succ_le_succ fewer)] at closed
        exact readTag?_ne_none_iff.mpr ⟨q', rest, rfl, start, closed⟩ read

/-! ## Parts that are kept -/

/-- The test for parts of which no tag is applied. -/
def AreKept (parts : List Part) : Prop :=
  ∀ backslashes body, .tag backslashes body ∈ parts → backslashes % 2 = 1

theorem areKept_addPoint {parts : List Part} (kept : AreKept parts) :
    AreKept (addPoint p parts) := by
  intro backslashes body mem
  unfold addPoint at mem
  split at mem
  · exact kept _ _ (List.mem_cons_of_mem _ ((List.mem_cons.mp mem).resolve_left nofun))
  · exact kept _ _ ((List.mem_cons.mp mem).resolve_left nofun)

/-- A tag that is put after some backslashes is read as such. -/
theorem partsIn_of_backslashes (m : Nat) (read : readTag? t = some (body, after)) (more : Text) :
    partsIn (k + 1) (backslashes m ++ (tagText body ++ more)) = .tag m body :: partsIn k more := by
  have inside : ∀ q ∈ backslashes m, isBackslash q := by
    intro q mem
    rw [List.eq_of_mem_replicate mem]
    rfl
  have opened : (tagText body ++ more).takeWhile isBackslash = [] ∧
      (tagText body ++ more).dropWhile isBackslash = tagText body ++ more := ⟨rfl, rfl⟩
  have count : ((backslashes m ++ (tagText body ++ more)).takeWhile isBackslash).length = m := by
    rw [List.takeWhile_append_of_pos inside, opened.1, List.append_nil, backslashes,
      List.length_replicate]
  have tag : readTag? ((backslashes m ++ (tagText body ++ more)).dropWhile isBackslash) =
      some (body, more) := by
    rw [List.dropWhile_append_of_pos inside, opened.2, readTag?_tagText read]
  rw [partsIn_of_tag tag, count]

theorem areKept_of_free (free : t.find? isBracket = none) (enough : t.length ≤ k) :
    AreKept (partsIn k t) := by
  have notMem : bracket ∉ t := fun mem => absurd rfl (List.find?_eq_none.mp free _ mem)
  rw [partsIn_of_notMem enough notMem]
  intro backslashes body mem
  split at mem
  · cases mem
  · exact nomatch List.mem_singleton.mp mem

theorem areKept_escapedIn (free : tail.find? isBracket = none) (enough : t.length ≤ n)
    (long : (escapedIn n t ++ tail).length ≤ k) :
    AreKept (partsIn k (escapedIn n t ++ tail)) := by
  induction n generalizing t k with
  | zero =>
    rw [List.eq_nil_of_length_eq_zero (Nat.le_zero.mp enough), escapedIn_nil] at long ⊢
    exact areKept_of_free free long
  | succ n ih =>
    cases read : readTag? (t.dropWhile isBackslash) with
    | some tag =>
      obtain ⟨body, after⟩ := tag
      have fewer : after.length ≤ n :=
        Nat.le_of_lt_succ (Nat.lt_of_lt_of_le (length_of_tag read) enough)
      rw [escapedIn_of_tag read, List.append_assoc, List.append_assoc] at long ⊢
      cases k with
      | zero => cases long
      | succ k =>
        have shorter : (escapedIn n after ++ tail).length ≤ k := by
          simp only [tagText, backslashes, List.length_append, List.length_replicate] at long ⊢
          omega
        rw [partsIn_of_backslashes _ read]
        intro m body' mem
        rcases List.mem_cons.mp mem with same | mem
        · cases same
          omega
        · exact ih fewer shorter m body' mem
    | none =>
      cases t with
      | nil =>
        rw [escapedIn_nil] at long ⊢
        exact areKept_of_free free long
      | cons p rest =>
        have untagged := readTag?_escapedIn free enough read
        rw [escapedIn_of_none read, List.cons_append] at long untagged ⊢
        cases k with
        | zero => cases long
        | succ k =>
          rw [partsIn_of_none untagged]
          exact areKept_addPoint
            (ih (Nat.le_of_succ_le_succ enough) (Nat.le_of_succ_le_succ long))

theorem exists_showParts {parts : List Part} (opened : List Tag) (kept : AreKept parts) :
    ∃ shown, showParts opened parts = .ok shown := by
  induction parts with
  | nil => exact ⟨[], rfl⟩
  | cons part rest ih =>
    obtain ⟨shown, rest_shown⟩ := ih fun n body mem => kept n body (List.mem_cons_of_mem _ mem)
    cases part with
    | plain t => exact ⟨_, by rw [showParts_plain, rest_shown, ok_map]⟩
    | tag n body =>
      have odd : n % 2 ≠ 0 := by rw [kept n body List.mem_cons_self]; exact Nat.one_ne_zero
      simp only [showParts, odd, if_false, ok_bind, rest_shown]
      exact ⟨_, rfl⟩

theorem openingTags_of_kept {parts : List Part} (kept : AreKept parts) :
    openingTags parts = [] := by
  rw [openingTags, List.filterMap_eq_nil_iff]
  intro part mem
  cases part with
  | plain t => rfl
  | tag n body =>
    have odd : n % 2 ≠ 0 := by rw [kept n body mem]; exact Nat.one_ne_zero
    simp [odd]

/-! ## Escaped texts -/

theorem escape_eq (t : Text) :
    ∃ tail, tail.find? isBracket = none ∧ escape t = escapedIn t.length t ++ tail := by
  unfold escape
  dsimp only
  split
  · exact ⟨[], rfl, (List.append_nil _).symm⟩
  · exact ⟨backslashes 1, rfl, rfl⟩
  · exact ⟨[], rfl, (List.append_nil _).symm⟩

/-- No tag of an escaped text is applied. -/
theorem areKept_escape (enough : (escape t).length ≤ k) : AreKept (partsIn k (escape t)) := by
  obtain ⟨tail, free, eq⟩ := escape_eq t
  rw [eq] at enough ⊢
  exact areKept_escapedIn free (Nat.le_refl _) enough

/-- The tag that turns a text red. -/
def red : Tag := ⟨"red", none⟩

theorem read_red : Tag.read "red" = .ok red := rfl

theorem applyTag_red : applyTag [] "red" = .ok [red] := rfl

theorem applyTag_red_end : applyTag [red] "/red" = .ok [] := rfl

/-- A space in front of a text that is marked up is shown in front of it. -/
theorem exists_showParts_space {parts : List Part} (kept : AreKept parts) :
    ∃ shown, showParts [] (addPoint (.scalar ' ') parts) = .ok (.scalar ' ' :: shown) := by
  unfold addPoint
  split
  · rename_i t rest
    have others : AreKept rest := fun n body mem => kept n body (List.mem_cons_of_mem _ mem)
    obtain ⟨shown, eq⟩ := exists_showParts [] others
    rw [showParts_plain, eq, ok_map]
    exact ⟨_, rfl⟩
  · obtain ⟨shown, eq⟩ := exists_showParts [] kept
    rw [showParts_plain, eq, ok_map]
    exact ⟨_, rfl⟩

/-- The line that reports a failure can always be shown, and begins as it is meant to. -/
theorem render_errorLine (t : Text) :
    ∃ shown, render ("[red]Error:[/red] " ++ escape t) = .ok ("Error: " ++ shown) := by
  have kept : AreKept (partsIn ((escape t).length + 9) (escape t)) :=
    areKept_escape (Nat.le_add_right _ _)
  obtain ⟨shown, eq⟩ := exists_showParts_space kept
  have cut : parts ("[red]Error:[/red] " ++ escape t) =
      .tag 0 "red" :: .plain "Error:" :: .tag 0 "/red" ::
        addPoint (.scalar ' ') (partsIn ((escape t).length + 9) (escape t)) := rfl
  have label : Emoji.replace (dropEscapes "Error:") = "Error:" := rfl
  have all : showParts [] (parts ("[red]Error:[/red] " ++ escape t)) =
      .ok ("Error: " ++ shown) := by
    rw [cut, showParts_tag, applyTag_red, ok_bind, showParts_plain, showParts_tag,
      applyTag_red_end, ok_bind, eq, label]
    rfl
  have tags : openingTags (parts ("[red]Error:[/red] " ++ escape t)) = [Text.ofString "red"] := by
    have none := openingTags_of_kept (areKept_addPoint (p := .scalar ' ') kept)
    rw [cut]
    exact congrArg (Text.ofString "red" :: ·) none
  refine ⟨shown, ?_⟩
  rw [render, all, tags]
  simp only [ok_bind, List.forIn_cons, read_red]
  rfl

end TableDdl.Markup
