import TableDdl.Platform.Markup
import TableDdl.Proofs.Outcome

/-!
# Marked-up texts

How the parts of a marked-up text are shown. In a text without an opening bracket there is no tag,
and nothing in it can be at fault: it is shown with its emoji codes replaced. The same holds after a
sign that is marked green.
-/

namespace TableDdl

namespace Markup

open Outcome

/-- The point that every tag begins with. -/
def bracket : CodePoint := .scalar '['

variable {t : Text} {steps : Nat}

theorem readTag?_of_notMem (free : bracket ∉ t) : readTag? t = none := by
  unfold readTag?
  split
  · exact absurd List.mem_cons_self free
  · rfl

theorem dropEscapes_of_notMem (free : bracket ∉ t) : dropEscapes t = t := by
  fun_induction dropEscapes t with
  | case1 => rfl
  | case2 rest _ => exact absurd (by simp [bracket]) free
  | case3 p rest _ ih => rw [ih fun mem => free (List.mem_cons_of_mem _ mem)]

/-- A text without an opening bracket is one part, unless it is empty. -/
theorem partsIn_of_notMem (enough : t.length ≤ steps) (free : bracket ∉ t) :
    partsIn steps t = if t.isEmpty then [] else [.plain t] := by
  induction t generalizing steps with
  | nil => cases steps <;> rfl
  | cons p rest ih =>
    cases steps with
    | zero => cases enough
    | succ steps =>
      have untagged : readTag? ((p :: rest).dropWhile isBackslash) = none :=
        readTag?_of_notMem fun mem => free (List.dropWhile_subset _ mem)
      have others := ih (Nat.le_of_succ_le_succ enough) fun mem => free (List.mem_cons_of_mem _ mem)
      simp only [partsIn, untagged, others]
      cases rest <;> rfl

theorem showParts_plain (opened : List Tag) (t : Text) (rest : List Part) :
    showParts opened (.plain t :: rest) =
      (fun shown => Emoji.replace (dropEscapes t) ++ shown) <$> showParts opened rest := by
  rw [showParts]
  cases showParts opened rest <;> rfl

theorem showParts_tag (opened : List Tag) (body : Text) (rest : List Part) :
    showParts opened (.tag 0 body :: rest) =
      applyTag opened body >>= fun opened => showParts opened rest := by
  simp only [showParts, Nat.zero_mod, if_true]
  cases applyTag opened body with
  | error failure => rfl
  | ok opened =>
    simp only [ok_bind]
    cases showParts opened rest <;> rfl

theorem showParts_of_notMem (enough : t.length ≤ steps) (free : bracket ∉ t) :
    showParts [] (partsIn steps t) = .ok (Emoji.replace t) := by
  rw [partsIn_of_notMem enough free]
  cases t with
  | nil => rfl
  | cons p rest =>
    rw [List.isEmpty_cons, if_neg Bool.false_ne_true, showParts_plain, dropEscapes_of_notMem free]
    exact congrArg Except.ok (List.append_nil _)

/-! ## The check mark -/

/-- The tag that turns a text green. -/
def green : Tag := ⟨"green", none⟩

theorem read_green : Tag.read "green" = .ok green := rfl

theorem applyTag_green : applyTag [] "green" = .ok [green] := rfl

theorem applyTag_green_end : applyTag [green] "/green" = .ok [] := rfl

/-- What stands after a green check mark is shown with no open tag. -/
theorem showParts_after_checkMark (rest : List Part) :
    showParts [] (.tag 0 "green" :: .plain "✓" :: .tag 0 "/green" :: rest) =
      (fun shown => Text.ofString "✓" ++ shown) <$> showParts [] rest := by
  have sign : Emoji.replace (dropEscapes "✓") = "✓" := rfl
  rw [showParts_tag, applyTag_green, ok_bind, showParts_plain, showParts_tag, applyTag_green_end,
    ok_bind, sign]

/-- A text without an opening bracket is shown after a green check mark as it is, but for its emoji
codes. -/
theorem render_after_checkMark (free : bracket ∉ t) :
    render ("[green]✓[/green]" ++ t) = .ok ("✓" ++ Emoji.replace t) := by
  have enough : t.length ≤ t.length + 13 := Nat.le_add_right _ _
  have cut : parts ("[green]✓[/green]" ++ t) =
      .tag 0 "green" :: .plain "✓" :: .tag 0 "/green" :: partsIn (t.length + 13) t := rfl
  have shown : showParts [] (parts ("[green]✓[/green]" ++ t)) = .ok ("✓" ++ Emoji.replace t) := by
    rw [cut, showParts_after_checkMark, showParts_of_notMem enough free, ok_map]
  have tags : openingTags (parts ("[green]✓[/green]" ++ t)) = [Text.ofString "green"] := by
    rw [cut, partsIn_of_notMem enough free]
    split <;> rfl
  rw [render, shown, tags]
  simp only [ok_bind, List.forIn_cons, read_green]
  rfl

end Markup

end TableDdl
