import TableDdl.Platform.Markup.EmojiNames
import TableDdl.Text.Case
import TableDdl.Text.CharClass

/-!
# Emoji codes

A code is the name of an emoji between two colons, perhaps with a variant after it. Where a text is
marked up, codes are replaced by what they name, and a code without a meaning stays as it is.
-/

namespace TableDdl.Markup.Emoji

/-- The emoji of a name, in any case. -/
def ofName? (name : Text) : Option Text := do
  let name := String.ofList (← name.toSmall.chars?)
  let emoji ← names.findSome? (·.lookup name)
  pure (Text.ofString emoji)

/-- The endings of a code that choose between a picture and a plain sign, and the selectors that
make the choice. -/
def variants : List (Text × CodePoint) :=
  [("-emoji", .scalar '\ufe0f'), ("-text", .scalar '\ufe0e')]

/-- What a code between its colons means. -/
def ofCode? (code : Text) : Option Text :=
  match variants.find? (·.1.isSuffixOf code) with
  | some (ending, selector) =>
    (ofName? (code.take (code.length - ending.length))).map (· ++ [selector])
  | none => ofName? code

/-- Reads a code after its first colon: up to the next colon, without white space. -/
def readCode? (t : Text) : Option (Text × Text) :=
  let code := t.takeWhile fun p => p ≠ .scalar ':' && !p.isSpace
  match t.drop code.length with
  | .scalar ':' :: after => some (code, after)
  | _ => none

/-- Replaces the codes in a text. Each step takes at least one code point. -/
def replaceSteps : Nat → Text → Text
  | 0, t => t
  | _, [] => []
  | steps + 1, .scalar ':' :: rest =>
    match readCode? rest with
    | some (code, after) =>
      (ofCode? code).getD (":" ++ code ++ ":") ++ replaceSteps steps after
    | none => .scalar ':' :: replaceSteps steps rest
  | steps + 1, p :: rest => p :: replaceSteps steps rest

/-- A text with its codes replaced. -/
def replace (t : Text) : Text :=
  replaceSteps t.length t

end TableDdl.Markup.Emoji
