import TableDdl.Text.Case
import TableDdl.Text.CharClass

/-!
# Styles

What the name of a tag may say: attributes, a colour, a colour behind it and a link. Different
names may say the same, so a tag that ends a style need not spell it as the tag that sets it.
`Style.name` is the one spelling that all of them have in common.
-/

namespace TableDdl.Markup

/-- Why a text is no style: a word has no meaning, or a colour of three numbers lacks one. -/
inductive StyleFlaw where
  | unknownWord
  | missingNumber
  deriving DecidableEq, Repr

/-- A style. An attribute is set or excluded. -/
structure Style where
  attributes : List (String × Bool)
  color : Option Text
  background : Option Text
  link : Option Text
  deriving DecidableEq, Repr

namespace Style

/-! ## Colours -/

/-- The colours that have a name, and the name of the usual colour of a terminal. -/
def colorNames : List String :=
  ["default", "black", "red", "green", "yellow", "blue", "magenta", "cyan", "white",
   "bright_black", "bright_red", "bright_green", "bright_yellow", "bright_blue", "bright_magenta",
   "bright_cyan", "bright_white", "grey0", "gray0", "navy_blue", "dark_blue", "blue3", "blue1",
   "dark_green", "deep_sky_blue4", "dodger_blue3", "dodger_blue2", "green4", "spring_green4",
   "turquoise4", "deep_sky_blue3", "dodger_blue1", "green3", "spring_green3", "dark_cyan",
   "light_sea_green", "deep_sky_blue2", "deep_sky_blue1", "spring_green2", "cyan3",
   "dark_turquoise", "turquoise2", "green1", "spring_green1", "medium_spring_green", "cyan2",
   "cyan1", "dark_red", "deep_pink4", "purple4", "purple3", "blue_violet", "orange4", "grey37",
   "gray37", "medium_purple4", "slate_blue3", "royal_blue1", "chartreuse4", "dark_sea_green4",
   "pale_turquoise4", "steel_blue", "steel_blue3", "cornflower_blue", "chartreuse3", "cadet_blue",
   "sky_blue3", "steel_blue1", "pale_green3", "sea_green3", "aquamarine3", "medium_turquoise",
   "chartreuse2", "sea_green2", "sea_green1", "aquamarine1", "dark_slate_gray2", "dark_magenta",
   "dark_violet", "purple", "light_pink4", "plum4", "medium_purple3", "slate_blue1", "yellow4",
   "wheat4", "grey53", "gray53", "light_slate_grey", "light_slate_gray", "medium_purple",
   "light_slate_blue", "dark_olive_green3", "dark_sea_green", "light_sky_blue3", "sky_blue2",
   "dark_sea_green3", "dark_slate_gray3", "sky_blue1", "chartreuse1", "light_green", "pale_green1",
   "dark_slate_gray1", "red3", "medium_violet_red", "magenta3", "dark_orange3", "indian_red",
   "hot_pink3", "medium_orchid3", "medium_orchid", "medium_purple2", "dark_goldenrod",
   "light_salmon3", "rosy_brown", "grey63", "gray63", "medium_purple1", "gold3", "dark_khaki",
   "navajo_white3", "grey69", "gray69", "light_steel_blue3", "light_steel_blue", "yellow3",
   "dark_sea_green2", "light_cyan3", "light_sky_blue1", "green_yellow", "dark_olive_green2",
   "dark_sea_green1", "pale_turquoise1", "deep_pink3", "magenta2", "hot_pink2", "orchid",
   "medium_orchid1", "orange3", "light_pink3", "pink3", "plum3", "violet", "light_goldenrod3",
   "tan", "misty_rose3", "thistle3", "plum2", "khaki3", "light_goldenrod2", "light_yellow3",
   "grey84", "gray84", "light_steel_blue1", "yellow2", "dark_olive_green1", "honeydew2",
   "light_cyan1", "red1", "deep_pink2", "deep_pink1", "magenta1", "orange_red1", "indian_red1",
   "hot_pink", "dark_orange", "salmon1", "light_coral", "pale_violet_red1", "orchid2", "orchid1",
   "orange1", "sandy_brown", "light_salmon1", "light_pink1", "pink1", "plum1", "gold1",
   "navajo_white1", "misty_rose1", "thistle1", "yellow1", "light_goldenrod1", "khaki1", "wheat1",
   "cornsilk1", "grey100", "gray100", "grey3", "gray3", "grey7", "gray7", "grey11", "gray11",
   "grey15", "gray15", "grey19", "gray19", "grey23", "gray23", "grey27", "gray27", "grey30",
   "gray30", "grey35", "gray35", "grey39", "gray39", "grey42", "gray42", "grey46", "gray46",
   "grey50", "gray50", "grey54", "gray54", "grey58", "gray58", "grey62", "gray62", "grey66",
   "gray66", "grey70", "gray70", "grey74", "gray74", "grey78", "gray78", "grey82", "gray82",
   "grey85", "gray85", "grey89", "gray89", "grey93", "gray93"]

/-- What stands between an opening and a closing parenthesis that ends the text. -/
def inside? (opening t : Text) : Option Text :=
  if opening.isPrefixOf t && t.getLast? = some (.scalar ')') then
    some (t.drop opening.length).dropLast
  else none

/-- The test for a colour written as six hexadecimal digits, in small letters. -/
def isHexColor (t : Text) : Bool :=
  match t with
  | .scalar '#' :: digits => digits.length = 6 && digits.all fun p => (Text.hexDigit? p).isSome
  | _ => false

/-- The test for the number of a colour. -/
def isColorNumber (digits : Text) : Bool :=
  0 < digits.length && digits.length ≤ 3 && digits.all CodePoint.isDigit &&
    Text.digitsValue digits ≤ 255

/-- The test for one of the numbers that a colour is mixed from, with digits of any script. -/
def isShare (digits : Text) : Bool :=
  digits.foldl (fun value p => 10 * value + p.decimalDigit?.getD 0) 0 ≤ 255

/-- Checks the three numbers that a colour is mixed from. -/
def checkShares (numbers : Text) : Except StyleFlaw Unit :=
  let isNumberPoint (p : CodePoint) : Bool := p = .scalar ',' || p.decimalDigit?.isSome
  let shares := numbers.split (.scalar ',')
  if numbers.isEmpty || !numbers.all isNumberPoint || shares.length ≠ 3 then .error .unknownWord
  else if shares.any (·.isEmpty) then .error .missingNumber
  else if shares.all isShare then .ok ()
  else .error .unknownWord

/-- Reads a colour: a name, six hexadecimal digits, a number, or three numbers. Colours that are
written in different ways stay different. -/
def readColor (word : Text) : Except StyleFlaw Text := do
  let color := word.toSmall
  if colorNames.any (Text.ofString · = color) || isHexColor color then pure color
  else
    match inside? "color(" color, inside? "rgb(" color with
    | some digits, _ => if isColorNumber digits then pure color else throw .unknownWord
    | none, some numbers => do
      checkShares numbers
      pure color
    | none, none => throw .unknownWord

/-! ## Words -/

/-- The attributes, each with its short spellings, in the order in which they are written. -/
def attributeNames : List (String × List String) :=
  [("bold", ["b"]), ("dim", ["d"]), ("italic", ["i"]), ("underline", ["u"]), ("blink", []),
   ("blink2", []), ("reverse", ["r"]), ("conceal", ["c"]), ("strike", ["s"]),
   ("underline2", ["uu"]), ("frame", []), ("encircle", []), ("overline", ["o"])]

/-- The attribute that a word spells. -/
def attribute? (word : Text) : Option String :=
  (attributeNames.find? fun (name, short) => (name :: short).any (Text.ofString · = word)).map (·.1)

/-- A style in which an attribute is set or excluded. -/
def withAttribute (style : Style) (name : String) (isSet : Bool) : Style :=
  { style with attributes := (name, isSet) :: style.attributes }

/-- Reads the words of a style after some that were read before. What is said last counts. -/
def readWords (style : Style) : List Text → Except StyleFlaw Style
  | [] => .ok style
  | word :: rest =>
    let small := word.toSmall
    if small = "on" then
      match rest with
      | [] => .error .unknownWord
      | color :: rest => do readWords { style with background := some (← readColor color) } rest
    else if small = "not" then
      match rest with
      | [] => .error .unknownWord
      | excluded :: rest =>
        match attribute? excluded with
        | some name => readWords (style.withAttribute name false) rest
        | none => .error .unknownWord
    else if small = "link" then
      match rest with
      | [] => .error .unknownWord
      | link :: rest => readWords { style with link := some link } rest
    else
      match attribute? small with
      | some name => readWords (style.withAttribute name true) rest
      | none => do readWords { style with color := some (← readColor word) } rest

/-- The words of a text between white space. -/
def words (t : Text) : List Text :=
  let blank : CodePoint := .scalar ' '
  (Text.split blank (t.map fun p => if p.isSpace then blank else p)).filter (!·.isEmpty)

/-- Reads a style. -/
def read (t : Text) : Except StyleFlaw Style :=
  readWords ⟨[], none, none, none⟩ (words t)

/-- The words of a style in their order. -/
def name (style : Style) : Text :=
  let attributes := attributeNames.filterMap fun (name, _) =>
    (style.attributes.lookup name).map fun isSet =>
      if isSet then Text.ofString name else "not " ++ Text.ofString name
  let parts := attributes ++ style.color.toList ++
    style.background.toList.map (Text.ofString "on " ++ ·) ++
    style.link.toList.map (Text.ofString "link " ++ ·)
  if parts.isEmpty then "none" else Text.join " " parts

end Style

/-- The spelling that a name of a tag has in common with all names that say the same. A name that is
no style counts as it is, in small letters. -/
def commonName (t : Text) : Except StyleFlaw Text :=
  match Style.read t with
  | .ok style => .ok style.name
  | .error .unknownWord => .ok (Text.toSmall (t.trim CodePoint.isSpace))
  | .error .missingNumber => .error .missingNumber

end TableDdl.Markup
