import ClusterClient.Number.Numeral
import ClusterClient.Text.Lowercase

/-!
# Styles

A style is defined by words: the name of an effect, which `not` in front of it takes away; a colour; a
colour after `on` for the ground; and an address after `link`. `normalName` writes definitions of the same
style in the same way; what defines no style is taken in lower case.
-/

namespace ClusterClient.Console

/-- Why a definition cannot even be read: a component of a colour is no number. -/
inductive StyleFault where
  | noDigits
  | tooManyDigits (count : Nat)
  deriving DecidableEq, Repr

/-- The message of a fault. -/
def StyleFault.message : StyleFault → Text
  | noDigits => "invalid literal for int() with base 10: ''"
  | tooManyDigits count =>
    "Exceeds the limit (" ++ Text.ofNat Whole.maxDigits ++
      " digits) for integer string conversion: value has " ++ Text.ofNat count ++
      " digits; use sys.set_int_max_str_digits() to increase the limit"

/-! ## Colours -/

/-- Colours that have a name. -/
def colourNames : List String :=
  ["black", "red", "green", "yellow", "blue", "magenta", "cyan", "white", "bright_black",
   "bright_red", "bright_green", "bright_yellow", "bright_blue", "bright_magenta", "bright_cyan",
   "bright_white", "grey0", "gray0", "navy_blue", "dark_blue", "blue3", "blue1", "dark_green",
   "deep_sky_blue4", "dodger_blue3", "dodger_blue2", "green4", "spring_green4", "turquoise4",
   "deep_sky_blue3", "dodger_blue1", "green3", "spring_green3", "dark_cyan", "light_sea_green",
   "deep_sky_blue2", "deep_sky_blue1", "spring_green2", "cyan3", "dark_turquoise", "turquoise2",
   "green1", "spring_green1", "medium_spring_green", "cyan2", "cyan1", "dark_red", "deep_pink4",
   "purple4", "purple3", "blue_violet", "orange4", "grey37", "gray37", "medium_purple4",
   "slate_blue3", "royal_blue1", "chartreuse4", "dark_sea_green4", "pale_turquoise4", "steel_blue",
   "steel_blue3", "cornflower_blue", "chartreuse3", "cadet_blue", "sky_blue3", "steel_blue1",
   "pale_green3", "sea_green3", "aquamarine3", "medium_turquoise", "chartreuse2", "sea_green2",
   "sea_green1", "aquamarine1", "dark_slate_gray2", "dark_magenta", "dark_violet", "purple",
   "light_pink4", "plum4", "medium_purple3", "slate_blue1", "yellow4", "wheat4", "grey53",
   "gray53", "light_slate_grey", "light_slate_gray", "medium_purple", "light_slate_blue",
   "dark_olive_green3", "dark_sea_green", "light_sky_blue3", "sky_blue2", "dark_sea_green3",
   "dark_slate_gray3", "sky_blue1", "chartreuse1", "light_green", "pale_green1",
   "dark_slate_gray1", "red3", "medium_violet_red", "magenta3", "dark_orange3", "indian_red",
   "hot_pink3", "medium_orchid3", "medium_orchid", "medium_purple2", "dark_goldenrod",
   "light_salmon3", "rosy_brown", "grey63", "gray63", "medium_purple1", "gold3", "dark_khaki",
   "navajo_white3", "grey69", "gray69", "light_steel_blue3", "light_steel_blue", "yellow3",
   "dark_sea_green2", "light_cyan3", "light_sky_blue1", "green_yellow", "dark_olive_green2",
   "dark_sea_green1", "pale_turquoise1", "deep_pink3", "magenta2", "hot_pink2", "orchid",
   "medium_orchid1", "orange3", "light_pink3", "pink3", "plum3", "violet", "light_goldenrod3",
   "tan", "misty_rose3", "thistle3", "plum2", "khaki3", "light_goldenrod2", "light_yellow3",
   "grey84", "gray84", "light_steel_blue1", "yellow2", "dark_olive_green1", "honeydew2",
   "light_cyan1", "red1", "deep_pink2", "deep_pink1", "magenta1", "orange_red1", "indian_red1",
   "hot_pink", "dark_orange", "salmon1", "light_coral", "pale_violet_red1", "orchid2", "orchid1",
   "orange1", "sandy_brown", "light_salmon1", "light_pink1", "pink1", "plum1", "gold1",
   "navajo_white1", "misty_rose1", "thistle1", "yellow1", "light_goldenrod1", "khaki1", "wheat1",
   "cornsilk1", "grey100", "gray100", "grey3", "gray3", "grey7", "gray7", "grey11", "gray11",
   "grey15", "gray15", "grey19", "gray19", "grey23", "gray23", "grey27", "gray27", "grey30",
   "gray30", "grey35", "gray35", "grey39", "gray39", "grey42", "gray42", "grey46", "gray46",
   "grey50", "gray50", "grey54", "gray54", "grey58", "gray58", "grey62", "gray62", "grey66",
   "gray66", "grey70", "gray70", "grey74", "gray74", "grey78", "gray78", "grey82", "gray82",
   "grey85", "gray85", "grey89", "gray89", "grey93", "gray93"]

def namedColours : List Text := colourNames.map Text.ofString

/-- What stands between an opening and a closing text. -/
def between? (opening closing t : Text) : Option Text :=
  match Text.dropStart? opening t with
  | none => none
  | some rest =>
    if closing.isSuffixOf rest then some (rest.take (rest.length - closing.length)) else none

/-- One component of a colour. -/
def component (digits : Text) : Except StyleFault Nat :=
  if digits.isEmpty then .error .noDigits
  -- a component is read as a number before its size is looked at
  else if Whole.maxDigits < digits.length then .error (.tooManyDigits digits.length)
  else .ok (Numeral.ofDigits (digits.filterMap CodePoint.decimalValue?))

/-- The greatest component of a colour. -/
def maxComponent : Nat := 255

/-- Whether a list of components makes a colour: three of them, none too great. -/
def isTriple (components : Text) : Except StyleFault Bool := do
  match components.splitOn ',' with
  | [red, green, blue] =>
    let values ← [red, green, blue].mapM component
    return values.all (· ≤ maxComponent)
  | _ => return false

/-- Whether a word in lower case is a colour. -/
def isColour (word : Text) : Except StyleFault Bool :=
  let isHex (c : CodePoint) : Bool := c.hexValue?.isSome && !c.isAsciiUpper
  -- a name wins over every other form
  if word = "default" || namedColours.contains word then .ok true
  else
    match Text.dropStart? "#" word, between? "color(" ")" word, between? "rgb(" ")" word with
    | some digits, _, _ => .ok (digits.length = 6 && digits.all isHex)
    | none, some digits, _ =>
      .ok (1 ≤ digits.length && digits.length ≤ 3 && digits.all CodePoint.isAsciiDigit &&
        Numeral.ofDigits (digits.filterMap CodePoint.decimalValue?) ≤ maxComponent)
    | none, none, some components =>
      if !components.isEmpty &&
          components.all fun c => c = CodePoint.ofChar ',' || c.decimalValue?.isSome then
        isTriple components
      else .ok false
    | none, none, none => .ok false

/-! ## Definitions -/

/-- The effects that a style may consist of, each with its short name. -/
def effects : List (Text × Text) :=
  [("bold", "b"), ("dim", "d"), ("italic", "i"), ("underline", "u"), ("blink", "blink"),
   ("blink2", "blink2"), ("reverse", "r"), ("conceal", "c"), ("strike", "s"), ("underline2", "uu"),
   ("frame", "frame"), ("encircle", "encircle"), ("overline", "o")]

/-- The long name of the effect that a word names. -/
def effect? (word : Text) : Option Text :=
  (effects.find? fun (long, short) => word = long || word = short).map (·.1)

/-- A style. `settings` holds the effects that are set or taken away, the last word first. -/
structure Style where
  settings : List (Text × Bool)
  colour : Option Text
  ground : Option Text
  link : Option Text
  deriving DecidableEq, Repr

namespace Style

def plain : Style := ⟨[], none, none, none⟩

/-- The style that the words of a definition add up to, if they define one. -/
def addWords (style : Style) : List Text → Except StyleFault (Option Style)
  | [] => .ok (some style)
  | first :: rest =>
    let word := first.toLower
    if word = "on" then
      match rest with
      | [] => .ok none
      | second :: rest =>
        match isColour second.toLower with
        | .error fault => .error fault
        | .ok false => .ok none
        | .ok true => addWords { style with ground := some second.toLower } rest
    else if word = "not" then
      match rest with
      | [] => .ok none
      | second :: rest =>
        -- the word behind is taken as it is written: in capital letters it names no effect
        match effect? second with
        | none => .ok none
        | some effect => addWords { style with settings := (effect, false) :: style.settings } rest
    else if word = "link" then
      match rest with
      | [] => .ok none
      | second :: rest => addWords { style with link := some second } rest
    else
      match effect? word with
      | some effect => addWords { style with settings := (effect, true) :: style.settings } rest
      | none =>
        match isColour word with
        | .error fault => .error fault
        | .ok false => .ok none
        | .ok true => addWords { style with colour := some word } rest

/-- The style that a text defines, if it defines one. -/
def read (definition : Text) : Except StyleFault (Option Style) :=
  if definition.strip = "none" then .ok (some plain) else addWords plain definition.words

/-- The words that define a style: effects in their order, the colour, the ground and the address. -/
def words (style : Style) : List Text :=
  (effects.flatMap fun (effect, _) =>
    match style.settings.lookup effect with
    | some true => [effect]
    | some false => [Text.ofString "not", effect]
    | none => []) ++
  style.colour.toList ++
  (style.ground.toList.flatMap fun ground => [Text.ofString "on", ground]) ++
  (style.link.toList.flatMap fun link => [Text.ofString "link", link])

/-- The definition of a style. -/
def definition (style : Style) : Text :=
  if style.words.isEmpty then "none" else Text.join " " style.words

/-- The name by which definitions are compared. -/
def normalName (definition : Text) : Except StyleFault Text :=
  (read definition).map fun
    | some style => style.definition
    | none => definition.strip.toLower

end Style

end ClusterClient.Console
