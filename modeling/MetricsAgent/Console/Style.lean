import MetricsAgent.Text.CharClass

/-!
# Styles

A style is described by words: attributes, which can be negated, a colour, a colour of the background
and a link.  Descriptions of the same style have one normal form; a description of no style is only
trimmed and written in small letters.
-/

namespace MetricsAgent

/-- What a description says. -/
structure ConsoleStyle where
  attributes : List (String × Bool)
  colour : Option String
  background : Option String
  link : Option String
  deriving DecidableEq

namespace ConsoleStyle

/-- The attributes in their order, each with its short name. -/
def attributeNames : List (String × Option String) :=
  [("bold", some "b"), ("dim", some "d"), ("italic", some "i"), ("underline", some "u"),
    ("blink", none), ("blink2", none), ("reverse", some "r"), ("conceal", some "c"),
    ("strike", some "s"), ("underline2", some "uu"), ("frame", none), ("encircle", none),
    ("overline", some "o")]

/-- The attribute of a word. -/
def attribute? (word : String) : Option String :=
  (attributeNames.find? fun (name, short) => name == word || short == some word).map (·.1)

/-- The names of the colours. -/
def colourNames : String :=
  "black red green yellow blue magenta cyan white bright_black bright_red bright_green
  bright_yellow bright_blue bright_magenta bright_cyan bright_white grey0 gray0 navy_blue
  dark_blue blue3 blue1 dark_green deep_sky_blue4 dodger_blue3 dodger_blue2 green4 spring_green4
  turquoise4 deep_sky_blue3 dodger_blue1 green3 spring_green3 dark_cyan light_sea_green
  deep_sky_blue2 deep_sky_blue1 spring_green2 cyan3 dark_turquoise turquoise2 green1 spring_green1
  medium_spring_green cyan2 cyan1 dark_red deep_pink4 purple4 purple3 blue_violet orange4 grey37
  gray37 medium_purple4 slate_blue3 royal_blue1 chartreuse4 dark_sea_green4 pale_turquoise4
  steel_blue steel_blue3 cornflower_blue chartreuse3 cadet_blue sky_blue3 steel_blue1 pale_green3
  sea_green3 aquamarine3 medium_turquoise chartreuse2 sea_green2 sea_green1 aquamarine1
  dark_slate_gray2 dark_magenta dark_violet purple light_pink4 plum4 medium_purple3 slate_blue1
  yellow4 wheat4 grey53 gray53 light_slate_grey light_slate_gray medium_purple light_slate_blue
  dark_olive_green3 dark_sea_green light_sky_blue3 sky_blue2 dark_sea_green3 dark_slate_gray3
  sky_blue1 chartreuse1 light_green pale_green1 dark_slate_gray1 red3 medium_violet_red magenta3
  dark_orange3 indian_red hot_pink3 medium_orchid3 medium_orchid medium_purple2 dark_goldenrod
  light_salmon3 rosy_brown grey63 gray63 medium_purple1 gold3 dark_khaki navajo_white3 grey69
  gray69 light_steel_blue3 light_steel_blue yellow3 dark_sea_green2 light_cyan3 light_sky_blue1
  green_yellow dark_olive_green2 dark_sea_green1 pale_turquoise1 deep_pink3 magenta2 hot_pink2
  orchid medium_orchid1 orange3 light_pink3 pink3 plum3 violet light_goldenrod3 tan misty_rose3
  thistle3 plum2 khaki3 light_goldenrod2 light_yellow3 grey84 gray84 light_steel_blue1 yellow2
  dark_olive_green1 honeydew2 light_cyan1 red1 deep_pink2 deep_pink1 magenta1 orange_red1
  indian_red1 hot_pink dark_orange salmon1 light_coral pale_violet_red1 orchid2 orchid1 orange1
  sandy_brown light_salmon1 light_pink1 pink1 plum1 gold1 navajo_white1 misty_rose1 thistle1
  yellow1 light_goldenrod1 khaki1 wheat1 cornsilk1 grey100 gray100 grey3 gray3 grey7 gray7 grey11
  gray11 grey15 gray15 grey19 gray19 grey23 gray23 grey27 gray27 grey30 gray30 grey35 gray35
  grey39 gray39 grey42 gray42 grey46 gray46 grey50 gray50 grey54 gray54 grey58 gray58 grey62
  gray62 grey66 gray66 grey70 gray70 grey74 gray74 grey78 gray78 grey82 gray82 grey85 gray85
  grey89 gray89 grey93 gray93"

/-- A number from 0 to 255 without a sign. -/
def isByte (cs : List Char) : Bool :=
  !cs.isEmpty && cs.length ≤ 3 && cs.all CharClass.isAsciiDigit && CharClass.digitsValue cs ≤ 255

/-- The text between a head and a closing parenthesis. -/
def inside? (head word : String) : Option (List Char) :=
  let cs := word.toList
  if head.toList.isPrefixOf cs && cs.getLast? == some ')' then
    some ((cs.drop head.length).dropLast)
  else none

/-- Whether a word is a colour: a name, six digits, a number, or three numbers. -/
def isColour (word : String) : Bool :=
  let cs := word.toList
  let names := (colourNames.map fun c => if c == '\n' then ' ' else c).splitOn " "
  word == "default" || names.contains word
    || (cs.head? == some '#' && cs.length == 7 && (cs.drop 1).all CharClass.isHexDigit)
    || ((inside? "color(" word).map isByte).getD false
    || ((inside? "rgb(" word).map fun parts =>
        let numbers := (String.ofList parts).splitOn ","
        numbers.length == 3 && numbers.all fun n => isByte n.toList).getD false

/-- Reads words into a style; nothing if they describe none. -/
def readWords : ConsoleStyle → List String → Option ConsoleStyle
  | s, [] => some s
  | s, word :: rest =>
    match CharClass.asciiLower word, rest with
    | "on", w :: rest =>
      if isColour w then readWords { s with background := some w } rest else none
    | "on", [] => none
    | "not", w :: rest =>
      match attribute? w with
      | some a => readWords { s with attributes := (a, false) :: s.attributes } rest
      | none => none
    | "not", [] => none
    | "link", w :: rest => readWords { s with link := some w } rest
    | "link", [] => none
    | w, rest =>
      match attribute? w with
      | some a => readWords { s with attributes := (a, true) :: s.attributes } rest
      | none => if isColour w then readWords { s with colour := some w } rest else none
  termination_by _ words => words.length

/-- A style in words. -/
def text (s : ConsoleStyle) : String :=
  let attributes := attributeNames.filterMap fun (name, _) =>
    (s.attributes.find? (·.1 == name)).map fun (_, on) => if on then name else "not " ++ name
  let words := attributes ++ s.colour.toList ++ (s.background.map ("on " ++ ·)).toList
    ++ (s.link.map ("link " ++ ·)).toList
  if words.isEmpty then "none" else " ".intercalate words

/-- The words of a description. -/
def words (description : String) : List String :=
  ((description.map fun c => if CharClass.isBlank c then ' ' else c).splitOn " ").filter
    (!·.isEmpty)

/-- The normal form of a description. -/
def normal (description : String) : String :=
  let trimmed := CharClass.trimBlank description
  if trimmed == "none" || trimmed.isEmpty then "none"
  else
    match readWords ⟨[], none, none, none⟩ (words description) with
    | some s => s.text
    | none => CharClass.asciiLower trimmed

end ConsoleStyle

end MetricsAgent
