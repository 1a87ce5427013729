import ComponentLinks.Text.Blank
import ComponentLinks.Outer.Text.Lowercase
import ComponentLinks.Text.Numeral

/-!
# Styles of console text

A style is written in words: attributes, a colour, a background, a link. Two written styles mean
the same if they have the same normal form.

## Main definitions

* `Terminal.Style`: what a written style asks for.
* `Terminal.Style.read?`: reading a style.
* `Terminal.Style.normalForm`: the normal form of a written style.
-/
namespace ComponentLinks.Terminal

def attributeNames : List String :=
  ["bold", "dim", "italic", "underline", "blink", "blink2", "reverse", "conceal", "strike",
   "underline2", "frame", "encircle", "overline"]

def attributeAliases : List (String × String) :=
  [("b", "bold"), ("d", "dim"), ("i", "italic"), ("u", "underline"), ("r", "reverse"),
   ("c", "conceal"), ("s", "strike"), ("uu", "underline2"), ("o", "overline")]

def attribute? (word : String) : Option String :=
  if attributeNames.contains word then some word else attributeAliases.lookup word

def colourNames : List String :=
  ["black", "red", "green", "yellow", "blue", "magenta", "cyan", "white", "bright_black",
   "bright_red", "bright_green", "bright_yellow", "bright_blue", "bright_magenta",
   "bright_cyan", "bright_white", "grey0", "gray0", "navy_blue", "dark_blue", "blue3", "blue1",
   "dark_green", "deep_sky_blue4", "dodger_blue3", "dodger_blue2", "green4", "spring_green4",
   "turquoise4", "deep_sky_blue3", "dodger_blue1", "green3", "spring_green3", "dark_cyan",
   "light_sea_green", "deep_sky_blue2", "deep_sky_blue1", "spring_green2", "cyan3",
   "dark_turquoise", "turquoise2", "green1", "spring_green1", "medium_spring_green", "cyan2",
   "cyan1", "dark_red", "deep_pink4", "purple4", "purple3", "blue_violet", "orange4", "grey37",
   "gray37", "medium_purple4", "slate_blue3", "royal_blue1", "chartreuse4", "dark_sea_green4",
   "pale_turquoise4", "steel_blue", "steel_blue3", "cornflower_blue", "chartreuse3",
   "cadet_blue", "sky_blue3", "steel_blue1", "pale_green3", "sea_green3", "aquamarine3",
   "medium_turquoise", "chartreuse2", "sea_green2", "sea_green1", "aquamarine1",
   "dark_slate_gray2", "dark_magenta", "dark_violet", "purple", "light_pink4", "plum4",
   "medium_purple3", "slate_blue1", "yellow4", "wheat4", "grey53", "gray53", "light_slate_grey",
   "light_slate_gray", "medium_purple", "light_slate_blue", "dark_olive_green3",
   "dark_sea_green", "light_sky_blue3", "sky_blue2", "dark_sea_green3", "dark_slate_gray3",
   "sky_blue1", "chartreuse1", "light_green", "pale_green1", "dark_slate_gray1", "red3",
   "medium_violet_red", "magenta3", "dark_orange3", "indian_red", "hot_pink3", "medium_orchid3",
   "medium_orchid", "medium_purple2", "dark_goldenrod", "light_salmon3", "rosy_brown", "grey63",
   "gray63", "medium_purple1", "gold3", "dark_khaki", "navajo_white3", "grey69", "gray69",
   "light_steel_blue3", "light_steel_blue", "yellow3", "dark_sea_green2", "light_cyan3",
   "light_sky_blue1", "green_yellow", "dark_olive_green2", "dark_sea_green1", "pale_turquoise1",
   "deep_pink3", "magenta2", "hot_pink2", "orchid", "medium_orchid1", "orange3", "light_pink3",
   "pink3", "plum3", "violet", "light_goldenrod3", "tan", "misty_rose3", "thistle3", "plum2",
   "khaki3", "light_goldenrod2", "light_yellow3", "grey84", "gray84", "light_steel_blue1",
   "yellow2", "dark_olive_green1", "honeydew2", "light_cyan1", "red1", "deep_pink2",
   "deep_pink1", "magenta1", "orange_red1", "indian_red1", "hot_pink", "dark_orange", "salmon1",
   "light_coral", "pale_violet_red1", "orchid2", "orchid1", "orange1", "sandy_brown",
   "light_salmon1", "light_pink1", "pink1", "plum1", "gold1", "navajo_white1", "misty_rose1",
   "thistle1", "yellow1", "light_goldenrod1", "khaki1", "wheat1", "cornsilk1", "grey100",
   "gray100", "grey3", "gray3", "grey7", "gray7", "grey11", "gray11", "grey15", "gray15",
   "grey19", "gray19", "grey23", "gray23", "grey27", "gray27", "grey30", "gray30", "grey35",
   "gray35", "grey39", "gray39", "grey42", "gray42", "grey46", "gray46", "grey50", "gray50",
   "grey54", "gray54", "grey58", "gray58", "grey62", "gray62", "grey66", "gray66", "grey70",
   "gray70", "grey74", "gray74", "grey78", "gray78", "grey82", "gray82", "grey85", "gray85",
   "grey89", "gray89", "grey93", "gray93"]

def between? (opening closing : String) (s : String) : Option (List Char) :=
  (opening.toList.isPrefixOf? s.toList).bind fun rest =>
    if closing.toList.isSuffixOf rest then some (rest.take (rest.length - closing.length))
    else none

def isLowerHex (c : Char) : Bool := c.isDigit || ('a' ≤ c && c ≤ 'f')

def greatestPart : Nat := 255

def isColourNumber (cs : List Char) : Bool :=
  cs.length ≤ 3 && cs.all Char.isDigit && (Text.numeral? cs).any (· ≤ greatestPart)

/-- Whether three numbers with commas between them are the parts of a colour. A text with other
signs is none; a part without digits is a fault. -/
def areColourParts (cs : List Char) : Except Text.NumeralFault Bool :=
  let parts := cs.splitOn ','
  if parts.length = 3 && cs.all (fun c => c == ',' || Text.isDecimal c) then
    (parts.mapM Text.readNumeral).map (·.all (· ≤ greatestPart))
  else .ok false

def isColour (word : String) : Except Text.NumeralFault Bool :=
  if word = "default" || colourNames.contains word ||
      (between? "#" "" word).any (fun cs => cs.length = 6 && cs.all isLowerHex) ||
      (between? "color(" ")" word).any isColourNumber then .ok true
  else
    match between? "rgb(" ")" word with
    | some cs => areColourParts cs
    | none => .ok false

structure Style where
  attributes : List (String × Bool) := []
  colour : Option String := none
  background : Option String := none
  link : Option String := none

namespace Style

def set (s : Style) (name : String) (on : Bool) : Style :=
  { s with attributes := (name, on) :: s.attributes }

def small (word : String) : String := String.ofList (Text.lowercase word.toList)

/-- The style that words ask for after those of a style, if all of them are understood. A faulty
part of a colour counts if the words before it are understood. -/
def ofWords? (s : Style) : List String → Except Text.NumeralFault (Option Style)
  | [] => .ok (some s)
  | word :: rest =>
    match small word, rest with
    | "on", background :: rest => do
      if ← isColour (small background) then
        ofWords? { s with background := some (small background) } rest
      else return none
    | "on", [] => .ok none
    | "not", name :: rest =>
      match attribute? name with
      | some a => ofWords? (s.set a false) rest
      | none => .ok none
    | "not", [] => .ok none
    | "link", target :: rest => ofWords? { s with link := some target } rest
    | "link", [] => .ok none
    | w, rest =>
      match attribute? w with
      | some a => ofWords? (s.set a true) rest
      | none => do
        if ← isColour w then ofWords? { s with colour := some w } rest else return none

def read? (written : List Char) : Except Text.NumeralFault (Option Style) :=
  ofWords? {} ((Text.words written).map String.ofList)

def toWords (s : Style) : List String :=
  (attributeNames.flatMap fun name =>
    match s.attributes.lookup name with
    | some true => [name]
    | some false => ["not", name]
    | none => []) ++
  s.colour.toList ++
  (s.background.toList.flatMap fun colour => ["on", colour]) ++
  (s.link.toList.flatMap fun target => ["link", target])

def toString (s : Style) : String :=
  if s.toWords.isEmpty then "none" else " ".intercalate s.toWords

/-- The normal form of a written style. A text that is no style is its own normal form, in small
letters and without the blanks around it. -/
def normalForm (written : List Char) : Except Text.NumeralFault String :=
  (read? written).map fun style => match style with
    | some s => s.toString
    | none => String.ofList (Text.lowercase (Text.trim written))

end Style

end ComponentLinks.Terminal
