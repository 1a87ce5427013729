import ComponentLinks.Text.Blank
import ComponentLinks.Text.Lines
import ComponentLinks.Outer.Text.Width

/-!
# Lines of limited width

A line that is too wide for its place is broken before words. Blanks between words stay at the end
of the line before the break, where those beyond the limit are dropped. A word that is too wide for
any line is either broken itself or cut off.

## Main definitions

* `Terminal.expandTabs`: a line with blanks for its tabs.
* `Terminal.spacedWords`: the words of a line with the blanks around them.
* `Terminal.fill`: the lines that words fill.
* `Terminal.wrap`: the lines of limited width that a line is broken into.
-/
namespace ComponentLinks.Terminal

open Text (charWidth width isBlank dropTrailing consToLine)

inductive Overlong where
  | broken
  | cutOff
  deriving Repr, DecidableEq

def tabDistance : Nat := 8

def expandTabs (n : Nat) : List Char → List Char
  | [] => []
  | c :: rest =>
    if c = '\t' then
      let blanks := tabDistance - n % tabDistance
      List.replicate blanks ' ' ++ expandTabs (n + blanks) rest
    else c :: expandTabs (n + charWidth c) rest

def spacedWords (line : List Char) : List (List Char) :=
  match line.splitBy fun a b => !isBlank a || isBlank b with
  | first :: second :: rest =>
    if first.all isBlank then (first ++ second) :: rest else first :: second :: rest
  | ws => ws

def broken (limit : Nat) : (used : Nat) → List Char → List (List Char)
  | _, [] => [[]]
  | used, c :: rest =>
    if limit < used + charWidth c then [] :: consToLine c (broken limit (charWidth c) rest)
    else consToLine c (broken limit (used + charWidth c) rest)

/-- The lines that words fill, of which the first one begins with `line`. A word goes to the next
line if it does not fit with the blanks after it left aside. -/
def fill (limit : Nat) (o : Overlong) (line : List Char) : List (List Char) → List (List Char)
  | [] => [line]
  | word :: rest =>
    let needed := width (dropTrailing isBlank word)
    if width line + needed ≤ limit then fill limit o (line ++ word) rest
    else
      (if line.isEmpty then [] else [line]) ++
        if limit < needed && o = .broken then
          let parts := broken limit 0 word
          parts.dropLast ++ fill limit o (parts.getLastD []) rest
        else fill limit o word rest

def dropExcess (limit : Nat) (line : List Char) : List Char :=
  line.take (max limit (dropTrailing isBlank line).length)

/-- The longest beginning of a line that fits, with a blank where half a character would fit. -/
def beginning : (limit : Nat) → List Char → List Char
  | 0, _ => []
  | _, [] => []
  | limit, c :: rest =>
    if charWidth c ≤ limit then c :: beginning (limit - charWidth c) rest else [' ']

def cutTo (limit : Nat) (o : Overlong) (line : List Char) : List Char :=
  if width line ≤ limit then line
  else
    match o with
    | .broken => beginning limit line
    | .cutOff => beginning (limit - 1) line ++ ['…']

def wrap (limit : Nat) (o : Overlong) (line : List Char) : List (List Char) :=
  (fill limit o [] (spacedWords (expandTabs 0 line))).map fun l =>
    cutTo limit o (dropExcess limit l)

def wrapAll (limit : Nat) (o : Overlong) (text : List Char) : List (List Char) :=
  (text.splitOn '\n').flatMap (wrap limit o)

end ComponentLinks.Terminal
