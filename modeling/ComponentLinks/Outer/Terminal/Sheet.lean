import ComponentLinks.CommandLine.Console
import ComponentLinks.Outer.Terminal.Markup

/-!
# Tables and panels on a terminal

A table has a title and rows of two cells; cells of several lines stand side by side. Its columns
are as wide as their widest cells, if the terminal has room for them. A panel has a title and lines.

## Main definitions

* `Terminal.sharedWidths`: the widths of two columns.
* `Terminal.sheetLines`, `Terminal.panel`: tables and panels.
* `Terminal.console`: the terminal as a console.
* `Terminal.plainLines`: lines as their words.
-/
namespace ComponentLinks.Terminal

open CommandLine (Console Printed Sheet)

/-! ## Columns -/

def padding : Nat := 2

def frameWidth : Nat := 3

/-- The width that a cell asks for: that of its widest line with the blanks beside it. All line
boundaries count here. -/
def cellWidth (room : Nat) (text : List Char) : Nat :=
  min room (((Text.boundaryLines text).map Text.width).foldr max 0 + padding)

def columnWidth (room : Nat) (texts : List (List Char)) : Nat :=
  (texts.map (cellWidth room)).foldr max 0

def halfToEven (n : Nat) : Nat := if n % 4 = 3 then n / 2 + 1 else n / 2

/-- The widths of two columns that ask for `a` and `b`. What is too much is first taken from the
wider one, and then from both alike. -/
def sharedWidths (room a b : Nat) : Nat × Nat :=
  let excess := a + b - room
  if excess ≤ a - b then (a - excess, b)
  else if excess ≤ b - a then (a, b - excess)
  else
    let common := min a b
    let left := 2 * common - room
    (common - halfToEven left, common - (left - halfToEven left))

/-! ## Tables -/

def beside : List (List Char) → List (List Char) → List (List Char)
  | l :: ls, r :: rs => (l ++ ' ' :: r) :: beside ls rs
  | ls, [] => ls
  | [], rs => rs

/-- The lines of a table: its title, its heads and its rows. Of several faults in the markup the
one in the first column comes first, and one in the title last; the styles are read after that,
those of the title first and then those of the rows. -/
def sheetLines (width : Nat) (s : Sheet) : Except MarkupError (List (List Char)) := do
  let left ← s.rows.mapM fun row => Rendered.ofMarkup row.1.toList
  let right ← s.rows.mapM fun row => Rendered.ofMarkup row.2.toList
  let heads := (s.columns.1.head.toList, s.columns.2.head.toList)
  let room := width - frameWidth
  let (a, b) := sharedWidths room (columnWidth room (heads.1 :: left.map (·.text)))
    (columnWidth room (heads.2 :: right.map (·.text)))
  let title ← (← Rendered.ofMarkup s.title.toList).lines (a + b + frameWidth) .broken
  let cells ← (left.zip right).mapM fun (l, r) => do
    return beside (← l.lines (a - padding) .cutOff) (← r.lines (b - padding) .cutOff)
  return title ++ [heads.1 ++ ' ' :: heads.2] ++ cells.flatten

/-! ## Panels -/

def panelFrameWidth : Nat := 4

def panel (width : Nat) (title text : List Char) : List (List Char) :=
  title :: wrapAll (width - panelFrameWidth) .broken (withoutControls text)

/-! ## The whole terminal -/

def shownLines (width : Nat) : Printed → Except MarkupError (List (List Char))
  | .markup text => do (← Rendered.ofMarkup text.toList).lines width .broken
  | .verbatim text =>
    .ok (wrapAll width .broken (withoutControls (showPictographs text.toList)))
  | .styled _ text => .ok (wrapAll width .broken (withoutControls text.toList))
  | .sheet s => sheetLines width s
  | .panel title text _ => .ok (panel width title.toList text.toList)

def console (width : Nat) : Console MarkupError := ⟨shownLines width⟩

/-! ## Words -/

def drawsBox (c : Char) : Bool := 0x2500 ≤ c.toNat && c.toNat ≤ 0x257F

def plainLine (line : List Char) : List Char :=
  List.intercalate [' '] (Text.words (line.map fun c => if drawsBox c then ' ' else c))

/-- Lines as their words, without the signs that draw boxes. Programs that look at the output of a
run see these. -/
def plainLines (lines : List (List Char)) : List String :=
  ((lines.map plainLine).filter (!·.isEmpty)).map String.ofList

end ComponentLinks.Terminal
