import ComponentLinks.Text.Blank

/-!
# Statements of the dependency log

The build's dependency log is read line by line. A line that ends in an odd number of dollar signs
goes on with the next line, because two dollar signs are an escaped one. A statement is a line
together with the lines that it goes on with, joined by newlines.

## Main definitions

* `Statement.content`: a physical line without its terminator.
* `Statement.isContinued`: whether a line goes on with the next one.
* `Statement.ofLines`: the statements of a log.
-/
namespace ComponentLinks

namespace Statement

def isTerminator (c : Char) : Bool := c == '\r' || c == '\n'

/-- A physical line without the terminators at its end. -/
def content (line : List Char) : List Char := Text.dropTrailing isTerminator line

def trailingDollars (line : List Char) : Nat := (line.reverse.takeWhile (· == '$')).length

/-- Whether a line goes on with the next one: it ends in an odd number of dollar signs. -/
def isContinued (line : List Char) : Bool := trailingDollars line % 2 == 1

def consToFirst (line : List Char) : List (List (List Char)) → List (List (List Char))
  | [] => [[line]]
  | group :: groups => (line :: group) :: groups

def groups : List (List Char) → List (List (List Char))
  | [] => []
  | line :: lines =>
    if isContinued (content line) then consToFirst (content line).dropLast (groups lines)
    else [content line] :: groups lines

/-- The statements of a log, given its physical lines with or without their terminators. -/
def ofLines (lines : List (List Char)) : List (List Char) :=
  (groups lines).map (List.intercalate ['\n'])

@[simp] theorem groups_nil : groups [] = [] := rfl

theorem groups_cons_of_isContinued {line : List Char} (h : isContinued (content line) = true)
    (lines : List (List Char)) :
    groups (line :: lines) = consToFirst (content line).dropLast (groups lines) := by
  simp [groups, h]

theorem groups_cons_of_not_isContinued {line : List Char}
    (h : isContinued (content line) = false) (lines : List (List Char)) :
    groups (line :: lines) = [content line] :: groups lines := by
  simp [groups, h]

end Statement

end ComponentLinks
