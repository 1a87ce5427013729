/-!
# Reading YAML text

A cursor into a YAML text knows its line and column, because layout carries meaning.

## Main definitions

* `Yaml.isBreak`, `Yaml.endsWord`, `Yaml.endsLine`: the characters that end lines and words.
* `Yaml.Cursor`: a place in a text, and how to go on from it.
-/
namespace ComponentLinks.Yaml

/-- Whether a character ends a line. Carriage returns have been read as newlines. -/
def isBreak (c : Char) : Bool := c == '\n' || c == '\u0085' || c == '\u2028' || c == '\u2029'

def endsLine (c : Option Char) : Bool := c.all isBreak

def endsWord (c : Option Char) : Bool := c.all fun d => d == ' ' || d == '\t' || isBreak d

def byteOrderMark : Char := '\uFEFF'

structure Cursor where
  rest : List Char
  index : Nat
  line : Nat
  column : Nat

namespace Cursor

def ofText (cs : List Char) : Cursor := ⟨cs, 0, 0, 0⟩

def peek (c : Cursor) : Option Char := c.rest.head?

def peekAt (c : Cursor) (n : Nat) : Option Char := c.rest[n]?

def next (c : Cursor) : Cursor :=
  match c.rest with
  | [] => c
  | x :: rest =>
    if isBreak x then ⟨rest, c.index + 1, c.line + 1, 0⟩
    else ⟨rest, c.index + 1, c.line, if x = byteOrderMark then c.column else c.column + 1⟩

def advance : Nat → Cursor → Cursor
  | 0, c => c
  | n + 1, c => advance n c.next

def run (p : Char → Bool) (c : Cursor) : List Char := c.rest.takeWhile p

def skip (p : Char → Bool) (c : Cursor) : Cursor := advance (c.run p).length c

def skipSpaces (c : Cursor) : Cursor := c.skip (· == ' ')

def skipLine (c : Cursor) : Cursor := c.skip (!isBreak ·)

def skipIndent (column : Nat) (c : Cursor) : Cursor :=
  advance ((c.rest.take (column - c.column)).takeWhile (· == ' ')).length c

def isMarker (c : Cursor) (marker : List Char) : Bool :=
  marker.isPrefixOf c.rest && endsWord (c.peekAt marker.length)

def isDocumentMarker (c : Cursor) : Bool :=
  c.isMarker "---".toList || c.isMarker "...".toList

/-- The line break at the place as it counts in a text: the separators of lines and paragraphs
stay, the others are newlines. -/
def lineBreak? (c : Cursor) : Option Char :=
  match c.peek with
  | some d => if isBreak d then some (if d = '\u0085' then '\n' else d) else none
  | none => none

end Cursor

end ComponentLinks.Yaml
