/-!
# Consoles

The commands print on a console, which is no part of this library. They say what is printed and how
it is to be read; how the lines look, and which markup is refused, is up to the console.

## Main definitions

* `CommandLine.Printed`: what is printed.
* `CommandLine.Console`: a console, by what it shows.
* `CommandLine.Console.printAll`: printing one thing after the other.
-/
namespace ComponentLinks.CommandLine

structure Column where
  head : String
  alignsRight : Bool := false
  deriving Repr, DecidableEq

/-- A table with two columns. Title and cells are read as markup. -/
structure Sheet where
  title : String
  columns : Column × Column
  rows : List (String × String)
  deriving Repr, DecidableEq

/-- One thing that is printed: a text that is read as markup, one with markup switched off, one in a
style, or a panel with a frame in a style. -/
inductive Printed where
  | markup (text : String)
  | verbatim (text : String)
  | styled (style text : String)
  | sheet (s : Sheet)
  | panel (title text frame : String)
  deriving Repr, DecidableEq

/-- A console: the lines that it shows for what is printed, or why it refuses that. -/
structure Console (ε : Type) where
  lines : Printed → Except ε (List (List Char))

/-- Prints one thing after the other, up to the first one that is refused. -/
def Console.printAll {ε : Type} (c : Console ε) (ps : List Printed) :
    Except ε (List (List Char)) :=
  (ps.mapM c.lines).map List.flatten

end ComponentLinks.CommandLine
