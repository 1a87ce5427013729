import ComponentLinks.Pattern.Source

/-!
# The search expression

The expression with which the repository is searched for lines that may hold a component URL. It
is coarser than the pattern of component URLs, in the notation of extended regular expressions.

## Main definitions

* `Search.Piece`: one piece of an expression, with its written form and the texts it accepts.
* `Search.expression`: the expression for component URLs.
* `Search.Accepts`: the texts that an expression accepts.
* `Search.command`: the command that runs the search.
-/
namespace ComponentLinks.Search

/-- One piece of a search expression. -/
inductive Piece where
  | text (s : String)
  | anyChar
  | runExcept (c : Char)
  | nameRun
  | optional (c : Char)
  deriving Repr, DecidableEq

def Piece.source : Piece → String
  | text s => String.ofList (s.toList.flatMap escapeSign)
  | anyChar => "."
  | runExcept c => "([^" ++ String.ofList [c] ++ "]*)"
  | nameRun => "(-|\\w)*"
  | optional c => String.ofList [c] ++ "?"

def Piece.Accepts : Piece → List Char → Prop
  | text s, cs => cs = s.toList
  | anyChar, cs => ∃ c, cs = [c]
  | runExcept c, cs => ∀ d ∈ cs, d ≠ c
  | nameRun, cs => ∀ d ∈ cs, Text.isName d = true
  | optional c, cs => cs = [c] ∨ cs = []

/-- The expression for lines that may hold a component URL. -/
def expression : List Piece :=
  [.text "fuchsia-pkg://fuchsia", .anyChar, .text "com/", .runExcept '#', .text "#meta/",
   .nameRun, .text ".cm", .optional 'x']

def Accepts : List Piece → List Char → Prop
  | [], cs => cs = []
  | p :: ps, cs => ∃ part rest, cs = part ++ rest ∧ p.Accepts part ∧ Accepts ps rest

def source (ps : List Piece) : String := String.join (ps.map Piece.source)

/-- The words of the command that runs the search, with every submodule and every text file. -/
def command : List String :=
  ["git", "--no-pager", "grep", "--recurse-submodules", "-I", "--extended-regexp", "--line-number",
   "--no-column", "--no-color", source expression]

def commandLine : String := " ".intercalate command

end ComponentLinks.Search
