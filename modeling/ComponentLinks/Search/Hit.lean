import ComponentLinks.Text.Numeral

/-!
# Hits of a search

The search reports each line that it finds as a path, a line number and the text of the line, with
colons between them.

## Main definitions

* `Search.Hit`: one reported line.
* `Search.Hit.ofLine?`: reading a line of the search's output.
* `Search.Hit.render`: writing it.
-/
namespace ComponentLinks.Search

/-- One reported line, with the path of its file relative to where the search ran. Lines are counted
from zero. -/
structure Hit where
  path : List Char
  line : Int
  text : List Char
  deriving Repr, DecidableEq

/-- The text before the first colon and the text after it, if there is a colon. -/
def cutAtColon : List Char → Option (List Char × List Char)
  | [] => none
  | c :: rest =>
    if c = ':' then some ([], rest) else (cutAtColon rest).map fun cut => (c :: cut.1, cut.2)

namespace Hit

/-- The hit that a line reports. A line without two colons, or without digits between them, is no
hit; digits that are not read as a number are a fault. -/
def ofLine? (line : List Char) : Except Text.NumeralFault (Option Hit) :=
  match cutAtColon line with
  | none => .ok none
  | some (path, rest) =>
    match cutAtColon rest with
    | none => .ok none
    | some (digits, text) =>
      if digits.isEmpty || !digits.all Text.isDigit then .ok none
      else (Text.readNumeral digits).map fun n => some ⟨path, (n : Int) - 1, text⟩

/-- The line that reports a hit. -/
def render (h : Hit) : List Char :=
  h.path ++ ':' :: (toString (h.line + 1)).toList ++ ':' :: h.text

end Hit

theorem cutAtColon_eq_some_iff {line path rest : List Char} :
    cutAtColon line = some (path, rest) ↔ line = path ++ ':' :: rest ∧ ':' ∉ path := by
  induction line generalizing path with
  | nil => simp [cutAtColon]
  | cons c line ih =>
    by_cases hc : c = ':'
    · subst hc
      cases path with
      | nil => simp [cutAtColon]
      | cons d path => simp [cutAtColon]; grind
    · cases path with
      | nil => simp [cutAtColon, hc]
      | cons d path => simp [cutAtColon, hc, ih]; grind

end ComponentLinks.Search
