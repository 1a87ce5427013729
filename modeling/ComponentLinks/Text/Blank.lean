import ComponentLinks.Text.Ranges

/-!
# Blank characters

White space of every script, and cutting a text at its blanks.

## Main definitions

* `Text.isBlank`: the class.
* `Text.trim`: a text without the blanks at its two ends.
* `Text.words`: the maximal runs of characters that are not blank.
-/
namespace ComponentLinks.Text

/-- The blanks: ASCII spacing and separator controls, and the spaces of every script. -/
def blankRanges : List (Nat × Nat) :=
  [(0x9, 0xD), (0x1C, 0x20), (0x85, 0x85), (0xA0, 0xA0), (0x1680, 0x1680), (0x2000, 0x200A),
   (0x2028, 0x2029), (0x202F, 0x202F), (0x205F, 0x205F), (0x3000, 0x3000)]

/-- White space: spaces, tabs, line and paragraph separators and the separator controls. -/
def isBlank (c : Char) : Bool :=
  inRanges blankRanges c.toNat

/-- A list without its longest tail of elements in a class. -/
def dropTrailing {α : Type} (p : α → Bool) (xs : List α) : List α :=
  (xs.reverse.dropWhile p).reverse

def trim (cs : List Char) : List Char :=
  dropTrailing isBlank (cs.dropWhile isBlank)

/-- The maximal runs of characters that are not blank, in order. -/
def words (cs : List Char) : List (List Char) :=
  (cs.splitOnP isBlank).filter (!·.isEmpty)

@[simp] theorem dropTrailing_nil {α : Type} (p : α → Bool) : dropTrailing p [] = [] := rfl

theorem dropTrailing_append_singleton {α : Type} (p : α → Bool) (xs : List α) (x : α) :
    dropTrailing p (xs ++ [x]) = if p x then dropTrailing p xs else xs ++ [x] := by
  by_cases h : p x <;> simp [dropTrailing, h]

end ComponentLinks.Text
