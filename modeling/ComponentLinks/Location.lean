import ComponentLinks.Path

/-!
# Locations

Where something stands in a text or in a file of the repository.

## Main definitions

* `Position`, `Range`: places and spans in a text.
* `Position.ofOffset`: the position of an offset in a text.
* `LineIndex.positionAt`: the same, found among the offsets at which the lines start.
* `Reference`: one occurrence of a component URL in a file.
-/
namespace ComponentLinks

/-- A line and a character in it, both counted from zero. -/
structure Position where
  line : Int
  character : Int
  deriving Repr, DecidableEq

namespace Position

/-- The position `offset` characters after a position, in the text that follows it. -/
def advance (p : Position) : List Char → Nat → Position
  | [], _ => p
  | _, 0 => p
  | c :: rest, offset + 1 =>
    if c = '\n' then advance ⟨p.line + 1, 0⟩ rest offset
    else advance ⟨p.line, p.character + 1⟩ rest offset

def ofOffset (text : List Char) (offset : Nat) : Position := advance ⟨0, 0⟩ text offset

end Position

/-! ## Line indices -/

/-- The offsets right after the newlines of a text that starts at `offset`. -/
def Text.startsAfter (offset : Nat) : List Char → List Nat
  | [] => []
  | c :: rest =>
    if c = '\n' then (offset + 1) :: startsAfter (offset + 1) rest
    else startsAfter (offset + 1) rest

theorem Text.lt_of_mem_startsAfter {offset start : Nat} {cs : List Char}
    (h : start ∈ startsAfter offset cs) : offset < start := by
  induction cs generalizing offset with
  | nil => simp [startsAfter] at h
  | cons c cs ih =>
    rw [startsAfter] at h
    split at h
    · rcases List.mem_cons.1 h with rfl | h
      · exact Nat.lt_succ_self offset
      · exact Nat.lt_of_succ_lt (ih h)
    · exact Nat.lt_of_succ_lt (ih h)

theorem Text.pairwise_startsAfter (offset : Nat) (cs : List Char) :
    (startsAfter offset cs).Pairwise (· < ·) := by
  induction cs generalizing offset with
  | nil => exact .nil
  | cons c cs ih =>
    rw [startsAfter]
    split
    · exact .cons (fun _ => lt_of_mem_startsAfter) (ih _)
    · exact ih _

/-- The offsets at which the lines of a text start, in order. -/
structure LineIndex where
  starts : List Nat
  sorted : starts.Pairwise (· < ·)

namespace LineIndex

def ofText (text : List Char) : LineIndex where
  starts := 0 :: Text.startsAfter 0 text
  sorted := .cons (fun _ => Text.lt_of_mem_startsAfter) (Text.pairwise_startsAfter 0 text)

/-- The number of lines that start at an offset or before it. The starts are in order, so these
lines come first. -/
def countUpTo (x : LineIndex) (offset : Nat) : Nat := (x.starts.takeWhile (· ≤ offset)).length

/-- The position of an offset: the last of the lines that start up to there, and the character in
it. -/
def positionAt (x : LineIndex) (offset : Nat) : Position :=
  let line := x.countUpTo offset - 1
  ⟨line, offset - x.starts.getD line 0⟩

end LineIndex

/-- The span from one position up to another. -/
structure Range where
  start : Position
  stop : Position
  deriving Repr, DecidableEq

/-- One occurrence of a component URL in a file. Line and column are counted from zero. -/
structure Reference where
  source : Path
  line : Int
  column : Int
  length : Int
  deriving Repr, DecidableEq

namespace Reference

/-- The span of the occurrence in its file. -/
def range (r : Reference) : Range :=
  ⟨⟨r.line, r.column⟩, ⟨r.line, r.column + r.length⟩⟩

/-- The written form: file, line and column, the latter two counted from one. -/
def toString (r : Reference) : String :=
  r.source.toString ++ ":" ++ ToString.toString (r.line + 1) ++ ":" ++
    ToString.toString (r.column + 1)

end Reference

end ComponentLinks
