/-!
# Lines of a text

Two ways of cutting a text into lines. The lines of a file end at newlines, once carriage returns
have been read as newlines. The lines of a program's output end at every line boundary.

## Main definitions

* `Text.unifyNewlines`: carriage returns read as newlines.
* `Text.fileLines`: the lines of a text that has newlines only.
* `Text.boundaryLines`: the lines of a text with any line boundaries.
-/
namespace ComponentLinks.Text

/-- The pieces between separators hold what the text holds, except for the separators. -/
theorem mem_and_ne_of_mem_splitOn {separator : Char} {cs piece : List Char}
    (h : piece ∈ cs.splitOn separator) {d : Char} (hd : d ∈ piece) : d ∈ cs ∧ d ≠ separator := by
  induction cs generalizing piece with
  | nil => simp_all
  | cons c cs ih =>
    obtain ⟨first, pieces, hpieces⟩ :=
      List.exists_cons_of_ne_nil (List.splitOn_ne_nil separator cs)
    have hlater {piece : List Char} (h : piece ∈ first :: pieces) (hd : d ∈ piece) :
        d ∈ c :: cs ∧ d ≠ separator :=
      (ih (hpieces ▸ h) hd).imp_left (List.mem_cons_of_mem c)
    rw [List.splitOn_cons_eq_if_modifyHead, hpieces] at h
    by_cases hc : c = separator
    · rw [if_pos (by simpa using hc)] at h
      rcases List.mem_cons.1 h with rfl | h
      · simp at hd
      · exact hlater h hd
    · rw [if_neg (by simpa using hc), List.modifyHead_cons] at h
      rcases List.mem_cons.1 h with rfl | h
      · rcases List.mem_cons.1 hd with rfl | hd
        · exact ⟨by simp, hc⟩
        · exact hlater (by simp) hd
      · exact hlater (by simp [h]) hd

/-- A text with every carriage return, alone or before a newline, read as one newline. -/
def unifyNewlines : List Char → List Char
  | [] => []
  | '\r' :: '\n' :: rest => '\n' :: unifyNewlines rest
  | '\r' :: rest => '\n' :: unifyNewlines rest
  | c :: rest => c :: unifyNewlines rest

def consToLine (c : Char) : List (List Char) → List (List Char)
  | [] => [[c]]
  | line :: lines => (c :: line) :: lines

/-- The lines of a text, each ended by a newline; the last line may lack it. -/
def fileLines : List Char → List (List Char)
  | [] => []
  | c :: rest => if c = '\n' then [] :: fileLines rest else consToLine c (fileLines rest)

/-- The characters that end a line of a program's output. -/
def lineBoundaries : List Char :=
  ['\n', '\r', '\x0b', '\x0c', '\x1c', '\x1d', '\x1e', '\u0085', '\u2028', '\u2029']

/-- Whether a character ends a line of a program's output. -/
def isLineBoundary (c : Char) : Bool := lineBoundaries.contains c

/-- The lines of a text, each ended by a line boundary, of which a carriage return before a
newline is a part; the last line may lack it. -/
def boundaryLines : List Char → List (List Char)
  | [] => []
  | '\r' :: '\n' :: rest => [] :: boundaryLines rest
  | c :: rest =>
    if isLineBoundary c then [] :: boundaryLines rest else consToLine c (boundaryLines rest)

end ComponentLinks.Text
