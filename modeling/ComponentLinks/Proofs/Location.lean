import ComponentLinks.Proofs.Url.Lines

/-!
# Positions and offsets

A position names a line and a character in it, so the offset of a position is where its line starts
and the character after that. The position of every offset of a text leads back to the offset, and
positions come in the order of their offsets.

## Main definitions

* `Text.lineStart`: where a line of a text starts.
* `Position.offsetIn`, `Range.textIn`: the offset of a position, and the text of a range.
* `Position.IsIn`: the positions of a text.
* `Position.Precedes`: the order of positions.
* `Position.offsetIn_ofOffset`: the position of an offset leads back to it.
* `Position.precedes_ofOffset`: a later offset has a later position.
* `LineIndex.positionAt_ofText`: the index of the lines gives the position of every offset.
-/
namespace ComponentLinks

/-! ## Where lines start -/

namespace Text

/-- The number of characters before a line of a text. The lines stand between newlines and are
counted from zero. -/
def lineStart (text : List Char) (line : Nat) : Nat :=
  (((text.splitOn '\n').take line).flatMap fun cs => cs ++ ['\n']).length

theorem flatMap_splitOn_newline (cs : List Char) :
    ((cs.splitOn '\n').flatMap fun line => line ++ ['\n']) = cs ++ ['\n'] := by
  induction cs with
  | nil => rfl
  | cons c cs ih =>
    obtain ⟨line, lines, -, hlines, -⟩ := exists_splitOn_newline cs
    rw [List.splitOn_cons_eq_if_modifyHead]
    by_cases hc : c = '\n'
    · rw [if_pos (by simpa using hc), List.flatMap_cons, ih, hc]
      rfl
    · rw [hlines, List.flatMap_cons] at ih
      rw [if_neg (by simpa using hc), hlines, List.modifyHead_cons, List.flatMap_cons,
        List.cons_append, List.cons_append, ih]
      rfl

@[simp] theorem lineStart_zero (text : List Char) : lineStart text 0 = 0 := by
  simp [lineStart]

theorem lineStart_append_newline (cs rest : List Char) :
    lineStart (cs ++ '\n' :: rest) (cs.splitOn '\n').length = cs.length + 1 := by
  rw [lineStart, List.splitOn_append_cons_self, List.take_left, flatMap_splitOn_newline,
    List.length_append, List.length_singleton]

/-- A text falls into whole lines and the characters of the line that comes after them. -/
theorem eq_line_or_exists_newline (cs : List Char) :
    '\n' ∉ cs ∨ ∃ lines line, cs = lines ++ '\n' :: line ∧ '\n' ∉ line := by
  induction cs with
  | nil => exact .inl List.not_mem_nil
  | cons c cs ih =>
    rcases ih with hcs | ⟨lines, line, rfl, hline⟩
    · by_cases hc : c = '\n'
      · exact .inr ⟨[], cs, by rw [hc]; rfl, hcs⟩
      · exact .inl (by simp [hcs, Ne.symm hc])
    · exact .inr ⟨c :: lines, line, rfl, hline⟩

/-- A text without a newline is in the first line of a text that goes on from it. -/
theorem exists_getElem?_splitOn_append {line : List Char} (hline : '\n' ∉ line)
    (rest : List Char) : ∃ tail, ((line ++ rest).splitOn '\n')[0]? = some (line ++ tail) := by
  obtain ⟨tail, lines, -, hlines, -⟩ := exists_splitOn_newline rest
  exact ⟨tail, by simp [splitOn_append_of_not_mem hline, hlines]⟩

end Text

/-! ## Offsets of positions -/

namespace Position

/-- The offset of a position in a text. -/
def offsetIn (text : List Char) (p : Position) : Nat :=
  Text.lineStart text p.line.toNat + p.character.toNat

/-- Whether a position stands in a text: on one of its lines, at most at the end of the line. -/
def IsIn (text : List Char) (p : Position) : Prop :=
  ∃ (line : Nat) (cs : List Char) (n : Nat), p = ⟨line, n⟩ ∧
    (text.splitOn '\n')[line]? = some cs ∧ n ≤ cs.length

theorem ofOffset_of_not_mem {text : List Char} (h : '\n' ∉ text) {n : Nat}
    (hn : n ≤ text.length) : ofOffset text n = ⟨0, n⟩ := by
  have hplace := advance_of_not_mem h ⟨0, 0⟩ [] hn
  rwa [List.append_nil, Int.zero_add] at hplace

/-- The position after a newline and part of a line. -/
theorem ofOffset_append_newline (lines : List Char) {line : List Char} (hline : '\n' ∉ line)
    (rest : List Char) :
    ofOffset ((lines ++ '\n' :: line) ++ rest) (lines ++ '\n' :: line).length =
      ⟨(lines.splitOn '\n').length, line.length⟩ := by
  have hsplit : (lines ++ '\n' :: line) ++ rest = (lines ++ ['\n']) ++ (line ++ rest) := by simp
  have hlength : (lines ++ '\n' :: line).length = (lines ++ ['\n']).length + line.length := by
    simp
    omega
  have hstart := advance_newline ⟨0, 0⟩ lines
  rw [← List.length_singleton (a := '\n'), ← List.length_append, Int.zero_add] at hstart
  rw [ofOffset, hsplit, hlength, advance_append, hstart,
    advance_of_not_mem hline _ _ (Nat.le_refl _), Int.zero_add]

/-- An offset lies on one of the lines, and its position counts the characters from where the line
starts. -/
theorem exists_ofOffset_eq {text : List Char} {n : Nat} (hn : n ≤ text.length) :
    ∃ (line : Nat) (cs : List Char) (m : Nat), ofOffset text n = ⟨line, m⟩ ∧
      (text.splitOn '\n')[line]? = some cs ∧ m ≤ cs.length ∧ Text.lineStart text line + m = n := by
  obtain ⟨before, rest, rfl, rfl⟩ : ∃ before rest, text = before ++ rest ∧ before.length = n :=
    ⟨text.take n, text.drop n, (List.take_append_drop n text).symm, List.length_take_of_le hn⟩
  rcases Text.eq_line_or_exists_newline before with hline | ⟨lines, line, rfl, hline⟩
  · obtain ⟨tail, htail⟩ := Text.exists_getElem?_splitOn_append hline rest
    refine ⟨0, _, before.length, ?_, htail, by simp, by simp⟩
    rw [ofOffset, advance_of_not_mem hline ⟨0, 0⟩ rest (Nat.le_refl _), Int.zero_add]
    rfl
  · obtain ⟨tail, htail⟩ := Text.exists_getElem?_splitOn_append hline rest
    refine ⟨_, line ++ tail, line.length, ofOffset_append_newline lines hline rest, ?_, ?_, ?_⟩
    · rw [List.append_assoc, List.cons_append, List.splitOn_append_cons_self,
        List.getElem?_append_right (Nat.le_refl _), Nat.sub_self, htail]
    · simp
    · rw [List.append_assoc, List.cons_append, Text.lineStart_append_newline]
      simp
      omega

/-- The position of an offset stands in the text. -/
theorem isIn_ofOffset {text : List Char} {n : Nat} (hn : n ≤ text.length) :
    (ofOffset text n).IsIn text := by
  obtain ⟨line, cs, m, hplace, hline, hm, -⟩ := exists_ofOffset_eq hn
  exact ⟨line, cs, m, hplace, hline, hm⟩

/-- The position of an offset leads back to it. -/
theorem offsetIn_ofOffset {text : List Char} {n : Nat} (hn : n ≤ text.length) :
    (ofOffset text n).offsetIn text = n := by
  obtain ⟨line, cs, m, hplace, -, -, hstart⟩ := exists_ofOffset_eq hn
  rw [hplace]
  exact hstart

/-! ## The order of positions -/

/-- Whether a position comes before another one: on an earlier line, or earlier on the same line. -/
def Precedes (p q : Position) : Prop :=
  p.line < q.line ∨ p.line = q.line ∧ p.character < q.character

instance (p q : Position) : Decidable (p.Precedes q) := inferInstanceAs (Decidable (_ ∨ _))

theorem Precedes.trans {p q r : Position} (hpq : p.Precedes q) (hqr : q.Precedes r) :
    p.Precedes r := by
  unfold Precedes at *
  omega

theorem precedes_advance (p : Position) {cs : List Char} {n : Nat} (hpos : 0 < n)
    (hn : n ≤ cs.length) : p.Precedes (p.advance cs n) := by
  induction cs generalizing p n with
  | nil =>
    rw [List.length_nil] at hn
    omega
  | cons c cs ih =>
    cases n with
    | zero => omega
    | succ n =>
      have hlater : ∀ q : Position, p.Precedes q → p.Precedes (q.advance cs n) := by
        intro q hq
        rcases Nat.eq_zero_or_pos n with rfl | hpos
        · rwa [advance_zero]
        · exact hq.trans (ih q hpos (by simpa using hn))
      rw [advance]
      split
      · exact hlater _ (.inl (by dsimp only; omega))
      · exact hlater _ (.inr ⟨rfl, by dsimp only; omega⟩)

/-- A later offset has a later position. -/
theorem precedes_ofOffset {text : List Char} {m n : Nat} (hlt : m < n) (hn : n ≤ text.length) :
    (ofOffset text m).Precedes (ofOffset text n) := by
  obtain ⟨before, rest, rfl, rfl⟩ : ∃ before rest, text = before ++ rest ∧ before.length = m :=
    ⟨text.take m, text.drop m, (List.take_append_drop m text).symm,
      List.length_take_of_le (by omega)⟩
  obtain ⟨d, rfl⟩ := Nat.exists_eq_add_of_le hlt.le
  have hstart := advance_append ⟨0, 0⟩ before rest 0
  rw [Nat.add_zero, advance_zero] at hstart
  rw [ofOffset, ofOffset, hstart, advance_append]
  exact precedes_advance _ (by omega) (by simpa using hn)

end Position

/-! ## Line indices -/

namespace LineIndex

theorem countUpTo_exact (x : LineIndex) (offset : Nat) :
    (∀ start ∈ x.starts.take (x.countUpTo offset), start ≤ offset) ∧
      ∀ start ∈ x.starts.drop (x.countUpTo offset), offset < start := by
  have hsplit := List.takeWhile_append_dropWhile (p := (· ≤ offset)) (l := x.starts)
  have htake : x.starts.take (x.countUpTo offset) = x.starts.takeWhile (· ≤ offset) :=
    (List.prefix_iff_eq_take.1 (List.takeWhile_prefix _)).symm
  have hdrop : x.starts.drop (x.countUpTo offset) = x.starts.dropWhile (· ≤ offset) := by
    nth_rewrite 1 [← hsplit]
    exact List.drop_left
  have hsorted : (x.starts.dropWhile (· ≤ offset)).Pairwise (· < ·) :=
    x.sorted.sublist (List.dropWhile_sublist _)
  rw [htake, hdrop]
  refine ⟨fun start h => by simpa using List.mem_takeWhile_imp h, fun start h => ?_⟩
  -- The first start that is left is greater, and the others are greater than that.
  cases hrest : x.starts.dropWhile (· ≤ offset) with
  | nil => simp [hrest] at h
  | cons first rest =>
    have hfirst : offset < first := by
      have hnot := List.head?_dropWhile_not (· ≤ offset) x.starts
      simpa [hrest] using hnot
    rw [hrest] at h hsorted
    rcases List.mem_cons.1 h with rfl | h
    · exact hfirst
    · exact hfirst.trans (List.rel_of_pairwise_cons hsorted h)

section Starts

variable {line start offset n : Nat}

/-- No line starts at an offset that comes before all of them. -/
theorem takeWhile_startsAfter (offset : Nat) (cs : List Char) :
    (Text.startsAfter offset cs).takeWhile (· ≤ offset) = [] := by
  rw [List.takeWhile_eq_nil_iff]
  intro h hle
  have hlt := Text.lt_of_mem_startsAfter (List.getElem_mem h)
  simp only [List.get_eq_getElem, decide_eq_true_eq] at hle
  omega

/-- The position that the text leads to, from any position on, is found among the starts of the
lines that come after it. -/
theorem advance_eq_of_startsAfter (hstart : start ≤ offset) {cs : List Char} (hn : n ≤ cs.length) :
    Position.advance ⟨line, offset - start⟩ cs n =
      let count := ((Text.startsAfter offset cs).takeWhile (· ≤ offset + n)).length
      ⟨line + count, (offset + n : Nat) - (start :: Text.startsAfter offset cs).getD count 0⟩ := by
  induction cs generalizing line start offset n with
  | nil =>
    obtain rfl : n = 0 := by simpa using hn
    simp [Position.advance, Text.startsAfter]
  | cons c cs ih =>
    cases n with
    | zero => simp [takeWhile_startsAfter]
    | succ n =>
      have hn : n ≤ cs.length := by simpa using hn
      have hnext : offset + (n + 1) = offset + 1 + n := by omega
      rw [Position.advance, Text.startsAfter, hnext]
      split
      · have hzero : (0 : Int) = (offset + 1 : Nat) - (offset + 1 : Nat) := by omega
        have hline : (line : Int) + 1 = (line + 1 : Nat) := rfl
        rw [hzero, hline, ih (Nat.le_refl _) hn]
        simp
        omega
      · have hcharacter : (offset : Int) - start + 1 = (offset + 1 : Nat) - start := by omega
        rw [hcharacter, ih (Nat.le_succ_of_le hstart) hn]

end Starts

/-- An offset has the position in the index of the lines that it has in the text. -/
theorem positionAt_ofText {text : List Char} {n : Nat} (hn : n ≤ text.length) :
    (ofText text).positionAt n = .ofOffset text n := by
  have hplace := @advance_eq_of_startsAfter 0 0 0 n (Nat.le_refl _) text hn
  simpa [positionAt, countUpTo, ofText, Position.ofOffset] using hplace.symm

end LineIndex

/-- The text of a range. -/
def Range.textIn (text : List Char) (r : Range) : List Char :=
  (text.take (r.stop.offsetIn text)).drop (r.start.offsetIn text)

end ComponentLinks
