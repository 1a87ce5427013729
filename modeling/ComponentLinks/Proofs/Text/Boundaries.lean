import ComponentLinks.Proofs.Text.Lines

/-!
# Outputs put together

An output that is followed by a line boundary and another output has the lines of both. Only lines
that hold anything are counted: the boundary may add an empty one.

## Main definitions

* `Text.filledLines`: the lines of a text that are not empty.
* `Text.filledLines_append_boundary`: the lines of two texts with a boundary between them.
* `Text.lastLine`: what follows the last boundary of a text.
-/
namespace ComponentLinks.Text

theorem boundaryLines_cons_of_isLineBoundary {c : Char} {cs : List Char}
    (hc : isLineBoundary c = true) (hcs : c = '\r' → ∀ rest, cs ≠ '\n' :: rest) :
    boundaryLines (c :: cs) = [] :: boundaryLines cs := by
  rw [boundaryLines]
  · simp [hc]
  · rintro rest rfl heq
    exact hcs rfl rest heq

theorem boundaryLines_ne_nil {cs : List Char} (h : cs ≠ []) : boundaryLines cs ≠ [] := by
  fun_cases boundaryLines cs with
  | case1 => exact absurd rfl h
  | case2 | case3 => simp
  | case4 c rest =>
    cases boundaryLines rest <;> simp [consToLine]

theorem consToLine_append {c : Char} {lines : List (List Char)} (hne : lines ≠ [])
    (more : List (List Char)) : consToLine c (lines ++ more) = consToLine c lines ++ more := by
  obtain ⟨line, lines, rfl⟩ := List.exists_cons_of_ne_nil hne
  rfl

/-- A boundary at the beginning ends an empty line, also where another boundary is put in later:
only a carriage return at the end could go with it. -/
theorem boundaryLines_cons_append {c d : Char} {rest : List Char}
    (hd : isLineBoundary d = true) (hrest : ∀ more, d = '\r' → rest = '\n' :: more → False)
    (hne : ¬ (d = '\r' ∧ rest = [] ∧ c = '\n')) (ys : List Char) :
    boundaryLines (d :: rest ++ c :: ys) = [] :: boundaryLines (rest ++ c :: ys) := by
  refine boundaryLines_cons_of_isLineBoundary hd ?_
  rintro rfl more heq
  cases rest with
  | nil => exact hne ⟨rfl, rfl, (List.cons.inj heq).1⟩
  | cons e rest => exact hrest rest rfl (by rw [(List.cons.inj heq).1])

/-- A text falls into the lines up to a boundary and those after it. -/
theorem boundaryLines_append_boundary {c : Char} (hc : isLineBoundary c = true)
    (xs : List Char) {ys : List Char} (hys : c = '\r' → ∀ rest, ys ≠ '\n' :: rest) :
    boundaryLines (xs ++ c :: ys) = boundaryLines (xs ++ [c]) ++ boundaryLines ys := by
  fun_induction boundaryLines xs with
  | case1 =>
    rw [List.nil_append, List.nil_append, boundaryLines_cons_of_isLineBoundary hc hys,
      boundaryLines_cons_of_isLineBoundary hc (by simp)]
    rfl
  | case2 rest ih => simp [boundaryLines, ih]
  | case3 d rest hrest hd ih =>
    by_cases hreturn : d = '\r' ∧ rest = [] ∧ c = '\n'
    · obtain ⟨rfl, rfl, rfl⟩ := hreturn
      simp [boundaryLines]
    · rw [boundaryLines_cons_append hd hrest hreturn, boundaryLines_cons_append hd hrest hreturn,
        ih]
      rfl
  | case4 d rest hrest hd ih =>
    have hplain : isLineBoundary d = false := by simpa using hd
    rw [List.cons_append, List.cons_append, boundaryLines_cons hplain, boundaryLines_cons hplain,
      ih, consToLine_append (boundaryLines_ne_nil (by simp))]

/-- A boundary at the end of a text ends its last line, or adds an empty one. -/
theorem boundaryLines_concat_boundary {c : Char} (hc : isLineBoundary c = true)
    (xs : List Char) :
    boundaryLines (xs ++ [c]) = boundaryLines xs ∨
      boundaryLines (xs ++ [c]) = boundaryLines xs ++ [[]] := by
  fun_induction boundaryLines xs with
  | case1 =>
    rw [List.nil_append, boundaryLines_cons_of_isLineBoundary hc (by simp)]
    exact .inr rfl
  | case2 rest ih =>
    rcases ih with ih | ih <;> simp [boundaryLines, ih]
  | case3 d rest hrest hd ih =>
    by_cases hreturn : d = '\r' ∧ rest = [] ∧ c = '\n'
    · obtain ⟨rfl, rfl, rfl⟩ := hreturn
      simp [boundaryLines]
    · rw [boundaryLines_cons_append hd hrest hreturn]
      rcases ih with ih | ih <;> simp [ih]
  | case4 d rest hrest hd ih =>
    have hplain : isLineBoundary d = false := by simpa using hd
    rw [List.cons_append, boundaryLines_cons hplain]
    rcases ih with ih | ih
    · exact .inl (by rw [ih])
    · cases rest with
      | nil => exact .inl (by rw [ih]; rfl)
      | cons e rest =>
        exact .inr (by rw [ih, consToLine_append (boundaryLines_ne_nil (by simp))])

theorem mem_of_mem_boundaryLines {cs line : List Char} (h : line ∈ boundaryLines cs) {d : Char}
    (hd : d ∈ line) : d ∈ cs := by
  fun_induction boundaryLines cs generalizing line with
  | case1 => simp at h
  | case2 rest ih =>
    rcases List.mem_cons.1 h with rfl | h
    · simp at hd
    · simp [ih h hd]
  | case3 c rest hrest hc ih =>
    rcases List.mem_cons.1 h with rfl | h
    · simp at hd
    · simp [ih h hd]
  | case4 c rest hrest hc ih =>
    cases hlines : boundaryLines rest with
    | nil =>
      obtain rfl : line = [c] := by simpa [hlines, consToLine] using h
      simp_all
    | cons first lines =>
      rw [hlines, consToLine] at h
      rcases List.mem_cons.1 h with rfl | h
      · rcases List.mem_cons.1 hd with rfl | hd
        · simp
        · exact List.mem_cons_of_mem _ (ih (by simp [hlines]) hd)
      · exact List.mem_cons_of_mem _ (ih (by simp [hlines, h]) hd)

/-! ## Lines that hold anything -/

/-- The lines of a text that are not empty. -/
def filledLines (cs : List Char) : List (List Char) := (boundaryLines cs).filter (!·.isEmpty)

theorem mem_filledLines_iff {cs line : List Char} :
    line ∈ filledLines cs ↔ line ∈ boundaryLines cs ∧ line ≠ [] := by
  simp [filledLines]

/-- Texts with a boundary between them have each their own lines. All that is said about the lines
of texts put together follows from this equation. -/
theorem filledLines_append_boundary {c : Char} (hc : isLineBoundary c = true)
    (xs : List Char) {ys : List Char} (hys : c = '\r' → ∀ rest, ys ≠ '\n' :: rest) :
    filledLines (xs ++ c :: ys) = filledLines xs ++ filledLines ys := by
  have hxs : filledLines (xs ++ [c]) = filledLines xs := by
    unfold filledLines
    rcases boundaryLines_concat_boundary hc xs with h | h <;> simp [h]
  rw [← hxs]
  unfold filledLines
  rw [boundaryLines_append_boundary hc xs hys, List.filter_append]

theorem filledLines_append_newline (xs ys : List Char) :
    filledLines (xs ++ '\n' :: ys) = filledLines xs ++ filledLines ys :=
  filledLines_append_boundary (by decide) xs (by simp)

theorem filledLines_of_isLine {line : List Char} (h : IsLine line) (hne : line ≠ []) :
    filledLines line = [line] := by
  simp [filledLines, boundaryLines_of_isLine h hne, hne]

theorem filledLines_intercalate (texts : List (List Char)) :
    filledLines (List.intercalate ['\n'] texts) = texts.flatMap filledLines := by
  induction texts with
  | nil => rfl
  | cons text texts ih =>
    cases texts with
    | nil => simp
    | cons next texts =>
      have hjoin : List.intercalate ['\n'] (text :: next :: texts) =
          text ++ '\n' :: List.intercalate ['\n'] (next :: texts) := by
        simp [List.intercalate]
      rw [hjoin, filledLines_append_newline, ih]
      rfl

/-! ## The first line -/

/-- A line before a text goes on with the first line of the text. -/
theorem boundaryLines_append_of_isLine {line : List Char} (h : IsLine line) (hne : line ≠ [])
    (cs : List Char) :
    boundaryLines (line ++ cs) =
      (line ++ (boundaryLines cs).headD []) :: (boundaryLines cs).tail := by
  induction line with
  | nil => exact absurd rfl hne
  | cons c line ih =>
    rw [List.cons_append, boundaryLines_cons (h c (by simp))]
    cases line with
    | nil =>
      rw [List.nil_append]
      cases boundaryLines cs <;> rfl
    | cons d line =>
      rw [ih (fun e he => h e (by simp [he])) (by simp)]
      rfl

theorem headD_boundaryLines_prefix (cs : List Char) : (boundaryLines cs).headD [] <+: cs := by
  fun_induction boundaryLines cs with
  | case1 | case2 | case3 => exact List.nil_prefix
  | case4 c rest hrest hc ih =>
    cases hlines : boundaryLines rest with
    | nil => simp [consToLine]
    | cons line lines =>
      rw [hlines] at ih
      exact (List.prefix_cons_inj c).2 ih

/-! ## The last line -/

def lastLine (cs : List Char) : List Char :=
  (cs.reverse.takeWhile fun c => !isLineBoundary c).reverse

theorem isLine_lastLine (cs : List Char) : IsLine (lastLine cs) := by
  intro c hc
  have h := List.mem_takeWhile_imp (List.mem_reverse.1 hc)
  simpa using h

theorem lastLine_suffix (cs : List Char) : lastLine cs <:+ cs := by
  rw [lastLine, ← List.reverse_prefix, List.reverse_reverse]
  exact List.takeWhile_prefix _

theorem eq_lastLine_or (cs : List Char) :
    cs = lastLine cs ∨ ∃ before c, isLineBoundary c = true ∧ cs = before ++ c :: lastLine cs := by
  have hsplit := List.takeWhile_append_dropWhile (p := fun c => !isLineBoundary c) (l := cs.reverse)
  cases hdrop : cs.reverse.dropWhile fun c => !isLineBoundary c with
  | nil =>
    left
    rw [hdrop, List.append_nil] at hsplit
    rw [lastLine, hsplit, List.reverse_reverse]
  | cons c rest =>
    right
    have hc : isLineBoundary c = true := by
      have := List.head?_dropWhile_not (fun c => !isLineBoundary c) cs.reverse
      rw [hdrop] at this
      simpa using this
    refine ⟨rest.reverse, c, hc, ?_⟩
    rw [hdrop] at hsplit
    have hreverse := congrArg List.reverse hsplit
    rw [List.reverse_reverse, List.reverse_append, List.reverse_cons, List.append_assoc] at hreverse
    exact hreverse.symm

end ComponentLinks.Text
