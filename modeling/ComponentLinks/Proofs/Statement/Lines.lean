import ComponentLinks.Proofs.Text.Classes
import ComponentLinks.Statement.Basic
import Mathlib.Data.List.Forall2

/-!
# The lines of statements

The statements of a log are its lines, cut after each line that does not go on. Nothing is lost: the
lines are found again in the parts of the statements, with the marker put back behind each part that
another one follows. Where the log ends in a line that goes on, its last statement is cut off.

## Main definitions

* `Statement.IsPhysical`: a line as it is found in a log.
* `Statement.linesOf`, `Statement.statementLines`: the lines of a statement, and of all statements.
* `Statement.IsOneStatement`: lines of which all but the last go on.
* `Statement.ofLines_congr`: the terminators of the lines do not matter.
* `Statement.ofLines_append`: a log that is cut after a whole statement.
* `Statement.statementLines_ofLines`: statements keep their lines.
-/
namespace ComponentLinks

namespace Statement

open Text

/-! ## Lines -/

/-- Whether a text is found as the line `physical` of a log, with or without terminators. -/
def IsPhysical (physical line : List Char) : Prop :=
  ∃ ending, physical = line ++ ending ∧ ∀ c ∈ ending, isTerminator c = true

variable {physical line : List Char}

theorem IsPhysical.content_eq_content (h : IsPhysical physical line) :
    content physical = content line := by
  obtain ⟨ending, rfl, hending⟩ := h
  exact dropTrailing_append hending line

theorem IsPhysical.content_eq (h : IsPhysical physical line)
    (hline : ∀ c ∈ line.getLast?, isTerminator c = false) : content physical = line := by
  rw [h.content_eq_content, content, dropTrailing_eq_self hline]

theorem trailingDollars_append_dollar (line : List Char) :
    trailingDollars (line ++ ['$']) = trailingDollars line + 1 := by
  simp [trailingDollars]

theorem trailingDollars_eq_zero (h : line.getLast? ≠ some '$') : trailingDollars line = 0 := by
  rcases List.eq_nil_or_concat line with rfl | ⟨xs, x, rfl⟩
  · rfl
  · have hx : x ≠ '$' := by simpa using h
    simp [trailingDollars, hx]

theorem isContinued_eq_false (h : line.getLast? ≠ some '$') : isContinued line = false := by
  simp [isContinued, trailingDollars_eq_zero h]

theorem isContinued_append_dollar (h : line.getLast? ≠ some '$') :
    isContinued (line ++ ['$']) = true := by
  simp [isContinued, trailingDollars_append_dollar, trailingDollars_eq_zero h]

/-- A line that goes on ends in its marker. -/
theorem exists_of_isContinued (h : isContinued line = true) : ∃ part, line = part ++ ['$'] := by
  have hlast : line.getLast? = some '$' := by
    by_contra hne
    rw [isContinued_eq_false hne] at h
    exact Bool.false_ne_true h
  exact ⟨line.dropLast, (List.dropLast_append_getLast? '$' hlast).symm⟩

/-! ## Groups of lines -/

section Groups

variable {part : List Char} {gs hs : List (List (List Char))} {lines : List (List Char)}

theorem consToFirst_ne_nil (part : List Char) (gs : List (List (List Char))) :
    consToFirst part gs ≠ [] := by
  cases gs <;> simp [consToFirst]

theorem consToFirst_append (h : gs ≠ []) :
    consToFirst part (gs ++ hs) = consToFirst part gs ++ hs := by
  obtain ⟨g, gs, rfl⟩ := List.exists_cons_of_ne_nil h
  rfl

@[simp] theorem flatten_consToFirst (part : List Char) (gs : List (List (List Char))) :
    (consToFirst part gs).flatten = part :: gs.flatten := by
  cases gs <;> simp [consToFirst]

theorem mem_consToFirst {g : List (List Char)} (h : g ∈ consToFirst part gs) :
    g = [part] ∨ g ∈ gs ∨ ∃ g' ∈ gs, g = part :: g' := by
  cases gs with
  | nil => exact .inl (by simpa [consToFirst] using h)
  | cons g' gs =>
    rcases List.mem_cons.1 h with rfl | h
    · exact .inr (.inr ⟨g', by simp, rfl⟩)
    · exact .inr (.inl (by simp [h]))

theorem groups_eq_nil_iff : groups lines = [] ↔ lines = [] := by
  cases lines with
  | nil => simp
  | cons line lines =>
    rw [groups]
    split <;> simp [consToFirst_ne_nil]

theorem ne_nil_of_mem_groups {g : List (List Char)} (h : g ∈ groups lines) : g ≠ [] := by
  induction lines generalizing g with
  | nil => simp at h
  | cons line lines ih =>
    rw [groups] at h
    split at h
    · rcases mem_consToFirst h with rfl | h | ⟨g', -, rfl⟩
      · simp
      · exact ih h
      · simp
    · rcases List.mem_cons.1 h with rfl | h
      · simp
      · exact ih h

/-- The lines count with what they hold, whatever terminators they carry. -/
theorem groups_congr {others : List (List Char)} (h : List.Forall₂ IsPhysical others lines) :
    groups others = groups lines := by
  induction h with
  | nil => rfl
  | cons hline _ ih => simp only [groups, hline.content_eq_content, ih]

theorem groups_append {xs ys : List (List Char)}
    (h : ∀ line ∈ xs.getLast?, isContinued (content line) = false) :
    groups (xs ++ ys) = groups xs ++ groups ys := by
  induction xs with
  | nil => simp
  | cons line xs ih =>
    cases hcontinued : isContinued (content line) with
    | false =>
      have hxs : ∀ line ∈ xs.getLast?, isContinued (content line) = false := by
        intro last hlast
        exact h last (by simp [List.getLast?_cons, Option.mem_def.1 hlast])
      rw [List.cons_append, groups_cons_of_not_isContinued hcontinued,
        groups_cons_of_not_isContinued hcontinued, ih hxs, List.cons_append]
    | true =>
      cases xs with
      | nil =>
        rw [h line (by simp)] at hcontinued
        exact absurd hcontinued Bool.false_ne_true
      | cons next xs =>
        have hne : groups (next :: xs) ≠ [] := by simp [groups_eq_nil_iff]
        rw [List.cons_append, groups_cons_of_isContinued hcontinued,
          groups_cons_of_isContinued hcontinued, ih (by simpa using h), consToFirst_append hne]

end Groups

/-- The terminators of the lines do not matter. -/
theorem ofLines_congr {others lines : List (List Char)} (h : List.Forall₂ IsPhysical others lines) :
    ofLines others = ofLines lines := by
  rw [ofLines, ofLines, groups_congr h]

/-- Where a log is cut after a line that does not go on, its statements are those of both parts. -/
theorem ofLines_append {xs ys : List (List Char)}
    (h : ∀ line ∈ xs.getLast?, isContinued (content line) = false) :
    ofLines (xs ++ ys) = ofLines xs ++ ofLines ys := by
  rw [ofLines, groups_append h, List.map_append]
  rfl

/-! ## The lines of a statement -/

/-- The lines that have the given parts: each goes on with the next one, and the last one goes on
if it was cut off. -/
def linesOf (cut : Bool) : List (List Char) → List (List Char)
  | [] => []
  | [part] => [if cut then part ++ ['$'] else part]
  | part :: next :: parts => (part ++ ['$']) :: linesOf cut (next :: parts)

/-- The lines of several statements, given by their parts. Only the last one may be cut off. -/
def linesOfEach (cut : Bool) : List (List (List Char)) → List (List (List Char))
  | [] => []
  | [parts] => [linesOf cut parts]
  | parts :: next :: others => linesOf false parts :: linesOfEach cut (next :: others)

/-- The lines of several statements, each with its lines joined by newlines. -/
def statementLines (cut : Bool) (statements : List (List Char)) : List (List (List Char)) :=
  linesOfEach cut (statements.map (List.splitOn '\n'))

/-- Whether a log ends in a line that goes on. -/
def isCutOff (lines : List (List Char)) : Bool :=
  lines.getLast?.any fun line => isContinued (content line)

/-- Whether lines are those of one statement, which is cut off or not. -/
def IsOneStatement (cut : Bool) (lines : List (List Char)) : Prop :=
  ∃ before last, lines = before ++ [last] ∧ (∀ line ∈ before, isContinued line = true) ∧
    isContinued last = cut

/-- Whether groups of lines are those of whole statements, but for the last one if it is cut off. -/
structure AreStatements (cut : Bool) (groups : List (List (List Char))) : Prop where
  whole : ∀ lines ∈ groups.dropLast, IsOneStatement false lines
  last : ∀ lines ∈ groups.getLast?, IsOneStatement cut lines

section Restored

variable {cut : Bool} {part : List Char} {gs : List (List (List Char))} {lines : List (List Char)}

theorem linesOf_cons (cut : Bool) (part : List Char) {parts : List (List Char)} (h : parts ≠ []) :
    linesOf cut (part :: parts) = (part ++ ['$']) :: linesOf cut parts := by
  obtain ⟨next, parts, rfl⟩ := List.exists_cons_of_ne_nil h
  rfl

theorem linesOfEach_cons (cut : Bool) (parts : List (List Char)) (h : gs ≠ []) :
    linesOfEach cut (parts :: gs) = linesOf false parts :: linesOfEach cut gs := by
  obtain ⟨next, gs, rfl⟩ := List.exists_cons_of_ne_nil h
  rfl

theorem linesOfEach_ne_nil (cut : Bool) (h : gs ≠ []) : linesOfEach cut gs ≠ [] := by
  obtain ⟨parts, _ | ⟨next, gs⟩, rfl⟩ := List.exists_cons_of_ne_nil h <;> simp [linesOfEach]

theorem linesOfEach_consToFirst (hgs : gs ≠ []) (hne : ∀ g ∈ gs, g ≠ []) :
    linesOfEach cut (consToFirst part gs) = consToFirst (part ++ ['$']) (linesOfEach cut gs) := by
  obtain ⟨g, gs, rfl⟩ := List.exists_cons_of_ne_nil hgs
  have hg : g ≠ [] := hne g (by simp)
  cases gs with
  | nil => simp [consToFirst, linesOfEach, linesOf_cons _ _ hg]
  | cons next gs => simp [consToFirst, linesOfEach, linesOf_cons _ _ hg]

theorem isCutOff_cons (line : List Char) (h : lines ≠ []) :
    isCutOff (line :: lines) = isCutOff lines := by
  obtain ⟨next, lines, rfl⟩ := List.exists_cons_of_ne_nil h
  simp [isCutOff]

theorem linesOfEach_groups_singleton (line : List Char) :
    linesOfEach (isCutOff [line]) (groups [line]) = [[content line]] := by
  cases hcontinued : isContinued (content line) with
  | false =>
    rw [groups_cons_of_not_isContinued hcontinued]
    simp [isCutOff, hcontinued, linesOfEach, linesOf]
  | true =>
    obtain ⟨part, hpart⟩ := exists_of_isContinued hcontinued
    have hcut : isCutOff [line] = true := by simpa [isCutOff] using hcontinued
    rw [groups_cons_of_isContinued hcontinued, hcut]
    simp [linesOfEach, linesOf, consToFirst, hpart]

theorem linesOfEach_groups_cons (line : List Char) (h : lines ≠ []) :
    linesOfEach (isCutOff (line :: lines)) (groups (line :: lines)) =
      if isContinued (content line) then
        consToFirst (content line) (linesOfEach (isCutOff lines) (groups lines))
      else [content line] :: linesOfEach (isCutOff lines) (groups lines) := by
  have hgroups : groups lines ≠ [] := by simpa [groups_eq_nil_iff] using h
  rw [isCutOff_cons line h]
  split
  · rename_i hcontinued
    obtain ⟨part, hpart⟩ := exists_of_isContinued hcontinued
    rw [groups_cons_of_isContinued hcontinued,
      linesOfEach_consToFirst hgroups fun _ => ne_nil_of_mem_groups, hpart, List.dropLast_concat]
  · rename_i hcontinued
    rw [groups_cons_of_not_isContinued (by simpa using hcontinued), linesOfEach_cons _ _ hgroups]
    rfl

theorem flatten_linesOfEach_groups (lines : List (List Char)) :
    (linesOfEach (isCutOff lines) (groups lines)).flatten = lines.map content := by
  induction lines with
  | nil => rfl
  | cons line lines ih =>
    by_cases hlines : lines = []
    · rw [hlines, linesOfEach_groups_singleton]
      rfl
    · rw [linesOfEach_groups_cons line hlines]
      split <;> simp [ih]

theorem IsOneStatement.cons {line : List Char} (h : IsOneStatement cut lines)
    (hline : isContinued line = true) : IsOneStatement cut (line :: lines) := by
  obtain ⟨before, last, rfl, hbefore, hlast⟩ := h
  exact ⟨line :: before, last, rfl, by simpa [hline] using hbefore, hlast⟩

theorem AreStatements.cons (h : AreStatements cut gs) (hgs : gs ≠ [])
    (hlines : IsOneStatement false lines) : AreStatements cut (lines :: gs) := by
  obtain ⟨g, gs, rfl⟩ := List.exists_cons_of_ne_nil hgs
  refine ⟨?_, by simpa using h.last⟩
  intro lines' hmem
  rcases List.mem_cons.1 (by simpa using hmem) with rfl | hmem
  · exact hlines
  · exact h.whole lines' hmem

theorem AreStatements.consToFirst {line : List Char} (h : AreStatements cut gs) (hgs : gs ≠ [])
    (hline : isContinued line = true) : AreStatements cut (consToFirst line gs) := by
  obtain ⟨g, gs, rfl⟩ := List.exists_cons_of_ne_nil hgs
  cases gs with
  | nil =>
    have hg : IsOneStatement cut g := h.last g (by simp)
    exact ⟨by simp [Statement.consToFirst], by simpa [Statement.consToFirst] using hg.cons hline⟩
  | cons next gs =>
    have hg : IsOneStatement false g := h.whole g (by simp)
    have hrest : AreStatements cut (next :: gs) :=
      ⟨fun lines hmem => h.whole lines (by simp [hmem]), by simpa using h.last⟩
    exact hrest.cons (by simp) (hg.cons hline)

theorem areStatements_linesOfEach_groups (lines : List (List Char)) :
    AreStatements (isCutOff lines) (linesOfEach (isCutOff lines) (groups lines)) := by
  induction lines with
  | nil => exact ⟨by simp [linesOfEach], by simp [linesOfEach]⟩
  | cons line lines ih =>
    by_cases hlines : lines = []
    · rw [hlines, linesOfEach_groups_singleton]
      refine ⟨by simp, ?_⟩
      rintro - ⟨⟩
      exact ⟨[], content line, rfl, by simp, by simp [isCutOff]⟩
    · have hne : linesOfEach (isCutOff lines) (groups lines) ≠ [] :=
        linesOfEach_ne_nil _ (by simpa [groups_eq_nil_iff] using hlines)
      rw [linesOfEach_groups_cons line hlines, isCutOff_cons line hlines]
      split
      · rename_i hcontinued
        exact ih.consToFirst hne hcontinued
      · rename_i hcontinued
        exact ih.cons hne ⟨[], content line, rfl, by simp, by simpa using hcontinued⟩

end Restored

/-! ## Statements -/

section Statements

variable {lines : List (List Char)}

theorem not_mem_of_mem_groups (h : ∀ line ∈ lines, '\n' ∉ content line) :
    ∀ g ∈ groups lines, ∀ part ∈ g, '\n' ∉ part := by
  induction lines with
  | nil => simp
  | cons line lines ih =>
    have ih := ih fun line' hline' => h line' (by simp [hline'])
    have hline : '\n' ∉ content line := h line (by simp)
    have hpart : '\n' ∉ (content line).dropLast := fun hmem => hline ((List.dropLast_subset _) hmem)
    intro g hg
    rw [groups] at hg
    split at hg
    · rcases mem_consToFirst hg with rfl | hg | ⟨g', hg', rfl⟩
      · simpa using hpart
      · exact ih g hg
      · simpa [hpart] using ih g' hg'
    · rcases List.mem_cons.1 hg with rfl | hg
      · simpa using hline
      · exact ih g hg

/-- Statements fall into their parts at the newlines. -/
theorem map_splitOn_ofLines (h : ∀ line ∈ lines, '\n' ∉ content line) :
    (ofLines lines).map (List.splitOn '\n') = groups lines := by
  rw [ofLines, List.map_map]
  refine (List.map_congr_left fun g hg => ?_).trans (List.map_id _)
  exact List.splitOn_intercalate '\n' (not_mem_of_mem_groups h g hg) (ne_nil_of_mem_groups hg)

/-- Statements keep the lines of a log. Split at their newlines, with the markers put back, they
give the contents of the lines in order, and each of them ends at its first line that does not go
on. The terminators of the lines do not matter, and a log may be cut after any line that does not
go on. -/
theorem statementLines_ofLines (lines : List (List Char))
    (h : ∀ line ∈ lines, '\n' ∉ content line) :
    (statementLines (isCutOff lines) (ofLines lines)).flatten = lines.map content ∧
      AreStatements (isCutOff lines) (statementLines (isCutOff lines) (ofLines lines)) ∧
      (∀ texts others, List.Forall₂ IsPhysical lines texts → List.Forall₂ IsPhysical others texts →
        ofLines others = ofLines lines) ∧
      ∀ xs ys, lines = xs ++ ys →
        (∀ line ∈ xs.getLast?, isContinued (content line) = false) →
        ofLines lines = ofLines xs ++ ofLines ys := by
  refine ⟨?_, ?_, ?_, ?_⟩
  · rw [statementLines, map_splitOn_ofLines h, flatten_linesOfEach_groups]
  · rw [statementLines, map_splitOn_ofLines h]
    exact areStatements_linesOfEach_groups lines
  · intro texts others hlines hothers
    rw [ofLines_congr hothers, ofLines_congr hlines]
  · rintro xs ys rfl hxs
    exact ofLines_append hxs

/-- A log with a statement of three lines, an empty one and one that is cut off. -/
def brokenLog : List (List Char) :=
  ["build a: cc $\r\n".toList, "    b.c $$$\n".toList, "    c.c\r\n".toList, "\n".toList,
   "rule $".toList]

theorem statementLines_ofLines_brokenLog :
    (∀ line ∈ brokenLog, '\n' ∉ content line) ∧
      ofLines brokenLog =
        ["build a: cc \n    b.c $$\n    c.c".toList, [], "rule ".toList] ∧
      (statementLines true (ofLines brokenLog)).flatten =
        ["build a: cc $".toList, "    b.c $$$".toList, "    c.c".toList, [], "rule $".toList] := by
  have hlines : ∀ line ∈ brokenLog, '\n' ∉ content line := by decide +kernel
  have hcut : isCutOff brokenLog = true := by decide +kernel
  refine ⟨hlines, by decide +kernel, ?_⟩
  have hflatten := (statementLines_ofLines brokenLog hlines).1
  rw [hcut] at hflatten
  rw [hflatten]
  decide +kernel

end Statements

end Statement

end ComponentLinks
