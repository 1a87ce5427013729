import ComponentLinks.Proofs.Statement.Build
import ComponentLinks.Statement.Recognize

/-!
# The written form of commands

A command says what is run to build something. It is no build statement, so only the three shapes
of commands compete for it. Every one of them asks for a tool by the last part of its path.

## Main definitions

* `Statement.CommandForm`: how commands are written.
* `Statement.CommandForm.ofStatement?_text`: the shapes that a command may have.
* `Statement.NoWordEnds`: the texts of which no word ends in a given way.
* `Statement.NoWordEnds.read_to_first`: the first occurrence of a word is the one that is read.
-/
namespace ComponentLinks.Statement

open Pattern

/-- How a command is written before what it runs: the blanks around its name. -/
structure CommandForm where
  indent : List Char
  gap : List Char
  indent_blank : IsBlanks indent
  gap_blank : IsBlanks gap

namespace CommandForm

variable {α : Type} {k : Place → Captures Field → Option α} {s : Captures Field} {r : α}
  {ps : List (Pattern Field)} {words : List Char}

def text (f : CommandForm) (words : List Char) : List Char :=
  f.indent ++ ("command".toList ++ (f.gap ++ ("=".toList ++ words)))

theorem read_text (f : CommandForm) (hk : (inOrder ps).read k ⟨some '=', words⟩ s = some r) :
    (inOrder (start :: many .blank :: lit "command" :: many .blank :: lit "=" :: ps)).read k
      (.ofText (f.text words)) s = some r := by
  refine read_opening f.indent_blank ⟨'c', _, rfl, by decide⟩ ?_
  refine read_cons_run_of_stop f.gap_blank (by simp) (by simp; decide) ?_
  rw [read_cons_lit]
  simpa using hk

theorem exists_of_read_text (f : CommandForm)
    (h : (inOrder (start :: many .blank :: lit "command" :: many .blank :: lit "=" :: ps)).read k
      (.ofText (f.text words)) s = some r) :
    (inOrder ps).read k ⟨some '=', words⟩ s = some r := by
  have hc : Text.isBlank 'c' = false := by decide
  obtain ⟨rest, hrest, h⟩ := exists_of_read_opening f.indent_blank ⟨'c', _, rfl, hc⟩
    ⟨'c', by simp, hc⟩ h
  obtain ⟨gap, rest, rfl, hgap, -, h⟩ := exists_of_read_cons_run h
  obtain ⟨rest, rfl, h⟩ := exists_of_read_cons_lit h
  have hsplit : f.gap ++ '=' :: words = gap ++ '=' :: rest := by simpa using hrest
  have heq : Text.isBlank '=' = false := by decide
  obtain ⟨-, -, rfl⟩ := Text.append_inj_of_stop f.gap_blank hgap heq heq hsplit
  simpa using h

theorem read_build_eq_none (f : CommandForm) :
    (inOrder (start :: many .blank :: lit "build" :: ps)).read k (.ofText (f.text words)) s =
      none := by
  by_contra hsome
  obtain ⟨r, hr⟩ := Option.ne_none_iff_exists'.1 hsome
  obtain ⟨rest, hrest, -⟩ := exists_of_read_opening f.indent_blank ⟨'b', _, rfl, by decide⟩
    ⟨'c', by simp, by decide⟩ hr
  simp at hrest

/-- A command is not the build statement of an archive. -/
theorem assembly_eq_none (f : CommandForm) (words : List Char) :
    PackageAssembly.ofStatement? (f.text words) = none := by
  rw [PackageAssembly.ofStatement?, matchText?_eq, assemblyPattern, f.read_build_eq_none]
  rfl

/-- A command is not the build statement of a manifest. -/
theorem subComponents_eq_none (f : CommandForm) (words : List Char) :
    SubComponents.ofStatement? (f.text words) = none := by
  rw [SubComponents.ofStatement?, matchText?_eq, manifestPattern, f.read_build_eq_none]
  rfl

/-- A command has one of the shapes of commands or none. -/
theorem ofStatement?_text (f : CommandForm) (words : List Char) :
    Recognized.ofStatement? (f.text words) =
      ((Validation.ofStatement? (f.text words)).map .validation).or
        (((Compilation.ofStatement? (f.text words)).map .compilation).or
          ((PackageNaming.ofStatement? (f.text words)).map .packageNaming)) := by
  simp only [Recognized.ofStatement?, Shape.all, List.findSome?_cons, List.findSome?_nil,
    Recognized.inShape?, f.assembly_eq_none, f.subComponents_eq_none, Option.map_none]
  cases Validation.ofStatement? (f.text words) <;>
    cases Compilation.ofStatement? (f.text words) <;>
      cases PackageNaming.ofStatement? (f.text words) <;> rfl

/-- A command without the tool for manifests does not validate one. -/
theorem validation_eq_none (f : CommandForm) (h : ¬ "/cmc".toList <:+: words) :
    Validation.ofStatement? (f.text words) = none := by
  have hread : validationPattern.matchText? (f.text words) = none := by
    rw [matchText?_eq]
    by_contra hsome
    obtain ⟨r, hr⟩ := Option.ne_none_iff_exists'.1 hsome
    obtain ⟨before, rest, hrest, -, -, hr⟩ := exists_of_read_cons_run (f.exists_of_read_text hr)
    obtain ⟨rest, rfl, hr⟩ := exists_of_read_cons_lit hr
    obtain ⟨host, rest, rfl, -, -, hr⟩ := exists_of_read_cons_run hr
    obtain ⟨rest, rfl, -⟩ := exists_of_read_cons_lit hr
    refine h ⟨before ++ ("host_".toList ++ host), rest, ?_⟩
    simp only [List.append_assoc]
    exact hrest.symm
  rw [Validation.ofStatement?, hread]

/-- A command without the tool for manifests does not compile one. -/
theorem compilation_eq_none (f : CommandForm) (h : ¬ "/cmc".toList <:+: words) :
    Compilation.ofStatement? (f.text words) = none := by
  rw [Compilation.ofStatement?, Option.map_eq_none_iff, matchText?_eq]
  by_contra hsome
  obtain ⟨r, hr⟩ := Option.ne_none_iff_exists'.1 hsome
  obtain ⟨before, rest, hrest, -, -, hr⟩ := exists_of_read_cons_run (f.exists_of_read_text hr)
  obtain ⟨rest, rfl, -⟩ := exists_of_read_cons_lit hr
  refine h ⟨before, rest, ?_⟩
  simp only [List.append_assoc]
  exact hrest.symm

end CommandForm

/-- Whether no word of a text ends with `w`, except perhaps the last one. -/
def NoWordEnds (w cs : List Char) : Prop :=
  ∀ before c after, cs = before ++ (w ++ c :: after) → Text.isBlank c = false

theorem noWordEnds_of_not_isInfix {w cs : List Char} (h : ¬ w <:+: cs) : NoWordEnds w cs := by
  rintro before c after rfl
  exact absurd ⟨before, c :: after, by simp⟩ h

section NoWordEnds

variable {w gap part rest : List Char}

theorem noWordEnds_blanks_append (hne : w ≠ []) (hw : IsVisible w) (hgap : IsBlanks gap)
    (h : NoWordEnds w rest) : NoWordEnds w (gap ++ rest) := by
  induction gap with
  | nil => exact h
  | cons g gap ih =>
    intro before c after hsplit
    cases before with
    | nil =>
      obtain ⟨d, ds, rfl⟩ := List.exists_cons_of_ne_nil hne
      obtain ⟨rfl, -⟩ : g = d ∧ _ := by simpa using hsplit
      have hg : Text.isBlank g = true := hgap g (by simp)
      simp [hw g (by simp)] at hg
    | cons b before =>
      obtain ⟨-, hsplit⟩ : g = b ∧ gap ++ rest = before ++ (w ++ c :: after) := by
        simpa using hsplit
      exact ih (fun c hc => hgap c (by simp [hc])) before c after hsplit

/-- Words that end otherwise may be put in front. -/
theorem noWordEnds_visible_append (hw : IsVisible w) (hpart : IsVisible part)
    (hends : ¬ w <:+ part) (hrest : ∀ c ∈ rest.head?, Text.isBlank c = true)
    (h : NoWordEnds w rest) : NoWordEnds w (part ++ rest) := by
  intro before c after hsplit
  by_contra hc
  have hc : Text.isBlank c = true := by simpa using hc
  have hcPart : c ∉ part := fun hmem => by simp [hpart c hmem] at hc
  rw [← List.append_assoc before] at hsplit
  obtain ⟨us, hus, rfl⟩ := Text.exists_append_of_not_mem hcPart hsplit
  cases us with
  | nil => exact hends ⟨before, by simpa using hus⟩
  | cons u us =>
    -- The word would stand after the blank, in the rest.
    have huw : u ∉ w := fun hmem => by
      have hu : Text.isBlank u = true := hrest u (by simp)
      simp [hw u hmem] at hu
    obtain ⟨ts, rfl⟩ : w <:+ us := Text.suffix_of_suffix_append huw ⟨before, hus⟩
    have hblank := h (u :: ts) c after (by simp)
    simp [hc] at hblank

end NoWordEnds

/-- Where no word ends with `w`, no blank comes after `w` until its next occurrence. -/
theorem NoWordEnds.isBlank_eq_false {w cs xs ys rest after : List Char} {c d : Char}
    (h : NoWordEnds w cs) (hhead : w.head? = some d) (htail : d ∉ w.tail)
    (hblank : Text.isBlank d = false) (hsplit : cs = xs ++ ys) (hne : ys ≠ [])
    (hread : ys ++ (w ++ rest) = w ++ c :: after) : Text.isBlank c = false := by
  obtain ⟨ds, hw⟩ : ∃ ds, w = d :: ds := by
    cases w <;> simp_all
  have hd : d ∉ ds := by simpa [hw] using htail
  rcases List.append_eq_append_iff.1 hread with ⟨us, hus, hrest⟩ | ⟨us, rfl, hrest⟩
  · cases us with
    | nil =>
      obtain ⟨rfl, -⟩ : d = c ∧ _ := by simpa [hw] using hrest
      exact hblank
    | cons u us =>
      obtain ⟨rfl, hds⟩ : d = u ∧ ds ++ rest = us ++ c :: after := by simpa [hw] using hrest
      -- The word would hold its first character again.
      obtain ⟨y, ys, rfl⟩ := List.exists_cons_of_ne_nil hne
      obtain ⟨-, hys⟩ : d = y ∧ ds = ys ++ d :: us := by simpa [hw] using hus
      exact absurd (by simp [hys]) hd
  · cases us with
    | nil =>
      obtain ⟨rfl, -⟩ : c = d ∧ _ := by simpa [hw] using hrest
      exact hblank
    | cons u us =>
      obtain ⟨rfl, -⟩ : c = u ∧ _ := by simpa using hrest
      exact h xs c us (by simp [hsplit])

/-- Where no word ends with `w`, no blanks are read after `w` until its next occurrence. -/
theorem NoWordEnds.read_eq_none {w : String} {cs xs ys rest : List Char} {d : Char} {α : Type}
    {k : Place → Captures Field → Option α} {last : Option Char} {s : Captures Field}
    {ps : List (Pattern Field)} (h : NoWordEnds w.toList cs) (hhead : w.toList.head? = some d)
    (htail : d ∉ w.toList.tail) (hblank : Text.isBlank d = false) (hsplit : cs = xs ++ ys)
    (hne : ys ≠ []) :
    (inOrder (lit w :: several .blank :: ps)).read k ⟨last, ys ++ (w.toList ++ rest)⟩ s = none := by
  by_contra hsome
  obtain ⟨r, hr⟩ := Option.ne_none_iff_exists'.1 hsome
  obtain ⟨after, hafter, hr⟩ := exists_of_read_cons_lit hr
  obtain ⟨gap, after, rfl, hgap, hgapNe, -⟩ := exists_of_read_cons_run hr
  obtain ⟨c, gap, rfl⟩ := List.exists_cons_of_ne_nil (hgapNe rfl)
  have hc : Text.isBlank c = false := h.isBlank_eq_false hhead htail hblank hsplit hne hafter
  have hcBlank : Text.isBlank c = true := hgap c (by simp)
  simp [hc] at hcBlank

theorem NoWordEnds.read_to_first {w : String} {before gap rest : List Char} {d : Char} {α : Type}
    {k : Place → Captures Field → Option α} {last : Option Char} {s : Captures Field} {r : α}
    {ps : List (Pattern Field)} (h : NoWordEnds w.toList before) (hhead : w.toList.head? = some d)
    (htail : d ∉ w.toList.tail) (hblank : Text.isBlank d = false) (hgap : IsBlanks gap)
    (hne : gap ≠ []) (hrest : ∀ c ∈ rest.head?, Text.isBlank c = false)
    (hk : ∀ last, (inOrder ps).read k ⟨last, rest⟩ s = some r) :
    (inOrder (manyLazy .any :: lit w :: several .blank :: ps)).read k
      ⟨last, before ++ (w.toList ++ (gap ++ rest))⟩ s = some r := by
  refine read_cons_run_shortest (by simp [CharClass.has]) (by simp) ?_ ?_
  · rw [read_cons_lit]
    exact read_cons_run_of_stop hgap (by simp [hne]) hrest (hk _)
  · -- An earlier `w` is followed by no blank.
    intro xs ys hsplit hys _ r' hr'
    rw [h.read_eq_none hhead htail hblank hsplit hys] at hr'
    simp at hr'

end ComponentLinks.Statement
