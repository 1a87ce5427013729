import ComponentLinks.Proofs.Statement.Lines
import ComponentLinks.Proofs.Statement.SameReading

/-!
# The layout of a statement

A statement that stands on one line may be broken at its blanks: the line ends in a blank and a
dollar sign, and the next line may be indented. It is read as one statement again, which says the
same. There is one exception: a validation is recognized only if more than one blank stands between
the tool and its task, and a break there puts more than one blank in the place of a single one.

## Main definitions

* `Statement.Joint`: what stands between two words on one line, and at a break.
* `Statement.Layout`: a statement on one line, with the places where it is broken.
* `Statement.Layout.ofLines_lines`: the lines of a layout are one statement.
* `Statement.Layout.ofLines_lines_alike`: it says what the statement on one line says.
-/
namespace ComponentLinks.Statement

open Recognized Text

/-! ## Words and what stands between them -/

/-- Whether a text is a word that does not end in a dollar sign. -/
structure IsPlainWord (w : List Char) : Prop where
  ne_nil : w ≠ []
  visible : IsVisible w
  last_ne : w.getLast? ≠ some '$'

instance (w : List Char) : Decidable (IsPlainWord w) :=
  decidable_of_iff (w ≠ [] ∧ IsVisible w ∧ w.getLast? ≠ some '$')
    ⟨fun ⟨hne, hvisible, hlast⟩ => ⟨hne, hvisible, hlast⟩,
      fun ⟨hne, hvisible, hlast⟩ => ⟨hne, hvisible, hlast⟩⟩

section Ends

variable {front w gap : List Char}

/-- A line whose last word is plain does not go on after it. -/
theorem getLast?_ne_dollar (hw : IsPlainWord w) (hgap : IsBlanks gap) :
    (front ++ (w ++ gap)).getLast? ≠ some '$' := by
  rcases List.eq_nil_or_concat gap with rfl | ⟨gap, b, rfl⟩
  · obtain ⟨xs, x, rfl⟩ := (List.eq_nil_or_concat w).resolve_left hw.ne_nil
    simpa [← List.append_assoc] using hw.last_ne
  · have hdollar : b ≠ '$' := by
      rintro rfl
      exact absurd (hgap '$' (by simp)) (by decide)
    simpa [← List.append_assoc] using hdollar

theorem isTerminator_getLast? (hw : IsPlainWord w)
    (hgap : ∀ c ∈ gap.getLast?, isTerminator c = false) :
    ∀ c ∈ (front ++ (w ++ gap)).getLast?, isTerminator c = false := by
  rcases List.eq_nil_or_concat gap with rfl | ⟨gap, b, rfl⟩
  · obtain ⟨xs, x, rfl⟩ := (List.eq_nil_or_concat w).resolve_left hw.ne_nil
    have hvisible : isBlank x = false := hw.visible x (by simp)
    have hterminator : isTerminator x = false := by
      rw [isTerminator, Bool.or_eq_false_iff, beq_eq_false_iff_ne, beq_eq_false_iff_ne]
      constructor <;> rintro rfl <;> exact absurd hvisible (by decide)
    simpa [← List.append_assoc] using hterminator
  · simpa [← List.append_assoc] using hgap

end Ends

/-- A word of a statement, at whose end its line does not go on. -/
structure Word where
  text : List Char
  plain : IsPlainWord text

/-- A break between two words: the blanks at the end of a line, in front of the dollar sign, and
the indentation of the next line. -/
structure Break where
  before : List Char
  indent : List Char
  before_gap : IsGap before
  indent_blank : IsBlanks indent

/-- What stands between two words: the blanks between them on one line, and the break that a layout
may have in their place. -/
structure Joint where
  gap : List Char
  broken : Option Break
  isGap_gap : IsGap gap

namespace Joint

/-- What stands between the words once the lines are joined. -/
def joined (j : Joint) : List Char :=
  match j.broken with
  | none => j.gap
  | some b => b.before ++ '\n' :: b.indent

theorem isGap_joined (j : Joint) : IsGap j.joined := by
  rw [joined]
  cases j.broken with
  | none => exact j.isGap_gap
  | some b =>
    refine ⟨by simp, fun c hc => ?_⟩
    rcases List.mem_append.1 hc with hc | hc
    · exact b.before_gap.blank c hc
    · rcases List.mem_cons.1 hc with rfl | hc
      · decide
      · exact b.indent_blank c hc

/-- Whether a break stands in the place of the only blank between the tool of a validation and its
task. -/
def SplitsTask (w : Word) (j : Joint) (next : Word) : Prop :=
  j.broken.isSome ∧ j.gap.length = 1 ∧ EndsInTool w.text ∧
    "validate-references".toList <+: next.text

/-- A joint is a single blank on one line and once the lines are joined, or in neither. -/
theorem length_joined_eq_one_iff {w : Word} {j : Joint} {next : Word} (h : ¬ j.SplitsTask w next)
    (htool : EndsInTool w.text) (htask : "validate-references".toList <+: next.text) :
    j.gap.length = 1 ↔ j.joined.length = 1 := by
  rw [joined]
  cases hbroken : j.broken with
  | none => exact Iff.rfl
  | some b =>
    have hgap : j.gap.length ≠ 1 := fun hone => h ⟨by simp [hbroken], hone, htool, htask⟩
    have hbefore := List.length_pos_iff.2 b.before_gap.ne_nil
    simp only [List.length_append, List.length_cons]
    omega

end Joint

/-! ## Layouts -/

namespace Layout

variable {trail : List Char}

/-- The text after a word, with `spacing` between the words and `trail` after the last one. -/
def textAfter (spacing : Joint → List Char) (trail : List Char) : List (Joint × Word) → List Char
  | [] => trail
  | (joint, next) :: others => spacing joint ++ (next.text ++ textAfter spacing trail others)

/-- The lines from a word on, where the line of the word begins with `front`. -/
def linesFrom (trail front : List Char) (w : Word) : List (Joint × Word) → List (List Char)
  | [] => [front ++ (w.text ++ trail)]
  | (joint, next) :: others =>
    match joint.broken with
    | none => linesFrom trail (front ++ (w.text ++ joint.gap)) next others
    | some b => (front ++ (w.text ++ b.before) ++ ['$']) :: linesFrom trail b.indent next others

/-- Whether a break after a word stands between the tool of a validation and its task. -/
def SplitsTaskFrom (w : Word) : List (Joint × Word) → Prop
  | [] => False
  | (joint, next) :: others => joint.SplitsTask w next ∨ SplitsTaskFrom next others

theorem exists_groups_linesFrom (htrail : IsBlanks trail)
    (hend : ∀ c ∈ trail.getLast?, isTerminator c = false) {others : List (Joint × Word)}
    {front : List Char} {w : Word} {lines : List (List Char)}
    (h : List.Forall₂ IsPhysical lines (linesFrom trail front w others)) :
    ∃ line group, groups lines = [line :: group] ∧
      List.intercalate ['\n'] (line :: group) =
        front ++ (w.text ++ textAfter Joint.joined trail others) := by
  -- `front` collects what stands on the line of the word before it, up to the next break.
  induction others generalizing front w lines with
  | nil =>
    obtain ⟨physical, _, hphysical, hnil, rfl⟩ := List.forall₂_cons_right_iff.1 h
    obtain rfl := List.forall₂_nil_right_iff.1 hnil
    have hcontent := hphysical.content_eq (isTerminator_getLast? w.plain hend)
    refine ⟨front ++ (w.text ++ trail), [], ?_, by simp [textAfter]⟩
    rw [groups_cons_of_not_isContinued, hcontent, groups_nil]
    rw [hcontent]
    exact isContinued_eq_false (getLast?_ne_dollar w.plain htrail)
  | cons other others ih =>
    obtain ⟨joint, next⟩ := other
    simp only [linesFrom] at h
    simp only [textAfter, Joint.joined]
    cases hbroken : joint.broken with
    | none =>
      simp only [hbroken] at h
      obtain ⟨line, group, hgroups, hjoin⟩ := ih h
      exact ⟨line, group, hgroups, by simp [hjoin]⟩
    | some b =>
      simp only [hbroken] at h
      obtain ⟨physical, lines, hphysical, hlines, rfl⟩ := List.forall₂_cons_right_iff.1 h
      obtain ⟨line, group, hgroups, hjoin⟩ := ih hlines
      have hlast : (front ++ (w.text ++ b.before)).getLast? ≠ some '$' :=
        getLast?_ne_dollar w.plain b.before_gap.blank
      have hcontent := hphysical.content_eq (by simp; decide)
      refine ⟨front ++ (w.text ++ b.before), line :: group, ?_, ?_⟩
      · rw [groups_cons_of_isContinued, hcontent, hgroups, List.dropLast_concat]
        · rfl
        · rw [hcontent]
          exact isContinued_append_dollar hlast
      · have hcons : List.intercalate ['\n'] ((front ++ (w.text ++ b.before)) :: line :: group) =
            (front ++ (w.text ++ b.before)) ++
              '\n' :: List.intercalate ['\n'] (line :: group) := by
          simp [List.intercalate]
        simp [hcons, hjoin]

theorem isBlank_of_mem_head?_textAfter {spacing : Joint → List Char}
    (hspacing : ∀ j, IsGap (spacing j)) (htrail : IsBlanks trail) (others : List (Joint × Word)) :
    ∀ c ∈ (textAfter spacing trail others).head?, isBlank c = true := by
  cases others with
  | nil => exact fun c hc => htrail c (List.mem_of_mem_head? hc)
  | cons other others =>
    obtain ⟨joint, next⟩ := other
    obtain ⟨c, gap, hgap⟩ := List.exists_cons_of_ne_nil (hspacing joint).ne_nil
    have hc : isBlank c = true := (hspacing joint).blank c (by simp [hgap])
    simpa [textAfter, hgap] using hc

theorem head?_word_append (w : Word) (rest : List Char) :
    ∀ c ∈ (w.text ++ rest).head?, isBlank c = false := by
  obtain ⟨c, cs, hw⟩ := List.exists_cons_of_ne_nil w.plain.ne_nil
  have hc : isBlank c = false := w.plain.visible c (by simp [hw])
  simpa [hw] using hc

/-- Whether the joints after a word keep single blanks where `bound` holds of the word before them
and the text after them. -/
def KeepSingle (bound : List Char → List Char → Prop) (trail : List Char) (w : Word) :
    List (Joint × Word) → Prop
  | [] => True
  | (joint, next) :: others =>
    (bound w.text (next.text ++ textAfter Joint.gap trail others) →
      (joint.gap.length = 1 ↔ joint.joined.length = 1)) ∧ KeepSingle bound trail next others

theorem keepSingle_of_not_bound (w : Word) (others : List (Joint × Word)) :
    KeepSingle (fun _ _ => False) trail w others := by
  induction others generalizing w with
  | nil => trivial
  | cons other others ih => exact ⟨False.elim, ih other.2⟩

theorem keepSingle_of_not_splitsTask (htrail : IsBlanks trail) {w : Word}
    {others : List (Joint × Word)} (h : ¬ SplitsTaskFrom w others) :
    KeepSingle IsTaskGap trail w others := by
  induction others generalizing w with
  | nil => trivial
  | cons other others ih =>
    obtain ⟨joint, next⟩ := other
    have hjoint : ¬ joint.SplitsTask w next := fun hsplits => h (.inl hsplits)
    refine ⟨?_, ih fun hsplits => h (.inr hsplits)⟩
    rintro ⟨htool, htask⟩
    have hvisible : IsVisible "validate-references".toList := by decide
    exact Joint.length_joined_eq_one_iff hjoint htool (prefix_of_isVisible hvisible
      (isBlank_of_mem_head?_textAfter Joint.isGap_gap htrail others) htask)

/-- After a word, the text on one line and the joined text differ in their blanks only. -/
theorem respaced_textAfter {bound : List Char → List Char → Prop} (htrail : IsBlanks trail)
    {others : List (Joint × Word)} {w : Word} (h : KeepSingle bound trail w others) :
    Respaced bound w.text (textAfter Joint.gap trail others)
      (textAfter Joint.joined trail others) := by
  induction others generalizing w with
  | nil =>
    rw [textAfter, textAfter]
    by_cases hnil : trail = []
    · rw [hnil]
      exact .nil _
    · have hgap : IsGap trail := ⟨hnil, htrail⟩
      have hend : Respaced bound w.text (trail ++ []) (trail ++ []) :=
        .gap hgap hgap (by simp) (by simp) (fun _ _ => Iff.rfl) (.nil [])
      simpa using hend
  | cons other others ih =>
    obtain ⟨joint, next⟩ := other
    obtain ⟨hjoint, hothers⟩ := h
    exact .gap joint.isGap_gap joint.isGap_joined (head?_word_append next _)
      (head?_word_append next _) (fun _ => hjoint) (.visible_append next.plain.visible (ih hothers))

end Layout

/-- A statement of words with blanks between them, with the places where it is broken. -/
structure Layout where
  indent : List Char
  first : Word
  others : List (Joint × Word)
  trail : List Char
  indent_blank : IsBlanks indent
  trail_blank : IsBlanks trail
  trail_end : ∀ c ∈ trail.getLast?, isTerminator c = false

namespace Layout

/-- The statement on one line. -/
def oneLine (l : Layout) : List Char :=
  l.indent ++ (l.first.text ++ textAfter Joint.gap l.trail l.others)

def joined (l : Layout) : List Char :=
  l.indent ++ (l.first.text ++ textAfter Joint.joined l.trail l.others)

/-- The lines of the statement. -/
def lines (l : Layout) : List (List Char) := linesFrom l.trail l.indent l.first l.others

/-- Whether the statement is broken at the only blank between the tool of a validation and its
task. -/
def SplitsTask (l : Layout) : Prop := SplitsTaskFrom l.first l.others

theorem ofLines_lines (l : Layout) {lines : List (List Char)}
    (h : List.Forall₂ IsPhysical lines l.lines) : ofLines lines = [l.joined] := by
  obtain ⟨line, group, hgroups, hjoin⟩ := exists_groups_linesFrom l.trail_blank l.trail_end h
  rw [ofLines, hgroups, List.map_singleton, hjoin]
  rfl

theorem respaced_joined {bound : List Char → List Char → Prop} (l : Layout)
    (h : KeepSingle bound l.trail l.first l.others) : Respaced bound [] l.oneLine l.joined := by
  have hwords := Respaced.visible_append (w := []) l.first.plain.visible
    (respaced_textAfter l.trail_blank h)
  by_cases hnil : l.indent = []
  · simpa [oneLine, joined, hnil] using hwords
  · have hindent : IsGap l.indent := ⟨hnil, l.indent_blank⟩
    exact .gap hindent hindent (head?_word_append l.first _) (head?_word_append l.first _) (by simp)
      hwords

/-- A layout is read as one statement. It has a shape just if the statement on one line has it, and
says the same, unless it says texts with blanks in them. Only validations are sensitive to one
break: that at a single blank between the tool and its task. -/
theorem ofLines_lines_alike (l : Layout) {lines : List (List Char)}
    (h : List.Forall₂ IsPhysical lines l.lines) :
    ∃ statement, ofLines lines = [statement] ∧
      (∀ shape, shape ≠ .validation →
        Option.Rel SameButBlanks (inShape? l.oneLine shape) (inShape? statement shape)) ∧
      (¬ l.SplitsTask →
        Option.Rel SameButBlanks (ofStatement? l.oneLine) (ofStatement? statement)) := by
  refine ⟨l.joined, l.ofLines_lines h, ?_, ?_⟩
  · intro shape hshape
    exact inShape?_alike_of_ne (l.respaced_joined (keepSingle_of_not_bound l.first l.others)) hshape
  · intro hsplits
    exact ofStatement?_alike
      (l.respaced_joined (keepSingle_of_not_splitsTask l.trail_blank hsplits))

def space : Joint := ⟨[' '], none, ⟨space_ne_nil, isBlanks_space⟩⟩

/-- A break in the place of a single space, where the next line begins with it. -/
def spaceBreak : Joint :=
  ⟨[' '], some ⟨[' '], [' '], ⟨space_ne_nil, isBlanks_space⟩, isBlanks_space⟩,
    ⟨space_ne_nil, isBlanks_space⟩⟩

def brokenNaming : Layout where
  indent := [' ']
  first := ⟨"command".toList, by decide⟩
  others :=
    [(space, ⟨"=".toList, by decide⟩), (space, ⟨"../../host_x64/pm".toList, by decide⟩),
     (space, ⟨"-o".toList, by decide⟩), (space, ⟨"obj/src/bar/foo".toList, by decide⟩),
     (spaceBreak, ⟨"-n".toList, by decide⟩), (space, ⟨"foo".toList, by decide⟩)]
  trail := []
  indent_blank := isBlanks_space
  trail_blank := isBlanks_nil
  trail_end := by simp

def namingLines : List (List Char) :=
  [" command = ../../host_x64/pm -o obj/src/bar/foo $\n".toList, " -n foo\n".toList]

theorem namingLines_physical : List.Forall₂ IsPhysical namingLines brokenNaming.lines := by
  have hnewline : ∀ c ∈ ['\n'], isTerminator c = true := by decide
  exact .cons ⟨['\n'], by decide, hnewline⟩ (.cons ⟨['\n'], by decide, hnewline⟩ .nil)

/-- The name of the package is read from the second line. -/
theorem ofLines_lines_alike_brokenNaming :
    List.Forall₂ IsPhysical namingLines brokenNaming.lines ∧ ¬ brokenNaming.SplitsTask ∧
      ∃ statement, ofLines namingLines = [statement] ∧
        ofStatement? statement = some (.packageNaming ⟨"src/bar", "foo", "foo"⟩) := by
  have hsplits : ¬ brokenNaming.SplitsTask := by
    simp [SplitsTask, SplitsTaskFrom, Joint.SplitsTask, brokenNaming, space]
  obtain ⟨statement, hstatement, -, halike⟩ := brokenNaming.ofLines_lines_alike namingLines_physical
  refine ⟨namingLines_physical, hsplits, statement, hstatement, ?_⟩
  have honeLine : ofStatement? brokenNaming.oneLine =
      some (.packageNaming ⟨"src/bar", "foo", "foo"⟩) := by
    decide +kernel
  have hplain : HoldsNoBlank (.packageNaming ⟨"src/bar", "foo", "foo"⟩) := by
    simp only [HoldsNoBlank, fields]
    decide +kernel
  have hrel := halike hsplits
  rw [honeLine] at hrel
  obtain ⟨r, hr, hsame⟩ : ∃ r, ofStatement? statement = some r ∧
      SameButBlanks (.packageNaming ⟨"src/bar", "foo", "foo"⟩) r := by
    generalize ofStatement? statement = x at hrel
    cases hrel with
    | some hsame => exact ⟨_, rfl, hsame⟩
  rw [hr, ← hsame.eq (.inl hplain)]

/-- A validation with its task at once after the tool, that is broken between the two. -/
def brokenValidation : Layout where
  indent := []
  first := ⟨"command".toList, by decide⟩
  others :=
    [(space, ⟨"=".toList, by decide⟩), (space, ⟨"host_x64/cmc".toList, by decide⟩),
     (spaceBreak, ⟨"validate-references".toList, by decide⟩),
     (space, ⟨"--component-manifest".toList, by decide⟩),
     (space, ⟨"../../a/b.cmx".toList, by decide⟩), (space, ⟨"--gn-label".toList, by decide⟩),
     (space, ⟨"//d$:t".toList, by decide⟩)]
  trail := []
  indent_blank := isBlanks_nil
  trail_blank := isBlanks_nil
  trail_end := by simp

/-- On one line the validation is not recognized. -/
theorem not_alike_brokenValidation :
    brokenValidation.oneLine = ("command = host_x64/cmc validate-references " ++
        "--component-manifest ../../a/b.cmx --gn-label //d$:t").toList ∧
      ofLines brokenValidation.lines = [brokenValidation.joined] ∧
      ofStatement? brokenValidation.oneLine = none ∧
      ofStatement? brokenValidation.joined =
        some (.validation ⟨.source, "a/b.cmx", "b", "d", some "t", none⟩) := by
  refine ⟨by decide +kernel, by decide +kernel, by decide +kernel, by decide +kernel⟩

end Layout

end ComponentLinks.Statement
