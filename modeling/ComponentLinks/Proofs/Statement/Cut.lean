import ComponentLinks.Proofs.Pattern.Words
import ComponentLinks.Proofs.Statement.Assembly

/-!
# How build statements are cut

Whatever build statement is recognized is cut into an output, the text between the output and the
bar, and the dependencies after the bar. The first dot after the directory of outputs tells an
archive from a manifest, so no statement is read as both. The output is a whole word of the
statement if the first word is the name of the statement and the second one has no dot but that of
its ending.

## Main definitions

* `Statement.BuildCut`: the parts that a build statement is cut into.
* `Statement.exists_cut_of_assembly`, `Statement.exists_cut_of_subComponents`: what is recognized
  is said of such parts.
* `Statement.subComponents_eq_none_of_assembly`: an archive is not a manifest.
* `Statement.HasPlainOutput`: the statements with a plain output.
* `Statement.BuildCut.isWholeWord`: the output that is recognized in them is a whole word.
-/
namespace ComponentLinks.Statement

open Pattern

/-- The parts that a build statement is cut into: the output that is recognized, after its name, and
the dependencies. -/
structure BuildCut where
  indent : List Char
  gap : List Char
  output : List Char
  outputs : List Char
  middle : List Char
  dependencies : List Char
  indent_blank : IsBlanks indent
  gap_blank : IsBlanks gap
  outputs_end : ':' ∉ outputs

namespace BuildCut

def afterOutput (c : BuildCut) : List Char :=
  c.outputs ++ (":".toList ++ (c.middle ++ ("|".toList ++ c.dependencies)))

def text (c : BuildCut) : List Char :=
  c.indent ++ ("build".toList ++ (c.gap ++ (c.output ++ c.afterOutput)))

/-- Whether the output is a word of its own, up to blanks or the colon. -/
structure IsWholeWord (c : BuildCut) : Prop where
  gap_ne : c.gap ≠ []
  output_visible : IsVisible c.output
  outputs_apart : ∀ d ∈ c.outputs.head?, Text.isBlank d = true

/-- A statement is cut at one place after the directory of outputs. -/
theorem eq_after_outputs {c d : BuildCut} {output output' : List Char}
    (hc : c.output = "obj/".toList ++ output) (hd : d.output = "obj/".toList ++ output')
    (h : c.text = d.text) : output ++ c.afterOutput = output' ++ d.afterOutput := by
  have hb : Text.isBlank 'b' = false := by decide
  have ho : Text.isBlank 'o' = false := by decide
  have hopening : c.indent ++ 'b' :: ("uild".toList ++ (c.gap ++ (c.output ++ c.afterOutput))) =
      d.indent ++ 'b' :: ("uild".toList ++ (d.gap ++ (d.output ++ d.afterOutput))) := by
    simpa [text] using h
  obtain ⟨-, -, hname⟩ := Text.append_inj_of_stop c.indent_blank d.indent_blank hb hb hopening
  have hgap : c.gap ++ 'o' :: ("bj/".toList ++ (output ++ c.afterOutput)) =
      d.gap ++ 'o' :: ("bj/".toList ++ (output' ++ d.afterOutput)) := by
    simpa [hc, hd] using hname
  obtain ⟨-, -, hafter⟩ := Text.append_inj_of_stop c.gap_blank d.gap_blank ho ho hgap
  exact List.append_cancel_left hafter

end BuildCut

section Read

variable {α : Type} {k : Place → Captures Field → Option α} {s : Captures Field} {r : α}
  {cs : List Char}

/-- What is read of a build statement is read after its name and the directory of outputs. -/
theorem exists_of_read_build {ps : List (Pattern Field)}
    (h : (inOrder (start :: many .blank :: lit "build" :: many .blank :: lit "obj/" :: ps)).read k
      (.ofText cs) s = some r) :
    ∃ indent gap last rest, IsBlanks indent ∧ IsBlanks gap ∧
      cs = indent ++ ("build".toList ++ (gap ++ ("obj/".toList ++ rest))) ∧
      (inOrder ps).read k ⟨last, rest⟩ s = some r := by
  rw [read_inOrder_cons] at h
  obtain ⟨indent, rest, hcs, hindent, -, h⟩ := exists_of_read_cons_run h
  obtain ⟨rest, rfl, h⟩ := exists_of_read_cons_lit h
  obtain ⟨gap, rest, rfl, hgap, -, h⟩ := exists_of_read_cons_run h
  obtain ⟨rest, rfl, h⟩ := exists_of_read_cons_lit h
  exact ⟨indent, gap, _, rest, hindent, hgap, hcs, h⟩

/-- Whatever follows the output of a build statement goes on with the dependencies after a bar. -/
theorem exists_of_read_buildTrailer {a : Place} {s' : Captures Field}
    (h : buildTrailer.read (fun _ s => some s) a s = some s') :
    ∃ outputs middle dependencies, ':' ∉ outputs ∧
      a.rest = outputs ++ (":".toList ++ (middle ++ ("|".toList ++ dependencies))) ∧
      s'.get? .dependencies = some dependencies ∧
      ∀ f, f ≠ .otherOutputs → f ≠ .rule → f ≠ .inputs → f ≠ .dependencies →
        s'.get? f = s.get? f := by
  obtain ⟨blanks, rest, hrest, hblanks, -, h⟩ := exists_of_read_cons_run h
  obtain ⟨outputs, rest, rfl, houtputs, -, h⟩ := exists_of_read_cons_capture_run h
  obtain ⟨gap, rest, rfl, hgap, -, h⟩ := exists_of_read_cons_run h
  obtain ⟨rest, rfl, h⟩ := exists_of_read_cons_lit h
  obtain ⟨ruleGap, rest, rfl, -, -, h⟩ := exists_of_read_cons_run h
  obtain ⟨rule, rest, rfl, -, -, h⟩ := exists_of_read_cons_capture_run h
  obtain ⟨inputsGap, rest, rfl, -, -, h⟩ := exists_of_read_cons_run h
  obtain ⟨inputs, rest, rfl, -, -, h⟩ := exists_of_read_cons_capture_run h
  obtain ⟨dependencies, rfl, h⟩ := exists_of_read_cons_lit h
  rw [read_to_end] at h
  refine ⟨blanks ++ (outputs ++ gap), ruleGap ++ (rule ++ (inputsGap ++ inputs)), dependencies,
    ?_, by simp [hrest], ?_, ?_⟩
  · have hblank : ∀ {xs : List Char}, IsBlanks xs → ':' ∉ xs :=
      fun hxs hmem => absurd (hxs ':' hmem) (by decide)
    have houtputs : ':' ∉ outputs := fun hmem => absurd (houtputs ':' hmem) (by decide)
    simp [hblank hblanks, houtputs, hblank hgap]
  · simp [← Option.some.inj h]
  · intro f hother hrule hinputs hdependencies
    simp [← Option.some.inj h, hother.symm, hrule.symm, hinputs.symm, hdependencies.symm]

end Read

theorem exists_cut_of_assembly {cs : List Char} {a : PackageAssembly}
    (h : PackageAssembly.ofStatement? cs = some a) :
    ∃ (c : BuildCut) (directory package : List Char), cs = c.text ∧
      c.output = "obj/".toList ++ archivePath directory package ∧ '.' ∉ directory ∧
      IsName package ∧ a = ⟨String.ofList directory, String.ofList package,
        (PackageAssembly.dependencyTargets directory package c.dependencies).map
          String.ofList⟩ := by
  obtain ⟨s, hs, rfl⟩ := Option.map_eq_some_iff.1 h
  rw [matchText?_eq] at hs
  obtain ⟨indent, gap, _, rest, hindent, hgap, rfl, hread⟩ := exists_of_read_build hs
  obtain ⟨directory, rest, rfl, hdirectory, -, hread⟩ := exists_of_read_cons_capture_run hread
  obtain ⟨rest, rfl, hread⟩ := exists_of_read_cons_lit hread
  obtain ⟨package, rest, rfl, hpackage, hne, hread⟩ := exists_of_read_cons_capture_run hread
  obtain ⟨rest, rfl, hread⟩ := exists_of_read_cons_lit hread
  obtain ⟨outputs, middle, dependencies, hend, rfl, hdependencies, hkept⟩ :=
    exists_of_read_buildTrailer hread
  refine ⟨⟨indent, gap, "obj/".toList ++ archivePath directory package, outputs, middle,
    dependencies, hindent, hgap, hend⟩, directory, package, ?_, rfl, ?_, ⟨hne rfl, hpackage⟩, ?_⟩
  · simp [BuildCut.text, BuildCut.afterOutput, archivePath]
  · exact fun hmem => absurd (hdirectory '.' hmem) (by decide)
  · simp [keptText, Captures.get, hdependencies, hkept]

/-- What is said of a component is said of the manifest that a statement is cut into. -/
theorem exists_cut_of_subComponents {cs : List Char} {b : SubComponents}
    (h : SubComponents.ofStatement? cs = some b) :
    ∃ (c : BuildCut) (directory component : List Char) (letter : Char), cs = c.text ∧
      c.output = "obj/".toList ++ (directory ++ ("/".toList ++ (component ++ (".cm".toList ++
        [letter])))) ∧ letter ∈ ['x', 'l'] ∧ '.' ∉ directory ∧ IsName component ∧
      b = ⟨String.ofList (directory ++ ("/".toList ++ (component ++ (".cm".toList ++ [letter])))),
        String.ofList directory, String.ofList component,
        (SubComponents.dependencyTargets directory component c.dependencies).map
          String.ofList⟩ := by
  obtain ⟨s, hs, rfl⟩ := Option.map_eq_some_iff.1 h
  rw [matchText?_eq] at hs
  obtain ⟨indent, gap, _, rest, hindent, hgap, rfl, hread⟩ := exists_of_read_build hs
  rw [read_cons_capture] at hread
  obtain ⟨directory, rest, rfl, hdirectory, -, hread⟩ := exists_of_read_cons_capture_run hread
  obtain ⟨rest, rfl, hread⟩ := exists_of_read_cons_lit hread
  obtain ⟨component, rest, rfl, hcomponent, hne, hread⟩ := exists_of_read_cons_capture_run hread
  obtain ⟨rest, rfl, hread⟩ := exists_of_read_cons_lit hread
  obtain ⟨letter, rest, rfl, hletter, hread⟩ := exists_of_read_one hread
  obtain ⟨outputs, middle, dependencies, hend, rfl, hdependencies, hkept⟩ :=
    exists_of_read_buildTrailer hread
  refine ⟨⟨indent, gap, "obj/".toList ++ (directory ++ ("/".toList ++ (component ++
    (".cm".toList ++ [letter])))), outputs, middle, dependencies, hindent, hgap, hend⟩, directory,
    component, letter, ?_, rfl, ?_, ?_, ⟨hne rfl, hcomponent⟩, ?_⟩
  · simp [BuildCut.text, BuildCut.afterOutput]
  · simpa [CharClass.has] using hletter
  · exact fun hmem => absurd (hdirectory '.' hmem) (by decide)
  · have hpath := Capture.text_append Field.manifestPath
      (directory ++ ("/".toList ++ (component ++ (".cm".toList ++ [letter]))))
      (outputs ++ (":".toList ++ (middle ++ ("|".toList ++ dependencies))))
    have hmanifest : s.get .manifestPath =
        directory ++ ("/".toList ++ (component ++ (".cm".toList ++ [letter]))) := by
      simpa [Captures.get, hkept] using hpath
    rw [keptText, hmanifest]
    simp [keptText, Captures.get, hdependencies, hkept]

/-- The archive of a package is not the manifest of a component. -/
theorem subComponents_eq_none_of_assembly {cs : List Char}
    (h : (PackageAssembly.ofStatement? cs).isSome) : SubComponents.ofStatement? cs = none := by
  by_contra hsome
  obtain ⟨a, ha⟩ := Option.isSome_iff_exists.1 h
  obtain ⟨b, hb⟩ := Option.ne_none_iff_exists'.1 hsome
  obtain ⟨c, directory, package, rfl, hc, hdirectory, hpackage, -⟩ := exists_cut_of_assembly ha
  obtain ⟨d, directory', component, letter, htext, hd, -, hdirectory', hcomponent, -⟩ :=
    exists_cut_of_subComponents hb
  have hdot : Text.isName '.' = false := by decide
  -- The first dot is that of the ending in both, and the endings differ.
  have hfirst : (directory ++ '/' :: (package ++ "/meta".toList)) ++
        '.' :: ("far".toList ++ c.afterOutput) =
      (directory' ++ '/' :: component) ++ '.' :: ("cm".toList ++ letter :: d.afterOutput) := by
    simpa [archivePath] using BuildCut.eq_after_outputs hc hd htext
  have hendings := (append_dot_inj (by simp [hdirectory, hpackage.not_mem hdot])
    (by simp [hdirectory', hcomponent.not_mem hdot]) hfirst).2
  simp at hendings

/-! ## Whole words -/

/-- How the names of the outputs end that are recognized. -/
def outputEndings : List (List Char) := [".far".toList, ".cmx".toList, ".cml".toList]

/-- Whether a word is an output, up to a colon, that has no dot but that of its ending. -/
def IsPlainOutput (w : List Char) : Prop :=
  ∃ stem ending after, w = stem ++ (ending ++ after) ∧ '.' ∉ stem ∧ ending ∈ outputEndings ∧
    ∀ d ∈ after.head?, d = ':'

/-- Whether a statement begins with its name as a word of its own, and then a plain output. -/
def HasPlainOutput (statement : List Char) : Prop :=
  ∃ w ws, Text.words statement = "build".toList :: w :: ws ∧ IsPlainOutput w

theorem exists_of_mem_outputEndings {ending : List Char} (h : ending ∈ outputEndings) :
    ∃ ext, ending = '.' :: ext ∧ ext.length = 3 := by
  simp only [outputEndings, List.mem_cons, List.not_mem_nil, or_false] at h
  rcases h with rfl | rfl | rfl <;> exact ⟨_, rfl, by decide⟩

namespace BuildCut

variable {w : List Char} {ws : List (List Char)}

/-- A statement that begins with its name as a word of its own has a blank after it. -/
theorem gap_ne_of_words (c : BuildCut) {rest : List Char}
    (houtput : c.output = "obj/".toList ++ rest)
    (h : Text.words c.text = "build".toList :: w :: ws) :
    c.gap ≠ [] ∧ Text.words (c.output ++ c.afterOutput) = w :: ws := by
  have hvisible : IsVisible "build".toList := by decide
  rw [text, Text.words_blanks_append c.indent_blank] at h
  obtain ⟨vs, after, hsplit, hafter, hwords⟩ := Text.exists_words_visible_append (by simp) hvisible
    (c.gap ++ (c.output ++ c.afterOutput))
  obtain ⟨hvs, hws⟩ := List.cons.inj (hwords.symm.trans h)
  obtain rfl : vs = [] := by simpa using hvs
  obtain rfl : c.gap ++ (c.output ++ c.afterOutput) = after := hsplit
  refine ⟨fun hgap => ?_, by rwa [Text.words_blanks_append c.gap_blank] at hws⟩
  have ho : Text.isBlank 'o' = true := hafter 'o' (by simp [hgap, houtput])
  exact absurd ho (by decide)

theorem isWholeWord (c : BuildCut) {stem ending : List Char}
    (houtput : c.output = "obj/".toList ++ (stem ++ ending)) (hstem : '.' ∉ stem)
    (hending : ending ∈ outputEndings) (h : HasPlainOutput c.text) : c.IsWholeWord := by
  obtain ⟨w, ws, hwords, stem', ending', after', hplain, hstem', hending', hafter'⟩ := h
  obtain ⟨hgap, hwords⟩ := c.gap_ne_of_words houtput hwords
  have hobj : IsVisible "obj/".toList := by decide
  obtain ⟨ext, rfl, hlength⟩ := exists_of_mem_outputEndings hending
  obtain ⟨ext', rfl, hlength'⟩ := exists_of_mem_outputEndings hending'
  have hw : w ∈ Text.words (c.output ++ c.afterOutput) := by simp [hwords]
  obtain ⟨vs, after, hsplit, hafter, hfirst⟩ := Text.exists_words_visible_append (by simp) hobj
    ((stem ++ '.' :: ext) ++ c.afterOutput)
  rw [← List.append_assoc, ← houtput, hwords] at hfirst
  obtain ⟨rfl, -⟩ := List.cons.inj hfirst
  -- The first dot is that of the output, and that of the word.
  have hdots : ("obj/".toList ++ stem) ++ '.' :: (ext ++ c.afterOutput) =
      stem' ++ '.' :: (ext' ++ (after' ++ after)) := by
    have hvs := congrArg (· ++ after) hplain
    simp only [List.append_assoc, ← hsplit] at hvs
    simpa using hvs
  obtain ⟨rfl, hexts⟩ := append_dot_inj (by simp [hstem]) hstem' hdots
  obtain ⟨rfl, hrest⟩ := List.append_inj hexts (by rw [hlength, hlength'])
  refine ⟨hgap, fun d hd => ?_, fun d hd => ?_⟩
  · refine Text.isBlank_eq_false_of_mem_words hw d ?_
    rw [hplain]
    simp only [houtput, List.mem_append] at hd ⊢
    tauto
  · have hhead : (after' ++ after).head? = some d := by
      rw [← hrest, afterOutput, List.head?_append, hd]
      rfl
    cases after' with
    | nil => exact hafter d hhead
    | cons e after' =>
      obtain rfl : e = d := by simpa using hhead
      obtain rfl : e = ':' := hafter' e (by simp)
      exact absurd (List.mem_of_mem_head? hd) c.outputs_end

end BuildCut

end ComponentLinks.Statement
