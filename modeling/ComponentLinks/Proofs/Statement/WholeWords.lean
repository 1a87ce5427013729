import ComponentLinks.Proofs.Statement.PackageDependencies
import ComponentLinks.Proofs.Statement.Parts

/-!
# The words that targets are read from

What is reported of a build statement is read from paths of stamps below the directory of its
output. Nothing keeps these paths apart from the text around them: they may be parts of words, and
of several words. They are whole words of the dependencies if the words keep to how dependencies are
written.

## Main definitions

* `Statement.stampPath`: the path of a stamp below a directory.
* `Statement.ReadsAs`: the targets that the stamps of a package are read as.
* `Statement.IsPlainDependency`, `Statement.IsPathDependency`: how dependencies are written.
* `Statement.exists_of_mem_dependencyTargets`, `Statement.exists_of_mem_partTargets`: the stamps
  that targets are read from.
* `Statement.exists_cut_of_ofStatement?`: what build statements are read as, word by word.
-/
namespace ComponentLinks.Statement

open Pattern

/-- The path of the stamp of a target below a directory. -/
def stampPath (directory target : List Char) : List Char :=
  outputPrefix directory ++ (target ++ ".stamp".toList)

/-- Whether a dependency holds the path of the directory only where it begins, and the ending of a
stamp only where it ends. -/
structure IsPlainDependency (directory w : List Char) : Prop where
  start : ¬ outputPrefix directory <:+: w.tail
  stamp : ¬ ".stamp".toList <:+: w.dropLast

/-- Whether a dependency is moreover a path: a stamp has a slash in it, and what is in the directory
has a dot. -/
structure IsPathDependency (directory w : List Char) : Prop extends
    IsPlainDependency directory w where
  slash : ".stamp".toList <:+ w → '/' ∈ w
  dot : outputPrefix directory <+: w → '.' ∈ w.drop (outputPrefix directory).length

section Dependency

variable {directory us vs : List Char}

theorem IsPlainDependency.before_eq_nil
    (h : IsPlainDependency directory (us ++ (outputPrefix directory ++ vs))) : us = [] := by
  cases us with
  | nil => rfl
  | cons u us => exact absurd ⟨us, vs, by simp⟩ h.start

theorem IsPlainDependency.after_eq_nil
    (h : IsPlainDependency directory (us ++ (".stamp".toList ++ vs))) : vs = [] := by
  rcases List.eq_nil_or_concat vs with rfl | ⟨vs, v, rfl⟩
  · rfl
  · refine absurd ⟨us, vs, ?_⟩ h.stamp
    rw [List.concat_eq_append, ← List.append_assoc, ← List.append_assoc, List.dropLast_concat]

theorem IsPathDependency.slash_mem
    (h : IsPathDependency directory (us ++ (".stamp".toList ++ vs))) : '/' ∈ us := by
  obtain rfl := h.after_eq_nil
  have hslash := h.slash ⟨us, by simp⟩
  have hstamp : '/' ∉ ".stamp".toList := by decide
  simpa using hslash

theorem IsPathDependency.dot_mem (h : IsPathDependency directory (outputPrefix directory ++ vs)) :
    '.' ∈ vs := by
  simpa using h.dot (List.prefix_append _ _)

end Dependency

/-- What the name of a stamp of a package, without its ending, is read as: a target under its own
name, with the name of the package in front, or one directory down. -/
inductive ReadsAs (package : List Char) : List Char → List Char → Prop where
  | name {slash name ending} (hslash : slash ∈ [[], ['/']]) (hname : '/' ∉ name)
    (hending : ending ∈ [[], ".manifest".toList]) :
    ReadsAs package (slash ++ (name ++ ending)) name
  | package {slash name ending target} (hslash : slash ∈ [[], ['/']]) (hname : '/' ∉ name)
    (hending : ending ∈ [[], ".manifest".toList]) (htarget : targetOf package name = some target) :
    ReadsAs package (package ++ ['_'] ++ (slash ++ (name ++ ending))) target
  | below {subdirectory slash name ending} (hsubdirectory : '/' ∉ subdirectory)
    (hslash : slash ∈ [[], ['/']]) (hname : '/' ∉ name)
    (hending : ending ∈ [[], ".manifest".toList]) :
    ReadsAs package (subdirectory ++ (slash ++ (name ++ ending))) (subdirectory ++ '/' :: name)

section Package

variable {directory package target : List Char} {a b : Place} {s : Captures Field}

/-- A stamp that a target is made of falls into a beginning without dots and a name without
slashes. -/
theorem exists_of_read_stampPatterns (hpackage : IsName package)
    (h : (inOrder (stampPatterns package)).read (fun b s => some (b, s)) a [] = some (b, s))
    (htarget : PackageAssembly.dependencyTarget? s = some target) :
    ∃ front name, a.rest = front ++ (name ++ (".stamp".toList ++ b.rest)) ∧ '.' ∉ front ∧
      '/' ∉ name ∧ ReadsAs package (front ++ name) target := by
  obtain ⟨first, last, rest, s', hrest, hdot, hslash, hfront, h⟩ := exists_of_read_front hpackage h
  obtain ⟨slash, last, rest, rfl, hslashes, h⟩ := exists_of_read_slash h
  rcases or_of_read_alt h with h | h
  · -- Nothing is made of a stamp that names no target.
    obtain ⟨word, rest, -, -, h⟩ := exists_of_read_nonComponentStamp h
    obtain ⟨-, rfl⟩ := Prod.mk.inj (Option.some.inj h)
    cases hfront <;> simp [PackageAssembly.dependencyTarget?] at htarget
  · obtain ⟨name, rest, rfl, hname, hne, h⟩ := exists_of_read_cons_capture_run h
    have hnameSlash : '/' ∉ name := fun hmem => absurd (hname '/' hmem) (by decide)
    obtain ⟨ending, hending, rfl, rfl⟩ : ∃ ending ∈ [[], ".manifest".toList],
        rest = ending ++ (".stamp".toList ++ b.rest) ∧
          s = ⟨.componentTarget, name ++ rest, rest⟩ :: s' := by
      rw [read_inOrder_cons] at h
      rcases or_of_read_opt h with h | h
      · obtain ⟨rest, rfl, h⟩ := exists_of_read_text h
        obtain ⟨rest, rfl, h⟩ := exists_of_read_cons_lit h
        obtain ⟨rfl, rfl⟩ := Prod.mk.inj (Option.some.inj h)
        exact ⟨_, by simp, rfl, rfl⟩
      · obtain ⟨rest, rfl, h⟩ := exists_of_read_cons_lit h
        obtain ⟨rfl, rfl⟩ := Prod.mk.inj (Option.some.inj h)
        exact ⟨[], by simp, rfl, rfl⟩
    have hslashes : slash ∈ [[], ['/']] := by simpa using hslashes
    have hendingSlash : '/' ∉ ending := by
      have hendings : ∀ ending ∈ [[], ".manifest".toList], '/' ∉ ending := by decide
      exact hendings ending hending
    refine ⟨first ++ slash, name ++ ending, by simp [hrest], ?_, by simp [hnameSlash, hendingSlash],
      ?_⟩
    · have hslashDot : ∀ slash ∈ [[], ['/']], '.' ∉ slash := by decide
      simp [hdot, hslashDot slash hslashes]
    · rw [List.append_assoc]
      cases hfront with
      | none =>
        rw [dependencyTarget?_of_target (hne rfl)] at htarget
        obtain rfl := Option.some.inj htarget
        exact .name hslashes hnameSlash hending
      | package =>
        rw [dependencyTarget?_of_package hpackage.1 (hne rfl)] at htarget
        exact .package hslashes hnameSlash hending htarget
      | below hsubdirectory =>
        rw [dependencyTarget?_of_below hsubdirectory (hne rfl)] at htarget
        obtain rfl := Option.some.inj htarget
        exact .below hslash hslashes hnameSlash hending

/-- A target that is made of dependencies is read from the path of a stamp in them. -/
theorem exists_of_mem_dependencyTargets {dependencies : List Char} (hpackage : IsName package)
    (h : target ∈ PackageAssembly.dependencyTargets directory package dependencies) :
    ∃ before front name after, dependencies =
        before ++ (outputPrefix directory ++ (front ++ (name ++ (".stamp".toList ++ after)))) ∧
      '.' ∉ front ∧ '/' ∉ name ∧ ReadsAs package (front ++ name) target := by
  obtain ⟨m, hm, htarget⟩ := List.mem_filterMap.1 h
  obtain ⟨us, vs, last, b, rfl, hmatch⟩ := exists_matchAt?_of_mem_scanFrom hm
  obtain ⟨blanks, _, rest, -, hvs, -, hread⟩ := exists_output_of_matchAt? hmatch
  obtain ⟨front, name, rfl, hfront, hname, hreads⟩ :=
    exists_of_read_stampPatterns hpackage hread htarget
  obtain rfl : vs = _ := hvs
  exact ⟨us ++ blanks, front, name, b.rest, by simp, hfront, hname, hreads⟩

/-- What is read of a stamp from its directory on is all of a word that has a dot, if the ending of
a stamp ends it and what comes after is apart. -/
theorem eq_of_isApart {front name after vs later : List Char}
    (h : front ++ (name ++ (".stamp".toList ++ after)) = vs ++ later) (hfront : '.' ∉ front)
    (hname : '/' ∉ name) (hdot : '.' ∈ vs)
    (hstamp : ∀ us ys, vs = us ++ (".stamp".toList ++ ys) → ys = []) (hlater : IsApart later) :
    vs = front ++ (name ++ ".stamp".toList) := by
  rcases List.append_eq_append_iff.1 h with ⟨ts, rfl, htail⟩ | ⟨ts, rfl, -⟩
  · rw [← List.append_assoc] at htail
    rcases List.append_eq_append_iff.1 htail with ⟨ys, rfl, -⟩ | ⟨ys, hts, rfl⟩
    · obtain rfl : ys = [] := hstamp (front ++ name) ys (by simp)
      simp
    · cases ys with
      | nil => rw [hts, List.append_nil]
      | cons u ys =>
        -- The stamp would end after the blank, and no slash comes before that.
        have hu : u ∉ ".stamp".toList := by
          intro hmem
          have hvisible : IsVisible ".stamp".toList := by decide
          have hblank : Text.isBlank u = true := hlater.blank u (by simp)
          simp [hvisible u hmem] at hblank
        obtain ⟨zs, rfl⟩ : ".stamp".toList <:+ ys :=
          Text.suffix_of_suffix_append hu ⟨name, hts⟩
        have hslash : '/' ∈ u :: zs := hlater.slash (u :: zs) after (by simp)
        have hmem : '/' ∈ ts ++ ((u :: zs) ++ ".stamp".toList) :=
          List.mem_append_right ts (List.mem_append_left _ hslash)
        rw [List.cons_append, ← hts] at hmem
        simp [hname] at hmem
  · exact absurd (List.mem_append_left ts hdot) hfront

theorem stampPath_mem_words_of_package {dependencies : List Char}
    (hdirectory : IsVisible directory) (hpackage : IsName package)
    (hpaths : ∀ w ∈ Text.words dependencies, IsPathDependency directory w)
    (h : target ∈ PackageAssembly.dependencyTargets directory package dependencies) :
    ∃ name, ReadsAs package name target ∧ stampPath directory name ∈ Text.words dependencies := by
  obtain ⟨before, front, name, after, rfl, hfront, hname, hreads⟩ :=
    exists_of_mem_dependencyTargets hpackage h
  have hprefix := isVisible_outputPrefix hdirectory
  obtain ⟨earlier, us, vs, later, rfl, hvs, hlater, hwords⟩ :=
    Text.exists_word_around (by simp [outputPrefix]) hprefix before
      (front ++ (name ++ (".stamp".toList ++ after)))
  have hmem : us ++ (outputPrefix directory ++ vs) ∈ Text.words ((earlier ++ us) ++
      (outputPrefix directory ++ (front ++ (name ++ (".stamp".toList ++ after))))) := by
    rw [hwords]
    exact List.mem_append_right _ List.mem_cons_self
  have hpath := hpaths _ hmem
  obtain rfl : us = [] := hpath.before_eq_nil
  -- The word goes on after the dot, and no end of a stamp is left behind.
  have hapart : IsApart later := by
    refine isApart_of_slashes hlater fun w hw xs ys hsplit => ?_
    have hmem : w ∈ Text.words ((earlier ++ []) ++
        (outputPrefix directory ++ (front ++ (name ++ (".stamp".toList ++ after))))) := by
      rw [hwords]
      exact List.mem_append_right _ (List.mem_cons_of_mem _ hw)
    have hword : IsPathDependency directory (xs ++ (".stamp".toList ++ ys)) :=
      hsplit ▸ hpaths w hmem
    exact hword.slash_mem
  have hstamp : ∀ us ys, vs = us ++ (".stamp".toList ++ ys) → ys = [] := by
    rintro us ys rfl
    have hword : IsPlainDependency directory
        ((outputPrefix directory ++ us) ++ (".stamp".toList ++ ys)) := by
      simpa using hpath.toIsPlainDependency
    exact hword.after_eq_nil
  have hword := eq_of_isApart hvs hfront hname hpath.dot_mem hstamp hapart
  refine ⟨front ++ name, hreads, ?_⟩
  rw [List.nil_append, hword] at hmem
  rw [stampPath, List.append_assoc front]
  exact hmem

end Package

section Parts

variable {directory component target dependencies : List Char}

/-- A part that is made of dependencies is read from the path of its stamp in them. -/
theorem exists_of_mem_partTargets (hcomponent : IsName component)
    (h : target ∈ SubComponents.dependencyTargets directory component dependencies) :
    ∃ before after, dependencies = before ++ (stampPath directory target ++ after) ∧
      IsName target := by
  obtain ⟨m, hm, htarget⟩ := List.mem_filterMap.1 h
  obtain ⟨us, vs, last, b, rfl, hmatch⟩ := exists_matchAt?_of_mem_scanFrom hm
  obtain ⟨blanks, word, -, -, hvs, hword⟩ := exists_of_matchAt?_part hcomponent hmatch
  obtain ⟨hname, rfl⟩ := hword target htarget
  obtain rfl : vs = _ := hvs
  exact ⟨us ++ blanks, b.rest, by simp [stampPath], hname⟩

theorem stampPath_mem_words_of_part (hdirectory : IsVisible directory)
    (hcomponent : IsName component)
    (hplain : ∀ w ∈ Text.words dependencies, IsPlainDependency directory w)
    (h : target ∈ SubComponents.dependencyTargets directory component dependencies) :
    stampPath directory target ∈ Text.words dependencies := by
  obtain ⟨before, after, rfl, hname⟩ := exists_of_mem_partTargets hcomponent h
  have hvisible : IsVisible (stampPath directory target) :=
    (isVisible_outputPrefix hdirectory).append
      (hname.isVisible.append (by decide))
  obtain ⟨earlier, us, vs, later, rfl, rfl, -, hwords⟩ :=
    Text.exists_word_around (by simp [stampPath, hname.1]) hvisible before after
  have hmem : us ++ (stampPath directory target ++ vs) ∈
      Text.words ((earlier ++ us) ++ (stampPath directory target ++ (vs ++ later))) := by
    rw [hwords]
    exact List.mem_append_right _ List.mem_cons_self
  have hword := hplain _ hmem
  rw [stampPath, List.append_assoc] at hword
  obtain rfl : us = [] := hword.before_eq_nil
  obtain rfl : vs = [] := by
    have hstamp : IsPlainDependency directory
        ((outputPrefix directory ++ target) ++ (".stamp".toList ++ vs)) := by
      simpa using hword
    exact hstamp.after_eq_nil
  simpa using hmem

end Parts

/-- What is said of a build statement is said of an output and read from stamps below its directory,
in the dependencies. In a statement with a plain output the output is a whole word, and so are the
stamps if the dependencies are written as paths. -/
theorem exists_cut_of_ofStatement? (statement : List Char) :
    (∀ a, PackageAssembly.ofStatement? statement = some a →
      ∃ c : BuildCut, statement = c.text ∧
        c.output = "obj/".toList ++ archivePath a.directory.toList a.package.toList ∧
        a.components = (PackageAssembly.dependencyTargets a.directory.toList a.package.toList
          c.dependencies).map String.ofList ∧
        (∀ t ∈ a.components, ∃ name, ReadsAs a.package.toList name t.toList ∧
          stampPath a.directory.toList name <:+: c.dependencies) ∧
        (HasPlainOutput statement → c.IsWholeWord ∧
          ((∀ w ∈ Text.words c.dependencies, IsPathDependency a.directory.toList w) →
            ∀ t ∈ a.components, ∃ name, ReadsAs a.package.toList name t.toList ∧
              stampPath a.directory.toList name ∈ Text.words c.dependencies))) ∧
    (∀ b, SubComponents.ofStatement? statement = some b →
      ∃ c : BuildCut, statement = c.text ∧
        (∃ letter ∈ ['x', 'l'], b.manifest.toList = b.directory.toList ++ ("/".toList ++
          (b.component.toList ++ (".cm".toList ++ [letter])))) ∧
        c.output = "obj/".toList ++ b.manifest.toList ∧
        b.parts = (SubComponents.dependencyTargets b.directory.toList b.component.toList
          c.dependencies).map String.ofList ∧
        (∀ t ∈ b.parts, stampPath b.directory.toList t.toList <:+: c.dependencies) ∧
        (HasPlainOutput statement → c.IsWholeWord ∧
          ((∀ w ∈ Text.words c.dependencies, IsPlainDependency b.directory.toList w) →
            ∀ t ∈ b.parts,
              stampPath b.directory.toList t.toList ∈ Text.words c.dependencies))) := by
  refine ⟨fun a ha => ?_, fun b hb => ?_⟩
  · -- The archive of a package. Its directory has no blanks only if the output is a whole word.
    obtain ⟨c, directory, package, rfl, houtput, hdot, hpackage, rfl⟩ := exists_cut_of_assembly ha
    simp only [String.toList_ofList]
    refine ⟨c, rfl, houtput, rfl, ?_, fun hplain => ?_⟩
    · intro t ht
      obtain ⟨target, htarget, rfl⟩ := List.mem_map.1 ht
      obtain ⟨before, front, name, after, hdependencies, -, -, hreads⟩ :=
        exists_of_mem_dependencyTargets hpackage htarget
      rw [String.toList_ofList]
      exact ⟨front ++ name, hreads, before, after, by simp [hdependencies, stampPath]⟩
    · have hwhole : c.IsWholeWord := by
        have hfar : c.output = "obj/".toList ++
            ((directory ++ ("/".toList ++ (package ++ "/meta".toList))) ++ ".far".toList) := by
          simp [houtput, archivePath]
        refine c.isWholeWord hfar ?_ (by simp [outputEndings]) hplain
        simp [hdot, hpackage.not_mem (c := '.') (by decide)]
      refine ⟨hwhole, fun hpaths t ht => ?_⟩
      obtain ⟨target, htarget, rfl⟩ := List.mem_map.1 ht
      have hdirectory : IsVisible directory := fun d hd =>
        hwhole.output_visible d (by simp [houtput, archivePath, hd])
      rw [String.toList_ofList]
      exact stampPath_mem_words_of_package hdirectory hpackage hpaths htarget
  · -- The manifest of a component, in the same way.
    obtain ⟨c, directory, component, letter, rfl, houtput, hletter, hdot, hcomponent, rfl⟩ :=
      exists_cut_of_subComponents hb
    simp only [String.toList_ofList]
    refine ⟨c, rfl, ⟨letter, hletter, rfl⟩, houtput, rfl, ?_, fun hplain => ?_⟩
    · intro t ht
      obtain ⟨target, htarget, rfl⟩ := List.mem_map.1 ht
      obtain ⟨before, after, hdependencies, -⟩ := exists_of_mem_partTargets hcomponent htarget
      rw [String.toList_ofList]
      exact ⟨before, after, by simp [hdependencies]⟩
    · have hending : ".cm".toList ++ [letter] ∈ outputEndings := by
        simp only [List.mem_cons, List.not_mem_nil, or_false] at hletter
        rcases hletter with rfl | rfl <;> simp [outputEndings]
      have hwhole : c.IsWholeWord := by
        have hmanifest : c.output = "obj/".toList ++
            ((directory ++ ("/".toList ++ component)) ++ (".cm".toList ++ [letter])) := by
          simp [houtput]
        refine c.isWholeWord hmanifest ?_ hending hplain
        simp [hdot, hcomponent.not_mem (c := '.') (by decide)]
      refine ⟨hwhole, fun hpaths t ht => ?_⟩
      obtain ⟨target, htarget, rfl⟩ := List.mem_map.1 ht
      have hdirectory : IsVisible directory := fun d hd =>
        hwhole.output_visible d (by simp [houtput, hd])
      rw [String.toList_ofList]
      exact stampPath_mem_words_of_part hdirectory hcomponent hpaths htarget

/-! ## Dependencies that are apart, and one that is not -/

/-- Where only one bar stands in a statement, the dependencies come after it. -/
theorem BuildCut.dependencies_eq {c : BuildCut} {output dependencies : List Char}
    (h : (dependentOn dependencies).text output = c.text) (houtput : '|' ∉ output)
    (hdependencies : '|' ∉ dependencies) : c.dependencies = dependencies := by
  have hstart : '|' ∉ "build obj/".toList ++ (output ++ " out: stamp i ".toList) := by
    simp [houtput]
  have hbars : ("build obj/".toList ++ (output ++ " out: stamp i ".toList)) ++
      '|' :: dependencies = (c.indent ++ ("build".toList ++ (c.gap ++ (c.output ++ (c.outputs ++
        (":".toList ++ c.middle)))))) ++ '|' :: c.dependencies := by
    simpa [BuildForm.text, BuildTail.text, dependentOn, BuildCut.text, BuildCut.afterOutput]
      using h
  obtain ⟨zs, -, hzs⟩ := Text.exists_append_of_not_mem hstart hbars
  cases zs with
  | nil => exact (List.cons.inj hzs).2.symm
  | cons z zs =>
    obtain ⟨-, rfl⟩ := List.cons.inj hzs
    simp at hdependencies

/-- The dependencies on a stamp of the directory `d` and on one of another toolchain. -/
def apartDependencies : List Char := " obj/d/a.stamp host_x64/obj/e/x.stamp".toList

theorem isPathDependency_apartDependencies :
    ∀ w ∈ Text.words apartDependencies, IsPathDependency "d".toList w := by
  have hwords : Text.words apartDependencies =
      ["obj/d/a.stamp".toList, "host_x64/obj/e/x.stamp".toList] := by
    decide +kernel
  rw [hwords]
  intro w hw
  simp only [List.mem_cons, List.not_mem_nil, or_false] at hw
  rcases hw with rfl | rfl
  · exact ⟨⟨by decide +kernel, by decide +kernel⟩, by decide, by decide⟩
  · exact ⟨⟨by decide +kernel, by decide +kernel⟩, by decide, by decide⟩

/-- The stamps of other toolchains are kept apart by what the dependencies begin with, as long as
they are in other directories. -/
theorem exists_cut_apartDependencies :
    (HasPlainOutput ((dependentOn apartDependencies).text (archivePath "d".toList "p".toList)) ∧
      ∃ a, PackageAssembly.ofStatement?
          ((dependentOn apartDependencies).text (archivePath "d".toList "p".toList)) = some a ∧
        a.components = ["a"] ∧ ∀ t ∈ a.components, ∃ name, ReadsAs "p".toList name t.toList ∧
          stampPath "d".toList name ∈ Text.words apartDependencies) ∧
    (HasPlainOutput
        ((dependentOn apartDependencies).text (builtManifestPath "d".toList "c".toList)) ∧
      ∃ b, SubComponents.ofStatement?
          ((dependentOn apartDependencies).text (builtManifestPath "d".toList "c".toList)) =
            some b ∧
        b.parts = ["a"] ∧
        ∀ t ∈ b.parts, stampPath "d".toList t.toList ∈ Text.words apartDependencies) := by
  have hbar : '|' ∉ apartDependencies := by decide
  have hassembly : PackageAssembly.ofStatement?
      ((dependentOn apartDependencies).text (archivePath "d".toList "p".toList)) =
        some ⟨"d", "p", ["a"]⟩ := by
    decide +kernel
  have hparts : SubComponents.ofStatement?
      ((dependentOn apartDependencies).text (builtManifestPath "d".toList "c".toList)) =
        some ⟨"d/c.cmx", "d", "c", ["a"]⟩ := by
    decide +kernel
  have hplain : HasPlainOutput
      ((dependentOn apartDependencies).text (archivePath "d".toList "p".toList)) := by
    refine ⟨"obj/d/p/meta.far".toList, ["out:".toList, "stamp".toList, "i".toList, "|".toList,
      "obj/d/a.stamp".toList, "host_x64/obj/e/x.stamp".toList], by decide +kernel, ?_⟩
    exact ⟨"obj/d/p/meta".toList, ".far".toList, [], by decide, by decide,
      by simp [outputEndings], by simp⟩
  have hplain' : HasPlainOutput
      ((dependentOn apartDependencies).text (builtManifestPath "d".toList "c".toList)) := by
    refine ⟨"obj/d/c.cmx".toList, ["out:".toList, "stamp".toList, "i".toList, "|".toList,
      "obj/d/a.stamp".toList, "host_x64/obj/e/x.stamp".toList], by decide +kernel, ?_⟩
    exact ⟨"obj/d/c".toList, ".cmx".toList, [], by decide, by decide, by simp [outputEndings],
      by simp⟩
  refine ⟨⟨hplain, _, hassembly, rfl, ?_⟩, ⟨hplain', _, hparts, rfl, ?_⟩⟩
  · obtain ⟨c, hc, -, -, -, hwhole⟩ := (exists_cut_of_ofStatement? _).1 _ hassembly
    have hmem := (hwhole hplain).2
    rw [BuildCut.dependencies_eq hc (by decide) hbar] at hmem
    exact hmem isPathDependency_apartDependencies
  · obtain ⟨c, hc, -, -, -, -, hwhole⟩ := (exists_cut_of_ofStatement? _).2 _ hparts
    have hmem := (hwhole hplain').2
    rw [BuildCut.dependencies_eq hc (by decide) hbar] at hmem
    exact hmem fun w hw => (isPathDependency_apartDependencies w hw).toIsPlainDependency

/-- The stamp of another toolchain passes for one of the directory, although no dependency begins
with the directory. -/
theorem components_dependentOn_toolchain :
    Text.words " host_x64/obj/d/x.stamp".toList = ["host_x64/obj/d/x.stamp".toList] ∧
      ¬ outputPrefix "d".toList <+: "host_x64/obj/d/x.stamp".toList ∧
      (PackageAssembly.ofStatement? ((dependentOn " host_x64/obj/d/x.stamp".toList).text
        (archivePath "d".toList "p".toList))).map (·.components) = some ["x"] ∧
      (SubComponents.ofStatement? ((dependentOn " host_x64/obj/d/x.stamp".toList).text
        (builtManifestPath "d".toList "c".toList))).map (·.parts) = some ["x"] := by
  refine ⟨by decide +kernel, by decide, ?_, ?_⟩ <;> decide +kernel

end ComponentLinks.Statement
