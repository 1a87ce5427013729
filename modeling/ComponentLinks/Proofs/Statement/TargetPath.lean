import ComponentLinks.Proofs.Statement.Compilation
import ComponentLinks.Proofs.Statement.PackageDependencies
import ComponentLinks.Proofs.Statement.Validation

/-!
# The target path that statements agree on

The commands for the manifest of a component target and the package that depends on the target are
brought together by the target path. The commands record the path as it stands. The package does so
only for a target that does not begin with the name of the package, which it takes off otherwise.

## Main definitions

* `Statement.listedTarget`: the name under which a package lists a target.
* `Statement.listedTarget_mem_dependencyTargets`: the stamp of the target is listed under it.
* `Statement.recorded_targetPath`: the target paths that the three statements record.
-/
namespace ComponentLinks.Statement

open Pattern

/-- The name under which a package lists a target of its directory: without the name of the package
in front, unless nothing or only the placeholder is left of it. -/
def listedTarget (package target : List Char) : List Char :=
  if package ++ ['_'] <+: target ∧ target ≠ package ++ ['_'] ∧
      target ≠ package ++ '_' :: PackageAssembly.placeholderTarget then
    target.drop (package.length + 1)
  else target

theorem listedTarget_of_not_isPrefix {package target : List Char}
    (h : ¬ package ++ ['_'] <+: target) : listedTarget package target = target := by
  simp [listedTarget, h]

@[simp] theorem listedTarget_package (package : List Char) :
    listedTarget package (package ++ ['_']) = package ++ ['_'] := by
  simp [listedTarget]

theorem listedTarget_append {package name : List Char} (hne : name ≠ [])
    (hname : name ≠ PackageAssembly.indexTarget) :
    targetOf package name = some (listedTarget package (package ++ '_' :: name)) := by
  have hpre : package ++ ['_'] <+: package ++ '_' :: name := ⟨name, by simp⟩
  have hdrop : (package ++ '_' :: name).drop (package.length + 1) = name := by
    rw [List.drop_append]
    simp
  by_cases hplaceholder : name = PackageAssembly.placeholderTarget
  · simp [listedTarget, hplaceholder]
  · simp [listedTarget, targetOf, hpre, hdrop, hne, hname, hplaceholder]

theorem IsName.listedTarget {package target : List Char} (h : IsName target) :
    IsName (listedTarget package target) := by
  rw [Statement.listedTarget]
  split
  case isTrue hdrop =>
    obtain ⟨⟨name, hname⟩, hne, -⟩ := hdrop
    have htail : target.drop (package.length + 1) = name := by
      rw [← hname, List.drop_append]
      simp
    rw [htail]
    refine ⟨?_, fun c hc => h.2 c (by simp [← hname, hc])⟩
    rintro rfl
    simp [← hname] at hne
  case isFalse => exact h

section Listed

variable {α : Type} {k : Place → Captures Field → Option α} {last : Option Char}
  {s : Captures Field} {directory package target rest : List Char}

/-- No target is read of a stamp without a name, if what comes after is apart. -/
theorem read_nameless_eq_none (hrest : IsApart rest) :
    (alt nonComponentStamp targetStamp).read k ⟨last, ".stamp".toList ++ rest⟩ s = none := by
  have hending : ".stamp".toList ∈ stampEndings := by simp [stampEndings]
  have hplain : IsPlainStart [] := ⟨by simp, by simp, by simp, by simp, by simp⟩
  refine read_alt_eq_none (read_nonComponentStamp_eq_none hplain hending hrest.blank) ?_
  by_contra hsome
  obtain ⟨r, hr⟩ := Option.ne_none_iff_exists'.1 hsome
  obtain ⟨name, after, hsplit, hname, hne, hr⟩ := exists_of_read_cons_capture_run hr
  have hslash : '/' ∉ name := fun hmem => absurd (hname '/' hmem) (by decide)
  -- The end of the stamp that is read comes later, and with no slash before it.
  obtain ⟨before, zs, rfl, hbefore⟩ : ∃ before zs, after = before ++ (".stamp".toList ++ zs) ∧
      '/' ∉ before := by
    rw [read_inOrder_cons] at hr
    rcases or_of_read_opt hr with hr | hr
    · obtain ⟨after, rfl, hr⟩ := exists_of_read_text hr
      obtain ⟨zs, rfl, -⟩ := exists_of_read_cons_lit hr
      exact ⟨".manifest".toList, zs, by simp, by decide⟩
    · obtain ⟨zs, rfl, -⟩ := exists_of_read_cons_lit hr
      exact ⟨[], zs, by simp, by simp⟩
  obtain ⟨c, name, rfl⟩ := List.exists_cons_of_ne_nil (hne rfl)
  obtain ⟨-, htail⟩ : '.' = c ∧ "stamp".toList ++ rest =
      (name ++ before) ++ '.' :: ("stamp".toList ++ zs) := by
    simpa using hsplit
  obtain ⟨us, hus, rfl⟩ := Text.exists_append_of_not_mem (by decide) htail
  have hmem : '/' ∈ name ++ before := by
    rw [hus]
    exact List.mem_append_right _ (hrest.slash us zs (by simp))
  simp [hbefore] at hmem
  simp [hmem] at hslash

theorem exists_read_listed (hpackage : IsName package) (htarget : IsComponentName target)
    (hne : target ≠ package)
    (hprefixed : ∀ name, target = package ++ '_' :: name → name ≠ [] → IsComponentName name)
    (hblank : ∀ c ∈ rest.head?, Text.isBlank c = true)
    (hrest : target = package ++ ['_'] → IsApart rest) (last : Option Char) :
    ∃ s, (inOrder (stampPatterns package)).read (fun b s => some (b, s))
        ⟨last, target ++ (".stamp".toList ++ rest)⟩ [] = some (⟨some 'p', rest⟩, s) ∧
      PackageAssembly.dependencyTarget? s = some (listedTarget package target) := by
  have hending : ".stamp".toList ∈ stampEndings := by simp [stampEndings]
  by_cases hpre : package ++ ['_'] <+: target
  · obtain ⟨name, hname⟩ := hpre
    obtain rfl : package ++ '_' :: name = target := by simpa using hname
    by_cases hnil : name = []
    · -- The name of the package is read in front first, and then as the whole name.
      subst hnil
      refine ⟨_, read_stampPatterns_of_prefix_eq_none ?_ htarget.name.head_ne_slash
        (read_stampEnd_of_isComponentName htarget hending hblank), ?_⟩
      · rw [List.append_assoc, read_cons_capture, read_text_append]
        rw [show ['_'] = "_".toList by rfl, read_cons_lit, read_inOrder_nil,
          read_slash_of_ne (by simp)]
        exact read_nameless_eq_none (hrest rfl)
      · rw [listedTarget_package]
        exact dependencyTarget?_of_target htarget.name.1 _
    · have hindex : name ≠ PackageAssembly.indexTarget := by
        rintro rfl
        exact htarget.not_index ⟨package, rfl⟩
      have hread := exists_read_of_package hpackage hblank (hprefixed name rfl hnil) hending last
      rw [← listedTarget_append hnil hindex]
      simpa using hread
  · have h : IsComponentOf package target :=
      ⟨htarget.name, hne, hpre, htarget.ne_manifest, htarget.ne_metadata, htarget.not_validation,
        htarget.not_index⟩
    refine ⟨_, read_stampPatterns_component hpackage h hending hblank, ?_⟩
    rw [listedTarget_of_not_isPrefix hpre]
    exact dependencyTarget?_of_target h.name.1 _

theorem listedTarget_mem_dependencyTargets (hdirectory : IsDirectory directory)
    (hpackage : IsName package) (htarget : IsComponentName target) (hne : target ≠ package)
    (hprefixed : ∀ name, target = package ++ '_' :: name → name ≠ [] → IsComponentName name)
    (d : Dependencies directory target)
    (hafter : target = package ++ ['_'] → IsApart d.after) :
    listedTarget package target ∈
      PackageAssembly.dependencyTargets directory package d.text := by
  have hown : ¬ package ++ ['.'] <+: target ++ (".stamp".toList ++ d.after) :=
    not_isPrefix_dot (d := '.') hpackage htarget.name (.inl hne) (by decide)
  obtain ⟨s, hread, hs⟩ := exists_read_listed hpackage htarget hne hprefixed d.after_apart hafter
    (some '/')
  have hmatch : (packageDependencyPattern directory package).matchAt?
      ⟨lastAfter none d.before, d.fromGap⟩ = some (⟨some 'p', d.after⟩, s) := by
    rw [Dependencies.fromGap, Dependencies.stamp]
    simp only [List.append_assoc]
    exact matchAt?_of_read_stampPatterns d.gap_blank hown hread
  exact mem_dependencyTargets_of_match hdirectory hpackage htarget d hmatch hs

end Listed

section Recorded

variable {directory package target : List Char}

theorem target_validation (c : CommandForm) (f : ValidationWords) (hfirst : f.IsFirst)
    (hnone : ¬ NamesDestination f.words)
    (hlabel : f.label = target ++ "_cmc_validate_references".toList) (buildDir : String) :
    ∃ v, Recognized.ofStatement? (c.text f.words) = some (.validation v) ∧
      (v.record buildDir).target =
        targetPath (String.ofList f.directory) (String.ofList target) := by
  refine ⟨_, f.ofStatement?_words c hfirst hnone, ?_⟩
  simp only [Validation.record, Validation.componentTarget, Validation.namedDestination,
    ValidationWords.said, hlabel, Captures.get?_nil, Option.map_none, Option.filter_none,
    Option.getD_some, String.toList_ofList, withoutEnding_append]

/-- The package records the path of a target under the name that it lists. -/
theorem listed_mem_componentPaths (hdirectory : IsDirectory directory)
    (hpackage : IsName package) (htarget : IsComponentName target) (hne : target ≠ package)
    (hprefixed : ∀ name, target = package ++ '_' :: name → name ≠ [] → IsComponentName name)
    (f : DependentBuild directory target)
    (hafter : target = package ++ ['_'] → IsApart f.dependencies.after) :
    ∃ a, Recognized.ofStatement? (f.text (archivePath directory package)) =
        some (.packageAssembly a) ∧
      targetPath (String.ofList directory) (String.ofList (listedTarget package target)) ∈
        a.componentPaths := by
  refine ⟨_, ofStatement?_archive f hdirectory hpackage, ?_⟩
  have hmem := listedTarget_mem_dependencyTargets hdirectory hpackage htarget hne hprefixed
    f.dependencies hafter
  have hname : IsName (listedTarget package target) := htarget.name.listedTarget
  have hpath := ComponentTarget.componentPath_text
    ⟨none, listedTarget package target, by simp, hname⟩ directory
  exact List.mem_map.2 ⟨_, List.mem_map_of_mem hmem, hpath⟩

/-- The commands for the manifest of a target record the path of the target, whatever its name. A
package that depends on the stamp of the target records the path of what it lists, which is another
one for a target that begins with the name of the package. -/
theorem recorded_targetPath (hdirectory : IsDirectory directory) (hpackage : IsName package)
    (htarget : IsComponentName target) (hne : target ≠ package)
    (hprefixed : ∀ name, target = package ++ '_' :: name → name ≠ [] → IsComponentName name) :
    (∀ (c : CommandForm) (f : ValidationWords) (buildDir : String), f.directory = directory →
      f.label = target ++ "_cmc_validate_references".toList → f.IsFirst →
      ¬ NamesDestination f.words →
      ∃ v, Recognized.ofStatement? (c.text f.words) = some (.validation v) ∧
        (v.record buildDir).target =
          targetPath (String.ofList directory) (String.ofList target)) ∧
    (∀ f : CompilationForm directory target, ∃ c,
      Compilation.ofStatement? (f.text f.words) = some c ∧
        c.record.target = targetPath (String.ofList directory) (String.ofList target)) ∧
    (∀ f : DependentBuild directory target,
      (target = package ++ ['_'] → IsApart f.dependencies.after) →
      ∃ a, Recognized.ofStatement? (f.text (archivePath directory package)) =
          some (.packageAssembly a) ∧
        targetPath (String.ofList directory) (String.ofList (listedTarget package target)) ∈
          a.componentPaths) := by
  refine ⟨?_, ?_, ?_⟩
  · rintro c f buildDir rfl hlabel hfirst hnone
    exact target_validation c f hfirst hnone hlabel buildDir
  · exact fun f => ⟨_, f.compilation_text, rfl⟩
  · exact fun f hafter =>
      listed_mem_componentPaths hdirectory hpackage htarget hne hprefixed f hafter

/-! ## A component with the name of the package in front -/

theorem isComponentName_fooBar : IsComponentName "foo_bar".toList :=
  ⟨by decide, by decide, by decide, by decide, by decide⟩

theorem isComponentName_bar : IsComponentName "bar".toList :=
  ⟨by decide, by decide, by decide, by decide, by decide⟩

/-- The build statement for the archive of `foo` that depends on the stamp of `foo_bar`. -/
def fooBarBuild : DependentBuild "d".toList "foo_bar".toList where
  toBuildForm := dependentOn " obj/d/foo_bar.stamp".toList
  dependencies :=
    { before := []
      gap := [' ']
      after := []
      before_end := by simp
      gap_blank := isBlanks_space
      gap_apart := .inl rfl
      after_apart := isBlank_head_nil }
  dependencies_eq := by decide

theorem recorded_targetPath_fooBarBuild :
    IsDirectory "d".toList ∧ IsName "foo".toList ∧ IsComponentName "foo_bar".toList ∧
      "foo_bar".toList ≠ "foo".toList ∧
      ∃ a, Recognized.ofStatement?
          (fooBarBuild.text (archivePath "d".toList "foo".toList)) = some (.packageAssembly a) ∧
        "d:bar" ∈ a.componentPaths := by
  have hdirectory : IsDirectory "d".toList := by decide
  have hpackage : IsName "foo".toList := by decide
  have hne : "foo_bar".toList ≠ "foo".toList := by decide
  have hprefixed : ∀ name, "foo_bar".toList = "foo".toList ++ '_' :: name → name ≠ [] →
      IsComponentName name := by
    intro name hname _
    obtain rfl : "bar".toList = name := by simpa using hname
    exact isComponentName_bar
  obtain ⟨a, ha, hmem⟩ := (recorded_targetPath hdirectory hpackage isComponentName_fooBar hne
    hprefixed).2.2 fooBarBuild (fun h => absurd h (by decide))
  refine ⟨hdirectory, hpackage, isComponentName_fooBar, hne, a, ha, ?_⟩
  have hpath : targetPath (String.ofList "d".toList)
      (String.ofList (listedTarget "foo".toList "foo_bar".toList)) = "d:bar" := by
    decide
  rwa [hpath] at hmem

/-- Such a package does not record the path that the commands for the component record. -/
theorem componentPaths_fooBarBuild :
    Text.words fooBarBuild.dependencies.text =
        [outputPrefix "d".toList ++ ("foo_bar".toList ++ ".stamp".toList)] ∧
      IsComponentName "foo_bar".toList ∧ "foo_bar".toList ≠ "foo".toList ∧
      IsComponentName "bar".toList ∧
      (PackageAssembly.ofStatement? (fooBarBuild.text (archivePath "d".toList "foo".toList))).map
          (·.componentPaths) = some ["d:bar"] ∧
      targetPath "d" "foo_bar" ∉ ["d:bar"] := by
  refine ⟨by decide +kernel, isComponentName_fooBar, by decide, isComponentName_bar, ?_, by decide⟩
  decide +kernel

end Recorded

end ComponentLinks.Statement
