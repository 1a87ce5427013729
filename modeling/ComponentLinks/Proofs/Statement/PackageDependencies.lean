import ComponentLinks.Proofs.Statement.PackageScan

/-!
# The components that a package depends on

The dependencies of a package are scanned without regard to where one ends and the next begins. The
written forms of dependencies are kept apart here by what each stands for, and the scan is shown to
go over them one by one.

## Main definitions

* `Statement.ComponentTarget`: a component target of a package.
* `Statement.Depends`: what a dependency of a package stands for.
* `Statement.Depends.scansTo`: what the scan makes of one dependency.
* `Statement.dependencyTargets_of_depends`: what it makes of all of them.
* `Statement.exists_assembly_of_depends`: the components that the build statement for an archive
  says a package has.
-/
namespace ComponentLinks.Statement

open Pattern

/-- A component target of a package: in the directory of the package, or one directory down. -/
structure ComponentTarget where
  subdirectory : Option (List Char)
  name : List Char
  subdirectory_name : ∀ s ∈ subdirectory, IsName s
  name_name : IsName name

namespace ComponentTarget

def text (t : ComponentTarget) : List Char :=
  t.subdirectory.elim t.name fun s => s ++ '/' :: t.name

def path (t : ComponentTarget) (directory : List Char) : String :=
  targetPath (String.ofList (t.subdirectory.elim directory fun s => directory ++ '/' :: s))
    (String.ofList t.name)

theorem componentPath_text (t : ComponentTarget) (directory : List Char) :
    PackageAssembly.componentPath (String.ofList directory) (String.ofList t.text) =
      t.path directory := by
  obtain ⟨subdirectory, name, hsubdirectory, hname⟩ := t
  cases subdirectory with
  | none =>
    have hslash : '/' ∉ name := hname.not_mem (by decide)
    have hdrop : name.dropWhile (· != '/') = [] := by
      simp only [List.dropWhile_eq_nil_iff]
      intro c hc
      have : c ≠ '/' := fun heq => hslash (heq ▸ hc)
      simpa using this
    simp [PackageAssembly.componentPath, text, path, hdrop]
  | some s =>
    have hs : IsName s := hsubdirectory s rfl
    have hslash : ∀ c ∈ s, (c != '/') = true := by
      intro c hc
      have : c ≠ '/' := fun heq => hs.not_mem (c := '/') (by decide) (heq ▸ hc)
      simpa using this
    simp [PackageAssembly.componentPath, text, path, List.takeWhile_append_of_pos hslash,
      List.dropWhile_append_of_pos hslash, hs.1, hname.1, String.append_assoc]

end ComponentTarget

/-- What a dependency of a package stands for: a component target, or nothing. Behind the name of
the package a placeholder stays as it is, while any other target loses that name. Paths outside the
directory stand for nothing, as the outputs of the package itself do, and the stamp of an index of
components unless it reads as that of the target `index`. -/
inductive Depends (directory package : List Char) : List Char → Option ComponentTarget → Prop where
  | component {name ending} (h : IsComponentOf package name) (hending : ending ∈ stampEndings) :
    Depends directory package (outputPrefix directory ++ (name ++ ending))
      (some ⟨none, name, by simp, h.name⟩)
  | placeholder {ending} (h : IsName (package ++ '_' :: PackageAssembly.placeholderTarget))
    (hending : ending ∈ stampEndings) :
    Depends directory package
      (outputPrefix directory ++ (package ++ '_' :: (PackageAssembly.placeholderTarget ++ ending)))
      (some ⟨none, package ++ '_' :: PackageAssembly.placeholderTarget, by simp, h⟩)
  | prefixed {name ending} (h : IsComponentName name)
    (hplaceholder : name ≠ PackageAssembly.placeholderTarget)
    (hindex : name ≠ PackageAssembly.indexTarget) (hending : ending ∈ stampEndings) :
    Depends directory package (outputPrefix directory ++ (package ++ '_' :: (name ++ ending)))
      (some ⟨none, name, by simp, h.name⟩)
  | below {subdirectory name ending} (hsubdirectory : IsName subdirectory)
    (hne : subdirectory ≠ package ++ ['_']) (h : IsComponentName name)
    (hending : ending ∈ stampEndings) :
    Depends directory package
      (outputPrefix directory ++ (subdirectory ++ '/' :: (name ++ ending)))
      (some ⟨some subdirectory, name, by simpa using hsubdirectory, h.name⟩)
  | own {rest} (h : ¬ outputPrefix directory <:+: rest) :
    Depends directory package (outputPrefix directory ++ (package ++ '.' :: rest)) none
  | manifest :
    Depends directory package (outputPrefix directory ++ (package ++ "_manifest.stamp".toList)) none
  | metadata :
    Depends directory package (outputPrefix directory ++ (package ++ "_metadata.stamp".toList)) none
  | validation {name} (h : IsDottedName name) :
    Depends directory package (outputPrefix directory ++
      (package ++ ("_validate_manifests_".toList ++ (name ++ ".stamp".toList)))) none
  | index {name} (h : IsDottedName name) (hne : name ≠ package ++ ['_'])
    (hpackage : package ≠ name ++ "_component".toList) :
    Depends directory package
      (outputPrefix directory ++ (name ++ "_component_index.stamp".toList)) none
  | other {path} (h : ¬ outputPrefix directory <:+: path) (hslash : '/' ∈ path)
    (hstamp : ¬ ".stamp".toList <:+: path.takeWhile (· != '/')) :
    Depends directory package path none

section Depends

variable {directory package gap path rest : List Char} {target : Option ComponentTarget}

theorem Depends.exists_slash (h : Depends directory package path target) :
    ∃ xs ys, path = xs ++ '/' :: ys ∧ ¬ ".stamp".toList <:+: xs := by
  have houtput : ∀ ts, ∃ xs ys, outputPrefix directory ++ ts = xs ++ '/' :: ys ∧
      ¬ ".stamp".toList <:+: xs :=
    fun ts => ⟨"obj".toList, directory ++ '/' :: ts, by simp [outputPrefix], by decide⟩
  cases h with
  | other h hslash hstamp =>
    obtain ⟨ys, hys⟩ : ∃ ys, path.dropWhile (· != '/') = '/' :: ys := by
      cases hdrop : path.dropWhile (· != '/') with
      | nil =>
        have := List.dropWhile_eq_nil_iff.1 hdrop '/' hslash
        simp at this
      | cons c ys =>
        have hhead := List.head?_dropWhile_not (· != '/') path
        obtain rfl : c = '/' := by simpa [hdrop] using hhead
        exact ⟨ys, rfl⟩
    exact ⟨_, ys, by rw [← hys, List.takeWhile_append_dropWhile], hstamp⟩
  | _ => exact houtput _

/-- What the scan makes of a dependency is what the dependency stands for. -/
theorem Depends.scansTo (h : Depends directory package path target)
    (hdirectory : IsDirectory directory) (hpackage : IsName package) (hgap : IsBlanks gap)
    (hpath : IsVisible path) (hrest : IsApart rest) :
    ScansTo (packageDependencyPattern directory package) matchedTarget (gap ++ path) rest
      (target.map ComponentTarget.text).toList := by
  cases h with
  | component h hending =>
    have hscan := scansTo_of_component hdirectory hpackage hgap hrest.blank h hending
    simpa [ComponentTarget.text] using hscan
  | placeholder h hending =>
    have hscan := scansTo_of_package hdirectory hpackage hgap hrest.blank
      isComponentName_placeholderTarget hending
    rw [targetOf_placeholderTarget] at hscan
    simpa [ComponentTarget.text] using hscan
  | prefixed h hplaceholder hindex hending =>
    have hscan := scansTo_of_package hdirectory hpackage hgap hrest.blank h hending
    simpa [targetOf, hplaceholder, hindex, ComponentTarget.text] using hscan
  | below hsubdirectory hne h hending =>
    exact scansTo_of_below hdirectory hpackage hgap hrest.blank h hsubdirectory hne hending
  | own h => exact scansTo_of_own hdirectory hpackage hgap hrest.blank hpath h
  | manifest => exact IsNonComponent.manifest.scansTo_of_package hdirectory hgap hrest
  | metadata => exact IsNonComponent.metadata.scansTo_of_package hdirectory hgap hrest
  | @validation name h =>
    -- The underscore before the name belongs to it.
    have hname : IsDottedName ('_' :: name) := ⟨by simp, by simpa using ⟨by decide, h.2⟩⟩
    exact (IsNonComponent.validation hname).scansTo_of_package hdirectory hgap hrest
  | index h hne hne' => exact scansTo_of_index hdirectory hpackage hgap hrest h hne hne'
  | other h hslash hstamp =>
    refine scansTo_of_no_output hdirectory hgap (List.ne_nil_of_mem hslash) hpath hrest.blank ?_
    intro us vs hsplit
    exact absurd ⟨us, vs, by simp [hsplit]⟩ h

end Depends

/-! ## All dependencies of a package -/

section Assembly

variable {directory package : List Char}

/-- The dependencies of a package name what each of them stands for, in order. -/
theorem dependencyTargets_of_depends (hdirectory : IsDirectory directory)
    (hpackage : IsName package) {cs : List Char} {targets : List (Option ComponentTarget)}
    (h : List.Forall₂ (Depends directory package) (Text.words cs) targets) :
    PackageAssembly.dependencyTargets directory package cs =
      targets.reduceOption.map ComponentTarget.text := by
  let R (path : List Char) (r : Option (List Char)) : Prop :=
    ∃ target, Depends directory package path target ∧ r = target.map ComponentTarget.text
  have hR : List.Forall₂ R (Text.words cs) (targets.map (Option.map ComponentTarget.text)) :=
    List.forall₂_map_right_iff.2 (h.imp fun _ target hdepends => ⟨target, hdepends, rfl⟩)
  rw [← List.reduceOption_map]
  -- What follows a dependency is more of them, so no reading leads out of the dependency.
  have hreads := readsOutputs_packageDependencyPattern directory package
  refine filterMap_scan_of_words (fun gap hgap => hreads.scansTo_of_blanks hgap) ?_ hR
  rintro gap path rest r hgap - hpath hrest hlater ⟨target, hdepends, rfl⟩
  have happart : IsApart rest := isApart_of_words hrest fun path hmem => by
    obtain ⟨r, target, hdepends, -⟩ := hlater path hmem
    exact hdepends.exists_slash
  exact hdepends.scansTo hdirectory hpackage hgap hpath happart

/-- A build statement for the archive of a package says which components the package has: those
that its dependencies stand for, once for each dependency and in their order, in whatever way the
dependencies are written and set apart. -/
theorem exists_assembly_of_depends (f : BuildForm) (hdirectory : IsDirectory directory)
    (hpackage : IsName package) {targets : List (Option ComponentTarget)}
    (h : List.Forall₂ (Depends directory package) (Text.words f.tail.dependencies) targets) :
    ∃ a, PackageAssembly.ofStatement? (f.text (archivePath directory package)) = some a ∧
      a.directory = String.ofList directory ∧ a.package = String.ofList package ∧
      a.components = targets.reduceOption.map (fun t => String.ofList t.text) ∧
      a.packagePath = targetPath (String.ofList directory) (String.ofList package) ∧
      a.componentPaths = targets.reduceOption.map (fun t => t.path directory) := by
  refine ⟨_, assembly_archive f hdirectory hpackage, rfl, rfl, ?_, rfl, ?_⟩
  · simp [dependencyTargets_of_depends hdirectory hpackage h]
  · simp [PackageAssembly.componentPaths, dependencyTargets_of_depends hdirectory hpackage h,
      ComponentTarget.componentPath_text]

/-! ## Two build statements -/

/-- A build statement with the given dependencies. -/
def dependentOn (dependencies : List Char) : BuildForm where
  indent := []
  gap := [' ']
  tail :=
    { outputs := " out".toList
      gap := [' ']
      rule := "stamp".toList
      inputs := " i ".toList
      dependencies := dependencies
      outputs_end := by decide
      gap_blank := isBlanks_space
      rule_ne := by simp
      rule_visible := by decide
      inputs_apart := ⟨' ', "i ".toList, by simp, by decide⟩
      inputs_end := by decide }
  indent_blank := isBlanks_nil
  gap_blank := isBlanks_space

@[simp] theorem dependencies_dependentOn (dependencies : List Char) :
    (dependentOn dependencies).tail.dependencies = dependencies := rfl

def mixedDependencies : List Char :=
  (" obj/d/a.manifest.stamp\n obj/d/p_component.stamp  obj/d/p.far obj/d/s/p.stamp" ++
    " obj/d/foo_component_index.stamp obj/e/c.stamp").toList

def mixedTargets : List (Option ComponentTarget) :=
  [some ⟨none, "a".toList, by simp, by decide⟩,
   some ⟨none, "p".toList ++ '_' :: PackageAssembly.placeholderTarget, by simp, by decide⟩,
   none,
   some ⟨some "s".toList, "p".toList, by simp; decide, by decide⟩,
   none, none]

theorem depends_mixedDependencies :
    List.Forall₂ (Depends "d".toList "p".toList)
      (Text.words (dependentOn mixedDependencies).tail.dependencies) mixedTargets := by
  have hwords : Text.words mixedDependencies =
      [outputPrefix "d".toList ++ ("a".toList ++ ".manifest.stamp".toList),
       outputPrefix "d".toList ++
         ("p".toList ++ '_' :: (PackageAssembly.placeholderTarget ++ ".stamp".toList)),
       outputPrefix "d".toList ++ ("p".toList ++ '.' :: "far".toList),
       outputPrefix "d".toList ++ ("s".toList ++ '/' :: ("p".toList ++ ".stamp".toList)),
       outputPrefix "d".toList ++ ("foo".toList ++ "_component_index.stamp".toList),
       "obj/e/c.stamp".toList] := by
    decide +kernel
  have ha : IsComponentOf "p".toList "a".toList :=
    ⟨by decide, by decide, by decide, by decide, by decide, by decide, by decide⟩
  have hp : IsComponentName "p".toList :=
    ⟨by decide, by decide, by decide, by decide, by decide⟩
  have hstamp : ".stamp".toList ∈ stampEndings := by simp [stampEndings]
  have hmanifest : ".manifest.stamp".toList ∈ stampEndings := by simp [stampEndings]
  rw [dependencies_dependentOn, hwords]
  exact .cons (.component ha hmanifest) <| .cons (.placeholder (by decide) hstamp) <|
    .cons (.own (by decide +kernel)) <| .cons (.below (by decide) (by decide) hp hstamp) <|
    .cons (.index (by decide) (by decide +kernel) (by decide +kernel)) <|
    .cons (.other (by decide +kernel) (by decide) (by decide +kernel)) .nil

theorem exists_assembly_mixedDependencies :
    IsDirectory "d".toList ∧ IsName "p".toList ∧
      List.Forall₂ (Depends "d".toList "p".toList)
        (Text.words (dependentOn mixedDependencies).tail.dependencies) mixedTargets ∧
      ∃ a, PackageAssembly.ofStatement?
          ((dependentOn mixedDependencies).text (archivePath "d".toList "p".toList)) = some a ∧
        a.components = ["a", "p_component", "s/p"] ∧
        a.componentPaths = ["d:a", "d:p_component", "d/s:p"] := by
  have hdirectory : IsDirectory "d".toList := by decide
  have hpackage : IsName "p".toList := by decide
  obtain ⟨a, ha, -, -, hcomponents, -, hpaths⟩ := exists_assembly_of_depends
    (dependentOn mixedDependencies) hdirectory hpackage depends_mixedDependencies
  refine ⟨hdirectory, hpackage, depends_mixedDependencies, a, ha, ?_, ?_⟩
  · rw [hcomponents]
    decide +kernel
  · rw [hpaths]
    decide +kernel

/-- The stamp of an index of components names a component of a package whose name it begins with:
what is left of it after the name. -/
theorem components_dependentOn_index :
    Text.words " obj/d/foo_component_index.stamp".toList =
        [outputPrefix "d".toList ++ ("foo".toList ++ "_component_index.stamp".toList)] ∧
      IsDottedName "foo".toList ∧ "foo".toList ≠ "foo_component".toList ++ ['_'] ∧
      (PackageAssembly.ofStatement? ((dependentOn " obj/d/foo_component_index.stamp".toList).text
        (archivePath "d".toList "foo_component".toList))).map (·.components) = some ["index"] := by
  refine ⟨by decide +kernel, by decide, by decide, ?_⟩
  decide +kernel

end Assembly

end ComponentLinks.Statement
