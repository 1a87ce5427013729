import ComponentLinks.Proofs.Statement.PackageDependencies
import ComponentLinks.Proofs.Statement.Parts

/-!
# The parts that a manifest is built from

The dependencies of a manifest are scanned for stamps in the directory of its component. Each stamp
is read up to its end, and the target that it names is kept unless the stamp is one of the
component's own auxiliary stamps. A name that only goes on after an auxiliary one is read as a name,
and so is an auxiliary target of another component.

## Main definitions

* `Statement.auxiliaryTargets`: the auxiliary targets of a component.
* `Statement.NamesStamp`: which target a dependency names.
* `Statement.partTargets_of_namesStamp`: what the scan makes of all dependencies.
* `Statement.exists_parts_of_namesStamp`: the parts that the build statement for a manifest says a
  component has.
-/
namespace ComponentLinks.Statement

open Pattern

/-! ## Auxiliary targets -/

/-- How the names of auxiliary targets end. -/
def auxiliarySuffixes : List (List Char) :=
  ["_check_includes".toList, "_cmc_validate_references".toList, "_manifest_resource".toList,
   "_merge".toList, "_validate".toList]

/-- The auxiliary targets of a component. -/
def auxiliaryTargets (component : List Char) : List (List Char) :=
  auxiliarySuffixes.map fun suffix => component ++ suffix

section Auxiliary

variable {component other name xs : List Char}

theorem mem_auxiliaryTargets_iff :
    name ∈ auxiliaryTargets component ↔
      ∃ ending ∈ auxiliaryEndings, name = component ++ '_' :: ending := by
  simp [auxiliaryTargets, auxiliarySuffixes, auxiliaryEndings]

theorem isPartOf_of_not_mem (hname : IsName name) (h : name ∉ auxiliaryTargets component) :
    IsPartOf component name :=
  ⟨hname, fun ending hending heq => h (mem_auxiliaryTargets_iff.2 ⟨ending, hending, heq⟩)⟩

/-- A name that goes on after an auxiliary target is none. -/
theorem append_not_mem_auxiliaryTargets (h : name ∈ auxiliaryTargets component) (hne : xs ≠ []) :
    name ++ xs ∉ auxiliaryTargets component := by
  have hapart : ∀ suffix ∈ auxiliarySuffixes, ∀ suffix' ∈ auxiliarySuffixes,
      suffix <+: suffix' → suffix = suffix' := by
    decide +kernel
  obtain ⟨suffix, hsuffix, rfl⟩ := List.mem_map.1 h
  intro hmem
  obtain ⟨suffix', hsuffix', heq⟩ := List.mem_map.1 hmem
  rw [List.append_assoc] at heq
  obtain rfl := List.append_cancel_left heq
  have hsame := hapart suffix hsuffix _ hsuffix' (List.prefix_append suffix xs)
  exact hne (by simpa using hsame)

/-- An auxiliary target of another component is none. -/
theorem not_mem_auxiliaryTargets_of_ne (h : name ∈ auxiliaryTargets other)
    (hne : other ≠ component) : name ∉ auxiliaryTargets component := by
  have hapart : ∀ suffix ∈ auxiliarySuffixes, ∀ suffix' ∈ auxiliarySuffixes,
      suffix <:+ suffix' → suffix = suffix' := by
    decide +kernel
  obtain ⟨suffix, hsuffix, rfl⟩ := List.mem_map.1 h
  intro hmem
  obtain ⟨suffix', hsuffix', heq⟩ := List.mem_map.1 hmem
  have hsame : suffix = suffix' := by
    rcases List.suffix_or_suffix_of_suffix (List.suffix_append other suffix)
      ⟨component, heq⟩ with hle | hle
    · exact hapart _ hsuffix _ hsuffix' hle
    · exact (hapart _ hsuffix' _ hsuffix hle).symm
  rw [hsame] at heq
  exact hne (List.append_cancel_right heq).symm

end Auxiliary

/-! ## One dependency -/

/-- Which target a dependency of a manifest names: that of a stamp in the directory of the manifest,
and none if it holds no output of the directory. -/
inductive NamesStamp (directory : List Char) : List Char → Option (List Char) → Prop where
  | stamp {name} (h : IsName name) :
    NamesStamp directory (outputPrefix directory ++ (name ++ ".stamp".toList)) (some name)
  | other {path} (h : ¬ outputPrefix directory <:+: path) : NamesStamp directory path none

section Stamp

variable {directory component gap path rest name : List Char} {target : Option (List Char)}

def matchedPart (m : Found Field) : Option (List Char) :=
  m.captures.get? .subComponentTarget

/-- What is left of a target: nothing if it is an auxiliary target of the component. -/
def partOf? (component name : List Char) : Option (List Char) :=
  Option.guard (· ∉ auxiliaryTargets component) name

theorem readsOutputs_partPattern (hcomponent : IsName component) (directory : List Char) :
    ReadsOutputs (partPattern directory component) directory fun _ => True := by
  intro last cs b s hmatch
  obtain ⟨blanks, word, hblanks, -, hout, -⟩ := exists_of_matchAt?_part hcomponent hmatch
  exact ⟨blanks, _, hblanks, hout, trivial⟩

/-- A stamp in the directory is read up to its end, whatever target it names. -/
theorem exists_matchAt?_stamp (directory : List Char) (hcomponent : IsName component)
    (hname : IsName name) (hgap : IsBlanks gap) (hrest : ∀ c ∈ rest.head?, Text.isBlank c = true) :
    ∃ s, Captures.get? s .subComponentTarget = partOf? component name ∧ ∀ last,
      (partPattern directory component).matchAt?
          ⟨last, (gap ++ (outputPrefix directory ++ (name ++ ".stamp".toList))) ++ rest⟩ =
        some (⟨some 'p', rest⟩, s) := by
  by_cases h : name ∈ auxiliaryTargets component
  · refine ⟨[], by simp [partOf?, Option.guard, h], fun last => ?_⟩
    obtain ⟨ending, hending, rfl⟩ := mem_auxiliaryTargets_iff.1 h
    simpa using matchAt?_auxiliary hcomponent hgap hending last rest
  · let d : Dependencies directory name := ⟨[], gap, rest, by simp, hgap, .inl rfl, hrest⟩
    refine ⟨_, ?_, matchAt?_part hcomponent (isPartOf_of_not_mem hname h) d⟩
    rw [Captures.get?_cons, if_pos rfl, Capture.text_append, partOf?, Option.guard]
    simp [h]

/-- What the scan makes of a dependency is what is left of the target that the dependency names. -/
theorem NamesStamp.scansTo (h : NamesStamp directory path target)
    (hdirectory : IsDirectory directory) (hcomponent : IsName component) (hgap : IsBlanks gap)
    (hne : path ≠ []) (hpath : IsVisible path) (hrest : ∀ c ∈ rest.head?, Text.isBlank c = true) :
    ScansTo (partPattern directory component) matchedPart (gap ++ path) rest
      (target.bind (partOf? component)).toList := by
  cases h with
  | stamp hname =>
    obtain ⟨s, hs, hmatch⟩ := exists_matchAt?_stamp directory hcomponent hname hgap hrest
    exact ScansTo.of_match (by simp [outputPrefix]) (fun last => ⟨_, hmatch last⟩) fun _ => hs
  | other h =>
    refine (readsOutputs_partPattern hcomponent directory).scansTo_of_path hdirectory hgap hne hpath
      hrest ?_
    intro us vs hsplit
    exact absurd ⟨us, vs, by simp [hsplit]⟩ h

end Stamp

/-! ## All dependencies of a manifest -/

section Parts

variable {directory component : List Char} {targets : List (Option (List Char))}

/-- The parts that the dependencies of a manifest name, in order. -/
theorem partTargets_of_namesStamp (hdirectory : IsDirectory directory)
    (hcomponent : IsName component) {cs : List Char}
    (h : List.Forall₂ (NamesStamp directory) (Text.words cs) targets) :
    SubComponents.dependencyTargets directory component cs =
      targets.reduceOption.filter (· ∉ auxiliaryTargets component) := by
  let R (path : List Char) (r : Option (List Char)) : Prop :=
    ∃ target, NamesStamp directory path target ∧ r = target.bind (partOf? component)
  have hR : List.Forall₂ R (Text.words cs) (targets.map (Option.bind · (partOf? component))) :=
    List.forall₂_map_right_iff.2 (h.imp fun _ target hnames => ⟨target, hnames, rfl⟩)
  have hreads := readsOutputs_partPattern hcomponent directory
  calc SubComponents.dependencyTargets directory component cs
      = (targets.map (Option.bind · (partOf? component))).reduceOption := by
        refine filterMap_scan_of_words (g := matchedPart)
          (fun gap hgap => hreads.scansTo_of_blanks hgap) ?_ hR
        rintro gap path rest r hgap hne hpath hrest - ⟨target, hnames, rfl⟩
        exact hnames.scansTo hdirectory hcomponent hgap hne hpath hrest
    _ = targets.reduceOption.filterMap (partOf? component) := by
        rw [List.reduceOption, List.filterMap_map, List.filterMap_filterMap]
        rfl
    _ = targets.reduceOption.filter (· ∉ auxiliaryTargets component) :=
        congrFun List.filterMap_eq_filter _

/-- The build statement for a manifest says which parts the component has: the targets that its
dependencies name in the directory, once for each dependency and in their order, but for the
component's own auxiliary targets. What only goes on after an auxiliary target is a part, and so is
an auxiliary target of another component. -/
theorem exists_parts_of_namesStamp (f : BuildForm) (hdirectory : IsDirectory directory)
    (hcomponent : IsName component) {letter : Char} (hletter : letter ∈ ['x', 'l'])
    (h : List.Forall₂ (NamesStamp directory) (Text.words f.tail.dependencies) targets) :
    ∃ b, SubComponents.ofStatement? (f.text (manifestOutput directory component letter)) = some b ∧
      b.manifest = String.ofList (manifestOutput directory component letter) ∧
      b.componentPath = targetPath (String.ofList directory) (String.ofList component) ∧
      b.parts =
        (targets.reduceOption.filter (· ∉ auxiliaryTargets component)).map String.ofList ∧
      (∀ name xs, name ∈ auxiliaryTargets component → xs ≠ [] → some (name ++ xs) ∈ targets →
        String.ofList (name ++ xs) ∈ b.parts) ∧
      ∀ other name, other ≠ component → name ∈ auxiliaryTargets other → some name ∈ targets →
        String.ofList name ∈ b.parts := by
  have hparts := partTargets_of_namesStamp hdirectory hcomponent h
  have hkept : ∀ name, some name ∈ targets → name ∉ auxiliaryTargets component → name ∈
      targets.reduceOption.filter (· ∉ auxiliaryTargets component) := by
    intro name hmem hnot
    exact List.mem_filter.2 ⟨List.reduceOption_mem_iff.2 hmem, by simpa using hnot⟩
  refine ⟨_, subComponents_manifestOutput f hdirectory hcomponent hletter, rfl, rfl, ?_, ?_, ?_⟩
  · rw [hparts]
  · intro name xs hname hxs hmem
    rw [hparts]
    exact List.mem_map_of_mem (hkept _ hmem (append_not_mem_auxiliaryTargets hname hxs))
  · intro other name hne hname hmem
    rw [hparts]
    exact List.mem_map_of_mem (hkept _ hmem (not_mem_auxiliaryTargets_of_ne hname hne))

def mergedDependencies : List Char :=
  (" obj/d/c_merge.stamp obj/d/c_merge2.stamp\n obj/d/x_validate.stamp  obj/e/y.stamp" ++
    " obj/d/c_validate.stamp obj/d/c.stamp").toList

def mergedTargets : List (Option (List Char)) :=
  [some "c_merge".toList, some "c_merge2".toList, some "x_validate".toList, none,
   some "c_validate".toList, some "c".toList]

theorem namesStamp_mergedDependencies :
    List.Forall₂ (NamesStamp "d".toList)
      (Text.words (dependentOn mergedDependencies).tail.dependencies) mergedTargets := by
  have hwords : Text.words mergedDependencies =
      [outputPrefix "d".toList ++ ("c_merge".toList ++ ".stamp".toList),
       outputPrefix "d".toList ++ ("c_merge2".toList ++ ".stamp".toList),
       outputPrefix "d".toList ++ ("x_validate".toList ++ ".stamp".toList),
       "obj/e/y.stamp".toList,
       outputPrefix "d".toList ++ ("c_validate".toList ++ ".stamp".toList),
       outputPrefix "d".toList ++ ("c".toList ++ ".stamp".toList)] := by
    decide +kernel
  rw [dependencies_dependentOn, hwords]
  exact .cons (.stamp (by decide)) <| .cons (.stamp (by decide)) <| .cons (.stamp (by decide)) <|
    .cons (.other (by decide +kernel)) <| .cons (.stamp (by decide)) <|
    .cons (.stamp (by decide)) .nil

theorem exists_parts_mergedDependencies :
    IsDirectory "d".toList ∧ IsName "c".toList ∧ 'l' ∈ ['x', 'l'] ∧
      List.Forall₂ (NamesStamp "d".toList)
        (Text.words (dependentOn mergedDependencies).tail.dependencies) mergedTargets ∧
      ∃ b, SubComponents.ofStatement? ((dependentOn mergedDependencies).text
          (manifestOutput "d".toList "c".toList 'l')) = some b ∧
        b.manifest = "d/c.cml" ∧ b.componentPath = "d:c" ∧
        b.parts = ["c_merge2", "x_validate", "c"] := by
  have hdirectory : IsDirectory "d".toList := by decide
  have hcomponent : IsName "c".toList := by decide
  have hletter : 'l' ∈ ['x', 'l'] := by decide
  obtain ⟨b, hb, hmanifest, hpath, hparts, -⟩ := exists_parts_of_namesStamp
    (dependentOn mergedDependencies) hdirectory hcomponent hletter namesStamp_mergedDependencies
  refine ⟨hdirectory, hcomponent, hletter, namesStamp_mergedDependencies, b, hb, ?_, ?_, ?_⟩
  · rw [hmanifest]
    decide +kernel
  · rw [hpath]
    decide +kernel
  · rw [hparts]
    decide +kernel

end Parts

end ComponentLinks.Statement
