import ComponentLinks.Proofs.Statement.Cut

/-!
# Recognizing the parts of a component

The build statement for the manifest of a component is read as just that: the component with the
parts that its dependencies name, the targets of stamps in its directory. It is no build statement
for the archive of a package.

## Main definitions

* `Statement.IsPartOf`: the targets that are parts of a component.
* `Statement.mem_partTargets_text`: the parts that dependencies name.
* `Statement.manifestOutput`, `Statement.builtManifestPath`: where the manifest of a component is
  built.
* `Statement.subComponents_manifestOutput`: the build statement for a manifest by itself.
* `Statement.ofStatement?_builtManifest`: what the build statement for a manifest says.
-/
namespace ComponentLinks.Statement

open Pattern

/-- Whether a target is a part of a component: it is none of the component's auxiliary targets. -/
structure IsPartOf (component target : List Char) : Prop where
  name : IsName target
  not_auxiliary : ∀ ending ∈ auxiliaryEndings, target ≠ component ++ '_' :: ending

section Stamp

variable {α : Type} {k : Place → Captures Field → Option α} {a : Place} {s : Captures Field}
  {directory component target : List Char}

/-- The last of several patterns is read where none of the others can be. -/
theorem read_altsBefore_of_none {ps : List (Pattern Field)} {q : Pattern Field}
    (h : ∀ p ∈ ps, p.read k a s = none) : (altsBefore ps q).read k a s = q.read k a s := by
  induction ps with
  | nil => rfl
  | cons p ps ih =>
    rw [altsBefore, List.foldr_cons, read_alt_of_none (h p (by simp))]
    exact ih fun p' hp' => h p' (by simp [hp'])

/-- One of several patterns is read where they all read the same. -/
theorem read_altsBefore_of_mem {ps : List (Pattern Field)} {p q : Pattern Field} {r : α}
    (hp : p ∈ ps) (h : p.read k a s = some r)
    (hsame : ∀ p' ∈ ps, ∀ r', p'.read k a s = some r' → r' = r) :
    (altsBefore ps q).read k a s = some r := by
  induction ps with
  | nil => simp at hp
  | cons p' ps ih =>
    rw [altsBefore, List.foldr_cons]
    cases hread : p'.read k a s with
    | some r' => rw [read_alt_of_some hread, hsame p' (by simp) r' hread]
    | none =>
      rw [read_alt_of_none hread]
      refine ih ?_ fun p'' hp'' => hsame p'' (by simp [hp''])
      rcases List.mem_cons.1 hp with rfl | hp
      · simp [h] at hread
      · exact hp

theorem matchAt?_of_read {gap cs : List Char} {r : Place × Captures Field} (hgap : IsBlanks gap)
    (h : (inOrder [altsBefore (auxiliaryEndings.map fun ending => text (component ++ '_' :: ending))
      (capture .subComponentTarget (several .name)), lit ".stamp"]).read (fun b s => some (b, s))
        ⟨some '/', cs⟩ [] = some r) (last : Option Char) :
    (partPattern directory component).matchAt? ⟨last, gap ++ (outputPrefix directory ++ cs)⟩ =
      some r := by
  rw [matchAt?, partPattern, outputPrefix]
  simp only [List.append_assoc]
  refine read_cons_run_of_stop hgap (by simp) (by simp; decide) ?_
  rw [read_cons_lit, read_cons_text, show ['/'] = "/".toList by rfl, read_cons_lit]
  exact h

theorem isName_of_mem_auxiliaryEndings {ending : List Char} (h : ending ∈ auxiliaryEndings) :
    IsName ('_' :: ending) := by
  have hendings : ∀ ending ∈ auxiliaryEndings, ∀ c ∈ '_' :: ending, Text.isName c = true := by
    simp only [auxiliaryEndings]
    decide
  exact ⟨by simp, hendings ending h⟩

theorem isName_auxiliary (hcomponent : IsName component) {ending : List Char}
    (hending : ending ∈ auxiliaryEndings) : IsName (component ++ '_' :: ending) := by
  refine ⟨by simp, fun c hc => ?_⟩
  rcases List.mem_append.1 hc with hc | hc
  · exact hcomponent.2 c hc
  · exact (isName_of_mem_auxiliaryEndings hending).2 c hc

theorem eq_of_read_auxiliary {ending rest : List Char} {r : Place × Captures Field}
    (hcomponent : IsName component) (htarget : IsName target) (hending : ending ∈ auxiliaryEndings)
    (h : (text (component ++ '_' :: ending)).read
      (fun b s => (inOrder [lit ".stamp"]).read (fun b s => some (b, s)) b s)
      ⟨some '/', target ++ (".stamp".toList ++ rest)⟩ s = some r) :
    target = component ++ '_' :: ending ∧ r = (⟨some 'p', rest⟩, s) := by
  obtain ⟨cs, hcs, h⟩ := exists_of_read_text h
  obtain ⟨rest', rfl, h⟩ := exists_of_read_cons_lit h
  have hauxiliary : IsName (component ++ '_' :: ending) := isName_auxiliary hcomponent hending
  have hdots : target ++ '.' :: ("stamp".toList ++ rest) =
      (component ++ '_' :: ending) ++ '.' :: ("stamp".toList ++ rest') := by
    simpa using hcs
  obtain ⟨hsame, hrest⟩ :=
    append_dot_inj (htarget.not_mem (by decide)) (hauxiliary.not_mem (by decide)) hdots
  obtain rfl := List.append_cancel_left hrest
  refine ⟨hsame, ?_⟩
  simpa using h.symm

/-- The stamp of a part of a component is read up to its end, under the name of the target. -/
theorem matchAt?_part (hcomponent : IsName component) (h : IsPartOf component target)
    (d : Dependencies directory target) (last : Option Char) :
    (partPattern directory component).matchAt? ⟨last, (d.gap ++ d.stamp) ++ d.after⟩ =
      some (⟨some 'p', d.after⟩, [⟨.subComponentTarget, target ++ (".stamp".toList ++ d.after),
        ".stamp".toList ++ d.after⟩]) := by
  rw [Dependencies.stamp]
  simp only [List.append_assoc]
  refine matchAt?_of_read d.gap_blank ?_ last
  rw [read_inOrder_cons, read_altsBefore_of_none]
  · rw [read_capture]
    refine read_run_longest_of_stop h.name.2 (by simp [h.name.1]) (by simp; decide) ?_
    rw [read_cons_lit]
    simp
  · intro p hp
    obtain ⟨ending, hending, rfl⟩ := List.mem_map.1 hp
    by_contra hsome
    obtain ⟨r, hr⟩ := Option.ne_none_iff_exists'.1 hsome
    exact h.not_auxiliary ending hending (eq_of_read_auxiliary hcomponent h.name hending hr).1

/-- An auxiliary stamp of the component is read up to its end, and nothing is kept of it. -/
theorem matchAt?_auxiliary {gap ending : List Char} (hcomponent : IsName component)
    (hgap : IsBlanks gap) (hending : ending ∈ auxiliaryEndings) (last : Option Char)
    (rest : List Char) :
    (partPattern directory component).matchAt? ⟨last, gap ++ (outputPrefix directory ++
        ((component ++ '_' :: ending) ++ (".stamp".toList ++ rest)))⟩ =
      some (⟨some 'p', rest⟩, []) := by
  have hname : IsName (component ++ '_' :: ending) := isName_auxiliary hcomponent hending
  refine matchAt?_of_read hgap ?_ last
  rw [read_inOrder_cons]
  refine read_altsBefore_of_mem (List.mem_map_of_mem hending) ?_ fun p hp r hr => ?_
  · rw [read_text_append, read_cons_lit]
    simp
  · obtain ⟨ending', hending', rfl⟩ := List.mem_map.1 hp
    exact (eq_of_read_auxiliary hcomponent hname hending' hr).2

/-- One of several patterns has read what they have read together. -/
theorem or_of_read_altsBefore {ps : List (Pattern Field)} {q : Pattern Field} {r : α}
    (h : (altsBefore ps q).read k a s = some r) :
    (∃ p ∈ ps, p.read k a s = some r) ∨ q.read k a s = some r := by
  induction ps with
  | nil => exact .inr h
  | cons p ps ih =>
    rw [altsBefore, List.foldr_cons] at h
    rcases or_of_read_alt h with h | h
    · exact .inl ⟨p, by simp, h⟩
    · rcases ih h with ⟨p', hp', h⟩ | h
      · exact .inl ⟨p', by simp [hp'], h⟩
      · exact .inr h

theorem isVisible_auxiliary (hcomponent : IsVisible component) {ending : List Char}
    (hending : ending ∈ auxiliaryEndings) : IsVisible (component ++ '_' :: ending) :=
  hcomponent.append (isName_of_mem_auxiliaryEndings hending).isVisible

/-- What is matched among the dependencies of a component is an output of its directory, and the
target that is kept of it is named by the output. -/
theorem exists_of_matchAt?_part (hcomponent : IsName component) {b : Place}
    (h : (partPattern directory component).matchAt? a = some (b, s)) :
    ∃ blanks word, IsBlanks blanks ∧ IsVisible word ∧
      a.rest = blanks ++ (outputPrefix directory ++ (word ++ b.rest)) ∧
      ∀ target, s.get? .subComponentTarget = some target →
        IsName target ∧ word = target ++ ".stamp".toList := by
  have hstamp : IsVisible ".stamp".toList := by decide
  obtain ⟨blanks, rest, hrest, hblanks, -, h⟩ := exists_of_read_cons_run h
  obtain ⟨rest, rfl, h⟩ := exists_of_read_cons_lit h
  rw [read_inOrder_cons] at h
  obtain ⟨rest, rfl, h⟩ := exists_of_read_text h
  obtain ⟨rest, rfl, h⟩ := exists_of_read_cons_lit h
  rw [read_inOrder_cons] at h
  rcases or_of_read_altsBefore h with ⟨p, hp, h⟩ | h
  · obtain ⟨ending, hending, rfl⟩ := List.mem_map.1 hp
    obtain ⟨rest, rfl, h⟩ := exists_of_read_text h
    obtain ⟨rest, rfl, h⟩ := exists_of_read_cons_lit h
    obtain ⟨rfl, rfl⟩ := Prod.mk.inj (Option.some.inj h)
    exact ⟨blanks, _, hblanks, (isVisible_auxiliary hcomponent.isVisible hending).append hstamp,
      by simp [hrest, outputPrefix], by simp⟩
  · rw [read_capture] at h
    obtain ⟨xs, rest, rfl, hxs, hne, h⟩ := exists_of_read_run h
    obtain ⟨rest, rfl, h⟩ := exists_of_read_cons_lit h
    obtain ⟨rfl, rfl⟩ := Prod.mk.inj (Option.some.inj h)
    have hname : IsName xs := ⟨hne rfl, hxs⟩
    refine ⟨blanks, _, hblanks, hname.isVisible.append hstamp, by simp [hrest, outputPrefix], ?_⟩
    intro target htarget
    rw [Captures.get?_cons, if_pos rfl, Capture.text_append] at htarget
    obtain rfl := Option.some.inj htarget
    exact ⟨hname, rfl⟩

/-- A list of dependencies with the stamp of a part names the part. -/
theorem mem_partTargets_text (hdirectory : IsDirectory directory) (hcomponent : IsName component)
    (h : IsPartOf component target) (d : Dependencies directory target) :
    target ∈ SubComponents.dependencyTargets directory component d.text := by
  have hends : ∀ ys zs, d.before = ys ++ zs → zs ≠ [] → ∀ last b s,
      (partPattern directory component).matchAt? ⟨last, zs ++ d.fromGap⟩ = some (b, s) →
        d.fromGap.length ≤ b.rest.length := by
    intro ys zs hsplit hzs last b s hb
    obtain ⟨blanks, word, hblanks, hword, hrest, -⟩ := exists_of_matchAt?_part hcomponent hb
    obtain ⟨us, -, hus⟩ := d.exists_of_output hdirectory hsplit hzs hblanks hrest
    exact d.length_le_of_isVisible hsplit hzs hword hus
  obtain ⟨m, hm, hcaptures⟩ := d.exists_scan_eq hends (matchAt?_part hcomponent h d _)
  refine List.mem_filterMap.2 ⟨m, hm, ?_⟩
  rw [hcaptures, Captures.get?_cons, if_pos rfl, Capture.text_append]

end Stamp

/-- The manifest of a component below the directory of outputs, by the last letter of its
extension. -/
def manifestOutput (directory component : List Char) (letter : Char) : List Char :=
  directory ++ ("/".toList ++ (component ++ (".cm".toList ++ [letter])))

/-- The built manifest of a component, below the directory of outputs. -/
def builtManifestPath (directory component : List Char) : List Char :=
  directory ++ ("/".toList ++ (component ++ ".cmx".toList))

theorem builtManifestPath_eq (directory component : List Char) :
    builtManifestPath directory component = manifestOutput directory component 'x' := rfl

variable {directory component target : List Char} {letter : Char}

theorem matchText?_manifestPattern {s : Captures Field} (f : BuildForm)
    (hdirectory : IsDirectory directory) (hcomponent : IsName component)
    (hletter : letter ∈ ['x', 'l'])
    (hs : buildTrailer.read (fun _ s' => some s') ⟨some letter, f.tail.text⟩
      [⟨.manifestPath, manifestOutput directory component letter ++ f.tail.text, f.tail.text⟩,
        ⟨.componentTarget, component ++ (".cm".toList ++ letter :: f.tail.text),
          ".cm".toList ++ letter :: f.tail.text⟩,
        ⟨.targetBuildDir, directory ++ ("/".toList ++ (component ++ (".cm".toList ++
          letter :: f.tail.text))), "/".toList ++ (component ++ (".cm".toList ++
          letter :: f.tail.text))⟩] = some s) :
    manifestPattern.matchText? (f.text (manifestOutput directory component letter)) = some s := by
  have hending : ".cm".toList = [] ++ '.' :: "cm".toList := by decide
  rw [matchText?_eq, manifestPattern]
  refine f.read_text ?_
  rw [read_cons_capture]
  simp only [manifestOutput, List.append_assoc, List.singleton_append] at hs ⊢
  refine read_directory_name hdirectory hcomponent hending (by simp) (by simp; decide) rfl ?_
  rw [read_inOrder_cons, read_one_cons (by simpa [CharClass.has] using hletter)]
  exact hs

/-- A build statement for the manifest of a component says that the component has the parts that
the scan finds in the dependencies. -/
theorem subComponents_manifestOutput (f : BuildForm) (hdirectory : IsDirectory directory)
    (hcomponent : IsName component) (hletter : letter ∈ ['x', 'l']) :
    SubComponents.ofStatement? (f.text (manifestOutput directory component letter)) = some
      ⟨String.ofList (manifestOutput directory component letter), String.ofList directory,
        String.ofList component,
        (SubComponents.dependencyTargets directory component f.tail.dependencies).map
          String.ofList⟩ := by
  obtain ⟨s, hs, hdependencies, hkept⟩ := exists_read_buildTrailer f.tail (some letter)
    [⟨.manifestPath, manifestOutput directory component letter ++ f.tail.text, f.tail.text⟩,
      ⟨.componentTarget, component ++ (".cm".toList ++ letter :: f.tail.text),
        ".cm".toList ++ letter :: f.tail.text⟩,
      ⟨.targetBuildDir, directory ++ ("/".toList ++ (component ++ (".cm".toList ++
        letter :: f.tail.text))), "/".toList ++ (component ++ (".cm".toList ++
        letter :: f.tail.text))⟩]
  have hmanifest : s.get .manifestPath = manifestOutput directory component letter := by
    simp [Captures.get, hkept]
  have hdirectory' : s.get .targetBuildDir = directory := by
    simp [Captures.get, hkept]
  have hcomponent' : s.get .componentTarget = component := by
    simp [Captures.get, hkept]
  rw [SubComponents.ofStatement?, matchText?_manifestPattern f hdirectory hcomponent hletter hs,
    Option.map_some, keptText, keptText, keptText, hmanifest, hdirectory', hcomponent',
    Captures.get, hdependencies, Option.getD_some]

/-- A build statement for the manifest of a component is read as just that. -/
theorem ofStatement?_builtManifest (f : DependentBuild directory target)
    (hdirectory : IsDirectory directory) (hcomponent : IsName component) :
    Recognized.ofStatement? (f.text (builtManifestPath directory component)) = some (.subComponents
      ⟨String.ofList (builtManifestPath directory component), String.ofList directory,
        String.ofList component,
        (SubComponents.dependencyTargets directory component f.dependencies.text).map
          String.ofList⟩) := by
  have hletter : 'x' ∈ ['x', 'l'] := by decide
  have hshape := subComponents_manifestOutput f.toBuildForm hdirectory hcomponent hletter
  rw [← builtManifestPath_eq, f.dependencies_eq] at hshape
  have hnone : PackageAssembly.ofStatement? (f.text (builtManifestPath directory component)) =
      none := by
    by_contra hsome
    rw [subComponents_eq_none_of_assembly (Option.isSome_iff_ne_none.2 hsome)] at hshape
    cases hshape
  simp [Recognized.ofStatement?, Shape.all, Recognized.inShape?, hshape, hnone]

end ComponentLinks.Statement
