import ComponentLinks.Proofs.Statement.PackageStamps

/-!
# Dependencies of a package one by one

What the scan of the dependencies of a package makes of a single one, whatever comes after it: of
the stamp of a target the target, and nothing of the outputs of the package itself, of the stamps
that never name a component and of what is in other directories.

## Main definitions

* `Statement.matchedTarget`: what is made of a match.
* `Statement.scansTo_of_no_output`: a path without an output of the directory.
* `Statement.scansTo_of_own`: an output of the package itself.
* `Statement.scansTo_of_component`, `Statement.scansTo_of_below`,
  `Statement.scansTo_of_package`: the stamps of targets.
* `Statement.IsNonComponent.scansTo`, `Statement.scansTo_of_index`: the stamps that never name one.
-/
namespace ComponentLinks.Statement

open Pattern

section Scan

variable {directory package gap path rest name ending word : List Char}

def matchedTarget (m : Found Field) : Option (List Char) :=
  PackageAssembly.dependencyTarget? m.captures

theorem readsOutputs_packageDependencyPattern (directory package : List Char) :
    ReadsOutputs (packageDependencyPattern directory package) directory
      fun out => ¬ package ++ ['.'] <+: out := by
  intro last cs b s hmatch
  obtain ⟨blanks, -, out, hblanks, hout, hown, -⟩ := exists_output_of_matchAt? hmatch
  exact ⟨blanks, out, hblanks, hout, hown⟩

/-- The scan passes over a path that holds no output of the directory but the package's own. -/
theorem scansTo_of_no_output (hdirectory : IsDirectory directory) (hgap : IsBlanks gap)
    (hne : path ≠ []) (hpath : IsVisible path) (hrest : ∀ c ∈ rest.head?, Text.isBlank c = true)
    (h : ∀ us vs, path = us ++ (outputPrefix directory ++ vs) → package ++ ['.'] <+: vs) :
    ScansTo (packageDependencyPattern directory package) matchedTarget (gap ++ path) rest [] := by
  refine (readsOutputs_packageDependencyPattern directory package).scansTo_of_path hdirectory hgap
    hne hpath hrest fun us vs hsplit hown => hown ?_
  exact (h us vs hsplit).trans (List.prefix_append vs rest)

/-- What is left of a path after its last slash is passed over. -/
theorem scansTo_of_no_slash (hdirectory : IsDirectory directory) (hpath : IsVisible path)
    (hrest : ∀ c ∈ rest.head?, Text.isBlank c = true) (hslash : '/' ∉ path) :
    ScansTo (packageDependencyPattern directory package) matchedTarget path rest [] := by
  cases path with
  | nil => exact ScansTo.of_none fun us vs h hvs => by simp_all
  | cons c cs =>
    refine scansTo_of_no_output hdirectory isBlanks_nil (by simp) hpath hrest ?_
    intro us vs h
    exact absurd (by simp [h, outputPrefix]) hslash

/-- What is read of an output of the directory is made of its path, if no slash is left. -/
theorem scansTo_of_read {xs ys : List Char} {end_ : Option Char} {s : Captures Field}
    {target : Option (List Char)} (hdirectory : IsDirectory directory) (hgap : IsBlanks gap)
    (hys : IsVisible ys) (hslash : '/' ∉ ys) (hrest : ∀ c ∈ rest.head?, Text.isBlank c = true)
    (hown : ¬ package ++ ['.'] <+: (xs ++ ys) ++ rest)
    (hread : (inOrder (stampPatterns package)).read (fun b s => some (b, s))
      ⟨some '/', (xs ++ ys) ++ rest⟩ [] = some (⟨end_, ys ++ rest⟩, s))
    (htarget : PackageAssembly.dependencyTarget? s = target) :
    ScansTo (packageDependencyPattern directory package) matchedTarget
      (gap ++ (outputPrefix directory ++ (xs ++ ys))) rest target.toList := by
  have hmatch : ScansTo (packageDependencyPattern directory package) matchedTarget
      (gap ++ (outputPrefix directory ++ xs)) (ys ++ rest) target.toList := by
    refine ScansTo.of_match (s := s) (by simp [outputPrefix]) (fun last => ⟨end_, ?_⟩)
      fun _ => htarget
    have h : (packageDependencyPattern directory package).matchAt?
        ⟨last, gap ++ (outputPrefix directory ++ ((xs ++ ys) ++ rest))⟩ = _ :=
      matchAt?_of_read_stampPatterns hgap hown hread
    simpa using h
  have htail := hmatch.append (scansTo_of_no_slash hdirectory hys hrest hslash)
  simpa using htail

/-- Nothing is made of the outputs of the package itself. -/
theorem scansTo_of_own (hdirectory : IsDirectory directory) (hpackage : IsName package)
    (hgap : IsBlanks gap) (hrest : ∀ c ∈ rest.head?, Text.isBlank c = true)
    (hvisible : IsVisible (outputPrefix directory ++ (package ++ '.' :: word)))
    (h : ¬ outputPrefix directory <:+: word) :
    ScansTo (packageDependencyPattern directory package) matchedTarget
      (gap ++ (outputPrefix directory ++ (package ++ '.' :: word))) rest [] := by
  refine scansTo_of_no_output hdirectory hgap (by simp [outputPrefix]) hvisible hrest ?_
  intro us vs hsplit
  have hdirectoryDot : '.' ∉ outputPrefix directory := by
    simp [outputPrefix, hdirectory.not_mem (c := '.') (by decide) (by decide)]
  have hpackageDot : '.' ∉ package := hpackage.not_mem (by decide)
  have hdots : us ++ (outputPrefix directory ++ vs) =
      (outputPrefix directory ++ package) ++ '.' :: word := by
    simpa using hsplit.symm
  by_cases hus : '.' ∈ us
  · obtain ⟨ts, -, rfl⟩ := Text.exists_append_of_mem (by simp [*]) hus hdots
    exact absurd ⟨ts, vs, by simp⟩ h
  -- Before the dot there is room for one output only, the one at the beginning.
  obtain ⟨ts, hts⟩ : us ++ outputPrefix directory <+: outputPrefix directory ++ package :=
    Text.prefix_of_prefix_append (c := '.') (by simp [*]) ⟨vs, by simpa using hdots⟩
  have hlength : us.length + ts.length = package.length := by
    have := congrArg List.length hts
    simp only [List.length_append] at this
    omega
  have htsSlash : '/' ∉ ts := by
    have hsuffix : ts <:+ package :=
      List.suffix_of_suffix_length_le ⟨_, hts⟩ (List.suffix_append _ _) (by omega)
    exact fun hmem => hpackage.not_mem (c := '/') (by decide) (hsuffix.subset hmem)
  have hslashes : (us ++ ("obj/".toList ++ directory)) ++ '/' :: ts =
      ("obj/".toList ++ directory) ++ '/' :: package := by
    simpa [outputPrefix] using hts
  obtain ⟨hsame, -⟩ :=
    Text.append_inj_of_last htsSlash (hpackage.not_mem (by decide)) hslashes
  obtain rfl : us = [] := by simpa using hsame
  have hvs : outputPrefix directory ++ vs = outputPrefix directory ++ (package ++ '.' :: word) := by
    simpa using hdots
  exact ⟨word, by simp [List.append_cancel_left hvs]⟩

theorem not_isPrefix_dot_of_underscore : ¬ package ++ ['.'] <+: package ++ '_' :: rest := by
  rw [List.prefix_append_right_inj]
  simp

/-- Nothing is made of a stamp that never names a component. -/
theorem IsNonComponent.scansTo (h : IsNonComponent word) (hdirectory : IsDirectory directory)
    (hgap : IsBlanks gap) (hrest : IsApart rest) {front : List Char}
    (hfront : front = package ++ ['_'] ∨ front = [] ∧ ¬ package ++ ['_'] <+: word ++ rest)
    (hown : ¬ package ++ ['.'] <+: front ++ (word ++ rest)) :
    ScansTo (packageDependencyPattern directory package) matchedTarget
      (gap ++ (outputPrefix directory ++ (front ++ word))) rest [] := by
  have hslash : '/' ∉ word := h.slash_not_mem
  have hvisible : IsVisible word := h.isVisible
  obtain ⟨xs, ys, end_, s, rfl, hread, hs⟩ := h.exists_read_stampPatterns hrest hfront
  have hscan : ScansTo (packageDependencyPattern directory package) matchedTarget
      (gap ++ (outputPrefix directory ++ ((front ++ xs) ++ ys))) rest [] :=
    scansTo_of_read hdirectory hgap (fun c hc => hvisible c (by simp [hc]))
      (fun hmem => hslash (by simp [hmem])) hrest.blank (by simpa using hown)
      (by simpa using hread) hs
  simpa using hscan

theorem IsNonComponent.scansTo_of_package (h : IsNonComponent word)
    (hdirectory : IsDirectory directory) (hgap : IsBlanks gap) (hrest : IsApart rest) :
    ScansTo (packageDependencyPattern directory package) matchedTarget
      (gap ++ (outputPrefix directory ++ (package ++ '_' :: word))) rest [] := by
  have hown : ¬ package ++ ['.'] <+: (package ++ ['_']) ++ (word ++ rest) := by simp
  have hscan := h.scansTo hdirectory hgap hrest (.inl rfl) hown
  rwa [List.append_assoc, List.singleton_append] at hscan

/-- What is made of a stamp that is read up to its end is the target that has been read. -/
theorem scansTo_of_stamp {text : List Char} {end_ : Option Char} {s : Captures Field}
    {r : Option (List Char)} (hdirectory : IsDirectory directory) (hgap : IsBlanks gap)
    (hrest : ∀ c ∈ rest.head?, Text.isBlank c = true) (htext : text = word ++ rest)
    (hown : ¬ package ++ ['.'] <+: text)
    (hread : (inOrder (stampPatterns package)).read (fun b s => some (b, s)) ⟨some '/', text⟩ [] =
      some (⟨end_, rest⟩, s))
    (htarget : PackageAssembly.dependencyTarget? s = r) :
    ScansTo (packageDependencyPattern directory package) matchedTarget
      (gap ++ (outputPrefix directory ++ word)) rest r.toList := by
  subst htext
  have hscan := scansTo_of_read hdirectory hgap isVisible_nil (by simp) hrest
    (by rwa [List.append_nil]) (by rwa [List.append_nil]) htarget
  rwa [List.append_nil] at hscan

theorem scansTo_of_component (hdirectory : IsDirectory directory) (hpackage : IsName package)
    (hgap : IsBlanks gap) (hrest : ∀ c ∈ rest.head?, Text.isBlank c = true)
    (h : IsComponentOf package name) (hending : ending ∈ stampEndings) :
    ScansTo (packageDependencyPattern directory package) matchedTarget
      (gap ++ (outputPrefix directory ++ (name ++ ending))) rest [name] := by
  exact scansTo_of_stamp (r := some name) hdirectory hgap hrest (by simp)
    (h.not_isPrefix_dot hpackage hending)
    (read_stampPatterns_component hpackage h hending hrest)
    (dependencyTarget?_of_target h.name.1 _)

theorem dependencyTarget?_of_below {subdirectory : List Char} (hsubdirectory : subdirectory ≠ [])
    (hname : name ≠ []) (rest after : List Char) :
    PackageAssembly.dependencyTarget? [⟨.componentTarget, name ++ after, after⟩,
      ⟨.componentBuildSubdir, subdirectory ++ rest, rest⟩] =
        some (subdirectory ++ '/' :: name) := by
  simp [PackageAssembly.dependencyTarget?, Captures.get, hname, hsubdirectory]

theorem scansTo_of_below {subdirectory : List Char} (hdirectory : IsDirectory directory)
    (hpackage : IsName package) (hgap : IsBlanks gap)
    (hrest : ∀ c ∈ rest.head?, Text.isBlank c = true) (h : IsComponentName name)
    (hsubdirectory : IsName subdirectory) (hne : subdirectory ≠ package ++ ['_'])
    (hending : ending ∈ stampEndings) :
    ScansTo (packageDependencyPattern directory package) matchedTarget
      (gap ++ (outputPrefix directory ++ (subdirectory ++ '/' :: (name ++ ending)))) rest
      [subdirectory ++ '/' :: name] := by
  refine scansTo_of_stamp (r := some _) hdirectory hgap hrest (by simp)
    (not_isPrefix_dot hpackage hsubdirectory (.inr (by decide)) (by decide))
    (read_stampPatterns_below hpackage h hsubdirectory hne hending hrest) ?_
  exact dependencyTarget?_of_below hsubdirectory.1 h.name.1 _ _

/-- A target with the name of the package in front is named without it, unless it is the only
component of the package; the index of the package is none. -/
def targetOf (package name : List Char) : Option (List Char) :=
  if name = PackageAssembly.indexTarget then none
  else if name = PackageAssembly.placeholderTarget then some (package ++ '_' :: name)
  else some name

@[simp] theorem targetOf_indexTarget (package : List Char) :
    targetOf package PackageAssembly.indexTarget = none := by
  simp [targetOf]

@[simp] theorem targetOf_placeholderTarget (package : List Char) :
    targetOf package PackageAssembly.placeholderTarget =
      some (package ++ '_' :: PackageAssembly.placeholderTarget) := by
  have hne : PackageAssembly.placeholderTarget ≠ PackageAssembly.indexTarget := by decide
  simp [targetOf, hne]

theorem isComponentName_placeholderTarget :
    IsComponentName PackageAssembly.placeholderTarget :=
  ⟨by decide, by decide, by decide, by decide, by decide⟩

theorem isComponentName_indexTarget : IsComponentName PackageAssembly.indexTarget :=
  ⟨by decide, by decide, by decide, by decide, by decide⟩

theorem dependencyTarget?_of_package (hpackage : package ≠ []) (hname : name ≠ [])
    (rest after : List Char) :
    PackageAssembly.dependencyTarget? [⟨.componentTarget, name ++ after, after⟩,
      ⟨.componentTargetPrefix, package ++ rest, rest⟩] = targetOf package name := by
  simp only [PackageAssembly.dependencyTarget?, Captures.get, Captures.get?_cons, targetOf]
  simp only [reduceCtorEq, if_true, if_false, Capture.text_append, Option.getD_some,
    Option.getD_none, Captures.get?_nil, List.isEmpty_nil, List.isEmpty_eq_false_iff.2 hname,
    List.isEmpty_eq_false_iff.2 hpackage, Bool.false_or, Bool.not_false, Bool.true_and,
    beq_iff_eq]
  split <;> try rfl
  split <;> rfl

theorem exists_read_of_package (hpackage : IsName package)
    (hrest : ∀ c ∈ rest.head?, Text.isBlank c = true) (h : IsComponentName name)
    (hending : ending ∈ stampEndings) (last : Option Char) :
    ∃ s, (inOrder (stampPatterns package)).read (fun b s => some (b, s))
        ⟨last, package ++ '_' :: (name ++ (ending ++ rest))⟩ [] = some (⟨some 'p', rest⟩, s) ∧
      PackageAssembly.dependencyTarget? s = targetOf package name := by
  refine ⟨_, read_stampPatterns_of_package h.name.head_ne_slash
    (read_stampEnd_of_isComponentName h hending hrest), ?_⟩
  exact dependencyTarget?_of_package hpackage.1 h.name.1 _ _

theorem scansTo_of_package (hdirectory : IsDirectory directory) (hpackage : IsName package)
    (hgap : IsBlanks gap) (hrest : ∀ c ∈ rest.head?, Text.isBlank c = true)
    (h : IsComponentName name) (hending : ending ∈ stampEndings) :
    ScansTo (packageDependencyPattern directory package) matchedTarget
      (gap ++ (outputPrefix directory ++ (package ++ '_' :: (name ++ ending)))) rest
      (targetOf package name).toList := by
  obtain ⟨s, hread, htarget⟩ := exists_read_of_package hpackage hrest h hending (some '/')
  exact scansTo_of_stamp hdirectory hgap hrest (by simp) not_isPrefix_dot_of_underscore hread
    htarget

theorem scansTo_of_index (hdirectory : IsDirectory directory) (hpackage : IsName package)
    (hgap : IsBlanks gap) (hrest : IsApart rest) (h : IsDottedName name)
    (hne : name ≠ package ++ ['_']) (hne' : package ≠ name ++ "_component".toList) :
    ScansTo (packageDependencyPattern directory package) matchedTarget
      (gap ++ (outputPrefix directory ++ (name ++ "_component_index.stamp".toList))) rest [] := by
  have hindex : IsNonComponent (name ++ "_component_index.stamp".toList) := .index h
  have hvisible := hindex.isVisible
  have hslash := hindex.slash_not_mem
  -- The name of the package may stand in front, as that of an output or as that of a target.
  by_cases hown : package ++ ['.'] <+: (name ++ "_component_index.stamp".toList) ++ rest
  · have hdot : IsVisible (package ++ ['.']) := hpackage.isVisible.append (by decide)
    obtain ⟨ts, hts⟩ := prefix_of_isVisible hdot hrest.blank hown
    rw [← hts, List.append_assoc, List.singleton_append] at hvisible hslash ⊢
    refine scansTo_of_own hdirectory hpackage hgap hrest.blank
      ((isVisible_outputPrefix hdirectory.isVisible).append hvisible) ?_
    rintro ⟨us, vs, hinfix⟩
    simp [← hinfix, outputPrefix] at hslash
  by_cases hpre : package ++ ['_'] <+: (name ++ "_component_index.stamp".toList) ++ rest
  · have hunderscore : IsVisible (package ++ ['_']) := hpackage.isVisible.append (by decide)
    obtain ⟨word, hword⟩ := prefix_of_isVisible hunderscore hrest.blank hpre
    rw [List.append_assoc, List.singleton_append] at hword
    rcases or_of_index_eq_append hword.symm hne with hindex | ⟨more, hmore, hsuffix, rfl⟩ | heq
    · have hending : ".stamp".toList ∈ stampEndings := by simp [stampEndings]
      have hscan := scansTo_of_package hdirectory hpackage hgap hrest.blank
        isComponentName_indexTarget hending
      rw [targetOf_indexTarget] at hscan
      rwa [← hword, hindex]
    · have hdotted : IsDottedName more := ⟨hmore, fun c hc => h.2 c (hsuffix.subset hc)⟩
      rw [← hword]
      exact (IsNonComponent.index hdotted).scansTo_of_package hdirectory hgap hrest
    · exact absurd heq hne'
  · exact hindex.scansTo hdirectory hgap hrest (.inr ⟨rfl, hpre⟩) hown

end Scan

end ComponentLinks.Statement
