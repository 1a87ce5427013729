import ComponentLinks.Proofs.Statement.Dependencies
import ComponentLinks.Statement.Recognize

/-!
# Recognizing the assembly of a package

The build statement for the archive of a package is read as just that: the package with the
components that its dependencies name. The stamp of a component target of the package's directory
names the target, whatever other dependencies there are.

## Main definitions

* `Statement.IsComponentOf`: the targets that are components of a package under their own names.
* `Statement.IsStampEnd`: how the stamps end that can be matched among dependencies.
* `Statement.mem_dependencyTargets_text`: the components that dependencies name.
* `Statement.archivePath`: where the archive of a package is.
* `Statement.ofStatement?_archive`: what the build statement for an archive says.
-/
namespace ComponentLinks.Statement

open Pattern

/-- Whether a target is a component of a package under its own name: it is neither the package nor
one of the targets that stand beside a package. -/
structure IsComponentOf (package target : List Char) : Prop where
  name : IsName target
  ne_package : target ≠ package
  not_prefixed : ¬ package ++ ['_'] <+: target
  ne_manifest : target ≠ "manifest".toList
  ne_metadata : target ≠ "metadata".toList
  not_validation : ¬ "validate_manifests".toList <+: target
  not_index : ¬ "_component_index".toList <:+ target

/-- Whether a target can be a component: it is none of the targets that stand beside packages. -/
structure IsComponentName (target : List Char) : Prop where
  name : IsName target
  ne_manifest : target ≠ "manifest".toList
  ne_metadata : target ≠ "metadata".toList
  not_validation : ¬ "validate_manifests".toList <+: target
  not_index : ¬ "_component_index".toList <:+ target

theorem IsComponentOf.isComponentName {package target : List Char}
    (h : IsComponentOf package target) : IsComponentName target :=
  ⟨h.name, h.ne_manifest, h.ne_metadata, h.not_validation, h.not_index⟩

/-- How the stamps of components end. -/
def stampEndings : List (List Char) := [".stamp".toList, ".manifest.stamp".toList]

def targetStamp : Pattern Field := inOrder
  [capture .componentTarget (severalLazy (.noneOf ['/'])), opt (lit ".manifest"), lit ".stamp"]

/-- What is read of a stamp among the dependencies after its directory: first the name of the
package, or one directory more. -/
def stampPatterns (package : List Char) : List (Pattern Field) :=
  [alt (opt (inOrder [capture .componentTargetPrefix (text package), lit "_"]))
    (capture .componentBuildSubdir (several (.noneOf ['.', '/']))),
   opt (lit "/"), alt nonComponentStamp targetStamp]

theorem packageDependencyPattern_eq (directory package : List Char) :
    packageDependencyPattern directory package =
      inOrder (many .blank :: lit "obj/" :: text directory ::
        notBefore ('/' :: package ++ ['.']) :: lit "/" :: stampPatterns package) := rfl

/-- A stamp of which only a target is read names the target. -/
theorem dependencyTarget?_of_target {target : List Char} (hne : target ≠ []) (after : List Char) :
    PackageAssembly.dependencyTarget? [⟨.componentTarget, target ++ after, after⟩] =
      some target := by
  rw [PackageAssembly.dependencyTarget?, Captures.get?_cons, if_pos rfl, Capture.text_append]
  simp [Captures.get, hne]

section Stamp

variable {α : Type} {k : Place → Captures Field → Option α} {last : Option Char}
  {s : Captures Field} {r : α} {directory package target ending after word : List Char}

/-- Whether a text up to the first dot of a stamp begins none of the stamps that stand beside
components. -/
structure IsPlainStart (word : List Char) : Prop where
  no_dot : '.' ∉ word
  ne_manifest : word ≠ "manifest".toList
  ne_metadata : word ≠ "metadata".toList
  not_validation : "validate_manifests".toList <+: word → '/' ∈ word
  not_index : ¬ "_component_index".toList <:+ word

theorem IsComponentName.isPlainStart (h : IsComponentName target) : IsPlainStart target :=
  ⟨h.name.not_mem (by decide), h.ne_manifest, h.ne_metadata,
    fun hpre => absurd hpre h.not_validation, h.not_index⟩

/-- One directory down a component's stamp is none of those that stand beside components either. -/
theorem IsComponentName.isPlainStart_below {subdirectory : List Char} (h : IsComponentName target)
    (hsubdirectory : IsName subdirectory) : IsPlainStart (subdirectory ++ '/' :: target) where
  no_dot := by
    simp [hsubdirectory.not_mem (c := '.') (by decide), h.name.not_mem (c := '.') (by decide)]
  ne_manifest heq := by
    have hslash : '/' ∈ "manifest".toList := by simp [← heq]
    exact absurd hslash (by decide)
  ne_metadata heq := by
    have hslash : '/' ∈ "metadata".toList := by simp [← heq]
    exact absurd hslash (by decide)
  not_validation _ := by simp
  not_index hsuffix := h.not_index (Text.suffix_of_suffix_append (by decide) hsuffix)

theorem exists_dot_of_mem_stampEndings (h : ending ∈ stampEndings) :
    ∃ rest, ending = '.' :: rest ∧ IsVisible ending ∧ ending.length < 22 := by
  simp only [stampEndings, List.mem_cons, List.not_mem_nil, or_false] at h
  rcases h with rfl | rfl <;> exact ⟨_, rfl, by decide, by decide⟩

/-- The stamp of a component of a package is none of the stamps that stand beside components. -/
theorem read_nonComponentStamp_eq_none (h : IsPlainStart word) (hending : ending ∈ stampEndings)
    (hafter : ∀ c ∈ after.head?, Text.isBlank c = true) :
    nonComponentStamp.read k ⟨last, word ++ (ending ++ after)⟩ s = none := by
  obtain ⟨dotted, rfl, hendingVisible, hlength⟩ := exists_dot_of_mem_stampEndings hending
  -- A text that goes on with a dot, too, is the word itself.
  have heq : ∀ {xs rest : List Char}, '.' ∉ xs →
      word ++ (('.' :: dotted) ++ after) = xs ++ '.' :: rest → word = xs :=
    fun hxs hrest => (append_dot_inj h.no_dot hxs (by simpa using hrest)).1
  refine read_alt_eq_none ?_ (read_alt_eq_none ?_ (read_alt_eq_none ?_ ?_))
  · refine read_text_of_not_isPrefix ?_
    rintro ⟨rest, hrest⟩
    exact h.ne_manifest (heq (by decide) (by simpa using hrest.symm))
  · refine read_text_of_not_isPrefix ?_
    rintro ⟨rest, hrest⟩
    exact h.ne_metadata (heq (by decide) (by simpa using hrest.symm))
  · by_contra hsome
    obtain ⟨r, hr⟩ := Option.ne_none_iff_exists'.1 hsome
    obtain ⟨rest, hrest, hr⟩ := exists_of_read_cons_lit hr
    obtain ⟨xs, rest, rfl, hxs, -, hr⟩ := exists_of_read_cons_run hr
    obtain ⟨rest, rfl, -⟩ := exists_of_read_cons_lit hr
    have hpre : "validate_manifests".toList <+: word ++ '.' :: (dotted ++ after) :=
      ⟨xs ++ (".stamp".toList ++ rest), by simpa using hrest.symm⟩
    have hslash := h.not_validation (Text.prefix_of_prefix_append (by decide) hpre)
    -- The word ends in the run, which holds no slash.
    have hword : word <+: ("validate_manifests".toList ++ xs) ++ '.' :: ("stamp".toList ++ rest) :=
      ⟨('.' :: dotted) ++ after, by simpa using hrest⟩
    have hmem := (Text.prefix_of_prefix_append h.no_dot hword).subset hslash
    have hxsSlash : '/' ∉ xs := fun hmem => absurd (hxs '/' hmem) (by decide)
    simp [hxsSlash] at hmem
  · by_contra hsome
    obtain ⟨r, hr⟩ := Option.ne_none_iff_exists'.1 hsome
    obtain ⟨xs, rest, hrest, hxs, -, hr⟩ := exists_of_read_cons_run hr
    obtain ⟨zs, rfl, -⟩ := exists_of_read_cons_lit hr
    rcases List.append_eq_append_iff.1 hrest with ⟨us, rfl, hus⟩ | ⟨us, rfl, hus⟩
    · -- A run of visible characters ends with the stamp.
      have hvisible : IsVisible (us ++ "_component_index.stamp".toList) := by
        intro c hc
        rcases List.mem_append.1 hc with hc | hc
        · simpa [CharClass.has] using hxs c (by simp [hc])
        · have hindex : IsVisible "_component_index.stamp".toList := by decide
          exact hindex c hc
      have hpre : us ++ "_component_index.stamp".toList <+: '.' :: dotted :=
        prefix_of_isVisible hvisible hafter ⟨zs, by rw [hus, List.append_assoc]⟩
      have := hpre.length_le
      simp only [List.length_append] at this
      have hindex : "_component_index.stamp".toList.length = 22 := by decide
      omega
    · have hus' : "_component_index".toList ++ '.' :: ("stamp".toList ++ zs) =
          us ++ '.' :: (dotted ++ after) := by
        simpa using hus
      obtain ⟨rfl, -⟩ := append_dot_inj (by simp) (fun hmem => h.no_dot (by simp [hmem])) hus'
      exact h.not_index (List.suffix_append xs _)

/-- A name that does not begin with the name of the package is not read so. -/
theorem read_targetPrefix_eq_none (hword : ¬ package ++ ['_'] <+: word) :
    (inOrder [capture .componentTargetPrefix (text package), lit "_"]).read k ⟨last, word⟩ s =
      none := by
  by_contra hsome
  obtain ⟨r, hr⟩ := Option.ne_none_iff_exists'.1 hsome
  rw [read_cons_capture] at hr
  obtain ⟨rest, hrest, hr⟩ := exists_of_read_text hr
  obtain ⟨rest, rfl, -⟩ := exists_of_read_cons_lit hr
  exact hword ⟨rest, by simpa using hrest.symm⟩

theorem read_targetStamp (h : IsName target) (hending : ending ∈ stampEndings) :
    targetStamp.read (fun b s' => some (b, s')) ⟨last, target ++ (ending ++ after)⟩ s =
      some (⟨some 'p', after⟩, ⟨.componentTarget, target ++ (ending ++ after),
        ending ++ after⟩ :: s) := by
  have hdot : '.' ∉ target := h.not_mem (by decide)
  have hslash : '/' ∉ target := h.not_mem (by decide)
  rw [targetStamp, read_cons_capture]
  refine read_run_shortest ?_ (by simp [h.1]) ?_ ?_
  · intro x hx
    have : x ≠ '/' := fun heq => hslash (heq ▸ hx)
    simp [CharClass.has, this]
  · simp only [stampEndings, List.mem_cons, List.not_mem_nil, or_false] at hending
    rw [read_inOrder_cons]
    rcases hending with rfl | rfl
    · rw [read_opt_of_none (read_lit_of_not_isPrefix (by simp)), read_cons_lit]
      simp
    · refine read_opt_of_some ?_
      rw [show ".manifest.stamp".toList ++ after =
        ".manifest".toList ++ (".stamp".toList ++ after) by simp, read_lit_append, read_cons_lit]
      simp
  · -- A shorter text is not followed by a dot.
    intro ys zs hsplit hzs _ r' hr'
    obtain ⟨z, zs, rfl⟩ := List.exists_cons_of_ne_nil hzs
    have hz : z ≠ '.' := fun heq => hdot (by simp [hsplit, heq])
    rw [read_inOrder_cons, read_opt_of_none (read_lit_of_not_isPrefix (by simp [hz.symm]))] at hr'
    obtain ⟨rest, hrest, -⟩ := exists_of_read_cons_lit hr'
    simp [hz] at hrest

/-- The stamp of a target that can be a component is read under the name of the target. -/
theorem read_stampEnd_of_isComponentName (h : IsComponentName target)
    (hending : ending ∈ stampEndings) (hafter : ∀ c ∈ after.head?, Text.isBlank c = true) :
    (alt nonComponentStamp targetStamp).read (fun b s' => some (b, s'))
      ⟨last, target ++ (ending ++ after)⟩ s =
        some (⟨some 'p', after⟩, ⟨.componentTarget, target ++ (ending ++ after),
          ending ++ after⟩ :: s) := by
  rw [read_alt_of_none (read_nonComponentStamp_eq_none h.isPlainStart hending hafter),
    read_targetStamp h.name hending]

/-- A text that begins with no slash is read up to the end of the stamp as it stands. -/
theorem read_slash_of_ne (hword : ∀ c ∈ word.head?, c ≠ '/') {p : Pattern Field} :
    (inOrder [opt (lit "/"), p]).read k ⟨last, word⟩ s = p.read k ⟨last, word⟩ s := by
  have hslash : ¬ "/".toList <+: word := by
    rintro ⟨rest, rfl⟩
    exact hword '/' (by simp) rfl
  rw [read_inOrder_cons, read_opt_of_none (read_lit_of_not_isPrefix hslash)]
  rfl

theorem IsName.head_ne_slash (h : IsName word) : ∀ c ∈ (word ++ after).head?, c ≠ '/' := by
  obtain ⟨c, cs, rfl⟩ := List.exists_cons_of_ne_nil h.1
  rintro d hd rfl
  obtain rfl : c = '/' := by simpa using hd
  exact h.not_mem (c := '/') (by decide) (by simp)

/-- Where nothing is read after the name of the package, the rest of a stamp is read as it
stands. -/
theorem read_stampPatterns_of_prefix_eq_none
    (hnone : (inOrder [capture .componentTargetPrefix (text package), lit "_"]).read
      (fun b s => (inOrder [opt (lit "/"), alt nonComponentStamp targetStamp]).read k b s)
        ⟨last, word⟩ s = none)
    (hslash : ∀ c ∈ word.head?, c ≠ '/')
    (hr : (alt nonComponentStamp targetStamp).read k ⟨last, word⟩ s = some r) :
    (inOrder (stampPatterns package)).read k ⟨last, word⟩ s = some r := by
  rw [stampPatterns, read_inOrder_cons]
  refine read_alt_of_some ?_
  rw [read_opt_of_none hnone, read_slash_of_ne hslash]
  exact hr

theorem read_stampPatterns_of_not_isPrefix (hword : ¬ package ++ ['_'] <+: word)
    (hslash : ∀ c ∈ word.head?, c ≠ '/')
    (hr : (alt nonComponentStamp targetStamp).read k ⟨last, word⟩ s = some r) :
    (inOrder (stampPatterns package)).read k ⟨last, word⟩ s = some r :=
  read_stampPatterns_of_prefix_eq_none (read_targetPrefix_eq_none hword) hslash hr

/-- An output of a directory, unless it is one of the package itself, is matched by what is read
of its end. -/
theorem matchAt?_of_read_stampPatterns {gap : List Char} {r : Place × Captures Field}
    (hgap : IsBlanks gap) (hword : ¬ package ++ ['.'] <+: word)
    (hr : (inOrder (stampPatterns package)).read (fun b s => some (b, s)) ⟨some '/', word⟩ [] =
      some r) :
    (packageDependencyPattern directory package).matchAt?
      ⟨last, gap ++ (outputPrefix directory ++ word)⟩ = some r := by
  rw [matchAt?, packageDependencyPattern_eq, outputPrefix]
  simp only [List.append_assoc]
  refine read_cons_run_of_stop hgap (by simp) (by simp; decide) ?_
  rw [read_cons_lit, read_cons_text, read_inOrder_cons, read_notBefore_of_not_isPrefix]
  · rw [show ['/'] = "/".toList by rfl, read_cons_lit]
    simpa using hr
  · rintro ⟨rest, hrest⟩
    exact hword ⟨rest, by simpa using hrest⟩

/-- A name that is followed by another mark begins with no output of a package of another name. -/
theorem not_isPrefix_dot {d : Char} {rest : List Char} (hpackage : IsName package)
    (htarget : IsName target) (hne : target ≠ package ∨ d ≠ '.') (hd : Text.isName d = false) :
    ¬ package ++ ['.'] <+: target ++ d :: rest := by
  rintro ⟨ts, hts⟩
  have hsplit : package ++ '.' :: ts = target ++ d :: rest := by simpa using hts
  have hdot : Text.isName '.' = false := by decide
  obtain ⟨rfl, rfl, -⟩ := Text.append_inj_of_stop hpackage.2 htarget.2 hdot hd hsplit
  simp at hne

/-- The stamp of a component is none of the package's own outputs. -/
theorem IsComponentOf.not_isPrefix_dot (h : IsComponentOf package target)
    (hpackage : IsName package) (hending : ending ∈ stampEndings) :
    ¬ package ++ ['.'] <+: target ++ (ending ++ after) := by
  obtain ⟨dotted, rfl, -⟩ := exists_dot_of_mem_stampEndings hending
  exact Statement.not_isPrefix_dot hpackage h.name (.inl h.ne_package) (by decide)

theorem read_stampPatterns_component (hpackage : IsName package) (h : IsComponentOf package target)
    (hending : ending ∈ stampEndings) (hafter : ∀ c ∈ after.head?, Text.isBlank c = true) :
    (inOrder (stampPatterns package)).read (fun b s' => some (b, s'))
      ⟨last, target ++ (ending ++ after)⟩ s =
        some (⟨some 'p', after⟩, ⟨.componentTarget, target ++ (ending ++ after),
          ending ++ after⟩ :: s) := by
  refine read_stampPatterns_of_not_isPrefix ?_ h.name.head_ne_slash
    (read_stampEnd_of_isComponentName h.isComponentName hending hafter)
  obtain ⟨dotted, rfl, -⟩ := exists_dot_of_mem_stampEndings hending
  have hdot : '.' ∉ package ++ ['_'] := by
    simpa using hpackage.not_mem (c := '.') (by decide)
  exact fun hpre => h.not_prefixed (Text.prefix_of_prefix_append hdot hpre)

theorem matchAt?_packageDependency (hpackage : IsName package)
    (h : IsComponentOf package target) (d : Dependencies directory target) (last : Option Char) :
    (packageDependencyPattern directory package).matchAt? ⟨last, (d.gap ++ d.stamp) ++ d.after⟩ =
      some (⟨some 'p', d.after⟩, [⟨.componentTarget, target ++ (".stamp".toList ++ d.after),
        ".stamp".toList ++ d.after⟩]) := by
  have hending : ".stamp".toList ∈ stampEndings := by simp [stampEndings]
  rw [Dependencies.stamp]
  simp only [List.append_assoc]
  exact matchAt?_of_read_stampPatterns d.gap_blank (h.not_isPrefix_dot hpackage hending)
    (read_stampPatterns_component hpackage h hending d.after_apart)

end Stamp

/-! ## Matches among the dependencies -/

section Matches

variable {α : Type} {k : Place → Captures Field → Option α} {a b : Place}
  {s : Captures Field} {r : α} {directory package target : List Char}

/-- Whether a text can be matched as the end of a stamp in a directory: it has no slash, or it is
the visible end of an index. -/
structure IsStampEnd (word : List Char) : Prop where
  ending : ".stamp".toList <:+ word
  within : '/' ∉ word ∨ (IsVisible word ∧ "_component_index.stamp".toList <:+ word)

theorem exists_of_read_nonComponentStamp (h : nonComponentStamp.read k a s = some r) :
    ∃ word rest, a.rest = word ++ rest ∧ IsStampEnd word ∧
      k ⟨lastAfter a.last word, rest⟩ s = some r := by
  rcases or_of_read_alt h with h | h
  · obtain ⟨rest, hrest, h⟩ := exists_of_read_text h
    exact ⟨_, rest, hrest, ⟨by decide, .inl (by decide)⟩, h⟩
  rcases or_of_read_alt h with h | h
  · obtain ⟨rest, hrest, h⟩ := exists_of_read_text h
    exact ⟨_, rest, hrest, ⟨by decide, .inl (by decide)⟩, h⟩
  rcases or_of_read_alt h with h | h
  · obtain ⟨rest, hrest, h⟩ := exists_of_read_cons_lit h
    obtain ⟨xs, rest, rfl, hxs, -, h⟩ := exists_of_read_cons_run h
    obtain ⟨rest, rfl, h⟩ := exists_of_read_cons_lit h
    have hslash : '/' ∉ xs := fun hmem => absurd (hxs '/' hmem) (by decide)
    refine ⟨"validate_manifests".toList ++ (xs ++ ".stamp".toList), rest, by simp [hrest],
      ⟨⟨"validate_manifests".toList ++ xs, by simp⟩, .inl (by simp [hslash])⟩, ?_⟩
    simpa using h
  · obtain ⟨xs, rest, hrest, hxs, -, h⟩ := exists_of_read_cons_run h
    obtain ⟨rest, rfl, h⟩ := exists_of_read_cons_lit h
    have hvisible : IsVisible xs := fun c hc => by simpa [CharClass.has] using hxs c hc
    have hending : IsVisible "_component_index.stamp".toList := by decide
    refine ⟨xs ++ "_component_index.stamp".toList, rest, by simp [hrest],
      ⟨⟨xs ++ "_component_index".toList, by simp⟩,
        .inr ⟨hvisible.append hending, List.suffix_append _ _⟩⟩, ?_⟩
    simpa using h

theorem exists_of_read_slash {p : Pattern Field}
    (h : (inOrder [opt (lit "/"), p]).read k a s = some r) :
    ∃ slash last rest, a.rest = slash ++ rest ∧ (slash = [] ∨ slash = ['/']) ∧
      p.read k ⟨last, rest⟩ s = some r := by
  rw [read_inOrder_cons] at h
  rcases or_of_read_opt h with h | h
  · obtain ⟨rest, hrest, h⟩ := exists_of_read_text h
    exact ⟨['/'], _, rest, hrest, .inr rfl, h⟩
  · exact ⟨[], _, a.rest, rfl, .inl rfl, h⟩

/-- What is kept of the beginning of a stamp, before `rest` and after the captures `s`: the name of
the package may be read or one directory more. -/
inductive IsFront (package rest : List Char) (s : Captures Field) :
    List Char → Captures Field → Prop where
  | none : IsFront package rest s [] s
  | package : IsFront package rest s (package ++ ['_'])
      (⟨.componentTargetPrefix, package ++ ("_".toList ++ rest), "_".toList ++ rest⟩ :: s)
  | below {subdirectory} (hne : subdirectory ≠ []) : IsFront package rest s subdirectory
      (⟨.componentBuildSubdir, subdirectory ++ rest, rest⟩ :: s)

/-- The beginning of a stamp has neither a dot nor a slash. -/
theorem exists_of_read_front {ps : List (Pattern Field)} (hpackage : IsName package)
    (h : (inOrder (alt (opt (inOrder [capture .componentTargetPrefix (text package), lit "_"]))
      (capture .componentBuildSubdir (several (.noneOf ['.', '/']))) :: ps)).read k a s = some r) :
    ∃ first last rest s', a.rest = first ++ rest ∧ '.' ∉ first ∧ '/' ∉ first ∧
      IsFront package rest s first s' ∧ (inOrder ps).read k ⟨last, rest⟩ s' = some r := by
  obtain ⟨last, cs⟩ := a
  rw [read_inOrder_cons] at h
  rcases or_of_read_alt h with h | h
  · rcases or_of_read_opt h with h | h
    · rw [read_cons_capture] at h
      obtain ⟨rest, hrest, h⟩ := exists_of_read_text h
      obtain ⟨rest, rfl, h⟩ := exists_of_read_cons_lit h
      obtain rfl : cs = package ++ ("_".toList ++ rest) := hrest
      refine ⟨package ++ ['_'], _, rest, _, by simp, ?_, ?_, .package, h⟩
      · simpa using hpackage.not_mem (c := '.') (by decide)
      · simpa using hpackage.not_mem (c := '/') (by decide)
    · exact ⟨[], _, cs, _, rfl, by simp, by simp, .none, h⟩
  · rw [read_capture] at h
    obtain ⟨xs, rest, hrest, hxs, hne, h⟩ := exists_of_read_run h
    obtain rfl : cs = xs ++ rest := hrest
    refine ⟨xs, _, rest, _, rfl, ?_, ?_, .below (hne rfl), h⟩
    · exact fun hmem => absurd (hxs '.' hmem) (by decide)
    · exact fun hmem => absurd (hxs '/' hmem) (by decide)

/-- Up to the end of a stamp in a directory there is no dot, and one slash at most. -/
theorem exists_of_read_stampStart {p : Pattern Field} (hpackage : IsName package)
    (h : (inOrder [alt (opt (inOrder [capture .componentTargetPrefix (text package), lit "_"]))
      (capture .componentBuildSubdir (several (.noneOf ['.', '/']))), opt (lit "/"), p]).read
        k a s = some r) :
    ∃ middle last rest s', a.rest = middle ++ rest ∧ '.' ∉ middle ∧ middle.count '/' ≤ 1 ∧
      p.read k ⟨last, rest⟩ s' = some r := by
  obtain ⟨first, last, rest, s', hfirst, hdot, hcount, -, h⟩ := exists_of_read_front hpackage h
  obtain ⟨slash, last, rest, rfl, hslash, h⟩ := exists_of_read_slash h
  refine ⟨first ++ slash, last, rest, s', by simp [hfirst], ?_, ?_, h⟩
  · rcases hslash with rfl | rfl <;> simp [hdot]
  · rcases hslash with rfl | rfl <;> simp [List.count_eq_zero.2 hcount]

/-- What is matched among the dependencies of a package is an output of its directory, and none of
the package itself. -/
theorem exists_output_of_matchAt?
    (h : (packageDependencyPattern directory package).matchAt? a = some (b, s)) :
    ∃ blanks last rest, IsBlanks blanks ∧ a.rest = blanks ++ (outputPrefix directory ++ rest) ∧
      ¬ package ++ ['.'] <+: rest ∧ (inOrder (stampPatterns package)).read
        (fun b s => some (b, s)) ⟨last, rest⟩ [] = some (b, s) := by
  rw [matchAt?, packageDependencyPattern_eq] at h
  obtain ⟨blanks, rest, hrest, hblanks, -, h⟩ := exists_of_read_cons_run h
  obtain ⟨rest, rfl, h⟩ := exists_of_read_cons_lit h
  rw [read_inOrder_cons] at h
  obtain ⟨rest, rfl, h⟩ := exists_of_read_text h
  rw [read_inOrder_cons] at h
  obtain ⟨hbefore, h⟩ := exists_of_read_notBefore h
  obtain ⟨rest, rfl, h⟩ := exists_of_read_cons_lit h
  refine ⟨blanks, _, rest, hblanks, by simp [hrest, outputPrefix], ?_, h⟩
  rintro ⟨ts, rfl⟩
  exact hbefore ⟨ts, by simp⟩

/-- What is matched among the dependencies of a package is a part with no dot and one slash at most,
and the end of a stamp. -/
theorem exists_of_matchAt?_packageDependency (hpackage : IsName package)
    (h : (packageDependencyPattern directory package).matchAt? a = some (b, s)) :
    ∃ blanks middle word, IsBlanks blanks ∧ '.' ∉ middle ∧ middle.count '/' ≤ 1 ∧
      IsStampEnd word ∧
      a.rest = blanks ++ (outputPrefix directory ++ ((middle ++ word) ++ b.rest)) := by
  obtain ⟨blanks, _, rest, hblanks, hrest, -, h⟩ := exists_output_of_matchAt? h
  obtain ⟨middle, last, rest, s', rfl, hdot, hcount, h⟩ := exists_of_read_stampStart hpackage h
  obtain ⟨word, hword, hend⟩ : ∃ word, IsStampEnd word ∧ rest = word ++ b.rest := by
    rcases or_of_read_alt h with h | h
    · obtain ⟨word, rest, rfl, hword, h⟩ := exists_of_read_nonComponentStamp h
      obtain ⟨rfl, -⟩ : Place.mk _ rest = b ∧ _ := by simpa using h
      exact ⟨word, hword, rfl⟩
    · obtain ⟨xs, rest, rfl, hxs, -, h⟩ := exists_of_read_cons_capture_run h
      have hslash : '/' ∉ xs := fun hmem => absurd (hxs '/' hmem) (by decide)
      rw [read_inOrder_cons] at h
      rcases or_of_read_opt h with h | h
      · obtain ⟨rest, rfl, h⟩ := exists_of_read_text h
        obtain ⟨rest, rfl, h⟩ := exists_of_read_cons_lit h
        obtain ⟨rfl, -⟩ : Place.mk _ rest = b ∧ _ := by simpa using h
        refine ⟨xs ++ (".manifest".toList ++ ".stamp".toList),
          ⟨⟨xs ++ ".manifest".toList, by simp⟩, .inl (by simp [hslash])⟩, by simp⟩
      · obtain ⟨rest, rfl, h⟩ := exists_of_read_cons_lit h
        obtain ⟨rfl, -⟩ : Place.mk _ rest = b ∧ _ := by simpa using h
        exact ⟨xs ++ ".stamp".toList, ⟨List.suffix_append _ _, .inl (by simp [hslash])⟩, by simp⟩
  exact ⟨blanks, middle, word, hblanks, hdot, hcount, hword, by simp [hrest, hend]⟩

/-- Where no dot comes any more before the end of a stamp, no blank comes. -/
theorem IsStampEnd.isVisible_of_suffix {word xs us vs : List Char} (h : IsStampEnd word)
    (hdot : '.' ∉ vs) (hvs : us ++ vs = xs ++ word) : IsVisible vs := by
  obtain ⟨w, rfl⟩ := h.ending
  have hsuffix : vs <:+ (xs ++ w) ++ '.' :: "stamp".toList := ⟨us, by simpa using hvs⟩
  obtain ⟨ts, hts⟩ := Text.suffix_of_suffix_append hdot hsuffix
  have hstamp : IsVisible "stamp".toList := by decide
  exact fun c hc => hstamp c (by simp [← hts, hc])

/-- The end of an index that leads up to a dot in the stamp of a target is the target's own. -/
theorem index_suffix_of_isVisible {middle word us gap ts after rest : List Char}
    (hgap : IsBlanks gap) (hne : gap ≠ []) (hafter : ∀ c ∈ after.head?, Text.isBlank c = true)
    (hdot : '.' ∉ middle) (hvisible : IsVisible word)
    (hindex : "_component_index.stamp".toList <:+ word)
    (h : middle ++ word = (us ++ (gap ++ (outputPrefix directory ++ target))) ++ '.' :: ts)
    (hts : "stamp".toList ++ after = ts ++ rest) : "_component_index".toList <:+ target := by
  obtain ⟨xs, hxs, hword⟩ := Text.exists_append_of_not_mem hdot h
  have hxsVisible : IsVisible xs := fun c hc => hvisible c (by simp [hword, hc])
  -- Nothing but the end of the stamp follows the dot.
  have htsDot : '.' ∉ ts := by
    have hpre : ts <+: "stamp".toList :=
      prefix_of_isVisible (fun c hc => hvisible c (by simp [hword, hc])) hafter ⟨rest, hts.symm⟩
    exact fun hmem => absurd (hpre.subset hmem) (by decide)
  obtain ⟨w, hw⟩ := hindex
  have hlast : (w ++ "_component_index".toList) ++ '.' :: "stamp".toList = xs ++ '.' :: ts := by
    rw [← hword, ← hw]
    simp
  obtain ⟨rfl, -⟩ := Text.append_inj_of_last (by decide) htsDot hlast
  -- What comes before the dot begins after the blank.
  obtain ⟨gs, g, rfl⟩ : ∃ gs g, gap = gs ++ [g] :=
    ⟨gap.dropLast, gap.getLast hne, (List.dropLast_append_getLast hne).symm⟩
  have hgvisible : g ∉ w ++ "_component_index".toList := by
    intro hmem
    have hg : Text.isBlank g = true := hgap g (by simp)
    simp [hxsVisible g hmem] at hg
  have hafterBlank : w ++ "_component_index".toList <:+ outputPrefix directory ++ target := by
    have hsuffix : w ++ "_component_index".toList <:+
        (us ++ gs) ++ g :: (outputPrefix directory ++ target) :=
      ⟨middle, by simpa using hxs.symm⟩
    exact Text.suffix_of_suffix_append hgvisible hsuffix
  have hsuffix : "_component_index".toList <:+ ("obj/".toList ++ directory) ++ '/' :: target := by
    refine (List.suffix_append w _).trans ?_
    simpa [outputPrefix] using hafterBlank
  exact Text.suffix_of_suffix_append (by decide) hsuffix

/-- The end of a stamp that is read from before the blanks in front of the stamp of a component does
not lead across them. -/
theorem length_le_of_isStampEnd (hdirectory : IsDirectory directory)
    (htarget : IsComponentName target) (d : Dependencies directory target)
    {ys zs us middle word rest : List Char} (hsplit : d.before = ys ++ zs) (hzs : zs ≠ [])
    (hdot : '.' ∉ middle) (hcount : middle.count '/' ≤ 1) (hword : IsStampEnd word)
    (hread : (middle ++ word) ++ rest = us ++ d.fromGap) : d.fromGap.length ≤ rest.length := by
  obtain ⟨g, gs, hgap, hg⟩ := d.exists_gap_of_before_eq hsplit hzs
  by_contra hlength
  obtain ⟨vs, hvs, hfrom⟩ : ∃ vs, middle ++ word = us ++ vs ∧ d.fromGap = vs ++ rest := by
    rcases List.append_eq_append_iff.1 hread with ⟨ts, -, hts⟩ | hinto
    · rw [hts, List.length_append] at hlength
      omega
    · exact hinto
  -- The end of the stamp comes after the dot of the component's stamp.
  have hvsDot : '.' ∈ vs := by
    by_contra hno
    have hvisible : IsVisible vs := hword.isVisible_of_suffix hno hvs.symm
    cases vs with
    | nil => simp [hfrom] at hlength
    | cons v vs =>
      obtain ⟨rfl, -⟩ : g = v ∧ _ := by simpa [Dependencies.fromGap, hgap] using hfrom
      simp [hvisible g (by simp)] at hg
  have hnoDot : '.' ∉ d.gap ++ (outputPrefix directory ++ target) := by
    have hgapDot : '.' ∉ d.gap := fun hmem => absurd (d.gap_blank '.' hmem) (by decide)
    have hdirectoryDot : '.' ∉ directory := hdirectory.not_mem (by decide) (by decide)
    have htargetDot : '.' ∉ target := htarget.name.not_mem (by decide)
    simp [outputPrefix, hgapDot, hdirectoryDot, htargetDot]
  have hstamp : vs ++ rest = (d.gap ++ (outputPrefix directory ++ target)) ++ '.' ::
      ("stamp".toList ++ d.after) := by
    rw [← hfrom]
    simp [Dependencies.fromGap, Dependencies.stamp]
  obtain ⟨ts, rfl, hts⟩ := Text.exists_append_of_mem hnoDot hvsDot hstamp
  rcases hword.within with hslash | ⟨hvisible, hindex⟩
  · -- There would be too many slashes.
    have hslashes := congrArg (List.count '/') hvs
    simp only [List.count_append, List.count_eq_zero.2 hslash, outputPrefix] at hslashes
    have hobj : "obj/".toList.count '/' = 1 := by decide
    have hone : ['/'].count '/' = 1 := by decide
    omega
  · refine htarget.not_index ?_
    have hne : d.gap ≠ [] := by simp [hgap]
    have hvs' : middle ++ word =
        (us ++ (d.gap ++ (outputPrefix directory ++ target))) ++ '.' :: ts := by
      rw [hvs, ← List.append_assoc]
    exact index_suffix_of_isVisible d.gap_blank hne d.after_apart hdot hvisible hindex hvs' hts

end Matches

section Targets

variable {directory package target : List Char}

/-- What is made of the stamp of a target is among what is made of all the dependencies. -/
theorem mem_dependencyTargets_of_match {end_ : Option Char} {s : Captures Field}
    {component : List Char} (hdirectory : IsDirectory directory) (hpackage : IsName package)
    (h : IsComponentName target) (d : Dependencies directory target)
    (hmatch : (packageDependencyPattern directory package).matchAt?
      ⟨lastAfter none d.before, d.fromGap⟩ = some (⟨end_, d.after⟩, s))
    (hs : PackageAssembly.dependencyTarget? s = some component) :
    component ∈ PackageAssembly.dependencyTargets directory package d.text := by
  have hends : ∀ ys zs, d.before = ys ++ zs → zs ≠ [] → ∀ last b s,
      (packageDependencyPattern directory package).matchAt? ⟨last, zs ++ d.fromGap⟩ =
        some (b, s) → d.fromGap.length ≤ b.rest.length := by
    intro ys zs hsplit hzs last b s hb
    obtain ⟨blanks, middle, word, hblanks, hdot, hcount, hword, hrest⟩ :=
      exists_of_matchAt?_packageDependency hpackage hb
    obtain ⟨us, -, hus⟩ := d.exists_of_output hdirectory hsplit hzs hblanks hrest
    exact length_le_of_isStampEnd hdirectory h d hsplit hzs hdot hcount hword hus
  obtain ⟨m, hm, hcaptures⟩ := d.exists_scan_eq hends hmatch
  exact List.mem_filterMap.2 ⟨m, hm, hcaptures ▸ hs⟩

/-- A list of dependencies with the stamp of a component names the component. -/
theorem mem_dependencyTargets_text (hdirectory : IsDirectory directory) (hpackage : IsName package)
    (h : IsComponentOf package target) (d : Dependencies directory target) :
    target ∈ PackageAssembly.dependencyTargets directory package d.text := by
  exact mem_dependencyTargets_of_match hdirectory hpackage h.isComponentName d
    (matchAt?_packageDependency hpackage h d _) (dependencyTarget?_of_target h.name.1 _)

end Targets

/-- The archive of a package, below the directory of outputs. -/
def archivePath (directory package : List Char) : List Char :=
  directory ++ ("/".toList ++ (package ++ "/meta.far".toList))

theorem matchText?_assemblyPattern {directory package : List Char} {s : Captures Field}
    (f : BuildForm) (hdirectory : IsDirectory directory) (hpackage : IsName package)
    (hs : buildTrailer.read (fun _ s' => some s') ⟨some 'r', f.tail.text⟩
      [⟨.packageTarget, package ++ ("/meta.far".toList ++ f.tail.text),
          "/meta.far".toList ++ f.tail.text⟩,
        ⟨.targetBuildDir, directory ++ ("/".toList ++ (package ++ ("/meta.far".toList ++
            f.tail.text))), "/".toList ++ (package ++ ("/meta.far".toList ++ f.tail.text))⟩] =
      some s) :
    assemblyPattern.matchText? (f.text (archivePath directory package)) = some s := by
  have hending : "/meta.far".toList = "/meta".toList ++ '.' :: "far".toList := by decide
  rw [matchText?_eq, assemblyPattern]
  refine f.read_text ?_
  simp only [archivePath, List.append_assoc]
  exact read_directory_name hdirectory hpackage hending (by decide) (by simp; decide) rfl hs

/-- A build statement for the archive of a package says that the package holds the components that
the dependencies name. -/
theorem assembly_archive {directory package : List Char} (f : BuildForm)
    (hdirectory : IsDirectory directory) (hpackage : IsName package) :
    PackageAssembly.ofStatement? (f.text (archivePath directory package)) = some
      ⟨String.ofList directory, String.ofList package,
        (PackageAssembly.dependencyTargets directory package f.tail.dependencies).map
          String.ofList⟩ := by
  obtain ⟨s, hs, hdependencies, hkept⟩ := exists_read_buildTrailer f.tail (some 'r')
    [⟨.packageTarget, package ++ ("/meta.far".toList ++ f.tail.text), "/meta.far".toList ++
        f.tail.text⟩,
      ⟨.targetBuildDir, directory ++ ("/".toList ++ (package ++ ("/meta.far".toList ++
        f.tail.text))), "/".toList ++ (package ++ ("/meta.far".toList ++ f.tail.text))⟩]
  have hdirectory' : s.get .targetBuildDir = directory := by
    simp [Captures.get, hkept]
  have hpackage' : s.get .packageTarget = package := by
    simp [Captures.get, hkept]
  rw [PackageAssembly.ofStatement?, matchText?_assemblyPattern f hdirectory hpackage hs,
    Option.map_some, keptText, keptText, hdirectory', hpackage', Captures.get, hdependencies,
    Option.getD_some]

theorem ofStatement?_archive {directory package target : List Char}
    (f : DependentBuild directory target) (hdirectory : IsDirectory directory)
    (hpackage : IsName package) :
    Recognized.ofStatement? (f.text (archivePath directory package)) = some (.packageAssembly
      ⟨String.ofList directory, String.ofList package,
        (PackageAssembly.dependencyTargets directory package f.dependencies.text).map
          String.ofList⟩) := by
  have hshape := assembly_archive f.toBuildForm hdirectory hpackage
  rw [f.dependencies_eq] at hshape
  simp [Recognized.ofStatement?, Shape.all, Recognized.inShape?, hshape]

end ComponentLinks.Statement
