import ComponentLinks.Proofs.Pattern.Words
import ComponentLinks.Proofs.Statement.Assembly

/-!
# Stamps among the dependencies of a package

What is read of a stamp after the directory of the package. A stamp that never names a component is
read up to its end or to a place before it, although one of its forms goes on up to the next slash:
the dependency that follows has a slash before it has the end of a stamp.

## Main definitions

* `Statement.IsApart`: the texts that no reading of a stamp leads into.
* `Statement.IsNonComponent`: the ends of stamps that never name a component.
* `Statement.IsNonComponent.exists_read_stampPatterns`: how far such a stamp is read.
* `Statement.read_stampPatterns_of_package`, `Statement.read_stampPatterns_below`: a stamp with the
  name of the package in front, and one a directory down.
-/
namespace ComponentLinks.Statement

open Pattern

/-- Whether a text is made of names and dots. -/
def IsDottedName (cs : List Char) : Prop := cs ≠ [] ∧ ∀ c ∈ cs, Text.isName c = true ∨ c = '.'

instance (cs : List Char) : Decidable (IsDottedName cs) := inferInstanceAs (Decidable (_ ∧ _))

/-- What a stamp that is read up to the end of a dependency cannot lead into: a text that goes on
with a blank, and that has a slash before it has the end of a stamp. -/
structure IsApart (rest : List Char) : Prop where
  blank : ∀ c ∈ rest.head?, Text.isBlank c = true
  slash : ∀ xs ys, rest = xs ++ (".stamp".toList ++ ys) → '/' ∈ xs

theorem isApart_of_slashes {rest : List Char} (hblank : ∀ c ∈ rest.head?, Text.isBlank c = true)
    (h : ∀ w ∈ Text.words rest, ∀ xs ys, w = xs ++ (".stamp".toList ++ ys) → '/' ∈ xs) :
    IsApart rest := by
  refine ⟨hblank, ?_⟩
  rintro xs ys rfl
  have hstamp : IsVisible ".stamp".toList := by decide
  obtain ⟨before, xs', ys', after, rfl, rfl, -, hwords⟩ :=
    Text.exists_word_around (by simp) hstamp xs ys
  have hmem : xs' ++ (".stamp".toList ++ ys') ∈ Text.words (before ++ xs' ++ (".stamp".toList ++
      (ys' ++ after))) := by
    rw [hwords]
    exact List.mem_append_right _ List.mem_cons_self
  exact List.mem_append_right before (h _ hmem xs' ys' rfl)

theorem isApart_of_words {rest : List Char} (hblank : ∀ c ∈ rest.head?, Text.isBlank c = true)
    (h : ∀ w ∈ Text.words rest, ∃ xs ys, w = xs ++ '/' :: ys ∧ ¬ ".stamp".toList <:+: xs) :
    IsApart rest := by
  refine isApart_of_slashes hblank fun w hw us vs hsplit => ?_
  obtain ⟨xs, ys, rfl, hxs⟩ := h w hw
  -- Otherwise the end of the stamp would stand before the first slash.
  by_contra hslash
  have hpre : us ++ ".stamp".toList <+: xs ++ '/' :: ys := ⟨vs, by simpa using hsplit.symm⟩
  obtain ⟨ts, hts⟩ := Text.prefix_of_prefix_append (by simp [hslash]) hpre
  exact hxs ⟨us, ts, hts⟩

/-! ## Stamps that never name a component -/

/-- The ends of stamps that never name a component. -/
inductive IsNonComponent : List Char → Prop where
  | manifest : IsNonComponent "manifest.stamp".toList
  | metadata : IsNonComponent "metadata.stamp".toList
  | validation {name} (h : IsDottedName name) :
    IsNonComponent ("validate_manifests".toList ++ (name ++ ".stamp".toList))
  | index {name} (h : IsDottedName name) :
    IsNonComponent (name ++ "_component_index.stamp".toList)

theorem IsDottedName.isVisible {cs : List Char} (h : IsDottedName cs) : IsVisible cs := by
  intro c hc
  rcases h.2 c hc with hname | rfl
  · exact Text.isBlank_eq_false_of_isName hname
  · decide

theorem IsDottedName.slash_not_mem {cs : List Char} (h : IsDottedName cs) : '/' ∉ cs := by
  intro hmem
  rcases h.2 '/' hmem with hname | hdot
  · exact absurd hname (by decide)
  · simp at hdot

section NonComponent

variable {α : Type} {k : Place → Captures Field → Option α} {last : Option Char}
  {s : Captures Field} {word rest : List Char}

theorem IsNonComponent.slash_not_mem (h : IsNonComponent word) : '/' ∉ word := by
  cases h with
  | manifest | metadata => decide
  | validation h | index h => simp [h.slash_not_mem]

theorem IsNonComponent.ne_nil (h : IsNonComponent word) : word ≠ [] := by
  cases h <;> simp

theorem IsNonComponent.isVisible (h : IsNonComponent word) : IsVisible word := by
  cases h with
  | manifest | metadata => decide
  | validation h =>
    exact IsVisible.append (by decide) (h.isVisible.append (by decide))
  | index h => exact h.isVisible.append (by decide)

theorem IsNonComponent.isSome_read (h : IsNonComponent word) (hk : ∀ b s, (k b s).isSome) :
    (nonComponentStamp.read k ⟨last, word ++ rest⟩ s).isSome := by
  cases h with
  | manifest => exact isSome_read_alt (.inl (by rw [read_lit_append]; exact hk _ _))
  | metadata =>
    exact isSome_read_alt (.inr (isSome_read_alt (.inl (by rw [read_lit_append]; exact hk _ _))))
  | validation h =>
    refine isSome_read_alt (.inr (isSome_read_alt (.inr (isSome_read_alt (.inl ?_)))))
    rw [List.append_assoc, read_cons_lit, List.append_assoc, read_inOrder_cons]
    refine isSome_read_run ?_ (by simp [h.1]) ?_
    · intro c hc
      have : c ≠ '/' := fun heq => h.slash_not_mem (heq ▸ hc)
      simp [CharClass.has, this]
    · rw [read_cons_lit]
      simpa using hk _ _
  | index h =>
    refine isSome_read_alt (.inr (isSome_read_alt (.inr (isSome_read_alt (.inr ?_)))))
    rw [List.append_assoc, read_inOrder_cons]
    refine isSome_read_run ?_ (by simp [h.1]) ?_
    · exact fun c hc => by simpa [CharClass.has] using h.isVisible c hc
    · rw [read_cons_lit]
      simpa using hk _ _

/-- A stamp that never names a component is read up to its end or to a place before it, and not into
what comes after. -/
theorem IsNonComponent.exists_read (h : IsNonComponent word) (hrest : IsApart rest)
    (last : Option Char) (s : Captures Field) :
    ∃ xs ys end_, word = xs ++ ys ∧ nonComponentStamp.read (fun b s => some (b, s))
      ⟨last, word ++ rest⟩ s = some (⟨end_, ys ++ rest⟩, s) := by
  have hsome : (nonComponentStamp.read (fun b s => some (b, s)) ⟨last, word ++ rest⟩ s).isSome :=
    h.isSome_read fun _ _ => rfl
  obtain ⟨r, hr⟩ := Option.isSome_iff_exists.1 hsome
  obtain ⟨xs, zs, hsplit, hend, heq⟩ := exists_of_read_nonComponentStamp hr
  obtain rfl : _ = r := by simpa using heq
  suffices hpre : xs <+: word by
    obtain ⟨ys, rfl⟩ := hpre
    obtain rfl : ys ++ rest = zs := by simpa using hsplit
    exact ⟨xs, ys, _, rfl, hr⟩
  rcases hend.within with hslash | ⟨hvisible, -⟩
  · rcases List.append_eq_append_iff.1 hsplit with ⟨us, rfl, hus⟩ | ⟨us, rfl, -⟩
    · -- What is read after the word would hold the end of a stamp before a slash.
      cases us with
      | nil => simp
      | cons u us =>
        have hu : Text.isBlank u = true := hrest.blank u (by simp [hus])
        have hstamp : ".stamp".toList <:+ us :=
          Text.suffix_of_suffix_append (c := u)
            (fun hmem => by
              have hvisible : IsVisible ".stamp".toList := by decide
              simp [hvisible u hmem] at hu) hend.ending
        obtain ⟨ts, rfl⟩ := hstamp
        have := hrest.slash (u :: ts) zs (by simp [hus])
        simp_all
    · exact List.prefix_append _ _
  · exact prefix_of_isVisible hvisible hrest.blank ⟨zs, hsplit.symm⟩

end NonComponent

/-! ## Stamps of targets -/

section Read

variable {α : Type} {k : Place → Captures Field → Option α} {last : Option Char}
  {s : Captures Field} {r : α} {package word : List Char}

/-- The name of the package is read where it stands in front. -/
theorem read_stampPatterns_of_package (hslash : ∀ c ∈ word.head?, c ≠ '/')
    (hr : (alt nonComponentStamp targetStamp).read k ⟨some '_', word⟩
      (⟨.componentTargetPrefix, package ++ '_' :: word, '_' :: word⟩ :: s) = some r) :
    (inOrder (stampPatterns package)).read k ⟨last, package ++ '_' :: word⟩ s = some r := by
  rw [stampPatterns, read_inOrder_cons]
  refine read_alt_of_some (read_opt_of_some ?_)
  rw [read_cons_capture, read_text_append, show '_' :: word = "_".toList ++ word by rfl,
    read_cons_lit, read_inOrder_nil, read_slash_of_ne hslash]
  simpa using hr

variable {subdirectory name ending after : List Char}

/-- Where a directory comes after it, a name is not read as that of a target. -/
theorem read_stampEnd_below_eq_none (hname : IsComponentName name)
    (hsubdirectory : IsName subdirectory) (hending : ending ∈ stampEndings)
    (hafter : ∀ c ∈ after.head?, Text.isBlank c = true) :
    (alt nonComponentStamp targetStamp).read k
      ⟨last, subdirectory ++ '/' :: (name ++ (ending ++ after))⟩ s = none := by
  refine read_alt_eq_none ?_ ?_
  · have h : nonComponentStamp.read k
        ⟨last, (subdirectory ++ '/' :: name) ++ (ending ++ after)⟩ s = none :=
      read_nonComponentStamp_eq_none (hname.isPlainStart_below hsubdirectory) hending hafter
    simpa using h
  · by_contra hsome
    obtain ⟨r, hr⟩ := Option.ne_none_iff_exists'.1 hsome
    obtain ⟨xs, rest, hrest, hxs, -, hr⟩ := exists_of_read_cons_capture_run hr
    obtain ⟨zs, rfl⟩ : ∃ zs, rest = '.' :: zs := by
      rw [read_inOrder_cons] at hr
      rcases or_of_read_opt hr with hr | hr
      · obtain ⟨zs, rfl, -⟩ := exists_of_read_text hr
        exact ⟨_, rfl⟩
      · obtain ⟨zs, rfl, -⟩ := exists_of_read_cons_lit hr
        exact ⟨_, rfl⟩
    -- The dot would come before the slash.
    have hslash : '/' ∉ xs ++ ['.'] := by
      have : '/' ∉ xs := fun hmem => absurd (hxs '/' hmem) (by decide)
      simp [this]
    have hpre : xs ++ ['.'] <+: subdirectory ++ '/' :: (name ++ (ending ++ after)) :=
      ⟨zs, by simpa using hrest.symm⟩
    exact hsubdirectory.not_mem (c := '.') (by decide)
      ((Text.prefix_of_prefix_append hslash hpre).subset (by simp))

/-- One directory down, the stamp of a target is read with the directory. -/
theorem read_stampPatterns_below (hpackage : IsName package) (hname : IsComponentName name)
    (hsubdirectory : IsName subdirectory) (hne : subdirectory ≠ package ++ ['_'])
    (hending : ending ∈ stampEndings) (hafter : ∀ c ∈ after.head?, Text.isBlank c = true) :
    (inOrder (stampPatterns package)).read (fun b s => some (b, s))
      ⟨last, subdirectory ++ '/' :: (name ++ (ending ++ after))⟩ [] =
        some (⟨some 'p', after⟩, [⟨.componentTarget, name ++ (ending ++ after), ending ++ after⟩,
          ⟨.componentBuildSubdir, subdirectory ++ '/' :: (name ++ (ending ++ after)),
            '/' :: (name ++ (ending ++ after))⟩]) := by
  rw [stampPatterns, read_inOrder_cons, read_alt_of_none]
  · rw [read_capture]
    refine read_run_longest_of_stop ?_ (by simp [hsubdirectory.1]) (by simp; decide) ?_
    · intro c hc
      have hdot : c ≠ '.' := fun heq => hsubdirectory.not_mem (c := '.') (by decide) (heq ▸ hc)
      have hslash : c ≠ '/' := fun heq => hsubdirectory.not_mem (c := '/') (by decide) (heq ▸ hc)
      simp [CharClass.has, hdot, hslash]
    · rw [read_inOrder_cons]
      refine read_opt_of_some ?_
      rw [show '/' :: (name ++ (ending ++ after)) = "/".toList ++ (name ++ (ending ++ after)) by
        rfl, read_lit_append]
      exact read_stampEnd_of_isComponentName hname hending hafter
  · by_contra hsome
    obtain ⟨r, hr⟩ := Option.ne_none_iff_exists'.1 hsome
    -- A name after that of the package is followed by the directory, too.
    obtain ⟨us, last', s', hus, hread⟩ : ∃ us last' s', IsName us ∧
        (inOrder [opt (lit "/"), alt nonComponentStamp targetStamp]).read
          (fun b s => some (b, s)) ⟨last', us ++ '/' :: (name ++ (ending ++ after))⟩ s' =
            some r := by
      rcases or_of_read_opt hr with hr | hr
      · rw [read_cons_capture] at hr
        obtain ⟨rest, hrest, hr⟩ := exists_of_read_text hr
        obtain ⟨rest, rfl, hr⟩ := exists_of_read_cons_lit hr
        have hslash : '/' ∉ package ++ ['_'] := by
          simpa using hpackage.not_mem (c := '/') (by decide)
        have hpre : package ++ ['_'] <+: subdirectory ++ '/' :: (name ++ (ending ++ after)) :=
          ⟨rest, by simpa using hrest.symm⟩
        obtain ⟨us, rfl⟩ := Text.prefix_of_prefix_append hslash hpre
        have hus : us ≠ [] := fun heq => hne (by simp [heq])
        obtain rfl : us ++ '/' :: (name ++ (ending ++ after)) = rest := by simpa using hrest
        rw [read_inOrder_nil] at hr
        exact ⟨us, _, _, ⟨hus, fun c hc => hsubdirectory.2 c (by simp [hc])⟩, hr⟩
      · exact ⟨subdirectory, _, _, hsubdirectory, hr⟩
    rw [read_slash_of_ne hus.head_ne_slash,
      read_stampEnd_below_eq_none hname hus hending hafter] at hread
    simp at hread

/-- A stamp that never names a component is read, whether or not the name of the package is in
front. -/
theorem IsNonComponent.exists_read_stampPatterns (h : IsNonComponent word) (hrest : IsApart rest)
    {front : List Char}
    (hfront : front = package ++ ['_'] ∨ front = [] ∧ ¬ package ++ ['_'] <+: word ++ rest) :
    ∃ xs ys end_ s, word = xs ++ ys ∧ (inOrder (stampPatterns package)).read
        (fun b s => some (b, s)) ⟨some '/', front ++ (word ++ rest)⟩ [] =
          some (⟨end_, ys ++ rest⟩, s) ∧
      PackageAssembly.dependencyTarget? s = none := by
  have hhead : ∀ c ∈ (word ++ rest).head?, c ≠ '/' := by
    obtain ⟨c, cs, hword⟩ := List.exists_cons_of_ne_nil h.ne_nil
    rintro d hd rfl
    obtain rfl : c = '/' := by simpa [hword] using hd
    exact h.slash_not_mem (by simp [hword])
  rcases hfront with rfl | ⟨rfl, hpre⟩
  · obtain ⟨xs, ys, end_, hword, hread⟩ := h.exists_read hrest (some '_')
      [⟨.componentTargetPrefix, package ++ '_' :: (word ++ rest), '_' :: (word ++ rest)⟩]
    have hstamp : (inOrder (stampPatterns package)).read (fun b s => some (b, s))
        ⟨some '/', package ++ '_' :: (word ++ rest)⟩ [] = _ :=
      read_stampPatterns_of_package hhead (read_alt_of_some hread)
    exact ⟨xs, ys, end_, _, hword, by simpa using hstamp,
      by simp [PackageAssembly.dependencyTarget?]⟩
  · obtain ⟨xs, ys, end_, hword, hread⟩ := h.exists_read hrest (some '/') []
    exact ⟨xs, ys, end_, [], hword,
      read_stampPatterns_of_not_isPrefix hpre hhead (read_alt_of_some hread), rfl⟩

end Read

/-! ## Stamps of indexes -/

section Index

variable {package name word : List Char}

/-- Where an underscore stands in the ending of an index. -/
theorem eq_nil_or_of_index_eq {us : List Char}
    (h : us ++ '_' :: word = "_component_index.stamp".toList) :
    us = [] ∧ word = "component_index.stamp".toList ∨ us = "_component".toList := by
  have hplaces : ∀ n < 22, "_component_index.stamp".toList[n]? = some '_' → n = 0 ∨ n = 10 := by
    decide
  have hlength : us.length < 22 := by
    have := congrArg List.length h
    simp only [List.length_append, List.length_cons] at this
    have hindex : "_component_index.stamp".toList.length = 22 := by decide
    omega
  have hus : us = "_component_index.stamp".toList.take us.length := by simp [← h]
  rcases hplaces us.length hlength (by simp [← h]) with hzero | hten
  · obtain rfl : us = [] := List.eq_nil_of_length_eq_zero hzero
    exact .inl ⟨rfl, by simpa using h⟩
  · rw [hten] at hus
    exact .inr hus

/-- The ways in which the stamp of an index begins with the name of the package. -/
theorem or_of_index_eq_append (h : name ++ "_component_index.stamp".toList = package ++ '_' :: word)
    (hne : name ≠ package ++ ['_']) :
    word = "component_index.stamp".toList ∨
      (∃ more, more ≠ [] ∧ more <:+ name ∧ word = more ++ "_component_index.stamp".toList) ∨
      package = name ++ "_component".toList := by
  have hsplit : (package ++ ['_']) ++ word = name ++ "_component_index.stamp".toList := by
    simpa using h.symm
  rcases List.append_eq_append_iff.1 hsplit with ⟨us, rfl, hus⟩ | ⟨us, hus, hword⟩
  · refine .inr (.inl ⟨us, ?_, List.suffix_append _ _, hus⟩)
    rintro rfl
    simp at hne
  · -- The underscore after the package belongs to the ending of the index.
    rcases List.eq_nil_or_concat us with rfl | ⟨us, c, rfl⟩
    · simp [hus] at hne
    · rw [List.concat_eq_append, ← List.append_assoc] at hus
      obtain ⟨rfl, hc⟩ := List.append_inj' hus rfl
      obtain rfl : '_' = c := by simpa using hc
      have hindex : us ++ '_' :: word = "_component_index.stamp".toList := by
        simpa using hword.symm
      rcases eq_nil_or_of_index_eq hindex with ⟨-, rfl⟩ | rfl
      · exact .inl rfl
      · exact .inr (.inr rfl)

end Index

end ComponentLinks.Statement
