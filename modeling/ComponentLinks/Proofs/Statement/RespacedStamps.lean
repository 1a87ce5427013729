import ComponentLinks.Proofs.Pattern.SingleBlanks
import ComponentLinks.Proofs.Statement.Assembly
import ComponentLinks.Proofs.Statement.Parts
import ComponentLinks.Proofs.Statement.Respaced

/-!
# Dependencies that differ in their blanks

The stamps among two lists of dependencies name the same targets, up to the blanks in them, where
the lists differ in their blanks only.

A subdirectory may begin with a blank, and so may the stamp after it. This cannot be seen from the
stamps that are found: a stamp right after a subdirectory would have been found without it.

## Main definitions

* `Statement.splitStampPattern`: what is read of a stamp, with a slash after the subdirectory.
* `Statement.read_stampPatterns_split`: it is read the same.
* `Statement.packageTargets_alike`, `Statement.partTargets_alike`: the targets that are named.
-/
namespace ComponentLinks.Statement

open Pattern Text Place

variable {directory package component : List Char}

/-! ## Stamps of a package -/

/-- What is read of a stamp among the dependencies after its directory: the name of the package
may stand in front, or one directory more with a slash after it. -/
def splitStampPattern (package : List Char) : Pattern Field :=
  alt
    (inOrder
      [opt (inOrder [capture .componentTargetPrefix (text package), lit "_"]), opt (lit "/"),
       alt nonComponentStamp targetStamp])
    (inOrder
      [capture .componentBuildSubdir (several (.noneOf ['.', '/'])),
       alt (inOrder [lit "/", alt nonComponentStamp targetStamp]) nonComponentStamp])

def splitDependencyPattern (directory package : List Char) : Pattern Field :=
  inOrder [many .blank, lit "obj/", text directory, notBefore ('/' :: package ++ ['.']), lit "/",
    splitStampPattern package]

section Stamps

variable {α : Type} {k : Place → Captures Field → Option α} {a : Place} {s : Captures Field} {r : α}
  {last : Option Char}

theorem exists_of_read_targetStamp (h : targetStamp.read k a s = some r) :
    ∃ name ending rest, a.rest = name ++ (ending ++ rest) ∧ name ≠ [] ∧ '/' ∉ name ∧
      ending ∈ stampEndings := by
  obtain ⟨name, rest, hrest, hname, hne, h⟩ := exists_of_read_cons_capture_run h
  have hslash : '/' ∉ name := fun hmem => absurd (hname '/' hmem) (by decide)
  rw [read_inOrder_cons] at h
  rcases or_of_read_opt h with h | h
  · obtain ⟨rest, rfl, h⟩ := exists_of_read_text h
    obtain ⟨rest, rfl, -⟩ := exists_of_read_cons_lit h
    exact ⟨name, ".manifest.stamp".toList, rest, by simp [hrest], hne rfl, hslash,
      by simp [stampEndings]⟩
  · obtain ⟨rest, rfl, -⟩ := exists_of_read_cons_lit h
    exact ⟨name, ".stamp".toList, rest, hrest, hne rfl, hslash, by simp [stampEndings]⟩

theorem isSome_read_targetStamp {name ending rest : List Char} (hne : name ≠ [])
    (hslash : '/' ∉ name) (hending : ending ∈ stampEndings) (hk : ∀ b s, (k b s).isSome) :
    (targetStamp.read k ⟨last, name ++ (ending ++ rest)⟩ s).isSome := by
  rw [targetStamp, read_inOrder_cons, read_capture]
  refine isSome_read_run ?_ (fun _ => hne) ?_
  · intro c hc
    have : c ≠ '/' := by
      rintro rfl
      exact hslash hc
    simpa [CharClass.has] using this
  · rw [read_inOrder_cons, read_opt_eq_or, Option.isSome_or, Bool.or_eq_true]
    simp only [stampEndings, List.mem_cons, List.not_mem_nil, or_false] at hending
    rcases hending with rfl | rfl
    · refine .inr ?_
      rw [read_cons_lit, read_inOrder_nil]
      exact hk _ _
    · refine .inl ?_
      have hsplit : ".manifest.stamp".toList ++ rest =
          ".manifest".toList ++ (".stamp".toList ++ rest) := by simp
      rw [hsplit, read_lit_append, read_cons_lit, read_inOrder_nil]
      exact hk _ _

/-- A stamp of a target right after a subdirectory would be one without the subdirectory. -/
theorem targetStamp_eq_none_of_append {x rest : List Char} {last' : Option Char}
    {s' : Captures Field} (hx : '/' ∉ x) (hk : ∀ b s, (k b s).isSome)
    (h : targetStamp.read k ⟨last, x ++ rest⟩ s = none) :
    targetStamp.read k ⟨last', rest⟩ s' = none := by
  by_contra hsome
  obtain ⟨r, hr⟩ := Option.ne_none_iff_exists'.1 hsome
  obtain ⟨name, ending, after, hrest, hne, hslash, hending⟩ := exists_of_read_targetStamp hr
  simp only at hrest
  have hfound : (targetStamp.read k ⟨last, (x ++ name) ++ (ending ++ after)⟩ s).isSome :=
    isSome_read_targetStamp (List.append_ne_nil_of_right_ne_nil x hne) (by simp [hx, hslash])
      hending hk
  rw [List.append_assoc, ← hrest, h] at hfound
  simp at hfound

/-- A stamp is read the same with a slash after its subdirectory. -/
theorem read_stampPatterns_split (package : List Char) (hk : ∀ b s, (k b s).isSome) (a : Place)
    (s : Captures Field) :
    (inOrder (stampPatterns package)).read k a s = (splitStampPattern package).read k a s := by
  have htail : ∀ (b : Place) (s : Captures Field),
      (inOrder [opt (lit "/"), alt nonComponentStamp targetStamp]).read k b s =
        ((inOrder [lit "/", alt nonComponentStamp targetStamp]).read k b s).or
          ((nonComponentStamp.read k b s).or (targetStamp.read k b s)) := by
    intro b s
    rw [read_inOrder_cons, read_opt_eq_or, read_inOrder_cons]
    congr 1
    exact read_alt_eq_or ..
  rw [stampPatterns, splitStampPattern, read_inOrder_cons, read_alt_eq_or, read_alt_eq_or,
    read_inOrder_cons]
  cases hfirst : (opt (inOrder [capture .componentTargetPrefix (text package), lit "_"])).read
      (fun b s => (inOrder [opt (lit "/"), alt nonComponentStamp targetStamp]).read k b s) a s with
  | some r => rfl
  | none =>
    -- Then no target is read without the subdirectory.
    have hnone : targetStamp.read k a s = none := by
      rw [read_opt_eq_or, Option.or_eq_none_iff, htail] at hfirst
      simp only [Option.or_eq_none_iff] at hfirst
      exact hfirst.2.2.2
    obtain ⟨last, cs⟩ := a
    rw [Option.none_or, Option.none_or, read_inOrder_cons, read_capture, read_capture]
    refine read_several_congr fun x rest hrest hx => ?_
    have hslash : '/' ∉ x := fun hmem => absurd (hx '/' hmem) (by decide)
    rw [hrest] at hnone
    have hlater : ∀ last s, targetStamp.read k ⟨last, rest⟩ s = none :=
      fun _ _ => targetStamp_eq_none_of_append hslash hk hnone
    rw [htail, hlater, Option.or_none]
    exact (read_alt_eq_or ..).symm

theorem matchAt?_dependency_split (directory package : List Char) (a : Place) :
    (packageDependencyPattern directory package).matchAt? a =
      (splitDependencyPattern directory package).matchAt? a := by
  have hfront : packageDependencyPattern directory package =
      inOrder ([many .blank, lit "obj/", text directory, notBefore ('/' :: package ++ ['.']),
        lit "/"] ++ stampPatterns package) := rfl
  have hfront' : splitDependencyPattern directory package =
      inOrder ([many .blank, lit "obj/", text directory, notBefore ('/' :: package ++ ['.']),
        lit "/"] ++ [splitStampPattern package]) := rfl
  rw [matchAt?, matchAt?, hfront, hfront', read_inOrder_append, read_inOrder_append]
  simp only [read_stampPatterns_split package (k := fun b s => some (b, s)) (by simp)]
  rfl

theorem ignoresSpacing_splitStamp (hpackage : IsVisible package) (solid : Bool) :
    (splitStampPattern package).ignoresSpacing isUnrecorded solid false = true := by
  refine ignoresSpacing_alt ?_ (ignoresSpacing_seq rfl (ignoresSpacing_alt ?_ ?_))
  · refine ignoresSpacing_seq (ignoresSpacing_seq ?_ rfl) (ignoresSpacing_seq rfl ?_)
    · exact Bool.and_eq_true_iff.2 ⟨ignoresSpacing_text hpackage, rfl⟩
    · rfl
  · rfl
  · rfl

theorem ignoresSpacing_splitDependency (hdirectory : IsVisible directory)
    (hpackage : IsVisible package) :
    (splitDependencyPattern directory package).ignoresSpacing isUnrecorded false false = true := by
  have hown : IsVisible ('/' :: package ++ ['.']) := by
    have hslash : IsVisible ['/'] := by decide
    have hdot : IsVisible ['.'] := by decide
    exact (hslash.append hpackage).append hdot
  refine ignoresSpacing_seq rfl (ignoresSpacing_seq rfl (ignoresSpacing_seq
    (ignoresSpacing_text hdirectory) (ignoresSpacing_seq ?_ (ignoresSpacing_seq rfl ?_))))
  · simp only [ignoresSpacing, List.all_eq_true, Bool.not_eq_true']
    exact hown
  · exact ignoresSpacing_splitStamp hpackage _

end Stamps

/-! ## The targets that are named -/

section Targets

variable {xs ys w : List Char} {bound : List Char → List Char → Prop} {s t : Captures Field}

/-- What is matched after an output path is not empty. -/
theorem length_lt_of_matchAt? {ps : List (Pattern Field)} {a b : Place}
    (h : (inOrder (many .blank :: lit "obj/" :: ps)).matchAt? a = some (b, s)) :
    b.rest.length < a.rest.length := by
  obtain ⟨gap, rest, hrest, -, -, h⟩ := exists_of_read_cons_run h
  obtain ⟨rest, rfl, h⟩ := exists_of_read_cons_lit h
  obtain ⟨b', s', hsuffix, h⟩ := exists_suffix_of_read h
  obtain ⟨rfl, -⟩ := Prod.mk.inj (Option.some.inj h)
  have hlength := hsuffix.length_le
  simp only at hlength
  simp only [hrest, List.length_append]
  have hobj : 0 < "obj/".toList.length := by decide
  omega

theorem isEmpty_eq_of_squeeze_eq {us vs : List Char} (h : squeeze us = squeeze vs) :
    us.isEmpty = vs.isEmpty := by
  cases us with
  | nil => rw [← eq_of_squeeze_eq h (by simp)]
  | cons u us =>
    cases vs with
    | nil => exact absurd (eq_of_squeeze_eq h.symm (by simp)) (by simp)
    | cons v vs => rfl

theorem beq_eq_of_squeeze_eq {us vs word : List Char} (h : squeeze us = squeeze vs)
    (hword : IsVisible word) : (us == word) = (vs == word) := by
  rw [Bool.eq_iff_iff, beq_iff_eq, beq_iff_eq]
  constructor
  · rintro rfl
    exact (eq_of_squeeze_eq h hword).symm
  · rintro rfl
    exact (eq_of_squeeze_eq h.symm hword).symm

/-- The target that a dependency of a package names is the same up to the blanks in it. -/
theorem dependencyTarget?_alike (hs : Captures.Alike isUnrecorded s t) :
    Option.Rel (fun x y => squeeze x = squeeze y) (PackageAssembly.dependencyTarget? s)
      (PackageAssembly.dependencyTarget? t) := by
  have htarget := get?_alike (f := .componentTarget) hs rfl
  have hprefix := get_alike (f := .componentTargetPrefix) hs rfl
  have hsubdirectory := get_alike (f := .componentBuildSubdir) hs rfl
  rw [PackageAssembly.dependencyTarget?, PackageAssembly.dependencyTarget?]
  generalize s.get? .componentTarget = x at htarget ⊢
  generalize t.get? .componentTarget = y at htarget ⊢
  cases htarget with
  | none => exact .none
  | @some x y h =>
    have hindex : IsVisible PackageAssembly.indexTarget := by decide
    have hplaceholder : IsVisible PackageAssembly.placeholderTarget := by decide
    simp only [isEmpty_eq_of_squeeze_eq h, isEmpty_eq_of_squeeze_eq hprefix,
      isEmpty_eq_of_squeeze_eq hsubdirectory, beq_eq_of_squeeze_eq h hindex,
      beq_eq_of_squeeze_eq h hplaceholder]
    split
    · exact .none
    · refine .some ?_
      have hunderscore : isBlank '_' = false := by decide
      have hslash : isBlank '/' = false := by decide
      split <;> split <;> simp only [squeeze_append_cons hunderscore, squeeze_append_cons hslash,
        h, hprefix, hsubdirectory]

/-- The targets that the dependencies of a package name are the same up to the blanks in them. -/
theorem packageTargets_alike (hdirectory : IsVisible directory) (hpackage : IsVisible package)
    (h : Respaced bound w xs ys) :
    List.Forall₂ (fun x y => squeeze x = squeeze y)
      (PackageAssembly.dependencyTargets directory package xs)
      (PackageAssembly.dependencyTargets directory package ys) := by
  rw [PackageAssembly.dependencyTargets, PackageAssembly.dependencyTargets]
  simp only [scan_congr (matchAt?_dependency_split directory package)]
  refine List.rel_filterMap (fun m m' hm => dependencyTarget?_alike hm) ?_
  exact scan_alike (ignoresSpacing_splitDependency hdirectory hpackage)
    (fun a b s => length_lt_of_matchAt?) h

theorem ignoresSpacing_altsBefore {ps : List (Pattern Field)} {p : Pattern Field}
    {solid refused : Bool}
    (hps : ∀ q ∈ ps, q.ignoresSpacing isUnrecorded solid refused = true)
    (hp : p.ignoresSpacing isUnrecorded solid refused = true) :
    (altsBefore ps p).ignoresSpacing isUnrecorded solid refused = true := by
  induction ps with
  | nil => exact hp
  | cons q ps ih =>
    exact ignoresSpacing_alt (hps q (by simp)) (ih fun q hq => hps q (by simp [hq]))

theorem ignoresSpacing_part (hdirectory : IsVisible directory) (hcomponent : IsVisible component) :
    (partPattern directory component).ignoresSpacing isUnrecorded false false = true := by
  refine ignoresSpacing_seq rfl (ignoresSpacing_seq rfl (ignoresSpacing_seq
    (ignoresSpacing_text hdirectory) (ignoresSpacing_seq rfl (ignoresSpacing_seq
      (ignoresSpacing_altsBefore ?_ rfl) rfl))))
  intro q hq
  obtain ⟨ending, hending, rfl⟩ := List.mem_map.1 hq
  exact ignoresSpacing_text (isVisible_auxiliary hcomponent hending)

/-- The targets that the dependencies of a component name are the same. -/
theorem partTargets_alike (hdirectory : IsVisible directory) (hcomponent : IsVisible component)
    (h : Respaced bound w xs ys) :
    List.Forall₂ (fun x y => squeeze x = squeeze y)
      (SubComponents.dependencyTargets directory component xs)
      (SubComponents.dependencyTargets directory component ys) := by
  refine List.rel_filterMap (fun m m' hm => get?_alike hm rfl) ?_
  exact scan_alike (ignoresSpacing_part hdirectory hcomponent)
    (fun a b s => length_lt_of_matchAt?) h

end Targets

end ComponentLinks.Statement
