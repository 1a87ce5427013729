import ComponentLinks.Proofs.Statement.RespacedStamps

/-!
# What respaced statements say

Statements that differ in their blanks have the same shape and say the same, as far as what they
say has no blank in it.

## Main definitions

* `Recognized.fields`, `Recognized.HoldsNoBlank`: the texts that are recorded of a statement.
* `Recognized.SameButBlanks`: two statements that say the same, up to texts with blanks in them.
* `Statement.inShape?_alike`, `Statement.ofStatement?_alike`: what respaced statements say.
-/
namespace ComponentLinks

open Statement

namespace Recognized

def fields : Recognized → List String
  | packageAssembly a => a.directory :: a.package :: a.components
  | subComponents b => b.manifest :: b.directory :: b.component :: b.parts
  | validation v =>
    v.manifest :: v.fileName :: v.directory :: (v.labelTarget.toList ++ v.destination.toList)
  | compilation c => [c.manifest, c.component, c.directory, c.target]
  | packageNaming p => [p.directory, p.target, p.package]

/-- Whether no text that is recorded of a statement has a blank. -/
def HoldsNoBlank (r : Recognized) : Prop := ∀ field ∈ r.fields, IsVisible field.toList

/-- Whether two statements have the same shape, and say the same if one of them says nothing with a
blank in it. -/
structure SameButBlanks (r r' : Recognized) : Prop where
  shape : r.shape = r'.shape
  eq : r.HoldsNoBlank ∨ r'.HoldsNoBlank → r = r'

end Recognized

namespace Statement

open Recognized Pattern Text

variable {bound : List Char → List Char → Prop} {xs ys w : List Char} {s t : Captures Field}

theorem rel_map {α β : Type} {R : α → α → Prop} {E : β → β → Prop} {f : α → β} {x y : Option α}
    (h : Option.Rel R x y) (hf : ∀ a b, R a b → E (f a) (f b)) :
    Option.Rel E (x.map f) (y.map f) := by
  cases h with
  | none => exact .none
  | some h => exact .some (hf _ _ h)

/-- A field is the same where one of two statements says nothing with a blank in it. -/
theorem get_eq_of_holdsNoBlank {r r' : Recognized} (f : Field)
    (hs : Captures.Alike isUnrecorded s t) (hf : isUnrecorded f = false)
    (hplain : r.HoldsNoBlank ∨ r'.HoldsNoBlank) (hr : keptText s f ∈ r.fields)
    (hr' : keptText t f ∈ r'.fields) : s.get f = t.get f ∧ IsVisible (s.get f) := by
  have hvisible : IsVisible (s.get f) ∨ IsVisible (t.get f) := by
    simpa [keptText] using hplain.imp (fun h => h _ hr) (fun h => h _ hr')
  have heq := eq_of_squeeze_eq_or (get_alike hs hf) hvisible
  exact ⟨heq, by simpa [heq] using hvisible⟩

/-- Fields are the same where one of two statements that record them says nothing with a blank in
it. -/
theorem forall_get_eq_of_holdsNoBlank {r r' : Recognized} (fs : List Field)
    (hs : Captures.Alike isUnrecorded s t) (hfs : ∀ f ∈ fs, isUnrecorded f = false)
    (hplain : r.HoldsNoBlank ∨ r'.HoldsNoBlank) (hr : ∀ f ∈ fs, keptText s f ∈ r.fields)
    (hr' : ∀ f ∈ fs, keptText t f ∈ r'.fields) : ∀ f ∈ fs, s.get f = t.get f :=
  fun f hf => (get_eq_of_holdsNoBlank f hs (hfs f hf) hplain (hr f hf) (hr' f hf)).1

/-- Lists of texts that are the same up to their blanks are equal where one has no blanks. -/
theorem eq_of_forall₂ {us vs : List (List Char)}
    (h : List.Forall₂ (fun x y => squeeze x = squeeze y) us vs)
    (hvisible : (∀ u ∈ us, IsVisible u) ∨ (∀ v ∈ vs, IsVisible v)) : us = vs := by
  induction h with
  | nil => rfl
  | cons huv _ ih =>
    rw [eq_of_squeeze_eq_or huv (hvisible.imp (· _ (by simp)) (· _ (by simp))),
      ih (hvisible.imp (fun h u hu => h u (by simp [hu])) (fun h v hv => h v (by simp [hv])))]

theorem isVisible_of_map_suffix {r : Recognized} {us : List (List Char)}
    (hr : us.map String.ofList <:+ r.fields) (h : r.HoldsNoBlank) : ∀ u ∈ us, IsVisible u :=
  fun u hu => by simpa using h _ (hr.subset (List.mem_map_of_mem hu))

theorem assembly_alike (h : Respaced bound w xs ys) :
    Option.Rel SameButBlanks (inShape? xs .packageAssembly) (inShape? ys .packageAssembly) := by
  have hpattern : Option.Rel (Captures.Alike isUnrecorded) (assemblyPattern.matchText? xs)
      (assemblyPattern.matchText? ys) := by
    rw [assemblyPattern_eq]
    exact matchText?_build_alike archivePatterns (by decide) h
  simp only [inShape?, PackageAssembly.ofStatement?, Option.map_map]
  refine rel_map hpattern fun s t hs => ⟨rfl, fun hplain => ?_⟩
  obtain ⟨hdirectory, hdirectoryVisible⟩ := get_eq_of_holdsNoBlank .targetBuildDir hs rfl hplain
    (by simp [fields]) (by simp [fields])
  obtain ⟨hpackage, hpackageVisible⟩ := get_eq_of_holdsNoBlank .packageTarget hs rfl hplain
    (by simp [fields]) (by simp [fields])
  have htargets := packageTargets_alike hdirectoryVisible hpackageVisible
    (respaced_of_squeeze_eq (get_alike (f := .dependencies) hs rfl) [])
  have heq := eq_of_forall₂ htargets (hplain.imp
    (isVisible_of_map_suffix ⟨[keptText s .targetBuildDir, keptText s .packageTarget], rfl⟩)
    (isVisible_of_map_suffix ⟨[keptText t .targetBuildDir, keptText t .packageTarget], by
      rw [hdirectory, hpackage]
      rfl⟩))
  simp only [Function.comp, keptText, ← hdirectory, ← hpackage, heq]

theorem subComponents_alike (h : Respaced bound w xs ys) :
    Option.Rel SameButBlanks (inShape? xs .subComponents) (inShape? ys .subComponents) := by
  have hpattern : Option.Rel (Captures.Alike isUnrecorded) (manifestPattern.matchText? xs)
      (manifestPattern.matchText? ys) := by
    rw [manifestPattern_eq]
    exact matchText?_build_alike builtPatterns (by decide) h
  simp only [inShape?, SubComponents.ofStatement?, Option.map_map]
  refine rel_map hpattern fun s t hs => ⟨rfl, fun hplain => ?_⟩
  obtain ⟨hmanifest, -⟩ := get_eq_of_holdsNoBlank .manifestPath hs rfl hplain
    (by simp [fields]) (by simp [fields])
  obtain ⟨hdirectory, hdirectoryVisible⟩ := get_eq_of_holdsNoBlank .targetBuildDir hs rfl hplain
    (by simp [fields]) (by simp [fields])
  obtain ⟨hcomponent, hcomponentVisible⟩ := get_eq_of_holdsNoBlank .componentTarget hs rfl hplain
    (by simp [fields]) (by simp [fields])
  have htargets := partTargets_alike hdirectoryVisible hcomponentVisible
    (respaced_of_squeeze_eq (get_alike (f := .dependencies) hs rfl) [])
  have heq := eq_of_forall₂ htargets (hplain.imp
    (isVisible_of_map_suffix ⟨[keptText s .manifestPath, keptText s .targetBuildDir,
      keptText s .componentTarget], rfl⟩)
    (isVisible_of_map_suffix ⟨[keptText t .manifestPath, keptText t .targetBuildDir,
      keptText t .componentTarget], by
      rw [hdirectory, hcomponent]
      rfl⟩))
  simp only [Function.comp, keptText, ← hmanifest, ← hdirectory, ← hcomponent, heq]

/-- An optional field is the same where one of two statements says nothing with a blank in it. -/
theorem get?_eq_of_holdsNoBlank {r r' : Recognized} (f : Field)
    (hs : Captures.Alike isUnrecorded s t) (hf : isUnrecorded f = false)
    (hplain : r.HoldsNoBlank ∨ r'.HoldsNoBlank)
    (hr : ∀ u, s.get? f = some u → String.ofList u ∈ r.fields)
    (hr' : ∀ u, t.get? f = some u → String.ofList u ∈ r'.fields) : s.get? f = t.get? f := by
  have h := get?_alike hs hf
  generalize s.get? f = x at h hr ⊢
  generalize t.get? f = y at h hr' ⊢
  cases h with
  | none => rfl
  | some h =>
    have hvisible := hplain.imp (fun hp => hp _ (hr _ rfl)) (fun hp => hp _ (hr' _ rfl))
    rw [eq_of_squeeze_eq_or h (by simpa using hvisible)]

theorem isNone_get?_eq (f : Field) (hs : Captures.Alike isUnrecorded s t)
    (hf : isUnrecorded f = false) : (s.get? f).isNone = (t.get? f).isNone := by
  have h := get?_alike hs hf
  generalize s.get? f = x at h ⊢
  generalize t.get? f = y at h ⊢
  cases h <;> rfl

theorem rootOf_eq (hs : Captures.Alike isUnrecorded s t) :
    Validation.rootOf (s.get .pathRoot) = Validation.rootOf (t.get .pathRoot) := by
  have hvisible : IsVisible "../..".toList := by decide
  have hbeq := beq_eq_of_squeeze_eq (get_alike (f := .pathRoot) hs rfl) hvisible
  rw [Bool.eq_iff_iff, beq_iff_eq, beq_iff_eq] at hbeq
  simp only [Validation.rootOf, hbeq]

theorem validation_alike (h : Respaced IsTaskGap w xs ys) :
    Option.Rel SameButBlanks (inShape? xs .validation) (inShape? ys .validation) := by
  have hpattern := matchText?_validation_alike h
  simp only [inShape?, Validation.ofStatement?]
  generalize validationPattern.matchText? xs = x at hpattern ⊢
  generalize validationPattern.matchText? ys = y at hpattern ⊢
  cases hpattern with
  | none => exact .none
  | @some s t hs =>
    simp only [isNone_get?_eq .destComponentManifest hs rfl,
      isNone_get?_eq .fallbackComponentTarget hs rfl]
    split
    · exact .none
    · refine .some ⟨rfl, fun hplain => ?_⟩
      have hfield := forall_get_eq_of_holdsNoBlank
        [.manifestPath, .fallbackComponentName, .targetBuildDir] hs (by decide) hplain
        (by simp [fields]) (by simp [fields])
      have htarget : s.get? .fallbackComponentTarget = t.get? .fallbackComponentTarget := by
        refine get?_eq_of_holdsNoBlank _ hs rfl hplain ?_ ?_ <;>
          · intro u hu
            simp [fields, hu]
      have hdestination : s.get? .destComponentManifest = t.get? .destComponentManifest := by
        refine get?_eq_of_holdsNoBlank _ hs rfl hplain ?_ ?_ <;>
          · intro u hu
            simp [fields, hu]
      simp [keptText, hfield, htarget, hdestination, rootOf_eq hs]

theorem compilation_alike (h : Respaced bound w xs ys) :
    Option.Rel SameButBlanks (inShape? xs .compilation) (inShape? ys .compilation) := by
  have hpattern : Option.Rel (Captures.Alike isUnrecorded) (compilationPattern.matchText? xs)
      (compilationPattern.matchText? ys) := by
    rw [compilationPattern_split]
    exact matchText?_command_alike compilePatterns CompilationForm.depfilePatterns
      (by decide) (by decide) (by decide) h
  simp only [inShape?, Compilation.ofStatement?, Option.map_map]
  refine rel_map hpattern fun s t hs => ⟨rfl, fun hplain => ?_⟩
  have hfield := forall_get_eq_of_holdsNoBlank
    [.manifestPath, .componentName, .targetBuildDir, .componentTarget] hs (by decide) hplain
    (by simp [fields]) (by simp [fields])
  simp [keptText, hfield]

theorem packageNaming_alike (h : Respaced bound w xs ys) :
    Option.Rel SameButBlanks (inShape? xs .packageNaming) (inShape? ys .packageNaming) := by
  have hpattern : Option.Rel (Captures.Alike isUnrecorded) (namingPattern.matchText? xs)
      (namingPattern.matchText? ys) := by
    rw [namingPattern_split]
    exact matchText?_command_alike pathPatterns namePatterns
      (by decide) (by decide) (by decide) h
  simp only [inShape?, PackageNaming.ofStatement?, Option.map_map]
  refine rel_map hpattern fun s t hs => ⟨rfl, fun hplain => ?_⟩
  have hfield := forall_get_eq_of_holdsNoBlank
    [.targetBuildDir, .packageTarget, .packageName] hs (by decide) hplain
    (by simp [fields]) (by simp [fields])
  simp [keptText, hfield]

/-- Statements that differ in their blanks say the same in each shape but that of validations. -/
theorem inShape?_alike_of_ne {shape : Shape} (h : Respaced bound w xs ys)
    (hshape : shape ≠ .validation) :
    Option.Rel SameButBlanks (inShape? xs shape) (inShape? ys shape) := by
  cases shape with
  | packageAssembly => exact assembly_alike h
  | subComponents => exact subComponents_alike h
  | validation => exact absurd rfl hshape
  | compilation => exact compilation_alike h
  | packageNaming => exact packageNaming_alike h

/-- If a single blank between the tool and its task stays one, statements that differ in their
blanks say the same in each shape. -/
theorem inShape?_alike (h : Respaced IsTaskGap w xs ys) (shape : Shape) :
    Option.Rel SameButBlanks (inShape? xs shape) (inShape? ys shape) := by
  by_cases hshape : shape = .validation
  · rw [hshape]
    exact validation_alike h
  · exact inShape?_alike_of_ne h hshape

theorem ofStatement?_alike (h : Respaced IsTaskGap w xs ys) :
    Option.Rel SameButBlanks (ofStatement? xs) (ofStatement? ys) := by
  rw [ofStatement?, ofStatement?]
  induction Shape.all with
  | nil => exact .none
  | cons shape shapes ih =>
    have hshape := inShape?_alike h shape
    simp only [List.findSome?_cons]
    generalize inShape? xs shape = x at hshape ⊢
    generalize inShape? ys shape = y at hshape ⊢
    cases hshape with
    | none => exact ih
    | some hr => exact .some hr

end Statement

end ComponentLinks
