import ComponentLinks.Proofs.Path
import ComponentLinks.Proofs.Text.Lines
import Mathlib.Logic.Relation

/-!
# Spellings of a path

A written path may have more slashes than it needs, `.` segments, and steps down that are taken back
by a `..`. None of these detours makes a difference to where the path leads, from any directory. A
path that is written out is read back as it is.

## Main definitions

* `Path.IsDetour`, `Path.AddsDetour`: segments that make no difference.
* `Path.Respelled`: texts that write the same path up to detours.
* `Path.normalized_join_ofString_of_respelled`: they lead to the same place.
* `Path.ofString_toString`: reading what is written out.
-/
namespace ComponentLinks.Path

/-! ## Detours -/

/-- Segments that make no difference in a written path: an empty one, between two slashes, a `.`,
or a step down that is taken back. -/
inductive IsDetour : List (List Char) → Prop
  | slash : IsDetour [[]]
  | here : IsDetour [['.']]
  | back {name : List Char} (h : IsStep name) : IsDetour [name, ['.', '.']]

/-- Whether segments are others with one detour more. -/
def AddsDetour (segments longer : List (List Char)) : Prop :=
  ∃ front detour back, IsDetour detour ∧ segments = front ++ back ∧ longer = front ++ detour ++ back

/-- Whether two texts write the same path up to detours: they begin with the same slashes, and their
segments after these become the same by adding detours and leaving them out. -/
def Respelled (p q : String) : Prop :=
  p.toList.takeWhile (· == '/') = q.toList.takeWhile (· == '/') ∧
    Relation.EqvGen AddsDetour (writtenSegments p) (writtenSegments q)

theorem Respelled.refl (p : String) : Respelled p p := ⟨rfl, .refl _⟩

theorem IsDetour.foldl_normalStep {detour : List (List Char)} (h : IsDetour detour)
    (absolute : Bool) (seen : List String) :
    (stepsOf detour).foldl (normalStep absolute) seen = seen := by
  cases h with
  | slash => rfl
  | here => rfl
  | @back name h =>
    have hsteps : stepsOf [name, ['.', '.']] = [String.ofList name, ".."] := by
      simp [stepsOf, h.isStep, show Path.isStep ['.', '.'] = true from rfl]
    rw [hsteps, List.foldl_cons, normalStep_of_ne h.ofList_ne_up, List.foldl_cons, List.foldl_nil]
    simp [normalStep, h.ofList_ne_up]

/-- Detours make no difference to where segments lead, whatever comes before them. -/
theorem foldl_normalStep_of_eqvGen {xs ys : List (List Char)}
    (h : Relation.EqvGen AddsDetour xs ys) (absolute : Bool) (seen : List String) :
    (stepsOf xs).foldl (normalStep absolute) seen =
      (stepsOf ys).foldl (normalStep absolute) seen := by
  induction h with
  | rel xs ys h =>
    obtain ⟨front, detour, back, hdetour, rfl, rfl⟩ := h
    simp only [stepsOf_append, List.foldl_append, hdetour.foldl_normalStep]
  | refl xs => rfl
  | symm xs ys _ ih => exact ih.symm
  | trans xs ys zs _ _ ihxy ihyz => exact ihxy.trans ihyz

theorem anchor_ofString_of_respelled {p q : String} (h : Respelled p q) :
    (ofString p).anchor = (ofString q).anchor := by
  show anchorOf p.toList = anchorOf q.toList
  rw [← anchorOf_takeWhile, h.1, anchorOf_takeWhile]

/-- Two spellings of a path lead to the same place from any directory. -/
theorem normalized_join_ofString_of_respelled {p q : String} (h : Respelled p q) (base : Path) :
    (base.join (ofString p)).normalized = (base.join (ofString q)).normalized := by
  have hanchor := anchor_ofString_of_respelled h
  have hfold (absolute : Bool) (seen : List String) :
      (ofString p).segments.foldl (normalStep absolute) seen =
        (ofString q).segments.foldl (normalStep absolute) seen := by
    rw [segments_ofString, segments_ofString]
    exact foldl_normalStep_of_eqvGen h.2 absolute seen
  have habs : (ofString p).isAbsolute = (ofString q).isAbsolute := by
    rw [isAbsolute, isAbsolute, hanchor]
  cases hq : (ofString q).isAbsolute with
  | true =>
    rw [join_of_isAbsolute hq, join_of_isAbsolute (habs.trans hq)]
    refine Path.ext hanchor ?_
    rw [segments_normalized, segments_normalized, habs, hfold]
  | false =>
    have hp := habs.trans hq
    rw [join, join, if_neg (by simp [hp]), if_neg (by simp [hq])]
    refine Path.ext rfl ?_
    simp only [segments_normalized, segments_extend, isAbsolute_extend, List.foldl_append, hfold]

/-! ## Writing out -/

/-- A path that is written out is read back as it is. -/
@[simp] theorem ofString_toString (p : Path) : ofString p.toString = p := by
  obtain ⟨anchor, segments, h⟩ := p
  by_cases hhere : anchor = .relative ∧ segments = []
  · obtain ⟨rfl, rfl⟩ := hhere
    have hdot : ofString "." = ⟨.relative, [], by simp⟩ := by decide +kernel
    exact hdot
  have hslashes : ∀ c ∈ anchor.toString.toList, c = '/' := by
    cases anchor <;> decide
  have hanchor : anchorOf anchor.toString.toList = anchor := by
    cases anchor <;> rfl
  have hreadable : ∀ s ∈ segments.map String.toList, isStep s = true ∧ '/' ∉ s := by
    intro s hs
    obtain ⟨segment, hsegment, rfl⟩ := List.mem_map.1 hs
    exact h segment hsegment
  have htext : toString ⟨anchor, segments, h⟩ = String.ofList
      (anchor.toString.toList ++ List.intercalate ['/'] (segments.map String.toList)) := by
    apply String.toList_inj.1
    unfold toString
    split
    · exact absurd ⟨by assumption, by assumption⟩ hhere
    · simp [String.toList_intercalate]
  rw [htext, ofString_slashes_append hslashes hreadable]
  exact Path.ext hanchor (by simp)

end ComponentLinks.Path
