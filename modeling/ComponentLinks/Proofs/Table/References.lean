import ComponentLinks.Table.References
import Mathlib.Data.List.Induction

/-!
# References by identifier

A table of references gives for each identifier the occurrences that were recorded for it, in the
order of recording.

## Main definitions

* `ReferenceTable.Counts`: which recordings count for an identifier.
* `ReferenceTable.references?_ofList`: the occurrences for an identifier.
* `ReferenceTable.referenceCount_ofList_eq_add_countP`: how many occurrences there are.
* `ReferenceTable.ofList_exact`: both of them.
-/
namespace ComponentLinks.ReferenceTable

/-- Whether a recording under the identifier `id` counts for the identifier `j`. -/
def Counts (normalizes : Bool) (j id : String) : Prop :=
  id = j ∨ (normalizes = true ∧ unhyphenated id = j)

instance (normalizes : Bool) (j id : String) : Decidable (Counts normalizes j id) :=
  inferInstanceAs (Decidable (_ ∨ _))

/-- The occurrences recorded for an identifier. -/
def recordedFor (normalizes : Bool) (xs : List (String × Reference)) (j : String) :
    List Reference :=
  (xs.filter fun x => Counts normalizes j x.1).map Prod.snd

theorem ofList_append_singleton (normalizes : Bool) (xs : List (String × Reference))
    (x : String × Reference) :
    ofList normalizes (xs ++ [x]) = (ofList normalizes xs).add x.1 x.2 := by
  simp [ofList, List.foldl_append]

@[simp] theorem normalizes_ofList (normalizes : Bool) (xs : List (String × Reference)) :
    (ofList normalizes xs).normalizes = normalizes := by
  induction xs using List.reverseRecOn with
  | nil => rfl
  | append_singleton xs x ih => rw [ofList_append_singleton, normalizes_add, ih]

/-- The occurrences for an identifier are those recorded for it, in order; an identifier without
any has none. -/
theorem references?_ofList (normalizes : Bool) (xs : List (String × Reference)) (j : String) :
    (ofList normalizes xs).references? j =
      if recordedFor normalizes xs j = [] then none else some (recordedFor normalizes xs j) := by
  induction xs using List.reverseRecOn with
  | nil => rfl
  | append_singleton xs x ih =>
    rw [ofList_append_singleton, references?_add, normalizes_ofList, ih]
    have hsplit : recordedFor normalizes (xs ++ [x]) j =
        recordedFor normalizes xs j ++ if Counts normalizes j x.1 then [x.2] else [] := by
      by_cases hx : Counts normalizes j x.1 <;> simp [recordedFor, List.filter_append, hx]
    rw [hsplit]
    by_cases hx : Counts normalizes j x.1
    · rw [if_pos hx, if_pos (show x.1 = j ∨ _ from hx)]
      by_cases hnil : recordedFor normalizes xs j = [] <;> simp [hnil]
    · rw [if_neg hx, if_neg (show ¬ (x.1 = j ∨ _) from hx), List.append_nil]

theorem references?_ofList_eq_none_iff {normalizes : Bool} {xs : List (String × Reference)}
    {j : String} :
    (ofList normalizes xs).references? j = none ↔ ∀ x ∈ xs, ¬ Counts normalizes j x.1 := by
  have hnil : recordedFor normalizes xs j = [] ↔ ∀ x ∈ xs, ¬ Counts normalizes j x.1 := by
    simp [recordedFor]
  rw [references?_ofList, ← hnil]
  simp

/-! ## Counting -/

theorem foldr_length_storePair {κ α : Type} [DecidableEq κ] (k : κ) (x : α)
    (xs : List (κ × List α)) :
    (storePair k ((valueAt k xs).getD [] ++ [x]) xs).foldr (fun e n => e.2.length + n) 0 =
      xs.foldr (fun e n => e.2.length + n) 0 + 1 := by
  induction xs with
  | nil => simp [storePair, valueAt]
  | cons e xs ih =>
    obtain ⟨j, ys⟩ := e
    by_cases h : j = k
    · simp [storePair, valueAt, h]
      omega
    · simp [storePair, valueAt, h, ih]
      omega

/-- A recording adds one reference, and a second one under the identifier with underscores if
hyphens are read as underscores and the identifier has any. -/
theorem referenceCount_add (t : ReferenceTable) (id : String) (r : Reference) :
    (t.add id r).referenceCount =
      t.referenceCount + if t.normalizes = true ∧ '-' ∈ id.toList then 2 else 1 := by
  have hchanges : (unhyphenated id != id) = true ↔ '-' ∈ id.toList := by
    rw [bne_iff_ne, ne_eq, unhyphenated_eq_self_iff, not_not]
  unfold referenceCount add OrderedMap.push OrderedMap.insert OrderedMap.find?
  simp only [Bool.and_eq_true, hchanges]
  split
  · rw [foldr_length_storePair, foldr_length_storePair]
  · rw [foldr_length_storePair]

/-- There are as many references as were recorded. Where hyphens are read as underscores, those
under identifiers with hyphens count twice. -/
theorem referenceCount_ofList_eq_add_countP (normalizes : Bool) (xs : List (String × Reference)) :
    (ofList normalizes xs).referenceCount =
      xs.length + if normalizes then xs.countP (fun x => '-' ∈ x.1.toList) else 0 := by
  induction xs using List.reverseRecOn with
  | nil => cases normalizes <;> rfl
  | append_singleton xs x ih =>
    rw [ofList_append_singleton, referenceCount_add, ih, normalizes_ofList, List.countP_append,
      List.countP_singleton, List.length_append, List.length_singleton]
    cases normalizes with
    | false => simp
    | true =>
      by_cases hyphen : '-' ∈ x.1.toList <;> simp [hyphen]
      all_goals omega

theorem length_le_referenceCount_ofList (normalizes : Bool) (xs : List (String × Reference)) :
    xs.length ≤ (ofList normalizes xs).referenceCount := by
  rw [referenceCount_ofList_eq_add_countP]
  exact Nat.le_add_right _ _

/-- Where hyphens are not read as underscores, there are as many references as were recorded. -/
theorem referenceCount_ofList (xs : List (String × Reference)) :
    (ofList false xs).referenceCount = xs.length :=
  referenceCount_ofList_eq_add_countP false xs

/-- A table has for an identifier the occurrences of exactly the recordings under it and, where
hyphens are read as underscores, under those that read like it: in the order of recording, one for
each. It has none exactly if there is no such recording. In all it has one reference for each
recording, and another one if hyphens are read as underscores and the identifier has any. -/
theorem ofList_exact (normalizes : Bool) (xs : List (String × Reference)) :
    (∀ id, (ofList normalizes xs).references? id =
      if ∃ x ∈ xs, x.1 = id ∨ (normalizes = true ∧ unhyphenated x.1 = id) then
        some ((xs.filter fun x =>
          x.1 = id ∨ (normalizes = true ∧ unhyphenated x.1 = id)).map Prod.snd)
      else none) ∧
    (ofList normalizes xs).referenceCount =
      xs.length + if normalizes then xs.countP (fun x => '-' ∈ x.1.toList) else 0 := by
  refine ⟨fun id => ?_, referenceCount_ofList_eq_add_countP normalizes xs⟩
  split
  · rename_i hsome
    have hne : recordedFor normalizes xs id ≠ [] := by
      obtain ⟨x, hx, hcounts⟩ := hsome
      exact List.ne_nil_of_mem (a := x.2) (List.mem_map_of_mem
        (List.mem_filter.2 ⟨hx, decide_eq_true hcounts⟩))
    rw [references?_ofList, if_neg hne]
    rfl
  · rename_i hnone
    rw [references?_ofList_eq_none_iff]
    intro x hx hcounts
    exact hnone ⟨x, hx, hcounts⟩

/-- Lists of different spellings share a reference, and one spelling never has it twice. -/
example :
    let place (line : Int) : Reference := ⟨.ofString "/a.cc", line, 0, 37⟩
    let t := ofList true [("a_b/c", place 1), ("a-b/c", place 2), ("a_b/c", place 3)]
    t.references? "a_b/c" = some [place 1, place 2, place 3] ∧
      t.references? "a-b/c" = some [place 2] ∧ t.referenceCount = 4 := by
  decide +kernel

end ComponentLinks.ReferenceTable
