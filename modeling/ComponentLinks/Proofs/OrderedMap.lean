import ComponentLinks.OrderedMap
import Mathlib.Data.List.Basic

/-!
# Looking up in maps in order of insertion

A key is found exactly where a pair with it stands. What several elements added to the lists of a
map make of these lists depends on the elements only, not on the order of the keys.

## Main definitions

* `OrderedMap.find?_eq_some_iff`: looking up as membership.
* `OrderedMap.getD_find?_foldl_push`: the list of a key after several elements under one key.
* `OrderedMap.getD_find?_foldl_push_const`: the list of a key after one element under several keys.
-/
namespace ComponentLinks

namespace OrderedMap

variable {κ υ : Type} [DecidableEq κ]

theorem mem_of_valueAt {k : κ} {v : υ} {xs : List (κ × υ)} (h : valueAt k xs = some v) :
    (k, v) ∈ xs := by
  induction xs with
  | nil => simp [valueAt] at h
  | cons x xs ih =>
    obtain ⟨j, w⟩ := x
    simp only [valueAt] at h
    split at h
    · rename_i hj
      obtain rfl : w = v := by simpa using h
      simp [hj]
    · exact List.mem_cons_of_mem _ (ih h)

theorem valueAt_of_mem {k : κ} {v : υ} {xs : List (κ × υ)} (hxs : (xs.map Prod.fst).Nodup)
    (h : (k, v) ∈ xs) : valueAt k xs = some v := by
  induction xs with
  | nil => simp at h
  | cons x xs ih =>
    obtain ⟨j, w⟩ := x
    rw [List.map_cons, List.nodup_cons] at hxs
    rcases List.mem_cons.1 h with heq | hmem
    · obtain ⟨rfl, rfl⟩ := Prod.mk.inj heq
      simp [valueAt]
    · have hj : j ≠ k := by
        rintro rfl
        exact hxs.1 (List.mem_map.2 ⟨_, hmem, rfl⟩)
      rw [valueAt, if_neg hj, ih hxs.2 hmem]

theorem find?_eq_some_iff {m : OrderedMap κ υ} {k : κ} {v : υ} :
    m.find? k = some v ↔ (k, v) ∈ m.toList :=
  ⟨mem_of_valueAt, valueAt_of_mem m.nodup_keys⟩

variable {α : Type}

/-- Elements added under one key come to its list in their order. -/
theorem getD_find?_foldl_push (m : OrderedMap κ (List α)) (k : κ) (xs : List α) :
    ((xs.foldl (fun m x => m.push k x) m).find? k).getD [] = (m.find? k).getD [] ++ xs := by
  induction xs generalizing m with
  | nil => simp
  | cons x xs ih => simp [ih, find?_push]

/-- An element added under several keys comes to the list of each key once for every time that the
key is among them. -/
theorem getD_find?_foldl_push_const (m : OrderedMap κ (List α)) (x : α) (keys : List κ) (k : κ) :
    ((keys.foldl (fun m key => m.push key x) m).find? k).getD [] =
      (m.find? k).getD [] ++ List.replicate (keys.count k) x := by
  induction keys generalizing m with
  | nil => simp
  | cons key keys ih =>
    rw [List.foldl_cons, ih, find?_push]
    by_cases hkey : key = k
    · subst hkey
      simp [List.replicate_succ]
    · simp [hkey, List.count_cons_of_ne hkey]

theorem exists_of_mem_getD {m : OrderedMap κ (List α)} {k : κ} {x : α}
    (h : x ∈ (m.find? k).getD []) : ∃ xs, m.find? k = some xs ∧ x ∈ xs := by
  cases hfound : m.find? k with
  | none => simp [hfound] at h
  | some xs => exact ⟨xs, rfl, by simpa [hfound] using h⟩

end OrderedMap

end ComponentLinks
