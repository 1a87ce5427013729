/-!
# Maps in order of insertion

A map that remembers the order in which its keys came in. Storing under a key that is present
replaces its value and leaves its place.

## Main definitions

* `OrderedMap`: maps, as lists of pairs with distinct keys.
* `OrderedMap.find?`, `OrderedMap.insert`, `OrderedMap.push`: looking up, storing, and adding to
  the list stored under a key.
* `OrderedMap.find?_insert`, `OrderedMap.keys_insert`: what storing does to values and to order.
-/
namespace ComponentLinks

variable {κ υ : Type}

/-- The pairs with `v` stored under `k`: in the place of `k` if it is present, else at the end. -/
def storePair [DecidableEq κ] (k : κ) (v : υ) : List (κ × υ) → List (κ × υ)
  | [] => [(k, v)]
  | (j, w) :: rest => if j = k then (k, v) :: rest else (j, w) :: storePair k v rest

def valueAt [DecidableEq κ] (k : κ) : List (κ × υ) → Option υ
  | [] => none
  | (j, w) :: rest => if j = k then some w else valueAt k rest

theorem valueAt_storePair [DecidableEq κ] (k j : κ) (v : υ) (xs : List (κ × υ)) :
    valueAt j (storePair k v xs) = if k = j then some v else valueAt j xs := by
  induction xs with
  | nil => rfl
  | cons x xs ih =>
    obtain ⟨i, w⟩ := x
    by_cases h : i = k
    · subst h
      by_cases hj : i = j <;> simp [storePair, valueAt, hj]
    · by_cases hj : i = j
      · subst hj
        simp [storePair, valueAt, h, Ne.symm h]
      · simp [storePair, valueAt, h, hj, ih]

theorem map_fst_storePair [DecidableEq κ] (k : κ) (v : υ) (xs : List (κ × υ)) :
    (storePair k v xs).map Prod.fst =
      if k ∈ xs.map Prod.fst then xs.map Prod.fst else xs.map Prod.fst ++ [k] := by
  induction xs with
  | nil => simp [storePair]
  | cons x xs ih =>
    obtain ⟨j, w⟩ := x
    by_cases h : j = k
    · simp [storePair, h]
    · simp only [storePair, if_neg h, List.map_cons, ih, List.mem_cons, Ne.symm h, false_or]
      split <;> simp

/-- A map that remembers the order in which its keys came in. No key stands twice. -/
structure OrderedMap (κ υ : Type) where
  toList : List (κ × υ)
  nodup_keys : (toList.map Prod.fst).Nodup

namespace OrderedMap

def empty : OrderedMap κ υ := ⟨[], List.nodup_nil⟩

instance : Inhabited (OrderedMap κ υ) := ⟨empty⟩

instance : EmptyCollection (OrderedMap κ υ) := ⟨empty⟩

@[ext] theorem ext {m n : OrderedMap κ υ} (h : m.toList = n.toList) : m = n := by
  cases m
  cases n
  cases h
  rfl

instance [DecidableEq κ] [DecidableEq υ] : DecidableEq (OrderedMap κ υ) := fun m n =>
  decidable_of_iff (m.toList = n.toList) ⟨ext, congrArg toList⟩

def keys (m : OrderedMap κ υ) : List κ := m.toList.map Prod.fst

def size (m : OrderedMap κ υ) : Nat := m.toList.length

@[simp] theorem toList_empty : (empty : OrderedMap κ υ).toList = [] := rfl

@[simp] theorem keys_empty : (empty : OrderedMap κ υ).keys = [] := rfl

@[simp] theorem size_empty : (empty : OrderedMap κ υ).size = 0 := rfl

variable [DecidableEq κ]

/-- The value stored under a key. -/
def find? (m : OrderedMap κ υ) (k : κ) : Option υ := valueAt k m.toList

def contains (m : OrderedMap κ υ) (k : κ) : Bool := (m.find? k).isSome

/-- The map with a value stored under a key. -/
def insert (m : OrderedMap κ υ) (k : κ) (v : υ) : OrderedMap κ υ where
  toList := storePair k v m.toList
  nodup_keys := by
    rw [map_fst_storePair]
    split
    · exact m.nodup_keys
    · rename_i h
      exact List.nodup_append.2 ⟨m.nodup_keys, by simp, by
        intro a ha b hb
        rw [List.mem_singleton] at hb
        exact fun hab => h (hb ▸ hab ▸ ha)⟩

def ofList (xs : List (κ × υ)) : OrderedMap κ υ :=
  xs.foldl (fun m x => m.insert x.1 x.2) empty

/-- The map with an element added at the end of the list under a key. -/
def push {α : Type} (m : OrderedMap κ (List α)) (k : κ) (x : α) : OrderedMap κ (List α) :=
  m.insert k ((m.find? k).getD [] ++ [x])

@[simp] theorem find?_empty (k : κ) : (empty : OrderedMap κ υ).find? k = none := rfl

/-- A stored value is found under its key and under no other. -/
@[simp] theorem find?_insert (m : OrderedMap κ υ) (k j : κ) (v : υ) :
    (m.insert k v).find? j = if k = j then some v else m.find? j :=
  valueAt_storePair k j v m.toList

/-- A new key comes last, and a key that is present keeps its place. -/
theorem keys_insert (m : OrderedMap κ υ) (k : κ) (v : υ) :
    (m.insert k v).keys = if k ∈ m.keys then m.keys else m.keys ++ [k] :=
  map_fst_storePair k v m.toList

@[simp] theorem contains_insert (m : OrderedMap κ υ) (k j : κ) (v : υ) :
    (m.insert k v).contains j = (decide (k = j) || m.contains j) := by
  by_cases h : k = j <;> simp [contains, h]

/-- Adding to the list under a key changes that list only. -/
theorem find?_push {α : Type} (m : OrderedMap κ (List α)) (k j : κ) (x : α) :
    (m.push k x).find? j = if k = j then some ((m.find? k).getD [] ++ [x]) else m.find? j := by
  simp [push]

end OrderedMap

end ComponentLinks
