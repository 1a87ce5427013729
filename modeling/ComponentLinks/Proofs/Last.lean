import Mathlib.Data.List.Basic
import Mathlib.Data.List.Induction
import Mathlib.Data.Prod.Lex
import Mathlib.Order.Nat

/-!
# The last element with a property

A table in which later entries replace earlier ones is described by the last entry of each key.

## Main definitions

* `IsLast`: an element is the last one of a list with a property.
* `isLast_append_singleton`: one more element at the end.
* `isLast_iff_find?_reverse`: looking for it from the end.
* `isLast_flatMap_iff`, `IsLast.exists_of_flatMap`: the last element of lists put one after the
  other.
* `NestedAt`: an element of a list of lists of lists, by its place in each of them.
* `isLast_flatMap_flatMap_iff`: the last element of such a list, by the order of places.
-/
namespace ComponentLinks

variable {α β γ : Type}

/-- `x` is the last element of `xs` with the property `p`. -/
def IsLast (p : α → Prop) (xs : List α) (x : α) : Prop :=
  ∃ before after, xs = before ++ x :: after ∧ p x ∧ ∀ y ∈ after, ¬ p y

variable {p : α → Prop} {xs : List α} {x y : α}

theorem IsLast.mem (h : IsLast p xs x) : x ∈ xs := by
  obtain ⟨before, after, rfl, _⟩ := h
  simp

theorem IsLast.holds (h : IsLast p xs x) : p x := by
  obtain ⟨_, _, _, hx, _⟩ := h
  exact hx

/-- The last element with a property is also the last one with a stronger property that it has. -/
theorem IsLast.of_imp {q : α → Prop} (h : IsLast q xs x) (hpq : ∀ y ∈ xs, p y → q y) (hx : p x) :
    IsLast p xs x := by
  obtain ⟨before, after, rfl, -, hafter⟩ := h
  exact ⟨before, after, rfl, hx, fun y hy hp => hafter y hy (hpq y (by simp [hy]) hp)⟩

theorem not_isLast_nil : ¬ IsLast p [] x := by
  rintro ⟨before, after, h, _⟩
  simp at h

/-- An element added at the end is the last one if it has the property, and changes nothing if it
has not. -/
theorem isLast_append_singleton :
    IsLast p (xs ++ [y]) x ↔ (p y ∧ x = y) ∨ (¬ p y ∧ IsLast p xs x) := by
  constructor
  · rintro ⟨before, after, h, hx, hafter⟩
    rcases List.eq_nil_or_concat' after with rfl | ⟨after, z, rfl⟩
    · obtain ⟨rfl, hy⟩ := List.append_inj' h rfl
      obtain rfl : y = x := by simpa using hy
      exact .inl ⟨hx, rfl⟩
    · rw [← List.cons_append, ← List.append_assoc] at h
      obtain ⟨rfl, hz⟩ := List.append_inj' h rfl
      obtain rfl : y = z := by simpa using hz
      exact .inr ⟨hafter y (by simp), before, after, rfl, hx, fun w hw => hafter w (by simp [hw])⟩
  · rintro (⟨hy, rfl⟩ | ⟨hy, before, after, rfl, hx, hafter⟩)
    · exact ⟨xs, [], rfl, hy, by simp⟩
    · refine ⟨before, after ++ [y], by simp, hx, fun w hw => ?_⟩
      rcases List.mem_append.1 hw with hw | hw
      · exact hafter w hw
      · rw [List.mem_singleton] at hw
        exact hw ▸ hy

theorem exists_isLast_iff : (∃ x, IsLast p xs x) ↔ ∃ x ∈ xs, p x := by
  constructor
  · rintro ⟨x, h⟩
    exact ⟨x, h.mem, h.holds⟩
  · induction xs using List.reverseRecOn with
    | nil => simp
    | append_singleton xs y ih =>
      rintro ⟨x, hx, hp⟩
      by_cases hy : p y
      · exact ⟨y, isLast_append_singleton.2 (.inl ⟨hy, rfl⟩)⟩
      · have hmem : x ∈ xs := by
          rcases List.mem_append.1 hx with hx | hx
          · exact hx
          · rw [List.mem_singleton] at hx
            exact absurd (hx ▸ hp) hy
        obtain ⟨z, hz⟩ := ih ⟨x, hmem, hp⟩
        exact ⟨z, isLast_append_singleton.2 (.inr ⟨hy, hz⟩)⟩

theorem IsLast.unique (hx : IsLast p xs x) (hy : IsLast p xs y) : x = y := by
  induction xs using List.reverseRecOn with
  | nil => exact absurd hx not_isLast_nil
  | append_singleton xs z ih =>
    rcases isLast_append_singleton.1 hx with ⟨hz, rfl⟩ | ⟨hz, hx⟩
    · rcases isLast_append_singleton.1 hy with ⟨_, rfl⟩ | ⟨hz', _⟩
      · rfl
      · exact absurd hz hz'
    · rcases isLast_append_singleton.1 hy with ⟨hz', _⟩ | ⟨_, hy⟩
      · exact absurd hz' hz
      · exact ih hx hy

theorem isLast_append_iff {ys : List α} :
    IsLast p (xs ++ ys) x ↔ IsLast p ys x ∨ ((∀ y ∈ ys, ¬ p y) ∧ IsLast p xs x) := by
  induction ys using List.reverseRecOn with
  | nil => simp [not_isLast_nil]
  | append_singleton ys y ih =>
    rw [← List.append_assoc, isLast_append_singleton, isLast_append_singleton, ih]
    by_cases hy : p y
    · have hnone : ¬ ∀ z ∈ ys ++ [y], ¬ p z := fun h => h y (by simp) hy
      simp only [hy, hnone, true_and, false_and, not_true_eq_false, or_false]
    · have hall : (∀ z ∈ ys ++ [y], ¬ p z) ↔ ∀ z ∈ ys, ¬ p z := by grind
      simp only [hy, hall, false_and, not_false_eq_true, true_and, false_or]

/-- The last element with a property is what is found first from the end. -/
theorem isLast_iff_find?_reverse [DecidablePred p] :
    IsLast p xs x ↔ xs.reverse.find? (fun y => p y) = some x := by
  induction xs using List.reverseRecOn with
  | nil => simp [not_isLast_nil]
  | append_singleton xs y ih =>
    rw [isLast_append_singleton, ih]
    by_cases hy : p y
    · simp [hy, eq_comm]
    · simp [hy]

/-- The last element with a property of lists put one after the other is in the last of them that
has such an element. -/
theorem isLast_flatMap_iff {f : β → List α} {bs : List β} :
    IsLast p (bs.flatMap f) x ↔
      ∃ (i : Nat) (b : β), bs[i]? = some b ∧ IsLast p (f b) x ∧
        ∀ (j : Nat) (c : β), i < j → bs[j]? = some c → ∀ y ∈ f c, ¬ p y := by
  induction bs with
  | nil => simp [not_isLast_nil]
  | cons b bs ih =>
    rw [List.flatMap_cons, isLast_append_iff, ih]
    constructor
    · rintro (⟨i, c, hc, hx, hlater⟩ | ⟨hlater, hx⟩)
      · refine ⟨i + 1, c, by simpa using hc, hx, fun j d hj hd => ?_⟩
        obtain _ | j := j
        · omega
        · exact hlater j d (by omega) (by simpa using hd)
      · refine ⟨0, b, rfl, hx, fun j d hj hd y hy => ?_⟩
        obtain _ | j := j
        · omega
        · rw [List.getElem?_cons_succ] at hd
          exact hlater y (List.mem_flatMap.2 ⟨d, List.mem_of_getElem? hd, hy⟩)
    · rintro ⟨i, c, hc, hx, hlater⟩
      obtain _ | i := i
      · obtain rfl : b = c := by simpa using hc
        refine .inr ⟨fun y hy => ?_, hx⟩
        obtain ⟨d, hd, hy⟩ := List.mem_flatMap.1 hy
        obtain ⟨j, hj⟩ := List.mem_iff_getElem?.1 hd
        exact hlater (j + 1) d (by omega) (by simpa using hj) y hy
      · refine .inl ⟨i, c, by simpa using hc, hx, fun j d hj hd => ?_⟩
        exact hlater (j + 1) d (by omega) (by simpa using hd)

theorem isLast_iff_getElem? :
    IsLast p xs x ↔ ∃ i : ℕ, xs[i]? = some x ∧ p x ∧ ∀ (j : ℕ) (y : α), i < j →
      xs[j]? = some y → ¬ p y := by
  have hsingle : xs = xs.flatMap fun y => [y] := by simp
  have hlast (y : α) : IsLast p [y] x ↔ y = x ∧ p x := by
    rw [← List.nil_append [y], isLast_append_singleton]
    grind [not_isLast_nil]
  rw [hsingle, isLast_flatMap_iff, ← hsingle]
  simp only [hlast, List.mem_singleton, forall_eq]
  constructor
  · rintro ⟨i, y, hy, ⟨rfl, hp⟩, hlater⟩
    exact ⟨i, hy, hp, hlater⟩
  · rintro ⟨i, hx, hp, hlater⟩
    exact ⟨i, x, hx, ⟨rfl, hp⟩, hlater⟩

/-- The last element with a property of lists put one after the other is in the last of them that
has such an element. -/
theorem IsLast.exists_of_flatMap {f : β → List α} {bs : List β} (h : IsLast p (bs.flatMap f) x) :
    ∃ b, IsLast (fun b => ∃ y ∈ f b, p y) bs b ∧ x ∈ f b := by
  obtain ⟨i, b, hb, hx, hlater⟩ := isLast_flatMap_iff.1 h
  refine ⟨b, isLast_iff_getElem?.2 ⟨i, hb, ⟨x, hx.mem, hx.holds⟩, ?_⟩, hx.mem⟩
  rintro j c hj hc ⟨y, hy, hp⟩
  exact hlater j c hj hc y hy hp

/-- An element of a list of lists of lists, by its place in each of them. -/
def NestedAt (f : β → List γ) (h : β → γ → List α) (bs : List β) (i j k : ℕ) (x : α) : Prop :=
  ∃ b c, bs[i]? = some b ∧ (f b)[j]? = some c ∧ (h b c)[k]? = some x

/-- The last element with a property of lists of lists put one after the other is the one whose
place is last, the outer lists first. -/
theorem isLast_flatMap_flatMap_iff {f : β → List γ} {h : β → γ → List α} {bs : List β} :
    IsLast p (bs.flatMap fun b => (f b).flatMap (h b)) x ↔
      ∃ i j k : ℕ, NestedAt f h bs i j k x ∧ p x ∧
        ∀ (i' j' k' : ℕ) (y : α), NestedAt f h bs i' j' k' y → p y →
          toLex (i', toLex (j', k')) ≤ toLex (i, toLex (j, k)) := by
  simp only [isLast_flatMap_iff]
  simp only [isLast_iff_getElem?]
  constructor
  · rintro ⟨i, b, hb, ⟨j, c, hc, ⟨k, hx, hp, hk⟩, hj⟩, hi⟩
    refine ⟨i, j, k, ⟨b, c, hb, hc, hx⟩, hp, fun i' j' k' y hy hpy => ?_⟩
    obtain ⟨b', c', hb', hc', hy⟩ := hy
    have hyc : y ∈ h b' c' := List.mem_of_getElem? hy
    have hyb : y ∈ (f b').flatMap (h b') :=
      List.mem_flatMap.2 ⟨c', List.mem_of_getElem? hc', hyc⟩
    simp only [Prod.Lex.toLex_le_toLex]
    -- A later place with the property would contradict that `i`, then `j`, then `k` is the last.
    rcases Nat.lt_trichotomy i' i with hlt | rfl | hlt
    · exact .inl hlt
    · obtain rfl : b = b' := by simpa [hb] using hb'
      refine .inr ⟨rfl, ?_⟩
      rcases Nat.lt_trichotomy j' j with hlt | rfl | hlt
      · exact .inl hlt
      · obtain rfl : c = c' := by simpa [hc] using hc'
        refine .inr ⟨rfl, ?_⟩
        by_contra hlt
        exact hk k' y (by omega) hy hpy
      · exact absurd hpy (hj j' c' hlt hc' y hyc)
    · exact absurd hpy (hi i' b' hlt hb' y hyb)
  · rintro ⟨i, j, k, ⟨b, c, hb, hc, hx⟩, hp, hlast⟩
    simp only [Prod.Lex.toLex_le_toLex] at hlast
    refine ⟨i, b, hb, ⟨j, c, hc, ⟨k, hx, hp, fun k' y hk hy hpy => ?_⟩,
      fun j' c' hj hc' y hy hpy => ?_⟩, fun i' b' hi hb' y hy hpy => ?_⟩
    · have := hlast i j k' y ⟨b, c, hb, hc, hy⟩ hpy
      omega
    · obtain ⟨k', hk'⟩ := List.mem_iff_getElem?.1 hy
      have := hlast i j' k' y ⟨b, c', hb, hc', hk'⟩ hpy
      omega
    · obtain ⟨c', hc', hy⟩ := List.mem_flatMap.1 hy
      obtain ⟨j', hj'⟩ := List.mem_iff_getElem?.1 hc'
      obtain ⟨k', hk'⟩ := List.mem_iff_getElem?.1 hy
      have := hlast i' j' k' y ⟨b', c', hb', hj', hk'⟩ hpy
      omega

end ComponentLinks
