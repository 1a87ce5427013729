import ComponentLinks.Text.Blank
import ComponentLinks.Text.Word
import Mathlib.Data.List.Basic
import Mathlib.Data.List.TakeWhile

/-!
# Classes of characters apart

Blanks are no word characters, and a text that falls into a run of one class and a rest that does
not carry it on falls so in one way only.

## Main definitions

* `Text.isName_eq_false_of_isBlank`: no blank stands in a name.
* `Text.exists_run_append`, `Text.append_inj_of_stop`: the run of a class that a text begins with.
* `Text.prefix_of_prefix_append`: a text that lacks a character ends before it.
* `Text.not_isPrefix_of_not_isInfix`: where such a text does not begin.
* `Text.isInfix_or_of_not_mem`, `Text.isInfix_of_not_mem`: where a text stands in another one.
* `Text.append_inj_of_last`: where a text has its last occurrence of a character.
* `Text.exists_append_of_not_mem`, `Text.exists_append_of_mem`: which side of a character a text
  ends on.
-/
namespace ComponentLinks.Text

-- What holds of the characters of a text is looked up in the text, not among all characters.
instance decidableForallMem (p : Char → Prop) [DecidablePred p] (cs : List Char) :
    Decidable (∀ c ∈ cs, p c) :=
  List.decidableBAll p cs

instance decidableForallMemOption (p : Char → Prop) [DecidablePred p] (c? : Option Char) :
    Decidable (∀ c ∈ c?, p c) :=
  Option.decidableForallMem c?

def blankCodes : List Nat :=
  blankRanges.flatMap fun range => (List.range (range.2 + 1 - range.1)).map (range.1 + ·)

theorem mem_of_inRanges {ranges : List (Nat × Nat)} {n : Nat} (h : inRanges ranges n = true) :
    ∃ range ∈ ranges, range.1 ≤ n ∧ n ≤ range.2 := by
  induction ranges with
  | nil => simp [inRanges] at h
  | cons range ranges ih =>
    obtain ⟨low, high⟩ := range
    simp only [inRanges] at h
    split at h
    · simp at h
    · rename_i hlow
      simp only [Bool.or_eq_true, decide_eq_true_eq] at h
      rcases h with hhigh | h
      · exact ⟨(low, high), by simp, by simpa using hlow, hhigh⟩
      · obtain ⟨range, hmem, hrange⟩ := ih h
        exact ⟨range, by simp [hmem], hrange⟩

theorem toNat_mem_blankCodes {c : Char} (h : isBlank c = true) : c.toNat ∈ blankCodes := by
  obtain ⟨range, hmem, hlow, hhigh⟩ := mem_of_inRanges h
  exact List.mem_flatMap.2 ⟨range, hmem, List.mem_map.2
    ⟨c.toNat - range.1, List.mem_range.2 (by omega), by omega⟩⟩

theorem isName_ofNat_blankCodes : ∀ n ∈ blankCodes, isName (Char.ofNat n) = false := by
  decide +kernel

theorem isName_eq_false_of_isBlank {c : Char} (h : isBlank c = true) : isName c = false := by
  rw [← Char.ofNat_toNat c]
  exact isName_ofNat_blankCodes _ (toNat_mem_blankCodes h)

theorem isBlank_eq_false_of_isName {c : Char} (h : isName c = true) : isBlank c = false := by
  by_contra hb
  rw [isName_eq_false_of_isBlank (by simpa using hb)] at h
  simp at h

variable {α : Type} {p : α → Bool} {xs ys : List α} {c d : α} {rest rest' w : List α}

/-- A run of a class at the beginning of a text, up to a character that does not carry it on, is
determined by the text. -/
theorem append_inj_of_stop (hxs : ∀ x ∈ xs, p x = true) (hys : ∀ y ∈ ys, p y = true)
    (hc : p c = false) (hd : p d = false) (h : xs ++ c :: rest = ys ++ d :: rest') :
    xs = ys ∧ c = d ∧ rest = rest' := by
  induction xs generalizing ys with
  | nil =>
    cases ys with
    | nil => simpa using h
    | cons y ys =>
      obtain ⟨rfl, _⟩ : c = y ∧ _ := by simpa using h
      simp [hys c (by simp)] at hc
  | cons x xs ih =>
    cases ys with
    | nil =>
      obtain ⟨rfl, _⟩ : x = d ∧ _ := by simpa using h
      simp [hxs x (by simp)] at hd
    | cons y ys =>
      obtain ⟨rfl, htail⟩ : x = y ∧ xs ++ c :: rest = ys ++ d :: rest' := by simpa using h
      obtain ⟨rfl, hcd⟩ := ih (fun z hz => hxs z (by simp [hz]))
        (fun z hz => hys z (by simp [hz])) htail
      exact ⟨rfl, hcd⟩

/-- A text falls into a run of a class and a rest that does not carry it on. -/
theorem exists_run_append (p : α → Bool) (xs : List α) :
    ∃ ys zs, xs = ys ++ zs ∧ (∀ y ∈ ys, p y = true) ∧ ∀ z ∈ zs.head?, p z = false := by
  refine ⟨xs.takeWhile p, xs.dropWhile p, List.takeWhile_append_dropWhile.symm, ?_, ?_⟩
  · exact fun y hy => List.mem_takeWhile_imp hy
  · intro z hz
    have := List.head?_dropWhile_not p xs
    rw [Option.mem_def.1 hz] at this
    simpa using this

theorem dropTrailing_append (h : ∀ y ∈ ys, p y = true) (xs : List α) :
    dropTrailing p (xs ++ ys) = dropTrailing p xs := by
  rw [dropTrailing, List.reverse_append, List.dropWhile_append_of_pos (by simpa using h)]
  rfl

theorem dropTrailing_eq_self (h : ∀ x ∈ xs.getLast?, p x = false) : dropTrailing p xs = xs := by
  rcases List.eq_nil_or_concat xs with rfl | ⟨xs, x, rfl⟩
  · rfl
  · have hx : p x = false := h x (by simp)
    simp [dropTrailing_append_singleton, hx]

/-- A text that lacks a character and begins another one ends before that character there. -/
theorem prefix_of_prefix_append (hw : c ∉ w) (h : w <+: xs ++ c :: rest) : w <+: xs := by
  obtain ⟨zs, hzs⟩ := h
  rcases List.append_eq_append_iff.1 hzs with ⟨us, rfl, _⟩ | ⟨us, rfl, hus⟩
  · exact List.prefix_append w us
  · cases us with
    | nil => simp
    | cons u us =>
      obtain ⟨rfl, _⟩ : c = u ∧ _ := by simpa using hus
      simp at hw

/-- A text that lacks a character and ends another one begins after that character there. -/
theorem suffix_of_suffix_append (hw : c ∉ w) (h : w <:+ xs ++ c :: rest) : w <:+ rest := by
  obtain ⟨zs, hzs⟩ := h
  rcases List.append_eq_append_iff.1 hzs with ⟨us, rfl, hus⟩ | ⟨us, rfl, hus⟩
  · simp [hus] at hw
  · cases us with
    | nil =>
      obtain rfl : c :: rest = w := by simpa using hus
      simp at hw
    | cons u us =>
      obtain ⟨-, rfl⟩ : c = u ∧ rest = us ++ w := by simpa using hus
      exact List.suffix_append us w

/-- A text is cut in one way only at its last occurrence of a character. -/
theorem append_inj_of_last {ys rest' : List α} (hrest : c ∉ rest) (hrest' : c ∉ rest')
    (h : xs ++ c :: rest = ys ++ c :: rest') : xs = ys ∧ rest = rest' := by
  have hle : rest.length ≤ rest'.length :=
    (suffix_of_suffix_append hrest ⟨xs ++ [c], by rw [← h]; simp⟩).length_le
  have hge : rest'.length ≤ rest.length :=
    (suffix_of_suffix_append hrest' ⟨ys ++ [c], by rw [h]; simp⟩).length_le
  obtain ⟨hxy, htail⟩ := List.append_inj' h (by simp only [List.length_cons]; omega)
  exact ⟨hxy, (List.cons.inj htail).2⟩

/-- What follows a text that lacks a character leads up to the character. -/
theorem exists_append_of_not_mem {us : List α} (hc : c ∉ xs) (h : xs ++ ys = us ++ c :: rest) :
    ∃ ts, us = xs ++ ts ∧ ys = ts ++ c :: rest := by
  obtain ⟨ts, rfl⟩ := prefix_of_prefix_append hc ⟨ys, h⟩
  exact ⟨ts, rfl, by simpa using h⟩

/-- A text that holds a character leads across its first occurrence. -/
theorem exists_append_of_mem {us : List α} (hc : c ∉ xs) (hmem : c ∈ us)
    (h : us ++ ys = xs ++ c :: rest) :
    ∃ ts, us = xs ++ c :: ts ∧ rest = ts ++ ys := by
  rcases List.append_eq_append_iff.1 h with ⟨ts, rfl, -⟩ | ⟨ts, rfl, hts⟩
  · exact absurd (List.mem_append_left ts hmem) hc
  · cases ts with
    | nil => exact absurd (by simpa using hmem) hc
    | cons t ts =>
      obtain ⟨rfl, hrest⟩ : c = t ∧ rest = ts ++ ys := by simpa using hts
      exact ⟨ts, rfl, hrest⟩

/-- The shorter of two texts that a text begins with begins the longer one. -/
theorem exists_append_of_length_le {us vs : List α} (h : xs ++ us = ys ++ vs)
    (hlength : xs.length ≤ ys.length) : ∃ zs, ys = xs ++ zs ∧ us = zs ++ vs := by
  rcases List.append_eq_append_iff.1 h with hzs | ⟨zs, rfl, hvs⟩
  · exact hzs
  · have hnil : zs.length = 0 := by
      rw [List.length_append] at hlength
      omega
    obtain rfl : zs = [] := List.eq_nil_of_length_eq_zero hnil
    exact ⟨[], by simp, by simpa using hvs.symm⟩

/-- A text that lacks a character stands on one side of it. -/
theorem isInfix_or_of_not_mem (hw : c ∉ w) (h : w <:+: xs ++ c :: rest) :
    w <:+: xs ∨ w <:+: rest := by
  induction xs with
  | nil =>
    rcases List.infix_cons_iff.1 h with hpre | h
    · exact .inl (prefix_of_prefix_append hw (by simpa using hpre)).isInfix
    · exact .inr h
  | cons x xs ih =>
    rcases List.infix_cons_iff.1 h with hpre | h
    · exact .inl (prefix_of_prefix_append hw (by simpa using hpre)).isInfix
    · exact (ih h).imp_left fun h => h.trans (List.suffix_cons x xs).isInfix

/-- A text stands after a part that lacks its first character. -/
theorem isInfix_of_not_mem (hc : c ∉ xs) (h : c :: w <:+: xs ++ rest) : c :: w <:+: rest := by
  induction xs with
  | nil => exact h
  | cons x xs ih =>
    rcases List.infix_cons_iff.1 h with hpre | h
    · obtain ⟨rfl, -⟩ := List.cons_prefix_cons.1 hpre
      simp at hc
    · exact ih (fun hmem => hc (List.mem_cons_of_mem x hmem)) h

/-- A text that stands nowhere before a character which it lacks does not begin there either. -/
theorem not_isPrefix_of_not_isInfix {ys zs : List α} (hw : c ∉ w) (h : ¬ w <:+: xs)
    (hsplit : xs ++ [c] = ys ++ zs) (hzs : zs ≠ []) : ¬ w <+: zs ++ rest := by
  rcases List.eq_nil_or_concat zs with rfl | ⟨us, d, rfl⟩
  · exact absurd rfl hzs
  · rw [List.concat_eq_append, ← List.append_assoc] at hsplit
    obtain ⟨rfl, hcd⟩ := List.append_inj' hsplit rfl
    obtain rfl : c = d := by simpa using hcd
    intro hpre
    have hus : w <+: us := prefix_of_prefix_append hw (by simpa using hpre)
    exact h (hus.isInfix.trans (List.suffix_append ys us).isInfix)

end ComponentLinks.Text
