import ComponentLinks.Proofs.Text.Classes

/-!
# Texts that differ in their blanks

Two texts with the same words are compared character by character, and where both have blanks, run
of blanks by run of blanks. A run may be of another length and of other blanks in the other text.

## Main definitions

* `Text.squeeze`: a text with one space in the place of each run of blanks.
* `Text.IsGap`: a run of blanks.
* `Text.Respaced`: two texts that differ in their blanks only.
* `Text.Respaced.squeeze_eq`, `Text.respaced_of_squeeze_eq`: they are the same when squeezed.
* `Text.Respaced.text`: they go on with the same characters.
-/
namespace ComponentLinks.Text

/-! ## Squeezed texts -/

/-- A text with one space in the place of each run of blanks. -/
def squeeze : List Char → List Char
  | [] => []
  | c :: cs =>
    if isBlank c then
      if cs.head?.any isBlank then squeeze cs else ' ' :: squeeze cs
    else c :: squeeze cs

@[simp] theorem squeeze_nil : squeeze [] = [] := rfl

theorem squeeze_cons_visible {c : Char} (hc : isBlank c = false) (cs : List Char) :
    squeeze (c :: cs) = c :: squeeze cs := by
  simp [squeeze, hc]

theorem squeeze_cons_blank {c : Char} (hc : isBlank c = true) {cs : List Char}
    (hcs : ∀ d ∈ cs.head?, isBlank d = false) : squeeze (c :: cs) = ' ' :: squeeze cs := by
  have hhead : cs.head?.any isBlank = false := by
    cases cs with
    | nil => rfl
    | cons d cs => simpa using hcs d (by simp)
  simp [squeeze, hc, hhead]

theorem squeeze_cons_cons_blank {c d : Char} (hc : isBlank c = true) (hd : isBlank d = true)
    (cs : List Char) : squeeze (c :: d :: cs) = squeeze (d :: cs) := by
  simp [squeeze, hc, hd]

theorem squeeze_of_visible {cs : List Char} (h : ∀ c ∈ cs, isBlank c = false) :
    squeeze cs = cs := by
  induction cs with
  | nil => rfl
  | cons c cs ih => rw [squeeze_cons_visible (h c (by simp)), ih fun d hd => h d (by simp [hd])]

/-- No two runs of blanks come together where one of the two texts has no blank at the cut. -/
theorem squeeze_append {xs ys : List Char}
    (h : ∀ c ∈ xs.getLast?, ∀ d ∈ ys.head?, isBlank c = true → isBlank d = false) :
    squeeze (xs ++ ys) = squeeze xs ++ squeeze ys := by
  induction xs with
  | nil => rfl
  | cons c xs ih =>
    by_cases hc : isBlank c = true
    · cases xs with
      | nil =>
        rw [squeeze_cons_blank hc (by simp), List.singleton_append,
          squeeze_cons_blank hc fun d hd => h c (by simp) d hd hc]
        simp
      | cons x xs =>
        have ih' := ih fun d hd => h d (by simpa using hd)
        by_cases hx : isBlank x = true
        · rw [List.cons_append] at ih'
          rw [squeeze_cons_cons_blank hc hx, List.cons_append, List.cons_append,
            squeeze_cons_cons_blank hc hx, ih']
        · have hx' : isBlank x = false := by simpa using hx
          rw [squeeze_cons_blank hc (by simpa using hx'), List.cons_append,
            squeeze_cons_blank hc (by simpa using hx'), ih', List.cons_append]
    · have hc' : isBlank c = false := by simpa using hc
      rw [List.cons_append, squeeze_cons_visible hc', squeeze_cons_visible hc', ih ?_,
        List.cons_append]
      intro d hd
      cases xs with
      | nil => simp at hd
      | cons x xs => exact h d (by simpa using hd)

/-- Visible characters are kept as they are. -/
theorem squeeze_visible_append {xs : List Char} (hxs : ∀ c ∈ xs, isBlank c = false)
    (ys : List Char) : squeeze (xs ++ ys) = xs ++ squeeze ys := by
  have hlast : ∀ c ∈ xs.getLast?, isBlank c = false := fun c hc =>
    hxs c (List.mem_of_getLast? hc)
  rw [squeeze_append fun c hc _ _ hblank => ?_, squeeze_of_visible hxs]
  simp [hlast c hc] at hblank

theorem squeeze_append_cons {c : Char} (hc : isBlank c = false) (xs ys : List Char) :
    squeeze (xs ++ c :: ys) = squeeze xs ++ c :: squeeze ys := by
  rw [squeeze_append (by simp [hc]), squeeze_cons_visible hc]

/-- A text without blanks once it is squeezed has none. -/
theorem visible_of_squeeze {cs : List Char} (h : ∀ c ∈ squeeze cs, isBlank c = false) :
    ∀ c ∈ cs, isBlank c = false := by
  induction cs with
  | nil => simp
  | cons c cs ih =>
    by_cases hc : isBlank c = true
    · by_cases hcs : cs.head?.any isBlank = true
      · have hvisible := ih (by simpa [squeeze, hc, hcs] using h)
        cases cs with
        | nil => simp at hcs
        | cons d cs => simp [hvisible d (by simp)] at hcs
      · have hspace := h ' ' (by simp [squeeze, hc, hcs])
        exact absurd hspace (by decide)
    · have hc' : isBlank c = false := by simpa using hc
      rw [squeeze_cons_visible hc'] at h
      intro d hd
      rcases List.mem_cons.1 hd with rfl | hd
      · exact hc'
      · exact ih (fun e he => h e (by simp [he])) d hd

/-- A text without blanks is known from what it is squeezed to. -/
theorem eq_of_squeeze_eq {xs ys : List Char} (h : squeeze xs = squeeze ys)
    (hxs : ∀ c ∈ xs, isBlank c = false) : xs = ys := by
  have hys : ∀ c ∈ ys, isBlank c = false := by
    refine visible_of_squeeze ?_
    rwa [← h, squeeze_of_visible hxs]
  rwa [squeeze_of_visible hxs, squeeze_of_visible hys] at h

/-! ## Runs of blanks -/

/-- A run of blanks, at least one of them. -/
structure IsGap (g : List Char) : Prop where
  ne_nil : g ≠ []
  blank : ∀ c ∈ g, isBlank c = true

/-- A run of blanks that does not go on is squeezed to one space. -/
theorem IsGap.squeeze_append {g xs : List Char} (hg : IsGap g)
    (hxs : ∀ c ∈ xs.head?, isBlank c = false) : squeeze (g ++ xs) = ' ' :: squeeze xs := by
  obtain ⟨hne, hblank⟩ := hg
  induction g with
  | nil => exact absurd rfl hne
  | cons c g ih =>
    have hc : isBlank c = true := hblank c (by simp)
    cases g with
    | nil => exact squeeze_cons_blank hc hxs
    | cons d g =>
      rw [← ih (by simp) fun e he => hblank e (by simp [he])]
      exact squeeze_cons_cons_blank hc (hblank d (by simp)) (g ++ xs)

/-- A text that begins with a blank begins with a run of blanks that ends somewhere. -/
theorem exists_gap_append {c : Char} (cs : List Char) (hc : isBlank c = true) :
    ∃ g xs, c :: cs = g ++ xs ∧ IsGap g ∧ ∀ d ∈ xs.head?, isBlank d = false := by
  obtain ⟨g, xs, hcs, hg, hxs⟩ := exists_run_append isBlank (c :: cs)
  refine ⟨g, xs, hcs, ⟨?_, hg⟩, hxs⟩
  rintro rfl
  rw [List.nil_append] at hcs
  subst hcs
  simp [hc] at hxs

/-! ## Respaced texts -/

/-- Two texts that differ in their blanks only, inside a word that began with `w` (empty between
words). A run of blanks may be of another length in the other text; where `bound` holds of the word
before the run and the text after it, the run is a single blank in both texts or in none. -/
inductive Respaced (bound : List Char → List Char → Prop) :
    List Char → List Char → List Char → Prop
  | nil (w : List Char) : Respaced bound w [] []
  | visible {w xs ys : List Char} {c : Char} (hc : isBlank c = false)
      (h : Respaced bound (w ++ [c]) xs ys) : Respaced bound w (c :: xs) (c :: ys)
  | gap {w g h xs ys : List Char} (hg : IsGap g) (hh : IsGap h)
      (hxs : ∀ c ∈ xs.head?, isBlank c = false) (hys : ∀ c ∈ ys.head?, isBlank c = false)
      (hbound : w ≠ [] → bound w xs → (g.length = 1 ↔ h.length = 1))
      (hrest : Respaced bound [] xs ys) : Respaced bound w (g ++ xs) (h ++ ys)

namespace Respaced

variable {bound : List Char → List Char → Prop} {w xs ys : List Char}

theorem squeeze_eq (h : Respaced bound w xs ys) : squeeze xs = squeeze ys := by
  induction h with
  | nil => rfl
  | visible hc _ ih => rw [squeeze_cons_visible hc, squeeze_cons_visible hc, ih]
  | gap hg hh hxs hys _ _ ih => rw [hg.squeeze_append hxs, hh.squeeze_append hys, ih]

/-- Both texts go on with a blank, with the same other character, or not at all. -/
theorem head_cases (h : Respaced bound w xs ys) :
    (xs = [] ∧ ys = []) ∨
    (∃ c xs' ys', xs = c :: xs' ∧ ys = c :: ys' ∧ isBlank c = false) ∨
    (∃ c d xs' ys', xs = c :: xs' ∧ ys = d :: ys' ∧ isBlank c = true ∧ isBlank d = true) := by
  cases h with
  | nil => exact .inl ⟨rfl, rfl⟩
  | visible hc _ => exact .inr (.inl ⟨_, _, _, rfl, rfl, hc⟩)
  | gap hg hh =>
    obtain ⟨c, g, rfl⟩ := List.exists_cons_of_ne_nil hg.ne_nil
    obtain ⟨d, h, rfl⟩ := List.exists_cons_of_ne_nil hh.ne_nil
    exact .inr (.inr ⟨c, d, _, _, rfl, rfl, hg.blank c (by simp), hh.blank d (by simp)⟩)

/-- A word in front of both texts belongs to the word that they are in. -/
theorem visible_append {v : List Char} (hv : ∀ c ∈ v, isBlank c = false)
    (h : Respaced bound (w ++ v) xs ys) : Respaced bound w (v ++ xs) (v ++ ys) := by
  induction v generalizing w with
  | nil => simpa using h
  | cons c v ih =>
    exact .visible (hv c (by simp)) (ih (fun d hd => hv d (by simp [hd])) (by simpa using h))

/-- Both texts go on with the characters `v`, or none of them does. -/
theorem text {v : List Char} (hv : ∀ c ∈ v, isBlank c = false) (h : Respaced bound w xs ys) :
    (∃ xs' ys', xs = v ++ xs' ∧ ys = v ++ ys' ∧ Respaced bound (w ++ v) xs' ys') ∨
    (¬ v <+: xs ∧ ¬ v <+: ys) := by
  induction v generalizing w xs ys with
  | nil => exact .inl ⟨xs, ys, rfl, rfl, by simpa using h⟩
  | cons c v ih =>
    have hc : isBlank c = false := hv c (by simp)
    cases h with
    | nil => simp
    | @visible _ xs ys d hd h =>
      by_cases hcd : c = d
      · subst hcd
        rcases ih (fun e he => hv e (by simp [he])) h with ⟨xs', ys', rfl, rfl, h'⟩ | ⟨hxs, hys⟩
        · exact .inl ⟨xs', ys', rfl, rfl, by simpa using h'⟩
        · exact .inr ⟨by simpa using hxs, by simpa using hys⟩
      · exact .inr ⟨by simp [hcd], by simp [hcd]⟩
    | gap hg hh =>
      obtain ⟨d, g, rfl⟩ := List.exists_cons_of_ne_nil hg.ne_nil
      obtain ⟨e, h, rfl⟩ := List.exists_cons_of_ne_nil hh.ne_nil
      have hd := hg.blank d (by simp)
      have he := hh.blank e (by simp)
      refine .inr ⟨?_, ?_⟩
      · rintro ⟨rest, hrest⟩
        obtain rfl : c = d := (List.cons.inj hrest).1
        simp [hc] at hd
      · rintro ⟨rest, hrest⟩
        obtain rfl : c = e := (List.cons.inj hrest).1
        simp [hc] at he

end Respaced

/-- Texts that are squeezed to the same differ in their blanks only. -/
theorem respaced_of_squeeze_eq {xs ys : List Char} (h : squeeze xs = squeeze ys) (w : List Char) :
    Respaced (fun _ _ => False) w xs ys := by
  -- A run of blanks is taken at once, so the induction is on the length of the first text.
  induction hn : xs.length using Nat.strong_induction_on generalizing xs ys w with
  | _ n ih =>
    cases xs with
    | nil =>
      have hys : ys = [] := (eq_of_squeeze_eq h (by simp)).symm
      rw [hys]
      exact .nil w
    | cons c xs =>
      by_cases hc : isBlank c = true
      · obtain ⟨g, xs', hg, hgap, hxs'⟩ := exists_gap_append xs hc
        rw [hg] at h hn ⊢
        rw [hgap.squeeze_append hxs'] at h
        cases ys with
        | nil => simp at h
        | cons d ys =>
          have hd : isBlank d = true := by
            by_contra hd
            rw [squeeze_cons_visible (by simpa using hd)] at h
            obtain rfl : ' ' = d := (List.cons.inj h).1
            exact hd (by decide)
          obtain ⟨k, ys', hk, hkgap, hys'⟩ := exists_gap_append ys hd
          rw [hk] at h ⊢
          rw [hkgap.squeeze_append hys'] at h
          have hlength : xs'.length < n := by
            have := List.length_pos_iff.2 hgap.ne_nil
            simp only [List.length_append] at hn
            omega
          exact .gap hgap hkgap hxs' hys' (by simp) (ih _ hlength (List.cons.inj h).2 [] rfl)
      · have hc' : isBlank c = false := by simpa using hc
        rw [squeeze_cons_visible hc'] at h
        cases ys with
        | nil => simp at h
        | cons d ys =>
          by_cases hd : isBlank d = true
          · obtain ⟨k, ys', hk, hkgap, hys'⟩ := exists_gap_append ys hd
            rw [hk, hkgap.squeeze_append hys'] at h
            obtain rfl : c = ' ' := (List.cons.inj h).1
            exact absurd hc' (by decide)
          · rw [squeeze_cons_visible (by simpa using hd)] at h
            obtain ⟨rfl, hrest⟩ := List.cons.inj h
            rw [List.length_cons] at hn
            exact .visible hc' (ih xs.length (by omega) hrest _ rfl)

end ComponentLinks.Text
