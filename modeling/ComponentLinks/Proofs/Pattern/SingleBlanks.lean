import ComponentLinks.Proofs.Pattern.Scan
import ComponentLinks.Proofs.Pattern.Spacing

/-!
# Single blanks, and scans of respaced texts

A pattern that takes a single blank leaves the other blanks of a run to what follows it. The
spacing does not matter where these are passed over: before a pattern that may begin anywhere
further on. A pattern that has to find one more blank passes over them only where its text does not
follow them at once.

A scan finds the same matches in two texts that differ in their blanks.

## Main definitions

* `Pattern.PassesOver`: what follows is read past a run of blanks.
* `Pattern.read_blank_alike`: a single blank before what passes over the others.
* `Pattern.read_anyLazy_blank_alike`: a single blank after any text.
* `Pattern.scan_alike`: the matches in two texts that differ in their blanks.
-/
namespace ComponentLinks

open Text Place

namespace Pattern

variable {ι α : Type} {bound : List Char → List Char → Prop} {E : α → α → Prop}
  {ignored : ι → Bool} {k k₁ k₂ : Place → Captures ι → Option α} {a b : Place}
  {s s₁ s₂ : Captures ι} {free : List Char → Prop}

/-! ## Blanks that are passed over -/

/-- Whether a run of blanks is passed over before texts that are `free`. -/
def PassesOver (free : List Char → Prop) (k : Place → Captures ι → Option α) : Prop :=
  ∀ last g rest s, IsGap g → (∀ c ∈ rest.head?, isBlank c = false) → free rest →
    k ⟨last, g ++ rest⟩ s = k ⟨lastAfter last g, rest⟩ s

/-- Any text before something that does not begin with a blank may begin with blanks. -/
theorem passesOver_any (free : List Char → Prop) (p : Preference) (hk : Refuses k) :
    PassesOver free ((run .any false p).read k) := by
  intro last g rest s hg _ _
  refine readRun_append_of_none p (fun _ _ => rfl) fun a ha => ?_
  obtain ⟨u, v, hv, hne, rfl⟩ := exists_of_mem_placesIn ha
  obtain ⟨c, v, rfl⟩ := List.exists_cons_of_ne_nil hne
  exact hk _ c _ s (hg.blank c (by simp [hv]))

theorem passesOver_opt {p : Pattern ι} (hp : PassesOver free (p.read k))
    (hk : PassesOver free k) : PassesOver free ((opt p).read k) := by
  intro last g rest s hg hrest hfree
  rw [read_opt_eq_or, read_opt_eq_or, hp last g rest s hg hrest hfree,
    hk last g rest s hg hrest hfree]

/-- The blank that is taken after any text is the last one of a run. -/
theorem read_anyLazy_blank_append (hk : Refuses k) {last : Option Char} {g rest : List Char}
    (hg : IsGap g) :
    (manyLazy .any).read ((one .blank).read k) ⟨last, g ++ rest⟩ s =
      (k ⟨lastAfter last g, rest⟩ s).or
        ((manyLazy .any).read ((one .blank).read k) ⟨lastAfter last g, rest⟩ s) := by
  obtain ⟨hne, hblank⟩ := hg
  induction g generalizing last with
  | nil => exact absurd rfl hne
  | cons c g ih =>
    have hc : isBlank c = true := hblank c (by simp)
    have hstep : (manyLazy .any).read ((one .blank).read k) ⟨last, c :: (g ++ rest)⟩ s =
        (k ⟨some c, g ++ rest⟩ s).or
          ((manyLazy .any).read ((one .blank).read k) ⟨some c, g ++ rest⟩ s) := by
      simp only [manyLazy, read, readRun, readShortest, readOne, CharClass.has, hc, if_true]
      cases k ⟨some c, g ++ rest⟩ s <;> rfl
    rw [List.cons_append, hstep, lastAfter_cons]
    cases g with
    | nil => rfl
    | cons d g =>
      rw [List.cons_append, hk _ d _ s (hblank d (by simp)), Option.none_or, ← List.cons_append]
      exact ih (by simp) fun e he => hblank e (by simp [he])

/-- One more blank is found past a run where nothing is read right after the run. -/
theorem passesOver_anyLazy_blank (hk : Refuses k)
    (hnone : ∀ last rest s, free rest → k ⟨last, rest⟩ s = none) :
    PassesOver free ((manyLazy .any).read ((one .blank).read k)) := by
  intro last g rest s hg _ hfree
  rw [read_anyLazy_blank_append hk hg, hnone _ _ _ hfree, Option.none_or]

theorem PassesOver.append {gap rest : List Char} (hk : PassesOver free k)
    (hgap : ∀ c ∈ gap, isBlank c = true) (hrest : ∀ c ∈ rest.head?, isBlank c = false)
    (hfree : free rest) (c : Char) (s : Captures ι) :
    k ⟨some c, gap ++ rest⟩ s = k ⟨lastAfter (some c) gap, rest⟩ s := by
  cases gap with
  | nil => rfl
  | cons d gap => exact hk _ _ _ _ ⟨by simp, hgap⟩ hrest hfree

/-- A single blank reads corresponding texts alike, where the other blanks are passed over or are
as many in both texts. -/
theorem read_blank_alike {w : List Char} (hrespaced : Respaced bound w a.rest b.rest)
    (hfree : ∀ xs ys, Respaced bound [] xs ys → (free xs ∧ free ys) ∨ (w ≠ [] ∧ bound w xs))
    (hk₁ : PassesOver free k₁) (hk₂ : PassesOver free k₂)
    (hk : ∀ a' b', Reaches a a' → Reaches b b' → Abreast bound false a' b' →
      Option.Rel E (k₁ a' s₁) (k₂ b' s₂)) :
    Option.Rel E ((one .blank).read k₁ a s₁) ((one .blank).read k₂ b s₂) := by
  obtain ⟨last, xs⟩ := a
  obtain ⟨last', ys⟩ := b
  simp only at hrespaced
  cases hrespaced with
  | nil => exact .none
  | visible hc =>
    simp only [read, readOne, CharClass.has, hc]
    exact .none
  | @gap _ g h xs ys hg hh hxs hys hbound hrest =>
    obtain ⟨c, g, rfl⟩ := List.exists_cons_of_ne_nil hg.ne_nil
    obtain ⟨d, h, rfl⟩ := List.exists_cons_of_ne_nil hh.ne_nil
    simp only [read, readOne, List.cons_append, CharClass.has, hg.blank c (by simp),
      hh.blank d (by simp), if_true]
    have hgblank : ∀ e ∈ g, isBlank e = true := fun e he => hg.blank e (by simp [he])
    have hhblank : ∀ e ∈ h, isBlank e = true := fun e he => hh.blank e (by simp [he])
    have hreach : ∀ last e (g rest : List Char),
        Reaches ⟨last, e :: (g ++ rest)⟩ ⟨lastAfter (some e) g, rest⟩ :=
      fun _ e g _ => ⟨e :: g, rfl, by simp⟩
    rcases hfree xs ys hrest with ⟨hfx, hfy⟩ | ⟨hw, hwbound⟩
    · -- What follows passes over the rest of either gap.
      rw [hk₁.append hgblank hxs hfx, hk₂.append hhblank hys hfy]
      exact hk _ _ (hreach last c g xs) (hreach last' d h ys) ⟨⟨[], hrest⟩, by simp⟩
    · -- Both gaps are single blanks or neither is, so both leave a gap or both leave nothing.
      have hsame := hbound hw hwbound
      refine hk _ _ (reaches_append last [c] (g ++ xs)) (reaches_append last' [d] (h ++ ys))
        ⟨⟨[], ?_⟩, by simp⟩
      cases g with
      | nil =>
        obtain rfl : h = [] := by simpa using hsame
        exact hrest
      | cons e g =>
        have hne : h ≠ [] := by
          rintro rfl
          simp at hsame
        exact .gap ⟨by simp, hgblank⟩ ⟨hne, hhblank⟩ hxs hys (by simp) hrest

/-- A single blank after any text reads corresponding texts alike, before what does not begin with
a blank. -/
theorem read_anyLazy_blank_alike {solid : Bool} (hab : Abreast bound solid a b)
    (hk₁ : Refuses k₁) (hk₂ : Refuses k₂)
    (hk : ∀ a' b', Reaches a a' → Reaches b b' → Abreast bound false a' b' →
      Option.Rel E (k₁ a' s₁) (k₂ b' s₂)) :
    Option.Rel E ((manyLazy .any).read ((one .blank).read k₁) a s₁)
      ((manyLazy .any).read ((one .blank).read k₂) b s₂) := by
  obtain ⟨last, xs⟩ := a
  obtain ⟨last', ys⟩ := b
  obtain ⟨⟨w, hrespaced⟩, -⟩ := hab
  simp only at hrespaced
  induction hrespaced generalizing last last' with
  | nil => exact .none
  | @visible _ xs ys c hc _ ih =>
    have hstep : ∀ (k : Place → Captures ι → Option α) s last rest,
        (manyLazy .any).read ((one .blank).read k) ⟨last, c :: rest⟩ s =
          (manyLazy .any).read ((one .blank).read k) ⟨some c, rest⟩ s := by
      intro k s last rest
      simp [manyLazy, read, readRun, readShortest, readOne, CharClass.has, hc]
    rw [hstep, hstep]
    exact ih _ _ fun a' b' ha hb =>
      hk a' b' ((reaches_append last [c] xs).trans ha) ((reaches_append last' [c] ys).trans hb)
  | @gap _ g h xs ys hg hh _ _ _ hrest ih =>
    rw [read_anyLazy_blank_append hk₁ hg, read_anyLazy_blank_append hk₂ hh]
    refine rel_or ?_ (ih _ _ fun a' b' ha hb =>
      hk a' b' ((reaches_append last g xs).trans ha) ((reaches_append last' h ys).trans hb))
    exact hk _ _ (reaches_append last g xs) (reaches_append last' h ys) ⟨⟨[], hrest⟩, by simp⟩

/-! ## Scans -/

section Scan

variable {p : Pattern ι} {xs ys w : List Char}

/-- A pattern matches at corresponding places, with corresponding ends. -/
theorem matchAt?_alike {solid : Bool} (hp : p.ignoresSpacing ignored solid false = true)
    (hab : Abreast bound solid a b) :
    Option.Rel (fun r r' => Reaches a r.1 ∧ Reaches b r'.1 ∧
        Abreast bound (p.endsSolid solid) r.1 r'.1 ∧ Captures.Alike ignored r.2 r'.2)
      (p.matchAt? a) (p.matchAt? b) :=
  read_alike hp hab .nil (by simp) fun _ _ _ _ ha hb hab' hs => .some ⟨ha, hb, hab', hs⟩

theorem matchAt?_eq_none_iff {solid : Bool} (hp : p.ignoresSpacing ignored solid false = true)
    (hab : Abreast bound solid a b) : p.matchAt? a = none ↔ p.matchAt? b = none := by
  have hrel := matchAt?_alike hp hab
  generalize p.matchAt? a = r at hrel ⊢
  generalize p.matchAt? b = r' at hrel ⊢
  cases hrel <;> simp

/-- The scans of two texts that differ in their blanks find the same matches, up to the blanks in
what is kept. -/
theorem scan_alike (hp : p.ignoresSpacing ignored false false = true)
    (hshort : ∀ a b s, p.matchAt? a = some (b, s) → b.rest.length < a.rest.length)
    (hrespaced : Respaced bound w xs ys) :
    List.Forall₂ (fun m m' => Captures.Alike ignored m.captures m'.captures)
      (p.scan xs) (p.scan ys) := by
  have hscan : ∀ n m last last', List.Forall₂
      (fun m m' => Captures.Alike ignored m.captures m'.captures)
      (p.scanFrom n 0 last xs) (p.scanFrom m 0 last' ys) := by
    induction hlength : xs.length using Nat.strong_induction_on generalizing xs ys w with
    | _ len ih =>
      intro n m last last'
      have hmatch := matchAt?_alike (p := p) (a := ⟨last, xs⟩) (b := ⟨last', ys⟩) hp
        ⟨⟨w, hrespaced⟩, by simp⟩
      generalize ha : p.matchAt? ⟨last, xs⟩ = r at hmatch
      generalize hb : p.matchAt? ⟨last', ys⟩ = r' at hmatch
      cases hmatch with
      | @some r r' h =>
        obtain ⟨⟨x, hx, -⟩, ⟨y, hy, -⟩, hab, hs⟩ := h
        obtain ⟨⟨end_, xs'⟩, s⟩ := r
        obtain ⟨⟨end', ys'⟩, s'⟩ := r'
        simp only at hx hy
        subst hx hy
        have hxne : x ≠ [] := by
          rintro rfl
          simpa using hshort _ _ _ ha
        have hyne : y ≠ [] := by
          rintro rfl
          simpa using hshort _ _ _ hb
        rw [scanFrom_match hxne ha, scanFrom_match hyne hb]
        obtain ⟨w', hrespaced'⟩ := hab.rest
        have hlt : xs'.length < len := by
          have := List.length_pos_iff.2 hxne
          simp only [List.length_append] at hlength
          omega
        exact .cons hs (ih _ hlt hrespaced' rfl _ _ _ _)
      | none =>
        cases hrespaced with
        | nil => simp
        | @visible _ xs ys c hc h =>
          simp only [scanFrom, ha, hb]
          rw [List.length_cons] at hlength
          exact ih xs.length (by omega) h rfl _ _ _ _
        | @gap _ g h xs ys hg hh hxs hys _ hrest =>
          -- No match begins at any of the corresponding places between the blanks.
          have hplace : ∀ {v v' : List Char} {l l' : Option Char}, v <:+ g → v' <:+ h →
              v ≠ [] → v' ≠ [] → Abreast bound false ⟨l, v ++ xs⟩ ⟨l', v' ++ ys⟩ := by
            intro v v' l l' hv hv' hne hne'
            exact ⟨⟨[], .gap ⟨hne, fun c hc => hg.blank c (hv.subset hc)⟩
              ⟨hne', fun c hc => hh.blank c (hv'.subset hc)⟩ hxs hys (by simp) hrest⟩, by simp⟩
          rw [scanFrom_pass fun u v hu hv => (matchAt?_eq_none_iff hp
              (hplace ⟨u, hu.symm⟩ (List.suffix_refl h) hv hh.ne_nil)).2 hb,
            scanFrom_pass fun u v hu hv => (matchAt?_eq_none_iff hp
              (hplace (List.suffix_refl g) ⟨u, hu.symm⟩ hg.ne_nil hv)).1 ha]
          have hlt : xs.length < len := by
            have := List.length_pos_iff.2 hg.ne_nil
            simp only [List.length_append] at hlength
            omega
          exact ih _ hlt hrest rfl _ _ _ _
  exact hscan 0 0 none none

end Scan

end Pattern

end ComponentLinks
