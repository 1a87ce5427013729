import ComponentLinks.Pattern.Readings
import ComponentLinks.Proofs.Pattern.First
import ComponentLinks.Proofs.Text.Respaced
import Mathlib.Data.List.Forall2

/-!
# Patterns for which the spacing does not matter

A pattern that tells a blank from a run of blanks only where that cannot be seen reads two texts
that differ in their blanks alike. Whether a pattern is of this kind is computed from its form: a
class has all blanks or none, a run of at least one blank is followed by something that begins with
no blank, and what is kept ends with no blank or before none.

## Main definitions

* `CharClass.isSolid`, `CharClass.isOpen`: classes with no blank and with every blank.
* `Pattern.refusesBlank`: patterns that do not begin with a blank.
* `Pattern.endsSolid`: patterns that do not end with a blank.
* `Pattern.ignoresSpacing`: the patterns for which the spacing does not matter.
* `Place.Abreast`, `Capture.Alike`: corresponding places and captures in two texts.
* `Pattern.read_alike`: such a pattern reads the same from corresponding places.
-/
namespace ComponentLinks

open Text

/-! ## The form of a pattern -/

namespace CharClass

/-- Whether a class has no blank. -/
def isSolid : CharClass → Bool
  | visible | word | name | dottedName => true
  | oneOf cs => cs.all fun c => !isBlank c
  | any | blank | noneOf _ => false

/-- Whether a class has every blank. -/
def isOpen : CharClass → Bool
  | any | blank => true
  | noneOf cs => cs.all fun c => !isBlank c
  | visible | word | name | dottedName | oneOf _ => false

variable {t : CharClass} {c : Char}

theorem has_of_isOpen (h : t.isOpen = true) (hc : isBlank c = true) : t.has c = true := by
  cases t with
  | any => rfl
  | blank => exact hc
  | noneOf cs =>
    simp only [isOpen, List.all_eq_true, Bool.not_eq_true'] at h
    simp only [has, Bool.not_eq_true', List.contains_eq_mem, decide_eq_false_iff_not]
    intro hmem
    simp [h c hmem] at hc
  | visible | word | name | dottedName | oneOf => simp [isOpen] at h

theorem has_eq_false_of_isSolid (h : t.isSolid = true) (hc : isBlank c = true) :
    t.has c = false := by
  have hname : isName c = false := isName_eq_false_of_isBlank hc
  cases t with
  | visible => simp [has, hc]
  | word => simp_all [has, isName]
  | name => exact hname
  | dottedName =>
    have hdot : c ≠ '.' := by
      rintro rfl
      exact absurd hc (by decide)
    simp [has, hname, hdot]
  | oneOf cs =>
    simp only [isSolid, List.all_eq_true, Bool.not_eq_true'] at h
    simp only [has, List.contains_eq_mem, decide_eq_false_iff_not]
    intro hmem
    simp [h c hmem] at hc
  | any | blank | noneOf => simp [isSolid] at h

end CharClass

namespace Pattern

variable {ι α : Type}

/-- Whether the pattern does not read a text that begins with a blank, if what follows it does not
go on there (`refused`). -/
def refusesBlank (refused : Bool) : Pattern ι → Bool
  | text [] => refused
  | text (c :: _) => !isBlank c
  | one t => t.isSolid
  | run t nonempty _ => t.isSolid && (nonempty || refused)
  | seq p q => p.refusesBlank (q.refusesBlank refused)
  | alt p q => p.refusesBlank refused && q.refusesBlank refused
  | opt p => p.refusesBlank refused && refused
  | capture _ p => p.refusesBlank refused
  | start | boundary | blankOrEnd | notBefore _ => refused

/-- Whether what has been read before the end of the pattern does not end with a blank, if what
has been read before the pattern does not (`solid`). -/
def endsSolid (solid : Bool) : Pattern ι → Bool
  | text w => w.getLast?.elim solid fun c => !isBlank c
  | one t => t.isSolid
  | run t nonempty _ => t.isSolid && (nonempty || solid)
  | seq p q => q.endsSolid (p.endsSolid solid)
  | alt p q => p.endsSolid solid && q.endsSolid solid
  | opt p => p.endsSolid solid && solid
  | capture _ p => p.endsSolid solid
  | start | boundary | blankOrEnd | notBefore _ => solid

/-- Whether the spacing of a text does not matter to the pattern, after something that does not end
with a blank (`solid`), and before something that does not begin with one (`refused`). What is kept
under the fields in `ignored` may depend on the spacing. -/
def ignoresSpacing (ignored : ι → Bool) (solid refused : Bool) : Pattern ι → Bool
  | text w | notBefore w => w.all fun c => !isBlank c
  | one t => t.isSolid
  | run t nonempty _ => t.isSolid || (t.isOpen && (!nonempty || refused))
  | seq p q =>
    p.ignoresSpacing ignored solid (q.refusesBlank refused) &&
      q.ignoresSpacing ignored (p.endsSolid solid) refused
  | alt p q => p.ignoresSpacing ignored solid refused && q.ignoresSpacing ignored solid refused
  | opt p => p.ignoresSpacing ignored solid refused
  | capture f p =>
    p.ignoresSpacing ignored solid refused && (ignored f || refused || p.endsSolid solid)
  | start => false
  | boundary => solid
  | blankOrEnd => true

section Form

variable {ignored : ι → Bool} {solid refused : Bool} {p q : Pattern ι}

theorem ignoresSpacing_seq (hp : p.ignoresSpacing ignored solid (q.refusesBlank refused) = true)
    (hq : q.ignoresSpacing ignored (p.endsSolid solid) refused = true) :
    (seq p q).ignoresSpacing ignored solid refused = true :=
  Bool.and_eq_true_iff.2 ⟨hp, hq⟩

theorem ignoresSpacing_alt (hp : p.ignoresSpacing ignored solid refused = true)
    (hq : q.ignoresSpacing ignored solid refused = true) :
    (alt p q).ignoresSpacing ignored solid refused = true :=
  Bool.and_eq_true_iff.2 ⟨hp, hq⟩

theorem ignoresSpacing_text {w : List Char} (hw : ∀ c ∈ w, isBlank c = false) :
    (text w : Pattern ι).ignoresSpacing ignored solid refused = true := by
  simpa [ignoresSpacing] using hw

end Form

/-! ## Text that begins with a blank -/

/-- Whether nothing is read from a place before a blank. -/
def Refuses (k : Place → Captures ι → Option α) : Prop :=
  ∀ last c cs s, isBlank c = true → k ⟨last, c :: cs⟩ s = none

variable {k : Place → Captures ι → Option α} {t : CharClass} {last : Option Char} {c : Char}
  {cs : List Char} {s : Captures ι}

theorem readRun_of_has_eq_false (hc : t.has c = false) (p : Preference)
    (k : Place → Option α) : readRun t p k ⟨last, c :: cs⟩ = k ⟨last, c :: cs⟩ := by
  cases p with
  | longest => simp [readRun, readLongest, hc]
  | shortest =>
    simp only [readRun, readShortest, hc]
    cases k ⟨last, c :: cs⟩ <;> simp

theorem refuses_read {p : Pattern ι} {refused : Bool} (hp : p.refusesBlank refused = true)
    (hk : refused = true → Refuses k) : Refuses (p.read k) := by
  induction p generalizing refused k with
  | text w =>
    intro last c cs s hc
    cases w with
    | nil => exact hk hp last c cs s hc
    | cons d w =>
      refine read_text_of_not_isPrefix ?_
      rintro ⟨rest, hrest⟩
      obtain rfl : d = c := (List.cons.inj hrest).1
      simp [refusesBlank, hc] at hp
  | one t =>
    intro last c cs s hc
    simp [read, readOne, CharClass.has_eq_false_of_isSolid hp hc]
  | run t nonempty p =>
    intro last c cs s hc
    simp only [refusesBlank, Bool.and_eq_true, Bool.or_eq_true] at hp
    have hhas := CharClass.has_eq_false_of_isSolid hp.1 hc
    cases nonempty with
    | true => simp [read, readOne, hhas]
    | false =>
      simp only [read, readRun_of_has_eq_false hhas]
      exact hk (by simpa using hp.2) last c cs s hc
  | seq p q ihp ihq => exact ihp hp fun hq => ihq hq hk
  | alt p q ihp ihq =>
    intro last c cs s hc
    simp only [refusesBlank, Bool.and_eq_true] at hp
    exact read_alt_eq_none (ihp hp.1 hk last c cs s hc) (ihq hp.2 hk last c cs s hc)
  | opt p ih =>
    intro last c cs s hc
    simp only [refusesBlank, Bool.and_eq_true] at hp
    rw [read_opt_of_none (ih hp.1 hk last c cs s hc)]
    exact hk hp.2 last c cs s hc
  | capture f p ih =>
    intro last c cs s hc
    -- What follows the pattern is what follows the capture, with one more field kept.
    exact ih (k := fun b s' => k b (⟨f, c :: cs, b.rest⟩ :: s')) hp
      (fun hr last d ds s hd => hk hr last d ds _ hd) last c cs s hc
  | start | boundary | blankOrEnd | notBefore w =>
    intro last c cs s hc
    simp only [read]
    split <;> first | rfl | exact hk hp last c cs s hc

end Pattern

/-! ## Corresponding places -/

namespace Place

variable {a b d : Place}

/-- Whether a place is reached from another one by reading on. -/
def Reaches (a b : Place) : Prop := ∃ x, a.rest = x ++ b.rest ∧ b.last = lastAfter a.last x

theorem Reaches.refl (a : Place) : a.Reaches a := ⟨[], rfl, rfl⟩

theorem Reaches.trans (hab : a.Reaches b) (hbd : b.Reaches d) : a.Reaches d := by
  obtain ⟨x, hx, hlast⟩ := hab
  obtain ⟨y, hy, hlast'⟩ := hbd
  exact ⟨x ++ y, by rw [hx, hy, List.append_assoc], by rw [hlast', hlast, lastAfter_append]⟩

theorem reaches_append (last : Option Char) (x rest : List Char) :
    (⟨last, x ++ rest⟩ : Place).Reaches ⟨lastAfter last x, rest⟩ := ⟨x, rfl, rfl⟩

/-- Corresponding places in two texts that differ in their blanks only. If `solid`, both stand right
after the same character, which is no blank. -/
structure Abreast (bound : List Char → List Char → Prop) (solid : Bool) (a b : Place) : Prop where
  rest : ∃ w, Respaced bound w a.rest b.rest
  last : solid = true → ∃ c, a.last = some c ∧ b.last = some c ∧ isBlank c = false

theorem Abreast.weaken {bound : List Char → List Char → Prop} {solid solid' : Bool}
    (h : Abreast bound solid a b) (hsolid : solid' = true → solid = true) :
    Abreast bound solid' a b :=
  ⟨h.rest, fun hs => h.last (hsolid hs)⟩

theorem Abreast.and_left {bound : List Char → List Char → Prop} {solid solid' : Bool}
    (h : Abreast bound solid a b) : Abreast bound (solid && solid') a b :=
  h.weaken fun hs => (Bool.and_eq_true _ _ ▸ hs).1

theorem Abreast.and_right {bound : List Char → List Char → Prop} {solid solid' : Bool}
    (h : Abreast bound solid' a b) : Abreast bound (solid && solid') a b :=
  h.weaken fun hs => (Bool.and_eq_true _ _ ▸ hs).2

end Place

/-- What is kept under the same field in two texts, up to the blanks in it. -/
structure Capture.Alike {ι : Type} (ignored : ι → Bool) (c d : Capture ι) : Prop where
  field : c.field = d.field
  text : ignored c.field = false → squeeze c.text = squeeze d.text

/-- What is kept in two texts, field by field. -/
def Captures.Alike {ι : Type} (ignored : ι → Bool) (s t : Captures ι) : Prop :=
  List.Forall₂ (Capture.Alike ignored) s t

namespace Pattern

open Place

variable {ι α : Type} {bound : List Char → List Char → Prop} {E : α → α → Prop}

/-! ## Runs -/

section Run

variable {t : CharClass} {k k₁ k₂ : Place → Option α} {last last' : Option Char}
  {g h xs ys : List Char}

def placesIn (last : Option Char) : List Char → List Char → List Place
  | [], _ => []
  | c :: g, rest => ⟨last, c :: (g ++ rest)⟩ :: placesIn (some c) g rest

theorem exists_of_mem_placesIn {a : Place} (ha : a ∈ placesIn last g xs) :
    ∃ u v, g = u ++ v ∧ v ≠ [] ∧ a = ⟨lastAfter last u, v ++ xs⟩ := by
  induction g generalizing last with
  | nil => simp [placesIn] at ha
  | cons c g ih =>
    rcases List.mem_cons.1 ha with rfl | ha
    · exact ⟨[], c :: g, rfl, by simp, rfl⟩
    · obtain ⟨u, v, rfl, hv, rfl⟩ := ih ha
      exact ⟨c :: u, v, rfl, hv, by simp⟩

theorem endsShortest_append (hg : ∀ c ∈ g, t.has c = true) :
    endsShortest t last (g ++ xs) = placesIn last g xs ++ endsShortest t (lastAfter last g) xs := by
  induction g generalizing last with
  | nil => rfl
  | cons c g ih =>
    have hc : t.has c = true := hg c (by simp)
    simp [endsShortest, placesIn, hc, ih fun d hd => hg d (by simp [hd])]

theorem endsLongest_append (hg : ∀ c ∈ g, t.has c = true) :
    endsLongest t last (g ++ xs) =
      endsLongest t (lastAfter last g) xs ++ (placesIn last g xs).reverse := by
  induction g generalizing last with
  | nil => simp [placesIn]
  | cons c g ih =>
    have hc : t.has c = true := hg c (by simp)
    simp [endsLongest, placesIn, hc, ih fun d hd => hg d (by simp [hd])]

/-- A run goes over characters where nothing is read from the places between them. -/
theorem readRun_append_of_none (p : Preference) (hg : ∀ c ∈ g, t.has c = true)
    (hk : ∀ a ∈ placesIn last g xs, k a = none) :
    readRun t p k ⟨last, g ++ xs⟩ = readRun t p k ⟨lastAfter last g, xs⟩ := by
  have hnone : (placesIn last g xs).findSome? k = none := List.findSome?_eq_none_iff.2 hk
  have hnone' : (placesIn last g xs).reverse.findSome? k = none :=
    List.findSome?_eq_none_iff.2 fun a ha => hk a (List.mem_reverse.1 ha)
  rw [readRun_eq_findSome?, readRun_eq_findSome?]
  cases p with
  | longest => simp [runEnds, endsLongest_append hg, List.findSome?_append, hnone']
  | shortest => simp [runEnds, endsShortest_append hg, List.findSome?_append, hnone]

theorem rel_or {x y x' y' : Option α} (h : Option.Rel E x y) (h' : Option.Rel E x' y') :
    Option.Rel E (x.or x') (y.or y') := by
  cases h with
  | some h => exact .some h
  | none => exact h'

/-- Where all places of two lists correspond, the first results do. -/
theorem rel_findSome? {L M : List Place} (hL : L ≠ []) (hM : M ≠ [])
    (h : ∀ a ∈ L, ∀ b ∈ M, Option.Rel E (k₁ a) (k₂ b)) :
    Option.Rel E (L.findSome? k₁) (M.findSome? k₂) := by
  obtain ⟨a, L, rfl⟩ := List.exists_cons_of_ne_nil hL
  obtain ⟨b, M, rfl⟩ := List.exists_cons_of_ne_nil hM
  simp only [List.findSome?_cons]
  have hab := h a (by simp) b (by simp)
  generalize hka : k₁ a = x at hab
  generalize hkb : k₂ b = y at hab
  cases hab with
  | some hxy => exact .some hxy
  | none =>
    have hL' : L.findSome? k₁ = none := by
      refine List.findSome?_eq_none_iff.2 fun a' ha' => ?_
      have := h a' (by simp [ha']) b (by simp)
      rw [hkb] at this
      generalize k₁ a' = x at this
      cases this with
      | none => rfl
    have hM' : M.findSome? k₂ = none := by
      refine List.findSome?_eq_none_iff.2 fun b' hb' => ?_
      have := h a (by simp) b' (by simp [hb'])
      rw [hka] at this
      generalize k₂ b' = y at this
      cases this with
      | none => rfl
    simp only [hL', hM']
    exact .none

/-- A run that may go over blanks reads two runs of blanks alike. -/
theorem readRun_gap_alike (p : Preference) (hg : IsGap g) (hh : IsGap h)
    (hopen : t.isOpen = true)
    (hgap : ∀ a ∈ placesIn last g xs, ∀ b ∈ placesIn last' h ys, Option.Rel E (k₁ a) (k₂ b))
    (hrest : Option.Rel E (readRun t p k₁ ⟨lastAfter last g, xs⟩)
      (readRun t p k₂ ⟨lastAfter last' h, ys⟩)) :
    Option.Rel E (readRun t p k₁ ⟨last, g ++ xs⟩) (readRun t p k₂ ⟨last', h ++ ys⟩) := by
  have hne : ∀ {last : Option Char} {g xs : List Char}, g ≠ [] → placesIn last g xs ≠ [] := by
    intro last g xs hg
    cases g with
    | nil => exact absurd rfl hg
    | cons c g => simp [placesIn]
  have hgt : ∀ c ∈ g, t.has c = true := fun c hc => CharClass.has_of_isOpen hopen (hg.blank c hc)
  have hht : ∀ c ∈ h, t.has c = true := fun c hc => CharClass.has_of_isOpen hopen (hh.blank c hc)
  simp only [readRun_eq_findSome?] at hrest ⊢
  cases p with
  | longest =>
    simp only [runEnds, endsLongest_append hgt, endsLongest_append hht, List.findSome?_append]
    refine rel_or hrest (rel_findSome? (by simpa using hne hg.ne_nil) (by simpa using hne hh.ne_nil)
      fun a ha b hb => hgap a (List.mem_reverse.1 ha) b (List.mem_reverse.1 hb))
  | shortest =>
    simp only [runEnds, endsShortest_append hgt, endsShortest_append hht, List.findSome?_append]
    exact rel_or (rel_findSome? (hne hg.ne_nil) (hne hh.ne_nil) hgap) hrest

/-- A run goes on after a character of its class. -/
theorem readRun_cons_alike (p : Preference) {c : Char} (hc : t.has c = true)
    (hhere : Option.Rel E (k₁ ⟨last, c :: xs⟩) (k₂ ⟨last', c :: ys⟩))
    (hrest : Option.Rel E (readRun t p k₁ ⟨some c, xs⟩) (readRun t p k₂ ⟨some c, ys⟩)) :
    Option.Rel E (readRun t p k₁ ⟨last, c :: xs⟩) (readRun t p k₂ ⟨last', c :: ys⟩) := by
  simp only [readRun_eq_findSome?] at hrest ⊢
  cases p with
  | longest =>
    have hlist : ∀ last rest, endsLongest t last (c :: rest) =
        endsLongest t (some c) rest ++ [⟨last, c :: rest⟩] := by
      simp [endsLongest, hc]
    simp only [runEnds, hlist, List.findSome?_append, List.findSome?_singleton] at hrest ⊢
    exact rel_or hrest hhere
  | shortest =>
    have hlist : ∀ last rest, endsShortest t last (c :: rest) =
        [⟨last, c :: rest⟩] ++ endsShortest t (some c) rest := by
      simp [endsShortest, hc]
    simp only [runEnds, hlist, List.findSome?_append, List.findSome?_singleton] at hrest ⊢
    exact rel_or hhere hrest

theorem readRun_nil (p : Preference) (k : Place → Option α) (last : Option Char) :
    readRun t p k ⟨last, []⟩ = k ⟨last, []⟩ := by
  cases p <;> rfl

/-- A run of a class with no blank reads the same characters of corresponding texts. -/
theorem readRun_solid_alike (p : Preference) (ht : t.isSolid = true) {w : List Char}
    (hrespaced : Respaced bound w xs ys)
    (hk : ∀ x xs' ys', (∀ c ∈ x, t.has c = true) → xs = x ++ xs' → ys = x ++ ys' →
      Respaced bound (w ++ x) xs' ys' →
      Option.Rel E (k₁ ⟨lastAfter last x, xs'⟩) (k₂ ⟨lastAfter last' x, ys'⟩)) :
    Option.Rel E (readRun t p k₁ ⟨last, xs⟩) (readRun t p k₂ ⟨last', ys⟩) := by
  have hhere := hk [] xs ys (by simp) rfl rfl (by simpa using hrespaced)
  induction hrespaced generalizing last last' with
  | nil w =>
    rw [readRun_nil, readRun_nil]
    exact hhere
  | @visible w xs ys c hc h ih =>
    by_cases hhas : t.has c = true
    · have hstep : ∀ x xs' ys', (∀ d ∈ x, t.has d = true) → xs = x ++ xs' → ys = x ++ ys' →
          Respaced bound ((w ++ [c]) ++ x) xs' ys' →
          Option.Rel E (k₁ ⟨lastAfter (some c) x, xs'⟩) (k₂ ⟨lastAfter (some c) x, ys'⟩) := by
        intro x xs' ys' hx hxs hys h'
        simpa using hk (c :: x) xs' ys' (by simpa [hhas] using hx) (by simp [hxs]) (by simp [hys])
          (by simpa using h')
      exact readRun_cons_alike p hhas hhere
        (ih hstep (hstep [] xs ys (by simp) rfl rfl (by simpa using h)))
    · rw [readRun_of_has_eq_false (by simpa using hhas),
        readRun_of_has_eq_false (by simpa using hhas)]
      exact hhere
  | @gap w g h xs ys hg hh =>
    obtain ⟨c, g, rfl⟩ := List.exists_cons_of_ne_nil hg.ne_nil
    obtain ⟨d, h, rfl⟩ := List.exists_cons_of_ne_nil hh.ne_nil
    rw [List.cons_append, List.cons_append,
      readRun_of_has_eq_false (CharClass.has_eq_false_of_isSolid ht (hg.blank c (by simp))),
      readRun_of_has_eq_false (CharClass.has_eq_false_of_isSolid ht (hh.blank d (by simp)))]
    exact hhere

/-- A run of a class with every blank ends at corresponding places of corresponding texts. -/
theorem readRun_open_alike (p : Preference) (ht : t.isOpen = true) {w : List Char}
    (hrespaced : Respaced bound w xs ys)
    (hk : ∀ a b, Reaches ⟨last, xs⟩ a → Reaches ⟨last', ys⟩ b → Abreast bound false a b →
      Option.Rel E (k₁ a) (k₂ b)) :
    Option.Rel E (readRun t p k₁ ⟨last, xs⟩) (readRun t p k₂ ⟨last', ys⟩) := by
  have hhere := hk _ _ (.refl _) (.refl _) ⟨⟨w, hrespaced⟩, by simp⟩
  induction hrespaced generalizing last last' with
  | nil w =>
    rw [readRun_nil, readRun_nil]
    exact hhere
  | @visible w xs ys c hc h ih =>
    by_cases hhas : t.has c = true
    · have hstep : ∀ a b, Reaches ⟨some c, xs⟩ a → Reaches ⟨some c, ys⟩ b →
          Abreast bound false a b → Option.Rel E (k₁ a) (k₂ b) := fun a b ha hb =>
        hk a b ((reaches_append last [c] xs).trans ha) ((reaches_append last' [c] ys).trans hb)
      exact readRun_cons_alike p hhas hhere
        (ih hstep (hstep _ _ (.refl _) (.refl _) ⟨⟨_, h⟩, by simp⟩))
    · rw [readRun_of_has_eq_false (by simpa using hhas),
        readRun_of_has_eq_false (by simpa using hhas)]
      exact hhere
  | @gap w g h xs ys hg hh hxs hys hbound hrest ih =>
    have hstep : ∀ a b, Reaches ⟨lastAfter last g, xs⟩ a → Reaches ⟨lastAfter last' h, ys⟩ b →
        Abreast bound false a b → Option.Rel E (k₁ a) (k₂ b) := fun a b ha hb =>
      hk a b ((reaches_append last g xs).trans ha) ((reaches_append last' h ys).trans hb)
    refine readRun_gap_alike p hg hh ht ?_
      (ih hstep (hstep _ _ (.refl _) (.refl _) ⟨⟨[], hrest⟩, by simp⟩))
    -- The places inside the two runs all correspond.
    intro a ha b hb
    obtain ⟨u, v, rfl, hv, rfl⟩ := exists_of_mem_placesIn ha
    obtain ⟨u', v', rfl, hv', rfl⟩ := exists_of_mem_placesIn hb
    refine hk _ _ ?_ ?_ ⟨⟨[], .gap ⟨hv, ?_⟩ ⟨hv', ?_⟩ hxs hys (by simp) hrest⟩, by simp⟩
    · rw [List.append_assoc]
      exact reaches_append last u (v ++ xs)
    · rw [List.append_assoc]
      exact reaches_append last' u' (v' ++ ys)
    · exact fun c hc => hg.blank c (by simp [hc])
    · exact fun c hc => hh.blank c (by simp [hc])

/-- A run of a class with no blank or with every blank reads corresponding texts alike. -/
theorem readRun_alike (p : Preference) (solid : Bool) (ht : t.isSolid = true ∨ t.isOpen = true)
    {w : List Char} (hrespaced : Respaced bound w xs ys)
    (hlast : solid = true → ∃ c, last = some c ∧ last' = some c ∧ isBlank c = false)
    (hk : ∀ a b, Reaches ⟨last, xs⟩ a → Reaches ⟨last', ys⟩ b →
      Abreast bound (t.isSolid && solid) a b → Option.Rel E (k₁ a) (k₂ b)) :
    Option.Rel E (readRun t p k₁ ⟨last, xs⟩) (readRun t p k₂ ⟨last', ys⟩) := by
  rcases ht with ht | ht
  · refine readRun_solid_alike p ht hrespaced fun x xs' ys' hx hxs hys h => ?_
    subst hxs hys
    refine hk _ _ (reaches_append last x xs') (reaches_append last' x ys') ⟨⟨_, h⟩, fun hs => ?_⟩
    cases hlast' : x.getLast? with
    | none =>
      obtain rfl := List.getLast?_eq_none_iff.1 hlast'
      exact hlast (by simp_all)
    | some c =>
      refine ⟨c, lastAfter_of_getLast? hlast', lastAfter_of_getLast? hlast', ?_⟩
      by_contra hc
      have hhas := hx c (List.mem_of_getLast? hlast')
      rw [CharClass.has_eq_false_of_isSolid ht (by simpa using hc)] at hhas
      simp at hhas
  · have hsolid : t.isSolid = false := by
      cases t <;> simp_all [CharClass.isOpen, CharClass.isSolid]
    exact readRun_open_alike p ht hrespaced fun a b ha hb hab =>
      hk a b ha hb (hab.weaken (by simp [hsolid]))

end Run

/-! ## Reading corresponding texts -/

section Read

variable {k₁ k₂ : Place → Captures ι → Option α} {ignored : ι → Bool} {solid refused : Bool}
  {a b : Place} {s₁ s₂ : Captures ι}

theorem read_alt_eq_or (p q : Pattern ι) (k : Place → Captures ι → Option α) (a : Place)
    (s : Captures ι) : (alt p q).read k a s = (p.read k a s).or (q.read k a s) := by
  simp only [read]
  cases p.read k a s <;> rfl

theorem read_opt_eq_or (p : Pattern ι) (k : Place → Captures ι → Option α) (a : Place)
    (s : Captures ι) : (opt p).read k a s = (p.read k a s).or (k a s) := by
  simp only [read]
  cases p.read k a s <;> rfl

/-- A run of at least one character, none of them a blank, reads the same characters of
corresponding texts. -/
theorem read_several_solid_alike {t : CharClass} {p : Preference} (ht : t.isSolid = true)
    {w : List Char} (hrespaced : Respaced bound w a.rest b.rest)
    (hk : ∀ x a' b', x ≠ [] → (∀ c ∈ x, t.has c = true) →
      Respaced bound (w ++ x) a'.rest b'.rest → Option.Rel E (k₁ a' s₁) (k₂ b' s₂)) :
    Option.Rel E ((run t true p).read k₁ a s₁) ((run t true p).read k₂ b s₂) := by
  obtain ⟨last, xs⟩ := a
  obtain ⟨last', ys⟩ := b
  simp only at hrespaced
  cases hrespaced with
  | nil => exact .none
  | @visible _ xs ys c hc h =>
    by_cases hhas : t.has c = true
    · simp only [read, readOne, hhas, if_true]
      refine readRun_solid_alike p ht h fun x xs' ys' hx _ _ h' => ?_
      exact hk (c :: x) ⟨_, xs'⟩ ⟨_, ys'⟩ (by simp) (by simpa [hhas] using hx) (by simpa using h')
    · simp only [read, readOne, hhas]
      exact .none
  | @gap _ g h xs ys hg hh =>
    obtain ⟨c, g, rfl⟩ := List.exists_cons_of_ne_nil hg.ne_nil
    obtain ⟨d, h, rfl⟩ := List.exists_cons_of_ne_nil hh.ne_nil
    simp only [read, readOne, List.cons_append,
      CharClass.has_eq_false_of_isSolid ht (hg.blank c (by simp)),
      CharClass.has_eq_false_of_isSolid ht (hh.blank d (by simp))]
    exact .none

/-- Where what follows refuses a blank, a run of at least one character goes on after all of a run
of blanks. -/
theorem read_several_gap {t : CharClass} {k : Place → Captures ι → Option α} {c : Char}
    {gap : List Char} (ht : t.isOpen = true) (hk : Refuses k) (hgap : IsGap (c :: gap))
    (p : Preference) (last : Option Char) (rest : List Char) (s : Captures ι) :
    (run t true p).read k ⟨last, c :: gap ++ rest⟩ s =
      readRun t p (fun b => k b s) ⟨lastAfter (some c) gap, rest⟩ := by
  simp only [read, readOne, List.cons_append, CharClass.has_of_isOpen ht (hgap.blank c (by simp)),
    if_true]
  refine readRun_append_of_none p
    (fun d hd => CharClass.has_of_isOpen ht (hgap.blank d (by simp [hd]))) fun a ha => ?_
  obtain ⟨u, v, hv, hne, rfl⟩ := exists_of_mem_placesIn ha
  obtain ⟨d, v, rfl⟩ := List.exists_cons_of_ne_nil hne
  exact hk _ d _ s (hgap.blank d (by simp [hv]))

/-- A run of at least one character reads corresponding texts alike. Inside a run of blanks what
follows is refused, so it does not matter that the first blank is taken. -/
theorem read_several_alike {t : CharClass} {p : Preference}
    (ht : t.isSolid = true ∨ t.isOpen = true ∧ refused = true) (hab : Abreast bound solid a b)
    (hnext : refused = true → Refuses k₁ ∧ Refuses k₂)
    (hk : ∀ a' b', Reaches a a' → Reaches b b' → Abreast bound t.isSolid a' b' →
      Option.Rel E (k₁ a' s₁) (k₂ b' s₂)) :
    Option.Rel E ((run t true p).read k₁ a s₁) ((run t true p).read k₂ b s₂) := by
  obtain ⟨last, xs⟩ := a
  obtain ⟨last', ys⟩ := b
  obtain ⟨⟨w, hrespaced⟩, -⟩ := hab
  simp only at hrespaced
  cases hrespaced with
  | nil => exact .none
  | @visible _ xs ys c hc h =>
    by_cases hhas : t.has c = true
    · simp only [read, readOne, hhas, if_true]
      refine readRun_alike p true (ht.imp_right And.left) h
        (fun _ => ⟨c, rfl, rfl, hc⟩) fun a' b' ha hb hab => ?_
      exact hk a' b' ((reaches_append last [c] xs).trans ha)
        ((reaches_append last' [c] ys).trans hb) (by simpa using hab)
    · simp only [read, readOne, hhas]
      exact .none
  | @gap _ g h xs ys hg hh hxs hys _ hrest =>
    obtain ⟨c, g, rfl⟩ := List.exists_cons_of_ne_nil hg.ne_nil
    obtain ⟨d, h, rfl⟩ := List.exists_cons_of_ne_nil hh.ne_nil
    have hc := hg.blank c (by simp)
    have hd := hh.blank d (by simp)
    rcases ht with ht | ⟨ht, hrefused⟩
    · simp only [read, readOne, List.cons_append, CharClass.has_eq_false_of_isSolid ht hc,
        CharClass.has_eq_false_of_isSolid ht hd]
      exact .none
    · have hsolid : t.isSolid = false := by
        cases t <;> simp_all [CharClass.isOpen, CharClass.isSolid]
      rw [read_several_gap ht (hnext hrefused).1 hg, read_several_gap ht (hnext hrefused).2 hh]
      refine readRun_alike p false (.inr ht) hrest (by simp) fun a' b' ha hb hab => ?_
      have hover : ∀ last e (g rest : List Char),
          Reaches ⟨last, e :: g ++ rest⟩ ⟨lastAfter (some e) g, rest⟩ := by
        intro last e g rest
        exact ⟨e :: g, rfl, by simp⟩
      exact hk a' b' ((hover last c g xs).trans ha) ((hover last' d h ys).trans hb)
        (hab.weaken (by simp [hsolid]))

theorem isBoundary_eq (hab : Abreast bound true a b) : a.isBoundary = b.isBoundary := by
  obtain ⟨⟨w, hrespaced⟩, hlast⟩ := hab
  obtain ⟨c, ha, hb, -⟩ := hlast rfl
  have hword : ∀ d, isBlank d = true → isWord d = false := by
    intro d hd
    have := isName_eq_false_of_isBlank hd
    simp_all [isName]
  have hhead : a.rest.head?.any isWord = b.rest.head?.any isWord := by
    rcases hrespaced.head_cases with ⟨hxs, hys⟩ | ⟨d, xs, ys, hxs, hys, -⟩ |
      ⟨d, e, xs, ys, hxs, hys, hd, he⟩
    · rw [hxs, hys]
    · rw [hxs, hys]
      rfl
    · rw [hxs, hys]
      simp [hword d hd, hword e he]
  rw [isBoundary, isBoundary, ha, hb, hhead]

theorem isBlankOrEnd_eq (hab : Abreast bound solid a b) : a.isBlankOrEnd = b.isBlankOrEnd := by
  obtain ⟨w, hrespaced⟩ := hab.rest
  rw [isBlankOrEnd, isBlankOrEnd]
  rcases hrespaced.head_cases with ⟨hxs, hys⟩ | ⟨d, xs, ys, hxs, hys, -⟩ |
    ⟨d, e, xs, ys, hxs, hys, hd, he⟩
  · rw [hxs, hys]
  · rw [hxs, hys]
    rfl
  · rw [hxs, hys]
    simp [hd, he]

/-- The text between two places is squeezed on its own where the later place stands after a
character that is no blank, or before one. -/
theorem squeeze_of_reaches (f : ι) {a' : Place} (h : Reaches a a')
    (hcut : (∃ c, a'.last = some c ∧ isBlank c = false) ∨
      ∀ d ∈ a'.rest.head?, isBlank d = false) :
    squeeze a.rest = squeeze (Capture.mk f a.rest a'.rest).text ++ squeeze a'.rest := by
  obtain ⟨x, hx, hlast⟩ := h
  have htext : (Capture.mk f a.rest a'.rest).text = x := by
    simp [Capture.text, hx]
  rw [htext, hx]
  refine squeeze_append fun c hc d hd hblank => ?_
  rcases hcut with ⟨e, he, hvisible⟩ | hcut
  · rw [hlast, lastAfter_of_getLast? hc] at he
    obtain rfl := Option.some.inj he
    simp [hblank] at hvisible
  · exact hcut d hd

/-- What is kept from corresponding places up to corresponding places is alike. -/
theorem capture_alike (f : ι) {a' b' : Place} (hab : Abreast bound solid a b)
    (ha : Reaches a a') (hb : Reaches b b') {solid' : Bool} (hab' : Abreast bound solid' a' b')
    (hcut : solid' = true ∨ ∀ c ∈ a'.rest.head?, isBlank c = false) :
    Capture.Alike ignored ⟨f, a.rest, a'.rest⟩ ⟨f, b.rest, b'.rest⟩ := by
  refine ⟨rfl, fun _ => ?_⟩
  obtain ⟨w, hrespaced⟩ := hab.rest
  obtain ⟨w', hrespaced'⟩ := hab'.rest
  have hsqueeze := hrespaced.squeeze_eq
  rw [squeeze_of_reaches f ha, squeeze_of_reaches f hb, hrespaced'.squeeze_eq] at hsqueeze
  · exact List.append_cancel_right hsqueeze
  · refine hcut.imp (fun hs => ?_) fun h d hd => ?_
    · obtain ⟨c, -, hc, hvisible⟩ := hab'.last hs
      exact ⟨c, hc, hvisible⟩
    · rcases hrespaced'.head_cases with
        ⟨-, hys⟩ | ⟨e, _, _, -, hys, he⟩ | ⟨e, _, _, _, hxs, -, he, -⟩
      · simp [hys] at hd
      · obtain rfl : e = d := by simpa [hys] using hd
        exact he
      · simp [h e (by simp [hxs])] at he
  · refine hcut.imp_left fun hs => ?_
    obtain ⟨c, hc, -, hvisible⟩ := hab'.last hs
    exact ⟨c, hc, hvisible⟩

/-- Where a blank is refused, the corresponding places before other characters count. -/
theorem rel_of_refuses (h₁ : Refuses k₁) (h₂ : Refuses k₂) (hab : Abreast bound solid a b)
    (hk : (∀ c ∈ a.rest.head?, isBlank c = false) → Option.Rel E (k₁ a s₁) (k₂ b s₂)) :
    Option.Rel E (k₁ a s₁) (k₂ b s₂) := by
  obtain ⟨last, xs⟩ := a
  obtain ⟨last', ys⟩ := b
  obtain ⟨w, hrespaced⟩ := hab.rest
  rcases hrespaced.head_cases with ⟨hxs, -⟩ | ⟨c, _, -, hxs, -, hc⟩ | ⟨c, d, _, _, hxs, hys, hc, hd⟩
  · exact hk (by simp_all)
  · exact hk (by simp_all)
  · simp only at hxs hys
    subst hxs hys
    rw [h₁ _ _ _ _ hc, h₂ _ _ _ _ hd]
    exact .none

/-- A text without blanks is read at both of two corresponding places, or at none. -/
theorem read_text_alike {w : List Char} (hw : ∀ c ∈ w, isBlank c = false)
    (hab : Abreast bound solid a b)
    (hk : ∀ a' b', Reaches a a' → Reaches b b' →
      Abreast bound ((text w : Pattern ι).endsSolid solid) a' b' →
      Option.Rel E (k₁ a' s₁) (k₂ b' s₂)) :
    Option.Rel E ((text w).read k₁ a s₁) ((text w).read k₂ b s₂) := by
  obtain ⟨last, xs⟩ := a
  obtain ⟨last', ys⟩ := b
  obtain ⟨⟨v, hrespaced⟩, hlast⟩ := hab
  simp only at hrespaced
  rcases hrespaced.text hw with ⟨xs', ys', rfl, rfl, hrest⟩ | ⟨hxs, hys⟩
  · rw [read_text_append, read_text_append]
    refine hk _ _ (reaches_append _ _ _) (reaches_append _ _ _) ⟨⟨_, hrest⟩, fun hsolid => ?_⟩
    cases hlast? : w.getLast? with
    | none =>
      obtain rfl := List.getLast?_eq_none_iff.1 hlast?
      exact hlast (by simpa [endsSolid] using hsolid)
    | some c =>
      exact ⟨c, lastAfter_of_getLast? hlast?, lastAfter_of_getLast? hlast?,
        hw c (List.mem_of_getLast? hlast?)⟩
  · rw [read_text_of_not_isPrefix hxs, read_text_of_not_isPrefix hys]
    exact .none

/-- One character of a class with no blank is read at both of two corresponding places, or at
none. -/
theorem read_one_alike {t : CharClass} (ht : t.isSolid = true) (hab : Abreast bound solid a b)
    (hk : ∀ a' b', Reaches a a' → Reaches b b' → Abreast bound true a' b' →
      Option.Rel E (k₁ a' s₁) (k₂ b' s₂)) :
    Option.Rel E ((one t).read k₁ a s₁) ((one t).read k₂ b s₂) := by
  obtain ⟨last, xs⟩ := a
  obtain ⟨last', ys⟩ := b
  obtain ⟨w, hrespaced⟩ := hab.rest
  simp only at hrespaced
  cases hrespaced with
  | nil => exact .none
  | @visible _ xs ys c hc h =>
    simp only [read, readOne]
    split
    · exact hk _ _ (reaches_append last [c] xs) (reaches_append last' [c] ys)
        ⟨⟨_, h⟩, fun _ => ⟨c, rfl, rfl, hc⟩⟩
    · exact .none
  | @gap _ g h xs ys hg hh =>
    obtain ⟨c, g, rfl⟩ := List.exists_cons_of_ne_nil hg.ne_nil
    obtain ⟨d, h, rfl⟩ := List.exists_cons_of_ne_nil hh.ne_nil
    simp only [read, readOne, List.cons_append,
      CharClass.has_eq_false_of_isSolid ht (hg.blank c (by simp)),
      CharClass.has_eq_false_of_isSolid ht (hh.blank d (by simp))]
    exact .none

theorem read_notBefore_alike {w : List Char} (hw : ∀ c ∈ w, isBlank c = false)
    (hab : Abreast bound solid a b) (hk : Option.Rel E (k₁ a s₁) (k₂ b s₂)) :
    Option.Rel E ((notBefore w).read k₁ a s₁) ((notBefore w).read k₂ b s₂) := by
  obtain ⟨v, hrespaced⟩ := hab.rest
  simp only [read, List.isPrefixOf_iff_prefix]
  rcases hrespaced.text hw with ⟨xs, ys, hxs, hys, -⟩ | ⟨hxs, hys⟩
  · rw [if_pos ⟨xs, hxs.symm⟩, if_pos ⟨ys, hys.symm⟩]
    exact .none
  · rwa [if_neg hxs, if_neg hys]

/-- A pattern for which the spacing does not matter reads corresponding texts alike. -/
theorem read_alike {p : Pattern ι} (hp : p.ignoresSpacing ignored solid refused = true)
    (hab : Abreast bound solid a b) (hs : Captures.Alike ignored s₁ s₂)
    (hnext : refused = true → Refuses k₁ ∧ Refuses k₂)
    (hk : ∀ a' b' s₁' s₂', Reaches a a' → Reaches b b' → Abreast bound (p.endsSolid solid) a' b' →
      Captures.Alike ignored s₁' s₂' → Option.Rel E (k₁ a' s₁') (k₂ b' s₂')) :
    Option.Rel E (p.read k₁ a s₁) (p.read k₂ b s₂) := by
  -- `solid` is what is known of the character before a pattern and `refused` of what follows it;
  -- both change from each part to the next, so the induction is over all of them.
  induction p generalizing solid refused k₁ k₂ a b s₁ s₂ with
  | text w =>
    simp only [ignoresSpacing, List.all_eq_true, Bool.not_eq_true'] at hp
    exact read_text_alike hp hab fun a' b' ha hb hab' => hk a' b' _ _ ha hb hab' hs
  | one t =>
    exact read_one_alike hp hab fun a' b' ha hb hab' =>
      hk a' b' _ _ ha hb (hab'.weaken (by simp)) hs
  | run t nonempty p =>
    simp only [ignoresSpacing, Bool.or_eq_true, Bool.and_eq_true, Bool.not_eq_true'] at hp
    cases nonempty with
    | true =>
      refine read_several_alike (hp.imp_right fun h => ⟨h.1, by simpa using h.2⟩) hab hnext ?_
      exact fun a' b' ha hb hab' => hk a' b' _ _ ha hb (hab'.weaken (by simp [endsSolid])) hs
    | false =>
      obtain ⟨w, hrespaced⟩ := hab.rest
      exact readRun_alike p _ (hp.imp_right And.left) hrespaced hab.last fun a' b' ha hb hab' =>
        hk a' b' _ _ ha hb (hab'.weaken (by simp [endsSolid])) hs
  | seq p q ihp ihq =>
    simp only [ignoresSpacing, Bool.and_eq_true] at hp
    refine ihp hp.1 hab hs (fun hq => ⟨?_, ?_⟩) fun a' b' s₁' s₂' ha hb hab' hs' => ?_
    · exact refuses_read hq fun h => (hnext h).1
    · exact refuses_read hq fun h => (hnext h).2
    · exact ihq hp.2 hab' hs' hnext fun a'' b'' _ _ ha' hb' =>
        hk a'' b'' _ _ (ha.trans ha') (hb.trans hb')
  | alt p q ihp ihq =>
    simp only [ignoresSpacing, Bool.and_eq_true] at hp
    rw [read_alt_eq_or, read_alt_eq_or]
    refine rel_or (ihp hp.1 hab hs hnext ?_) (ihq hp.2 hab hs hnext ?_)
    · exact fun a' b' _ _ ha hb hab' => hk a' b' _ _ ha hb hab'.and_left
    · exact fun a' b' _ _ ha hb hab' => hk a' b' _ _ ha hb hab'.and_right
  | opt p ih =>
    rw [read_opt_eq_or, read_opt_eq_or]
    refine rel_or (ih hp hab hs hnext ?_) (hk a b _ _ (.refl a) (.refl b) hab.and_right hs)
    exact fun a' b' _ _ ha hb hab' => hk a' b' _ _ ha hb hab'.and_left
  | capture f p ih =>
    simp only [ignoresSpacing, Bool.and_eq_true, Bool.or_eq_true] at hp
    obtain ⟨hp, hcut⟩ := hp
    rw [read_capture, read_capture]
    refine ih hp hab hs ?_ ?_
    · exact fun h => ⟨fun _ _ _ _ hc => (hnext h).1 _ _ _ _ hc,
        fun _ _ _ _ hc => (hnext h).2 _ _ _ _ hc⟩
    · intro a' b' s₁' s₂' ha hb hab' hs'
      have hkept : (ignored f = true ∨ p.endsSolid solid = true ∨
          ∀ c ∈ a'.rest.head?, isBlank c = false) →
          Option.Rel E (k₁ a' (⟨f, a.rest, a'.rest⟩ :: s₁'))
            (k₂ b' (⟨f, b.rest, b'.rest⟩ :: s₂')) := by
        intro h
        refine hk a' b' _ _ ha hb hab' (.cons ?_ hs')
        rcases h with h | h
        · exact ⟨rfl, fun hf => by simp [h] at hf⟩
        · exact capture_alike f hab ha hb hab' h
      -- The kept texts may end inside different blanks only where nothing depends on them: the
      -- field is ignored, blanks are refused after it, or the pattern ends with no blank.
      rcases hcut with (hcut | hrefused) | hcut
      · exact hkept (.inl hcut)
      · obtain ⟨hrefuses₁, hrefuses₂⟩ := hnext hrefused
        exact rel_of_refuses hrefuses₁ hrefuses₂ hab' fun h => hkept (.inr (.inr h))
      · exact hkept (.inr (.inl hcut))
  | start => simp [ignoresSpacing] at hp
  | boundary =>
    simp only [ignoresSpacing] at hp
    subst hp
    simp only [read, isBoundary_eq hab]
    split
    · exact hk a b _ _ (.refl a) (.refl b) hab hs
    · exact .none
  | blankOrEnd =>
    simp only [read, isBlankOrEnd_eq hab]
    split
    · exact hk a b _ _ (.refl a) (.refl b) hab hs
    · exact .none
  | notBefore w =>
    simp only [ignoresSpacing, List.all_eq_true, Bool.not_eq_true'] at hp
    exact read_notBefore_alike hp hab (hk a b _ _ (.refl a) (.refl b) hab hs)

end Read

end Pattern

end ComponentLinks
