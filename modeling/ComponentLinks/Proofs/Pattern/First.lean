import ComponentLinks.Pattern.Match
import Mathlib.Data.List.Basic

/-!
# The first reading of a pattern

How a pattern reads a text that is written down as the parts it should fall into. A repetition
reads a run of characters if what follows the pattern can go on after the run, and if nothing else
can go on after the runs that are tried before, or only with the same result.

In the other direction, whatever a pattern has read falls into parts of its kind.

## Main definitions

* `lastAfter`: the character before the place that follows some text.
* `Pattern.read_inOrder_cons`: patterns are read one after the other.
* `Pattern.read_run_longest`, `Pattern.read_run_shortest`: what a repetition reads.
* `Pattern.exists_of_read_text`, `Pattern.exists_of_read_run`: what has been read.
-/
namespace ComponentLinks

/-- The character before the place that follows the text `xs`. -/
def lastAfter (last : Option Char) (xs : List Char) : Option Char := xs.getLast?.or last

@[simp] theorem lastAfter_nil (last : Option Char) : lastAfter last [] = last := rfl

@[simp] theorem lastAfter_cons (last : Option Char) (x : Char) (xs : List Char) :
    lastAfter last (x :: xs) = lastAfter (some x) xs := by
  cases h : xs.getLast? <;> simp [lastAfter, List.getLast?_cons, h]

@[simp] theorem lastAfter_append (last : Option Char) (xs ys : List Char) :
    lastAfter last (xs ++ ys) = lastAfter (lastAfter last xs) ys := by
  induction xs generalizing last with
  | nil => rfl
  | cons x xs ih => simp [ih]

theorem lastAfter_of_getLast? {last : Option Char} {xs : List Char} {c : Char}
    (h : xs.getLast? = some c) : lastAfter last xs = some c := by
  simp [lastAfter, h]

namespace Place

theorem skip?_append (last : Option Char) (w rest : List Char) :
    skip? last w (w ++ rest) = some ⟨lastAfter last w, rest⟩ := by
  induction w generalizing last with
  | nil => rfl
  | cons c w ih => simp [skip?, ih]

theorem skip?_eq_some_iff {last : Option Char} {w cs : List Char} {b : Place} :
    skip? last w cs = some b ↔ cs = w ++ b.rest ∧ b.last = lastAfter last w := by
  constructor
  · intro h
    induction w generalizing last cs with
    | nil =>
      obtain rfl : ⟨last, cs⟩ = b := by simpa [skip?] using h
      exact ⟨rfl, rfl⟩
    | cons c w ih =>
      cases cs with
      | nil => simp [skip?] at h
      | cons d cs =>
        simp only [skip?] at h
        split at h
        · rename_i hcd
          obtain ⟨rfl, hlast⟩ := ih h
          exact ⟨by simp [hcd], by simp [hlast, hcd]⟩
        · simp at h
  · rintro ⟨rfl, hlast⟩
    rw [skip?_append, ← hlast]

end Place

namespace Pattern

attribute [grind =] read readOne readLongest readShortest

variable {ι α : Type} {k : Place → Captures ι → Option α} {a : Place} {s : Captures ι} {r : α}
  {t : CharClass} {last : Option Char} {xs rest : List Char} {nonempty : Bool}

/-! ## Patterns one after the other -/

@[simp] theorem read_inOrder_nil (k : Place → Captures ι → Option α) (a : Place)
    (s : Captures ι) : (inOrder []).read k a s = k a s := by
  simp [inOrder, read, Place.skip?]

theorem read_inOrder_cons (p : Pattern ι) (ps : List (Pattern ι))
    (k : Place → Captures ι → Option α) (a : Place) (s : Captures ι) :
    (inOrder (p :: ps)).read k a s = p.read (fun b s' => (inOrder ps).read k b s') a s := by
  cases ps with
  | nil => simp only [read_inOrder_nil]; rfl
  | cons q ps => rfl

theorem read_inOrder_append (ps qs : List (Pattern ι)) (k : Place → Captures ι → Option α)
    (a : Place) (s : Captures ι) :
    (inOrder (ps ++ qs)).read k a s =
      (inOrder ps).read (fun b s' => (inOrder qs).read k b s') a s := by
  induction ps generalizing a s with
  | nil => simp
  | cons p ps ih =>
    rw [List.cons_append, read_inOrder_cons, read_inOrder_cons]
    simp only [ih]

theorem read_capture (f : ι) (p : Pattern ι) (k : Place → Captures ι → Option α) (a : Place)
    (s : Captures ι) :
    (capture f p).read k a s = p.read (fun b s' => k b (⟨f, a.rest, b.rest⟩ :: s')) a s := rfl

theorem read_text_append (w rest : List Char) (k : Place → Captures ι → Option α)
    (last : Option Char) (s : Captures ι) :
    (text w).read k ⟨last, w ++ rest⟩ s = k ⟨lastAfter last w, rest⟩ s := by
  simp [read, Place.skip?_append]

theorem read_lit_append (w : String) (rest : List Char) (k : Place → Captures ι → Option α)
    (last : Option Char) (s : Captures ι) :
    (lit w).read k ⟨last, w.toList ++ rest⟩ s = k ⟨lastAfter last w.toList, rest⟩ s :=
  read_text_append w.toList rest k last s

theorem exists_of_read_text {w : List Char} (h : (text w).read k a s = some r) :
    ∃ rest, a.rest = w ++ rest ∧ k ⟨lastAfter a.last w, rest⟩ s = some r := by
  simp only [read] at h
  split at h
  · rename_i b hb
    obtain ⟨hrest, hlast⟩ := Place.skip?_eq_some_iff.1 hb
    exact ⟨b.rest, hrest, hlast ▸ h⟩
  · simp at h

theorem exists_of_read_one (h : (one t).read k a s = some r) :
    ∃ c rest, a.rest = c :: rest ∧ t.has c = true ∧ k ⟨some c, rest⟩ s = some r := by
  obtain ⟨last, _ | ⟨c, rest⟩⟩ := a
  · simp [read, readOne] at h
  · simp only [read, readOne] at h
    split at h
    · exact ⟨c, rest, rfl, by assumption, h⟩
    · simp at h

theorem read_one_cons {c : Char} (hc : t.has c = true) :
    (one t).read k ⟨last, c :: rest⟩ s = k ⟨some c, rest⟩ s := by
  simp [read, readOne, hc]

theorem read_text_of_not_isPrefix {w rest : List Char} (h : ¬ w <+: rest) :
    (text w).read k ⟨last, rest⟩ s = none := by
  by_contra hsome
  obtain ⟨r, hr⟩ := Option.ne_none_iff_exists'.1 hsome
  obtain ⟨zs, hzs, -⟩ := exists_of_read_text hr
  exact h ⟨zs, hzs.symm⟩

theorem read_lit_of_not_isPrefix {w : String} {rest : List Char} (h : ¬ w.toList <+: rest) :
    (lit w).read k ⟨last, rest⟩ s = none :=
  read_text_of_not_isPrefix h

/-! ## Choices -/

section Choice

variable {p q : Pattern ι}

theorem read_alt_of_some (h : p.read k a s = some r) : (alt p q).read k a s = some r := by
  simp [read, h]

theorem read_alt_of_none (h : p.read k a s = none) : (alt p q).read k a s = q.read k a s := by
  simp [read, h]

theorem read_alt_eq_none (hp : p.read k a s = none) (hq : q.read k a s = none) :
    (alt p q).read k a s = none := by
  rw [read_alt_of_none hp, hq]

theorem read_opt_of_some (h : p.read k a s = some r) : (opt p).read k a s = some r := by
  simp [read, h]

theorem read_opt_of_none (h : p.read k a s = none) : (opt p).read k a s = k a s := by
  simp [read, h]

theorem or_of_read_alt (h : (alt p q).read k a s = some r) :
    p.read k a s = some r ∨ q.read k a s = some r := by
  cases hp : p.read k a s with
  | none => exact .inr (by rwa [read_alt_of_none hp] at h)
  | some r' => exact .inl (by rwa [read_alt_of_some hp] at h)

theorem or_of_read_opt (h : (opt p).read k a s = some r) :
    p.read k a s = some r ∨ k a s = some r := by
  cases hp : p.read k a s with
  | none => exact .inr (by rwa [read_opt_of_none hp] at h)
  | some r' => exact .inl (by rwa [read_opt_of_some hp] at h)

theorem isSome_read_alt (h : (p.read k a s).isSome ∨ (q.read k a s).isSome) :
    ((alt p q).read k a s).isSome := by
  cases hp : p.read k a s with
  | none => simpa [read_alt_of_none hp, hp] using h
  | some r => simp [read_alt_of_some hp]

theorem read_boundary_of_isBoundary (h : a.isBoundary = true) :
    (boundary : Pattern ι).read k a s = k a s := by
  simp [read, h]

theorem exists_of_read_boundary (h : (boundary : Pattern ι).read k a s = some r) :
    a.isBoundary = true ∧ k a s = some r := by
  simp only [read] at h
  split at h
  · exact ⟨by assumption, h⟩
  · simp at h

theorem read_blankOrEnd_of_isBlankOrEnd (h : a.isBlankOrEnd = true) :
    (blankOrEnd : Pattern ι).read k a s = k a s := by
  simp [read, h]

theorem read_notBefore_of_not_isPrefix {w rest : List Char} (h : ¬ w <+: rest) :
    (notBefore w).read k ⟨last, rest⟩ s = k ⟨last, rest⟩ s := by
  simp [read, h]

theorem exists_of_read_notBefore {w : List Char} (h : (notBefore w).read k a s = some r) :
    ¬ w <+: a.rest ∧ k a s = some r := by
  simp only [read] at h
  split at h
  · simp at h
  · exact ⟨by simpa using ‹¬ w.isPrefixOf a.rest = true›, h⟩

end Choice

/-! ## The result of a reading -/

theorem map_readLongest {β : Type} (g : α → β) (k : Place → Option α) (last : Option Char)
    (cs : List Char) :
    (readLongest t k last cs).map g = readLongest t (fun b => (k b).map g) last cs := by
  induction cs generalizing last with
  | nil => rfl
  | cons c cs ih =>
    simp only [readLongest, ← ih]
    split
    · cases readLongest t k (some c) cs <;> rfl
    · rfl

theorem map_readShortest {β : Type} (g : α → β) (k : Place → Option α) (last : Option Char)
    (cs : List Char) :
    (readShortest t k last cs).map g = readShortest t (fun b => (k b).map g) last cs := by
  induction cs generalizing last with
  | nil => rfl
  | cons c cs ih =>
    simp only [readShortest, ← ih]
    cases k ⟨last, c :: cs⟩ with
    | some r => rfl
    | none => by_cases hc : t.has c <;> simp [hc]

theorem map_readRun {β : Type} (g : α → β) (p : Preference) (k : Place → Option α) (a : Place) :
    (readRun t p k a).map g = readRun t p (fun b => (k b).map g) a := by
  cases p with
  | longest => exact map_readLongest g k a.last a.rest
  | shortest => exact map_readShortest g k a.last a.rest

theorem map_readOne {β : Type} (g : α → β) (k : Place → Option α) (a : Place) :
    (readOne t k a).map g = readOne t (fun b => (k b).map g) a := by
  obtain ⟨last, _ | ⟨c, cs⟩⟩ := a
  · rfl
  · simp only [readOne]
    split <;> rfl

/-- Which reading is the first does not depend on what is made of it. -/
theorem map_read {β : Type} (p : Pattern ι) (g : α → β) (k : Place → Captures ι → Option α)
    (a : Place) (s : Captures ι) :
    (p.read k a s).map g = p.read (fun b s' => (k b s').map g) a s := by
  induction p generalizing k a s with
  | text w =>
    simp only [read]
    split <;> rfl
  | one t => exact map_readOne g _ a
  | run t nonempty p =>
    cases nonempty with
    | false => exact map_readRun g p _ a
    | true =>
      simp only [read, map_readOne]
      congr 1
      funext b
      exact map_readRun g p _ b
  | seq p q ihp ihq => simp only [read, ihp, ihq]
  | alt p q ihp ihq =>
    simp only [read, ← ihp, ← ihq]
    cases p.read k a s <;> rfl
  | opt p ih =>
    simp only [read, ← ih]
    cases p.read k a s <;> rfl
  | capture f p ih => exact ih ..
  | start | boundary | blankOrEnd | notBefore =>
    simp only [read]
    split <;> rfl

theorem matchText?_eq (p : Pattern ι) (cs : List Char) :
    p.matchText? cs = p.read (fun _ s => some s) (.ofText cs) [] :=
  map_read p Prod.snd _ _ _

/-! ## Repetitions -/

section Repetition

variable {k : Place → Option α}

theorem exists_of_readLongest {cs : List Char} (h : readLongest t k last cs = some r) :
    ∃ xs rest, cs = xs ++ rest ∧ (∀ c ∈ xs, t.has c = true) ∧
      k ⟨lastAfter last xs, rest⟩ = some r := by
  induction cs generalizing last with
  | nil => exact ⟨[], [], rfl, by simp, h⟩
  | cons c cs ih =>
    simp only [readLongest] at h
    split at h
    · rename_i hc
      split at h
      · rename_i r' hlonger
        obtain rfl : r' = r := by simpa using h
        obtain ⟨xs, rest, rfl, hxs, hk⟩ := ih hlonger
        exact ⟨c :: xs, rest, rfl, by simpa [hc] using hxs, by simpa using hk⟩
      · exact ⟨[], c :: cs, rfl, by simp, h⟩
    · exact ⟨[], c :: cs, rfl, by simp, h⟩

theorem exists_of_readShortest {cs : List Char} (h : readShortest t k last cs = some r) :
    ∃ xs rest, cs = xs ++ rest ∧ (∀ c ∈ xs, t.has c = true) ∧
      k ⟨lastAfter last xs, rest⟩ = some r := by
  induction cs generalizing last with
  | nil => exact ⟨[], [], rfl, by simp, h⟩
  | cons c cs ih =>
    simp only [readShortest] at h
    split at h
    · rename_i r' hnow
      obtain rfl : r' = r := by simpa using h
      exact ⟨[], c :: cs, rfl, by simp, hnow⟩
    · split at h
      · rename_i hc
        obtain ⟨xs, rest, rfl, hxs, hk⟩ := ih h
        exact ⟨c :: xs, rest, rfl, by simpa [hc] using hxs, by simpa using hk⟩
      · simp at h

/-- The longest run is tried first, and so on down to `xs`: none of the longer runs may go on with
another result. -/
theorem readLongest_append (hxs : ∀ c ∈ xs, t.has c = true)
    (hk : k ⟨lastAfter last xs, rest⟩ = some r)
    (hlonger : ∀ ys zs, rest = ys ++ zs → ys ≠ [] → (∀ c ∈ ys, t.has c = true) →
      ∀ r', k ⟨lastAfter last (xs ++ ys), zs⟩ = some r' → r' = r) :
    readLongest t k last (xs ++ rest) = some r := by
  induction xs generalizing last with
  | nil =>
    cases rest with
    | nil => simpa [readLongest] using hk
    | cons c rest =>
      simp only [List.nil_append, readLongest]
      split
      · rename_i hc
        split
        · rename_i r' hr'
          obtain ⟨ys, zs, rfl, hys, hk'⟩ := exists_of_readLongest hr'
          have : r' = r := hlonger (c :: ys) zs rfl (by simp) (by simpa [hc] using hys) r'
            (by simpa using hk')
          rw [this]
        · simpa using hk
      · simpa using hk
  | cons x xs ih =>
    have hx : t.has x = true := hxs x (by simp)
    have hrest : readLongest t k (some x) (xs ++ rest) = some r := by
      refine ih (fun c hc => hxs c (by simp [hc])) (by simpa using hk) ?_
      intro ys zs h hne hys r' hr'
      exact hlonger ys zs h hne hys r' (by simpa using hr')
    simp [readLongest, hx, hrest]

/-- The shortest run is tried first, and so on up to `xs`: none of the shorter runs may go on with
another result. -/
theorem readShortest_append (hxs : ∀ c ∈ xs, t.has c = true)
    (hk : k ⟨lastAfter last xs, rest⟩ = some r)
    (hshorter : ∀ ys zs, xs = ys ++ zs → zs ≠ [] →
      ∀ r', k ⟨lastAfter last ys, zs ++ rest⟩ = some r' → r' = r) :
    readShortest t k last (xs ++ rest) = some r := by
  induction xs generalizing last with
  | nil => cases rest <;> simp_all [readShortest]
  | cons x xs ih =>
    have hx : t.has x = true := hxs x (by simp)
    simp only [List.cons_append, readShortest]
    split
    · rename_i r' hr'
      rw [hshorter [] (x :: xs) rfl (by simp) r' (by simpa using hr')]
    · rw [if_pos hx]
      refine ih (fun c hc => hxs c (by simp [hc])) (by simpa using hk) ?_
      intro ys zs h hne r' hr'
      exact hshorter (x :: ys) zs (by simp [h]) hne r' (by simpa using hr')

end Repetition

theorem exists_of_read_run {p : Preference} (h : (run t nonempty p).read k a s = some r) :
    ∃ xs rest, a.rest = xs ++ rest ∧ (∀ c ∈ xs, t.has c = true) ∧
      (nonempty = true → xs ≠ []) ∧ k ⟨lastAfter a.last xs, rest⟩ s = some r := by
  have hrun : ∀ b : Place, readRun t p (fun b => k b s) b = some r →
      ∃ xs rest, b.rest = xs ++ rest ∧ (∀ c ∈ xs, t.has c = true) ∧
        k ⟨lastAfter b.last xs, rest⟩ s = some r := by
    intro b hb
    cases p with
    | longest => exact exists_of_readLongest hb
    | shortest => exact exists_of_readShortest hb
  cases nonempty with
  | false =>
    obtain ⟨xs, rest, hrest, hxs, hk⟩ := hrun a h
    exact ⟨xs, rest, hrest, hxs, by simp, hk⟩
  | true =>
    obtain ⟨last, _ | ⟨c, cs⟩⟩ := a
    · simp [read, readOne] at h
    · simp only [read, readOne] at h
      split at h
      · rename_i hc
        obtain ⟨xs, rest, hrest, hxs, hk⟩ := hrun _ h
        refine ⟨c :: xs, rest, by simp_all, by simpa [hc] using hxs, by simp, by simpa using hk⟩
      · simp at h

/-- What is read goes on from a later place of the text. -/
theorem exists_suffix_of_read {p : Pattern ι} (h : p.read k a s = some r) :
    ∃ b s', b.rest <:+ a.rest ∧ k b s' = some r := by
  induction p generalizing k a s with
  | text w =>
    obtain ⟨rest, hrest, h⟩ := exists_of_read_text h
    exact ⟨_, _, hrest ▸ List.suffix_append w rest, h⟩
  | one t =>
    obtain ⟨c, rest, hrest, -, h⟩ := exists_of_read_one h
    exact ⟨_, _, hrest ▸ List.suffix_cons c rest, h⟩
  | run t nonempty p =>
    obtain ⟨xs, rest, hrest, -, -, h⟩ := exists_of_read_run h
    exact ⟨_, _, hrest ▸ List.suffix_append xs rest, h⟩
  | seq p q ihp ihq =>
    obtain ⟨b, s', hb, h⟩ := ihp h
    obtain ⟨c, s'', hc, h⟩ := ihq h
    exact ⟨c, s'', hc.trans hb, h⟩
  | alt p q ihp ihq =>
    rcases or_of_read_alt h with h | h
    · exact ihp h
    · exact ihq h
  | opt p ih =>
    rcases or_of_read_opt h with h | h
    · exact ih h
    · exact ⟨a, s, List.suffix_refl _, h⟩
  | capture f p ih =>
    obtain ⟨b, s', hb, h⟩ := ih h
    exact ⟨b, _, hb, h⟩
  | start | boundary | blankOrEnd =>
    simp only [read] at h
    split at h
    · exact ⟨a, s, List.suffix_refl _, h⟩
    · simp at h
  | notBefore w => exact ⟨a, s, List.suffix_refl _, (exists_of_read_notBefore h).2⟩

theorem read_run_longest (hxs : ∀ c ∈ xs, t.has c = true) (hne : nonempty = true → xs ≠ [])
    (hk : k ⟨lastAfter last xs, rest⟩ s = some r)
    (hlonger : ∀ ys zs, rest = ys ++ zs → ys ≠ [] → (∀ c ∈ ys, t.has c = true) →
      ∀ r', k ⟨lastAfter last (xs ++ ys), zs⟩ s = some r' → r' = r) :
    (run t nonempty .longest).read k ⟨last, xs ++ rest⟩ s = some r := by
  cases nonempty with
  | false => exact readLongest_append hxs hk hlonger
  | true =>
    obtain _ | ⟨x, xs⟩ := xs
    · exact absurd rfl (hne rfl)
    · have hx : t.has x = true := hxs x (by simp)
      simp only [List.cons_append, read, readOne, hx, if_true, readRun]
      refine readLongest_append (fun c hc => hxs c (by simp [hc])) (by simpa using hk) ?_
      intro ys zs h hys hall r' hr'
      exact hlonger ys zs h hys hall r' (by simpa using hr')

theorem read_run_shortest (hxs : ∀ c ∈ xs, t.has c = true) (hne : nonempty = true → xs ≠ [])
    (hk : k ⟨lastAfter last xs, rest⟩ s = some r)
    (hshorter : ∀ ys zs, xs = ys ++ zs → zs ≠ [] → (nonempty = true → ys ≠ []) →
      ∀ r', k ⟨lastAfter last ys, zs ++ rest⟩ s = some r' → r' = r) :
    (run t nonempty .shortest).read k ⟨last, xs ++ rest⟩ s = some r := by
  cases nonempty with
  | false =>
    exact readShortest_append hxs hk fun ys zs h hzs => hshorter ys zs h hzs (by simp)
  | true =>
    obtain _ | ⟨x, xs⟩ := xs
    · exact absurd rfl (hne rfl)
    · have hx : t.has x = true := hxs x (by simp)
      simp only [List.cons_append, read, readOne, hx, if_true, readRun]
      refine readShortest_append (fun c hc => hxs c (by simp [hc])) (by simpa using hk) ?_
      intro ys zs h hzs r' hr'
      exact hshorter (x :: ys) zs (by simp [h]) hzs (by simp) r' (by simpa using hr')

/-- A repetition that prefers long runs reads a run that the text does not carry on. -/
theorem read_run_longest_of_stop (hxs : ∀ c ∈ xs, t.has c = true)
    (hne : nonempty = true → xs ≠ []) (hstop : ∀ c ∈ rest.head?, t.has c = false)
    (hk : k ⟨lastAfter last xs, rest⟩ s = some r) :
    (run t nonempty .longest).read k ⟨last, xs ++ rest⟩ s = some r := by
  refine read_run_longest hxs hne hk ?_
  rintro (_ | ⟨y, ys⟩) zs rfl hys hall
  · exact absurd rfl hys
  · have := hall y (by simp)
    simp [hstop y (by simp)] at this

/-- A run is read the same before patterns that agree wherever it may end. -/
theorem readRun_congr {k k' : Place → Option α} {p : Preference} {cs : List Char}
    (hk : ∀ xs rest, cs = xs ++ rest → (∀ c ∈ xs, t.has c = true) →
      k ⟨lastAfter last xs, rest⟩ = k' ⟨lastAfter last xs, rest⟩) :
    readRun t p k ⟨last, cs⟩ = readRun t p k' ⟨last, cs⟩ := by
  have hhere := hk [] cs rfl (by simp)
  induction cs generalizing last with
  | nil => cases p <;> exact hhere
  | cons c cs ih =>
    by_cases hc : t.has c = true
    · have hstep : ∀ xs rest, cs = xs ++ rest → (∀ d ∈ xs, t.has d = true) →
          k ⟨lastAfter (some c) xs, rest⟩ = k' ⟨lastAfter (some c) xs, rest⟩ := by
        intro xs rest h hxs
        simpa using hk (c :: xs) rest (by simp [h]) (by simpa [hc] using hxs)
      have hrest := ih hstep (hstep [] cs rfl (by simp))
      simp only [lastAfter_nil] at hhere
      cases p with
      | longest =>
        simp only [readRun, readLongest, hc, if_true] at hrest ⊢
        rw [hrest, hhere]
      | shortest =>
        simp only [readRun, readShortest, hc, if_true] at hrest ⊢
        rw [hrest, hhere]
    · simp only [lastAfter_nil] at hhere
      cases p <;> simp [readRun, readLongest, readShortest, hc, hhere]

theorem read_several_congr {k k' : Place → Captures ι → Option α} {p : Preference}
    {cs : List Char}
    (hk : ∀ xs rest, cs = xs ++ rest → (∀ c ∈ xs, t.has c = true) →
      k ⟨lastAfter last xs, rest⟩ s = k' ⟨lastAfter last xs, rest⟩ s) :
    (run t true p).read k ⟨last, cs⟩ s = (run t true p).read k' ⟨last, cs⟩ s := by
  cases cs with
  | nil => rfl
  | cons c cs =>
    simp only [read, readOne]
    split
    · rename_i hc
      refine readRun_congr fun xs rest h hxs => ?_
      simpa using hk (c :: xs) rest (by simp [h]) (by simpa [hc] using hxs)
    · rfl

/-- A run after which something can go on is read, or another run before it. -/
theorem isSome_readRun {k : Place → Option α} {p : Preference} (hxs : ∀ c ∈ xs, t.has c = true)
    (hk : (k ⟨lastAfter last xs, rest⟩).isSome) :
    (readRun t p k ⟨last, xs ++ rest⟩).isSome := by
  induction xs generalizing last with
  | nil => cases p <;> cases rest <;> grind [readRun, lastAfter_nil]
  | cons x xs ih =>
    have hx : t.has x = true := hxs x (by simp)
    have htail := @ih (some x) (fun c hc => hxs c (by simp [hc])) (by simpa using hk)
    cases p <;> grind [readRun]

theorem isSome_read_run {p : Preference} (hxs : ∀ c ∈ xs, t.has c = true)
    (hne : nonempty = true → xs ≠ []) (hk : (k ⟨lastAfter last xs, rest⟩ s).isSome) :
    ((run t nonempty p).read k ⟨last, xs ++ rest⟩ s).isSome := by
  cases nonempty with
  | false => exact isSome_readRun hxs hk
  | true =>
    obtain ⟨x, xs, rfl⟩ := List.exists_cons_of_ne_nil (hne rfl)
    have hx : t.has x = true := hxs x (by simp)
    simp only [List.cons_append, read, readOne, hx, if_true]
    exact isSome_readRun (fun c hc => hxs c (by simp [hc])) (by simpa using hk)

/-! ## Steps along a sequence -/

variable {ps : List (Pattern ι)} {f : ι} {p : Pattern ι}

theorem read_cons_text (w rest : List Char) :
    (inOrder (text w :: ps)).read k ⟨last, w ++ rest⟩ s =
      (inOrder ps).read k ⟨lastAfter last w, rest⟩ s := by
  rw [read_inOrder_cons, read_text_append]

theorem read_cons_lit (w : String) (rest : List Char) :
    (inOrder (lit w :: ps)).read k ⟨last, w.toList ++ rest⟩ s =
      (inOrder ps).read k ⟨lastAfter last w.toList, rest⟩ s :=
  read_cons_text w.toList rest

theorem read_cons_capture :
    (inOrder (capture f p :: ps)).read k a s =
      p.read (fun b s' => (inOrder ps).read k b (⟨f, a.rest, b.rest⟩ :: s')) a s := by
  rw [read_inOrder_cons, read_capture]

theorem read_cons_run_of_stop (hxs : ∀ c ∈ xs, t.has c = true) (hne : nonempty = true → xs ≠ [])
    (hstop : ∀ c ∈ rest.head?, t.has c = false)
    (hk : (inOrder ps).read k ⟨lastAfter last xs, rest⟩ s = some r) :
    (inOrder (run t nonempty .longest :: ps)).read k ⟨last, xs ++ rest⟩ s = some r := by
  rw [read_inOrder_cons]
  exact read_run_longest_of_stop hxs hne hstop hk

/-- A repetition that the text does not begin with reads nothing. -/
theorem read_cons_many_of_stop (hstop : ∀ c ∈ rest.head?, t.has c = false) :
    (inOrder (many t :: ps)).read k ⟨last, rest⟩ s = (inOrder ps).read k ⟨last, rest⟩ s := by
  rw [read_inOrder_cons]
  cases rest with
  | nil => rfl
  | cons c rest => simp [many, read, readRun, readLongest, hstop c (by simp)]

theorem read_cons_run_shortest (hxs : ∀ c ∈ xs, t.has c = true)
    (hne : nonempty = true → xs ≠ [])
    (hk : (inOrder ps).read k ⟨lastAfter last xs, rest⟩ s = some r)
    (hshorter : ∀ ys zs, xs = ys ++ zs → zs ≠ [] → (nonempty = true → ys ≠ []) →
      ∀ r', (inOrder ps).read k ⟨lastAfter last ys, zs ++ rest⟩ s = some r' → r' = r) :
    (inOrder (run t nonempty .shortest :: ps)).read k ⟨last, xs ++ rest⟩ s = some r := by
  rw [read_inOrder_cons]
  exact read_run_shortest hxs hne hk hshorter

theorem read_cons_capture_run_of_stop (hxs : ∀ c ∈ xs, t.has c = true)
    (hne : nonempty = true → xs ≠ []) (hstop : ∀ c ∈ rest.head?, t.has c = false)
    (hk : (inOrder ps).read k ⟨lastAfter last xs, rest⟩ (⟨f, xs ++ rest, rest⟩ :: s) = some r) :
    (inOrder (capture f (run t nonempty .longest) :: ps)).read k ⟨last, xs ++ rest⟩ s =
      some r := by
  rw [read_cons_capture]
  exact read_run_longest_of_stop hxs hne hstop hk

theorem exists_of_read_cons_lit {w : String}
    (h : (inOrder (lit w :: ps)).read k a s = some r) :
    ∃ rest, a.rest = w.toList ++ rest ∧
      (inOrder ps).read k ⟨lastAfter a.last w.toList, rest⟩ s = some r := by
  rw [read_inOrder_cons] at h
  exact exists_of_read_text h

theorem exists_of_read_cons_run {p : Preference}
    (h : (inOrder (run t nonempty p :: ps)).read k a s = some r) :
    ∃ xs rest, a.rest = xs ++ rest ∧ (∀ c ∈ xs, t.has c = true) ∧ (nonempty = true → xs ≠ []) ∧
      (inOrder ps).read k ⟨lastAfter a.last xs, rest⟩ s = some r := by
  rw [read_inOrder_cons] at h
  exact exists_of_read_run h

theorem exists_of_read_cons_capture_run {p : Preference}
    (h : (inOrder (capture f (run t nonempty p) :: ps)).read k a s = some r) :
    ∃ xs rest, a.rest = xs ++ rest ∧ (∀ c ∈ xs, t.has c = true) ∧ (nonempty = true → xs ≠ []) ∧
      (inOrder ps).read k ⟨lastAfter a.last xs, rest⟩ (⟨f, a.rest, rest⟩ :: s) = some r := by
  rw [read_cons_capture] at h
  exact exists_of_read_run h

end Pattern

end ComponentLinks
