import ComponentLinks.Proofs.Pattern.Scan
import ComponentLinks.Proofs.Text.Classes
import Mathlib.Data.List.Forall2
import Mathlib.Data.List.ReduceOption

/-!
# A text scanned word by word

Where every match stands in one word of a text, or covers a word with the blanks in front of it,
the scan of the text is put together from the scans of its words.

## Main definitions

* `Text.words_induction`: a text is nothing but blanks, or a word after blanks and another text.
* `Text.exists_mem_words_of_isInfix`: what has no blanks stands in a word.
* `Pattern.ScansTo`: what is made of the matches in a part of a text.
* `Pattern.filterMap_scan_of_words`: what is made of the matches in a text, word by word.
-/
namespace ComponentLinks

namespace Text

variable {gap w rest cs : List Char}

theorem words_append_cons_of_isBlank {b : Char} (hb : isBlank b = true) (xs ys : List Char) :
    words (xs ++ b :: ys) = words xs ++ words ys := by
  simp [words, List.splitOnP_append_cons xs ys hb]

theorem words_blanks_append (hgap : ∀ c ∈ gap, isBlank c = true) (cs : List Char) :
    words (gap ++ cs) = words cs := by
  induction gap with
  | nil => rfl
  | cons b gap ih =>
    have hcons := words_append_cons_of_isBlank (hgap b (by simp)) [] (gap ++ cs)
    rw [List.nil_append] at hcons
    rw [List.cons_append, hcons, ih fun c hc => hgap c (by simp [hc])]
    simp [words]

theorem words_of_blanks (hgap : ∀ c ∈ gap, isBlank c = true) : words gap = [] := by
  have h := words_blanks_append hgap []
  rw [List.append_nil] at h
  simpa [words] using h

theorem words_of_visible (hne : w ≠ []) (hw : ∀ c ∈ w, isBlank c = false) : words w = [w] := by
  simp [words, List.splitOnP_eq_singleton hw, hne]

theorem words_append_of_blank (hrest : ∀ c ∈ rest.head?, isBlank c = true) (cs : List Char) :
    words (cs ++ rest) = words cs ++ words rest := by
  cases rest with
  | nil => simp [words]
  | cons b rest =>
    have hb : isBlank b = true := hrest b (by simp)
    have hcons := words_append_cons_of_isBlank hb [] rest
    rw [words_append_cons_of_isBlank hb]
    simpa [words] using hcons.symm

theorem words_visible_append (hne : w ≠ []) (hw : ∀ c ∈ w, isBlank c = false)
    (hrest : ∀ c ∈ rest.head?, isBlank c = true) : words (w ++ rest) = w :: words rest := by
  rw [words_append_of_blank hrest, words_of_visible hne hw, List.singleton_append]

theorem words_append (hgap : ∀ c ∈ gap, isBlank c = true) (hne : w ≠ [])
    (hw : ∀ c ∈ w, isBlank c = false) (hrest : ∀ c ∈ rest.head?, isBlank c = true) :
    words (gap ++ (w ++ rest)) = w :: words rest := by
  rw [words_blanks_append hgap, words_visible_append hne hw hrest]

/-- A text is nothing but blanks, or it is a word after blanks and before another text. -/
theorem words_induction {motive : List Char → Prop}
    (blanks : ∀ gap, (∀ c ∈ gap, isBlank c = true) → motive gap)
    (word : ∀ gap w rest, (∀ c ∈ gap, isBlank c = true) → w ≠ [] →
      (∀ c ∈ w, isBlank c = false) → (∀ c ∈ rest.head?, isBlank c = true) → motive rest →
      motive (gap ++ (w ++ rest)))
    (cs : List Char) : motive cs := by
  induction h : cs.length using Nat.strong_induction_on generalizing cs with
  | _ n ih =>
    obtain ⟨gap, ys, rfl, hgap, hys⟩ := exists_run_append isBlank cs
    obtain ⟨w, rest, rfl, hw, hrest⟩ := exists_run_append (fun c => !isBlank c) ys
    cases w with
    | nil =>
      -- A text that goes on neither with a blank nor with another character is at its end.
      cases rest with
      | nil => simpa using blanks gap hgap
      | cons c rest => simp_all
    | cons c w =>
      refine word gap (c :: w) rest hgap (by simp) (by simpa using hw) (by simpa using hrest) ?_
      refine ih rest.length ?_ rest rfl
      simp only [List.length_append, List.length_cons] at h
      omega

theorem isInfix_of_mem_words (h : w ∈ words cs) : w <:+: cs := by
  induction cs using words_induction with
  | blanks gap hgap => simp [words_of_blanks hgap] at h
  | word gap v rest hgap hne hv hrest ih =>
    rw [words_append hgap hne hv hrest, List.mem_cons] at h
    rcases h with rfl | h
    · exact ⟨gap, rest, by simp⟩
    · exact (ih h).trans ⟨gap ++ v, [], by simp⟩

theorem isBlank_eq_false_of_mem_words (h : w ∈ words cs) : ∀ c ∈ w, isBlank c = false := by
  induction cs using words_induction with
  | blanks gap hgap => simp [words_of_blanks hgap] at h
  | word gap v rest hgap hne hv hrest ih =>
    rw [words_append hgap hne hv hrest, List.mem_cons] at h
    rcases h with rfl | h
    · exact hv
    · exact ih h

theorem exists_mem_words_of_isInfix (hne : w ≠ []) (hw : ∀ c ∈ w, isBlank c = false)
    (h : w <:+: cs) : ∃ v ∈ words cs, w <:+: v := by
  obtain ⟨c, w, rfl⟩ := List.exists_cons_of_ne_nil hne
  have hnot : ∀ b, isBlank b = true → b ∉ c :: w := by
    intro b hb hmem
    simp [hw b hmem] at hb
  induction cs using words_induction with
  | blanks gap hgap => exact absurd (h.subset (by simp)) fun hmem => hnot c (hgap c hmem) (by simp)
  | word gap v rest hgap hne hv hrest ih =>
    rw [words_append hgap hne hv hrest]
    have h := isInfix_of_not_mem (fun hmem => hnot c (hgap c hmem) (by simp)) h
    cases rest with
    | nil => exact ⟨v, by simp, by simpa using h⟩
    | cons b rest =>
      rcases isInfix_or_of_not_mem (hnot b (hrest b (by simp))) h with h | h
      · exact ⟨v, by simp, h⟩
      · obtain ⟨v', hv', h⟩ := ih (h.trans (List.suffix_cons b rest).isInfix)
        exact ⟨v', List.mem_cons_of_mem v hv', h⟩

/-- What a text begins with and has no blanks is how its first word begins. -/
theorem exists_words_visible_append (hne : w ≠ []) (hw : ∀ c ∈ w, isBlank c = false)
    (cs : List Char) : ∃ vs rest, cs = vs ++ rest ∧ (∀ c ∈ rest.head?, isBlank c = true) ∧
      words (w ++ cs) = (w ++ vs) :: words rest := by
  obtain ⟨vs, rest, rfl, hvs, hrest⟩ := exists_run_append (fun c => !isBlank c) cs
  have hrest : ∀ c ∈ rest.head?, isBlank c = true := by simpa using hrest
  refine ⟨vs, rest, rfl, hrest, ?_⟩
  rw [← List.append_assoc, words_visible_append (by simp [hne]) ?_ hrest]
  intro c hc
  rcases List.mem_append.1 hc with hc | hc
  · exact hw c hc
  · simpa using hvs c hc

/-- What stands after a blank in a text and has no blanks is how one of its words begins. -/
theorem exists_mem_words_of_cons_isInfix {b : Char} (hb : isBlank b = true) (hne : w ≠ [])
    (hw : ∀ c ∈ w, isBlank c = false) (h : b :: w <:+: cs) : ∃ v ∈ words cs, w <+: v := by
  obtain ⟨xs, ys, rfl⟩ := h
  obtain ⟨vs, rest, -, -, hwords⟩ := exists_words_visible_append hne hw ys
  refine ⟨w ++ vs, ?_, List.prefix_append w vs⟩
  rw [List.append_assoc, List.cons_append, words_append_cons_of_isBlank hb, hwords]
  simp

/-- A text ends in a run of visible characters, before which it ends in a blank or begins. -/
theorem exists_append_visible (cs : List Char) :
    ∃ us vs, cs = us ++ vs ∧ (∀ c ∈ vs, isBlank c = false) ∧
      ∀ c ∈ us.getLast?, isBlank c = true := by
  obtain ⟨vs, us, hcs, hvs, hus⟩ := exists_run_append (fun c => !isBlank c) cs.reverse
  refine ⟨us.reverse, vs.reverse, ?_, ?_, ?_⟩
  · rw [← List.reverse_append, ← hcs, List.reverse_reverse]
  · simpa using hvs
  · simpa using hus

/-- What has no blanks stands in a word, after the words before it and before the ones after. -/
theorem exists_word_around (hne : w ≠ []) (hw : ∀ c ∈ w, isBlank c = false) (us vs : List Char) :
    ∃ before us' vs' after, us = before ++ us' ∧ vs = vs' ++ after ∧
      (∀ c ∈ after.head?, isBlank c = true) ∧
      words (us ++ (w ++ vs)) = words before ++ (us' ++ (w ++ vs')) :: words after := by
  obtain ⟨before, us', rfl, hus', hbefore⟩ := exists_append_visible us
  have hvisible : ∀ c ∈ us' ++ w, isBlank c = false := by
    intro c hc
    rcases List.mem_append.1 hc with hc | hc
    · exact hus' c hc
    · exact hw c hc
  obtain ⟨vs', after, rfl, hafter, hword⟩ :=
    exists_words_visible_append (by simp [hne]) hvisible vs
  refine ⟨before, us', vs', after, rfl, rfl, hafter, ?_⟩
  have hsplit : (before ++ us') ++ (w ++ (vs' ++ after)) =
      before ++ ((us' ++ w) ++ (vs' ++ after)) := by simp
  rw [hsplit, ← List.append_assoc us', ← hword]
  rcases List.eq_nil_or_concat before with rfl | ⟨before, b, rfl⟩
  · simp [words]
  · have hb : isBlank b = true := hbefore b (by simp)
    rw [List.concat_eq_append, List.append_assoc, List.singleton_append,
      words_append_cons_of_isBlank hb, words_append_cons_of_isBlank hb]
    simp [words]

end Text

namespace Pattern

variable {ι β : Type} {p : Pattern ι} {g : Found ι → Option β} {xs ys rest : List Char}

/-- Whether a scan goes over the part `xs` of a text, up to `rest`, and `g` makes `rs` of the
matches in it. -/
def ScansTo (p : Pattern ι) (g : Found ι → Option β) (xs rest : List Char) (rs : List β) : Prop :=
  ∀ n last, ∃ ms, p.scanFrom n 0 last (xs ++ rest) =
    ms ++ p.scanFrom (n + xs.length) 0 (lastAfter last xs) rest ∧ ms.filterMap g = rs

namespace ScansTo

theorem append {rs ts : List β} (hxs : ScansTo p g xs (ys ++ rest) rs)
    (hys : ScansTo p g ys rest ts) : ScansTo p g (xs ++ ys) rest (rs ++ ts) := by
  intro n last
  obtain ⟨ms, hms, rfl⟩ := hxs n last
  obtain ⟨ns, hns, rfl⟩ := hys (n + xs.length) (lastAfter last xs)
  refine ⟨ms ++ ns, ?_, List.filterMap_append⟩
  rw [List.append_assoc, hms, hns, List.length_append, lastAfter_append, Nat.add_assoc,
    List.append_assoc]

/-- Nothing is made of a part in which no match begins. -/
theorem of_none (h : ∀ us vs, xs = us ++ vs → vs ≠ [] → ∀ last,
    p.matchAt? ⟨last, vs ++ rest⟩ = none) : ScansTo p g xs rest [] := by
  intro n last
  refine ⟨[], scanFrom_pass fun us vs hsplit hne => h us vs hsplit hne _, rfl⟩

/-- What is made of a match is made of the part that it covers. -/
theorem of_match {s : Captures ι} {r : Option β} (hne : xs ≠ [])
    (h : ∀ last, ∃ end_, p.matchAt? ⟨last, xs ++ rest⟩ = some (⟨end_, rest⟩, s))
    (hr : ∀ n, g ⟨n, xs, s⟩ = r) : ScansTo p g xs rest r.toList := by
  intro n last
  obtain ⟨end_, h⟩ := h last
  refine ⟨[⟨n, xs, s⟩], scanFrom_match hne h, ?_⟩
  cases r <;> simp [hr]

end ScansTo

/-- Where nothing is made of blanks, and of each word what it stands for, the words of a text are
made into what they stand for, in order. What comes after a word may be counted on to have words
that stand for something, too. -/
theorem filterMap_scan_of_words {R : List Char → Option β → Prop} {cs : List Char}
    {rs : List (Option β)}
    (hblanks : ∀ gap, (∀ c ∈ gap, Text.isBlank c = true) → ScansTo p g gap [] [])
    (hword : ∀ gap w rest r, (∀ c ∈ gap, Text.isBlank c = true) → w ≠ [] →
      (∀ c ∈ w, Text.isBlank c = false) → (∀ c ∈ rest.head?, Text.isBlank c = true) →
      (∀ v ∈ Text.words rest, ∃ t, R v t) → R w r → ScansTo p g (gap ++ w) rest r.toList)
    (h : List.Forall₂ R (Text.words cs) rs) : (p.scan cs).filterMap g = rs.reduceOption := by
  -- The scan of the rest begins anywhere.
  suffices hscan : ScansTo p g cs [] rs.reduceOption by
    obtain ⟨ms, hms, hrs⟩ := hscan 0 none
    rw [List.append_nil, scanFrom_nil, List.append_nil] at hms
    rw [scan, hms, hrs]
  induction cs using Text.words_induction generalizing rs with
  | blanks gap hgap =>
    rw [Text.words_of_blanks hgap] at h
    obtain rfl : rs = [] := List.forall₂_nil_left_iff.1 h
    exact hblanks gap hgap
  | word gap w rest hgap hne hw hrest ih =>
    rw [Text.words_append hgap hne hw hrest] at h
    obtain ⟨r, rs, hr, hrs, rfl⟩ := List.forall₂_cons_left_iff.1 h
    have hlater : ∀ v ∈ Text.words rest, ∃ t, R v t :=
      (List.forall₂_and_left _ _).1 (hrs.imp fun _ t ht => ⟨⟨t, ht⟩, ht⟩) |>.1
    have hfirst := hword gap w rest r hgap hne hw hrest hlater hr
    have hboth : ScansTo p g ((gap ++ w) ++ rest) [] (r.toList ++ rs.reduceOption) :=
      ScansTo.append (by simpa using hfirst) (ih hrs)
    rw [List.append_assoc] at hboth
    cases r <;> simpa using hboth

end Pattern

end ComponentLinks
