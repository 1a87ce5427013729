import ComponentLinks.Proofs.Pattern.First

/-!
# The matches in a text

How a scan goes through a text that is written down as the matches in it and what stands between
them: it passes over a part in which no match begins, and a match covers its own text.

## Main definitions

* `Pattern.scanFrom_pass`: a part in which no match begins.
* `Pattern.scanFrom_match`: a match.
* `Pattern.exists_scanFrom_append`: a part out of which no match leads.
* `Pattern.start_le_and_isPrefix_of_mem_scanFrom`, `Pattern.pairwise_scanFrom`: where matches stand.
-/
namespace ComponentLinks.Pattern

variable {ι : Type} {p : Pattern ι} {n : Nat} {last : Option Char} {xs rest : List Char}
  {s : Captures ι}

@[simp] theorem scanFrom_nil (p : Pattern ι) (n covered : Nat) (last : Option Char) :
    p.scanFrom n covered last [] = [] := by
  cases covered <;> rfl

/-- Patterns that match alike everywhere find the same matches. -/
theorem scan_congr {q : Pattern ι} (h : ∀ a, p.matchAt? a = q.matchAt? a) (cs : List Char) :
    p.scan cs = q.scan cs := by
  have hfrom : ∀ n covered last, p.scanFrom n covered last cs = q.scanFrom n covered last cs := by
    induction cs with
    | nil => simp
    | cons c cs ih =>
      intro n covered last
      cases covered with
      | zero => simp only [scanFrom, h, ih]
      | succ covered => simp only [scanFrom, ih]
  exact hfrom 0 0 none

/-- The text of a match already found is passed over. -/
theorem scanFrom_covered (p : Pattern ι) (n : Nat) (last : Option Char) (xs rest : List Char) :
    p.scanFrom n xs.length last (xs ++ rest) =
      p.scanFrom (n + xs.length) 0 (lastAfter last xs) rest := by
  induction xs generalizing n last with
  | nil => rfl
  | cons x xs ih =>
    have hstep : n + (x :: xs).length = n + 1 + xs.length := by
      simp only [List.length_cons]
      omega
    rw [hstep, lastAfter_cons]
    exact ih (n + 1) (some x)

/-- A part of a text in which no match begins is passed over. -/
theorem scanFrom_pass
    (hxs : ∀ ys zs, xs = ys ++ zs → zs ≠ [] →
      p.matchAt? ⟨lastAfter last ys, zs ++ rest⟩ = none) :
    p.scanFrom n 0 last (xs ++ rest) =
      p.scanFrom (n + xs.length) 0 (lastAfter last xs) rest := by
  induction xs generalizing n last with
  | nil => rfl
  | cons x xs ih =>
    have hstep : n + (x :: xs).length = n + 1 + xs.length := by
      simp only [List.length_cons]
      omega
    have hnone : p.matchAt? ⟨last, x :: (xs ++ rest)⟩ = none := hxs [] (x :: xs) rfl (by simp)
    rw [hstep, lastAfter_cons, List.cons_append, scanFrom, hnone]
    refine ih fun ys zs h hzs => ?_
    have := hxs (x :: ys) zs (by simp [h]) hzs
    simpa using this

/-- A match is found where it begins, and its text is passed over. -/
theorem scanFrom_match {end_ : Option Char} (hne : xs ≠ [])
    (h : p.matchAt? ⟨last, xs ++ rest⟩ = some (⟨end_, rest⟩, s)) :
    p.scanFrom n 0 last (xs ++ rest) =
      ⟨n, xs, s⟩ :: p.scanFrom (n + xs.length) 0 (lastAfter last xs) rest := by
  obtain ⟨x, xs, rfl⟩ := List.exists_cons_of_ne_nil hne
  have hlength : (xs ++ rest).length + 1 - rest.length = xs.length + 1 := by
    simp only [List.length_append]
    omega
  have htext : (x :: (xs ++ rest)).take ((xs ++ rest).length + 1 - rest.length) = x :: xs := by
    rw [hlength]
    simp
  rw [List.cons_append] at h
  have hcovered := scanFrom_covered p (n + 1) (some x) xs rest
  rw [List.cons_append, scanFrom, h]
  simp only [htext, lastAfter_cons, List.length_cons, Nat.add_sub_cancel, hcovered]
  rw [show n + (xs.length + 1) = n + 1 + xs.length by omega]

/-- Where no match that begins in a part of a text leads out of it, the scan comes to the end of
the part. -/
theorem exists_scanFrom_append {covered : Nat} (hcovered : covered ≤ xs.length)
    (hends : ∀ ys zs, xs = ys ++ zs → zs ≠ [] → ∀ last b s,
      p.matchAt? ⟨last, zs ++ rest⟩ = some (b, s) → rest.length ≤ b.rest.length) :
    ∃ ms, p.scanFrom n covered last (xs ++ rest) =
      ms ++ p.scanFrom (n + xs.length) 0 (lastAfter last xs) rest := by
  induction xs generalizing n last covered with
  | nil =>
    obtain rfl : covered = 0 := by simpa using hcovered
    exact ⟨[], rfl⟩
  | cons x xs ih =>
    have hstep : n + (x :: xs).length = n + 1 + xs.length := by
      simp only [List.length_cons]
      omega
    have hends' : ∀ ys zs, xs = ys ++ zs → zs ≠ [] → ∀ last b s,
        p.matchAt? ⟨last, zs ++ rest⟩ = some (b, s) → rest.length ≤ b.rest.length :=
      fun ys zs h => hends (x :: ys) zs (by simp [h])
    rw [hstep, lastAfter_cons, List.cons_append]
    cases covered with
    | succ covered => exact ih (by simpa using hcovered) hends'
    | zero =>
      cases hmatch : p.matchAt? ⟨last, x :: (xs ++ rest)⟩ with
      | none =>
        rw [scanFrom, hmatch]
        exact ih (Nat.zero_le _) hends'
      | some found =>
        obtain ⟨b, s⟩ := found
        have hb : rest.length ≤ b.rest.length := hends [] (x :: xs) rfl (by simp) last b s hmatch
        -- The match covers no more than the part.
        have hcover : ((x :: (xs ++ rest)).take
            ((xs ++ rest).length + 1 - b.rest.length)).length - 1 ≤ xs.length := by
          simp only [List.length_take, List.length_append]
          omega
        obtain ⟨ms, hms⟩ : ∃ ms, p.scanFrom (n + 1) _ (some x) (xs ++ rest) =
            ms ++ p.scanFrom (n + 1 + xs.length) 0 (lastAfter (some x) xs) rest :=
          ih hcover hends'
        rw [scanFrom, hmatch]
        exact ⟨_ :: ms, congrArg (_ :: ·) hms⟩

/-! ## Where matches stand -/

/-- A match stands in the text, and not in a part that is covered by the one before it. -/
theorem start_le_and_isPrefix_of_mem_scanFrom {covered : Nat} {m : Found ι}
    (h : m ∈ p.scanFrom n covered last xs) :
    n + covered ≤ m.start ∧ m.text <+: xs.drop (m.start - n) := by
  induction xs generalizing n last covered with
  | nil => simp at h
  | cons x xs ih =>
    have hlater {last : Option Char} {covered : Nat} (h : m ∈ p.scanFrom (n + 1) covered last xs) :
        n + 1 + covered ≤ m.start ∧ m.text <+: (x :: xs).drop (m.start - n) := by
      obtain ⟨hle, hpre⟩ := ih h
      rw [show m.start - n = m.start - (n + 1) + 1 by omega]
      exact ⟨hle, hpre⟩
    cases covered with
    | succ covered =>
      obtain ⟨hle, hpre⟩ := hlater h
      exact ⟨by omega, hpre⟩
    | zero =>
      rw [scanFrom] at h
      split at h
      · rcases List.mem_cons.1 h with rfl | h
        · simp [List.take_prefix]
        · obtain ⟨hle, hpre⟩ := hlater h
          exact ⟨by omega, hpre⟩
      · obtain ⟨hle, hpre⟩ := hlater h
        exact ⟨by omega, hpre⟩

/-- What is kept of a match is what the pattern keeps somewhere in the text. -/
theorem exists_matchAt?_of_mem_scanFrom {covered : Nat} {m : Found ι}
    (h : m ∈ p.scanFrom n covered last xs) :
    ∃ us vs before b, xs = us ++ vs ∧ p.matchAt? ⟨before, vs⟩ = some (b, m.captures) := by
  induction xs generalizing n last covered with
  | nil => simp at h
  | cons x xs ih =>
    have hlater {covered : Nat} (h : m ∈ p.scanFrom (n + 1) covered (some x) xs) :
        ∃ us vs before b, x :: xs = us ++ vs ∧
          p.matchAt? ⟨before, vs⟩ = some (b, m.captures) := by
      obtain ⟨us, vs, before, b, rfl, hmatch⟩ := ih h
      exact ⟨x :: us, vs, before, b, rfl, hmatch⟩
    cases covered with
    | succ covered => exact hlater h
    | zero =>
      rw [scanFrom] at h
      split at h
      case h_1 b s hmatch =>
        rcases List.mem_cons.1 h with rfl | h
        · exact ⟨[], x :: xs, last, b, rfl, hmatch⟩
        · exact hlater h
      case h_2 => exact hlater h

/-- A match begins where the one before it has ended, or later. -/
theorem pairwise_scanFrom (p : Pattern ι) (n covered : Nat) (last : Option Char)
    (xs : List Char) : (p.scanFrom n covered last xs).Pairwise fun a b => a.stop ≤ b.start := by
  induction xs generalizing n last covered with
  | nil => simp
  | cons x xs ih =>
    cases covered with
    | succ covered => exact ih (n + 1) covered (some x)
    | zero =>
      rw [scanFrom]
      split
      · refine List.pairwise_cons.2 ⟨fun m hm => ?_, ih _ _ _⟩
        have hle := (start_le_and_isPrefix_of_mem_scanFrom hm).1
        simp only [Found.stop]
        omega
      · exact ih _ _ _

end ComponentLinks.Pattern
