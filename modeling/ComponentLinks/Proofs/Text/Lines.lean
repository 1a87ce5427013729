import ComponentLinks.Proofs.Text.Classes
import ComponentLinks.Text.Lines
import ComponentLinks.Text.Numeral
import Mathlib.Algebra.Group.Nat.Defs
import Mathlib.Data.List.TakeWhile

/-!
# Reading what was written

Lines joined by newlines are read back as they are, with or without a newline after the last one;
and the decimal digits of a number are read back as the number.

## Main definitions

* `Text.IsLine`: the texts that can be lines of an output.
* `Text.boundaryLines_intercalate`: the lines of an output.
* `Text.readNumeral_toDigits`, `Text.readNumeral_toDigits_of_long`: the number that digits write,
  unless they are too many.
-/
namespace ComponentLinks.Text

/-- Whether a text is a line of an output: no line ends in it. -/
def IsLine (cs : List Char) : Prop := ∀ c ∈ cs, isLineBoundary c = false

instance (cs : List Char) : Decidable (IsLine cs) := inferInstanceAs (Decidable (∀ c ∈ cs, _))

theorem boundaryLines_cons {c : Char} {cs : List Char} (hc : isLineBoundary c = false) :
    boundaryLines (c :: cs) = consToLine c (boundaryLines cs) := by
  have hreturn : c ≠ '\r' := by
    rintro rfl
    revert hc
    decide
  rw [boundaryLines]
  · simp [hc]
  · rintro rest heq
    simp_all

theorem boundaryLines_newline (cs : List Char) :
    boundaryLines ('\n' :: cs) = [] :: boundaryLines cs := by
  rw [boundaryLines]
  · simp [isLineBoundary, lineBoundaries]
  · simp

theorem boundaryLines_append_newline {line : List Char} (h : IsLine line) (cs : List Char) :
    boundaryLines (line ++ '\n' :: cs) = line :: boundaryLines cs := by
  induction line with
  | nil => exact boundaryLines_newline cs
  | cons c line ih =>
    rw [List.cons_append, boundaryLines_cons (h c (by simp)),
      ih fun d hd => h d (by simp [hd])]
    rfl

theorem boundaryLines_of_isLine {line : List Char} (h : IsLine line) (hne : line ≠ []) :
    boundaryLines line = [line] := by
  induction line with
  | nil => exact absurd rfl hne
  | cons c line ih =>
    rw [boundaryLines_cons (h c (by simp))]
    cases line with
    | nil => rfl
    | cons d line =>
      rw [ih (fun e he => h e (by simp [he])) (by simp)]
      rfl

/-- Lines that are joined by newlines are read back, with or without a newline after the last
one. -/
theorem boundaryLines_intercalate {lines : List (List Char)} {ending : List Char}
    (hlines : ∀ line ∈ lines, IsLine line ∧ line ≠ []) (hne : lines ≠ [])
    (hending : ending = [] ∨ ending = ['\n']) :
    boundaryLines (List.intercalate ['\n'] lines ++ ending) = lines := by
  induction lines with
  | nil => exact absurd rfl hne
  | cons line lines ih =>
    obtain ⟨hline, hlineNe⟩ := hlines line (by simp)
    cases lines with
    | nil =>
      rcases hending with rfl | rfl
      · simpa using boundaryLines_of_isLine hline hlineNe
      · simpa [boundaryLines] using boundaryLines_append_newline hline []
    | cons next lines =>
      have htail := ih (fun l hl => hlines l (by simp [hl])) (by simp)
      have hjoin : List.intercalate ['\n'] (line :: next :: lines) =
          line ++ '\n' :: List.intercalate ['\n'] (next :: lines) := by
        simp [List.intercalate]
      rw [hjoin, List.append_assoc, List.cons_append, boundaryLines_append_newline hline, htail]

/-! ## Numbers -/

theorem digitValue?_digitChar {d : Nat} (h : d < 10) : digitValue? d.digitChar = some d := by
  have hall : ∀ d < 10, digitValue? (Nat.digitChar d) = some d := by decide
  exact hall d h

theorem numeralFrom?_append (n : Nat) (cs ds : List Char) :
    numeralFrom? n (cs ++ ds) = (numeralFrom? n cs).bind fun m => numeralFrom? m ds := by
  induction cs generalizing n with
  | nil => rfl
  | cons c cs ih =>
    rw [List.cons_append, numeralFrom?, numeralFrom?]
    cases digitValue? c with
    | none => rfl
    | some d => exact ih (n * 10 + d)

theorem numeralFrom?_toDigits (n : Nat) : numeralFrom? 0 (Nat.toDigits 10 n) = some n := by
  induction n using Nat.strongRecOn with
  | ind n ih =>
    by_cases hn : n < 10
    · rw [Nat.toDigits_of_lt_base hn, numeralFrom?, digitValue?_digitChar hn]
      simp [numeralFrom?]
    · have hlast : n % 10 < 10 := Nat.mod_lt n (by omega)
      rw [Nat.toDigits_of_base_le (by omega) (by omega), numeralFrom?_append,
        ih (n / 10) (by omega), Option.bind_some, numeralFrom?, digitValue?_digitChar hlast]
      simp only [numeralFrom?, Option.some.injEq]
      omega

theorem isDecimal_of_mem_toDigits {n : Nat} {c : Char} (h : c ∈ Nat.toDigits 10 n) :
    isDecimal c = true := by
  induction n using Nat.strongRecOn with
  | ind n ih =>
    by_cases hn : n < 10
    · rw [Nat.toDigits_of_lt_base hn, List.mem_singleton] at h
      simp [isDecimal, h, digitValue?_digitChar hn]
    · rw [Nat.toDigits_of_base_le (by omega) (by omega), List.mem_append] at h
      rcases h with h | h
      · exact ih (n / 10) (by omega) h
      · obtain rfl : c = (n % 10).digitChar := by simpa using h
        simp [isDecimal, digitValue?_digitChar (Nat.mod_lt n (by omega : 10 > 0))]

/-- The digits of a number are read as the number, if they are not too many. -/
theorem readNumeral_toDigits {n : Nat} (hlength : (Nat.toDigits 10 n).length ≤ digitLimit) :
    readNumeral (Nat.toDigits 10 n) = .ok n := by
  have hcount : ((Nat.toDigits 10 n).takeWhile isDecimal).length ≤ digitLimit :=
    Nat.le_trans (List.takeWhile_prefix _).length_le hlength
  have hnumeral : numeral? (Nat.toDigits 10 n) = some n := by
    obtain ⟨c, cs, hcs⟩ := List.exists_cons_of_ne_nil (Nat.toDigits_ne_nil (n := n) (b := 10))
    rw [← numeralFrom?_toDigits n, hcs]
    rfl
  rw [readNumeral, if_neg (by omega), hnumeral]

theorem readNumeral_toDigits_of_long {n : Nat}
    (hlength : digitLimit < (Nat.toDigits 10 n).length) :
    readNumeral (Nat.toDigits 10 n) = .error (.tooLong (Nat.toDigits 10 n).length) := by
  have hall : (Nat.toDigits 10 n).takeWhile isDecimal = Nat.toDigits 10 n :=
    List.takeWhile_eq_self_iff.2 fun c => isDecimal_of_mem_toDigits
  rw [readNumeral, hall, if_pos hlength]

theorem length_toDigits_pow (k : Nat) : (Nat.toDigits 10 (10 ^ k)).length = k + 1 := by
  induction k with
  | zero => rfl
  | succ k ih =>
    have hle : 10 ≤ 10 ^ (k + 1) := Nat.le_self_pow (by omega) 10
    have hdiv : 10 ^ (k + 1) / 10 = 10 ^ k := by
      rw [Nat.pow_succ, Nat.mul_div_cancel _ (by omega)]
    rw [Nat.toDigits_of_base_le (by omega) hle, hdiv, List.length_append, ih,
      List.length_singleton]

end ComponentLinks.Text
