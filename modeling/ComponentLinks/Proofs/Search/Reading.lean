import ComponentLinks.Proofs.Text.Boundaries
import ComponentLinks.Search.Output

/-!
# Reading an output line by line

Every line of an output is read by itself. A line is a hit if it has a decimal number between its
first two colons, and any other line says nothing, unless what stands between the colons looks like
a number but is not read as one: then the whole output is refused.

## Main definitions

* `Search.Hit.FallsInto`: the parts of a line between its first two colons.
* `Search.Hit.IsNumbered`, `Search.Hit.Refuses`: the lines that can be hits, and the faults.
* `Search.readingOf`: what is read in a line.
* `Search.readLines_eq_ok`, `Search.readLines_eq_error`: what is read in an output.
-/
namespace ComponentLinks

namespace Text

theorem isSome_numeralFrom?_iff {n : Nat} {cs : List Char} :
    (numeralFrom? n cs).isSome = true ↔ ∀ c ∈ cs, isDecimal c = true := by
  induction cs generalizing n with
  | nil => simp [numeralFrom?]
  | cons c cs ih =>
    rw [numeralFrom?, List.forall_mem_cons]
    cases hc : digitValue? c with
    | none => simp [isDecimal, hc]
    | some d => simpa [isDecimal, hc] using ih

/-- A text that is not empty writes a number if all its characters are decimal digits. -/
theorem isSome_numeral?_iff {cs : List Char} (hne : cs ≠ []) :
    (numeral? cs).isSome = true ↔ ∀ c ∈ cs, isDecimal c = true := by
  obtain ⟨c, cs, rfl⟩ := List.exists_cons_of_ne_nil hne
  exact isSome_numeralFrom?_iff

theorem readNumeral_eq_ok_iff {cs : List Char} {n : Nat} :
    readNumeral cs = .ok n ↔
      (cs.takeWhile isDecimal).length ≤ digitLimit ∧ numeral? cs = some n := by
  rw [readNumeral]
  by_cases hlong : digitLimit < (cs.takeWhile isDecimal).length
  · simp [hlong, Nat.not_le_of_lt hlong]
  · cases numeral? cs <;> simp [hlong, Nat.le_of_not_lt hlong]

theorem readNumeral_eq_error_iff {cs : List Char} {e : NumeralFault} :
    readNumeral cs = .error e ↔
      if digitLimit < (cs.takeWhile isDecimal).length then
        e = .tooLong (cs.takeWhile isDecimal).length
      else numeral? cs = none ∧ e = .noNumeral 10 cs := by
  rw [readNumeral]
  by_cases hlong : digitLimit < (cs.takeWhile isDecimal).length
  · simp [hlong, eq_comm]
  · cases numeral? cs <;> simp [hlong, eq_comm]

end Text

namespace Search

namespace Hit

/-! ## One line -/

/-- Whether a line has the text `digits` between its first two colons. -/
def FallsInto (line path digits text : List Char) : Prop :=
  line = path ++ ':' :: (digits ++ ':' :: text) ∧ ':' ∉ path ∧ ':' ∉ digits

/-- Whether a line has a decimal number between its first two colons. -/
def IsNumbered (line : List Char) : Prop :=
  ∃ path digits text, FallsInto line path digits text ∧ digits ≠ [] ∧
    ∀ c ∈ digits, Text.isDecimal c = true

/-- Whether a line is refused: between its first two colons stand digits only, but too many decimal
ones to begin with, or one that has no place value. -/
def Refuses (line : List Char) (e : Text.NumeralFault) : Prop :=
  ∃ path digits text, FallsInto line path digits text ∧ digits ≠ [] ∧
    (∀ c ∈ digits, Text.isDigit c = true) ∧
    if Text.digitLimit < (digits.takeWhile Text.isDecimal).length then
      e = .tooLong (digits.takeWhile Text.isDecimal).length
    else (∃ c ∈ digits, Text.isDecimal c = false) ∧ e = .noNumeral 10 digits

variable {line path digits text : List Char}

theorem isNumbered_iff : IsNumbered line ↔
    ∃ first ∈ cutAtColon line, ∃ second ∈ cutAtColon first.2,
      second.1 ≠ [] ∧ ∀ c ∈ second.1, Text.isDecimal c = true := by
  constructor
  · rintro ⟨path, digits, text, ⟨hline, hpath, hdigits⟩, hdecimal⟩
    exact ⟨(path, digits ++ ':' :: text), cutAtColon_eq_some_iff.2 ⟨hline, hpath⟩,
      (digits, text), cutAtColon_eq_some_iff.2 ⟨rfl, hdigits⟩, hdecimal⟩
  · rintro ⟨⟨path, rest⟩, hfirst, ⟨digits, text⟩, hsecond, hdecimal⟩
    obtain ⟨hline, hpath⟩ := cutAtColon_eq_some_iff.1 hfirst
    obtain ⟨rfl, hdigits⟩ := cutAtColon_eq_some_iff.1 hsecond
    exact ⟨path, digits, text, ⟨hline, hpath, hdigits⟩, hdecimal⟩

instance (line : List Char) : Decidable (IsNumbered line) :=
  decidable_of_iff _ isNumbered_iff.symm

theorem ofLine?_of_fallsInto (h : FallsInto line path digits text) :
    ofLine? line = if digits ≠ [] ∧ ∀ c ∈ digits, Text.isDigit c = true then
      (Text.readNumeral digits).map fun n : Nat => some ⟨path, (n : Int) - 1, text⟩
    else .ok none := by
  obtain ⟨hline, hpath, hdigits⟩ := h
  have hfirst : cutAtColon line = some (path, digits ++ ':' :: text) :=
    cutAtColon_eq_some_iff.2 ⟨hline, hpath⟩
  have hsecond : cutAtColon (digits ++ ':' :: text) = some (digits, text) :=
    cutAtColon_eq_some_iff.2 ⟨rfl, hdigits⟩
  simp only [ofLine?, hfirst, hsecond]
  by_cases hall : digits ≠ [] ∧ ∀ c ∈ digits, Text.isDigit c = true
  · rw [if_pos hall, if_neg (by simpa using hall)]
    cases Text.readNumeral digits <;> rfl
  · rw [if_neg hall, if_pos (by simpa [Classical.or_iff_not_imp_left] using hall)]

theorem ofLine?_of_not_fallsInto (h : ∀ path digits text, ¬ FallsInto line path digits text) :
    ofLine? line = .ok none := by
  cases hfirst : cutAtColon line with
  | none => simp [ofLine?, hfirst]
  | some cut =>
    obtain ⟨path, rest⟩ := cut
    cases hsecond : cutAtColon rest with
    | none => simp [ofLine?, hfirst, hsecond]
    | some cut =>
      obtain ⟨digits, text⟩ := cut
      obtain ⟨rfl, hpath⟩ := cutAtColon_eq_some_iff.1 hfirst
      obtain ⟨rfl, hdigits⟩ := cutAtColon_eq_some_iff.1 hsecond
      exact absurd ⟨rfl, hpath, hdigits⟩ (h path digits text)

/-- A line without a colon is no hit. -/
theorem ofLine?_of_not_mem (h : ':' ∉ line) : ofLine? line = .ok none := by
  refine ofLine?_of_not_fallsInto ?_
  rintro path digits text ⟨rfl, -⟩
  simp at h

theorem ofLine?_eq_error_iff {e : Text.NumeralFault} :
    ofLine? line = .error e ↔ Refuses line e := by
  constructor
  · intro h
    by_cases hinto : ∃ path digits text, FallsInto line path digits text
    · obtain ⟨path, digits, text, hinto⟩ := hinto
      rw [ofLine?_of_fallsInto hinto] at h
      split at h
      · rename_i hall
        refine ⟨path, digits, text, hinto, hall.1, hall.2, ?_⟩
        have hread : Text.readNumeral digits = .error e := by
          cases hread : Text.readNumeral digits <;> simp_all [Except.map]
        -- Too many decimal digits are refused before any other digit is.
        have hfault := Text.readNumeral_eq_error_iff.1 hread
        split at hfault
        · rwa [if_pos ‹_›]
        · rw [if_neg ‹_›]
          refine ⟨?_, hfault.2⟩
          by_contra hnone
          have hsome := (Text.isSome_numeral?_iff hall.1).2 (by simpa using hnone)
          simp [hfault.1] at hsome
      · simp at h
    · rw [ofLine?_of_not_fallsInto (by simpa using hinto)] at h
      simp at h
  · rintro ⟨path, digits, text, hinto, hne, hall, hfault⟩
    have hread : Text.readNumeral digits = .error e := by
      rw [Text.readNumeral_eq_error_iff]
      split
      · rwa [if_pos ‹_›] at hfault
      · rw [if_neg ‹_›] at hfault
        obtain ⟨⟨c, hc, hdecimal⟩, rfl⟩ := hfault
        refine ⟨?_, rfl⟩
        by_contra hsome
        have := (Text.isSome_numeral?_iff hne).1 (Option.isSome_iff_ne_none.2 hsome) c hc
        simp [hdecimal] at this
    rw [ofLine?_of_fallsInto hinto, if_pos ⟨hne, hall⟩, hread]
    rfl

/-- Only a line with a decimal number between its first two colons is a hit. -/
theorem isNumbered_of_ofLine? {h : Hit} (hline : ofLine? line = .ok (some h)) :
    IsNumbered line := by
  by_cases hinto : ∃ path digits text, FallsInto line path digits text
  · obtain ⟨path, digits, text, hinto⟩ := hinto
    rw [ofLine?_of_fallsInto hinto] at hline
    split at hline
    · rename_i hall
      refine ⟨path, digits, text, hinto, hall.1, ?_⟩
      cases hread : Text.readNumeral digits with
      | error e => simp [hread, Except.map] at hline
      | ok n =>
        refine (Text.isSome_numeral?_iff hall.1).1 ?_
        simp [(Text.readNumeral_eq_ok_iff.1 hread).2]
    · simp at hline
  · rw [ofLine?_of_not_fallsInto (by simpa using hinto)] at hline
    simp at hline

end Hit

/-! ## All lines -/

/-- What is read in a line, unless the line is refused. -/
def readingOf (line : List Char) : Reading := ⟨line, (Hit.ofLine? line).toOption.join⟩

theorem hit_readingOf {line : List Char} {hit : Option Hit} (h : Hit.ofLine? line = .ok hit) :
    (readingOf line).hit = hit := by
  simp [readingOf, h, Except.toOption]

theorem urls_readingOf_of_not_isNumbered {line : List Char} (h : ¬ Hit.IsNumbered line) :
    (readingOf line).urls = [] := by
  cases hline : Hit.ofLine? line with
  | error e => simp [Reading.urls, readingOf, hline, Except.toOption]
  | ok hit =>
    cases hit with
    | none => simp [Reading.urls, hit_readingOf hline]
    | some hit => exact absurd (Hit.isNumbered_of_ofLine? hline) h

theorem mapM_ofLine?_eq_ok {lines : List (List Char)}
    (h : ∀ line ∈ lines, ∃ hit, Hit.ofLine? line = .ok hit) :
    lines.mapM (fun line => (Hit.ofLine? line).map fun hit => (⟨line, hit⟩ : Reading)) =
      .ok (lines.map readingOf) := by
  induction lines with
  | nil => rfl
  | cons line lines ih =>
    obtain ⟨hit, hhit⟩ := h line (by simp)
    have hreading : readingOf line = ⟨line, hit⟩ := by simp [readingOf, hhit, Except.toOption]
    rw [List.mapM_cons, hhit, ih fun l hl => h l (by simp [hl]), List.map_cons, hreading]
    rfl

/-- Reading stops at the first line that is refused. -/
theorem mapM_ofLine?_eq_error {before after : List (List Char)} {line : List Char}
    {e : Text.NumeralFault} (hbefore : ∀ l ∈ before, ∃ hit, Hit.ofLine? l = .ok hit)
    (hline : Hit.ofLine? line = .error e) :
    (before ++ line :: after).mapM
      (fun line => (Hit.ofLine? line).map fun hit => (⟨line, hit⟩ : Reading)) = .error e := by
  induction before with
  | nil =>
    rw [List.nil_append, List.mapM_cons, hline]
    rfl
  | cons first before ih =>
    obtain ⟨hit, hhit⟩ := hbefore first (by simp)
    rw [List.cons_append, List.mapM_cons, hhit, ih fun l hl => hbefore l (by simp [hl])]
    rfl

variable {output : List Char}

theorem readLines_eq_ok (h : ∀ line ∈ Text.filledLines output, ∀ e, ¬ Hit.Refuses line e) :
    readLines output = .ok ((Text.filledLines output).map readingOf) := by
  refine mapM_ofLine?_eq_ok fun line hline => ?_
  cases hread : Hit.ofLine? line with
  | ok hit => exact ⟨hit, rfl⟩
  | error e => exact absurd (Hit.ofLine?_eq_error_iff.1 hread) (h line hline e)

theorem readLines_eq_error {before after : List (List Char)} {line : List Char}
    {e : Text.NumeralFault} (hlines : Text.filledLines output = before ++ line :: after)
    (hbefore : ∀ l ∈ before, ∀ e', ¬ Hit.Refuses l e') (hline : Hit.Refuses line e) :
    readLines output = .error e := by
  have hread : ∀ l ∈ before, ∃ hit, Hit.ofLine? l = .ok hit := by
    intro l hl
    cases hread : Hit.ofLine? l with
    | ok hit => exact ⟨hit, rfl⟩
    | error e' => exact absurd (Hit.ofLine?_eq_error_iff.1 hread) (hbefore l hl e')
  rw [readLines, show (Text.boundaryLines output).filter (!·.isEmpty) = _ from hlines]
  exact mapM_ofLine?_eq_error hread (Hit.ofLine?_eq_error_iff.2 hline)

/-- An output is read, or refused with the fault of the first line that is refused. -/
theorem readLines_eq_ok_or_error (output : List Char) :
    (∀ line ∈ Text.filledLines output, ∀ e, ¬ Hit.Refuses line e) ∨
      ∃ before line after e, Text.filledLines output = before ++ line :: after ∧
        (∀ l ∈ before, ∀ e', ¬ Hit.Refuses l e') ∧ Hit.Refuses line e := by
  classical
  cases hfirst : (Text.filledLines output).find? fun line => ∃ e, Hit.Refuses line e with
  | none => exact .inl (by simpa using List.find?_eq_none.1 hfirst)
  | some line =>
    obtain ⟨hline, before, after, hlines, hbefore⟩ := List.find?_eq_some_iff_append.1 hfirst
    obtain ⟨e, he⟩ : ∃ e, Hit.Refuses line e := by simpa using hline
    exact .inr ⟨before, line, after, e, hlines, by simpa using hbefore, he⟩

end Search

end ComponentLinks
