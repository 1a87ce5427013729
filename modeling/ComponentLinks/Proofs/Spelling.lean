import ComponentLinks.Index
import ComponentLinks.Proofs.Table.References

/-!
# Spellings of identifiers

Identifiers that differ only in hyphens and underscores agree where hyphens are read as underscores.
An index that reads them so looks an identifier up as it is and then with underscores. Which entries
of a table answer then can be said without the second look-up: those under the identifier itself if
it has a hyphen and stands in the table, and otherwise those under all identifiers that agree.

## Main definitions

* `Agrees`: identifiers that are the same, up to hyphens where these are read as underscores.
* `Answers`: the identifiers of a table that answer for an identifier.
* `LinkIndex.exists_eitherSpelling_eq`: looking up either spelling gives what answers.
-/
namespace ComponentLinks

variable {normalizes : Bool} {ids : List String} {q id : String}

/-- Whether identifiers agree: they are the same, or the same once hyphens are read as
underscores. -/
def Agrees (normalizes : Bool) (q id : String) : Prop :=
  id = q ∨ (normalizes = true ∧ unhyphenated id = unhyphenated q)

instance (normalizes : Bool) (q id : String) : Decidable (Agrees normalizes q id) :=
  inferInstanceAs (Decidable (_ ∨ _))

@[simp] theorem agrees_false_iff : Agrees false q id ↔ id = q := by
  simp [Agrees]

theorem agrees_true_iff : Agrees true q id ↔ unhyphenated id = unhyphenated q := by
  constructor
  · rintro (rfl | ⟨-, h⟩)
    · rfl
    · exact h
  · exact fun h => .inr ⟨rfl, h⟩

namespace ReferenceTable

/-- Under an identifier with a hyphen stands only what was recorded under it. -/
theorem counts_iff_of_mem (h : '-' ∈ q.toList) : Counts normalizes q id ↔ id = q := by
  constructor
  · rintro (heq | ⟨-, rfl⟩)
    · exact heq
    · exact absurd h (hyphen_not_mem_unhyphenated id)
  · exact .inl

/-- Under an identifier with underscores stands what was recorded for any that agrees with it. -/
theorem counts_unhyphenated_iff : Counts true (unhyphenated q) id ↔ Agrees true q id := by
  rw [agrees_true_iff]
  constructor
  · rintro (rfl | ⟨-, h⟩)
    · exact unhyphenated_idem q
    · exact h
  · exact fun h => .inr ⟨rfl, h⟩

end ReferenceTable

/-- Whether an identifier answers for `q` in a table of the identifiers `ids`. -/
def Answers (normalizes : Bool) (ids : List String) (q id : String) : Prop :=
  if '-' ∈ q.toList ∧ q ∈ ids then id = q else Agrees normalizes q id

instance (normalizes : Bool) (ids : List String) (q id : String) :
    Decidable (Answers normalizes ids q id) :=
  inferInstanceAs (Decidable (ite _ _ _))

theorem answers_iff_of_mem (hyphen : '-' ∈ q.toList) (hq : q ∈ ids) :
    Answers normalizes ids q id ↔ id = q := by
  rw [Answers, if_pos ⟨hyphen, hq⟩]

theorem answers_iff_of_not (h : ¬ ('-' ∈ q.toList ∧ q ∈ ids)) :
    Answers normalizes ids q id ↔ Agrees normalizes q id := by
  rw [Answers, if_neg h]

theorem Answers.agrees (h : Answers normalizes ids q id) : Agrees normalizes q id := by
  by_cases hq : '-' ∈ q.toList ∧ q ∈ ids
  · exact .inl ((answers_iff_of_mem hq.1 hq.2).1 h)
  · exact (answers_iff_of_not hq).1 h

theorem answers_self (normalizes : Bool) (ids : List String) (q : String) :
    Answers normalizes ids q q := by
  by_cases hq : '-' ∈ q.toList ∧ q ∈ ids
  · exact (answers_iff_of_mem hq.1 hq.2).2 rfl
  · exact (answers_iff_of_not hq).2 (.inl rfl)

theorem exists_answers_iff (normalizes : Bool) (ids : List String) (q : String) :
    (∃ id ∈ ids, Answers normalizes ids q id) ↔ ∃ id ∈ ids, Agrees normalizes q id := by
  constructor
  · rintro ⟨id, hid, h⟩
    exact ⟨id, hid, h.agrees⟩
  · rintro ⟨id, hid, h⟩
    by_cases hq : '-' ∈ q.toList ∧ q ∈ ids
    · exact ⟨q, hq.2, answers_self normalizes ids q⟩
    · exact ⟨id, hid, (answers_iff_of_not hq).2 h⟩

/-! ## Looking up either spelling -/

namespace LinkIndex

variable {α : Type} {lookUp : String → Option α}

/-- An identifier that is known as it is written is not looked up in another spelling. -/
theorem eitherSpelling_of_eq_some {a : α} (h : lookUp q = some a) :
    eitherSpelling normalizes lookUp q = some a := by
  simp [eitherSpelling, h]

theorem eitherSpelling_of_eq_none (h : lookUp q = none) :
    eitherSpelling true lookUp q = lookUp (unhyphenated q) := by
  simp [eitherSpelling, h]

theorem eitherSpelling_false : eitherSpelling false lookUp q = lookUp q := by
  unfold eitherSpelling
  cases lookUp q <;> rfl

/-- Looking up either spelling is looking up one spelling under which exactly the identifiers that
answer count. -/
theorem exists_eitherSpelling_eq
    (hlookUp : ∀ j, lookUp j = none ↔ ∀ id ∈ ids, ¬ ReferenceTable.Counts normalizes j id)
    (q : String) :
    ∃ j, eitherSpelling normalizes lookUp q = lookUp j ∧
      ∀ id, ReferenceTable.Counts normalizes j id ↔ Answers normalizes ids q id := by
  cases normalizes with
  | false => exact ⟨q, eitherSpelling_false, fun id => by simp [ReferenceTable.Counts, Answers]⟩
  | true =>
    by_cases hq : '-' ∈ q.toList ∧ q ∈ ids
    · obtain ⟨a, ha⟩ : ∃ a, lookUp q = some a := by
        rw [← Option.ne_none_iff_exists', ne_eq, hlookUp]
        intro hnone
        exact hnone q hq.2 (.inl rfl)
      refine ⟨q, by rw [eitherSpelling_of_eq_some ha, ha], fun id => ?_⟩
      rw [ReferenceTable.counts_iff_of_mem hq.1, answers_iff_of_mem hq.1 hq.2]
    · refine ⟨unhyphenated q, ?_, fun id => ?_⟩
      · cases hfound : lookUp q with
        | none => exact eitherSpelling_of_eq_none hfound
        | some a =>
          -- Only an identifier without a hyphen is found, so the second look-up is the first one.
          have hyphen : '-' ∉ q.toList := by
            intro hyphen
            have hsome : lookUp q ≠ none := by simp [hfound]
            refine hsome ((hlookUp q).2 fun id hid hcounts => hq ⟨hyphen, ?_⟩)
            exact (ReferenceTable.counts_iff_of_mem hyphen).1 hcounts ▸ hid
          rw [eitherSpelling_of_eq_some hfound, unhyphenated_of_not_mem hyphen, hfound]
      · rw [ReferenceTable.counts_unhyphenated_iff, answers_iff_of_not hq]

end LinkIndex

end ComponentLinks
