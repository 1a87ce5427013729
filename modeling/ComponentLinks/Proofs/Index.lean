import ComponentLinks.Proofs.Spelling
import ComponentLinks.Proofs.Table.Manifests

/-!
# Answers of an index

What an index answers is determined by the links and the recordings that were added to its tables. A
component leads to the last link among those that answer for its identifier, and a manifest leads to
the recordings that answer for the identifier that it leads back to.

## Main definitions

* `LinkIndex.resolve_ofLinks`: the manifest of a component.
* `LinkIndex.resolve_ofLinks_true`: the same where hyphens are read as underscores.
* `LinkIndex.answering`: the recordings that answer for an identifier.
* `LinkIndex.referencesTo_ofLinks_ofList`: the references to the component of a manifest.
-/
namespace ComponentLinks.LinkIndex

/-! ## Manifests of components -/

/-- A component leads to the manifest of the last link that answers for its identifier. -/
theorem resolve_ofLinks (base : Path) (normalizes : Bool) (ls : List ManifestLink)
    (references : ReferenceTable) (q : String) :
    resolve ⟨base, .ofLinks normalizes ls, references, normalizes⟩ q =
      (ls.reverse.find? fun l =>
        Answers normalizes (ls.map (·.identifier)) q l.identifier).map (·.manifest) := by
  have hnone : ∀ j, (ManifestTable.ofLinks normalizes ls).manifest? j = none ↔
      ∀ id ∈ ls.map (·.identifier), ¬ ReferenceTable.Counts normalizes j id := by
    intro j
    rw [ManifestTable.manifest?_ofLinks_eq_none_iff, List.forall_mem_map]
    rfl
  obtain ⟨j, hj, hcounts⟩ := exists_eitherSpelling_eq hnone q
  have hnames : ∀ l : ManifestLink, l.Names normalizes j ↔
      Answers normalizes (ls.map (·.identifier)) q l.identifier :=
    fun l => hcounts l.identifier
  rw [resolve, hj, ManifestTable.manifest?_ofLinks_eq_find?]
  simp only [hnames]

/-- Where hyphens are read as underscores, a component leads to a manifest exactly if a link is to a
component that is the same up to hyphens. The manifest is that of such a link: of the last one to
the very component if its identifier has a hyphen and there is such a link, and otherwise of the
last one to any of them. -/
theorem resolve_ofLinks_true (base : Path) (ls : List ManifestLink) (references : ReferenceTable)
    (q : String) :
    let x : LinkIndex := ⟨base, .ofLinks true ls, references, true⟩
    (x.resolve q ≠ none ↔ ∃ l ∈ ls, unhyphenated l.identifier = unhyphenated q) ∧
    (∀ manifest, x.resolve q = some manifest →
      ∃ l ∈ ls, unhyphenated l.identifier = unhyphenated q ∧ l.manifest = manifest) ∧
    x.resolve q =
      if '-' ∈ q.toList ∧ ∃ l ∈ ls, l.identifier = q then
        (ls.reverse.find? fun l => l.identifier = q).map (·.manifest)
      else
        (ls.reverse.find? fun l => unhyphenated l.identifier = unhyphenated q).map
          (·.manifest) := by
  intro x
  -- All three parts follow from which links answer for the component.
  have hfound : x.resolve q = (ls.reverse.find? fun l =>
      Answers true (ls.map (·.identifier)) q l.identifier).map (·.manifest) :=
    resolve_ofLinks base true ls references q
  refine ⟨?_, ?_, ?_⟩
  · have hexists : (∃ l ∈ ls, Answers true (ls.map (·.identifier)) q l.identifier) ↔
        ∃ l ∈ ls, Agrees true q l.identifier := by
      simpa using exists_answers_iff true (ls.map (·.identifier)) q
    simp only [agrees_true_iff] at hexists
    rw [← hexists, hfound]
    simp
  · intro manifest h
    rw [hfound, Option.map_eq_some_iff] at h
    obtain ⟨l, hl, rfl⟩ := h
    have hanswers : Answers true (ls.map (·.identifier)) q l.identifier := by
      simpa using List.find?_some hl
    exact ⟨l, by simpa using List.mem_of_find?_eq_some hl, agrees_true_iff.1 hanswers.agrees, rfl⟩
  · rw [hfound]
    by_cases hq : '-' ∈ q.toList ∧ ∃ l ∈ ls, l.identifier = q
    · have hmem : '-' ∈ q.toList ∧ q ∈ ls.map (·.identifier) := by simpa using hq
      rw [if_pos hq]
      simp only [answers_iff_of_mem hmem.1 hmem.2]
    · have hmem : ¬ ('-' ∈ q.toList ∧ q ∈ ls.map (·.identifier)) := by simpa using hq
      rw [if_neg hq]
      simp only [answers_iff_of_not hmem, agrees_true_iff]

/-! ## References to manifests -/

/-- The recordings that answer for an identifier, in the order of recording. -/
def answering (normalizes : Bool) (xs : List (String × Reference)) (q : String) :
    List (String × Reference) :=
  xs.filter fun y => Answers normalizes (xs.map Prod.fst) q y.1

section Answering

variable {normalizes : Bool} {xs : List (String × Reference)} {q : String}

theorem agrees_of_mem_answering {y : String × Reference} (hy : y ∈ answering normalizes xs q) :
    Agrees normalizes q y.1 := by
  have hanswers := (List.mem_filter.1 hy).2
  exact (of_decide_eq_true hanswers).agrees

theorem answering_eq_nil_iff :
    answering normalizes xs q = [] ↔ ∀ y ∈ xs, ¬ Agrees normalizes q y.1 := by
  have hexists := exists_answers_iff normalizes (xs.map Prod.fst) q
  simpa [answering] using not_congr hexists

/-- All that was recorded under the very identifier answers for it. -/
theorem filter_answering :
    (answering normalizes xs q).filter (fun y => y.1 = q) = xs.filter fun y => y.1 = q := by
  rw [answering, List.filter_filter]
  refine List.filter_congr fun y _ => ?_
  by_cases heq : y.1 = q
  · simp [heq, answers_self]
  · simp [heq]

/-- The references that are found under either spelling of an identifier are those of the recordings
that answer for it. -/
theorem eitherSpelling_references?_ofList :
    eitherSpelling normalizes (ReferenceTable.ofList normalizes xs).references? q =
      if answering normalizes xs q = [] then none
      else some ((answering normalizes xs q).map Prod.snd) := by
  have hnone : ∀ j, (ReferenceTable.ofList normalizes xs).references? j = none ↔
      ∀ id ∈ xs.map Prod.fst, ¬ ReferenceTable.Counts normalizes j id := by
    intro j
    rw [ReferenceTable.references?_ofList_eq_none_iff, List.forall_mem_map]
  obtain ⟨j, hj, hcounts⟩ := exists_eitherSpelling_eq hnone q
  have hrecorded : ReferenceTable.recordedFor normalizes xs j =
      (answering normalizes xs q).map Prod.snd := by
    simp only [ReferenceTable.recordedFor, answering, hcounts]
  rw [hj, ReferenceTable.references?_ofList, hrecorded]
  by_cases hnil : answering normalizes xs q = [] <;> simp [hnil]

end Answering

/-- A manifest that leads back to no identifier has no references. Any other has references exactly
if something was recorded under an identifier that agrees with the one it leads back to. They are
those of the recordings that answer for this identifier, in the order of recording. All of these are
recordings under identifiers that agree with it, and all recordings under it are among them. -/
theorem referencesTo_ofLinks_ofList (base : Path) (normalizes : Bool) (ls : List ManifestLink)
    (xs : List (String × Reference)) (manifest : Path) :
    let x : LinkIndex := ⟨base, .ofLinks normalizes ls, .ofList normalizes xs, normalizes⟩
    (x.identifierOf? manifest = none → x.referencesTo manifest = none) ∧
    ∀ id, x.identifierOf? manifest = some id →
      (x.referencesTo manifest = none ↔ ∀ y ∈ xs, ¬ Agrees normalizes id y.1) ∧
      (∀ places, x.referencesTo manifest = some places →
        places = (answering normalizes xs id).map Prod.snd) ∧
      (∀ y ∈ answering normalizes xs id, Agrees normalizes id y.1) ∧
      (answering normalizes xs id).filter (fun y => y.1 = id) = xs.filter fun y => y.1 = id := by
  intro x
  refine ⟨?_, ?_⟩
  · intro hid
    rw [referencesTo, hid]
    rfl
  · intro id hid
    have hfound : x.referencesTo manifest =
        if answering normalizes xs id = [] then none
        else some ((answering normalizes xs id).map Prod.snd) := by
      rw [referencesTo, hid]
      exact eitherSpelling_references?_ofList
    refine ⟨?_, ?_, fun y => agrees_of_mem_answering, filter_answering⟩
    · rw [hfound, ← answering_eq_nil_iff]
      simp
    · intro places h
      rw [hfound] at h
      split at h
      · simp at h
      · exact (Option.some.inj h).symm

/-- What was recorded under the other spelling is left out if there is anything under the very
identifier. -/
example :
    let manifest : Path := .ofString "/m.cml"
    let place (line : Int) : Reference := ⟨.ofString "/a.cc", line, 0, 37⟩
    let x : LinkIndex := ⟨.ofString "/", .ofLinks true [⟨"a-b", "c", manifest, false⟩],
      .ofList true [("a_b/c", place 1), ("a-b/c", place 2), ("a_b/c", place 3)], true⟩
    x.referencesTo manifest = some [place 2] := by
  decide +kernel

end ComponentLinks.LinkIndex
