import ComponentLinks.Proofs.Last
import ComponentLinks.Table.Manifests

/-!
# What a table of manifests remembers

A table filled by links is determined in both directions by the links alone. An identifier leads to
the manifest of the last link that names it. A manifest leads back to the last link that owns it
and, if no link does, to the first one that shares it.

## Main definitions

* `ManifestLink.Names`: the identifiers under which a link registers its manifest.
* `ManifestLink.Owns`, `ManifestLink.Shares`: whether a link is to the component's own manifest.
* `ManifestTable.manifest?_ofLinks_eq_find?`: where an identifier leads.
* `ManifestTable.manifest?_ofLinks_flatMap_iff`: where it leads if links come in groups.
* `ManifestTable.identifierOf?_ofLinks_eq_find?`: where a manifest leads back.
* `ManifestTable.ofLinks_forth_and_back`: both directions, and that each way has a way back.
-/
namespace ComponentLinks

namespace ManifestLink

/-- Whether a link registers its manifest under an identifier, in a table that also registers
hyphens as underscores or in one that does not. -/
def Names (normalizes : Bool) (id : String) (l : ManifestLink) : Prop :=
  l.identifier = id ∨ (normalizes = true ∧ unhyphenated l.identifier = id)

instance (normalizes : Bool) (id : String) (l : ManifestLink) :
    Decidable (l.Names normalizes id) :=
  inferInstanceAs (Decidable (_ ∨ _))

/-- Whether a link leads to a manifest, whatever spelling the path has. -/
def LeadsTo (manifest : Path) (l : ManifestLink) : Prop :=
  l.manifest.normalized = manifest.normalized

instance (manifest : Path) (l : ManifestLink) : Decidable (l.LeadsTo manifest) :=
  inferInstanceAs (Decidable (_ = _))

/-- Whether a link is a component's own link to a manifest, not one that it shares. -/
def Owns (manifest : Path) (l : ManifestLink) : Prop :=
  l.shared = false ∧ l.LeadsTo manifest

instance (manifest : Path) (l : ManifestLink) : Decidable (l.Owns manifest) :=
  inferInstanceAs (Decidable (_ ∧ _))

/-- Whether a link leads to a manifest that the component shares. -/
def Shares (manifest : Path) (l : ManifestLink) : Prop :=
  l.shared = true ∧ l.LeadsTo manifest

instance (manifest : Path) (l : ManifestLink) : Decidable (l.Shares manifest) :=
  inferInstanceAs (Decidable (_ ∧ _))

theorem leadsTo_iff {manifest : Path} {l : ManifestLink} :
    l.LeadsTo manifest ↔ l.Owns manifest ∨ l.Shares manifest := by
  unfold Owns Shares
  cases l.shared <;> simp

theorem names_identifier (normalizes : Bool) (l : ManifestLink) :
    l.Names normalizes l.identifier :=
  .inl rfl

@[simp] theorem names_false_iff (l : ManifestLink) (id : String) :
    l.Names false id ↔ l.identifier = id := by
  simp [Names]

end ManifestLink

namespace ManifestTable

@[simp] theorem ofLinks_nil (normalizes : Bool) : ofLinks normalizes [] = empty normalizes := rfl

theorem ofLinks_append_singleton (normalizes : Bool) (ls : List ManifestLink) (l : ManifestLink) :
    ofLinks normalizes (ls ++ [l]) = (ofLinks normalizes ls).add l := by
  simp [ofLinks]

@[simp] theorem normalizes_ofLinks (normalizes : Bool) (ls : List ManifestLink) :
    (ofLinks normalizes ls).normalizes = normalizes := by
  induction ls using List.reverseRecOn with
  | nil => rfl
  | append_singleton ls l ih => rw [ofLinks_append_singleton, normalizes_add, ih]

/-- One more link changes where the identifiers that it names lead, and nothing else. -/
theorem manifest?_add_eq_ite (t : ManifestTable) (l : ManifestLink) (id : String) :
    (t.add l).manifest? id =
      if l.Names t.normalizes id then some l.manifest else t.manifest? id :=
  manifest?_add t l id

/-- An identifier leads to the manifest of the last link that names it. -/
theorem manifest?_ofLinks_eq_find? (normalizes : Bool) (ls : List ManifestLink) (id : String) :
    (ofLinks normalizes ls).manifest? id =
      (ls.reverse.find? fun l => l.Names normalizes id).map (·.manifest) := by
  induction ls using List.reverseRecOn with
  | nil => rfl
  | append_singleton ls k ih =>
    rw [ofLinks_append_singleton, manifest?_add_eq_ite, normalizes_ofLinks, ih]
    by_cases hk : k.Names normalizes id <;> simp [hk]

theorem manifest?_ofLinks_eq_some_iff {normalizes : Bool} {ls : List ManifestLink} {id : String}
    {manifest : Path} :
    (ofLinks normalizes ls).manifest? id = some manifest ↔
      ∃ l, IsLast (·.Names normalizes id) ls l ∧ l.manifest = manifest := by
  rw [manifest?_ofLinks_eq_find?, Option.map_eq_some_iff]
  simp only [isLast_iff_find?_reverse]

theorem manifest?_ofLinks_eq_none_iff {normalizes : Bool} {ls : List ManifestLink} {id : String} :
    (ofLinks normalizes ls).manifest? id = none ↔ ∀ l ∈ ls, ¬ l.Names normalizes id := by
  simp [manifest?_ofLinks_eq_find?]

/-- Where links come in groups of which each leads to one manifest, an identifier leads to the
manifest of the last group that names it. -/
theorem manifest?_ofLinks_flatMap_iff {β : Type} {f : β → List ManifestLink} {bs : List β}
    (hone : ∀ b ∈ bs, ∀ l ∈ f b, ∀ k ∈ f b, l.manifest = k.manifest) {normalizes : Bool}
    {id : String} {manifest : Path} :
    (ofLinks normalizes (bs.flatMap f)).manifest? id = some manifest ↔
      ∃ b, IsLast (fun b => ∃ l ∈ f b, l.Names normalizes id) bs b ∧
        ∃ l ∈ f b, l.manifest = manifest := by
  rw [manifest?_ofLinks_eq_some_iff]
  constructor
  · rintro ⟨l, hl, rfl⟩
    obtain ⟨b, hb, hmem⟩ := hl.exists_of_flatMap
    exact ⟨b, hb, l, hmem, rfl⟩
  · rintro ⟨b, hb, l, hl, rfl⟩
    obtain ⟨k, hk, hnames⟩ := hb.holds
    obtain ⟨last, hlast⟩ := exists_isLast_iff.2 ⟨k, List.mem_flatMap.2 ⟨b, hb.mem, hk⟩, hnames⟩
    obtain ⟨c, hc, hmem⟩ := hlast.exists_of_flatMap
    obtain rfl := hb.unique hc
    exact ⟨last, hlast, hone b hb.mem last hmem l hl⟩

/-- A manifest leads back to the last link that owns it or, if there is none, to the first link
that shares it. -/
theorem identifierOf?_ofLinks_eq_find? (normalizes : Bool) (ls : List ManifestLink)
    (manifest : Path) :
    (ofLinks normalizes ls).identifierOf? manifest =
      ((ls.reverse.find? fun l => l.Owns manifest).or
        (ls.find? fun l => l.Shares manifest)).map (·.identifier) := by
  induction ls using List.reverseRecOn with
  | nil => rfl
  | append_singleton ls k ih =>
    rw [ofLinks_append_singleton, identifierOf?_add, ih, List.reverse_append,
      List.reverse_singleton, List.singleton_append, List.find?_cons, List.find?_append,
      List.find?_singleton]
    by_cases hto : k.LeadsTo manifest
    · rcases ManifestLink.leadsTo_iff.1 hto with howns | hshares
      · rw [if_pos ⟨hto, .inl howns.1⟩]
        simp [howns]
      · -- The link is taken exactly if no link before it leads to the manifest.
        have howns : ¬ k.Owns manifest :=
          fun howns => Bool.false_ne_true (howns.1.symm.trans hshares.1)
        cases ls.reverse.find? fun l => l.Owns manifest <;>
          cases ls.find? fun l => l.Shares manifest <;>
          simp [howns, hshares, hshares.1, show k.manifest.normalized = _ from hto]
    · have howns : ¬ k.Owns manifest := fun howns => hto howns.2
      have hshares : ¬ k.Shares manifest := fun hshares => hto hshares.2
      rw [if_neg fun h => hto h.1]
      simp [howns, hshares]

theorem identifierOf?_ofLinks_eq_none_iff {normalizes : Bool} {ls : List ManifestLink}
    {manifest : Path} :
    (ofLinks normalizes ls).identifierOf? manifest = none ↔ ∀ l ∈ ls, ¬ l.LeadsTo manifest := by
  simp [identifierOf?_ofLinks_eq_find?, ManifestLink.leadsTo_iff, forall_and]

/-- An owned manifest leads back to the last link that owns it. -/
theorem identifierOf?_ofLinks_of_isLast {normalizes : Bool} {ls : List ManifestLink}
    {manifest : Path} {l : ManifestLink} (h : IsLast (·.Owns manifest) ls l) :
    (ofLinks normalizes ls).identifierOf? manifest = some l.identifier := by
  rw [identifierOf?_ofLinks_eq_find?, isLast_iff_find?_reverse.1 h]
  rfl

/-! ## Ways forth and back -/

variable {normalizes : Bool} {ls : List ManifestLink} {id : String} {manifest : Path}

theorem exists_identifierOf?_of_manifest?
    (h : (ofLinks normalizes ls).manifest? id = some manifest) :
    ∃ back, (ofLinks normalizes ls).identifierOf? manifest = some back := by
  obtain ⟨l, hl, rfl⟩ := manifest?_ofLinks_eq_some_iff.1 h
  rw [← Option.ne_none_iff_exists', ne_eq, identifierOf?_ofLinks_eq_none_iff]
  intro hnone
  exact hnone l hl.mem rfl

theorem exists_leadsTo_of_identifierOf?
    (h : (ofLinks normalizes ls).identifierOf? manifest = some id) :
    ∃ l ∈ ls, l.LeadsTo manifest ∧ l.identifier = id := by
  rw [identifierOf?_ofLinks_eq_find?, Option.map_eq_some_iff] at h
  obtain ⟨l, hl, rfl⟩ := h
  rcases Option.or_eq_some_iff.1 hl with howner | ⟨-, hsharer⟩
  · have howns : l.Owns manifest := by simpa using List.find?_some howner
    exact ⟨l, by simpa using List.mem_of_find?_eq_some howner, howns.2, rfl⟩
  · have hshares : l.Shares manifest := by simpa using List.find?_some hsharer
    exact ⟨l, List.mem_of_find?_eq_some hsharer, hshares.2, rfl⟩

theorem exists_manifest?_of_mem {l : ManifestLink} (h : l ∈ ls) :
    ∃ found, (ofLinks normalizes ls).manifest? l.identifier = some found := by
  rw [← Option.ne_none_iff_exists', ne_eq, manifest?_ofLinks_eq_none_iff]
  intro hnone
  exact hnone l h (l.names_identifier normalizes)

/-- An identifier leads to the manifest of the last link that names it. A manifest leads back to the
last link that owns it or, if there is none, to the first one that shares it. So each manifest that
an identifier leads to leads back to an identifier, and each identifier that a manifest leads back
to leads to a manifest. -/
theorem ofLinks_forth_and_back (normalizes : Bool) (ls : List ManifestLink) :
    (∀ id, (ofLinks normalizes ls).manifest? id =
      (ls.reverse.find? fun l => l.Names normalizes id).map (·.manifest)) ∧
    (∀ manifest, (ofLinks normalizes ls).identifierOf? manifest =
      ((ls.reverse.find? fun l => l.Owns manifest).or
        (ls.find? fun l => l.Shares manifest)).map (·.identifier)) ∧
    (∀ id manifest, (ofLinks normalizes ls).manifest? id = some manifest →
      ∃ back, (ofLinks normalizes ls).identifierOf? manifest = some back) ∧
    ∀ manifest id, (ofLinks normalizes ls).identifierOf? manifest = some id →
      ∃ found, (ofLinks normalizes ls).manifest? id = some found := by
  refine ⟨manifest?_ofLinks_eq_find? normalizes ls, identifierOf?_ofLinks_eq_find? normalizes ls,
    ?_, ?_⟩
  · intro id manifest h
    exact exists_identifierOf?_of_manifest? h
  · intro manifest id h
    obtain ⟨l, hl, -, rfl⟩ := exists_leadsTo_of_identifierOf? h
    exact exists_manifest?_of_mem hl

end ManifestTable

end ComponentLinks
