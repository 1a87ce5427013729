import ComponentLinks.Proofs.BuildGraph.Findings
import ComponentLinks.Proofs.BuildGraph.TwoWay

/-!
# The component that a manifest leads back to

The links for a record begin with the one that owns the manifest of the record. So the links that
only share a manifest never find its way back free: a manifest leads back to the component of the
last record found that has it, under the literal identifier.

## Main definitions

* `BuildGraph.owns_iff_of_mem_links`: the link that owns the manifest of a record.
* `BuildGraph.identifierOf?_manifestTable_iff`: where a manifest leads back.
-/
namespace ComponentLinks.BuildGraph

variable {g : BuildGraph} {useHeuristics : Bool} {base : Path}

/-- Of the links for a record only the component's own one owns a manifest: the one that the record
is about. -/
theorem owns_iff_of_mem_links {f : Finding} {l : ManifestLink} {manifest : Path}
    (h : l ∈ f.links useHeuristics base g) :
    l.Owns manifest ↔
      l = ownLink base f.name f.record ∧ f.location base = manifest.normalized := by
  obtain ⟨hlocation, hown⟩ := manifest_of_mem_linksOf h
  have hleads : l.LeadsTo manifest ↔ f.location base = manifest.normalized := by
    rw [ManifestLink.LeadsTo, hlocation, manifestLocation, Path.normalized_normalized]
    rfl
  rw [ManifestLink.Owns, hleads]
  refine and_congr_left fun _ => ⟨hown, ?_⟩
  rintro rfl
  rfl

theorem exists_owns_links_iff {f : Finding} {manifest : Path} :
    (∃ l ∈ f.links useHeuristics base g, l.Owns manifest) ↔
      f.location base = manifest.normalized := by
  constructor
  · rintro ⟨l, hl, howns⟩
    exact ((owns_iff_of_mem_links hl).1 howns).2
  · intro h
    have hown : ownLink base f.name f.record ∈ f.links useHeuristics base g := ownLink_mem_linksOf
    exact ⟨_, hown, (owns_iff_of_mem_links hown).2 ⟨rfl, h⟩⟩

/-- The last link that owns a manifest is the one of the last record found that has it. -/
theorem exists_isLast_owns_iff {manifest : Path} {id : String} :
    (∃ l, IsLast (·.Owns manifest) (g.links useHeuristics base) l ∧ l.identifier = id) ↔
      ∃ f, IsLast (fun f => f.location base = manifest.normalized) (g.findings useHeuristics) f ∧
        f.identifier = id := by
  -- The last such link is among those of the last record, and the only one there.
  have hforth {l : ManifestLink} (hl : IsLast (·.Owns manifest) (g.links useHeuristics base) l) :
      ∃ f, IsLast (fun f => f.location base = manifest.normalized) (g.findings useHeuristics) f ∧
        l = ownLink base f.name f.record := by
    have howns := hl.holds
    rw [links_eq_flatMap_findings] at hl
    obtain ⟨f, hf, hmem⟩ := hl.exists_of_flatMap
    simp only [exists_owns_links_iff] at hf
    exact ⟨f, hf, ((owns_iff_of_mem_links hmem).1 howns).1⟩
  constructor
  · rintro ⟨l, hl, rfl⟩
    obtain ⟨f, hf, rfl⟩ := hforth hl
    exact ⟨f, hf, rfl⟩
  · rintro ⟨f, hf, rfl⟩
    obtain ⟨l, hl⟩ : ∃ l, IsLast (·.Owns manifest) (g.links useHeuristics base) l := by
      obtain ⟨l, hl, howns⟩ := exists_owns_links_iff.2 hf.holds
      rw [links_eq_flatMap_findings]
      exact exists_isLast_iff.2 ⟨l, List.mem_flatMap.2 ⟨f, hf.mem, hl⟩, howns⟩
    obtain ⟨f', hf', rfl⟩ := hforth hl
    obtain rfl := hf.unique hf'
    exact ⟨_, hl, rfl⟩

/-- A manifest leads back to the component of the last record found that has this manifest, whatever
shares it. The identifier is the one under which the component's own link is made, with the hyphens
that it has. -/
theorem identifierOf?_manifestTable_iff (settings : Settings) (base : Path) (g : BuildGraph)
    (manifest : Path) (id : String) :
    ((g.manifestTable settings base).identifierOf? manifest = some id ↔
      ∃ f, IsLast (fun f => f.location base = manifest.normalized)
        (g.findings settings.usesHeuristics) f ∧ f.identifier = id) ∧
    ((g.manifestTable settings base).identifierOf? manifest = some id →
      ∃ l ∈ g.links settings.usesHeuristics base, l.Owns manifest ∧ l.identifier = id) := by
  have howned : ∀ l ∈ g.links settings.usesHeuristics base,
      ∃ k ∈ g.links settings.usesHeuristics base, k.Owns l.manifest :=
    fun l hl => (exists_owns_of_mem_links hl).2
  have hlast : (g.manifestTable settings base).identifierOf? manifest = some id ↔
      ∃ l, IsLast (·.Owns manifest) (g.links settings.usesHeuristics base) l ∧
        l.identifier = id :=
    ManifestTable.identifierOf?_ofLinks_eq_some_iff howned
  refine ⟨hlast.trans exists_isLast_owns_iff, fun h => ?_⟩
  obtain ⟨l, hl, rfl⟩ := hlast.1 h
  exact ⟨l, hl.mem, hl.holds, rfl⟩

end ComponentLinks.BuildGraph
