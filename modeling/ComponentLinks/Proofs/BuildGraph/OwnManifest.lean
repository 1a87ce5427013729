import ComponentLinks.Proofs.BuildGraph.Join

/-!
# Components with a manifest of their own

Without heuristics a component gets its identifier in two ways: from a record of its own, or as a
part of another component, whose manifest it then shares. Both ways write the same entry of the
table, so a component with a record of its own keeps its manifest only as long as no component
after it has it as a part.

## Main definitions

* `BuildGraph.linkedPairs`: the component targets and packages that give links.
* `LinkedPair.Owns`, `LinkedPair.Shares`: the two ways to an identifier.
* `BuildGraph.links_false_eq_flatMap`: the links of the pairs.
* `BuildGraph.manifest?_of_owns`: where the identifier of a component with a record leads.
* `BuildGraph.partsLast`: a graph in which a component with a record loses its manifest.
-/
namespace ComponentLinks

/-- A component target with a record, in a package with a name. -/
structure LinkedPair where
  target : String
  package : String
  record : ManifestRecord
  deriving Repr, DecidableEq

namespace LinkedPair

/-- Whether the component of the record has an identifier. -/
def Owns (id : String) (p : LinkedPair) : Prop := identifier p.package p.record.component = id

instance (id : String) (p : LinkedPair) : Decidable (p.Owns id) :=
  inferInstanceAs (Decidable (_ = _))

/-- Whether one of the parts of the component target has an identifier. -/
def Shares (g : BuildGraph) (id : String) (p : LinkedPair) : Prop :=
  ∃ part ∈ (g.partsOf.find? p.target).getD [], identifier p.package part = id

instance (g : BuildGraph) (id : String) (p : LinkedPair) : Decidable (p.Shares g id) :=
  inferInstanceAs (Decidable (∃ part ∈ _, _))

def location (base : Path) (p : LinkedPair) : Path :=
  BuildGraph.manifestLocation base p.record.manifest

def links (base : Path) (g : BuildGraph) (p : LinkedPair) : List ManifestLink :=
  g.linksOf false base p.package p.target p.record

theorem manifest_of_mem_links {base : Path} {g : BuildGraph} {p : LinkedPair} {l : ManifestLink}
    (h : l ∈ p.links base g) : l.manifest = p.location base :=
  (BuildGraph.manifest_of_mem_linksOf h).1

theorem exists_names_iff {base : Path} {g : BuildGraph} {id : String} {p : LinkedPair} :
    (∃ l ∈ p.links base g, l.Names false id) ↔ p.Owns id ∨ p.Shares g id := by
  simp [links, BuildGraph.linksOf, Owns, Shares, ManifestLink.identifier]

end LinkedPair

namespace BuildGraph

variable {g : BuildGraph} {base : Path}

/-- The pair of a component target and a package, if the one has a record and the other a name. -/
def linkedPair? (g : BuildGraph) (target package : String) : Option LinkedPair :=
  match g.packageName? package, g.manifestOf.find? target with
  | some name, some r => some ⟨target, name, r⟩
  | _, _ => none

/-- The pairs of a component target with a record and a package with a name, in order. -/
def linkedPairs (g : BuildGraph) : List LinkedPair :=
  g.occurrences.filterMap fun o => g.linkedPair? o.1 o.2

theorem links_pairing_false (target package : String) :
    (g.pairing false base target package).2.links =
      (g.linkedPair? target package).toList.flatMap (LinkedPair.links base g) := by
  simp only [pairing, lookUp_false, linkedPair?]
  cases g.packageName? package with
  | none => rfl
  | some name =>
    cases g.manifestOf.find? target with
    | none => rfl
    | some r => simp [Pairing.links, LinkedPair.links]

theorem links_false_eq_flatMap :
    g.links false base = g.linkedPairs.flatMap (LinkedPair.links base g) := by
  rw [links, pairings_false, linkedPairs, List.flatMap_map]
  induction g.occurrences with
  | nil => rfl
  | cons o os ih =>
    rw [List.flatMap_cons, ih, links_pairing_false, List.filterMap_cons]
    cases g.linkedPair? o.1 o.2 <;> simp

/-- Without heuristics an identifier leads to the manifest of the last pair that has it, in either
way. -/
theorem manifest?_ofLinks_links_false_iff_isLast {id : String} {manifest : Path} :
    (ManifestTable.ofLinks false (g.links false base)).manifest? id = some manifest ↔
      ∃ p, IsLast (fun p => p.Owns id ∨ p.Shares g id) g.linkedPairs p ∧
        p.location base = manifest := by
  rw [links_false_eq_flatMap, ManifestTable.manifest?_ofLinks_flatMap_iff]
  · simp only [LinkedPair.exists_names_iff]
    refine exists_congr fun p => and_congr_right fun hp => ?_
    obtain ⟨l, hl, -⟩ := LinkedPair.exists_names_iff.2 hp.holds
    constructor
    · rintro ⟨k, hk, rfl⟩
      exact (LinkedPair.manifest_of_mem_links hk).symm
    · rintro rfl
      exact ⟨l, hl, LinkedPair.manifest_of_mem_links hl⟩
  · intro p _ l hl k hk
    rw [LinkedPair.manifest_of_mem_links hl, LinkedPair.manifest_of_mem_links hk]

/-- Let the records that give a component its identifier all lead to one manifest. Then the
identifier leads to this manifest if no pair after the last of them has the component as a part, and
otherwise to the manifest of the last pair that has. -/
theorem manifest?_of_owns (settings : Settings) (base : Path) (g : BuildGraph) {id : String}
    {manifest : Path} (howns : ∃ p ∈ g.linkedPairs, p.Owns id)
    (hone : ∀ p ∈ g.linkedPairs, p.Owns id → p.location base = manifest) :
    let plain := { settings with usesHeuristics := false, normalizesSeparators := false }
    let table := g.manifestTable plain base
    ∃ before own after, g.linkedPairs = before ++ own :: after ∧ own.Owns id ∧
      (∀ p ∈ after, ¬ p.Owns id) ∧
      ((∀ p ∈ after, ¬ p.Shares g id) → table.manifest? id = some manifest) ∧
      ∀ p, IsLast (·.Shares g id) after p → table.manifest? id = some (p.location base) := by
  intro plain table
  obtain ⟨own, before, after, hsplit, hown, hafter⟩ :
      ∃ p, IsLast (LinkedPair.Owns id) g.linkedPairs p :=
    exists_isLast_iff.2 howns
  have hmem : own ∈ g.linkedPairs := by simp [hsplit]
  have htable {p : LinkedPair} (hp : IsLast (fun p => p.Owns id ∨ p.Shares g id) g.linkedPairs p) :
      table.manifest? id = some (p.location base) :=
    manifest?_ofLinks_links_false_iff_isLast.2 ⟨p, hp, rfl⟩
  refine ⟨before, own, after, hsplit, hown, hafter, fun hshares => ?_, ?_⟩
  · rw [← hone own hmem hown]
    refine htable ⟨before, after, hsplit, .inl hown, fun p hp => ?_⟩
    exact not_or.2 ⟨hafter p hp, hshares p hp⟩
  · rintro p ⟨between, rest, rfl, hp, hrest⟩
    refine htable ⟨before ++ own :: between, rest, by simp [hsplit], .inr hp, fun q hq => ?_⟩
    exact not_or.2 ⟨hafter q (by simp [hq]), hrest q hq⟩

/-- A graph of two components of one package, of which the second has the first as a part. -/
def partsLast : BuildGraph :=
  { empty with
    packagesOf := .ofList [("d:c", ["d:p"]), ("d:k", ["d:p"])]
    manifestOf := .ofList [("d:c", ⟨"d:c", "c", "m/c.cml"⟩), ("d:k", ⟨"d:k", "k", "m/k.cml"⟩)]
    partsOf := .ofList [("d:k", ["c"])]
    nameOf := .ofList [("d:p", "n")] }

theorem owns_partsLast :
    (∃ p ∈ partsLast.linkedPairs, p.Owns "n/c") ∧
      ∀ p ∈ partsLast.linkedPairs, p.Owns "n/c" →
        p.location (.ofString "/fuchsia") = .ofString "/fuchsia/m/c.cml" := by
  decide +kernel

theorem manifest?_of_owns_partsLast :
    (∃ p ∈ partsLast.linkedPairs, p.Owns "n/c") ∧
      (∀ p ∈ partsLast.linkedPairs, p.Owns "n/c" →
        p.location (.ofString "/fuchsia") = .ofString "/fuchsia/m/c.cml") ∧
      ∃ before own after, partsLast.linkedPairs = before ++ own :: after ∧ own.Owns "n/c" ∧
        (∀ p ∈ after, ¬ p.Owns "n/c") ∧
        ((∀ p ∈ after, ¬ p.Shares partsLast "n/c") →
          (partsLast.manifestTable {} (.ofString "/fuchsia")).manifest? "n/c" =
            some (.ofString "/fuchsia/m/c.cml")) ∧
        ∀ p, IsLast (·.Shares partsLast "n/c") after p →
          (partsLast.manifestTable {} (.ofString "/fuchsia")).manifest? "n/c" =
            some (p.location (.ofString "/fuchsia")) :=
  ⟨owns_partsLast.1, owns_partsLast.2, manifest?_of_owns {} _ _ owns_partsLast.1 owns_partsLast.2⟩

/-- The first component has a record of its own, but its identifier leads to the manifest of the
second one. -/
theorem manifest?_partsLast_ne :
    ((∃ p ∈ partsLast.linkedPairs, p.Owns "n/c") ∧
      ∀ p ∈ partsLast.linkedPairs, p.Owns "n/c" →
        p.location (.ofString "/fuchsia") = .ofString "/fuchsia/m/c.cml") ∧
      (partsLast.manifestTable {} (.ofString "/fuchsia")).manifest? "n/c" =
        some (.ofString "/fuchsia/m/k.cml") ∧
      (partsLast.manifestTable {} (.ofString "/fuchsia")).manifest? "n/c" ≠
        some (.ofString "/fuchsia/m/c.cml") := by
  refine ⟨owns_partsLast, ?_, ?_⟩ <;> decide +kernel

end BuildGraph

end ComponentLinks
