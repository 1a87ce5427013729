import ComponentLinks.BuildGraph.Resolve
import ComponentLinks.Proofs.OrderedMap
import ComponentLinks.Proofs.Table.Manifests
import Mathlib.Data.List.Basic

/-!
# Where links come from

Every link of a graph is one of the links for a record, made for a package with a name. The links
for a record lead to one manifest, and only the first of them owns it.

## Main definitions

* `BuildGraph.manifest_of_mem_linksOf`: where the links for a record lead.
* `BuildGraph.exists_linksOf_of_mem_links`: the record that a link comes from.
* `BuildGraph.manifest_eq_of_mem_pairings`: the links of a component target and a package.
* `BuildGraph.pairingsOf_eq_map`: a target path that is not rewritten.
-/
namespace ComponentLinks.BuildGraph

variable {g : BuildGraph} {useHeuristics : Bool} {base : Path} {package target : String}
  {r : ManifestRecord} {l : ManifestLink}

/-! ## The links for a record -/

def ownLink (base : Path) (package : String) (r : ManifestRecord) : ManifestLink :=
  ⟨package, r.component, manifestLocation base r.manifest, false⟩

theorem ownLink_mem_linksOf :
    ownLink base package r ∈ g.linksOf useHeuristics base package target r :=
  List.mem_cons_self

/-- The links for a record lead to its manifest, and the component shares it with the others. -/
theorem manifest_of_mem_linksOf (h : l ∈ g.linksOf useHeuristics base package target r) :
    l.manifest = manifestLocation base r.manifest ∧
      (l.shared = false → l = ownLink base package r) := by
  simp only [linksOf, List.cons_append, List.mem_cons, List.mem_append, List.mem_map] at h
  rcases h with rfl | ⟨part, -, rfl⟩ | h
  · exact ⟨rfl, fun _ => rfl⟩
  · exact ⟨rfl, by simp⟩
  · split at h
    · obtain rfl := List.mem_singleton.1 h
      exact ⟨rfl, by simp⟩
    · simp at h

/-- The targets that a component is built from share its manifest. -/
theorem mem_linksOf_of_part {parts : List String} {part : String}
    (hparts : g.partsOf.find? target = some parts) (hpart : part ∈ parts) :
    ⟨package, part, manifestLocation base r.manifest, true⟩ ∈
      g.linksOf useHeuristics base package target r := by
  refine List.mem_cons_of_mem _ (List.mem_append_left _ (List.mem_map.2 ⟨part, ?_, rfl⟩))
  simpa [hparts] using hpart

/-! ## The links of a graph -/

theorem find?_of_lookUp_eq_some {found : String}
    (h : g.lookUp useHeuristics target = (found, some r)) : g.manifestOf.find? found = some r := by
  simp only [lookUp] at h
  split at h
  · simp_all
  · split at h
    · split at h
      · simp_all
      · obtain ⟨rfl, hdropped⟩ := Prod.mk.inj h
        exact hdropped
    · simp at h

/-- The links of a pairing are the links for a record, made for a package with a name. -/
theorem exists_linksOf_of_mem_pairing
    (h : l ∈ (g.pairing useHeuristics base target package).2.links) :
    ∃ name found r, g.packageName? package = some name ∧ g.manifestOf.find? found = some r ∧
      (g.pairing useHeuristics base target package).2.links =
        g.linksOf useHeuristics base name found r := by
  simp only [pairing] at h ⊢
  cases hname : g.packageName? package with
  | none => simp [hname, Pairing.links] at h
  | some name =>
    rw [hname] at h
    cases hrecord : g.lookUp useHeuristics target with
    | mk found record =>
      rw [hrecord] at h
      cases record with
      | none => simp [Pairing.links] at h
      | some r => exact ⟨name, found, r, rfl, find?_of_lookUp_eq_some hrecord, rfl⟩

theorem exists_pairing_of_mem_pairingsOf {packages : List String} {p : Pairing}
    (h : p ∈ g.pairingsOf useHeuristics base target packages) :
    ∃ target', ∃ package ∈ packages, p = (g.pairing useHeuristics base target' package).2 := by
  induction packages generalizing target with
  | nil => simp [pairingsOf] at h
  | cons package packages ih =>
    rcases List.mem_cons.1 h with rfl | h
    · exact ⟨target, package, by simp, rfl⟩
    · obtain ⟨target', package', hmem, rfl⟩ := ih h
      exact ⟨target', package', by simp [hmem], rfl⟩

/-- Every link of a graph is one of the links for a record, made for a package with a name that a
component target is built into; and all of those are links of the graph. -/
theorem exists_linksOf_of_mem_links (h : l ∈ g.links useHeuristics base) :
    ∃ entry ∈ g.packagesOf.toList, ∃ package ∈ entry.2, ∃ name found r,
      g.packageName? package = some name ∧ g.manifestOf.find? found = some r ∧
      l ∈ g.linksOf useHeuristics base name found r ∧
      ∀ k ∈ g.linksOf useHeuristics base name found r, k ∈ g.links useHeuristics base := by
  obtain ⟨p, hp, hl⟩ := List.mem_flatMap.1 h
  obtain ⟨entry, hentry, hpairing⟩ := List.mem_flatMap.1 hp
  obtain ⟨target, package, hpackage, rfl⟩ := exists_pairing_of_mem_pairingsOf hpairing
  obtain ⟨name, found, r, hname, hrecord, hlinks⟩ := exists_linksOf_of_mem_pairing hl
  exact ⟨entry, hentry, package, hpackage, name, found, r, hname, hrecord, hlinks ▸ hl,
    fun k hk => List.mem_flatMap.2 ⟨_, hp, hlinks ▸ hk⟩⟩

theorem manifest_eq_of_mem_pairings {p : Pairing} (hp : p ∈ g.pairings useHeuristics base)
    {k : ManifestLink} (hl : l ∈ p.links) (hk : k ∈ p.links) : l.manifest = k.manifest := by
  obtain ⟨entry, -, hpairing⟩ := List.mem_flatMap.1 hp
  obtain ⟨target, package, -, rfl⟩ := exists_pairing_of_mem_pairingsOf hpairing
  obtain ⟨name, found, r, -, -, hlinks⟩ := exists_linksOf_of_mem_pairing hl
  rw [hlinks] at hl hk
  rw [(manifest_of_mem_linksOf hl).1, (manifest_of_mem_linksOf hk).1]

/-- A target path that is never rewritten is looked up as it is for every package. -/
theorem pairingsOf_eq_map (h : ∀ package, (g.pairing useHeuristics base target package).1 = target)
    (packages : List String) : g.pairingsOf useHeuristics base target packages =
      packages.map fun package => (g.pairing useHeuristics base target package).2 := by
  induction packages with
  | nil => rfl
  | cons package packages ih => simp [pairingsOf, h, ih]

theorem lookUp_of_find? (h : g.manifestOf.find? target = some r) :
    g.lookUp useHeuristics target = (target, some r) := by
  simp [lookUp, h]

theorem pairingsOf_of_find? (h : g.manifestOf.find? target = some r) (packages : List String) :
    g.pairingsOf useHeuristics base target packages =
      packages.map fun package => (g.pairing useHeuristics base target package).2 := by
  refine pairingsOf_eq_map (fun package => ?_) packages
  simp only [pairing, lookUp_of_find? h]
  split <;> rfl

/-- A component target with a record of its own is linked in every package with a name. -/
theorem mem_links_of_mem_linksOf {packages : List String} {name : String}
    (hpackages : g.packagesOf.find? target = some packages) (hpackage : package ∈ packages)
    (hname : g.packageName? package = some name) (hrecord : g.manifestOf.find? target = some r)
    (h : l ∈ g.linksOf useHeuristics base name target r) : l ∈ g.links useHeuristics base := by
  have hpairing : (g.pairing useHeuristics base target package).2 =
      .linked (g.linksOf useHeuristics base name target r) := by
    simp [pairing, hname, lookUp_of_find? hrecord]
  have hmem : Pairing.linked (g.linksOf useHeuristics base name target r) ∈
      g.pairingsOf useHeuristics base target packages := by
    rw [pairingsOf_of_find? hrecord]
    exact List.mem_map.2 ⟨package, hpackage, hpairing⟩
  exact List.mem_flatMap.2 ⟨_, List.mem_flatMap.2 ⟨(target, packages),
    OrderedMap.find?_eq_some_iff.1 hpackages, hmem⟩, h⟩

end ComponentLinks.BuildGraph
