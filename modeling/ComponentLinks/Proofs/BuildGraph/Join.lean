import ComponentLinks.Proofs.BuildGraph.Links
import Mathlib.Data.Prod.Lex
import Mathlib.Order.Nat

/-!
# Links without heuristics as a join

Without heuristics the table of a graph is the join of its four maps: component targets with their
packages, packages with their names, component targets with their records and with their parts.
Where several derivations lead to one identifier the last one counts, in the order of component
targets, then packages, then the component before its parts.

## Main definitions

* `BuildGraph.occurrences`: every component target with every one of its packages.
* `BuildGraph.DerivesAt`: an identifier derived from the four maps, with its place in the order.
* `BuildGraph.IsComplete`: whether no pair of a component target and a package lacks anything.
* `BuildGraph.manifestTable_eq_join`: the table and the reports of a graph.
-/
namespace ComponentLinks

namespace BuildGraph

variable {g : BuildGraph} {base : Path}

/-! ## The join -/

/-- Every component target with every one of its packages, in order and with repetitions. -/
def occurrences (g : BuildGraph) : List (String × String) :=
  g.packagesOf.toList.flatMap fun entry => entry.2.map fun package => (entry.1, package)

/-- The number of pairs of a component target and a package in which the package has no name. -/
def unnamedPairs (g : BuildGraph) : ℕ :=
  g.occurrences.countP fun o => (g.packageName? o.2).isNone

/-- The number of pairs of a component target and a named package in which the component target has
no record. -/
def unknownPairs (g : BuildGraph) : ℕ :=
  g.occurrences.countP fun o => (g.packageName? o.2).isSome && (g.manifestOf.find? o.1).isNone

/-- The components that share a record found under a target path: the one that the record names,
then the parts. -/
def sharers (g : BuildGraph) (target : String) (r : ManifestRecord) : List String :=
  r.component :: (g.partsOf.find? target).getD []

/-- An identifier derived from the four maps for a record of a component target. The place tells
which component target, which of its packages, and which of the components that share the record
are taken. -/
inductive DerivesAt (g : BuildGraph) (place : ℕ ×ₗ ℕ ×ₗ ℕ) (id : String)
    (r : ManifestRecord) : Prop
  | intro (i j k : ℕ) (target : String) (packages : List String) (package name component : String)
      (place_eq : place = toLex (i, toLex (j, k)))
      (target_at : g.packagesOf.toList[i]? = some (target, packages))
      (package_at : packages[j]? = some package)
      (name_eq : g.packageName? package = some name)
      (record_eq : g.manifestOf.find? target = some r)
      (component_at : (g.sharers target r)[k]? = some component)
      (id_eq : id = identifier name component)

theorem packageName?_eq_some_iff {package name : String} :
    g.packageName? package = some name ↔ g.nameOf.find? package = some name ∧ name ≠ "" := by
  simp [packageName?, Option.filter_eq_some_iff]

/-! ## What comes of a pair without heuristics -/

@[simp] theorem lookUp_false (target : String) :
    g.lookUp false target = (target, g.manifestOf.find? target) := by
  unfold lookUp
  cases g.manifestOf.find? target <;> rfl

/-- A path is never rewritten, so every package of a component target is on its own. -/
theorem pairingsOf_false (target : String) (packages : List String) :
    g.pairingsOf false base target packages =
      packages.map fun package => (g.pairing false base target package).2 := by
  refine pairingsOf_eq_map (fun package => ?_) packages
  simp only [pairing, lookUp_false]
  split
  · rfl
  · split <;> simp_all

theorem pairings_false :
    g.pairings false base = g.occurrences.map fun o => (g.pairing false base o.1 o.2).2 := by
  simp [pairings, occurrences, pairingsOf_false, List.map_flatMap, Function.comp_def]

theorem links_false :
    g.links false base = g.packagesOf.toList.flatMap fun entry =>
      entry.2.flatMap fun package => (g.pairing false base entry.1 package).2.links := by
  simp [links, pairings, pairingsOf_false, List.flatMap_assoc, List.flatMap_map]

/-- The links for a record: one for every component that shares it, of which the first is the
component's own. -/
theorem getElem?_linksOf_false (package target : String) (r : ManifestRecord) (k : ℕ) :
    (g.linksOf false base package target r)[k]? = ((g.sharers target r)[k]?).map
      fun component => ⟨package, component, manifestLocation base r.manifest, k != 0⟩ := by
  cases k <;> simp [linksOf, sharers]

/-- A pair gives links only if its package is named and its component target has a record. -/
theorem getElem?_links_pairing_false {target package : String} {k : ℕ} {l : ManifestLink} :
    (g.pairing false base target package).2.links[k]? = some l ↔
      ∃ name r component, g.packageName? package = some name ∧
        g.manifestOf.find? target = some r ∧ (g.sharers target r)[k]? = some component ∧
        l = ⟨name, component, manifestLocation base r.manifest, k != 0⟩ := by
  simp only [pairing, lookUp_false]
  cases hn : g.packageName? package with
  | none => simp [Pairing.links]
  | some name =>
    cases hr : g.manifestOf.find? target with
    | none => simp [Pairing.links]
    | some r =>
      simp only [Pairing.links, getElem?_linksOf_false, Option.map_eq_some_iff, Option.some.injEq]
      constructor
      · rintro ⟨component, hc, rfl⟩
        exact ⟨name, r, component, rfl, rfl, hc, rfl⟩
      · rintro ⟨_, _, component, rfl, rfl, hc, rfl⟩
        exact ⟨component, hc, rfl⟩

abbrev LinkAt (g : BuildGraph) (base : Path) : ℕ → ℕ → ℕ → ManifestLink → Prop :=
  NestedAt Prod.snd (fun entry package => (g.pairing false base entry.1 package).2.links)
    g.packagesOf.toList

/-- Every derivation makes a link at its place, and every link comes of a derivation. -/
theorem exists_linkAt_iff {i j k : ℕ} {id : String} {manifest : Path} :
    (∃ l, g.LinkAt base i j k l ∧ l.identifier = id ∧ l.manifest = manifest) ↔
      ∃ r, g.DerivesAt (toLex (i, toLex (j, k))) id r ∧
        manifest = manifestLocation base r.manifest := by
  constructor
  · rintro ⟨l, ⟨⟨target, packages⟩, package, htarget, hpackage, hl⟩, rfl, rfl⟩
    obtain ⟨name, r, component, hn, hr, hc, rfl⟩ := getElem?_links_pairing_false.1 hl
    exact ⟨r, ⟨i, j, k, target, packages, package, name, component, rfl, htarget, hpackage, hn, hr,
      hc, rfl⟩, rfl⟩
  · rintro ⟨r, ⟨i', j', k', target, packages, package, name, component, hplace, htarget, hpackage,
      hn, hr, hc, rfl⟩, rfl⟩
    obtain ⟨rfl, rfl, rfl⟩ : i = i' ∧ j = j' ∧ k = k' := by simpa using hplace
    exact ⟨_, ⟨_, _, htarget, hpackage, getElem?_links_pairing_false.2
      ⟨name, r, component, hn, hr, hc, rfl⟩⟩, rfl, rfl⟩

/-- Some place derives an identifier exactly if a component target, one of its packages and a
record do. -/
theorem exists_derivesAt_iff {id : String} :
    (∃ place r, g.DerivesAt place id r) ↔
      ∃ target packages package name r, g.packagesOf.find? target = some packages ∧
        package ∈ packages ∧ g.nameOf.find? package = some name ∧ name ≠ "" ∧
        g.manifestOf.find? target = some r ∧
        (id = identifier name r.component ∨
          ∃ parts, g.partsOf.find? target = some parts ∧ ∃ part ∈ parts,
            id = identifier name part) := by
  constructor
  · rintro ⟨_, r, i, j, k, target, packages, package, name, component, _, htarget, hpackage, hn,
      hr, hc, rfl⟩
    obtain ⟨hname, hne⟩ := packageName?_eq_some_iff.1 hn
    refine ⟨target, packages, package, name, r,
      OrderedMap.find?_eq_some_iff.2 (List.mem_of_getElem? htarget),
      List.mem_of_getElem? hpackage, hname, hne, hr, ?_⟩
    rcases List.mem_cons.1 (List.mem_of_getElem? hc) with rfl | hpart
    · exact .inl rfl
    · cases hparts : g.partsOf.find? target with
      | none => simp [hparts] at hpart
      | some parts => exact .inr ⟨parts, rfl, component, by simpa [hparts] using hpart, rfl⟩
  · rintro ⟨target, packages, package, name, r, htarget, hpackage, hname, hne, hr, hid⟩
    obtain ⟨i, hi⟩ := List.mem_iff_getElem?.1 (OrderedMap.find?_eq_some_iff.1 htarget)
    obtain ⟨j, hj⟩ := List.mem_iff_getElem?.1 hpackage
    have hn := packageName?_eq_some_iff.2 ⟨hname, hne⟩
    rcases hid with rfl | ⟨parts, hparts, part, hpart, rfl⟩
    · exact ⟨_, r, i, j, 0, target, packages, package, name, _, rfl, hi, hj, hn, hr, rfl, rfl⟩
    · obtain ⟨k, hk⟩ := List.mem_iff_getElem?.1 hpart
      exact ⟨_, r, i, j, k + 1, target, packages, package, name, part, rfl, hi, hj, hn, hr,
        by simpa [sharers, hparts] using hk, rfl⟩

/-! ## The pairs that give no links -/

theorem pairing_false_eq_unnamed_iff {target package : String} :
    (g.pairing false base target package).2 = .unnamed ↔ g.packageName? package = none := by
  simp only [pairing, lookUp_false]
  cases g.packageName? package with
  | none => simp
  | some name => cases g.manifestOf.find? target <;> simp

theorem pairing_false_eq_missing_iff {target package : String} :
    (g.pairing false base target package).2 = .missing ↔
      (g.packageName? package).isSome ∧ g.manifestOf.find? target = none := by
  simp only [pairing, lookUp_false]
  cases g.packageName? package with
  | none => simp
  | some name => cases g.manifestOf.find? target <;> simp

theorem unnamedCount_pairings_false :
    unnamedCount (g.pairings false base) = g.unnamedPairs := by
  rw [unnamedCount, unnamedPairs, pairings_false, List.countP_map]
  refine List.countP_congr fun o _ => ?_
  simp [pairing_false_eq_unnamed_iff]

theorem missingCount_pairings_false :
    missingCount (g.pairings false base) = g.unknownPairs := by
  rw [missingCount, unknownPairs, pairings_false, List.countP_map]
  refine List.countP_congr fun o _ => ?_
  simp [pairing_false_eq_missing_iff]

theorem mem_occurrences_iff {target package : String} :
    (target, package) ∈ g.occurrences ↔
      ∃ packages, g.packagesOf.find? target = some packages ∧ package ∈ packages := by
  simp only [occurrences, List.mem_flatMap, List.mem_map, OrderedMap.find?_eq_some_iff]
  constructor
  · rintro ⟨⟨t, packages⟩, hentry, q, hq, heq⟩
    obtain ⟨rfl, rfl⟩ := Prod.mk.inj heq
    exact ⟨packages, hentry, hq⟩
  · rintro ⟨packages, hentry, hq⟩
    exact ⟨(target, packages), hentry, package, hq, rfl⟩

/-- Whether every component target with a package has a record, and every such package a name. -/
def IsComplete (g : BuildGraph) : Prop :=
  ∀ target packages package, g.packagesOf.find? target = some packages → package ∈ packages →
    (∃ name, g.nameOf.find? package = some name ∧ name ≠ "") ∧
      ∃ r, g.manifestOf.find? target = some r

theorem isComplete_iff_pairs_eq_zero :
    g.IsComplete ↔ g.unnamedPairs = 0 ∧ g.unknownPairs = 0 := by
  rw [unnamedPairs, unknownPairs, List.countP_eq_zero, List.countP_eq_zero]
  constructor
  · intro h
    refine ⟨fun o ho => ?_, fun o ho => ?_⟩
    · obtain ⟨packages, hfound, hmem⟩ := mem_occurrences_iff.1 ho
      obtain ⟨⟨name, hname⟩, _⟩ := h o.1 packages o.2 hfound hmem
      simp [packageName?_eq_some_iff.2 hname]
    · obtain ⟨packages, hfound, hmem⟩ := mem_occurrences_iff.1 ho
      obtain ⟨_, r, hr⟩ := h o.1 packages o.2 hfound hmem
      simp [hr]
  · rintro ⟨hnamed, hknown⟩ target packages package hfound hmem
    have ho : (target, package) ∈ g.occurrences := mem_occurrences_iff.2 ⟨packages, hfound, hmem⟩
    obtain ⟨name, hname⟩ : ∃ name, g.packageName? package = some name := by
      simpa [Option.ne_none_iff_exists'] using hnamed _ ho
    obtain ⟨r, hr⟩ : ∃ r, g.manifestOf.find? target = some r := by
      simpa [hname, Option.ne_none_iff_exists'] using hknown _ ho
    exact ⟨⟨name, packageName?_eq_some_iff.1 hname⟩, r, hr⟩

theorem LinkAt.mem_links {i j k : ℕ} {l : ManifestLink} (h : g.LinkAt base i j k l) :
    l ∈ g.links false base := by
  obtain ⟨entry, package, hentry, hpackage, hl⟩ := h
  rw [links_false]
  exact List.mem_flatMap.2 ⟨entry, List.mem_of_getElem? hentry,
    List.mem_flatMap.2 ⟨package, List.mem_of_getElem? hpackage, List.mem_of_getElem? hl⟩⟩

/-- An identifier leads to the manifest of its last derivation. -/
theorem manifest?_ofLinks_links_false_iff {id : String} {manifest : Path} :
    (ManifestTable.ofLinks false (g.links false base)).manifest? id = some manifest ↔
      ∃ place r, g.DerivesAt place id r ∧ manifest = manifestLocation base r.manifest ∧
        ∀ place' r', g.DerivesAt place' id r' → place' ≤ place := by
  rw [ManifestTable.manifest?_ofLinks_eq_some_iff, links_false]
  simp only [isLast_flatMap_flatMap_iff, ManifestLink.names_false_iff]
  constructor
  · rintro ⟨l, ⟨i, j, k, hl, hid, hlast⟩, hto⟩
    obtain ⟨r, hr, hm⟩ := exists_linkAt_iff.1 ⟨l, hl, hid, hto⟩
    refine ⟨_, r, hr, hm, fun place' r' hr' => ?_⟩
    obtain ⟨i', j', k', rfl⟩ : ∃ i' j' k', place' = toLex (i', toLex (j', k')) := ⟨_, _, _, rfl⟩
    obtain ⟨l', hl', hid', _⟩ := exists_linkAt_iff.2 ⟨r', hr', rfl⟩
    exact hlast i' j' k' l' hl' hid'
  · rintro ⟨place, r, hr, rfl, hlast⟩
    obtain ⟨i, j, k, rfl⟩ : ∃ i j k, place = toLex (i, toLex (j, k)) := ⟨_, _, _, rfl⟩
    obtain ⟨l, hl, hid, hto⟩ := exists_linkAt_iff.2 ⟨r, hr, rfl⟩
    refine ⟨l, ⟨i, j, k, hl, hid, fun i' j' k' l' hl' hid' => ?_⟩, hto⟩
    obtain ⟨r', hr', _⟩ := exists_linkAt_iff.1 ⟨l', hl', hid', rfl⟩
    exact hlast _ r' hr'

theorem exists_manifest?_ofLinks_links_false_iff {id : String} :
    (∃ manifest, (ManifestTable.ofLinks false (g.links false base)).manifest? id = some manifest) ↔
      ∃ place r, g.DerivesAt place id r := by
  constructor
  · rintro ⟨manifest, h⟩
    obtain ⟨place, r, hr, _⟩ := manifest?_ofLinks_links_false_iff.1 h
    exact ⟨place, r, hr⟩
  · rintro ⟨place, r, hr⟩
    obtain ⟨i, j, k, rfl⟩ : ∃ i j k, place = toLex (i, toLex (j, k)) := ⟨_, _, _, rfl⟩
    obtain ⟨l, hl, hid, _⟩ := exists_linkAt_iff.2 ⟨r, hr, rfl⟩
    rw [← Option.ne_none_iff_exists', ne_eq, ManifestTable.manifest?_ofLinks_eq_none_iff]
    exact fun hnone => hnone l hl.mem_links (.inl hid)

/-- Without heuristics and without reading hyphens as underscores, the table of a graph is the
join of its maps. An identifier is in it exactly if a component target, a named package of it and
a record of it derive the identifier, and it leads to the manifest of the last derivation. The
reports are empty exactly if no pair of a component target and a package lacks a name or a record,
and count the pairs of both kinds otherwise. -/
theorem manifestTable_eq_join (settings : Settings) (base : Path) (g : BuildGraph) :
    let plain := { settings with usesHeuristics := false, normalizesSeparators := false }
    let table := g.manifestTable plain base
    let found := reports (g.pairings plain.usesHeuristics base)
    (∀ id, (∃ manifest, table.manifest? id = some manifest) ↔
      ∃ target packages package name r, g.packagesOf.find? target = some packages ∧
        package ∈ packages ∧ g.nameOf.find? package = some name ∧ name ≠ "" ∧
        g.manifestOf.find? target = some r ∧
        (id = identifier name r.component ∨
          ∃ parts, g.partsOf.find? target = some parts ∧ ∃ part ∈ parts,
            id = identifier name part)) ∧
    (∀ id manifest, table.manifest? id = some manifest ↔
      ∃ place r, g.DerivesAt place id r ∧ manifest = manifestLocation base r.manifest ∧
        ∀ place' r', g.DerivesAt place' id r' → place' ≤ place) ∧
    (found = [] ↔ g.IsComplete) ∧
    (¬ g.IsComplete →
      found = [⟨.unresolvedAssociation,
        s!"{g.unnamedPairs} component targets had no named package and {g.unknownPairs} had no " ++
          "known manifest", false⟩]) := by
  intro plain table found
  have hfound : found = if g.unnamedPairs = 0 ∧ g.unknownPairs = 0 then [] else
      [⟨.unresolvedAssociation,
        s!"{g.unnamedPairs} component targets had no named package and {g.unknownPairs} had no " ++
          "known manifest", false⟩] := by
    show reports (g.pairings false base) = _
    rw [reports, unnamedCount_pairings_false, missingCount_pairings_false]
  refine ⟨fun id => ?_, fun id manifest => manifest?_ofLinks_links_false_iff, ?_, ?_⟩
  · rw [← exists_derivesAt_iff]
    exact exists_manifest?_ofLinks_links_false_iff
  · rw [hfound, isComplete_iff_pairs_eq_zero]
    split <;> simp_all
  · intro h
    rw [isComplete_iff_pairs_eq_zero] at h
    rw [hfound, if_neg h]

end BuildGraph

end ComponentLinks
