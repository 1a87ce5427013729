import ComponentLinks.Proofs.BuildGraph.Rewriting
import Mathlib.Logic.Relation

/-!
# Records found under rewritten paths

The links of a graph come in groups, one group for each record found for a component target in one
of its packages. With heuristics the path of the component target is rewritten on the way by two
rules, and a path that was rewritten for one package is handed to the next. However many steps that
takes, the record and the parts of a group belong to one and the same path, which the rules lead to
from the component target; and the links of the group name the component of the record, a part of
it, or the component without a known ending.

## Main definitions

* `Finding`: a record found for a component target in one of its packages.
* `BuildGraph.findings`: the records found, in order.
* `BuildGraph.links_eq_flatMap_findings`: the groups of links.
* `RewritesTo`: the two rules.
* `BuildGraph.exists_related_of_manifest?`: what an identifier and its manifest come from.
* `BuildGraph.rewrittenTwice`: a graph in which a record is found after several steps.
-/
namespace ComponentLinks

/-- A record found for a component target in one of its packages, and the path under which it was
found. -/
structure Finding where
  target : String
  package : String
  name : String
  path : String
  record : ManifestRecord
  deriving Repr, DecidableEq

namespace Finding

def location (base : Path) (f : Finding) : Path :=
  BuildGraph.manifestLocation base f.record.manifest

def identifier (f : Finding) : String := ComponentLinks.identifier f.name f.record.component

def links (useHeuristics : Bool) (base : Path) (g : BuildGraph) (f : Finding) :
    List ManifestLink :=
  g.linksOf useHeuristics base f.name f.path f.record

end Finding

/-! ## The rules -/

/-- Whether one rule takes a path to another: the first `:test_` becomes a colon, or a final
`_component` goes. -/
inductive RewritesTo (path next : String) : Prop
  | collapse (before after : List Char) (path_eq : path.toList = before ++ ":test_".toList ++ after)
      (first : ¬ ":test_".toList <:+: before) (next_eq : next.toList = before ++ ':' :: after)
  | drop (path_eq : path.toList = next.toList ++ "_component".toList)

/-- Whether a name is another one without one of the two known endings. -/
def IsShortOf (short name : String) : Prop :=
  name = short ++ "_component" ∨ name = short ++ "_component_generated_manifest"

theorem eq_append_of_withoutFinal? {ending cs ds : List Char} (hcs : '\n' ∉ cs)
    (h : withoutFinal? ending cs = some ds) : cs = ds ++ ending := by
  unfold withoutFinal? at h
  split at h
  · rename_i hending
    obtain ⟨es, rfl⟩ := List.isSuffixOf_iff_suffix.1 hending
    obtain rfl := Option.some.inj h
    rw [withoutEnding_append]
  · split at h
    · rename_i hending
      have hmem : '\n' ∈ cs := (List.isSuffixOf_iff_suffix.1 hending).subset (by simp)
      exact absurd hmem hcs
    · simp at h

theorem dropComponentEnding_eq_or {cs : List Char} (hcs : '\n' ∉ cs) :
    dropComponentEnding cs = cs ∨ cs = dropComponentEnding cs ++ "_component".toList := by
  unfold dropComponentEnding
  cases h : withoutFinal? componentEnding cs with
  | none => exact .inl rfl
  | some ds => exact .inr (eq_append_of_withoutFinal? hcs h)

theorem shortName_eq_or_isShortOf {name : String} (hname : '\n' ∉ name.toList) :
    shortName name = name ∨ IsShortOf (shortName name) name := by
  have hshort {ds : List Char} {ending : String} (h : name.toList = ds ++ ending.toList) :
      name = String.ofList ds ++ ending := by
    rw [← String.toList_inj, h]
    simp
  rw [shortName]
  cases h : (withoutFinal? generatedEnding name.toList).or
      (withoutFinal? componentEnding name.toList) with
  | none => exact .inl (by simp only [Option.getD_none, String.ofList_toList])
  | some ds =>
    simp only [Option.getD_some]
    rcases Option.or_eq_some_iff.1 h with hgenerated | ⟨-, hcomponent⟩
    · exact .inr (.inr (hshort (eq_append_of_withoutFinal? hname hgenerated)))
    · exact .inr (.inl (hshort (eq_append_of_withoutFinal? hname hcomponent)))

namespace RewritesTo

variable {path next : String}

theorem subset (h : RewritesTo path next) : next.toList ⊆ path.toList := by
  cases h with
  | collapse before after path_eq _ next_eq =>
    rw [path_eq, next_eq]
    intro c hc
    simp only [List.mem_append, List.mem_cons] at hc ⊢
    rcases hc with hc | rfl | hc
    · exact .inl (.inl hc)
    · exact .inl (.inr (by decide))
    · exact .inr hc
  | drop path_eq =>
    rw [path_eq]
    exact List.subset_append_left _ _

theorem of_collapseTest (hne : collapseTest path.toList ≠ path.toList) :
    RewritesTo path (String.ofList (collapseTest path.toList)) := by
  rcases collapseTest_eq_or_exists path.toList with ⟨-, heq⟩ | ⟨before, after, hpath, hfirst, hnext⟩
  · exact absurd heq hne
  · exact .collapse before after hpath hfirst (by rw [String.toList_ofList, hnext])

end RewritesTo

/-- Whether the rules take a path to another, in any number of steps. -/
def Reaches : String → String → Prop := Relation.ReflTransGen RewritesTo

theorem Reaches.subset {path next : String} (h : Reaches path next) :
    next.toList ⊆ path.toList := by
  induction h with
  | refl => exact List.Subset.refl _
  | tail _ hstep ih => exact List.Subset.trans hstep.subset ih

theorem reaches_collapseTest (path : String) :
    Reaches path (String.ofList (collapseTest path.toList)) := by
  by_cases heq : collapseTest path.toList = path.toList
  · rw [heq, String.ofList_toList]
    exact .refl
  · exact .single (.of_collapseTest heq)

theorem reaches_dropComponentEnding {path : String} (hpath : '\n' ∉ path.toList) :
    Reaches path (String.ofList (dropComponentEnding path.toList)) := by
  rcases dropComponentEnding_eq_or hpath with heq | heq
  · rw [heq, String.ofList_toList]
    exact .refl
  · exact .single (.drop (by rw [String.toList_ofList]; exact heq))

namespace BuildGraph

variable {g : BuildGraph} {useHeuristics : Bool} {base : Path} {target path : String}

/-! ## The records found -/

/-- The records found for a component target in its packages, in order. The target is looked up as
`path` first, and then each time under the path that the look-up before has left. -/
def findingsOf (useHeuristics : Bool) (g : BuildGraph) (target path : String) :
    List String → List Finding
  | [] => []
  | package :: packages =>
    match g.packageName? package with
    | none => findingsOf useHeuristics g target path packages
    | some name =>
      match g.lookUp useHeuristics path with
      | (next, none) => findingsOf useHeuristics g target next packages
      | (next, some r) =>
        ⟨target, package, name, next, r⟩ :: findingsOf useHeuristics g target next packages

/-- The records found for all component targets in their packages, in the order of the graph. -/
def findings (useHeuristics : Bool) (g : BuildGraph) : List Finding :=
  g.packagesOf.toList.flatMap fun entry => g.findingsOf useHeuristics entry.1 entry.1 entry.2

theorem flatMap_links_pairingsOf (packages : List String) :
    (g.pairingsOf useHeuristics base path packages).flatMap Pairing.links =
      (g.findingsOf useHeuristics target path packages).flatMap
        (Finding.links useHeuristics base g) := by
  -- The path is general, since each package hands its path to the next.
  induction packages generalizing path with
  | nil => rfl
  | cons package packages ih =>
    rw [pairingsOf, findingsOf, pairing]
    cases g.packageName? package with
    | none => simpa [Pairing.links] using ih
    | some name =>
      cases g.lookUp useHeuristics path with
      | mk next record =>
        cases record with
        | none => simpa [Pairing.links] using ih
        | some r => simpa [Pairing.links, Finding.links] using ih

/-- The links of a graph are the links for the records found. -/
theorem links_eq_flatMap_findings :
    g.links useHeuristics base =
      (g.findings useHeuristics).flatMap (Finding.links useHeuristics base g) := by
  rw [links, pairings, findings, List.flatMap_assoc, List.flatMap_assoc]
  exact List.flatMap_congr fun entry _ => flatMap_links_pairingsOf entry.2

/-! ## Where the records are found -/

/-- A look-up goes from a path to one that the rules lead to. -/
theorem reaches_of_lookUp {next : String} {record : Option ManifestRecord}
    (hpath : '\n' ∉ path.toList) (h : g.lookUp true path = (next, record)) :
    Reaches path next := by
  have hcollapsed := reaches_collapseTest path
  have hnext : '\n' ∉ (String.ofList (collapseTest path.toList)).toList :=
    fun hmem => hpath (hcollapsed.subset hmem)
  unfold lookUp at h
  split at h
  · obtain ⟨rfl, -⟩ := Prod.mk.inj h
    exact .refl
  · simp only [if_true] at h
    split at h
    · obtain ⟨rfl, -⟩ := Prod.mk.inj h
      exact hcollapsed
    · obtain ⟨rfl, -⟩ := Prod.mk.inj h
      exact hcollapsed.trans (reaches_dropComponentEnding hnext)

/-- A record found for a component target is the one of a path that the rules lead to. -/
theorem reaches_of_mem_findingsOf {packages : List String} {f : Finding}
    (hpath : '\n' ∉ path.toList) (h : f ∈ g.findingsOf true target path packages) :
    f.target = target ∧ f.package ∈ packages ∧ g.packageName? f.package = some f.name ∧
      g.manifestOf.find? f.path = some f.record ∧ Reaches path f.path := by
  induction packages generalizing path with
  | nil => simp [findingsOf] at h
  | cons package packages ih =>
    -- What comes after a look-up of this package comes after a look-up of the path.
    have hlater {next : String} {record : Option ManifestRecord}
        (hnext : g.lookUp true path = (next, record))
        (hmem : f ∈ g.findingsOf true target next packages) :
        f.target = target ∧ f.package ∈ package :: packages ∧
          g.packageName? f.package = some f.name ∧ g.manifestOf.find? f.path = some f.record ∧
          Reaches path f.path := by
      have hreaches := reaches_of_lookUp hpath hnext
      obtain ⟨htarget, hpackage, hname, hrecord, hrest⟩ :=
        ih (fun hmem => hpath (hreaches.subset hmem)) hmem
      exact ⟨htarget, List.mem_cons_of_mem _ hpackage, hname, hrecord, hreaches.trans hrest⟩
    rw [findingsOf] at h
    split at h
    · obtain ⟨htarget, hpackage, hrest⟩ := ih hpath h
      exact ⟨htarget, List.mem_cons_of_mem _ hpackage, hrest⟩
    · rename_i name hname
      split at h
      · exact hlater ‹_› h
      · rename_i next r hlookUp
        rcases List.mem_cons.1 h with rfl | h
        · exact ⟨rfl, by simp, hname, find?_of_lookUp_eq_some hlookUp,
            reaches_of_lookUp hpath hlookUp⟩
        · exact hlater hlookUp h

theorem component_of_mem_linksOf {package : String} {r : ManifestRecord} {l : ManifestLink}
    (hr : '\n' ∉ r.component.toList) (h : l ∈ g.linksOf useHeuristics base package path r) :
    l.package = package ∧ (l.component = r.component ∨
      (∃ parts, g.partsOf.find? path = some parts ∧ l.component ∈ parts) ∨
      IsShortOf l.component r.component) := by
  simp only [linksOf, List.cons_append, List.mem_cons, List.mem_append, List.mem_map] at h
  rcases h with rfl | ⟨part, hpart, rfl⟩ | h
  · exact ⟨rfl, .inl rfl⟩
  · exact ⟨rfl, .inr (.inl (OrderedMap.exists_of_mem_getD hpart))⟩
  · split at h
    · rename_i hshort
      obtain rfl := List.mem_singleton.1 h
      rcases shortName_eq_or_isShortOf hr with heq | his
      · simp [heq] at hshort
      · exact ⟨rfl, .inr (.inr his)⟩
    · simp at h

/-- With heuristics, an identifier that leads to a manifest names a component in a package of some
component target. The manifest is the one of a record under a path that the rules lead to from this
target, and the component is the one that the record names, a part of that path, or the component
of the record without a known ending. -/
theorem exists_related_of_manifest? (settings : Settings) (base : Path) (g : BuildGraph)
    (hkeys : ∀ entry ∈ g.packagesOf.toList, '\n' ∉ entry.1.toList)
    (hnames : ∀ entry ∈ g.manifestOf.toList, '\n' ∉ entry.2.component.toList)
    {id : String} {manifest : Path}
    (h : (g.manifestTable { settings with
      usesHeuristics := true, normalizesSeparators := false } base).manifest? id = some manifest) :
    ∃ target packages package name path r component,
      g.packagesOf.find? target = some packages ∧ package ∈ packages ∧
      g.nameOf.find? package = some name ∧ name ≠ "" ∧
      Reaches target path ∧ g.manifestOf.find? path = some r ∧
      manifest = manifestLocation base r.manifest ∧ id = identifier name component ∧
      (component = r.component ∨
        (∃ parts, g.partsOf.find? path = some parts ∧ component ∈ parts) ∨
        IsShortOf component r.component) := by
  obtain ⟨l, hl, rfl⟩ := ManifestTable.manifest?_ofLinks_eq_some_iff.1 h
  have hid : l.identifier = id := by simpa using hl.holds
  have hmem : l ∈ g.links true base := hl.mem
  rw [links_eq_flatMap_findings] at hmem
  obtain ⟨f, hf, hlinks⟩ := List.mem_flatMap.1 hmem
  obtain ⟨⟨target, packages⟩, hentry, hfound⟩ := List.mem_flatMap.1 hf
  have hpackages := OrderedMap.find?_eq_some_iff.2 hentry
  obtain ⟨-, hpackage, hname, hrecord, hreaches⟩ :=
    reaches_of_mem_findingsOf (hkeys _ hentry) hfound
  obtain ⟨hnamed, hne⟩ := packageName?_eq_some_iff.1 hname
  obtain ⟨hin, hcomponent⟩ := component_of_mem_linksOf
    (hnames _ (OrderedMap.find?_eq_some_iff.1 hrecord)) hlinks
  exact ⟨target, packages, f.package, f.name, f.path, f.record, l.component, hpackages, hpackage,
    hnamed, hne, hreaches, hrecord, (manifest_of_mem_linksOf hlinks).1,
    by rw [← hid, ManifestLink.identifier, hin], hcomponent⟩

/-- A graph of a component target in two packages; its record is found after two look-ups. -/
def rewrittenTwice : BuildGraph :=
  { empty with
    packagesOf := .ofList [("d:test_a_component_component", ["d:p", "d:q"])]
    manifestOf := .ofList [("d:a", ⟨"d:a", "a_component", "m/a.cml"⟩)]
    nameOf := .ofList [("d:p", "p"), ("d:q", "q")] }

/-- In the second package the component is found, also without its ending. -/
theorem exists_related_rewrittenTwice :
    (∀ entry ∈ rewrittenTwice.packagesOf.toList, '\n' ∉ entry.1.toList) ∧
      (∀ entry ∈ rewrittenTwice.manifestOf.toList, '\n' ∉ entry.2.component.toList) ∧
      (rewrittenTwice.manifestTable { usesHeuristics := true } (.ofString "/fuchsia")).manifest?
          "q/a" = some (.ofString "/fuchsia/m/a.cml") ∧
      ∃ target packages package name path r component,
        rewrittenTwice.packagesOf.find? target = some packages ∧ package ∈ packages ∧
        rewrittenTwice.nameOf.find? package = some name ∧ name ≠ "" ∧
        Reaches target path ∧ rewrittenTwice.manifestOf.find? path = some r ∧
        Path.ofString "/fuchsia/m/a.cml" = manifestLocation (.ofString "/fuchsia") r.manifest ∧
        "q/a" = identifier name component ∧
        (component = r.component ∨
          (∃ parts, rewrittenTwice.partsOf.find? path = some parts ∧ component ∈ parts) ∨
          IsShortOf component r.component) := by
  have hkeys : ∀ entry ∈ rewrittenTwice.packagesOf.toList, '\n' ∉ entry.1.toList := by
    decide +kernel
  have hnames : ∀ entry ∈ rewrittenTwice.manifestOf.toList, '\n' ∉ entry.2.component.toList := by
    decide +kernel
  have hfound : (rewrittenTwice.manifestTable { usesHeuristics := true }
      (.ofString "/fuchsia")).manifest? "q/a" = some (.ofString "/fuchsia/m/a.cml") := by
    decide +kernel
  exact ⟨hkeys, hnames, hfound, exists_related_of_manifest? {} _ _ hkeys hnames hfound⟩

end BuildGraph

end ComponentLinks
