import ComponentLinks.BuildGraph.Resolve
import ComponentLinks.Index
import ComponentLinks.Proofs.Path.Below
import ComponentLinks.Proofs.Path.Detours
import ComponentLinks.Proofs.Table.Manifests

/-!
# Manifests by any spelling of their paths

A manifest is stored under the normalized path of the place where it is. An index finds it by the
path that the dependency log writes, by this path taken from the repository, by the place itself and
by every spelling of these.

## Main definitions

* `LinkIndex.Names`: the paths that name a manifest.
* `LinkIndex.normalized_join_of_names`: all of them lead to the place of the manifest.
* `LinkIndex.identifierOf?_of_names`: the answers for all of them.
-/
namespace ComponentLinks.LinkIndex

open BuildGraph (manifestLocation)

/-- The texts that write out where a manifest is: the path in the log, this path taken from the
repository, and the place of the manifest. -/
def WritesPlace (base : Path) (p s : String) : Prop :=
  s = p ∨ s = (base.join (.ofString p)).toString ∨ s = (manifestLocation base p).toString

/-- The paths that name a manifest which is written as `p` in the log of a repository: the written
path, this path taken from the repository, the place of the manifest, and the spellings of all three
by themselves or from the repository. -/
inductive Names (base : Path) (p : String) : Path → Prop
  | written : Names base p (.ofString p)
  | joined : Names base p (base.join (.ofString p))
  | location : Names base p (manifestLocation base p)
  | respelled {q s : String} (hs : WritesPlace base p s) (h : Path.Respelled q s) :
      Names base p (.ofString q)
  | fromBase {q s : String} (hs : WritesPlace base p s)
      (h : Path.Respelled (joinPaths base.toString q) s) : Names base p (.ofString q)

variable {base : Path} {b p : String} {manifest : Path}

theorem isAbsolute_manifestLocation (habs : base.isAbsolute = true) (p : String) :
    (manifestLocation base p).isAbsolute = true :=
  Path.isAbsolute_join habs

/-- A place that is normalized once stays as it is. -/
theorem normalized_manifestLocation (base : Path) (p : String) :
    (manifestLocation base p).normalized = manifestLocation base p :=
  Path.normalized_normalized _

theorem normalized_join_ofString_of_writesPlace {s : String} (habs : base.isAbsolute = true)
    (h : WritesPlace base p s) :
    (base.join (.ofString s)).normalized = manifestLocation base p := by
  rcases h with rfl | rfl | rfl
  · rfl
  · rw [Path.ofString_toString, Path.join_of_isAbsolute (Path.isAbsolute_join habs),
      manifestLocation]
  · rw [Path.ofString_toString, Path.join_of_isAbsolute (isAbsolute_manifestLocation habs p),
      normalized_manifestLocation]

/-- Every path that names a manifest leads to the place of the manifest. -/
theorem normalized_join_of_names (habs : base.isAbsolute = true) (h : Names base p manifest) :
    (base.join manifest).normalized = manifestLocation base p := by
  cases h with
  | written => rfl
  | joined => rw [Path.join_of_isAbsolute (Path.isAbsolute_join habs), manifestLocation]
  | location =>
    rw [Path.join_of_isAbsolute (isAbsolute_manifestLocation habs p), normalized_manifestLocation]
  | respelled hs h =>
    rw [Path.normalized_join_ofString_of_respelled h base]
    exact normalized_join_ofString_of_writesPlace habs hs
  | @fromBase q s hs h =>
    have hplace := Path.normalized_join_ofString_of_respelled h base
    rw [Path.ofString_joinPaths, Path.ofString_toString,
      Path.join_of_isAbsolute (Path.isAbsolute_join habs)] at hplace
    rw [hplace]
    exact normalized_join_ofString_of_writesPlace habs hs

/-- In an absolute repository, a manifest to which there is a link leads back to the identifier of a
link to its place by every path that names it, and its references are the same by all of them. The
place is normalized, and it is read back from its written form. -/
theorem identifierOf?_of_names (b p : String) (habs : (Path.ofString b).isAbsolute = true)
    (normalizesTable normalizes : Bool) (references : ReferenceTable) (ls : List ManifestLink)
    (hlink : ∃ l ∈ ls, l.manifest = manifestLocation (.ofString b) p) :
    let base := Path.ofString b
    let location := manifestLocation base p
    let x : LinkIndex := ⟨base, .ofLinks normalizesTable ls, references, normalizes⟩
    location.normalized = location ∧ Path.ofString location.toString = location ∧
    ∃ id, (∃ l ∈ ls, l.manifest.normalized = location ∧ l.identifier = id) ∧
      ∀ manifest, Names base p manifest →
        x.identifierOf? manifest = some id ∧ x.referencesTo manifest = x.referencesTo location := by
  intro base location x
  have hlocation : location.normalized = location := normalized_manifestLocation base p
  -- Every path that names the manifest has the same key, so all the answers are that for its place.
  have hfind (manifest : Path) (h : Names base p manifest) :
      x.identifierOf? manifest = x.identifierOf? location := by
    have hkey := (normalized_join_of_names habs h).trans
      (normalized_join_of_names habs .location).symm
    rw [identifierOf?, identifierOf?, ManifestTable.identifierOf?, ManifestTable.identifierOf?,
      hkey]
  obtain ⟨id, hid⟩ : ∃ id, x.identifierOf? location = some id := by
    obtain ⟨l, hl, hmanifest⟩ := hlink
    rw [← Option.ne_none_iff_exists', ne_eq, identifierOf?,
      ManifestTable.identifierOf?_ofLinks_eq_none_iff]
    intro hnone
    refine hnone l hl ?_
    rw [ManifestLink.LeadsTo, hmanifest, normalized_join_of_names habs .location]
    exact hlocation
  refine ⟨hlocation, ?_, id, ?_, fun manifest h => ?_⟩
  · exact Path.ofString_toString location
  · obtain ⟨l, hl, hleads, heq⟩ := ManifestTable.exists_leadsTo_of_identifierOf? hid
    refine ⟨l, hl, ?_, heq⟩
    rw [hleads]
    exact normalized_join_of_names habs .location
  · have hsame := hfind manifest h
    exact ⟨hsame.trans hid, by rw [referencesTo, referencesTo, hsame]⟩

/-- A path with a detour of each kind is a spelling of the path without them. -/
theorem respelled_detours : Path.Respelled "//r/src/.//x/../a.cml" "//r/src/a.cml" := by
  have hlonger : Path.writtenSegments "//r/src/.//x/../a.cml" =
      ["r".toList, "src".toList, ".".toList, [], "x".toList, "..".toList, "a.cml".toList] := by
    decide +kernel
  have hshorter : Path.writtenSegments "//r/src/a.cml" =
      ["r".toList, "src".toList, "a.cml".toList] := by
    decide +kernel
  refine ⟨by decide +kernel, ?_⟩
  rw [hlonger, hshorter]
  have hback : Path.AddsDetour ["r".toList, "src".toList, "a.cml".toList]
      ["r".toList, "src".toList, "x".toList, "..".toList, "a.cml".toList] :=
    ⟨["r".toList, "src".toList], _, ["a.cml".toList], .back (by decide +kernel), rfl, rfl⟩
  have hslash : Path.AddsDetour ["r".toList, "src".toList, "x".toList, "..".toList, "a.cml".toList]
      ["r".toList, "src".toList, [], "x".toList, "..".toList, "a.cml".toList] :=
    ⟨["r".toList, "src".toList], _, ["x".toList, "..".toList, "a.cml".toList], .slash, rfl, rfl⟩
  have hhere : Path.AddsDetour
      ["r".toList, "src".toList, [], "x".toList, "..".toList, "a.cml".toList]
      ["r".toList, "src".toList, ".".toList, [], "x".toList, "..".toList, "a.cml".toList] :=
    ⟨["r".toList, "src".toList], _, [[], "x".toList, "..".toList, "a.cml".toList], .here, rfl, rfl⟩
  exact .symm _ _ (.trans _ _ _ (.rel _ _ hback) (.trans _ _ _ (.rel _ _ hslash) (.rel _ _ hhere)))

/-- In a repository below exactly two slashes, a manifest that two components share is found by its
path with detours. -/
theorem identifierOf?_of_names_doubleRoot :
    let location : Path := .ofString "//r/src/a.cml"
    let ls : List ManifestLink := [⟨"p", "c", location, false⟩, ⟨"p", "d", location, true⟩]
    let x : LinkIndex := ⟨.ofString "//r", .ofLinks false ls, .empty false, false⟩
    (Path.ofString "//r").isAbsolute = true ∧
    (∃ l ∈ ls, l.manifest = manifestLocation (.ofString "//r") "m/../src/a.cml") ∧
    ∃ id, (∃ l ∈ ls, l.manifest.normalized = location ∧ l.identifier = id) ∧
      x.identifierOf? (.ofString "//r/src/.//x/../a.cml") = some id ∧
      x.identifierOf? (.ofString "m/../src/a.cml") = some id := by
  intro location ls x
  have hbase : Path.ofString "//r" = .ofString "//r" := by decide +kernel
  have hlocation : manifestLocation (.ofString "//r") "m/../src/a.cml" = location := by
    decide +kernel
  have habs : (Path.ofString "//r").isAbsolute = true := by decide +kernel
  have hlink : ∃ l ∈ ls, l.manifest = manifestLocation (.ofString "//r") "m/../src/a.cml" :=
    ⟨_, List.mem_cons_self, hlocation.symm⟩
  have htext : (manifestLocation (.ofString "//r") "m/../src/a.cml").toString =
      "//r/src/a.cml" := by
    decide +kernel
  obtain ⟨-, -, id, hid, hfound⟩ := identifierOf?_of_names "//r" "m/../src/a.cml" habs false false
    (.empty false) ls hlink
  rw [hlocation] at hid
  rw [hbase] at hfound
  refine ⟨habs, hlink, id, hid, (hfound _ (.respelled ?_ respelled_detours)).1,
    (hfound _ .written).1⟩
  rw [← hbase]
  exact .inr (.inr htext.symm)

end ComponentLinks.LinkIndex
