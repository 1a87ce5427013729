import ComponentLinks.Proofs.BuildGraph.Join
import Mathlib.Data.List.Forall2

/-!
# Links with and without heuristics

For every component target and package the heuristics keep the links that are made without them and
put further links after these. So no identifier is lost. But the further links are written into the
table like the others: an identifier leads elsewhere than before if the last component target and
package that name it do so by heuristics only.

## Main definitions

* `BuildGraph.Pairing.Names`: whether a component target and a package name an identifier.
* `BuildGraph.runs`: what comes of every component target and package, without and with heuristics.
* `BuildGraph.forall₂_pairings`: the links are kept.
* `BuildGraph.manifest?_of_heuristics`: where the identifiers lead.
* `BuildGraph.shortNameLast`: a graph in which an identifier leads elsewhere with heuristics.
-/
namespace ComponentLinks.BuildGraph

variable {g : BuildGraph} {base : Path}

/-! ## The links that are kept -/

theorem linksOf_false_prefix (package target : String) (r : ManifestRecord) :
    g.linksOf false base package target r <+: g.linksOf true base package target r := by
  simp [linksOf]

theorem links_pairing_prefix {target : String} {r : ManifestRecord}
    (h : g.manifestOf.find? target = some r) (package : String) :
    (g.pairing false base target package).2.links <+:
      (g.pairing true base target package).2.links := by
  simp only [pairing, lookUp_of_find? h]
  cases g.packageName? package with
  | none => exact List.prefix_rfl
  | some name => exact linksOf_false_prefix name target r

theorem links_pairing_eq_nil {target : String} (h : g.manifestOf.find? target = none)
    (package : String) : (g.pairing false base target package).2.links = [] := by
  simp only [pairing, lookUp_false, h]
  cases g.packageName? package <;> rfl

/-- Where there is nothing to keep, it does not matter how the path is rewritten on the way. -/
theorem forall₂_pairingsOf_of_nil {f : String → Pairing} (hf : ∀ package, (f package).links = [])
    (target : String) (packages : List String) :
    List.Forall₂ (fun p q => p.links <+: q.links) (packages.map f)
      (g.pairingsOf true base target packages) := by
  -- The path is general, since each package hands a rewritten one to the next.
  induction packages generalizing target with
  | nil => exact .nil
  | cons package packages ih =>
    have hhead : (f package).links <+: (g.pairing true base target package).2.links := by
      rw [hf]
      exact List.nil_prefix
    exact .cons hhead (ih _)

/-- For every package of a component target the links are kept. -/
theorem forall₂_pairingsOf (target : String) (packages : List String) :
    List.Forall₂ (fun p q => p.links <+: q.links) (g.pairingsOf false base target packages)
      (g.pairingsOf true base target packages) := by
  cases h : g.manifestOf.find? target with
  | none =>
    -- The path may be rewritten, but there is nothing to keep.
    rw [pairingsOf_false]
    exact forall₂_pairingsOf_of_nil (links_pairing_eq_nil h) target packages
  | some r =>
    rw [pairingsOf_of_find? h, pairingsOf_of_find? h, List.forall₂_map_left_iff,
      List.forall₂_map_right_iff, List.forall₂_same]
    exact fun package _ => links_pairing_prefix h package

theorem forall₂_pairings :
    List.Forall₂ (fun p q => p.links <+: q.links) (g.pairings false base)
      (g.pairings true base) := by
  unfold pairings
  induction g.packagesOf.toList with
  | nil => exact .nil
  | cons entry entries ih =>
    exact List.rel_append (forall₂_pairingsOf entry.1 entry.2) ih

/-! ## Both runs side by side -/

/-- Whether one of the links of a component target and a package names an identifier. -/
def Pairing.Names (normalizes : Bool) (id : String) (p : Pairing) : Prop :=
  ∃ l ∈ p.links, l.Names normalizes id

instance (normalizes : Bool) (id : String) (p : Pairing) : Decidable (p.Names normalizes id) :=
  inferInstanceAs (Decidable (∃ l ∈ _, _))

/-- What comes of every component target and package: without heuristics, and with them. -/
def runs (base : Path) (g : BuildGraph) : List (Pairing × Pairing) :=
  (g.pairings false base).zip (g.pairings true base)

@[simp] theorem map_fst_runs : (g.runs base).map Prod.fst = g.pairings false base :=
  List.map_fst_zip forall₂_pairings.length_eq.le

@[simp] theorem map_snd_runs : (g.runs base).map Prod.snd = g.pairings true base :=
  List.map_snd_zip forall₂_pairings.length_eq.ge

theorem links_prefix_of_mem_runs {x : Pairing × Pairing} (h : x ∈ g.runs base) :
    x.1.links <+: x.2.links :=
  List.forall₂_zip forall₂_pairings h

theorem Pairing.Names.of_runs {normalizes : Bool} {id : String} {x : Pairing × Pairing}
    (hx : x ∈ g.runs base) (h : x.1.Names normalizes id) : x.2.Names normalizes id := by
  obtain ⟨l, hl, hid⟩ := h
  exact ⟨l, (links_prefix_of_mem_runs hx).subset hl, hid⟩

/-- On either side an identifier leads to the manifest of the last component target and package that
name it. -/
theorem manifest?_ofLinks_iff_runs {useHeuristics : Bool} {side : Pairing × Pairing → Pairing}
    (hside : (g.runs base).map side = g.pairings useHeuristics base) {normalizes : Bool}
    {id : String} {manifest : Path} :
    (ManifestTable.ofLinks normalizes (g.links useHeuristics base)).manifest? id = some manifest ↔
      ∃ x, IsLast (fun x => (side x).Names normalizes id) (g.runs base) x ∧
        ∃ l ∈ (side x).links, l.manifest = manifest := by
  rw [links, ← hside, List.flatMap_map, ManifestTable.manifest?_ofLinks_flatMap_iff]
  · rfl
  · intro x hx l hl k hk
    exact manifest_eq_of_mem_pairings (hside ▸ List.mem_map_of_mem hx) hl hk

/-- For every component target and package, heuristics put further links after those made without
them, so every identifier that leads to a manifest without heuristics does so with them. It leads to
the manifest of the last component target and package that name it with heuristics, and this is the
same manifest if they also name it without. -/
theorem manifest?_of_heuristics (settings : Settings) (base : Path) (g : BuildGraph) :
    let normalizes := settings.normalizesSeparators
    let plain := g.manifestTable { settings with usesHeuristics := false } base
    let wide := g.manifestTable { settings with usesHeuristics := true } base
    (∀ x ∈ g.runs base, x.1.links <+: x.2.links) ∧
      ∀ id manifest, plain.manifest? id = some manifest →
        ∃ x, IsLast (fun x => x.2.Names normalizes id) (g.runs base) x ∧
          (∃ l ∈ x.2.links, wide.manifest? id = some l.manifest) ∧
          (x.1.Names normalizes id → wide.manifest? id = some manifest) := by
  intro normalizes plain wide
  refine ⟨fun x => links_prefix_of_mem_runs, fun id manifest hplain => ?_⟩
  obtain ⟨y, hy, k, hk, rfl⟩ := (manifest?_ofLinks_iff_runs map_fst_runs).1 hplain
  obtain ⟨x, hx⟩ : ∃ x, IsLast (fun x => x.2.Names normalizes id) (g.runs base) x :=
    exists_isLast_iff.2 ⟨y, hy.mem, hy.holds.of_runs hy.mem⟩
  have hwide {l : ManifestLink} (hl : l ∈ x.2.links) : wide.manifest? id = some l.manifest :=
    (manifest?_ofLinks_iff_runs map_snd_runs).2 ⟨x, hx, l, hl, rfl⟩
  obtain ⟨l, hl, -⟩ := hx.holds
  refine ⟨x, hx, ⟨l, hl, hwide hl⟩, fun hnames => ?_⟩
  -- What names the identifier last with heuristics does so without them, and is last there too.
  have hlast : IsLast (fun x => x.1.Names normalizes id) (g.runs base) x :=
    hx.of_imp (fun z hz h => h.of_runs hz) hnames
  obtain rfl := hlast.unique hy
  exact hwide ((links_prefix_of_mem_runs hx.mem).subset hk)

/-- A graph of two components of one package, of which the short name of the second is the name of
the first. -/
def shortNameLast : BuildGraph :=
  { empty with
    packagesOf := .ofList [("d:c", ["d:p"]), ("d:k", ["d:p"])]
    manifestOf := .ofList
      [("d:c", ⟨"d:c", "c", "m/c.cml"⟩), ("d:k", ⟨"d:k", "c_component", "m/k.cml"⟩)]
    nameOf := .ofList [("d:p", "n")] }

/-- The identifier of the first component leads to its manifest without heuristics, and to the
manifest of the second one with them. -/
theorem manifest?_shortNameLast :
    (shortNameLast.manifestTable { usesHeuristics := false } (.ofString "/fuchsia")).manifest?
          "n/c" = some (.ofString "/fuchsia/m/c.cml") ∧
      (shortNameLast.manifestTable { usesHeuristics := true } (.ofString "/fuchsia")).manifest?
          "n/c" = some (.ofString "/fuchsia/m/k.cml") ∧
      (shortNameLast.manifestTable { usesHeuristics := true } (.ofString "/fuchsia")).manifest?
          "n/c" ≠ some (.ofString "/fuchsia/m/c.cml") := by
  refine ⟨?_, ?_, ?_⟩ <;> decide +kernel

end ComponentLinks.BuildGraph
