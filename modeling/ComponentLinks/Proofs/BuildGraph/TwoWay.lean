import ComponentLinks.BuildGraph.Survey
import ComponentLinks.Index
import ComponentLinks.Proofs.BuildGraph.Links
import ComponentLinks.Proofs.Path
import ComponentLinks.Proofs.Text.Ascii

/-!
# Both directions of an index

An index is a two-way index if every identifier that a manifest leads back to leads to that
manifest again. What a manifest leads back to is never taken away: where the identifier of a
manifest's last owner is linked to another manifest afterwards, the way back is stale. Nothing else
goes wrong, so the indexes that are two-way are those of logs in which no owner is overtaken so.

## Main definitions

* `LinkIndex.IsTwoWay`: whether an index is a two-way index.
* `BuildGraph.exists_owns_of_mem_links`: every linked manifest has an owner.
* `BuildGraph.isTwoWay_iff_of_survey`: which logs have a two-way index.
* `BuildGraph.twinsLog`: a log whose index is not a two-way index.
-/
namespace ComponentLinks

/-- Whether every identifier that a manifest leads back to leads to that manifest again, whatever
spelling the paths have. -/
def LinkIndex.IsTwoWay (x : LinkIndex) : Prop :=
  ∀ manifest id, x.identifierOf? manifest = some id →
    ∃ found, x.resolve id = some found ∧
      found.normalized = (x.base.join manifest).normalized

namespace ManifestTable

variable {normalizes : Bool} {ls : List ManifestLink}

/-- Where every linked manifest has an owner, a manifest leads back to its last owner. -/
theorem identifierOf?_ofLinks_eq_some_iff
    (howned : ∀ l ∈ ls, ∃ k ∈ ls, k.Owns l.manifest) {manifest : Path} {id : String} :
    (ofLinks normalizes ls).identifierOf? manifest = some id ↔
      ∃ l, IsLast (·.Owns manifest) ls l ∧ l.identifier = id := by
  constructor
  · intro h
    -- Some link leads to the manifest, so some link owns it.
    obtain ⟨l, hl, hto⟩ : ∃ l ∈ ls, l.LeadsTo manifest := by
      by_contra hnone
      rw [identifierOf?_ofLinks_eq_none_iff.2 (by simpa using hnone)] at h
      simp at h
    obtain ⟨k, hk, howns⟩ := howned l hl
    have hk' : k.Owns manifest := ⟨howns.1, howns.2.trans hto⟩
    obtain ⟨last, hlast⟩ := exists_isLast_iff.2 ⟨k, hk, hk'⟩
    refine ⟨last, hlast, ?_⟩
    rw [identifierOf?_ofLinks_of_isLast hlast] at h
    exact Option.some.inj h
  · rintro ⟨l, hl, rfl⟩
    exact identifierOf?_ofLinks_of_isLast hl

/-- The identifier of a link leads to the manifest of the last link that names it, also where
other spellings are tried. -/
theorem resolve_ofTables_identifier {base : Path} {references : Option ReferenceTable}
    {l : ManifestLink} (hl : l ∈ ls) {manifest : Path} :
    (LinkIndex.ofTables base normalizes (some (ofLinks normalizes ls)) references).resolve
        l.identifier = some manifest ↔
      ∃ k, IsLast (·.Names normalizes l.identifier) ls k ∧ k.manifest = manifest := by
  obtain ⟨k, hk⟩ := exists_isLast_iff.2 ⟨l, hl, l.names_identifier normalizes⟩
  have hknown : (ofLinks normalizes ls).manifest? l.identifier = some k.manifest :=
    manifest?_ofLinks_eq_some_iff.2 ⟨k, hk, rfl⟩
  rw [← manifest?_ofLinks_eq_some_iff]
  simp [LinkIndex.resolve, LinkIndex.ofTables, LinkIndex.eitherSpelling, hknown]

end ManifestTable

namespace BuildGraph

variable {g : BuildGraph} {useHeuristics : Bool} {base : Path}

/-- Every link of a graph leads to the manifest of a record, and some link owns that manifest. -/
theorem exists_owns_of_mem_links {l : ManifestLink} (h : l ∈ g.links useHeuristics base) :
    (∃ manifest, l.manifest = manifestLocation base manifest) ∧
      ∃ k ∈ g.links useHeuristics base, k.Owns l.manifest := by
  obtain ⟨-, -, -, -, name, found, r, -, -, hl, hlinks⟩ := exists_linksOf_of_mem_links h
  obtain ⟨hmanifest, -⟩ := manifest_of_mem_linksOf hl
  refine ⟨⟨r.manifest, hmanifest⟩, ownLink base name r, hlinks _ ownLink_mem_linksOf, rfl, ?_⟩
  rw [ManifestLink.LeadsTo, hmanifest]
  rfl

/-- The index of a graph's links is a two-way index exactly if the last owner of each manifest
names an identifier that no later link takes to another manifest. -/
theorem isTwoWay_ofTables_iff {normalizes : Bool} {references : Option ReferenceTable} :
    (LinkIndex.ofTables base normalizes
        (some (.ofLinks normalizes (g.links useHeuristics base))) references).IsTwoWay ↔
      ∀ l k, IsLast (·.Owns l.manifest) (g.links useHeuristics base) l →
        IsLast (·.Names normalizes l.identifier) (g.links useHeuristics base) k →
        k.LeadsTo l.manifest := by
  have howned : ∀ l ∈ g.links useHeuristics base,
      ∃ k ∈ g.links useHeuristics base, k.Owns l.manifest :=
    fun l hl => (exists_owns_of_mem_links hl).2
  have hback {manifest : Path} {id : String} : (LinkIndex.ofTables base normalizes
      (some (.ofLinks normalizes (g.links useHeuristics base))) references).identifierOf?
        manifest = some id ↔ ∃ l, IsLast (·.Owns (base.join manifest))
          (g.links useHeuristics base) l ∧ l.identifier = id :=
    ManifestTable.identifierOf?_ofLinks_eq_some_iff howned
  constructor
  · intro htwo l k hl hk
    -- The manifest has to be asked for by a path: the one of the record that gave the link.
    obtain ⟨manifest, hmanifest⟩ := (exists_owns_of_mem_links hl.mem).1
    have hlast : IsLast (·.Owns (base.join (.ofString manifest)))
        (g.links useHeuristics base) l := by
      simpa [ManifestLink.Owns, ManifestLink.LeadsTo, hmanifest, manifestLocation] using hl
    obtain ⟨found, hfound, hsame⟩ := htwo (.ofString manifest) l.identifier
      (hback.2 ⟨l, hlast, rfl⟩)
    obtain ⟨k', hk', rfl⟩ := (ManifestTable.resolve_ofTables_identifier hl.mem).1 hfound
    obtain rfl := hk.unique hk'
    rw [ManifestLink.LeadsTo, hsame, hmanifest, manifestLocation, Path.normalized_normalized]
    rfl
  · intro h manifest id hid
    obtain ⟨l, hl, rfl⟩ := hback.1 hid
    have hto : l.manifest.normalized = (base.join manifest).normalized := hl.holds.2
    obtain ⟨k, hk⟩ := exists_isLast_iff.2 ⟨l, hl.mem, l.names_identifier normalizes⟩
    refine ⟨k.manifest, (ManifestTable.resolve_ofTables_identifier hl.mem).2 ⟨k, hk, rfl⟩, ?_⟩
    have hlast : IsLast (·.Owns l.manifest) (g.links useHeuristics base) l := by
      simpa [ManifestLink.Owns, ManifestLink.LeadsTo, hto] using hl
    exact (h l k hlast hk).trans hto

/-- The table of a log that was surveyed with success is the table of its graph. -/
theorem eq_manifestTable_of_survey {settings : Settings} {threshold : Level} {files : Files}
    {log : List Char} (hlog : files.text (logPath settings base).toString = .ok log)
    {table : ManifestTable} (htable : (survey settings threshold files base).table = some table) :
    table = (ofLines (threshold = .debug) settings.buildDir (Text.fileLines log)).manifestTable
      settings base := by
  simp only [survey, hlog, surveyLines] at htable
  split at htable
  · exact (Option.some.inj htable).symm
  · simp at htable

/-- The index of a log that was surveyed with success is a two-way index exactly if, for the last
link that owns a manifest, the last link that names its identifier leads to the same manifest. -/
theorem isTwoWay_iff_of_survey {settings : Settings} {threshold : Level} {files : Files}
    {log : List Char} (hlog : files.text (logPath settings base).toString = .ok log)
    {table : ManifestTable} (htable : (survey settings threshold files base).table = some table)
    (references : Option ReferenceTable) :
    let links := (ofLines (threshold = .debug) settings.buildDir (Text.fileLines log)).links
      settings.usesHeuristics base
    (LinkIndex.ofTables base settings.normalizesSeparators (some table) references).IsTwoWay ↔
      ∀ l k, IsLast (·.Owns l.manifest) links l →
        IsLast (·.Names settings.normalizesSeparators l.identifier) links k →
        k.LeadsTo l.manifest := by
  intro links
  rw [eq_manifestTable_of_survey hlog htable, manifestTable]
  exact isTwoWay_ofTables_iff

def twinsBase : Path := .ofString "/fuchsia"

/-- A log of two components of one package that have one name, but each a manifest of its own. -/
def twinsLog : List Char := List.intercalate ['\n']
  ["build obj/d/p/meta.far: r i | obj/d/a.stamp obj/d/b.stamp".toList,
   "command = /cmc compile ../../m/c.cml --output obj/d/m/c.cm --depfile obj/d/a.d".toList,
   "command = /cmc compile ../../k/c.cml --output obj/d/k/c.cm --depfile obj/d/b.d".toList,
   "command = /pm -o obj/d/p -n n".toList]

def twinsFiles : Files :=
  ⟨[("/fuchsia/out/default/toolchain.ninja", .ok (Text.asciiBytes twinsLog))]⟩

theorem text_twinsFiles :
    twinsFiles.text (logPath {} twinsBase).toString = .ok twinsLog := by
  refine Files.text_of_ascii ?_ ?_ ?_
  · rfl
  · decide +kernel
  · decide +kernel

/-- The survey of the log succeeds, and the manifest of the first component leads back to the
identifier, which leads to the manifest of the second one. -/
theorem survey_twinsFiles :
    (survey {} .warning twinsFiles twinsBase).table.map (fun t =>
      (t.identifierOf? (.ofString "/fuchsia/m/c.cml"), t.manifest? "n/c")) =
        some (some "n/c", some (.ofString "/fuchsia/k/c.cml")) := by
  decide +kernel

theorem isTwoWay_iff_of_survey_twinsFiles :
    twinsFiles.text (logPath {} twinsBase).toString = .ok twinsLog ∧
      ∃ table, (survey {} .warning twinsFiles twinsBase).table = some table ∧
        let links := (ofLines false "out/default" (Text.fileLines twinsLog)).links false twinsBase
        ((LinkIndex.ofTables twinsBase false (some table) none).IsTwoWay ↔
          ∀ l k, IsLast (·.Owns l.manifest) links l →
            IsLast (·.Names false l.identifier) links k → k.LeadsTo l.manifest) := by
  obtain ⟨table, htable, -⟩ := Option.map_eq_some_iff.1 survey_twinsFiles
  exact ⟨text_twinsFiles, table, htable, isTwoWay_iff_of_survey text_twinsFiles htable none⟩

/-- The manifest of the first component leads back to an identifier that leads elsewhere. -/
theorem not_isTwoWay_twinsFiles :
    ∃ table, (survey {} .warning twinsFiles twinsBase).table = some table ∧
      ¬ (LinkIndex.ofTables twinsBase false (some table) none).IsTwoWay := by
  obtain ⟨table, htable, hways⟩ := Option.map_eq_some_iff.1 survey_twinsFiles
  obtain ⟨hback, hforth⟩ := Prod.mk.inj hways
  refine ⟨table, htable, fun htwo => ?_⟩
  obtain ⟨found, hfound, hsame⟩ := htwo (.ofString "/fuchsia/m/c.cml") "n/c" hback
  have helsewhere : found = .ofString "/fuchsia/k/c.cml" := by
    simpa [LinkIndex.resolve, LinkIndex.ofTables, LinkIndex.eitherSpelling, hforth] using
      hfound.symm
  have hdiffer : (Path.ofString "/fuchsia/k/c.cml").normalized ≠
      (Path.ofString "/fuchsia/m/c.cml").normalized := by
    decide +kernel
  rw [helsewhere] at hsame
  exact hdiffer hsame

end BuildGraph

end ComponentLinks
