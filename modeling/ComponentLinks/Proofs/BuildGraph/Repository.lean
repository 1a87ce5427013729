import ComponentLinks.Proofs.BuildGraph.TwoWay
import ComponentLinks.Proofs.Path.Below

/-!
# Manifests in the repository

Every manifest in the table of a log has an absolute, normalized path. It is the path that a command
of the log writes, taken from the repository or from its directory of generated files. So it stays
in the repository unless the written path leads out: by going up too many steps, or because a second
slash after the root makes it an absolute path.

## Main definitions

* `Recognized.record?`, `Recognized.manifest?`: what a command says about a manifest.
* `ManifestRoot.directory`: where the written path starts.
* `BuildGraph.exists_of_find?_manifestOf`: the command that a record comes from.
* `BuildGraph.isBelow_iff_of_survey`: which manifests are in the repository.
* `BuildGraph.doubledLog`: a log with a manifest outside.
-/
namespace ComponentLinks

/-! ## What commands say about manifests -/

namespace Recognized

/-- The record that a statement gives, if it gives one. -/
def record? (buildDir : String) : Recognized → Option ManifestRecord
  | validation v => some (v.record buildDir)
  | compilation c => some c.record
  | _ => none

def manifest? : Recognized → Option (ManifestRoot × Path)
  | validation v => some (v.root, .ofString v.manifest)
  | compilation c => some (.source, .ofString c.manifest)
  | _ => none

end Recognized

namespace ManifestRoot

/-- The steps that lead down to a root from the repository. -/
def steps (buildDir : String) : ManifestRoot → List String
  | source => []
  | generated => (Path.ofString buildDir).segments ++ ["obj"]

theorem isSegment_of_mem_steps {buildDir : String} {root : ManifestRoot} {s : String}
    (h : s ∈ root.steps buildDir) : Path.IsSegment s := by
  cases root with
  | source => exact absurd h List.not_mem_nil
  | generated =>
    rcases List.mem_append.1 h with h | h
    · exact (Path.ofString buildDir).isSegment s h
    · obtain rfl := List.mem_singleton.1 h
      decide

def directory (base : Path) (buildDir : String) (root : ManifestRoot) : Path :=
  base.extend (root.steps buildDir) fun _ => isSegment_of_mem_steps

theorem up_not_mem_steps {buildDir : String} (hup : ".." ∉ (Path.ofString buildDir).segments)
    (root : ManifestRoot) : ".." ∉ root.steps buildDir := by
  cases root with
  | source => simp [steps]
  | generated => simpa [steps] using hup

end ManifestRoot

/-- The path of a record is the written one, taken from its root. -/
theorem Recognized.exists_join_eq {s : Recognized} {buildDir : String} {r : ManifestRecord}
    (hdir : (Path.ofString buildDir).isAbsolute = false) (h : s.record? buildDir = some r)
    (base : Path) :
    ∃ root path, s.manifest? = some (root, path) ∧
      base.join (.ofString r.manifest) = (root.directory base buildDir).join path := by
  have hsource (manifest : String) : base.join (.ofString manifest) =
      (ManifestRoot.source.directory base buildDir).join (.ofString manifest) := by
    simp [ManifestRoot.directory, ManifestRoot.steps, Path.extend]
  cases s with
  | compilation c =>
    obtain rfl := Option.some.inj h
    exact ⟨.source, _, rfl, hsource _⟩
  | validation v =>
    obtain rfl := Option.some.inj h
    refine ⟨v.root, _, rfl, ?_⟩
    rw [Validation.record, Validation.sourceManifest]
    cases hroot : v.root with
    | source => exact hsource _
    | generated =>
      have hobj : Path.ofString "obj" = ⟨.relative, ["obj"], by decide⟩ := by decide +kernel
      rw [Path.ofString_joinPaths, Path.ofString_joinPaths, hobj]
      -- An absolute path drops whatever it is taken from.
      cases hwritten : (Path.ofString v.manifest).isAbsolute with
      | true => rw [Path.join_of_isAbsolute hwritten, Path.join_of_isAbsolute hwritten,
          Path.join_of_isAbsolute hwritten]
      | false =>
        have hanchor {p : Path} (hp : p.isAbsolute = false) : p.anchor = .relative := by
          simpa [Path.isAbsolute] using hp
        refine Path.ext ?_ ?_ <;>
          simp [Path.join, Path.isAbsolute, hanchor hdir, hanchor hwritten,
            ManifestRoot.directory, ManifestRoot.steps]
  | packageAssembly | subComponents | packageNaming => simp [record?] at h

namespace ManifestTable

theorem exists_of_mem_keys_reverse {normalizes : Bool} {ls : List ManifestLink} {manifest : Path}
    (h : manifest ∈ (ofLinks normalizes ls).reverse.keys) :
    ∃ l ∈ ls, l.manifest.normalized = manifest := by
  induction ls using List.reverseRecOn with
  | nil => simp [empty] at h
  | append_singleton ls k ih =>
    rw [ofLinks_append_singleton, add, recordOwner] at h
    split at h
    · obtain ⟨l, hl, heq⟩ := ih h
      exact ⟨l, List.mem_append_left _ hl, heq⟩
    · rw [OrderedMap.keys_insert] at h
      split at h
      · obtain ⟨l, hl, heq⟩ := ih h
        exact ⟨l, List.mem_append_left _ hl, heq⟩
      · rcases List.mem_append.1 h with h | h
        · obtain ⟨l, hl, heq⟩ := ih h
          exact ⟨l, List.mem_append_left _ hl, heq⟩
        · exact ⟨k, by simp, (List.mem_singleton.1 h).symm⟩

end ManifestTable

namespace BuildGraph

variable {base : Path} {reporting : Bool} {buildDir target : String}

theorem find?_manifestOf_add (g : BuildGraph) (s : Recognized) :
    (g.add reporting buildDir s).manifestOf.find? target =
      ((s.record? buildDir).filter fun r => r.target = target).or (g.manifestOf.find? target) := by
  have hinsert (r : ManifestRecord) : (g.addManifest reporting r).manifestOf.find? target =
      ((some r).filter fun r => r.target = target).or (g.manifestOf.find? target) := by
    by_cases htarget : r.target = target <;> simp [addManifest, Option.filter, htarget]
  cases s with
  | validation v => exact hinsert _
  | compilation c => exact hinsert _
  | packageAssembly | subComponents | packageNaming => rfl

theorem ofRecognized_append_singleton (rs : List Recognized) (s : Recognized) :
    ofRecognized reporting buildDir (rs ++ [s]) =
      (ofRecognized reporting buildDir rs).add reporting buildDir s := by
  simp [ofRecognized]

/-- A record of a graph comes from one of the commands. -/
theorem exists_of_find?_manifestOf {rs : List Recognized} {r : ManifestRecord}
    (h : (ofRecognized reporting buildDir rs).manifestOf.find? target = some r) :
    ∃ s ∈ rs, s.record? buildDir = some r := by
  induction rs using List.reverseRecOn with
  | nil => simp [ofRecognized, empty] at h
  | append_singleton rs s ih =>
    rw [ofRecognized_append_singleton, find?_manifestOf_add, Option.or_eq_some_iff] at h
    rcases h with hnew | ⟨-, hbefore⟩
    · exact ⟨s, by simp, (Option.filter_eq_some_iff.1 hnew).1⟩
    · obtain ⟨s', hmem, hs'⟩ := ih hbefore
      exact ⟨s', List.mem_append_left _ hmem, hs'⟩

/-- A manifest in the table of a log that was surveyed with success has an absolute, normalized
path. It is the one that a command of the log writes, taken from its root; and it is in the
repository exactly if the written path leads into it from there. A relative path does so if it does
not go up more steps than the root is below the repository. -/
theorem isBelow_iff_of_survey (settings : Settings) {threshold : Level} {files : Files}
    {log : List Char} (habs : base.isAbsolute = true) (hbase : base.normalized = base)
    (hdir : (Path.ofString settings.buildDir).isAbsolute = false)
    (hup : ".." ∉ (Path.ofString settings.buildDir).segments)
    (hlog : files.text (logPath settings base).toString = .ok log)
    {table : ManifestTable} (htable : (survey settings threshold files base).table = some table)
    {manifest : Path}
    (hstored : (∃ id, table.manifest? id = some manifest) ∨ manifest ∈ table.reverse.keys) :
    manifest.isAbsolute = true ∧ manifest.normalized = manifest ∧
      ∃ command ∈ recognizedLines (Text.fileLines log), ∃ root path,
        command.manifest? = some (root, path) ∧
        manifest = ((root.directory base settings.buildDir).join path).normalized ∧
        (base.IsBelow manifest ↔
          Path.LeadsInto base (root.steps settings.buildDir).length path) ∧
        (path.isAbsolute = false → path.rise ≤ (root.steps settings.buildDir).length →
          base.IsBelow manifest) := by
  obtain rfl := eq_manifestTable_of_survey hlog htable
  -- The way back is kept under the normalized path of a link's manifest.
  obtain ⟨l, hl, hmanifest⟩ : ∃ l ∈ (ofLines (threshold = .debug) settings.buildDir
      (Text.fileLines log)).links settings.usesHeuristics base,
      l.manifest = manifest ∨ l.manifest.normalized = manifest := by
    rcases hstored with ⟨id, hid⟩ | hkey
    · obtain ⟨l, hl, heq⟩ := ManifestTable.manifest?_ofLinks_eq_some_iff.1 hid
      exact ⟨l, hl.mem, .inl heq⟩
    · obtain ⟨l, hl, heq⟩ := ManifestTable.exists_of_mem_keys_reverse hkey
      exact ⟨l, hl, .inr heq⟩
  obtain ⟨-, -, -, -, name, found, r, -, hr, hmem, -⟩ := exists_linksOf_of_mem_links hl
  obtain ⟨command, hcommand, hrecord⟩ := exists_of_find?_manifestOf hr
  obtain ⟨root, path, hwritten, hjoin⟩ := Recognized.exists_join_eq hdir hrecord base
  have hlocation : l.manifest = ((root.directory base settings.buildDir).join path).normalized := by
    rw [(manifest_of_mem_linksOf hmem).1, manifestLocation, hjoin]
  obtain rfl : l.manifest = manifest := by
    rcases hmanifest with heq | heq
    · exact heq
    · rw [← heq, hlocation, Path.normalized_normalized]
  have hbelow : base.IsBelow l.manifest ↔
      Path.LeadsInto base (root.steps settings.buildDir).length path := by
    rw [hlocation]
    exact Path.isBelow_normalized_join_iff habs hbase _ (ManifestRoot.up_not_mem_steps hup root)
  refine ⟨?_, ?_, command, hcommand, root, path, hwritten, hlocation, hbelow, ?_⟩
  · rw [hlocation, Path.isAbsolute_normalized]
    exact Path.isAbsolute_join habs
  · rw [hlocation, Path.normalized_normalized]
  · exact fun hpath hrise => hbelow.2 (Path.leadsInto_of_rise_le hpath hrise)

def doubledBase : Path := .ofString "/fuchsia"

/-- A log of two components, of which the command for the first one writes its manifest with a
second slash. -/
def doubledLog : List Char := List.intercalate ['\n']
  ["build obj/d/p/meta.far: r i | obj/d/a.stamp obj/d/b.stamp".toList,
   "command = /cmc compile ../..//m/a.cml --output obj/d/m/a.cm --depfile obj/d/a.d".toList,
   "command = /cmc compile ../../m/b.cml --output obj/d/m/b.cm --depfile obj/d/b.d".toList,
   "command = /pm -o obj/d/p -n n".toList]

def nearManifest : Path := .ofString "/fuchsia/m/b.cml"

def doubledFiles : Files :=
  ⟨[("/fuchsia/out/default/toolchain.ninja", .ok (Text.asciiBytes doubledLog))]⟩

theorem text_doubledFiles :
    doubledFiles.text (logPath {} doubledBase).toString = .ok doubledLog := by
  refine Files.text_of_ascii ?_ ?_ ?_
  · rfl
  · decide +kernel
  · decide +kernel

theorem survey_doubledFiles :
    (survey {} .warning doubledFiles doubledBase).table.map (fun t =>
      (t.manifest? "n/a", t.manifest? "n/b")) =
        some (some (.ofString "/m/a.cml"), some nearManifest) := by
  decide +kernel

/-- The manifest of the second component is in the repository. -/
theorem isBelow_iff_doubledFiles :
    doubledBase.isAbsolute = true ∧ doubledBase.normalized = doubledBase ∧
      (Path.ofString "out/default").isAbsolute = false ∧
      ".." ∉ (Path.ofString "out/default").segments ∧
      doubledFiles.text (logPath {} doubledBase).toString = .ok doubledLog ∧
      ∃ table, (survey {} .warning doubledFiles doubledBase).table = some table ∧
        table.manifest? "n/b" = some nearManifest ∧
        nearManifest.isAbsolute = true ∧ nearManifest.normalized = nearManifest ∧
        ∃ command ∈ recognizedLines (Text.fileLines doubledLog), ∃ root path,
          command.manifest? = some (root, path) ∧
          nearManifest = ((root.directory doubledBase "out/default").join path).normalized ∧
          (doubledBase.IsBelow nearManifest ↔
            Path.LeadsInto doubledBase (root.steps "out/default").length path) ∧
          (path.isAbsolute = false → path.rise ≤ (root.steps "out/default").length →
            doubledBase.IsBelow nearManifest) := by
  have habs : doubledBase.isAbsolute = true := by decide
  have hbase : doubledBase.normalized = doubledBase := by decide
  have hdir : (Path.ofString "out/default").isAbsolute = false := by decide +kernel
  have hup : ".." ∉ (Path.ofString "out/default").segments := by decide +kernel
  obtain ⟨table, htable, hfound⟩ := Option.map_eq_some_iff.1 survey_doubledFiles
  have hb : table.manifest? "n/b" = some nearManifest :=
    (Prod.mk.inj hfound).2
  exact ⟨habs, hbase, hdir, hup, text_doubledFiles, table, htable, hb,
    isBelow_iff_of_survey {} habs hbase hdir hup text_doubledFiles htable (.inl ⟨"n/b", hb⟩)⟩

/-- The manifest of the first component is outside the repository. -/
theorem not_isBelow_doubledFiles :
    doubledBase.isAbsolute = true ∧ doubledBase.normalized = doubledBase ∧
      (Path.ofString "out/default").isAbsolute = false ∧
      ".." ∉ (Path.ofString "out/default").segments ∧
      ∃ table, (survey {} .warning doubledFiles doubledBase).table = some table ∧
        ∃ manifest, table.manifest? "n/a" = some manifest ∧ ¬ doubledBase.IsBelow manifest := by
  obtain ⟨table, htable, hfound⟩ := Option.map_eq_some_iff.1 survey_doubledFiles
  have ha : table.manifest? "n/a" = some (.ofString "/m/a.cml") := (Prod.mk.inj hfound).1
  refine ⟨by decide, by decide, by decide +kernel, by decide +kernel, table, htable, _, ha, ?_⟩
  decide

end BuildGraph

end ComponentLinks
