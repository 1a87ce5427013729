import ComponentLinks.Proofs.BuildGraph.Component
import ComponentLinks.Proofs.Search.Output
import ComponentLinks.Proofs.Spelling
import ComponentLinks.Proofs.Text.Ascii
import ComponentLinks.Proofs.Url
import ComponentLinks.Workspace

/-!
# A component from end to end

A repository whose log tells of one component, and in which the component is mentioned, is indexed
with success: the identifiers of the component and of its part lead to the manifest, and the
manifest leads back to the component and to every place where the component is mentioned.

## Main definitions

* `Search.WrittenHit`: a hit with the URLs mentioned in it.
* `Search.referencesIn`: the places where a component is mentioned.
* `Workspace.exists_refresh_of_component`: the index of a repository with one component.
-/
namespace ComponentLinks

open ComponentUrl (places textOf)
open Statement (DependentBuild NamingForm ValidationForm cmx_mem_manifestEndings
  noWordEnds_of_not_isInfix not_namesDestination_of_not_isInfix source_mem_manifestRoots)

namespace Search

/-- A hit of a search, with its text written as the URLs mentioned in it and the text `tail` after
the last one. Lines are counted from zero. -/
structure WrittenHit where
  path : List Char
  line : Nat
  mentions : List ComponentUrl.Mention
  tail : List Char
  apart : ComponentUrl.IsApart mentions tail

namespace WrittenHit

def hit (h : WrittenHit) : Hit := ⟨h.path, h.line, textOf h.mentions h.tail⟩

def reference (base : Path) (h : WrittenHit) (p : ComponentUrl.Mention × Nat) : Reference where
  source := base.join (.ofString (String.ofList h.path))
  line := h.line
  column := p.2
  length := p.1.url.text.length

end WrittenHit

/-- The places where hits mention a component. -/
def referencesIn (normalizes : Bool) (base : Path) (hits : List WrittenHit) (id : String) :
    List Reference :=
  hits.flatMap fun h => ((places 0 h.mentions).filter fun p =>
    ReferenceTable.Counts normalizes id p.1.url.identifier).map (h.reference base)

/-- The occurrences recorded for a component are the places where it is mentioned. -/
theorem recordedFor_foundInHits_map_hit (normalizes : Bool) (base : Path)
    (hits : List WrittenHit) (id : String) :
    ReferenceTable.recordedFor normalizes ((foundInHits base (hits.map WrittenHit.hit)).map
      fun x => (x.1.identifier, x.2)) id = referencesIn normalizes base hits id := by
  rw [recordedFor_foundInHits, referencesIn, List.flatMap_map]
  refine List.flatMap_congr fun h _ => ?_
  rw [show h.hit.text = textOf h.mentions h.tail from rfl, ComponentUrl.findAll_textOf h.apart,
    List.filter_map, List.map_map]
  refine List.map_congr_left fun p _ => ?_
  rw [Function.comp_apply, Reading.reference, ComponentUrl.Written.length_found]
  rfl

theorem referencesIn_ne_nil {normalizes : Bool} {base : Path} {hits : List WrittenHit}
    {id : String} (h : ∃ h ∈ hits, ∃ m ∈ h.mentions, m.url.identifier = id) :
    referencesIn normalizes base hits id ≠ [] := by
  obtain ⟨w, hw, m, hm, rfl⟩ := h
  obtain ⟨offset, hoffset⟩ := ComponentUrl.exists_mem_places hm 0
  have hmem : w.reference base (m, offset) ∈
      referencesIn normalizes base hits m.url.identifier := by
    refine List.mem_flatMap.2 ⟨w, hw, List.mem_map.2 ⟨(m, offset), ?_, rfl⟩⟩
    simp [hoffset, ReferenceTable.Counts]
  exact List.ne_nil_of_mem hmem

/-- Whether a URL that names a component stands at a place in one of several hits. -/
def IsMentionAt (normalizes : Bool) (base : Path) (hits : List WrittenHit) (id : String)
    (r : Reference) : Prop :=
  ∃ h ∈ hits, ∃ url : ComponentUrl.Written,
    ReferenceTable.Counts normalizes id url.identifier ∧
      r.source = base.join (.ofString (String.ofList h.path)) ∧ r.line = h.line ∧
      ((textOf h.mentions h.tail).drop r.column.toNat).take r.length.toNat = url.text

/-- At every place where a component is mentioned stands a URL that names it. -/
theorem isMentionAt_of_mem {normalizes : Bool} {base : Path} {hits : List WrittenHit}
    {id : String} {r : Reference} (h : r ∈ referencesIn normalizes base hits id) :
    IsMentionAt normalizes base hits id r := by
  obtain ⟨w, hw, hr⟩ := List.mem_flatMap.1 h
  obtain ⟨p, hp, rfl⟩ := List.mem_map.1 hr
  obtain ⟨hplace, hcounts⟩ := List.mem_filter.1 hp
  exact ⟨w, hw, p.1.url, by simpa using hcounts, rfl, rfl,
    ComponentUrl.take_drop_textOf w.apart hplace⟩

/-- The table of references of hits that mention a component gives the places where they do. -/
theorem exists_scan_written {settings : Settings} {base : Path} {hits : List WrittenHit}
    {ending : List Char} {output errors : List UInt8} {id : String}
    (hhits : ∀ h ∈ hits, h.hit.IsReported) (hending : ending = [] ∨ ending = ['\n'])
    (houtput : Utf8.decodeReplacing output = written (hits.map WrittenHit.hit) ending)
    (hmentioned : ∃ h ∈ hits, ∃ m ∈ h.mentions, m.url.identifier = id) :
    ∃ r table, scan settings base (.ended 0 output errors) = .ok r ∧ r.outcome.success = true ∧
      r.table = some table ∧
      table.references? id = some (referencesIn settings.normalizesSeparators base hits id) := by
  have hreported : ∀ h ∈ hits.map WrittenHit.hit, h.IsReported := by
    intro h hmem
    obtain ⟨h', hmem', rfl⟩ := List.mem_map.1 hmem
    exact hhits h' hmem'
  have hreferences : referencesIn settings.normalizesSeparators base hits id ≠ [] :=
    referencesIn_ne_nil hmentioned
  have hfound : foundInHits base (hits.map WrittenHit.hit) ≠ [] := by
    intro hnil
    rw [← recordedFor_foundInHits_map_hit, hnil] at hreferences
    exact hreferences rfl
  obtain ⟨r, hparse, hsuccess, htable⟩ : ∃ r, parse settings base
      (written (hits.map WrittenHit.hit) ending) = .ok r ∧ r.outcome.success = true ∧
        r.table = some (.ofList settings.normalizesSeparators
          ((foundInHits base (hits.map WrittenHit.hit)).map fun x => (x.1.identifier, x.2))) :=
    parse_written hreported hending hfound
  have hscan : scan settings base (.ended 0 output errors) = .ok { r with
      journal := runJournal base (.ended 0 output errors) ++ r.journal } := by
    simp [scan, finish, houtput, hparse, Except.map]
  refine ⟨_, _, hscan, hsuccess, htable, ?_⟩
  rw [ReferenceTable.references?_ofList, recordedFor_foundInHits_map_hit, if_neg hreferences]

end Search

namespace Workspace

/-- The index that is published when the passes give these tables. -/
theorem refresh_eq {w : Workspace} {threshold : Level} {files : Files} {run : Search.Run}
    {references : PassResult ReferenceTable}
    (h : Search.scan w.settings w.base run = .ok references) :
    ∃ r, w.refresh threshold files run = .ok r ∧
      r.success = ((BuildGraph.survey w.settings threshold files w.base).outcome.success &&
        references.outcome.success) ∧
      r.workspace.index = .ofTables w.base w.settings.normalizesSeparators
        (BuildGraph.survey w.settings threshold files w.base).table references.table := by
  refine ⟨_, by rw [refresh, h]; rfl, rfl, rfl⟩

/-- Making the index of a repository whose log tells of one component, where only the component's
four statements have a shape, in any order, and of which the search reports hits that mention the
component. It succeeds; the component and its part lead to the manifest; and the manifest leads
back to the component and to exactly the places where it is mentioned, in order, at each of which
stands a URL that names it. -/
theorem exists_refresh_of_component (c : ComponentStatements) {w : Workspace}
    (hbase : w.base.normalized = w.base) (threshold : Level) {files : Files} {log : List Char}
    (hfile : files.text (logPath w.settings w.base).toString = .ok log)
    (hlog : ((Statement.ofLines (Text.fileLines log)).filter fun s =>
      (Recognized.ofStatement? s).isSome).Perm c.statements)
    {hits : List Search.WrittenHit} {ending : List Char} {output errors : List UInt8}
    (hhits : ∀ h ∈ hits, h.hit.IsReported) (hending : ending = [] ∨ ending = ['\n'])
    (houtput : Utf8.decodeReplacing output =
      Search.written (hits.map Search.WrittenHit.hit) ending)
    (hmentioned : ∃ h ∈ hits, ∃ m ∈ h.mentions, m.url.identifier = c.componentIdentifier) :
    ∃ r, w.refresh threshold files (.ended 0 output errors) = .ok r ∧ r.success = true ∧
      r.workspace.index.resolve c.componentIdentifier = some (c.location w.base) ∧
      r.workspace.index.resolve c.partIdentifier = some (c.location w.base) ∧
      r.workspace.index.identifierOf? (.ofString c.manifestPath) = some c.componentIdentifier ∧
      r.workspace.index.referencesTo (.ofString c.manifestPath) =
        some (Search.referencesIn w.settings.normalizesSeparators w.base hits
          c.componentIdentifier) ∧
      ∀ x ∈ Search.referencesIn w.settings.normalizesSeparators w.base hits
          c.componentIdentifier,
        Search.IsMentionAt w.settings.normalizesSeparators w.base hits c.componentIdentifier x := by
  obtain ⟨parsed, references, hscan, hparsed, htable, hreferences⟩ :
      ∃ parsed references,
        Search.scan w.settings w.base (.ended 0 output errors) = .ok parsed ∧ _ :=
    Search.exists_scan_written hhits hending houtput hmentioned
  obtain ⟨r, hr, hsuccess, hindex⟩ : ∃ r, w.refresh threshold files (.ended 0 output errors) =
      .ok r ∧ _ := refresh_eq hscan
  have hsurvey : BuildGraph.survey w.settings threshold files w.base =
      BuildGraph.surveyLines w.settings threshold w.base (logPath w.settings w.base).toString
        (Text.fileLines log) := by
    simp only [BuildGraph.survey, hfile]
  obtain ⟨hlinks, hmanifests⟩ := c.surveyLines_eq w.settings threshold w.base
    (logPath w.settings w.base).toString hlog
  -- Both passes have given their tables, and the index is made of these.
  rw [hsurvey, hmanifests, htable, BuildGraph.manifestTable] at hindex
  rw [hsurvey, hlinks, hparsed] at hsuccess
  obtain ⟨⟨l, hl, hcomponent, -⟩, hpart⟩ := c.exists_links w.settings.usesHeuristics w.base
  have hidentifier : r.workspace.index.identifierOf? (.ofString c.manifestPath) =
      some c.componentIdentifier := by
    rw [hindex, LinkIndex.identifierOf?]
    exact (congrArg _ (c.join_manifestPath w.base)).trans (c.identifierOf?_ofLinks hbase)
  refine ⟨r, hr, hsuccess, ?_, ?_, hidentifier, ?_, fun x hx => Search.isMentionAt_of_mem hx⟩
  · rw [hindex]
    exact LinkIndex.eitherSpelling_of_eq_some (c.manifest?_ofLinks hbase ⟨l, hl, hcomponent⟩)
  · rw [hindex]
    exact LinkIndex.eitherSpelling_of_eq_some (c.manifest?_ofLinks hbase hpart)
  · rw [LinkIndex.referencesTo, hidentifier, Option.bind_some, hindex]
    exact LinkIndex.eitherSpelling_of_eq_some hreferences

/-! ## A repository with one component -/

/-- A build statement for an output of the directory `src/bar` that depends on `target` between
other outputs of the directory. -/
def barBuild (target : List Char) : DependentBuild "src/bar".toList target where
  indent := []
  gap := [' ']
  tail :=
    { outputs := []
      gap := [' ']
      rule := "r".toList
      inputs := " in ".toList
      dependencies := " pm obj/src/bar/foo_manifest.stamp".toList ++ ((" obj/src/bar/".toList ++
        (target ++ ".stamp".toList)) ++ " obj/src/bar/other.stamp".toList)
      outputs_end := by simp
      gap_blank := by decide
      rule_ne := by simp
      rule_visible := by decide
      inputs_apart := ⟨' ', "in ".toList, by simp, by decide⟩
      inputs_end := by decide }
  indent_blank := by decide
  gap_blank := by decide
  dependencies :=
    { before := " pm obj/src/bar/foo_manifest.stamp".toList
      gap := [' ']
      after := " obj/src/bar/other.stamp".toList
      before_end := by decide
      gap_blank := by decide
      gap_apart := by simp
      after_apart := by decide }
  dependencies_eq := rfl

def barValidation : ValidationForm where
  indent := [' ']
  gap := [' ']
  indent_blank := by decide
  gap_blank := by decide
  manifestGap := [' ']
  root := "../..".toList
  source := "src/bar/meta".toList
  manifest := "bar".toList
  ending := ".cmx".toList
  others := []
  labelStart := ' '
  labelGap := [' ']
  directory := "src/bar".toList
  label := "bar_cmc_validate_references".toList
  rest := []
  manifestGap_ne := by simp
  manifestGap_blank := by decide
  root_mem := source_mem_manifestRoots
  source_visible := by decide
  manifest_name := by decide
  ending_mem := cmx_mem_manifestEndings
  others_apart := by simp
  labelStart_blank := by decide
  labelGap_ne := by simp
  labelGap_blank := by decide
  directory_ne := by simp
  directory_end := by decide
  label_name := by decide
  label_end := ⟨'s', by decide, by decide⟩
  rest_apart := by simp
  before := " ".toList
  host := "x64".toList
  toolEnd := ' '
  options := "--stamp bar.action.stamp".toList
  taskStart := ' '
  more := []
  flagStart := ' '
  host_ne := by simp
  host_word := by decide
  toolEnd_blank := by decide
  taskStart_blank := by decide
  flagStart_blank := by decide

def fooNaming : NamingForm "src/bar".toList "foo".toList "foo".toList where
  indent := [' ']
  gap := [' ']
  before := " ../../host_x64".toList
  toolGap := [' ']
  packageGap := [' ']
  packageEnd := ' '
  options := "-m foo.manifest ".toList
  nameGap := [' ']
  rest := " build".toList
  indent_blank := by decide
  gap_blank := by decide
  toolGap_ne := by simp
  toolGap_blank := by decide
  packageGap_ne := by simp
  packageGap_blank := by decide
  packageEnd_blank := by decide
  nameGap_ne := by simp
  nameGap_blank := by decide
  rest_apart := by decide
  tool_first := noWordEnds_of_not_isInfix (by decide +kernel)
  name_first := noWordEnds_of_not_isInfix (by decide +kernel)

def barStatements : ComponentStatements where
  directory := "src/bar".toList
  package := "foo".toList
  component := "bar".toList
  part := "baz".toList
  name := "foo".toList
  source := ["src".toList, "bar".toList, "meta".toList]
  manifest := "bar".toList
  assembly := barBuild "bar".toList
  validation := barValidation
  naming := fooNaming
  building := barBuild "baz".toList
  directory_path := by decide
  package_name := by decide
  component_of := ⟨by decide, by decide, by decide, by decide, by decide, by decide, by decide⟩
  part_of := ⟨by decide, by decide⟩
  name_name := by decide
  source_ne := by simp
  source_step := by decide
  validates :=
    { root_eq := rfl
      source_eq := by decide
      manifest_eq := rfl
      ending_eq := rfl
      directory_eq := rfl
      label_eq := by decide
      first := ⟨by decide +kernel, by decide +kernel⟩
      no_destination := not_namesDestination_of_not_isInfix (by decide +kernel) }
  naming_no_validation := fooNaming.validation_eq_none (by decide +kernel)
  naming_no_compilation := fooNaming.compilation_eq_none (by decide +kernel)

def barLog : List Char :=
  List.intercalate ['\n'] ("rule r".toList :: barStatements.statements.reverse)

def barFiles : Files :=
  ⟨[("/fuchsia/out/default/toolchain.ninja", .ok (Text.asciiBytes barLog))]⟩

def barUrl : ComponentUrl.Written where
  package := "foo".toList
  query := []
  component := "bar".toList
  ending := ['x']
  package_ne := by simp
  package_name := by decide
  query_eq := .inl rfl
  component_ne := by simp
  component_name := by decide
  ending_eq := .inl rfl

def barHit : Search.WrittenHit where
  path := "src/main.cc".toList
  line := 4
  mentions := [⟨"open(".toList, barUrl, by decide +kernel, by decide⟩]
  tail := ")".toList
  apart := by decide +kernel

def barOutput : List UInt8 := Text.asciiBytes (Search.written [barHit.hit] ['\n'])

theorem text_barFiles :
    barFiles.text (logPath {} (.ofString "/fuchsia")).toString = .ok barLog := by
  refine Files.text_of_ascii rfl ?_ ?_
  · decide +kernel
  · decide +kernel

theorem filter_barLog :
    ((Statement.ofLines (Text.fileLines barLog)).filter fun s =>
      (Recognized.ofStatement? s).isSome).Perm barStatements.statements := by
  decide +kernel

theorem isReported_barHit : barHit.hit.IsReported :=
  ⟨⟨by decide +kernel, by decide +kernel, by decide +kernel, by decide⟩, by decide +kernel⟩

theorem exists_refresh_of_bar :
    ∃ r, (blank (.ofString "/fuchsia") {}).refresh .warning barFiles (.ended 0 barOutput []) =
      .ok r ∧ r.success = true ∧
      r.workspace.index.resolve "foo/bar" =
        some (.ofString "/fuchsia/src/bar/meta/bar.cmx") ∧
      r.workspace.index.resolve "foo/baz" =
        some (.ofString "/fuchsia/src/bar/meta/bar.cmx") ∧
      r.workspace.index.identifierOf? (.ofString "src/bar/meta/bar.cmx") = some "foo/bar" ∧
      r.workspace.index.referencesTo (.ofString "src/bar/meta/bar.cmx") =
        some [⟨.ofString "/fuchsia/src/main.cc", 4, 5, 42⟩] := by
  have hcomponent : barStatements.componentIdentifier = "foo/bar" := by decide +kernel
  have hpart : barStatements.partIdentifier = "foo/baz" := by decide +kernel
  have hmanifest : barStatements.manifestPath = "src/bar/meta/bar.cmx" := by decide +kernel
  have hlocation : barStatements.location (.ofString "/fuchsia") =
      .ofString "/fuchsia/src/bar/meta/bar.cmx" := by decide +kernel
  have hplaces : Search.referencesIn false (.ofString "/fuchsia") [barHit] "foo/bar" =
      [⟨.ofString "/fuchsia/src/main.cc", 4, 5, 42⟩] := by decide +kernel
  have hhits : ∀ h ∈ [barHit], h.hit.IsReported := by simpa using isReported_barHit
  have houtput : Utf8.decodeReplacing barOutput =
      Search.written ([barHit].map Search.WrittenHit.hit) ['\n'] :=
    Utf8.decodeReplacing_asciiBytes (by decide +kernel)
  have hmentioned : ∃ h ∈ [barHit], ∃ m ∈ h.mentions,
      m.url.identifier = barStatements.componentIdentifier := by
    refine ⟨barHit, by simp, _, List.mem_cons_self, ?_⟩
    decide +kernel
  have hbase : Path.normalized (.ofString "/fuchsia") = .ofString "/fuchsia" := by decide
  have hindexed := @exists_refresh_of_component barStatements (blank (.ofString "/fuchsia") {})
    hbase .warning barFiles barLog text_barFiles filter_barLog [barHit] ['\n'] barOutput [] hhits
    (.inr rfl) houtput hmentioned
  obtain ⟨r, hr, hsuccess, hforth, hshared, hback, hreferences, -⟩ := hindexed
  rw [hcomponent] at hforth hback hreferences
  rw [hpart] at hshared
  rw [hmanifest] at hback hreferences
  exact ⟨r, hr, hsuccess, hforth.trans (congrArg some hlocation),
    hshared.trans (congrArg some hlocation), hback, hreferences.trans (congrArg some hplaces)⟩

end Workspace

end ComponentLinks
