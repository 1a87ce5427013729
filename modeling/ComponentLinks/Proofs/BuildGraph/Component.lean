import ComponentLinks.BuildGraph.Survey
import ComponentLinks.Proofs.BuildGraph.Interleaving
import ComponentLinks.Proofs.BuildGraph.Links
import ComponentLinks.Proofs.Path
import ComponentLinks.Proofs.Statement.Assembly
import ComponentLinks.Proofs.Statement.Naming
import ComponentLinks.Proofs.Statement.Parts
import ComponentLinks.Proofs.Statement.Validation
import ComponentLinks.Proofs.Table.Manifests

/-!
# The log of one component

Four statements tell of a component of a package: one puts the package together, one validates the
component's manifest, one names the package and one builds the component from a part. A log with
these statements, in any order and among any others of no shape, links the component and its part
to the manifest. The package may depend on other components and the component on other parts: they
have no records, so every link is for the one record that there is.

## Main definitions

* `ComponentStatements`: the four statements.
* `ComponentStatements.graph`: their graph, which does not depend on their order.
* `ComponentStatements.manifest_of_mem_links`, `ComponentStatements.exists_links`: its links.
* `ComponentStatements.surveyLines_eq`: the survey of a log with the four statements.
-/
namespace ComponentLinks

open Statement

/-- The four statements of a log that tell of a component of a package, and of a part of it. The
targets are in `directory`, the manifest in the directory with the steps `source`. -/
structure ComponentStatements where
  directory : List Char
  package : List Char
  component : List Char
  part : List Char
  name : List Char
  source : List (List Char)
  manifest : List Char
  assembly : DependentBuild directory component
  validation : ValidationForm
  naming : NamingForm directory package name
  building : DependentBuild directory part
  directory_path : IsDirectory directory
  package_name : IsName package
  component_of : IsComponentOf package component
  part_of : IsPartOf component part
  name_name : IsName name
  source_ne : source ≠ []
  source_step : ∀ segment ∈ source, Path.IsStep segment
  validates : validation.Validates directory component (List.intercalate ['/'] source) manifest
  naming_no_validation : Validation.ofStatement? (naming.text naming.words) = none
  naming_no_compilation : Compilation.ofStatement? (naming.text naming.words) = none

namespace ComponentStatements

/-- The texts of the statements. -/
def statements (c : ComponentStatements) : List (List Char) :=
  [c.assembly.text (archivePath c.directory c.package), c.validation.text c.validation.words,
   c.naming.text c.naming.words, c.building.text (builtManifestPath c.directory c.component)]

def componentPath (c : ComponentStatements) : String :=
  targetPath (String.ofList c.directory) (String.ofList c.component)

def packagePath (c : ComponentStatements) : String :=
  targetPath (String.ofList c.directory) (String.ofList c.package)

def manifestSteps (c : ComponentStatements) : List (List Char) :=
  c.source ++ [c.manifest ++ ".cmx".toList]

/-- The written path of the manifest. -/
def manifestPath (c : ComponentStatements) : String :=
  String.ofList (List.intercalate ['/'] c.manifestSteps)

def components (c : ComponentStatements) : List String :=
  (PackageAssembly.dependencyTargets c.directory c.package c.assembly.dependencies.text).map
    String.ofList

def parts (c : ComponentStatements) : List String :=
  (SubComponents.dependencyTargets c.directory c.component c.building.dependencies.text).map
    String.ofList

def validationSaid (c : ComponentStatements) : Validation :=
  ValidationForm.saidOf c.directory c.component (List.intercalate ['/'] c.source) c.manifest

def recognized (c : ComponentStatements) : List Recognized :=
  [.packageAssembly ⟨String.ofList c.directory, String.ofList c.package, c.components⟩,
   .validation c.validationSaid,
   .packageNaming ⟨String.ofList c.directory, String.ofList c.package, String.ofList c.name⟩,
   .subComponents ⟨String.ofList (builtManifestPath c.directory c.component),
     String.ofList c.directory, String.ofList c.component, c.parts⟩]

theorem manifest_name (c : ComponentStatements) : IsName c.manifest :=
  c.validates.manifest_eq ▸ c.validation.manifest_name

theorem component_mem_components (c : ComponentStatements) :
    String.ofList c.component ∈ c.components :=
  List.mem_map_of_mem (mem_dependencyTargets_text c.directory_path c.package_name c.component_of
    c.assembly.dependencies)

theorem part_mem_parts (c : ComponentStatements) : String.ofList c.part ∈ c.parts :=
  List.mem_map_of_mem (mem_partTargets_text c.directory_path c.component_of.name c.part_of
    c.building.dependencies)

theorem manifest_validationSaid (c : ComponentStatements) :
    c.validationSaid.manifest = c.manifestPath := by
  rw [manifestPath, manifestSteps, Path.intercalate_append_singleton c.source_ne]
  rfl

theorem filterMap_statements (c : ComponentStatements) :
    c.statements.filterMap Recognized.ofStatement? = c.recognized := by
  have hassembly := ofStatement?_archive c.assembly c.directory_path c.package_name
  have hvalidation := c.validates.ofStatement?_text
  have hnaming := c.naming.ofStatement?_text c.directory_path c.package_name c.name_name
    c.naming_no_validation c.naming_no_compilation
  have hbuilding := ofStatement?_builtManifest c.building c.directory_path c.component_of.name
  simp only [statements, List.filterMap_cons, List.filterMap_nil, hassembly, hvalidation, hnaming,
    hbuilding, recognized, validationSaid, components, parts]

def record (c : ComponentStatements) : ManifestRecord :=
  ⟨c.componentPath, String.ofList c.manifest, c.manifestPath⟩

theorem record_validation (c : ComponentStatements) (buildDir : String) :
    c.validationSaid.record buildDir = c.record := by
  have htarget : withoutEnding "_cmc_validate_references".toList
      (c.component ++ "_cmc_validate_references".toList) = c.component :=
    withoutEnding_append _ _
  have hsource : c.validationSaid.sourceManifest buildDir = c.manifestPath :=
    c.manifest_validationSaid
  simp only [Validation.record, hsource]
  simp only [validationSaid, ValidationForm.saidOf, Validation.componentTarget,
    Validation.componentName, Validation.namedDestination, Option.filter_none, Option.getD_some,
    String.toList_ofList, htarget]
  rfl

/-- The component target has the path that its directory and its name give. -/
theorem componentPath_mem_componentPaths (c : ComponentStatements) :
    c.componentPath ∈ PackageAssembly.componentPaths
      ⟨String.ofList c.directory, String.ofList c.package, c.components⟩ := by
  have hslash : '/' ∉ c.component := c.component_of.name.not_mem (by decide)
  have hdrop : c.component.dropWhile (· != '/') = [] := by
    rw [List.dropWhile_eq_nil_iff]
    intro d hd
    have : d ≠ '/' := fun heq => hslash (heq ▸ hd)
    simpa using this
  refine List.mem_map.2 ⟨_, c.component_mem_components, ?_⟩
  simp [PackageAssembly.componentPath, hdrop, componentPath]

/-! ## The graph -/

/-- The graph of the statements. -/
def graph (c : ComponentStatements) : BuildGraph where
  packagesOf := (PackageAssembly.componentPaths
    ⟨String.ofList c.directory, String.ofList c.package, c.components⟩).foldl
      (fun m path => m.push path c.packagePath) .empty
  manifestOf := OrderedMap.empty.insert c.componentPath c.record
  partsOf := c.parts.foldl (fun m part => m.push c.componentPath part) .empty
  nameOf := OrderedMap.empty.insert c.packagePath (String.ofList c.name)
  seen :=
    { packageAssembly := true, subComponents := true, validation := true, packageNaming := true }
  diagnostics := []

/-- The order of the statements does not matter. -/
theorem ofRecognized_eq_graph (c : ComponentStatements) {rs : List Recognized}
    (h : rs.Perm c.recognized) (reporting : Bool) (buildDir : String) :
    BuildGraph.ofRecognized reporting buildDir rs = c.graph := by
  have hkinds : (c.recognized.map Recognized.factKind).Nodup := by
    simp [recognized, Recognized.factKind, Recognized.shape, Shape.factKind]
  rw [BuildGraph.ofRecognized_perm h hkinds]
  simp only [recognized, BuildGraph.ofRecognized, List.foldl_cons, List.foldl_nil,
    BuildGraph.add, BuildGraph.addFacts, record_validation]
  cases reporting <;> rfl

theorem getD_packages (c : ComponentStatements) (target : String) :
    (c.graph.packagesOf.find? target).getD [] =
      List.replicate ((PackageAssembly.componentPaths ⟨String.ofList c.directory,
        String.ofList c.package, c.components⟩).count target) c.packagePath := by
  rw [graph, OrderedMap.getD_find?_foldl_push_const]
  rfl

theorem eq_packagePath_of_mem {c : ComponentStatements} {entry : String × List String}
    (h : entry ∈ c.graph.packagesOf.toList) {package : String} (hpackage : package ∈ entry.2) :
    package = c.packagePath := by
  have hfound : c.graph.packagesOf.find? entry.1 = some entry.2 :=
    OrderedMap.find?_eq_some_iff.2 h
  have hlist := c.getD_packages entry.1
  rw [hfound, Option.getD_some] at hlist
  rw [hlist] at hpackage
  exact List.eq_of_mem_replicate hpackage

theorem exists_packages (c : ComponentStatements) :
    ∃ packages, c.graph.packagesOf.find? c.componentPath = some packages ∧
      c.packagePath ∈ packages := by
  refine OrderedMap.exists_of_mem_getD ?_
  rw [getD_packages, List.mem_replicate]
  exact ⟨(List.count_pos_iff.2 c.componentPath_mem_componentPaths).ne', rfl⟩

theorem exists_parts (c : ComponentStatements) :
    ∃ parts, c.graph.partsOf.find? c.componentPath = some parts ∧
      String.ofList c.part ∈ parts := by
  refine OrderedMap.exists_of_mem_getD ?_
  rw [graph, OrderedMap.getD_find?_foldl_push]
  simpa using c.part_mem_parts

theorem packageName?_graph (c : ComponentStatements) :
    c.graph.packageName? c.packagePath = some (String.ofList c.name) := by
  simp [graph, BuildGraph.packageName?, c.name_name.1]

theorem find?_manifestOf_graph {c : ComponentStatements} {target : String} {r : ManifestRecord} :
    c.graph.manifestOf.find? target = some r ↔ target = c.componentPath ∧ r = c.record := by
  simp only [graph, OrderedMap.find?_insert, OrderedMap.find?_empty]
  grind

theorem isStep_manifestSteps (c : ComponentStatements) :
    ∀ segment ∈ c.manifestSteps, Path.IsStep segment := by
  intro segment hmem
  rcases List.mem_append.1 hmem with hmem | hmem
  · exact c.source_step segment hmem
  · obtain rfl : segment = c.manifest ++ ".cmx".toList := by simpa using hmem
    have hslash : '/' ∉ c.manifest := c.manifest_name.not_mem (by decide)
    obtain ⟨d, ds, hmanifest⟩ := List.exists_cons_of_ne_nil c.manifest_name.1
    refine ⟨by simp, ?_, ?_, by simpa using hslash⟩
    · simp [hmanifest]
    · intro heq
      have hlength := congrArg List.length heq
      simp [hmanifest] at hlength

theorem isSegment_manifestSteps (c : ComponentStatements) :
    ∀ s ∈ c.manifestSteps.map String.ofList, Path.IsSegment s :=
  Path.isSegment_of_mem_map fun s hs => (c.isStep_manifestSteps s hs).isStep_and_not_mem

/-- Where the manifest is. -/
def location (c : ComponentStatements) (base : Path) : Path :=
  base.extend (c.manifestSteps.map String.ofList) c.isSegment_manifestSteps

theorem ofString_manifestPath (c : ComponentStatements) :
    Path.ofString c.manifestPath =
      ⟨.relative, c.manifestSteps.map String.ofList, c.isSegment_manifestSteps⟩ :=
  Path.ofString_intercalate c.isStep_manifestSteps

/-- The manifest is where its path leads from a normalized base. -/
theorem join_manifestPath (c : ComponentStatements) (base : Path) :
    base.join (.ofString c.manifestPath) = c.location base := by
  rw [c.ofString_manifestPath]
  rfl

theorem normalized_location (c : ComponentStatements) {base : Path}
    (hbase : base.normalized = base) : (c.location base).normalized = c.location base := by
  refine Path.normalized_extend hbase _ fun segment hmem => ?_
  obtain ⟨step, hstep, rfl⟩ := List.mem_map.1 hmem
  exact (c.isStep_manifestSteps step hstep).ofList_ne_up

/-- The identifier of the component. -/
def componentIdentifier (c : ComponentStatements) : String :=
  identifier (String.ofList c.name) (String.ofList c.manifest)

/-- The identifier of the part. -/
def partIdentifier (c : ComponentStatements) : String :=
  identifier (String.ofList c.name) (String.ofList c.part)

/-! ## The links -/

theorem manifestLocation_record (c : ComponentStatements) {base : Path}
    (hbase : base.normalized = base) :
    BuildGraph.manifestLocation base c.record.manifest = c.location base := by
  rw [BuildGraph.manifestLocation]
  exact (congrArg Path.normalized (c.join_manifestPath base)).trans (c.normalized_location hbase)

/-- Every link of the graph leads to the manifest, and only the component owns it. -/
theorem manifest_of_mem_links {c : ComponentStatements} {useHeuristics : Bool} {base : Path}
    (hbase : base.normalized = base) {l : ManifestLink}
    (h : l ∈ c.graph.links useHeuristics base) :
    l.manifest = c.location base ∧ (l.shared = false → l.identifier = c.componentIdentifier) := by
  obtain ⟨entry, hentry, package, hpackage, name, found, r, hname, hrecord, hl, -⟩ :=
    BuildGraph.exists_linksOf_of_mem_links h
  obtain ⟨rfl, rfl⟩ := find?_manifestOf_graph.1 hrecord
  obtain rfl := eq_packagePath_of_mem hentry hpackage
  obtain rfl : String.ofList c.name = name := by
    simpa [c.packageName?_graph] using hname
  obtain ⟨hmanifest, hown⟩ := BuildGraph.manifest_of_mem_linksOf hl
  refine ⟨hmanifest.trans (c.manifestLocation_record hbase), fun hshared => ?_⟩
  rw [hown hshared]
  rfl

theorem exists_links (c : ComponentStatements) (useHeuristics : Bool) (base : Path) :
    (∃ l ∈ c.graph.links useHeuristics base,
      l.identifier = c.componentIdentifier ∧ l.shared = false) ∧
    ∃ l ∈ c.graph.links useHeuristics base, l.identifier = c.partIdentifier := by
  obtain ⟨packages, hpackages, hpackage⟩ := c.exists_packages
  obtain ⟨parts, hparts, hpart⟩ := c.exists_parts
  have hlinks {l : ManifestLink} (hl : l ∈ c.graph.linksOf useHeuristics base
      (String.ofList c.name) c.componentPath c.record) : l ∈ c.graph.links useHeuristics base :=
    BuildGraph.mem_links_of_mem_linksOf hpackages hpackage c.packageName?_graph
      (find?_manifestOf_graph.2 ⟨rfl, rfl⟩) hl
  exact ⟨⟨_, hlinks BuildGraph.ownLink_mem_linksOf, rfl, rfl⟩,
    ⟨_, hlinks (BuildGraph.mem_linksOf_of_part hparts hpart), rfl⟩⟩

theorem manifest?_ofLinks {c : ComponentStatements} {normalizes useHeuristics : Bool} {base : Path}
    (hbase : base.normalized = base) {id : String}
    (h : ∃ l ∈ c.graph.links useHeuristics base, l.identifier = id) :
    (ManifestTable.ofLinks normalizes (c.graph.links useHeuristics base)).manifest? id =
      some (c.location base) := by
  obtain ⟨l, hmem, rfl⟩ := h
  obtain ⟨k, hk⟩ := exists_isLast_iff.2 ⟨l, hmem, l.names_identifier normalizes⟩
  rw [ManifestTable.manifest?_ofLinks_eq_some_iff]
  exact ⟨k, hk, (manifest_of_mem_links hbase hk.mem).1⟩

theorem identifierOf?_ofLinks {c : ComponentStatements} {normalizes useHeuristics : Bool}
    {base : Path} (hbase : base.normalized = base) :
    (ManifestTable.ofLinks normalizes (c.graph.links useHeuristics base)).identifierOf?
      (c.location base) = some c.componentIdentifier := by
  obtain ⟨l, hmem, -, hshared⟩ := (c.exists_links useHeuristics base).1
  have howns : l.Owns (c.location base) :=
    ⟨hshared, by rw [ManifestLink.LeadsTo, (manifest_of_mem_links hbase hmem).1]⟩
  obtain ⟨k, hk⟩ := exists_isLast_iff.2 ⟨l, hmem, howns⟩
  rw [ManifestTable.identifierOf?_ofLinks_of_isLast hk,
    (manifest_of_mem_links hbase hk.mem).2 hk.holds.1]

/-- A log in which only the four statements have a shape, in any order, is surveyed with success,
and gives the table of their graph. -/
theorem surveyLines_eq (c : ComponentStatements) (settings : Settings) (threshold : Level)
    (base : Path) (logName : String) {lines : List (List Char)}
    (hlines : ((Statement.ofLines lines).filter fun s => (Recognized.ofStatement? s).isSome).Perm
      c.statements) :
    (BuildGraph.surveyLines settings threshold base logName lines).outcome.success = true ∧
      (BuildGraph.surveyLines settings threshold base logName lines).table =
        some (c.graph.manifestTable settings base) := by
  have hperm : (BuildGraph.recognizedLines lines).Perm c.recognized := by
    have hfilter : BuildGraph.recognizedLines lines = ((Statement.ofLines lines).filter
        fun s => (Recognized.ofStatement? s).isSome).filterMap Recognized.ofStatement? := by
      rw [BuildGraph.recognizedLines, List.filterMap_filter]
      refine List.filterMap_congr fun s _ => ?_
      cases Recognized.ofStatement? s <;> rfl
    rw [hfilter, ← c.filterMap_statements]
    exact hlines.filterMap _
  have hgraph := c.ofRecognized_eq_graph hperm (threshold = .debug) settings.buildDir
  have hcheck : (c.graph.check logName).isEmpty = true := by
    rw [List.isEmpty_iff, BuildGraph.check_eq_nil_iff]
    simp [graph, ShapeGroup.all, ShapeGroup.occursIn, ShapeGroup.members, SeenShapes.contains]
  simp only [BuildGraph.surveyLines, hgraph, hcheck, if_true, and_self]

end ComponentStatements

end ComponentLinks
