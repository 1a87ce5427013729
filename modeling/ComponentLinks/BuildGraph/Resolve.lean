import ComponentLinks.BuildGraph.Remarks
import ComponentLinks.Settings
import ComponentLinks.Table.Manifests

/-!
# Links of a build graph

A component is linked to a manifest for every package that it is built into: the package has to
have a name and the component target a manifest record. The targets that the component is built
from share its manifest.

With heuristics, a target without a record is tried again with `:test_` read as a colon, then
without a final `_component`; and the component's name without such an ending shares its manifest.

## Main definitions

* `BuildGraph.lookUp`: the record of a component target.
* `BuildGraph.pairing`: what comes of a component target and one of its packages.
* `BuildGraph.pairings`: what comes of every component target and package, in order.
* `BuildGraph.manifestTable`, `BuildGraph.reports`: the table and the report on what was skipped.
-/
namespace ComponentLinks

/-- A target path with its first `:test_` read as a colon. -/
def collapseTest : List Char → List Char
  | [] => []
  | c :: rest =>
    if ":test_".toList.isPrefixOf (c :: rest) then ':' :: rest.drop 5
    else c :: collapseTest rest

/-- A text without a given ending, which may stand before one last newline. The text itself if it
does not end so. -/
def withoutFinal? (ending cs : List Char) : Option (List Char) :=
  if ending.isSuffixOf cs then some (withoutEnding ending cs)
  else if (ending ++ ['\n']).isSuffixOf cs then
    some (withoutEnding (ending ++ ['\n']) cs ++ ['\n'])
  else none

def componentEnding : List Char := "_component".toList

def generatedEnding : List Char := "_component_generated_manifest".toList

def dropComponentEnding (target : List Char) : List Char :=
  (withoutFinal? componentEnding target).getD target

/-- A component name without a final `_component` or `_component_generated_manifest`. -/
def shortName (component : String) : String :=
  let name := component.toList
  String.ofList <| ((withoutFinal? generatedEnding name).or
    (withoutFinal? componentEnding name)).getD name

namespace BuildGraph

/-- The record of a component target, with the path under which it was found. With heuristics the
path is rewritten until a record is found or no rule is left. -/
def lookUp (useHeuristics : Bool) (g : BuildGraph) (target : String) :
    String × Option ManifestRecord :=
  match g.manifestOf.find? target with
  | some r => (target, some r)
  | none =>
    if useHeuristics then
      let collapsed := String.ofList (collapseTest target.toList)
      match g.manifestOf.find? collapsed with
      | some r => (collapsed, some r)
      | none =>
        let dropped := String.ofList (dropComponentEnding collapsed.toList)
        (dropped, g.manifestOf.find? dropped)
    else (target, none)

/-- Where a manifest is: its path relative to the repository, taken from there and normalized. -/
def manifestLocation (base : Path) (manifest : String) : Path :=
  (base.join (.ofString manifest)).normalized

/-- What comes of a component target and one of its packages: the package has no name, the target
has no record, or the component is linked, and with it whatever shares its manifest. -/
inductive Pairing where
  | unnamed
  | missing
  | linked (links : List ManifestLink)
  deriving Repr, DecidableEq

def Pairing.links : Pairing → List ManifestLink
  | linked links => links
  | _ => []

def packageName? (g : BuildGraph) (package : String) : Option String :=
  (g.nameOf.find? package).filter fun name => !name.isEmpty

/-- The links for a record found under a target path: the component, the targets that it is built
from, and with heuristics the component's short name. -/
def linksOf (useHeuristics : Bool) (base : Path) (g : BuildGraph) (package target : String)
    (r : ManifestRecord) : List ManifestLink :=
  let manifest := manifestLocation base r.manifest
  let short := shortName r.component
  ⟨package, r.component, manifest, false⟩ ::
    (((g.partsOf.find? target).getD []).map fun part => ⟨package, part, manifest, true⟩) ++
    if useHeuristics && short != r.component then [⟨package, short, manifest, true⟩] else []

/-- What comes of a component target and one of its packages, with the path under which the target
is looked up next. -/
def pairing (useHeuristics : Bool) (base : Path) (g : BuildGraph) (target package : String) :
    String × Pairing :=
  match g.packageName? package with
  | none => (target, .unnamed)
  | some name =>
    match g.lookUp useHeuristics target with
    | (found, none) => (found, .missing)
    | (found, some r) => (found, .linked (g.linksOf useHeuristics base name found r))

/-- What comes of a component target and its packages. A path that was rewritten for one package
is looked up as it is for the next. -/
def pairingsOf (useHeuristics : Bool) (base : Path) (g : BuildGraph) (target : String) :
    List String → List Pairing
  | [] => []
  | package :: packages =>
    let (next, p) := g.pairing useHeuristics base target package
    p :: pairingsOf useHeuristics base g next packages

/-- What comes of every component target and its packages, in the order of the graph. -/
def pairings (useHeuristics : Bool) (base : Path) (g : BuildGraph) : List Pairing :=
  g.packagesOf.toList.flatMap fun entry => g.pairingsOf useHeuristics base entry.1 entry.2

/-- The links of a graph, in the order in which they are made. -/
def links (useHeuristics : Bool) (base : Path) (g : BuildGraph) : List ManifestLink :=
  (g.pairings useHeuristics base).flatMap Pairing.links

/-- The table of manifests of a graph. -/
def manifestTable (settings : Settings) (base : Path) (g : BuildGraph) : ManifestTable :=
  .ofLinks settings.normalizesSeparators (g.links settings.usesHeuristics base)

/-- The number of pairings without a package name. -/
def unnamedCount (ps : List Pairing) : Nat := ps.countP fun p => p = .unnamed

def missingCount (ps : List Pairing) : Nat := ps.countP fun p => p = .missing

def linkedCount (ps : List Pairing) : Nat :=
  ps.countP fun p => match p with | .linked _ => true | _ => false

/-- The report on pairings that were skipped, if there are any. -/
def reports (ps : List Pairing) : List Diagnostic :=
  if unnamedCount ps = 0 ∧ missingCount ps = 0 then []
  else [⟨.unresolvedAssociation,
    s!"{unnamedCount ps} component targets had no named package and {missingCount ps} had no " ++
      "known manifest", false⟩]

def linkJournal (ps : List Pairing) : List Journal.Entry :=
  [entry .debug
    (s!"Resolved {linkedCount ps} component links; skipped {unnamedCount ps} without a package " ++
      s!"name and {missingCount ps} without a manifest.")]

end BuildGraph

end ComponentLinks
