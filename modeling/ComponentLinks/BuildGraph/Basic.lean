import ComponentLinks.Diagnostic
import ComponentLinks.OrderedMap
import ComponentLinks.Statement.Basic
import ComponentLinks.Statement.Recognize

/-!
# The build graph

What one reading of the dependency log tells about packages and components: which packages a
component target is built into, which manifest and which parts a component target has, and what
each package is called.

## Main definitions

* `SeenShapes`: the shapes of statements seen so far.
* `BuildGraph`: the facts collected from a log.
* `BuildGraph.add`: the facts with those of one more statement.
* `BuildGraph.ofRecognized`, `BuildGraph.ofLines`: the facts of a whole log.
-/
namespace ComponentLinks

/-- Which shapes of statements have been seen. -/
structure SeenShapes where
  packageAssembly : Bool := false
  subComponents : Bool := false
  validation : Bool := false
  compilation : Bool := false
  packageNaming : Bool := false
  deriving Repr, DecidableEq

namespace SeenShapes

/-- Whether a shape has been seen. -/
def contains (s : SeenShapes) : Shape → Bool
  | .packageAssembly => s.packageAssembly
  | .subComponents => s.subComponents
  | .validation => s.validation
  | .compilation => s.compilation
  | .packageNaming => s.packageNaming

def insert (s : SeenShapes) : Shape → SeenShapes
  | .packageAssembly => { s with packageAssembly := true }
  | .subComponents => { s with subComponents := true }
  | .validation => { s with validation := true }
  | .compilation => { s with compilation := true }
  | .packageNaming => { s with packageNaming := true }

@[simp] theorem contains_insert (s : SeenShapes) (a b : Shape) :
    (s.insert a).contains b = (decide (a = b) || s.contains b) := by
  cases a <;> cases b <;> rfl

end SeenShapes

/-- The facts collected from a dependency log: under each target what is known about it, which
shapes of statements were seen, and the differing associations reported on the way. -/
structure BuildGraph where
  packagesOf : OrderedMap String (List String)
  manifestOf : OrderedMap String ManifestRecord
  partsOf : OrderedMap String (List String)
  nameOf : OrderedMap String String
  seen : SeenShapes
  diagnostics : List Diagnostic
  deriving DecidableEq

namespace BuildGraph

def empty : BuildGraph := ⟨.empty, .empty, .empty, .empty, {}, []⟩

def addAssembly (g : BuildGraph) (a : PackageAssembly) : BuildGraph :=
  { g with
    packagesOf := a.componentPaths.foldl (fun m path => m.push path a.packagePath) g.packagesOf }

def addParts (g : BuildGraph) (b : SubComponents) : BuildGraph :=
  { g with partsOf := b.parts.foldl (fun m part => m.push b.componentPath part) g.partsOf }

/-- The record of the same target that a new record differs from. -/
def conflict? (g : BuildGraph) (r : ManifestRecord) : Option ManifestRecord :=
  (g.manifestOf.find? r.target).filter fun known => known != r

/-- What is said about two differing records of one target. -/
def conflictMessage (known new : ManifestRecord) : String :=
  s!"componentTargetPath '{new.target}' has duplicate entries: ({known.component}, " ++
    s!"{known.manifest}) != ({new.component}, {new.manifest})"

def conflictReports (g : BuildGraph) (r : ManifestRecord) : List Diagnostic :=
  (g.conflict? r).toList.map fun known =>
    ⟨.duplicateAssociation, conflictMessage known r, false⟩

/-- The graph after a record of a component target. The last record of a target counts; differing
records are reported only if they are looked for. -/
def addManifest (reporting : Bool) (g : BuildGraph) (r : ManifestRecord) : BuildGraph :=
  { g with
    manifestOf := g.manifestOf.insert r.target r
    diagnostics := g.diagnostics ++ if reporting then g.conflictReports r else [] }

def addName (g : BuildGraph) (r : PackageRecord) : BuildGraph :=
  { g with nameOf := g.nameOf.insert r.target r.package }

/-- The graph with the facts of one more statement, apart from its shape. -/
def addFacts (reporting : Bool) (buildDir : String) (g : BuildGraph) : Recognized → BuildGraph
  | .packageAssembly a => g.addAssembly a
  | .subComponents b => g.addParts b
  | .validation v => g.addManifest reporting (v.record buildDir)
  | .compilation c => g.addManifest reporting c.record
  | .packageNaming p => g.addName p.record

/-- The graph with one more statement. -/
def add (reporting : Bool) (buildDir : String) (g : BuildGraph) (r : Recognized) : BuildGraph :=
  { g.addFacts reporting buildDir r with seen := g.seen.insert r.shape }

/-- The graph of statements of the five shapes. Differing records of one target are reported if
`reporting`. -/
def ofRecognized (reporting : Bool) (buildDir : String) (rs : List Recognized) : BuildGraph :=
  rs.foldl (add reporting buildDir) empty

/-- The statements of the five shapes in a log, given its physical lines. -/
def recognizedLines (lines : List (List Char)) : List Recognized :=
  (Statement.ofLines lines).filterMap Recognized.ofStatement?

/-- The graph of a log, given its physical lines. -/
def ofLines (reporting : Bool) (buildDir : String) (lines : List (List Char)) : BuildGraph :=
  ofRecognized reporting buildDir (recognizedLines lines)

end BuildGraph

end ComponentLinks
