import ComponentLinks.BuildGraph.Basic
import ComponentLinks.Pattern.Source

/-!
# Checking a log's format

A log that lacks every statement of some necessary kind is not understood: its format has changed.

## Main definitions

* `ShapeGroup`: the kinds of statements of which each must occur.
* `BuildGraph.missingGroups`: the kinds that did not occur.
* `BuildGraph.check`: the report on them.
-/
namespace ComponentLinks

/-- A kind of statements of which at least one must occur in any one of its shapes. -/
inductive ShapeGroup where
  | packageAssembly
  | componentManifest
  | packageNaming
  deriving Repr, DecidableEq

namespace ShapeGroup

def all : List ShapeGroup := [packageAssembly, componentManifest, packageNaming]

def name : ShapeGroup → String
  | packageAssembly => "package assembly"
  | componentManifest => "component manifest"
  | packageNaming => "package naming"

/-- A shape of a group: its name, what its statements are called and their pattern. -/
structure Member where
  shape : Shape
  description : String
  pattern : Pattern Statement.Field

/-- The shapes of a group. -/
def members : ShapeGroup → List Member
  | packageAssembly =>
    [⟨.packageAssembly, "a 'build meta.far' statement", Statement.assemblyPattern⟩]
  | componentManifest =>
    [⟨.validation, "a 'validate .cmx manifest' command", Statement.validationPattern⟩,
     ⟨.compilation, "a 'compile .cml manifest' command", Statement.compilationPattern⟩]
  | packageNaming => [⟨.packageNaming, "a 'build package' command", Statement.namingPattern⟩]

def occursIn (group : ShapeGroup) (seen : SeenShapes) : Bool :=
  group.members.any fun m => seen.contains m.shape

def missingMessage (group : ShapeGroup) (logName : String) : String :=
  let descriptions := " or ".intercalate (group.members.map (·.description))
  let patterns := "\n".intercalate
    (group.members.map fun m => s!"  {m.shape.name} = {m.pattern.source Statement.Field.name}")
  s!"The ninja build file '{logName}' did not contain any lines matching the expected pattern " ++
    s!"to identify {group.name} in {descriptions}:\n\n{patterns}\n"

end ShapeGroup

namespace BuildGraph

/-- The groups of which no statement was seen. -/
def missingGroups (g : BuildGraph) : List ShapeGroup :=
  ShapeGroup.all.filter fun group => !group.occursIn g.seen

/-- One fatal report for each group of which no statement was seen. -/
def check (g : BuildGraph) (logName : String) : List Diagnostic :=
  g.missingGroups.map fun group => ⟨.formatMismatch, group.missingMessage logName, true⟩

/-- The check of a graph has nothing to report exactly if every group occurs. -/
theorem check_eq_nil_iff (g : BuildGraph) (logName : String) :
    g.check logName = [] ↔ ∀ group ∈ ShapeGroup.all, group.occursIn g.seen = true := by
  simp [check, missingGroups]

end BuildGraph

end ComponentLinks
