import ComponentLinks.BuildGraph.Check
import ComponentLinks.Journal

/-!
# Remarks on a log

What the reading of a dependency log says in the journal: an example of the first statement of
each shape, and every record that differs from the one known for its target.

## Main definitions

* `BuildGraph.remarks`: the entries for one statement.
* `BuildGraph.journal`: the entries for a whole log.
* `BuildGraph.checkJournal`: the entries for the report on missing kinds of statements.
-/
namespace ComponentLinks

namespace BuildGraph

def entry (level : Level) (message : String) : Journal.Entry := ⟨.buildGraph, level, message⟩

def assemblyExample (logName : String) (a : PackageAssembly) : List Journal.Entry :=
  a.componentPaths.head?.toList.map fun path => entry .debug
    (s!"Associating packages to components based on build dependencies in {logName}, for " ++
      s!"example, package '{a.package}' will include at least the component built from ninja " ++
      s!"target '{path}'.")

def partsExample (logName : String) (b : SubComponents) : List Journal.Entry :=
  b.parts.head?.toList.map fun part => entry .debug
    (s!"Associating sub-components to components based on build dependencies in {logName}, for " ++
      s!"example, '{b.componentPath}' will include at least the component built from ninja " ++
      s!"target '{part}'.")

def manifestExample (logName : String) (r : ManifestRecord) : Journal.Entry := entry .debug
  (s!"Matching components to manifests based on build commands in {logName}, for example, " ++
    s!"'{r.manifest}' is the manifest source for a component to be named '{r.component}', and " ++
    s!"built via ninja target '{r.target}'.")

def nameExample (logName : String) (r : PackageRecord) : Journal.Entry := entry .debug
  (s!"Matching package targets to package names based on build commands in {logName}, for " ++
    s!"example, '{r.target}' is the build target for a package to be named '{r.package}'.")

def examples (logName buildDir : String) : Recognized → List Journal.Entry
  | .packageAssembly a => assemblyExample logName a
  | .subComponents b => partsExample logName b
  | .validation v => [manifestExample logName (v.record buildDir)]
  | .compilation c => [manifestExample logName c.record]
  | .packageNaming p => [nameExample logName p.record]

def conflictEntries (g : BuildGraph) (r : ManifestRecord) : List Journal.Entry :=
  (g.conflictReports r).map fun d => entry .debug s!"WARNING (debug-only check): {d.message}"

def conflicts (g : BuildGraph) (buildDir : String) : Recognized → List Journal.Entry
  | .validation v => g.conflictEntries (v.record buildDir)
  | .compilation c => g.conflictEntries c.record
  | _ => []

/-- The entries for one statement that follows what a graph knows. -/
def remarks (g : BuildGraph) (logName buildDir : String) (r : Recognized) : List Journal.Entry :=
  (if g.seen.contains r.shape then [] else examples logName buildDir r) ++ g.conflicts buildDir r

def journalFrom (logName buildDir : String) (g : BuildGraph) :
    List Recognized → List Journal.Entry
  | [] => []
  | r :: rs =>
    g.remarks logName buildDir r ++ journalFrom logName buildDir (g.add false buildDir r) rs

/-- The entries for a whole log. -/
def journal (logName buildDir : String) (rs : List Recognized) : List Journal.Entry :=
  journalFrom logName buildDir empty rs

/-- The entries for the report on missing kinds of statements. -/
def checkJournal (g : BuildGraph) (logName : String) : List Journal.Entry :=
  (g.check logName).map fun d => entry .error d.message

end BuildGraph

end ComponentLinks
