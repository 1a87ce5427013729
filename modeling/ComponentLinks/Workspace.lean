import ComponentLinks.BuildGraph.Survey
import ComponentLinks.Index
import ComponentLinks.Search.Output

/-!
# Workspaces

A workspace holds a repository, the settings, and the index that was published last together with
the reports on its making. Both passes always run; a pass that fails leaves its half of the index
empty.

## Main definitions

* `Workspace`: the repository with its published index.
* `Workspace.blank`, `Workspace.ofPath`: a workspace of which nothing is known yet.
* `Workspace.refresh`: making and publishing an index.
* `Workspace.clear`: taking the index back.
-/
namespace ComponentLinks

/-- A repository with its published index. -/
structure Workspace where
  base : Path
  settings : Settings
  index : LinkIndex
  diagnostics : List Diagnostic

namespace Workspace

/-- A workspace of which nothing is known yet. -/
def blank (base : Path) (settings : Settings) : Workspace :=
  ⟨base, settings, .empty base settings.normalizesSeparators, []⟩

/-- The workspace of a written repository path; an empty one means the current directory. -/
def ofPath (here : Path) (base : String) (settings : Settings) : Workspace :=
  blank (if base.isEmpty then here.resolved here else here.resolved (.ofString base)) settings

def failedHalves (links references : Outcome) : List String :=
  (if links.success then [] else ["manifest links"]) ++
    if references.success then [] else ["references"]

/-- The entry about the published index. -/
def summary (index : LinkIndex) (links references : Outcome) : Journal.Entry :=
  if links.success && references.success then
    ⟨.manager, .info, s!"Component link index ready: {index.stats.toString}"⟩
  else
    ⟨.manager, .error, "Component link index initialization failed for: " ++
      ", ".intercalate (failedHalves links references)⟩

/-- What making an index gives. -/
structure Refreshed where
  workspace : Workspace
  success : Bool
  journal : List Journal.Entry

/-- Makes an index from the dependency log and the search, and publishes it. A fault in the
output of the search publishes nothing. -/
def refresh (w : Workspace) (threshold : Level) (files : Files) (run : Search.Run) :
    Except Text.NumeralFault Refreshed :=
  let links := BuildGraph.survey w.settings threshold files w.base
  (Search.scan w.settings w.base run).map fun references =>
    let index := LinkIndex.ofTables w.base w.settings.normalizesSeparators links.table
      references.table
    { workspace :=
        { w with
          index := index
          diagnostics := links.outcome.diagnostics ++ references.outcome.diagnostics }
      success := links.outcome.success && references.outcome.success
      journal := links.journal ++ references.journal ++
        [summary index links.outcome references.outcome] }

/-- The workspace with its index taken back. -/
def clear (w : Workspace) : Workspace := blank w.base w.settings

@[simp] theorem base_clear (w : Workspace) : w.clear.base = w.base := rfl

@[simp] theorem settings_clear (w : Workspace) : w.clear.settings = w.settings := rfl

@[simp] theorem diagnostics_clear (w : Workspace) : w.clear.diagnostics = [] := rfl

end Workspace

end ComponentLinks
