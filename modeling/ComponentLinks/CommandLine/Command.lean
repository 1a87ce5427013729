import ComponentLinks.CommandLine.Console
import ComponentLinks.CommandLine.Invocation
import ComponentLinks.Workspace

/-!
# What commands print

Each command looks something up in the index and prints it. Identifiers, manifests, component URLs
and the names of files are put into markup as they are.

## Main definitions

* `CommandLine.Command.printed`: what a command prints.
* `CommandLine.reports`: what is printed about the making of an index.
-/
namespace ComponentLinks.CommandLine

/-- The markup for an identifier: its manifest, or that there is none. -/
def resolvedMarkup (x : LinkIndex) (id : String) : String :=
  match x.resolve id with
  | some manifest => s!"[green]{id}[/]: {manifest.toString}"
  | none => s!"[red]{id}[/]: not found"

def unreferencedMarkup (manifest : String) : String := s!"[dim]No references to {manifest}[/]"

/-- What is printed for the references to a manifest. -/
def referencesPrinted (x : LinkIndex) (manifest : String) : List Printed :=
  match (x.referencesTo (.ofString manifest)).getD [] with
  | [] => [.markup (unreferencedMarkup manifest)]
  | refs => refs.map fun r => .verbatim r.toString

/-- The row for a component URL. One without a manifest has a row only on request. -/
def linkRow? (x : LinkIndex) (showsUnresolved : Bool) (u : ComponentUrl) :
    Option (String × String) :=
  match x.resolve u.identifier with
  | some manifest => some (u.url, manifest.toString)
  | none => if showsUnresolved then some (u.url, "[red]not found[/]") else none

def linkSheet (w : Workspace) (file : String) (text : List Char) : Sheet where
  title := file
  columns := (⟨"Component URL", false⟩, ⟨"Manifest", false⟩)
  rows := (ComponentUrl.findAll text).filterMap (linkRow? w.index w.settings.showsUnresolved)

def statsSheet (x : LinkIndex) : Sheet where
  title := x.base.toString
  columns := (⟨"Entry", false⟩, ⟨"Count", true⟩)
  rows := x.stats.entries.map fun (name, count) => (name, toString count)

def reports (ds : List Diagnostic) : List Printed :=
  ds.map fun d => .panel d.kind.name d.message (if d.fatal then "red" else "yellow")

/-- What a command prints of a workspace. -/
def Command.printed (files : Files) (w : Workspace) : Command → Except SystemError (List Printed)
  | .resolve ids => .ok (ids.map fun id => .markup (resolvedMarkup w.index id))
  | .references manifest => .ok (referencesPrinted w.index manifest)
  | .links file => (files.text (Path.ofString file).toString).map fun text =>
    [.sheet (linkSheet w file text)]
  | .stats => .ok (.sheet (statsSheet w.index) :: reports w.diagnostics)

/-- Whether a command prints the reports on the making of the index itself. -/
def Command.showsReports : Command → Bool
  | .stats => true
  | _ => false

end ComponentLinks.CommandLine
