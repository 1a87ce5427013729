import ComponentLinks.Files
import ComponentLinks.Outer.Settings.Given
import ComponentLinks.Outer.Yaml.Value
import ComponentLinks.Path

/-!
# Settings files

The outer layer of the settings: they are read from a YAML file that holds one mapping, and an empty
file leaves every setting at its default. Nothing is stated about it.

## Main definitions

* `Settings.LoadError`: why settings cannot be read from a file.
* `Settings.ofText`: the settings that a text gives.
* `Settings.load`: the settings of a file.
-/
namespace ComponentLinks

namespace Settings

/-- Why settings cannot be read from a file. -/
inductive LoadError where
  | system (e : SystemError)
  | encoding (f : Utf8.Fault)
  | yaml (f : Yaml.Fault)
  | noMapping (path : String)
  | invalid (faults : List SettingFault)

def LoadError.message : LoadError → String
  | system e => e.message
  | encoding f => f.message
  | yaml f => f.message
  | noMapping path => s!"Expected a mapping of settings in {path}"
  | invalid faults => ", ".intercalate (faults.map SettingFault.message)

/-- Whether a user who asks for a file is told why it cannot be read. -/
def LoadError.isReported : LoadError → Bool
  | yaml f => f.isReported
  | _ => true

def textPairs (entries : List (Value × Value)) : List (String × Value) :=
  entries.filterMap fun entry =>
    match entry.1 with
    | .text key => some (key, entry.2)
    | _ => none

def ofText (path : String) (text : List Char) : Except LoadError Settings := do
  match ← (Yaml.document text).mapError .yaml with
  | none => return {}
  | some node =>
    match ← node.value.mapError .yaml with
    | .null => return {}
    | .mapping entries => (ofPairs (textPairs entries)).mapError .invalid
    | _ => throw (.noMapping path)

/-- The settings of the file at a path. -/
def load (files : Files) (path : Path) : Except LoadError Settings :=
  match files.bytes path.toString with
  | .error e => .error (.system e)
  | .ok bytes =>
    match Utf8.decode? bytes with
    | .error f => .error (.encoding (f.inFile bytes))
    | .ok text => ofText path.toString (Text.unifyNewlines text)

end Settings

end ComponentLinks
