import ComponentLinks.Outer.Settings.Value
import ComponentLinks.Settings.Field

/-!
# Settings from values

Every field is read as a value of its type, and all fields that are not of their type are told.

## Main definitions

* `SettingFault`: a field whose value is not of its type.
* `Settings.ofPairs`: the settings that pairs of keys and values give.
-/
namespace ComponentLinks

structure SettingFault where
  field : SettingField
  fault : ValueFault
  deriving Repr, DecidableEq

def SettingFault.message (f : SettingFault) : String := s!"{f.field.name}: {f.fault.message}"

namespace Settings

def readField {α : Type} (read : Value → Except ValueFault α) (fallback : α)
    (values : OrderedMap SettingField Value) (f : SettingField) : Except SettingFault α :=
  match values.find? f with
  | none => .ok fallback
  | some v => (read v).mapError (⟨f, ·⟩)

def faultOf {α : Type} : Except SettingFault α → List SettingFault
  | .ok _ => []
  | .error e => [e]

/-- The settings given by pairs of keys and values, or all fields whose values are not of their
type. -/
def ofPairs (pairs : List (String × Value)) : Except (List SettingFault) Settings :=
  let values := given Value.isNull pairs
  let d : Settings := {}
  let normalizes := readField Value.bool? d.normalizesSeparators values .normalizesSeparators
  let heuristics := readField Value.bool? d.usesHeuristics values .usesHeuristics
  let unresolved := readField Value.bool? d.showsUnresolved values .showsUnresolved
  let buildDir := readField Value.text? d.buildDir values .buildDir
  let logFile := readField Value.text? d.logFile values .logFile
  match normalizes, heuristics, unresolved, buildDir, logFile with
  | .ok n, .ok h, .ok u, .ok b, .ok l => .ok ⟨n, h, u, b, l⟩
  | _, _, _, _, _ => .error
    (faultOf normalizes ++ faultOf heuristics ++ faultOf unresolved ++ faultOf buildDir ++
      faultOf logFile)

end Settings

end ComponentLinks
