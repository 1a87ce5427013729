import ComponentLinks.OrderedMap
import ComponentLinks.Settings

/-!
# Keys of settings

Settings are given as values under keys. A key is the name of a field or the name that an editor
gives the setting; several keys may mean one field, and the last one given counts. What a value may
be is left open.

## Main definitions

* `SettingField`: the fields of settings.
* `SettingField.ofKey?`: the field that a key means.
* `Settings.given`: the values given for the fields.
-/
namespace ComponentLinks

/-- The fields of settings. -/
inductive SettingField where
  | normalizesSeparators
  | usesHeuristics
  | showsUnresolved
  | buildDir
  | logFile
  deriving Repr, DecidableEq

namespace SettingField

def all : List SettingField :=
  [normalizesSeparators, usesHeuristics, showsUnresolved, buildDir, logFile]

def name : SettingField → String
  | normalizesSeparators => "normalize_word_separators"
  | usesHeuristics => "use_heuristics_to_find_more_links"
  | showsUnresolved => "show_unresolved_links"
  | buildDir => "build_dir"
  | logFile => "ninja_file"

def editorKeys : List (String × SettingField) :=
  [("fuchsiAware.showUnresolvedTerminalLinks", showsUnresolved),
   ("fuchsiAware.normalizeWordSeparators", normalizesSeparators),
   ("useHeuristicsToFindMoreLinks", usesHeuristics),
   ("fuchsiAware.useHeuristicsToFindMoreLinks", usesHeuristics),
   ("fuchsiAware.buildDir", buildDir)]

def ofKey? (key : String) : Option SettingField :=
  (editorKeys.lookup key).or (all.find? fun f => f.name = key)

theorem ofKey?_name (f : SettingField) : ofKey? f.name = some f := by
  cases f <;> decide

end SettingField

/-- The values given for fields. Keys that mean no field, and keys with a value that gives nothing,
are left out; a key given twice counts where it was given first. -/
def Settings.given {α : Type} (isNothing : α → Bool) (pairs : List (String × α)) :
    OrderedMap SettingField α :=
  .ofList <| (OrderedMap.ofList pairs).toList.filterMap fun entry =>
    if isNothing entry.2 then none else (SettingField.ofKey? entry.1).map fun f => (f, entry.2)

end ComponentLinks
