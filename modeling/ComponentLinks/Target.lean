/-!
# Target paths and identifiers

A target path names one build rule: its directory, a colon, its name. An identifier names one
component the way component URLs do: package, slash, component.

## Main definitions

* `targetPath`: the path of a target in a directory.
* `identifier`: the identifier of a component in a package.
* `unhyphenated`: an identifier with hyphens read as underscores.
-/
namespace ComponentLinks

/-- The target path of the target with the given name in a directory. -/
def targetPath (directory target : String) : String := directory ++ ":" ++ target

def identifier (package component : String) : String := package ++ "/" ++ component

def unhyphenatedChar (c : Char) : Char := if c = '-' then '_' else c

/-- The identifier with every hyphen read as an underscore. -/
def unhyphenated (id : String) : String := id.map unhyphenatedChar

@[simp] theorem toList_targetPath (directory target : String) :
    (targetPath directory target).toList = directory.toList ++ ':' :: target.toList := by
  simp [targetPath]

@[simp] theorem toList_identifier (package component : String) :
    (identifier package component).toList = package.toList ++ '/' :: component.toList := by
  simp [identifier]

@[simp] theorem unhyphenatedChar_idem (c : Char) :
    unhyphenatedChar (unhyphenatedChar c) = unhyphenatedChar c := by
  by_cases h : c = '-' <;> simp [unhyphenatedChar, h]

/-- Reading hyphens as underscores a second time changes nothing. -/
@[simp] theorem unhyphenated_idem (id : String) :
    unhyphenated (unhyphenated id) = unhyphenated id := by
  apply String.toList_inj.1
  simp [unhyphenated, Function.comp_def]

theorem unhyphenatedChar_ne (c : Char) : unhyphenatedChar c ≠ '-' := by
  unfold unhyphenatedChar
  split
  · decide
  · assumption

theorem hyphen_not_mem_unhyphenated (id : String) : '-' ∉ (unhyphenated id).toList := by
  rw [unhyphenated, String.toList_map, List.mem_map]
  rintro ⟨c, -, hc⟩
  exact unhyphenatedChar_ne c hc

theorem unhyphenated_of_not_mem {id : String} (h : '-' ∉ id.toList) : unhyphenated id = id := by
  have hchar : ∀ c ∈ id.toList, unhyphenatedChar c = c := by
    intro c hc
    have hne : c ≠ '-' := fun heq => h (heq ▸ hc)
    simp [unhyphenatedChar, hne]
  apply String.toList_inj.1
  rw [unhyphenated, String.toList_map, List.map_congr_left hchar, List.map_id']

/-- Reading hyphens as underscores keeps exactly the identifiers without hyphens. -/
theorem unhyphenated_eq_self_iff {id : String} : unhyphenated id = id ↔ '-' ∉ id.toList := by
  constructor
  · intro heq
    rw [← heq]
    exact hyphen_not_mem_unhyphenated id
  · exact unhyphenated_of_not_mem

end ComponentLinks
