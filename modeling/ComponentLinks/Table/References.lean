import ComponentLinks.Location
import ComponentLinks.OrderedMap
import ComponentLinks.Target

/-!
# Tables of references

Where each component is referred to: for every identifier the occurrences of URLs that name it, in
the order in which they were recorded.

## Main definitions

* `ReferenceTable`: the table, and `ReferenceTable.add`, `ReferenceTable.ofList` to fill it.
* `ReferenceTable.references?`: the occurrences for an identifier.
-/
namespace ComponentLinks

/-- Identifiers with the places that refer to them, in the order of recording. -/
structure ReferenceTable where
  normalizes : Bool
  entries : OrderedMap String (List Reference)
  deriving DecidableEq

namespace ReferenceTable

def empty (normalizes : Bool) : ReferenceTable := ⟨normalizes, .empty⟩

/-- The table with one more reference to an identifier. Where hyphens are read as underscores and
make a difference, both spellings keep a list of their own. -/
def add (t : ReferenceTable) (id : String) (r : Reference) : ReferenceTable where
  normalizes := t.normalizes
  entries :=
    if t.normalizes && unhyphenated id != id then
      (t.entries.push id r).push (unhyphenated id) r
    else t.entries.push id r

/-- The table of references recorded one after the other. -/
def ofList (normalizes : Bool) (xs : List (String × Reference)) : ReferenceTable :=
  xs.foldl (fun t x => t.add x.1 x.2) (empty normalizes)

/-- The references to an identifier; nothing if there are none. -/
def references? (t : ReferenceTable) (id : String) : Option (List Reference) :=
  t.entries.find? id

def size (t : ReferenceTable) : Nat := t.entries.size

/-- The number of references, counted under every identifier that has them. -/
def referenceCount (t : ReferenceTable) : Nat :=
  t.entries.toList.foldr (fun entry n => entry.2.length + n) 0

@[simp] theorem normalizes_add (t : ReferenceTable) (id : String) (r : Reference) :
    (t.add id r).normalizes = t.normalizes := rfl

@[simp] theorem references?_empty (normalizes : Bool) (id : String) :
    (empty normalizes).references? id = none := rfl

/-- A reference comes at the end of the list of its identifier and, in a normalizing table, at the
end of the list of the identifier with underscores: once, if the two are the same. -/
theorem references?_add (t : ReferenceTable) (id : String) (r : Reference) (j : String) :
    (t.add id r).references? j =
      if id = j ∨ (t.normalizes = true ∧ unhyphenated id = j) then
        some ((t.references? j).getD [] ++ [r])
      else t.references? j := by
  unfold add references?
  grind [OrderedMap.find?_push]

end ReferenceTable

end ComponentLinks
