import ComponentLinks.OrderedMap
import ComponentLinks.Path
import ComponentLinks.Target

/-!
# Tables of manifests

Which manifest defines which component, read in both directions. An identifier leads to the last
manifest stored for it. A manifest leads back to the last component that owns it; a component that
only shares the manifest of another one is an answer while no owner is known.

## Main definitions

* `ManifestLink`: one association of a component with a manifest.
* `ManifestTable`: the table, and `ManifestTable.add`, `ManifestTable.ofLinks` to fill it.
* `ManifestTable.manifest?`, `ManifestTable.identifierOf?`: its two directions.
-/
namespace ComponentLinks

/-- One association of a component with a manifest, which may be shared with the component that owns
it. -/
structure ManifestLink where
  package : String
  component : String
  manifest : Path
  shared : Bool
  deriving Repr, DecidableEq

def ManifestLink.identifier (l : ManifestLink) : String :=
  ComponentLinks.identifier l.package l.component

/-- Identifiers with their manifests, and manifests, by their normalized paths, with their
identifiers. -/
structure ManifestTable where
  normalizes : Bool
  forward : OrderedMap String Path
  reverse : OrderedMap Path String
  deriving DecidableEq

namespace ManifestTable

def empty (normalizes : Bool) : ManifestTable := ⟨normalizes, .empty, .empty⟩

/-- The manifests by identifier, with a manifest registered for an identifier. -/
def register (normalizes : Bool) (forward : OrderedMap String Path) (id : String)
    (manifest : Path) : OrderedMap String Path :=
  if normalizes && unhyphenated id != id then
    (forward.insert id manifest).insert (unhyphenated id) manifest
  else forward.insert id manifest

/-- The identifiers by manifest, with a link told to the manifest: an owner always takes the
entry, a component that shares the manifest takes it only while it is free. -/
def recordOwner (reverse : OrderedMap Path String) (l : ManifestLink) : OrderedMap Path String :=
  if l.shared && reverse.contains l.manifest.normalized then reverse
  else reverse.insert l.manifest.normalized l.identifier

/-- The table with one more link. -/
def add (t : ManifestTable) (l : ManifestLink) : ManifestTable where
  normalizes := t.normalizes
  forward := register t.normalizes t.forward l.identifier l.manifest
  reverse := recordOwner t.reverse l

/-- The table of links added one after the other. -/
def ofLinks (normalizes : Bool) (links : List ManifestLink) : ManifestTable :=
  links.foldl add (empty normalizes)

/-- The manifest registered for an identifier. -/
def manifest? (t : ManifestTable) (id : String) : Option Path := t.forward.find? id

def identifierOf? (t : ManifestTable) (manifest : Path) : Option String :=
  t.reverse.find? manifest.normalized

def size (t : ManifestTable) : Nat := t.forward.size

def manifestCount (t : ManifestTable) : Nat := t.reverse.size

@[simp] theorem normalizes_add (t : ManifestTable) (l : ManifestLink) :
    (t.add l).normalizes = t.normalizes := rfl

@[simp] theorem manifest?_empty (normalizes : Bool) (id : String) :
    (empty normalizes).manifest? id = none := rfl

@[simp] theorem identifierOf?_empty (normalizes : Bool) (manifest : Path) :
    (empty normalizes).identifierOf? manifest = none := rfl

/-- A link changes what its identifier leads to and, in a normalizing table, what the identifier
with underscores leads to. -/
theorem manifest?_add (t : ManifestTable) (l : ManifestLink) (id : String) :
    (t.add l).manifest? id =
      if l.identifier = id ∨ (t.normalizes = true ∧ unhyphenated l.identifier = id) then
        some l.manifest
      else t.manifest? id := by
  cases hn : t.normalizes <;> by_cases hu : unhyphenated l.identifier = l.identifier <;>
    by_cases hi : l.identifier = id <;> by_cases hv : unhyphenated l.identifier = id <;>
    simp_all [add, manifest?, register]

/-- An owner takes the entry of its manifest, and a component that shares the manifest takes it
only while it is free. -/
theorem identifierOf?_add (t : ManifestTable) (l : ManifestLink) (manifest : Path) :
    (t.add l).identifierOf? manifest =
      if l.manifest.normalized = manifest.normalized ∧
          (l.shared = false ∨ t.identifierOf? manifest = none) then
        some l.identifier
      else t.identifierOf? manifest := by
  unfold identifierOf? add recordOwner OrderedMap.contains
  cases hs : l.shared <;> by_cases hm : l.manifest.normalized = manifest.normalized <;>
    cases hr : t.reverse.find? l.manifest.normalized <;> simp_all

end ManifestTable

end ComponentLinks
