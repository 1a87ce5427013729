import ComponentLinks.Table.Manifests
import ComponentLinks.Table.References

/-!
# The link index

Both tables of a repository, for reading only. An index that reads hyphens as underscores tries an
identifier as it is first, and then with underscores.

## Main definitions

* `LinkIndex`: the two tables with the repository they belong to.
* `LinkIndex.resolve`: the manifest of a component.
* `LinkIndex.referencesTo`: the references to the component that a manifest defines.
* `LinkIndex.identifierOf?`: the component that a manifest defines.
* `Stats`: the counts that sum an index up.
-/
namespace ComponentLinks

/-- The two tables of a repository. If `normalizes` is set, identifiers are also looked up with
hyphens read as underscores. -/
structure LinkIndex where
  base : Path
  manifests : ManifestTable
  references : ReferenceTable
  normalizes : Bool
  deriving DecidableEq

/-- The counts that sum an index up. -/
structure Stats where
  identifiers : Nat
  manifests : Nat
  referencedIdentifiers : Nat
  references : Nat
  deriving Repr, DecidableEq

def Stats.entries (s : Stats) : List (String × Nat) :=
  [("identifiers", s.identifiers), ("manifests", s.manifests),
   ("referenced_identifiers", s.referencedIdentifiers), ("references", s.references)]

def Stats.toString (s : Stats) : String :=
  "\x7b" ++ ", ".intercalate (s.entries.map fun e => s!"'{e.1}': {e.2}") ++ "\x7d"

namespace LinkIndex

def empty (base : Path) (normalizes : Bool) : LinkIndex :=
  ⟨base, .empty normalizes, .empty normalizes, normalizes⟩

/-- The index of a repository with the tables that are known; an unknown table is empty. -/
def ofTables (base : Path) (normalizes : Bool) (manifests : Option ManifestTable)
    (references : Option ReferenceTable) : LinkIndex :=
  ⟨base, manifests.getD (.empty normalizes), references.getD (.empty normalizes), normalizes⟩

/-- The answer of a look-up for an identifier: for the identifier as it is or, if hyphens are read
as underscores, for the identifier with underscores. -/
def eitherSpelling {α : Type} (normalizes : Bool) (lookUp : String → Option α) (id : String) :
    Option α :=
  match lookUp id with
  | some a => some a
  | none => if normalizes then lookUp (unhyphenated id) else none

/-- The manifest that defines a component. -/
def resolve (x : LinkIndex) (id : String) : Option Path :=
  eitherSpelling x.normalizes x.manifests.manifest? id

/-- The component that a manifest defines; a relative path is taken from the repository. -/
def identifierOf? (x : LinkIndex) (manifest : Path) : Option String :=
  x.manifests.identifierOf? (x.base.join manifest)

/-- The references to the component that a manifest defines; nothing if the manifest is not known
or its component is never referred to. -/
def referencesTo (x : LinkIndex) (manifest : Path) : Option (List Reference) :=
  (x.identifierOf? manifest).bind (eitherSpelling x.normalizes x.references.references?)

def stats (x : LinkIndex) : Stats where
  identifiers := x.manifests.size
  manifests := x.manifests.manifestCount
  referencedIdentifiers := x.references.size
  references := x.references.referenceCount

@[simp] theorem eitherSpelling_none {α : Type} (normalizes : Bool) (id : String) :
    eitherSpelling normalizes (fun _ => (none : Option α)) id = none := by
  cases normalizes <;> rfl

@[simp] theorem resolve_empty (base : Path) (normalizes : Bool) (id : String) :
    (empty base normalizes).resolve id = none := by
  cases normalizes <;> rfl

@[simp] theorem referencesTo_empty (base : Path) (normalizes : Bool) (manifest : Path) :
    (empty base normalizes).referencesTo manifest = none := by
  simp [referencesTo, identifierOf?, empty]

end LinkIndex

end ComponentLinks
