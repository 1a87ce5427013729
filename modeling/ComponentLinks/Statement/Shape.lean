import ComponentLinks.Path
import ComponentLinks.Target

/-!
# Shapes of statements

Five shapes of statements tell which component of which package is defined by which manifest. Each
shape has a record of what its statement says.

## Main definitions

* `Shape`: the five shapes.
* `PackageAssembly`, `SubComponents`, `Validation`, `Compilation`, `PackageNaming`: what a
  statement of each shape says.
* `Recognized`: a statement of one of the shapes.
* `ManifestRecord`, `PackageRecord`: the facts that commands contribute to the build graph.
-/
namespace ComponentLinks

/-- The shapes of statements that say something about components. -/
inductive Shape where
  | packageAssembly
  | subComponents
  | validation
  | compilation
  | packageNaming
  deriving Repr, DecidableEq

def Shape.name : Shape → String
  | packageAssembly => "package_assembly"
  | subComponents => "sub_components"
  | validation => "validation_command"
  | compilation => "compile_command"
  | packageNaming => "package_naming"

/-- The shapes, in the order in which a statement is tried against them. -/
def Shape.all : List Shape :=
  [packageAssembly, subComponents, validation, compilation, packageNaming]

/-- What is known about a component target: the component's name and its manifest. -/
structure ManifestRecord where
  target : String
  component : String
  manifest : String
  deriving Repr, DecidableEq

/-- What is known about a package target: the package's name. -/
structure PackageRecord where
  target : String
  package : String
  deriving Repr, DecidableEq

/-- A statement that puts a package together from component targets, each a name or a name with the
subdirectory it is in. -/
structure PackageAssembly where
  directory : String
  package : String
  components : List String
  deriving Repr, DecidableEq

namespace PackageAssembly

/-- The target path of the package. -/
def packagePath (a : PackageAssembly) : String := targetPath a.directory a.package

/-- The target path of a component target given relative to a directory: a subdirectory before
the first slash belongs to the directory. -/
def componentPath (directory component : String) : String :=
  let subdirectory := component.toList.takeWhile (· != '/')
  let target := (component.toList.dropWhile (· != '/')).drop 1
  if subdirectory.isEmpty || target.isEmpty then targetPath directory component
  else targetPath (directory ++ "/" ++ String.ofList subdirectory) (String.ofList target)

/-- The target paths of the components. -/
def componentPaths (a : PackageAssembly) : List String :=
  a.components.map (componentPath a.directory)

end PackageAssembly

/-- A statement that builds the manifest of a component from those of its parts. -/
structure SubComponents where
  manifest : String
  directory : String
  component : String
  parts : List String
  deriving Repr, DecidableEq

def SubComponents.componentPath (b : SubComponents) : String := targetPath b.directory b.component

/-- Where the manifest path of a command starts: the repository, or the directory of generated
files. -/
inductive ManifestRoot where
  | source
  | generated
  deriving Repr, DecidableEq

/-- A command that validates the references of a manifest. The stamp of the command may name the
destination, the manifest that the component ends up with; that name comes before those derived from
the manifest file and the label. -/
structure Validation where
  root : ManifestRoot
  manifest : String
  fileName : String
  directory : String
  labelTarget : Option String
  destination : Option String
  deriving Repr, DecidableEq

def withoutEnding (ending : List Char) (cs : List Char) : List Char :=
  if ending.isSuffixOf cs then cs.take (cs.length - ending.length) else cs

@[simp] theorem withoutEnding_append (ending cs : List Char) :
    withoutEnding ending (cs ++ ending) = cs := by
  simp [withoutEnding]

namespace Validation

/-- The manifest named by the stamp, unless that name is empty. -/
def namedDestination (v : Validation) : Option String :=
  v.destination.filter fun name => !name.isEmpty

def componentTarget (v : Validation) : String :=
  match v.namedDestination with
  | some name => name
  | none =>
    String.ofList (withoutEnding "_cmc_validate_references".toList (v.labelTarget.getD "").toList)

def withoutExtension (name : List Char) : List Char :=
  if ".cmx".toList.isSuffixOf name then withoutEnding ".cmx".toList name
  else withoutEnding ".cm".toList name

def componentName (v : Validation) : String :=
  match v.namedDestination with
  | some name => String.ofList (withoutExtension name.toList)
  | none => v.fileName

/-- The path of the manifest relative to the repository: generated files are under the build
directory. -/
def sourceManifest (v : Validation) (buildDir : String) : String :=
  match v.root with
  | .source => v.manifest
  | .generated => joinPaths (joinPaths buildDir "obj") v.manifest

/-- What the command says about its component target. -/
def record (v : Validation) (buildDir : String) : ManifestRecord where
  target := targetPath v.directory v.componentTarget
  component := v.componentName
  manifest := v.sourceManifest buildDir

end Validation

/-- A command that compiles a manifest. -/
structure Compilation where
  manifest : String
  component : String
  directory : String
  target : String
  deriving Repr, DecidableEq

/-- What the command says about its component target. -/
def Compilation.record (c : Compilation) : ManifestRecord where
  target := targetPath c.directory c.target
  component := c.component
  manifest := c.manifest

/-- A command that gives a package its name. -/
structure PackageNaming where
  directory : String
  target : String
  package : String
  deriving Repr, DecidableEq

def PackageNaming.record (p : PackageNaming) : PackageRecord where
  target := targetPath p.directory p.target
  package := p.package

/-- A statement of one of the shapes, with what it says. -/
inductive Recognized where
  | packageAssembly (a : PackageAssembly)
  | subComponents (b : SubComponents)
  | validation (v : Validation)
  | compilation (c : Compilation)
  | packageNaming (p : PackageNaming)
  deriving Repr, DecidableEq

def Recognized.shape : Recognized → Shape
  | packageAssembly _ => .packageAssembly
  | subComponents _ => .subComponents
  | validation _ => .validation
  | compilation _ => .compilation
  | packageNaming _ => .packageNaming

end ComponentLinks
