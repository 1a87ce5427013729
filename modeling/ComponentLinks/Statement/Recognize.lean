import ComponentLinks.Pattern.Match
import ComponentLinks.Statement.Patterns
import ComponentLinks.Statement.Shape

/-!
# Recognizing statements

A statement is tried against the five shapes in their order, and the first one that it has counts.

## Main definitions

* `PackageAssembly.ofStatement?`, `SubComponents.ofStatement?`, `Validation.ofStatement?`,
  `Compilation.ofStatement?`, `PackageNaming.ofStatement?`: what a statement says in each shape.
* `Recognized.inShape?`: what a statement says in a given shape.
* `Recognized.ofStatement?`: what a statement says in the first shape that it has.
-/
namespace ComponentLinks

open Statement

def keptText (s : Captures Field) (f : Field) : String := String.ofList (s.get f)

namespace PackageAssembly

def placeholderTarget : List Char := "component".toList

/-- The name that is left of an index stamp without the name of its package. -/
def indexTarget : List Char := "component_index".toList

/-- The component target named by a dependency, if it names one. The only component of a package
keeps the package's name in front; other targets lose it. -/
def dependencyTarget? (s : Captures Field) : Option (List Char) :=
  match s.get? .componentTarget with
  | none => none
  | some target =>
    let package := s.get .componentTargetPrefix
    let subdirectory := s.get .componentBuildSubdir
    if target.isEmpty || (!package.isEmpty && target == indexTarget) then none
    else
      let name := if !package.isEmpty && target == placeholderTarget then
        package ++ '_' :: target else target
      some (if subdirectory.isEmpty then name else subdirectory ++ '/' :: name)

/-- The component targets named by the dependencies of a package. -/
def dependencyTargets (directory package dependencies : List Char) : List (List Char) :=
  ((packageDependencyPattern directory package).scan dependencies).filterMap fun m =>
    dependencyTarget? m.captures

/-- What a statement says about the contents of a package. -/
def ofStatement? (statement : List Char) : Option PackageAssembly :=
  (assemblyPattern.matchText? statement).map fun s =>
    { directory := keptText s .targetBuildDir
      package := keptText s .packageTarget
      components := (dependencyTargets (s.get .targetBuildDir) (s.get .packageTarget)
        (s.get .dependencies)).map String.ofList }

end PackageAssembly

namespace SubComponents

/-- The targets named by the dependencies of a component's manifest. -/
def dependencyTargets (directory component dependencies : List Char) : List (List Char) :=
  ((partPattern directory component).scan dependencies).filterMap fun m =>
    m.captures.get? .subComponentTarget

/-- What a statement says about the parts of a component. -/
def ofStatement? (statement : List Char) : Option SubComponents :=
  (manifestPattern.matchText? statement).map fun s =>
    { manifest := keptText s .manifestPath
      directory := keptText s .targetBuildDir
      component := keptText s .componentTarget
      parts := (dependencyTargets (s.get .targetBuildDir) (s.get .componentTarget)
        (s.get .dependencies)).map String.ofList }

end SubComponents

namespace Validation

/-- The root that a manifest path starts from. -/
def rootOf (root : List Char) : ManifestRoot :=
  if root = "../..".toList then .source else .generated

/-- What a statement says about a validated manifest. A command that names its component target
neither in the stamp nor in the label says nothing. -/
def ofStatement? (statement : List Char) : Option Validation :=
  match validationPattern.matchText? statement with
  | none => none
  | some s =>
    let destination := s.get? .destComponentManifest
    let target := s.get? .fallbackComponentTarget
    if destination.isNone && target.isNone then none
    else some
      { root := rootOf (s.get .pathRoot)
        manifest := keptText s .manifestPath
        fileName := keptText s .fallbackComponentName
        directory := keptText s .targetBuildDir
        labelTarget := target.map String.ofList
        destination := destination.map String.ofList }

end Validation

def Compilation.ofStatement? (statement : List Char) : Option Compilation :=
  (compilationPattern.matchText? statement).map fun s =>
    { manifest := keptText s .manifestPath
      component := keptText s .componentName
      directory := keptText s .targetBuildDir
      target := keptText s .componentTarget }

def PackageNaming.ofStatement? (statement : List Char) : Option PackageNaming :=
  (namingPattern.matchText? statement).map fun s =>
    { directory := keptText s .targetBuildDir
      target := keptText s .packageTarget
      package := keptText s .packageName }

namespace Recognized

/-- What a statement says in a given shape. -/
def inShape? (statement : List Char) : Shape → Option Recognized
  | .packageAssembly => (PackageAssembly.ofStatement? statement).map packageAssembly
  | .subComponents => (SubComponents.ofStatement? statement).map subComponents
  | .validation => (Validation.ofStatement? statement).map validation
  | .compilation => (Compilation.ofStatement? statement).map compilation
  | .packageNaming => (PackageNaming.ofStatement? statement).map packageNaming

/-- What a statement says in the first shape that it has. -/
def ofStatement? (statement : List Char) : Option Recognized :=
  Shape.all.findSome? (inShape? statement)

end Recognized

end ComponentLinks
