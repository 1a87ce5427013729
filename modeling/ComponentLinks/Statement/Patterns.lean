import ComponentLinks.Pattern.Basic

/-!
# Patterns of statements

The written forms of the five shapes of statements. Words may be separated by any blanks, line
ends among them, so a statement may be spread over several lines.

## Main definitions

* `Statement.Field`: the parts of statements that are kept.
* `Statement.assemblyPattern`, `Statement.manifestPattern`, `Statement.validationPattern`,
  `Statement.compilationPattern`, `Statement.namingPattern`: the five patterns.
* `Statement.packageDependencyPattern`, `Statement.partPattern`: the dependencies that name
  components of a package, and parts of a component.
-/
namespace ComponentLinks

namespace Statement

/-- The parts of statements that are kept. -/
inductive Field where
  | targetBuildDir
  | packageTarget
  | otherOutputs
  | rule
  | inputs
  | dependencies
  | manifestPath
  | componentTarget
  | destComponentManifest
  | pathRoot
  | fallbackComponentName
  | fallbackComponentTarget
  | componentName
  | packageName
  | componentTargetPrefix
  | componentBuildSubdir
  | subComponentTarget
  deriving Repr, DecidableEq

def Field.name : Field → String
  | targetBuildDir => "target_build_dir"
  | packageTarget => "package_target"
  | otherOutputs => "other_outputs"
  | rule => "rule"
  | inputs => "inputs"
  | dependencies => "dependencies"
  | manifestPath => "manifest_path"
  | componentTarget => "component_target"
  | destComponentManifest => "dest_component_manifest"
  | pathRoot => "path_root"
  | fallbackComponentName => "fallback_component_name"
  | fallbackComponentTarget => "fallback_component_target"
  | componentName => "component_name"
  | packageName => "package_name"
  | componentTargetPrefix => "component_target_prefix"
  | componentBuildSubdir => "component_build_subdir"
  | subComponentTarget => "sub_component_target"

open Pattern

/-- What follows the recognized output of a build statement: the other outputs, the rule, the
inputs, and after a bar the dependencies. -/
def buildTrailer : Pattern Field := inOrder
  [many .blank, capture .otherOutputs (many (.noneOf [':'])), many .blank, lit ":",
   many .blank, capture .rule (several .visible),
   many .blank, capture .inputs (several (.noneOf ['|'])), lit "|",
   capture .dependencies (many .any)]

def assemblyPattern : Pattern Field := inOrder
  [start, many .blank, lit "build", many .blank, lit "obj/",
   capture .targetBuildDir (severalLazy (.noneOf ['.'])), lit "/",
   capture .packageTarget (several .name), lit "/meta.far", buildTrailer]

def manifestPattern : Pattern Field := inOrder
  [start, many .blank, lit "build", many .blank, lit "obj/",
   capture .manifestPath <| inOrder
     [capture .targetBuildDir (severalLazy (.noneOf ['.'])), lit "/",
      capture .componentTarget (several .name), lit ".cm", one (.oneOf ['x', 'l'])],
   buildTrailer]

/-- A command that validates the references of a manifest. The stamp is read only where it names
the manifest that the component ends up with. -/
def validationPattern : Pattern Field := inOrder
  [start, many .blank, lit "command", many .blank, lit "=",
   manyLazy .any, lit "host_", several .word, lit "/cmc", one .blank,
   opt <| inOrder
     [manyLazy .any, lit "--stamp", several .blank, manyLazy .visible,
      lit "_validate_manifests_", opt (capture .destComponentManifest (severalLazy .dottedName)),
      lit ".action.stamp", boundary],
   manyLazy .any, one .blank, lit "validate-references",
   manyLazy .any, lit "--component-manifest", several .blank,
   capture .pathRoot (alt (lit "../..") (lit "obj")), lit "/",
   capture .manifestPath <| inOrder
     [many .visible, lit "/", capture .fallbackComponentName (several (.noneOf ['/', '.'])),
      lit ".cm", opt (one (.oneOf ['x', 'l']))],
   manyLazy .any, lit "--gn-label", several .blank, lit "//",
   capture .targetBuildDir (several (.noneOf ['$'])), lit "$:",
   opt (capture .fallbackComponentTarget (several .name)), boundary]

def compilationPattern : Pattern Field := inOrder
  [start, many .blank, lit "command", many .blank, lit "=",
   manyLazy .any, lit "/cmc", several .blank, lit "compile",
   several .blank, lit "../../",
   capture .manifestPath (inOrder [several (.noneOf ['.']), lit ".cml"]),
   several .blank, lit "--output", several .blank, lit "obj/", several .visible, lit "/",
   capture .componentName (several (.noneOf ['/', '.'])), lit ".cm", one .blank,
   many .any, lit "--depfile", several .blank, lit "obj/",
   capture .targetBuildDir (several .visible), lit "/",
   capture .componentTarget (several (.noneOf ['/', '.'])), opt (lit ".cm"), lit ".d"]

def namingPattern : Pattern Field := inOrder
  [start, many .blank, lit "command", many .blank, lit "=",
   manyLazy .any, lit "/pm", several .blank, lit "-o", several .blank, lit "obj/",
   capture .targetBuildDir (several .visible), lit "/",
   capture .packageTarget (several .visible), one .blank,
   manyLazy .any, lit "-n", several .blank, capture .packageName (several .name), blankOrEnd]

/-- Stamps among the dependencies of a package that never name a component. -/
def nonComponentStamp : Pattern Field :=
  alt (lit "manifest.stamp")
    (alt (lit "metadata.stamp")
      (alt (inOrder [lit "validate_manifests", several (.noneOf ['/']), lit ".stamp"])
        (inOrder [severalLazy .visible, lit "_component_index.stamp"])))

/-- A stamp among the dependencies of the package `package` in the directory `directory`. Outputs
of the package itself are left out; the target may stand one directory down, and may begin with
the name of the package. -/
def packageDependencyPattern (directory package : List Char) : Pattern Field := inOrder
  [many .blank, lit "obj/", text directory, notBefore ('/' :: package ++ ['.']), lit "/",
   alt (opt (inOrder [capture .componentTargetPrefix (text package), lit "_"]))
     (capture .componentBuildSubdir (several (.noneOf ['.', '/']))),
   opt (lit "/"),
   alt nonComponentStamp <| inOrder
     [capture .componentTarget (severalLazy (.noneOf ['/'])), opt (lit ".manifest"),
      lit ".stamp"]]

/-- Endings of stamps that a manifest depends on without being built from them. -/
def auxiliaryEndings : List (List Char) :=
  ["check_includes".toList, "cmc_validate_references".toList, "manifest_resource".toList,
   "merge".toList, "validate".toList]

def altsBefore (ps : List (Pattern Field)) (last : Pattern Field) : Pattern Field :=
  ps.foldr alt last

/-- A stamp in the directory of a component: one of the component's own auxiliary stamps, or the
stamp of a target that its manifest is built from. -/
def partPattern (directory component : List Char) : Pattern Field := inOrder
  [many .blank, lit "obj/", text directory, lit "/",
   altsBefore (auxiliaryEndings.map fun ending => text (component ++ '_' :: ending))
     (capture .subComponentTarget (several .name)),
   lit ".stamp"]

end Statement

end ComponentLinks
