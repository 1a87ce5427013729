import ComponentLinks.Proofs.Statement.Command

/-!
# Recognizing the naming of a package

The command that puts the archive of a package together gives the package its name. It is read as
just that, unless it has the shape of a command about manifests.

## Main definitions

* `Statement.NamingForm`: the commands that give a package its name.
* `Statement.NamingForm.ofStatement?_text`: what such a command says.
-/
namespace ComponentLinks.Statement

open Pattern

/-- How a command is written that gives the package `package` of the directory `directory` the name
`name`, with other options `options` and `rest` after the package and after the name. -/
structure NamingForm (directory package name : List Char) extends CommandForm where
  before : List Char
  toolGap : List Char
  packageGap : List Char
  packageEnd : Char
  options : List Char
  nameGap : List Char
  rest : List Char
  toolGap_ne : toolGap ≠ []
  toolGap_blank : IsBlanks toolGap
  packageGap_ne : packageGap ≠ []
  packageGap_blank : IsBlanks packageGap
  packageEnd_blank : Text.isBlank packageEnd = true
  nameGap_ne : nameGap ≠ []
  nameGap_blank : IsBlanks nameGap
  rest_apart : ∀ c ∈ rest.head?, Text.isBlank c = true
  tool_first : NoWordEnds "/pm".toList before
  name_first : NoWordEnds "-n".toList options

namespace NamingForm

variable {directory package name : List Char}

def fromName (f : NamingForm directory package name) : List Char :=
  "-n".toList ++ (f.nameGap ++ (name ++ f.rest))

def afterPackage (f : NamingForm directory package name) : List Char :=
  f.packageEnd :: (f.options ++ f.fromName)

def fromTool (f : NamingForm directory package name) : List Char :=
  "/pm".toList ++ (f.toolGap ++ ("-o".toList ++ (f.packageGap ++ ("obj/".toList ++
    (directory ++ ("/".toList ++ (package ++ f.afterPackage)))))))

/-- What is run. -/
def words (f : NamingForm directory package name) : List Char :=
  f.before ++ f.fromTool

def kept (f : NamingForm directory package name) : Captures Field :=
  [⟨.packageName, name ++ f.rest, f.rest⟩,
   ⟨.packageTarget, package ++ f.afterPackage, f.afterPackage⟩,
   ⟨.targetBuildDir, directory ++ ("/".toList ++ (package ++ f.afterPackage)),
     "/".toList ++ (package ++ f.afterPackage)⟩]

theorem read_to_name (f : NamingForm directory package name) (hname : IsName name)
    (last : Option Char) (s : Captures Field) :
    (inOrder [manyLazy .any, lit "-n", several .blank, capture .packageName (several .name),
      blankOrEnd]).read (fun _ s => some s) ⟨last, f.options ++ f.fromName⟩ s =
        some (⟨.packageName, name ++ f.rest, f.rest⟩ :: s) := by
  obtain ⟨n, ns, hn⟩ := List.exists_cons_of_ne_nil hname.1
  have hnBlank : Text.isBlank n = false := hname.isVisible n (by simp [hn])
  unfold fromName
  refine f.name_first.read_to_first (d := '-') (by simp) (by simp) (by decide) f.nameGap_blank
    f.nameGap_ne (by simpa [hn] using hnBlank) fun last => ?_
  refine read_cons_capture_run_of_stop hname.2 (by simp [hname.1]) ?_ ?_
  · exact fun c hc => Text.isName_eq_false_of_isBlank (f.rest_apart c hc)
  · rw [read_inOrder_cons, read_blankOrEnd_of_isBlankOrEnd]
    · simp
    · cases hrest : f.rest with
      | nil => rfl
      | cons c rest => simpa [Place.isBlankOrEnd] using f.rest_apart c (by simp [hrest])

def packagePatterns : List (Pattern Field) :=
  [capture .targetBuildDir (several .visible), lit "/", capture .packageTarget (several .visible),
   one .blank, manyLazy .any, lit "-n", several .blank, capture .packageName (several .name),
   blankOrEnd]

/-- The path of the package is read up to the last slash and its end. -/
theorem read_package (f : NamingForm directory package name) (hdirectory : IsDirectory directory)
    (hpackage : IsName package) (hname : IsName name) (last : Option Char) :
    (inOrder packagePatterns).read (fun _ s => some s)
      ⟨last, directory ++ ("/".toList ++ (package ++ f.afterPackage))⟩ [] = some f.kept := by
  have hafter : ∀ c ∈ f.afterPackage.head?, Text.isBlank c = true := by
    simpa [afterPackage] using f.packageEnd_blank
  rw [packagePatterns, read_cons_capture]
  refine read_to_last_slash hdirectory.isVisible (by simp [hdirectory.1])
    (hpackage.not_mem (by decide)) hafter ?_ ?_
  · rw [read_cons_lit]
    refine read_cons_capture_run_of_stop ?_ (by simp [hpackage.1])
      (by simpa [afterPackage, CharClass.has] using f.packageEnd_blank) ?_
    · intro c hc
      simp [CharClass.has, hpackage.isVisible c hc]
    unfold afterPackage
    rw [read_inOrder_cons, read_one_cons (by simpa [CharClass.has] using f.packageEnd_blank)]
    exact f.read_to_name hname _ _
  · intro b s' r' hr'
    obtain ⟨rest, hrest, -⟩ := exists_of_read_cons_lit hr'
    exact ⟨rest, hrest⟩

def toolPatterns : List (Pattern Field) :=
  lit "/pm" :: several .blank :: lit "-o" :: several .blank :: lit "obj/" :: packagePatterns

theorem read_words (f : NamingForm directory package name) (hdirectory : IsDirectory directory)
    (hpackage : IsName package) (hname : IsName name) (last : Option Char) :
    (inOrder (manyLazy .any :: toolPatterns)).read (fun _ s => some s) ⟨last, f.words⟩ [] =
      some f.kept := by
  unfold words fromTool toolPatterns
  refine f.tool_first.read_to_first (d := '/') (by simp) (by simp) (by decide) f.toolGap_blank
    f.toolGap_ne (by simp; decide) fun last => ?_
  rw [read_cons_lit]
  refine read_cons_run_of_stop f.packageGap_blank (by simp [f.packageGap_ne]) (by simp; decide) ?_
  rw [read_cons_lit]
  exact f.read_package hdirectory hpackage hname _

theorem packageNaming_of_read (f : NamingForm directory package name) {words : List Char}
    (h : (inOrder (manyLazy .any :: toolPatterns)).read (fun _ s => some s) ⟨some '=', words⟩ [] =
      some f.kept) :
    PackageNaming.ofStatement? (f.text words) = some
      ⟨String.ofList directory, String.ofList package, String.ofList name⟩ := by
  have hread : namingPattern.matchText? (f.text words) = some f.kept := by
    rw [matchText?_eq]
    exact f.toCommandForm.read_text h
  rw [PackageNaming.ofStatement?, hread]
  simp [kept, keptText, Captures.get]

/-- A command that puts the archive of a package together, and has neither of the shapes of
commands about manifests, says that the package has the name. -/
theorem ofStatement?_text (f : NamingForm directory package name)
    (hdirectory : IsDirectory directory) (hpackage : IsName package) (hname : IsName name)
    (hvalidation : Validation.ofStatement? (f.text f.words) = none)
    (hcompilation : Compilation.ofStatement? (f.text f.words) = none) :
    Recognized.ofStatement? (f.text f.words) = some (.packageNaming
      ⟨String.ofList directory, String.ofList package, String.ofList name⟩) := by
  rw [f.toCommandForm.ofStatement?_text, hvalidation, hcompilation,
    f.packageNaming_of_read (f.read_words hdirectory hpackage hname _)]
  rfl

end NamingForm

end ComponentLinks.Statement
