import ComponentLinks.Proofs.Pattern.Spacing
import ComponentLinks.Proofs.Statement.Naming
import ComponentLinks.Proofs.Statement.PackageDependencies

/-!
# One target path for a package

A package is put together by a build statement and named by a command, and the two are joined by
the target path of the package. The statement gives it as the directory of the archive, and the
command as the output of the packaging tool. Both are cut at the same slash, so they agree on the
path.

The command may run other tools before. The first run of the packaging tool is read, and the blanks
between its words do not matter.

## Main definitions

* `Statement.RunsTool`, `Statement.IsFirstRun`: where the packaging tool is run on an output.
* `Statement.NamingForm.packageNaming_front_words`: what is read of the first run.
* `Statement.packagePath_agree`: the target path of the archive and that of the name.
-/
namespace ComponentLinks.Statement

open Pattern

/-! ## Runs of the packaging tool -/

/-- How the packaging tool is run on an output, with one space in the place of each run of
blanks. -/
def toolRun : List Char := "/pm -o obj/".toList

/-- Whether a text begins by running the packaging tool on an output, however it is spaced. -/
def RunsTool (cs : List Char) : Prop := toolRun <+: Text.squeeze cs

instance (cs : List Char) : Decidable (RunsTool cs) := inferInstanceAs (Decidable (_ <+: _))

/-- Whether no run of the packaging tool on an output begins in `front`, before `rest`. -/
def IsFirstRun (front rest : List Char) : Prop :=
  ∀ n < front.length, ¬ RunsTool (front.drop n ++ rest)

instance (front rest : List Char) : Decidable (IsFirstRun front rest) :=
  inferInstanceAs (Decidable (∀ n < front.length, _))

/-- Where the tool and its output are read, the tool is run on an output. -/
theorem runsTool_of_read {α : Type} {k : Place → Captures Field → Option α} {a : Place}
    {s : Captures Field} {r : α} (h : (inOrder NamingForm.toolPatterns).read k a s = some r) :
    RunsTool a.rest := by
  obtain ⟨rest, hrest, h⟩ := exists_of_read_cons_lit h
  obtain ⟨gap, rest, rfl, hgap, hgapNe, h⟩ := exists_of_read_cons_run h
  obtain ⟨rest, rfl, h⟩ := exists_of_read_cons_lit h
  obtain ⟨gap', rest, rfl, hgap', hgapNe', h⟩ := exists_of_read_cons_run h
  obtain ⟨rest, rfl, -⟩ := exists_of_read_cons_lit h
  have htool : Text.IsGap gap := ⟨hgapNe rfl, hgap⟩
  have houtput : Text.IsGap gap' := ⟨hgapNe' rfl, hgap'⟩
  have hsqueezed : Text.squeeze a.rest = toolRun ++ Text.squeeze rest := by
    rw [hrest, Text.squeeze_visible_append (by decide), htool.squeeze_append (by simp; decide),
      Text.squeeze_visible_append (by decide), houtput.squeeze_append (by simp; decide),
      Text.squeeze_visible_append (by decide)]
    rfl
  exact ⟨_, hsqueezed.symm⟩

namespace NamingForm

variable {directory package name front : List Char}

/-- Whatever stands before the first run of the tool is passed over. -/
theorem read_front_words (f : NamingForm directory package name)
    (hdirectory : IsDirectory directory) (hpackage : IsName package) (hname : IsName name)
    (hfirst : IsFirstRun front f.words) (last : Option Char) :
    (inOrder (manyLazy .any :: toolPatterns)).read (fun _ s => some s)
      ⟨last, front ++ f.words⟩ [] = some f.kept := by
  rw [← f.read_words hdirectory hpackage hname (lastAfter last front), read_inOrder_cons,
    read_inOrder_cons]
  refine readRun_append_of_none .shortest (by simp [CharClass.has]) ?_
  intro a ha
  obtain ⟨us, zs, rfl, hne, rfl⟩ := exists_of_mem_placesIn ha
  have hnone : ¬ RunsTool (zs ++ f.words) := by
    have hplace := hfirst us.length (by simp [List.length_pos_iff.2 hne])
    rwa [List.drop_left] at hplace
  by_contra hsome
  obtain ⟨r, hr⟩ := Option.ne_none_iff_exists'.1 hsome
  exact hnone (runsTool_of_read hr)

/-- A command names the package that its first run of the tool puts together. -/
theorem packageNaming_front_words (f : NamingForm directory package name)
    (hdirectory : IsDirectory directory) (hpackage : IsName package) (hname : IsName name)
    (hfirst : IsFirstRun front f.words) :
    PackageNaming.ofStatement? (f.text (front ++ f.words)) = some
      ⟨String.ofList directory, String.ofList package, String.ofList name⟩ :=
  f.packageNaming_of_read (f.read_front_words hdirectory hpackage hname hfirst _)

end NamingForm

/-! ## The path of the archive and the path of the name -/

section Agree

variable {directory package name : List Char}

/-- The command that names a package, by the first run of the tool in it, and the build statement
of its archive have the same target path. -/
theorem packagePath_agree (hdirectory : IsDirectory directory) (hpackage : IsName package)
    (hname : IsName name) :
    (∀ (f : NamingForm directory package name) (front : List Char), IsFirstRun front f.words →
      ∃ p, PackageNaming.ofStatement? (f.text (front ++ f.words)) = some p ∧
        p.record = ⟨targetPath (String.ofList directory) (String.ofList package),
          String.ofList name⟩) ∧
    ∀ f : BuildForm, ∃ a,
      PackageAssembly.ofStatement? (f.text (archivePath directory package)) = some a ∧
        a.packagePath = targetPath (String.ofList directory) (String.ofList package) := by
  refine ⟨?_, ?_⟩
  · intro f front hfirst
    exact ⟨_, f.packageNaming_front_words hdirectory hpackage hname hfirst, rfl⟩
  · intro f
    exact ⟨_, assembly_archive f hdirectory hpackage, rfl⟩

def spacedNaming : NamingForm "d".toList "p".toList "n".toList where
  indent := []
  gap := [' ']
  before := []
  toolGap := [' ']
  packageGap := [' ']
  packageEnd := ' '
  options := "-m k ".toList
  nameGap := [' ']
  rest := []
  indent_blank := isBlanks_nil
  gap_blank := isBlanks_space
  toolGap_ne := space_ne_nil
  toolGap_blank := isBlanks_space
  packageGap_ne := space_ne_nil
  packageGap_blank := isBlanks_space
  packageEnd_blank := isBlank_space
  nameGap_ne := space_ne_nil
  nameGap_blank := isBlanks_space
  rest_apart := isBlank_head_nil
  tool_first := noWordEnds_of_not_isInfix (by decide)
  name_first := noWordEnds_of_not_isInfix (by decide +kernel)

/-- A run of the packaging tool on no output. -/
def helpRun : List Char := " a/pm -h && b".toList

theorem packagePath_agree_helpRun :
    IsDirectory "d".toList ∧ IsName "p".toList ∧ IsName "n".toList ∧
      IsFirstRun helpRun spacedNaming.words ∧
      (∃ p, PackageNaming.ofStatement? (spacedNaming.text (helpRun ++ spacedNaming.words)) =
        some p ∧ p.record = ⟨"d:p", "n"⟩) ∧
      ∃ a, PackageAssembly.ofStatement? ((dependentOn " obj/d/c.stamp".toList).text
        (archivePath "d".toList "p".toList)) = some a ∧ a.packagePath = "d:p" := by
  have hdirectory : IsDirectory "d".toList := by decide
  have hpackage : IsName "p".toList := by decide
  have hname : IsName "n".toList := by decide
  have hfirst : IsFirstRun helpRun spacedNaming.words := by decide +kernel
  obtain ⟨hnaming, hassembly⟩ := packagePath_agree hdirectory hpackage hname
  exact ⟨hdirectory, hpackage, hname, hfirst, hnaming spacedNaming helpRun hfirst, hassembly _⟩

/-- A run of the packaging tool that is broken over two lines. -/
def brokenRun : List Char := " a/pm \n  -o obj/x/y -n m && b".toList

/-- After a run that is spaced otherwise, a command names the package of that run, although the text
of the tool and its output stands in the command once. -/
theorem packageNaming_brokenRun :
    spacedNaming.text (brokenRun ++ spacedNaming.words) =
        "command = a/pm \n  -o obj/x/y -n m && b/pm -o obj/d/p -m k -n n".toList ∧
      (List.range (spacedNaming.text (brokenRun ++ spacedNaming.words)).length).countP (fun n =>
        toolRun.isPrefixOf ((spacedNaming.text (brokenRun ++ spacedNaming.words)).drop n)) = 1 ∧
      (PackageNaming.ofStatement? (spacedNaming.text (brokenRun ++ spacedNaming.words))).map
        (·.record) = some ⟨"x:y", "m"⟩ ∧
      ¬ ∃ p, PackageNaming.ofStatement? (spacedNaming.text (brokenRun ++ spacedNaming.words)) =
        some p ∧ p.record = ⟨"d:p", "n"⟩ := by
  have hread : (PackageNaming.ofStatement? (spacedNaming.text
      (brokenRun ++ spacedNaming.words))).map (·.record) = some ⟨"x:y", "m"⟩ := by
    decide +kernel
  refine ⟨by decide +kernel, by decide +kernel, hread, ?_⟩
  rintro ⟨p, hp, hrecord⟩
  rw [hp, Option.map_some, hrecord] at hread
  simp at hread

end Agree

end ComponentLinks.Statement
