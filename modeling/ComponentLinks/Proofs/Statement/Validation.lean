import ComponentLinks.Proofs.Statement.ManifestFlags

/-!
# Recognizing the validation of a manifest

The command that validates the references of a manifest names the manifest by its path and the
component by a label. It is read as just that, unless its stamp names the manifest that the
component ends up with.

## Main definitions

* `Statement.NamesDestination`: the commands with a stamp that names a manifest.
* `Statement.ValidationWords.ofStatement?_words`: what a command without such a stamp says.
* `Statement.ValidationForm.Validates`: the commands for the manifest of one component.
* `Statement.ValidationForm.Validates.ofStatement?_text`: what such a command says.
-/
namespace ComponentLinks.Statement

open Pattern

/-- Whether a stamp of a command names the manifest that the component ends up with. -/
def NamesDestination (cs : List Char) : Prop :=
  ∃ before gap word after,
    cs = before ++ ("--stamp".toList ++ (gap ++ (word ++
      ("_validate_manifests_".toList ++ after)))) ∧
      gap ≠ [] ∧ IsBlanks gap ∧ IsVisible word

theorem not_namesDestination_of_not_isInfix {cs : List Char}
    (h : ¬ "_validate_manifests_".toList <:+: cs) : ¬ NamesDestination cs := by
  rintro ⟨before, gap, word, after, rfl, -, -, -⟩
  exact h ⟨before ++ ("--stamp".toList ++ (gap ++ word)), after, by simp⟩

/-- Without a stamp that names a manifest, a command that validates references says that the
manifest is the one of the target in the label. -/
theorem ValidationWords.ofStatement?_words (f : ValidationWords) (c : CommandForm)
    (hfirst : f.IsFirst) (hnone : ¬ NamesDestination f.words) :
    Recognized.ofStatement? (c.text f.words) = some (.validation (f.said [])) := by
  refine ofStatement?_of_read c (f.read_words fun xs us last hopening => ?_)
  rw [read_inOrder_cons, read_opt_of_none]
  · exact f.read_task_afterTool hfirst hopening last []
  · by_contra hsome
    obtain ⟨r, hr⟩ := Option.ne_none_iff_exists'.1 hsome
    obtain ⟨before, gap, rest, hus, hne, hgap, hr⟩ := exists_of_read_stamp hr
    obtain ⟨word, after, rfl, hword, -⟩ := exists_of_read_stampWord hr
    refine hnone ⟨xs ++ before, gap, word, after, ?_, hne, hgap, hword⟩
    rw [words, hopening, List.append_assoc, List.append_assoc, List.append_assoc]
    exact congrArg (xs ++ ·) hus

/-- How a command is written that validates the references of a manifest. -/
structure ValidationForm extends CommandForm, ValidationWords

namespace ValidationForm

variable {f : ValidationForm} {directory component source manifest : List Char}

/-- Whether a command validates the references of the manifest `manifest` in the directory `source`
of the repository, for the component `component` of the directory `directory`. The flags of the
manifest and the label are the first ones, and no stamp names another manifest. -/
structure Validates (f : ValidationForm) (directory component source manifest : List Char) :
    Prop where
  root_eq : f.root = "../..".toList
  source_eq : f.source = source
  manifest_eq : f.manifest = manifest
  ending_eq : f.ending = ".cmx".toList
  directory_eq : f.directory = directory
  label_eq : f.label = component ++ "_cmc_validate_references".toList
  first : f.IsFirst
  no_destination : ¬ NamesDestination f.words

/-- What a command says that validates the references of a manifest: the manifest is the one of the
component. -/
def saidOf (directory component source manifest : List Char) : Validation where
  root := .source
  manifest := String.ofList (source ++ ("/".toList ++ (manifest ++ ".cmx".toList)))
  fileName := String.ofList manifest
  directory := String.ofList directory
  labelTarget := some (String.ofList (component ++ "_cmc_validate_references".toList))
  destination := none

theorem Validates.ofStatement?_text (h : f.Validates directory component source manifest) :
    Recognized.ofStatement? (f.text f.words) =
      some (.validation (saidOf directory component source manifest)) := by
  have hsaid : f.said [] = saidOf directory component source manifest := by
    simp only [ValidationWords.said, ManifestFlags.manifestPath, h.root_eq, h.source_eq,
      h.manifest_eq, h.ending_eq, h.directory_eq, h.label_eq]
    rfl
  rw [← hsaid]
  exact f.ofStatement?_words f.toCommandForm h.first h.no_destination

end ValidationForm

end ComponentLinks.Statement
