import ComponentLinks.BuildGraph.Basic
import ComponentLinks.Proofs.Statement.Command

/-!
# Recognizing the compilation of a manifest

The command that compiles the manifest of a component writes what the manifest depends on to a
file, and the path of that file names the target of the component. It is read as just that,
whatever other options there are.

## Main definitions

* `Statement.IsFileStem`: the names of files without their extensions.
* `Statement.CompilationForm`: the commands that compile a manifest.
* `Statement.CompilationForm.compilation_text`: what such a command says.
* `Statement.CompilationForm.exists_record_of_endings`: what it records for a build directory and
  either ending of the file of the dependencies.
-/
namespace ComponentLinks.Statement

open Pattern

/-- Whether a text is the name of a file without its extension. -/
structure IsFileStem (cs : List Char) : Prop where
  ne_nil : cs ≠ []
  visible : IsVisible cs
  no_slash : '/' ∉ cs
  no_dot : '.' ∉ cs

theorem IsFileStem.has {cs : List Char} (h : IsFileStem cs) :
    ∀ c ∈ cs, (CharClass.noneOf ['/', '.']).has c = true := by
  intro c hc
  have hslash : c ≠ '/' := fun heq => h.no_slash (heq ▸ hc)
  have hdot : c ≠ '.' := fun heq => h.no_dot (heq ▸ hc)
  simp [CharClass.has, hslash, hdot]

/-- How the files end that dependencies are written to. -/
def depfileEndings : List (List Char) := [".d".toList, ".cm.d".toList]

/-- How a command is written that compiles the manifest `source` of the component `component` for
the target `target` of the directory `directory`, with other options `options` and `rest` before
and after the file of the dependencies. -/
structure CompilationForm (directory target : List Char) extends CommandForm where
  source : List Char
  component : List Char
  before : List Char
  toolGap : List Char
  taskGap : List Char
  outputStart : List Char
  outputGap : List Char
  outputDirectory : List Char
  outputEnd : Char
  options : List Char
  depfileGap : List Char
  ending : List Char
  rest : List Char
  directory_ne : directory ≠ []
  directory_visible : IsVisible directory
  target_stem : IsFileStem target
  source_ne : source ≠ []
  source_dot : '.' ∉ source
  component_stem : IsFileStem component
  toolGap_ne : toolGap ≠ []
  toolGap_blank : IsBlanks toolGap
  taskGap_ne : taskGap ≠ []
  taskGap_blank : IsBlanks taskGap
  outputStart_ne : outputStart ≠ []
  outputStart_blank : IsBlanks outputStart
  outputGap_ne : outputGap ≠ []
  outputGap_blank : IsBlanks outputGap
  outputDirectory_ne : outputDirectory ≠ []
  outputDirectory_visible : IsVisible outputDirectory
  outputEnd_blank : Text.isBlank outputEnd = true
  depfileGap_ne : depfileGap ≠ []
  depfileGap_blank : IsBlanks depfileGap
  ending_mem : ending ∈ depfileEndings
  rest_apart : ∀ c ∈ rest.head?, Text.isBlank c = true
  tool_first : NoWordEnds "/cmc".toList before
  depfile_last : NoWordEnds "--depfile".toList rest

namespace CompilationForm

variable {directory target : List Char}

def depfileName (f : CompilationForm directory target) : List Char := target ++ f.ending

def afterFlag (f : CompilationForm directory target) : List Char :=
  f.depfileGap ++ ("obj/".toList ++ (directory ++ ("/".toList ++ (f.depfileName ++ f.rest))))

def afterOutput (f : CompilationForm directory target) : List Char :=
  f.outputEnd :: (f.options ++ ("--depfile".toList ++ f.afterFlag))

def fromOutput (f : CompilationForm directory target) : List Char :=
  f.outputDirectory ++ ("/".toList ++ ((f.component ++ ".cm".toList) ++ f.afterOutput))

def afterManifest (f : CompilationForm directory target) : List Char :=
  f.outputStart ++ ("--output".toList ++ (f.outputGap ++ ("obj/".toList ++ f.fromOutput)))

def manifestPath (f : CompilationForm directory target) : List Char := f.source ++ ".cml".toList

def fromTool (f : CompilationForm directory target) : List Char :=
  "/cmc".toList ++ (f.toolGap ++ ("compile".toList ++ (f.taskGap ++ ("../../".toList ++
    (f.manifestPath ++ f.afterManifest)))))

/-- What is run. -/
def words (f : CompilationForm directory target) : List Char := f.before ++ f.fromTool

def keptOfDepfile (f : CompilationForm directory target) (s : Captures Field) : Captures Field :=
  ⟨.componentTarget, target ++ (f.ending ++ f.rest), f.ending ++ f.rest⟩ ::
    ⟨.targetBuildDir, directory ++ ("/".toList ++ (f.depfileName ++ f.rest)),
      "/".toList ++ (f.depfileName ++ f.rest)⟩ :: s

def kept (f : CompilationForm directory target) : Captures Field :=
  f.keptOfDepfile
    [⟨.componentName, f.component ++ (".cm".toList ++ f.afterOutput),
        ".cm".toList ++ f.afterOutput⟩,
     ⟨.manifestPath, f.manifestPath ++ f.afterManifest, f.afterManifest⟩]

def depfilePatterns : List (Pattern Field) :=
  [lit "--depfile", several .blank, lit "obj/", capture .targetBuildDir (several .visible),
   lit "/", capture .componentTarget (several (.noneOf ['/', '.'])), opt (lit ".cm"), lit ".d"]

def outputPatterns : List (Pattern Field) :=
  several .visible :: lit "/" :: capture .componentName (several (.noneOf ['/', '.'])) ::
    lit ".cm" :: one .blank :: many .any :: depfilePatterns

def wordPatterns : List (Pattern Field) :=
  manyLazy .any :: lit "/cmc" :: several .blank :: lit "compile" :: several .blank ::
    lit "../../" :: capture .manifestPath (inOrder [several (.noneOf ['.']), lit ".cml"]) ::
    several .blank :: lit "--output" :: several .blank :: lit "obj/" :: outputPatterns

theorem compilationPattern_eq :
    compilationPattern = inOrder
      (start :: many .blank :: lit "command" :: many .blank :: lit "=" :: wordPatterns) := rfl

section Read

variable {last : Option Char} {s : Captures Field}

theorem exists_ending_eq (f : CompilationForm directory target) :
    ∃ ds, f.ending = '.' :: ds ∧ '/' ∉ ds := by
  have hmem := f.ending_mem
  simp only [depfileEndings, List.mem_cons, List.not_mem_nil, or_false] at hmem
  rcases hmem with h | h <;> exact ⟨_, h, by decide⟩

/-- Either ending of the file of the dependencies is read. -/
theorem read_ending (f : CompilationForm directory target) :
    (inOrder [opt (lit ".cm"), lit ".d"]).read (fun _ s => some s) ⟨last, f.ending ++ f.rest⟩ s =
      some s := by
  have hmem := f.ending_mem
  simp only [depfileEndings, List.mem_cons, List.not_mem_nil, or_false] at hmem
  rw [read_inOrder_cons]
  rcases hmem with h | h <;> rw [h]
  · rw [read_opt_of_none (read_lit_of_not_isPrefix (by simp)), read_cons_lit]
    rfl
  · refine read_opt_of_some ?_
    rw [show ".cm.d".toList ++ f.rest = ".cm".toList ++ (".d".toList ++ f.rest) by simp,
      read_lit_append, read_cons_lit]
    rfl

/-- The path of the file of the dependencies is read up to its end. -/
theorem read_depfile (f : CompilationForm directory target) :
    (inOrder depfilePatterns).read (fun _ s => some s)
      ⟨last, "--depfile".toList ++ f.afterFlag⟩ s = some (f.keptOfDepfile s) := by
  obtain ⟨ds, hds, hslash⟩ := f.exists_ending_eq
  have hname : '/' ∉ f.depfileName := by
    simp [depfileName, hds, hslash, f.target_stem.no_slash]
  rw [depfilePatterns, read_cons_lit, afterFlag]
  refine read_cons_run_of_stop f.depfileGap_blank (by simp [f.depfileGap_ne]) (by simp; decide) ?_
  rw [read_cons_lit, read_cons_capture]
  refine read_to_last_slash f.directory_visible (by simp [f.directory_ne]) hname f.rest_apart ?_ ?_
  · rw [read_cons_lit, depfileName, List.append_assoc]
    refine read_cons_capture_run_of_stop f.target_stem.has (by simp [f.target_stem.ne_nil])
      (by simp [hds, CharClass.has]) ?_
    simpa [keptOfDepfile, depfileName] using f.read_ending
  · intro b s' r' hr'
    obtain ⟨rest, hrest, -⟩ := exists_of_read_cons_lit hr'
    exact ⟨rest, hrest⟩

/-- No flag of a file of dependencies comes after the one that is read. -/
theorem noWordEnds_afterFlag (f : CompilationForm directory target) :
    NoWordEnds "--depfile".toList f.afterFlag := by
  have hflag : IsVisible "--depfile".toList := by decide
  have hending : IsVisible f.ending ∧ f.ending.getLast? = some 'd' := by
    have hmem := f.ending_mem
    simp only [depfileEndings, List.mem_cons, List.not_mem_nil, or_false] at hmem
    rcases hmem with h | h <;> rw [h] <;> decide
  have hpath : IsVisible ("obj/".toList ++ (directory ++ ("/".toList ++ f.depfileName))) := by
    have hobj : IsVisible "obj/".toList := by decide
    have hslash : IsVisible "/".toList := by decide
    have hname := f.target_stem.visible.append hending.1
    exact hobj.append (f.directory_visible.append (hslash.append hname))
  have hafterFlag : f.afterFlag = f.depfileGap ++
      (("obj/".toList ++ (directory ++ ("/".toList ++ f.depfileName))) ++ f.rest) := by
    simp [afterFlag]
  rw [hafterFlag]
  refine noWordEnds_blanks_append (by simp) hflag f.depfileGap_blank
    (noWordEnds_visible_append hflag hpath ?_ f.rest_apart f.depfile_last)
  -- The path does not end with the last letter of the flag.
  rintro ⟨us, hus⟩
  have hpathEq : "obj/".toList ++ (directory ++ ("/".toList ++ f.depfileName)) =
      ("obj/".toList ++ (directory ++ ("/".toList ++ target))) ++ f.ending := by
    simp [depfileName]
  have hlast := congrArg List.getLast? hus
  rw [hpathEq, List.getLast?_append, List.getLast?_append, hending.2] at hlast
  simp at hlast

/-- The last flag of a file of dependencies is read. -/
theorem read_to_depfile (f : CompilationForm directory target) :
    (inOrder (many .any :: depfilePatterns)).read (fun _ s => some s)
      ⟨last, f.options ++ ("--depfile".toList ++ f.afterFlag)⟩ s = some (f.keptOfDepfile s) := by
  rw [read_inOrder_cons]
  refine read_run_longest (by simp [CharClass.has]) (by simp)
    f.read_depfile ?_
  intro ys zs hsplit hys _ r' hr'
  obtain ⟨y, ys, rfl⟩ := List.exists_cons_of_ne_nil hys
  obtain ⟨rest, rfl, hr'⟩ := exists_of_read_cons_lit hr'
  obtain ⟨gap, rest, rfl, hgap, hgapNe, -⟩ := exists_of_read_cons_run hr'
  obtain ⟨c, gap, rfl⟩ := List.exists_cons_of_ne_nil (hgapNe rfl)
  -- Another flag would begin after the first character of this one.
  have hnone : NoWordEnds "--depfile".toList ("-depfile".toList ++ f.afterFlag) := by
    refine noWordEnds_visible_append (by decide) (by decide) (by decide) ?_
      f.noWordEnds_afterFlag
    obtain ⟨g, gs, hg⟩ := List.exists_cons_of_ne_nil f.depfileGap_ne
    simpa [afterFlag, hg] using f.depfileGap_blank g (by simp [hg])
  obtain ⟨-, hsplit⟩ : '-' = y ∧ "-depfile".toList ++ f.afterFlag =
      ys ++ ("--depfile".toList ++ c :: (gap ++ rest)) := by
    simpa using hsplit
  have hblank := hnone ys c (gap ++ rest) hsplit
  have hc : Text.isBlank c = true := hgap c (by simp)
  simp [hc] at hblank

/-- The path of the output is read up to the name of the component, and then the file of the
dependencies. -/
theorem read_output (f : CompilationForm directory target) :
    (inOrder outputPatterns).read (fun _ s => some s) ⟨last, f.fromOutput⟩ s =
      some (f.keptOfDepfile (⟨.componentName, f.component ++ (".cm".toList ++ f.afterOutput),
        ".cm".toList ++ f.afterOutput⟩ :: s)) := by
  have hname : '/' ∉ f.component ++ ".cm".toList := by simp [f.component_stem.no_slash]
  have hafter : ∀ c ∈ f.afterOutput.head?, Text.isBlank c = true := by
    simpa [afterOutput] using f.outputEnd_blank
  unfold fromOutput
  rw [outputPatterns, read_inOrder_cons]
  refine read_to_last_slash f.outputDirectory_visible (by simp [f.outputDirectory_ne]) hname
    hafter ?_ ?_
  · rw [read_cons_lit, List.append_assoc]
    refine read_cons_capture_run_of_stop f.component_stem.has (by simp [f.component_stem.ne_nil])
      (by simp [CharClass.has]) ?_
    rw [read_cons_lit]
    unfold afterOutput
    rw [read_inOrder_cons, read_one_cons (by simpa [CharClass.has] using f.outputEnd_blank)]
    exact f.read_to_depfile
  · intro b s' r' hr'
    obtain ⟨rest, hrest, -⟩ := exists_of_read_cons_lit hr'
    exact ⟨rest, hrest⟩

end Read

theorem read_words (f : CompilationForm directory target) :
    (inOrder wordPatterns).read (fun _ s => some s) ⟨some '=', f.words⟩ [] = some f.kept := by
  unfold words fromTool
  refine f.tool_first.read_to_first (d := '/') (by simp) (by simp) (by decide) f.toolGap_blank
    f.toolGap_ne (by simp; decide) fun last => ?_
  rw [read_cons_lit]
  refine read_cons_run_of_stop f.taskGap_blank (by simp [f.taskGap_ne]) (by simp; decide) ?_
  rw [read_cons_lit, read_cons_capture, manifestPath, List.append_assoc]
  refine read_cons_run_of_stop ?_ (by simp [f.source_ne]) (by simp [CharClass.has]) ?_
  · intro c hc
    have hdot : c ≠ '.' := fun heq => f.source_dot (heq ▸ hc)
    simp [CharClass.has, hdot]
  rw [read_cons_lit, read_inOrder_nil, afterManifest]
  refine read_cons_run_of_stop f.outputStart_blank (by simp [f.outputStart_ne])
    (by simp; decide) ?_
  rw [read_cons_lit]
  refine read_cons_run_of_stop f.outputGap_blank (by simp [f.outputGap_ne]) (by simp; decide) ?_
  rw [read_cons_lit, f.read_output]
  simp [kept, manifestPath, afterManifest]

/-- A command that compiles a manifest says that the manifest is that of the target which the file
of the dependencies is named for. -/
theorem compilation_text (f : CompilationForm directory target) :
    Compilation.ofStatement? (f.text f.words) = some
      { manifest := String.ofList f.manifestPath
        component := String.ofList f.component
        directory := String.ofList directory
        target := String.ofList target } := by
  have hread : compilationPattern.matchText? (f.text f.words) = some f.kept := by
    rw [matchText?_eq, compilationPattern_eq]
    exact f.toCommandForm.read_text
      f.read_words
  rw [Compilation.ofStatement?, hread]
  simp [kept, keptOfDepfile, keptText, Captures.get]

/-- The command with another ending of the file of the dependencies. -/
def withEnding (f : CompilationForm directory target) {ending : List Char}
    (h : ending ∈ depfileEndings) : CompilationForm directory target :=
  { f with ending := ending, ending_mem := h }

/-- A command that compiles a manifest records the manifest of its target whatever the build
directory is, and records the same with either ending of the file of the dependencies. -/
theorem exists_record_of_endings (f : CompilationForm directory target) :
    ∃ c : Compilation,
      (∀ ending (h : ending ∈ depfileEndings),
        Compilation.ofStatement? ((f.withEnding h).text (f.withEnding h).words) = some c) ∧
      c.record = ⟨targetPath (String.ofList directory) (String.ofList target),
        String.ofList f.component, String.ofList f.source ++ ".cml"⟩ ∧
      ∀ (reporting : Bool) (buildDir : String) (g : BuildGraph),
        g.addFacts reporting buildDir (.compilation c) = g.addManifest reporting c.record := by
  refine ⟨⟨String.ofList f.manifestPath, String.ofList f.component, String.ofList directory,
    String.ofList target⟩, ?_, ?_, ?_⟩
  · intro ending h
    exact (f.withEnding h).compilation_text
  · simp [Compilation.record, manifestPath]
  · intro reporting buildDir g
    rfl

end CompilationForm

/-- A command that compiles a manifest, with other options than those that are read. -/
def quxCompilation : CompilationForm "src/qux".toList "qux".toList where
  indent := "  ".toList
  gap := [' ']
  source := "src/qux/meta/qux".toList
  component := "qux".toList
  before := " ../../host_x64".toList
  toolGap := [' ']
  taskGap := [' ']
  outputStart := [' ']
  outputGap := [' ']
  outputDirectory := "src/qux".toList
  outputEnd := ' '
  options := "--includeroot ../../ --includepath ../../ ".toList
  depfileGap := [' ']
  ending := ".cm.d".toList
  rest := " --features allow_long_names".toList
  indent_blank := by decide
  gap_blank := isBlanks_space
  directory_ne := by simp
  directory_visible := by decide
  target_stem := ⟨by simp, by decide, by decide, by decide⟩
  source_ne := by simp
  source_dot := by decide
  component_stem := ⟨by simp, by decide, by decide, by decide⟩
  toolGap_ne := space_ne_nil
  toolGap_blank := isBlanks_space
  taskGap_ne := space_ne_nil
  taskGap_blank := isBlanks_space
  outputStart_ne := space_ne_nil
  outputStart_blank := isBlanks_space
  outputGap_ne := space_ne_nil
  outputGap_blank := isBlanks_space
  outputDirectory_ne := by simp
  outputDirectory_visible := by decide
  outputEnd_blank := isBlank_space
  depfileGap_ne := space_ne_nil
  depfileGap_blank := isBlanks_space
  ending_mem := by decide
  rest_apart := by decide
  tool_first := noWordEnds_of_not_isInfix (by decide +kernel)
  depfile_last := noWordEnds_of_not_isInfix (by decide +kernel)

def quxShort : CompilationForm "src/qux".toList "qux".toList :=
  quxCompilation.withEnding (show ".d".toList ∈ depfileEndings by decide)

theorem exists_record_quxCompilation :
    quxShort.text quxShort.words =
        "  command = ../../host_x64/cmc compile ../../src/qux/meta/qux.cml ".toList ++
          ("--output obj/src/qux/qux.cm --includeroot ../../ --includepath ../../ ".toList ++
            "--depfile obj/src/qux/qux.d --features allow_long_names".toList) ∧
      ∃ c, Compilation.ofStatement? (quxCompilation.text quxCompilation.words) = some c ∧
        Compilation.ofStatement? (quxShort.text quxShort.words) = some c ∧
        c.record = ⟨"src/qux:qux", "qux", "src/qux/meta/qux.cml"⟩ := by
  obtain ⟨c, hc, hrecord, -⟩ := quxCompilation.exists_record_of_endings
  exact ⟨by decide +kernel, c, hc _ quxCompilation.ending_mem, hc _ quxShort.ending_mem, hrecord⟩

end ComponentLinks.Statement
