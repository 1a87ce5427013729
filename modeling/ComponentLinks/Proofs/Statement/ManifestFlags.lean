import ComponentLinks.Proofs.Statement.Command

/-!
# The flags of a validation command

A command that validates the references of a manifest names the manifest by its path and the
component by a label. What is kept of the command from the flag of the manifest on does not depend
on the words around, if the flags of the manifest and the label are the first ones.

## Main definitions

* `Statement.ManifestFlags`: how the manifest and the label are written.
* `Statement.ManifestFlags.read_manifest`: what is read of them.
* `Statement.ValidationWords`: how the words of the command are written.
* `Statement.ValidationWords.read_task`: the manifest is found from the task on.
* `Statement.ValidationWords.read_words`: the task is found after any tool.
* `Statement.ValidationWords.said`, `Statement.ValidationWords.ofStatement?_of_read`: what the
  command says.
-/
namespace ComponentLinks.Statement

open Pattern

/-- The roots that the path of a manifest may start from. -/
def manifestRoots : List (List Char) := ["../..".toList, "obj".toList]

def manifestEndings : List (List Char) := [".cm".toList, ".cmx".toList, ".cml".toList]

theorem source_mem_manifestRoots : "../..".toList ∈ manifestRoots := by
  simp [manifestRoots]

theorem generated_mem_manifestRoots : "obj".toList ∈ manifestRoots := by
  simp [manifestRoots]

theorem cmx_mem_manifestEndings : ".cmx".toList ∈ manifestEndings := by
  simp [manifestEndings]

/-- Whether a text ends with a word character. -/
def EndsInWord (cs : List Char) : Prop := ∃ c, cs.getLast? = some c ∧ Text.isWord c = true

/-- How a command is written from the flag of the manifest on: the manifest is the file `manifest`
with the ending `ending` in the directory `source` below `root`, and the label names the target
`label` of the directory `directory`; other options `others` and `rest` come after each. -/
structure ManifestFlags where
  manifestGap : List Char
  root : List Char
  source : List Char
  manifest : List Char
  ending : List Char
  others : List Char
  labelStart : Char
  labelGap : List Char
  directory : List Char
  label : List Char
  rest : List Char
  manifestGap_ne : manifestGap ≠ []
  manifestGap_blank : IsBlanks manifestGap
  root_mem : root ∈ manifestRoots
  source_visible : IsVisible source
  manifest_name : IsName manifest
  ending_mem : ending ∈ manifestEndings
  others_apart : ∀ c ∈ others.head?, Text.isBlank c = true
  labelStart_blank : Text.isBlank labelStart = true
  labelGap_ne : labelGap ≠ []
  labelGap_blank : IsBlanks labelGap
  directory_ne : directory ≠ []
  directory_end : '$' ∉ directory
  label_name : IsName label
  label_end : EndsInWord label
  rest_apart : ∀ c ∈ rest.head?, Text.isBlank c = true

namespace ManifestFlags

/-- The path of the manifest below its root. -/
def manifestPath (f : ManifestFlags) : List Char :=
  f.source ++ ("/".toList ++ (f.manifest ++ f.ending))

def fromLabel (f : ManifestFlags) : List Char :=
  "--gn-label".toList ++ (f.labelGap ++ ("//".toList ++ (f.directory ++ ("$:".toList ++
    (f.label ++ f.rest)))))

def afterManifest (f : ManifestFlags) : List Char := f.others ++ f.labelStart :: f.fromLabel

def fromManifest (f : ManifestFlags) : List Char :=
  "--component-manifest".toList ++ (f.manifestGap ++ (f.root ++ ("/".toList ++
    (f.manifestPath ++ f.afterManifest))))

/-- Options that are apart from what stands before them keep what stands after them apart, too. -/
theorem head_append_of_blank {options : List Char} {b : Char} {rest : List Char}
    (hoptions : ∀ c ∈ options.head?, Text.isBlank c = true) (hb : Text.isBlank b = true) :
    ∀ c ∈ (options ++ b :: rest).head?, Text.isBlank c = true := by
  intro c hc
  cases options with
  | nil =>
    obtain rfl : b = c := by simpa using hc
    exact hb
  | cons d ds => exact hoptions c (by simpa using hc)

/-- A word ends at a boundary where a blank follows or nothing. -/
theorem isBoundary_of_blank {c : Char} {rest : List Char} (hc : Text.isWord c = true)
    (hrest : ∀ d ∈ rest.head?, Text.isBlank d = true) : Place.isBoundary ⟨some c, rest⟩ = true := by
  cases rest with
  | nil => simp [Place.isBoundary, hc]
  | cons d rest =>
    have hname : Text.isName d = false := Text.isName_eq_false_of_isBlank (hrest d (by simp))
    have hd : Text.isWord d = false := by
      by_contra hword
      rw [Text.isName_of_isWord (by simpa using hword)] at hname
      simp at hname
    simp [Place.isBoundary, hc, hd]

/-! ## From the label on -/

def labelPatterns : List (Pattern Field) :=
  [lit "--gn-label", several .blank, lit "//",
   capture .targetBuildDir (several (.noneOf ['$'])), lit "$:",
   opt (capture .fallbackComponentTarget (several .name)), boundary]

def keptOfLabel (f : ManifestFlags) (s : Captures Field) : Captures Field :=
  ⟨.fallbackComponentTarget, f.label ++ f.rest, f.rest⟩ ::
    ⟨.targetBuildDir, f.directory ++ ("$:".toList ++ (f.label ++ f.rest)),
      "$:".toList ++ (f.label ++ f.rest)⟩ :: s

theorem read_label (f : ManifestFlags) (last : Option Char) (s : Captures Field) :
    (inOrder labelPatterns).read (fun _ s => some s) ⟨last, f.fromLabel⟩ s =
      some (f.keptOfLabel s) := by
  have hrest : ∀ c ∈ f.rest.head?, Text.isName c = false :=
    fun c hc => Text.isName_eq_false_of_isBlank (f.rest_apart c hc)
  obtain ⟨d, hlast, hd⟩ := f.label_end
  unfold fromLabel
  rw [labelPatterns, read_cons_lit]
  refine read_cons_run_of_stop f.labelGap_blank (by simp [f.labelGap_ne]) (by simp; decide) ?_
  rw [read_cons_lit]
  refine read_cons_capture_run_of_stop ?_ (by simp [f.directory_ne]) (by simp; decide) ?_
  · intro c hc
    have : c ≠ '$' := fun heq => f.directory_end (heq ▸ hc)
    simp [CharClass.has, this]
  rw [read_cons_lit, read_inOrder_cons]
  refine read_opt_of_some ?_
  rw [read_capture]
  refine read_run_longest_of_stop f.label_name.2 (by simp [f.label_name.1]) hrest ?_
  rw [lastAfter_of_getLast? hlast, read_inOrder_cons, read_boundary_of_isBoundary]
  · rfl
  · exact isBoundary_of_blank hd f.rest_apart

theorem read_to_label (f : ManifestFlags) (hfirst : ¬ "--gn-label".toList <:+: f.others)
    (last : Option Char) (s : Captures Field) :
    (inOrder (manyLazy .any :: labelPatterns)).read (fun _ s => some s) ⟨last, f.afterManifest⟩ s =
      some (f.keptOfLabel s) := by
  have hsplit : f.afterManifest = (f.others ++ [f.labelStart]) ++ f.fromLabel := by
    simp [afterManifest]
  rw [hsplit]
  refine read_cons_run_shortest (by simp [CharClass.has]) (by simp) (f.read_label _ s) ?_
  intro ys zs hothers hne _ r' hr'
  obtain ⟨rest, hrest, -⟩ := exists_of_read_cons_lit hr'
  have hstart : f.labelStart ∉ "--gn-label".toList := by
    intro hmem
    have hvisible : ∀ c ∈ "--gn-label".toList, Text.isBlank c = false := by decide
    have hblank := f.labelStart_blank
    simp [hvisible _ hmem] at hblank
  exact absurd ⟨rest, hrest.symm⟩
    (Text.not_isPrefix_of_not_isInfix hstart hfirst hothers hne)

/-! ## From the manifest on -/

theorem head_afterManifest (f : ManifestFlags) :
    ∀ c ∈ f.afterManifest.head?, Text.isBlank c = true :=
  head_append_of_blank f.others_apart f.labelStart_blank

def manifestPatterns : List (Pattern Field) :=
  lit "--component-manifest" :: several .blank ::
  capture .pathRoot (alt (lit "../..") (lit "obj")) :: lit "/" ::
  capture .manifestPath (inOrder
    [many .visible, lit "/", capture .fallbackComponentName (several (.noneOf ['/', '.'])),
     lit ".cm", opt (one (.oneOf ['x', 'l']))]) ::
  manyLazy .any :: labelPatterns

def kept (f : ManifestFlags) (s : Captures Field) : Captures Field :=
  f.keptOfLabel (⟨.manifestPath, f.manifestPath ++ f.afterManifest, f.afterManifest⟩ ::
    ⟨.fallbackComponentName, f.manifest ++ (f.ending ++ f.afterManifest),
      f.ending ++ f.afterManifest⟩ ::
    ⟨.pathRoot, f.root ++ ("/".toList ++ (f.manifestPath ++ f.afterManifest)),
      "/".toList ++ (f.manifestPath ++ f.afterManifest)⟩ :: s)

section Read

variable {α : Type} {k : Place → Captures Field → Option α} {last : Option Char}
  {s : Captures Field} {r : α} {root ending rest : List Char}

theorem read_root (hroot : root ∈ manifestRoots) :
    (alt (lit "../..") (lit "obj")).read k ⟨last, root ++ rest⟩ s =
      k ⟨lastAfter last root, rest⟩ s := by
  simp only [manifestRoots, List.mem_cons, List.not_mem_nil, or_false] at hroot
  rcases hroot with rfl | rfl
  · cases hk : k ⟨lastAfter last "../..".toList, rest⟩ s with
    | some r => exact read_alt_of_some (by rw [read_lit_append, hk])
    | none =>
      rw [read_alt_of_none (by rw [read_lit_append, hk])]
      exact read_lit_of_not_isPrefix (by simp)
  · rw [read_alt_of_none (read_lit_of_not_isPrefix (by simp)), read_lit_append]

theorem read_ending (hending : ending ∈ manifestEndings)
    (hrest : ∀ c ∈ rest.head?, Text.isBlank c = true)
    (hk : ∀ last, k ⟨last, rest⟩ s = some r) :
    (inOrder [lit ".cm", opt (one (.oneOf ['x', 'l']))]).read k ⟨last, ending ++ rest⟩ s =
      some r := by
  have hletter : ∀ c ∈ ['x', 'l'], (inOrder [lit ".cm", opt (one (.oneOf ['x', 'l']))]).read k
      ⟨last, ".cm".toList ++ c :: rest⟩ s = some r := by
    intro c hc
    rw [read_cons_lit, read_inOrder_cons]
    refine read_opt_of_some ?_
    rw [read_one_cons (by simpa [CharClass.has] using hc), read_inOrder_nil, hk]
  simp only [manifestEndings, List.mem_cons, List.not_mem_nil, or_false] at hending
  rcases hending with rfl | rfl | rfl
  · rw [read_cons_lit, read_inOrder_cons, read_opt_of_none, read_inOrder_nil, hk]
    -- A blank is none of the letters.
    by_contra hsome
    obtain ⟨r', hr'⟩ := Option.ne_none_iff_exists'.1 hsome
    obtain ⟨c, rest, rfl, hc, -⟩ := exists_of_read_one hr'
    have hblank : Text.isBlank c = true := hrest c (by simp)
    have hmem : c ∈ ['x', 'l'] := by simpa [CharClass.has] using hc
    have hvisible : ∀ c ∈ ['x', 'l'], Text.isBlank c = false := by decide
    simp [hvisible c hmem] at hblank
  · exact hletter 'x' (by simp)
  · exact hletter 'l' (by simp)

end Read

/-- The path of the manifest and the label are read up to the end of the label. -/
theorem read_manifest (f : ManifestFlags) (hfirst : ¬ "--gn-label".toList <:+: f.others)
    (last : Option Char) (s : Captures Field) :
    (inOrder manifestPatterns).read (fun _ s => some s) ⟨last, f.fromManifest⟩ s =
      some (f.kept s) := by
  have hslash : '/' ∉ f.manifest := f.manifest_name.not_mem (by decide)
  have hdot : '.' ∉ f.manifest := f.manifest_name.not_mem (by decide)
  obtain ⟨d, ds, hroot, hd⟩ : ∃ d ds, f.root = d :: ds ∧ Text.isBlank d = false := by
    have hmem := f.root_mem
    simp only [manifestRoots, List.mem_cons, List.not_mem_nil, or_false] at hmem
    rcases hmem with h | h <;> exact ⟨_, _, h, by decide⟩
  obtain ⟨ending, hending⟩ : ∃ ds, f.ending = '.' :: ds ∧ '/' ∉ ds := by
    have hmem := f.ending_mem
    simp only [manifestEndings, List.mem_cons, List.not_mem_nil, or_false] at hmem
    rcases hmem with h | h | h <;> exact ⟨_, h, by decide⟩
  unfold fromManifest
  rw [manifestPatterns, read_cons_lit]
  refine read_cons_run_of_stop f.manifestGap_blank (by simp [f.manifestGap_ne])
    (by simp [hroot, hd, CharClass.has]) ?_
  rw [read_cons_capture, read_root f.root_mem, read_cons_lit, read_cons_capture, read_inOrder_cons]
  have hpath : f.manifestPath ++ f.afterManifest =
      f.source ++ ("/".toList ++ ((f.manifest ++ f.ending) ++ f.afterManifest)) := by
    simp [manifestPath]
  have hname : '/' ∉ f.manifest ++ f.ending := by
    simp [hslash, hending.1, hending.2]
  rw [hpath]
  refine read_to_last_slash f.source_visible (by simp) hname f.head_afterManifest ?_ ?_
  · rw [read_cons_lit, List.append_assoc]
    refine read_cons_capture_run_of_stop ?_ (by simp [f.manifest_name.1])
      (by simp [hending.1, CharClass.has]) ?_
    · intro c hc
      have hneSlash : c ≠ '/' := fun heq => hslash (heq ▸ hc)
      have hneDot : c ≠ '.' := fun heq => hdot (heq ▸ hc)
      simp [CharClass.has, hneSlash, hneDot]
    refine read_ending f.ending_mem f.head_afterManifest fun last => ?_
    simpa [kept, manifestPath] using f.read_to_label hfirst last _
  · intro b s' r' hr'
    obtain ⟨rest, hrest, -⟩ := exists_of_read_cons_lit hr'
    exact ⟨rest, hrest⟩

end ManifestFlags

/-! ## From the tool on -/

/-- How the words of a command that validates references are written. The tool for the platform
`host` is run, with other options `options` and `more` before and after its task. -/
structure ValidationWords extends ManifestFlags where
  before : List Char
  host : List Char
  toolEnd : Char
  options : List Char
  taskStart : Char
  more : List Char
  flagStart : Char
  host_ne : host ≠ []
  host_word : ∀ c ∈ host, Text.isWord c = true
  toolEnd_blank : Text.isBlank toolEnd = true
  taskStart_blank : Text.isBlank taskStart = true
  flagStart_blank : Text.isBlank flagStart = true

namespace ValidationWords

def settings (f : ValidationWords) : List Char :=
  f.options ++ f.taskStart :: ("validate-references".toList ++ f.more)

def opening (f : ValidationWords) : List Char :=
  f.before ++ ("host_".toList ++ (f.host ++ ("/cmc".toList ++ f.toolEnd :: f.settings)))

def afterTool (f : ValidationWords) : List Char := f.settings ++ f.flagStart :: f.fromManifest

/-- What is run. -/
def words (f : ValidationWords) : List Char := f.opening ++ f.flagStart :: f.fromManifest

/-- Whether the flags of the manifest and the label are the first ones. -/
structure IsFirst (f : ValidationWords) : Prop where
  manifest : ¬ "--component-manifest".toList <:+: f.opening
  label : ¬ "--gn-label".toList <:+: f.others

/-- The path of the manifest is found from anywhere before its flag. -/
theorem read_to_manifest (f : ValidationWords) (hfirst : f.IsFirst) (xs : List Char)
    {us : List Char} (hus : f.opening ++ [f.flagStart] = xs ++ us) (last : Option Char)
    (s : Captures Field) :
    (inOrder (manyLazy .any :: ManifestFlags.manifestPatterns)).read (fun _ s => some s)
      ⟨last, us ++ f.fromManifest⟩ s = some (f.kept s) := by
  refine read_cons_run_shortest (by simp [CharClass.has]) (by simp)
    (f.read_manifest hfirst.label _ s) ?_
  intro ys zs hsplit hne _ r' hr'
  obtain ⟨rest, hrest, -⟩ := exists_of_read_cons_lit hr'
  have hstart : f.flagStart ∉ "--component-manifest".toList := by
    intro hmem
    have hvisible : ∀ c ∈ "--component-manifest".toList, Text.isBlank c = false := by decide
    have hblank := f.flagStart_blank
    simp [hvisible _ hmem] at hblank
  have hopening : f.opening ++ [f.flagStart] = (xs ++ ys) ++ zs := by simp [hus, hsplit]
  exact absurd ⟨rest, hrest.symm⟩
    (Text.not_isPrefix_of_not_isInfix hstart hfirst.manifest hopening hne)

def taskPatterns : List (Pattern Field) :=
  manyLazy .any :: one .blank :: lit "validate-references" :: manyLazy .any ::
    ManifestFlags.manifestPatterns

/-- The manifest is found from anywhere before the task. -/
theorem read_task (f : ValidationWords) (hfirst : f.IsFirst) (xs : List Char) {pre : List Char}
    (hpre : f.opening = xs ++ (pre ++ f.taskStart :: ("validate-references".toList ++ f.more)))
    (last : Option Char) (s : Captures Field) :
    (inOrder taskPatterns).read (fun _ s => some s)
      ⟨last, pre ++ f.taskStart :: ("validate-references".toList ++
        (f.more ++ f.flagStart :: f.fromManifest))⟩ s = some (f.kept s) := by
  rw [taskPatterns]
  refine read_cons_run_shortest (by simp [CharClass.has]) (by simp) ?_ ?_
  · rw [read_inOrder_cons, read_one_cons (by simpa [CharClass.has] using f.taskStart_blank),
      read_cons_lit]
    have hmore : f.more ++ f.flagStart :: f.fromManifest =
        (f.more ++ [f.flagStart]) ++ f.fromManifest := by simp
    rw [hmore]
    exact f.read_to_manifest hfirst
      (xs ++ (pre ++ f.taskStart :: "validate-references".toList)) (by simp [hpre]) _ s
  · -- An earlier task is one before the flag of the manifest.
    intro ys zs hsplit hne _ r' hr'
    rw [read_inOrder_cons] at hr'
    obtain ⟨c, rest, hrest, -, hr'⟩ := exists_of_read_one hr'
    obtain ⟨rest, rfl, hr'⟩ := exists_of_read_cons_lit hr'
    have hsame : (c :: "validate-references".toList) ++ rest =
        (zs ++ f.taskStart :: ("validate-references".toList ++ (f.more ++ [f.flagStart]))) ++
          f.fromManifest := by
      simpa using hrest.symm
    obtain ⟨us, hus, rfl⟩ := Text.exists_append_of_length_le hsame (by simp; omega)
    have hopening : f.opening ++ [f.flagStart] =
        (xs ++ (ys ++ c :: "validate-references".toList)) ++ us := by
      simpa [hpre, hsplit] using hus
    rw [f.read_to_manifest hfirst _ hopening] at hr'
    exact (Option.some.inj hr').symm

theorem afterTool_eq (f : ValidationWords) : f.afterTool = f.options ++ f.taskStart ::
    ("validate-references".toList ++ (f.more ++ f.flagStart :: f.fromManifest)) := by
  simp [afterTool, settings]

theorem read_task_afterTool (f : ValidationWords) (hfirst : f.IsFirst) {xs us : List Char}
    (hopening : f.opening = xs ++ (us ++ f.settings)) (last : Option Char) (s : Captures Field) :
    (inOrder taskPatterns).read (fun _ s => some s) ⟨last, us ++ f.afterTool⟩ s =
      some (f.kept s) := by
  rw [afterTool_eq, ← List.append_assoc]
  exact f.read_task hfirst xs (by simp [hopening, settings]) last s

def stampWordPatterns : List (Pattern Field) :=
  [manyLazy .visible, lit "_validate_manifests_",
   opt (capture .destComponentManifest (severalLazy .dottedName)), lit ".action.stamp", boundary]

def stampPattern : Pattern Field :=
  inOrder (manyLazy .any :: lit "--stamp" :: several .blank :: stampWordPatterns)

def wordPatterns : List (Pattern Field) :=
  manyLazy .any :: lit "host_" :: several .word :: lit "/cmc" :: one .blank :: opt stampPattern ::
  taskPatterns

theorem validationPattern_eq :
    validationPattern = inOrder
      (start :: many .blank :: lit "command" :: many .blank :: lit "=" :: wordPatterns) := rfl

def tool (host : List Char) : List Char := "host_".toList ++ (host ++ "/cmc".toList)

theorem isVisible_tool {host : List Char} (hhost : ∀ c ∈ host, Text.isWord c = true) :
    IsVisible (tool host) := by
  have hbefore : IsVisible "host_".toList := by decide
  have hafter : IsVisible "/cmc".toList := by decide
  have hmiddle : IsVisible host :=
    fun c hc => Text.isBlank_eq_false_of_isName (Text.isName_of_isWord (hhost c hc))
  exact hbefore.append (hmiddle.append hafter)

/-- A tool that is read earlier has no blank in it, so it ends no later than the last one. -/
theorem exists_opening_eq (f : ValidationWords) {host ys zs rest : List Char} {c : Char}
    (hhost : ∀ c ∈ host, Text.isWord c = true) (hbefore : f.before = ys ++ zs)
    (h : tool host ++ c :: rest = zs ++ (tool f.host ++ f.toolEnd :: f.afterTool)) :
    ∃ us, f.opening = (ys ++ (tool host ++ [c])) ++ (us ++ f.settings) ∧
      rest = us ++ f.afterTool := by
  have hend : f.toolEnd ∉ tool host := by
    intro hmem
    have hblank := isVisible_tool hhost f.toolEnd hmem
    simp [f.toolEnd_blank] at hblank
  rw [← List.append_assoc] at h
  obtain ⟨us, hus, hrest⟩ := Text.exists_append_of_not_mem hend h
  obtain ⟨us', hcons⟩ : ∃ us', us ++ [f.toolEnd] = c :: us' := by
    cases us <;> simp_all
  refine ⟨us', ?_, ?_⟩
  · calc f.opening = ys ++ ((zs ++ tool f.host) ++ ([f.toolEnd] ++ f.settings)) := by
          simp [opening, hbefore, tool]
      _ = ys ++ (tool host ++ ((us ++ [f.toolEnd]) ++ f.settings)) := by simp [hus]
      _ = (ys ++ (tool host ++ [c])) ++ (us' ++ f.settings) := by simp [hcons]
  · have hsplit : c :: rest = (us ++ [f.toolEnd]) ++ f.afterTool := by simp [hrest]
    simpa [hcons] using hsplit

/-- What is read from any end of a tool on is read of the whole command. -/
theorem read_words (f : ValidationWords) {r : Captures Field}
    (h : ∀ xs us last, f.opening = xs ++ (us ++ f.settings) →
      (inOrder (opt stampPattern :: taskPatterns)).read (fun _ s => some s)
        ⟨last, us ++ f.afterTool⟩ [] = some r) :
    (inOrder wordPatterns).read (fun _ s => some s) ⟨some '=', f.words⟩ [] = some r := by
  have hwords : f.words = f.before ++ ("host_".toList ++ (f.host ++ ("/cmc".toList ++
      f.toolEnd :: f.afterTool))) := by
    simp [words, opening, afterTool]
  rw [hwords, wordPatterns]
  refine read_cons_run_shortest (by simp [CharClass.has]) (by simp) ?_ ?_
  · rw [read_cons_lit]
    refine read_cons_run_of_stop f.host_word (by simp [f.host_ne]) (by simp; decide) ?_
    rw [read_cons_lit, read_inOrder_cons,
      read_one_cons (by simpa [CharClass.has] using f.toolEnd_blank)]
    have hopening : f.opening = (f.before ++ tool f.host ++ [f.toolEnd]) ++ ([] ++ f.settings) := by
      simp [opening, tool]
    exact h _ _ _ hopening
  · intro ys zs hsplit hne _ r' hr'
    obtain ⟨rest, hrest, hr'⟩ := exists_of_read_cons_lit hr'
    obtain ⟨host, rest, rfl, hhost, -, hr'⟩ := exists_of_read_cons_run hr'
    obtain ⟨rest, rfl, hr'⟩ := exists_of_read_cons_lit hr'
    rw [read_inOrder_cons] at hr'
    obtain ⟨c, rest, rfl, -, hr'⟩ := exists_of_read_one hr'
    obtain ⟨us, hopening, rfl⟩ := f.exists_opening_eq hhost hsplit
      (by simpa [tool] using hrest.symm)
    rw [h _ _ _ hopening] at hr'
    exact (Option.some.inj hr').symm

/-- Whatever reads the task finds its name after a blank. -/
theorem exists_isInfix_of_read_task {α : Type} {k : Place → Captures Field → Option α} {a : Place}
    {s : Captures Field} {r : α} (h : (inOrder taskPatterns).read k a s = some r) :
    ∃ b, Text.isBlank b = true ∧ b :: "validate-references".toList <:+: a.rest := by
  obtain ⟨before, rest, hrest, -, -, h⟩ := exists_of_read_cons_run h
  rw [read_inOrder_cons] at h
  obtain ⟨b, rest, rfl, hb, h⟩ := exists_of_read_one h
  obtain ⟨rest, rfl, -⟩ := exists_of_read_cons_lit h
  exact ⟨b, hb, before, rest, by simp [hrest]⟩

section Stamp

variable {α : Type} {k : Place → Captures Field → Option α} {a : Place} {s : Captures Field} {r : α}

/-- Whatever reads a stamp finds it after its flag and some blanks. -/
theorem exists_of_read_stamp (h : stampPattern.read k a s = some r) :
    ∃ before gap rest, a.rest = before ++ ("--stamp".toList ++ (gap ++ rest)) ∧ gap ≠ [] ∧
      IsBlanks gap ∧ (inOrder stampWordPatterns).read k ⟨gap.getLast?, rest⟩ s = some r := by
  obtain ⟨before, rest, hrest, -, -, h⟩ := exists_of_read_cons_run h
  obtain ⟨rest, rfl, h⟩ := exists_of_read_cons_lit h
  obtain ⟨gap, rest, rfl, hgap, hne, h⟩ := exists_of_read_cons_run h
  have hlast : lastAfter (lastAfter (lastAfter a.last before) "--stamp".toList) gap =
      gap.getLast? := by
    rw [lastAfter_of_getLast? (List.getLast?_eq_some_getLast (hne rfl)),
      List.getLast?_eq_some_getLast]
  exact ⟨before, gap, rest, hrest, hne rfl, hgap, hlast ▸ h⟩

/-- Whatever reads a stamp that names a manifest, and the task after it, finds the mark of the
name in the stamp and the task later. -/
theorem exists_of_read_stampWord (h : (inOrder stampWordPatterns).read
      (fun b s => (inOrder taskPatterns).read k b s) a s = some r) :
    ∃ word after, a.rest = word ++ ("_validate_manifests_".toList ++ after) ∧ IsVisible word ∧
      ∃ b, Text.isBlank b = true ∧ b :: "validate-references".toList <:+: after := by
  obtain ⟨word, rest, hrest, hword, -, h⟩ := exists_of_read_cons_run h
  obtain ⟨after, rfl, h⟩ := exists_of_read_cons_lit h
  -- What comes after the mark leads to the task.
  obtain ⟨b, s', hsuffix, h⟩ := exists_suffix_of_read h
  obtain ⟨c, hc, htask⟩ := exists_isInfix_of_read_task h
  exact ⟨word, after, hrest, fun c hc => by simpa [CharClass.has] using hword c hc, c, hc,
    htask.trans hsuffix.isInfix⟩

end Stamp

/-- What a command says of which the manifest and the label are read after the captures `s`. -/
def said (f : ValidationWords) (s : Captures Field) : Validation where
  root := Validation.rootOf f.root
  manifest := String.ofList f.manifestPath
  fileName := String.ofList f.manifest
  directory := String.ofList f.directory
  labelTarget := some (String.ofList f.label)
  destination := (s.get? .destComponentManifest).map String.ofList

variable {f : ValidationWords} {s : Captures Field}

theorem validation_of_read (c : CommandForm)
    (h : (inOrder wordPatterns).read (fun _ s => some s) ⟨some '=', f.words⟩ [] = some (f.kept s)) :
    Validation.ofStatement? (c.text f.words) = some (f.said s) := by
  have hread : validationPattern.matchText? (c.text f.words) = some (f.kept s) := by
    rw [matchText?_eq, validationPattern_eq]
    exact c.read_text h
  rw [Validation.ofStatement?, hread]
  simp [ManifestFlags.kept, ManifestFlags.keptOfLabel, keptText, Captures.get, said]

theorem ofStatement?_of_read (c : CommandForm)
    (h : (inOrder wordPatterns).read (fun _ s => some s) ⟨some '=', f.words⟩ [] = some (f.kept s)) :
    Recognized.ofStatement? (c.text f.words) = some (.validation (f.said s)) := by
  rw [c.ofStatement?_text, validation_of_read c h]
  rfl

end ValidationWords

end ComponentLinks.Statement
