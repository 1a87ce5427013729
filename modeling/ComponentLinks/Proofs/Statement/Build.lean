import ComponentLinks.Proofs.Pattern.First
import ComponentLinks.Proofs.Text.Classes
import ComponentLinks.Statement.Patterns

/-!
# The written form of build statements

A build statement names its outputs, a rule, the inputs and after a bar the dependencies. What is
recognized of it is its first output and the dependencies; the rest may be any text that keeps the
marks apart.

## Main definitions

* `Statement.IsName`, `Statement.IsDirectory`: the texts that name targets and directories.
* `Statement.BuildTail`, `Statement.BuildForm`: how build statements are written.
* `Statement.read_directory_name`: the directory of an output and the name in it.
* `Statement.exists_read_buildTrailer`: the dependencies are read up to the end of the statement.
* `Statement.read_opening`, `Statement.exists_of_read_opening`: the word that a statement opens
  with.
-/
namespace ComponentLinks

namespace Captures

variable {ι : Type} [DecidableEq ι]

@[simp] theorem get?_nil (f : ι) : get? ([] : Captures ι) f = none := rfl

@[simp] theorem get?_cons (c : Capture ι) (s : Captures ι) (f : ι) :
    get? (c :: s) f = if c.field = f then some c.text else get? s f := by
  by_cases h : c.field = f <;> simp [get?, h]

end Captures

@[simp] theorem Capture.text_append {ι : Type} (f : ι) (xs rest : List Char) :
    Capture.text ⟨f, xs ++ rest, rest⟩ = xs := by
  simp [Capture.text]

@[simp] theorem Capture.text_whole {ι : Type} (f : ι) (xs : List Char) :
    Capture.text ⟨f, xs, []⟩ = xs := by
  simp [Capture.text]

namespace Statement

open Pattern

/-- Whether a text names a target, a package or a component. -/
def IsName (cs : List Char) : Prop := cs ≠ [] ∧ ∀ c ∈ cs, Text.isName c = true

/-- Whether a text names a directory: names with slashes between them. -/
def IsDirectory (cs : List Char) : Prop :=
  cs ≠ [] ∧ ∀ c ∈ cs, Text.isName c = true ∨ c = '/'

/-- Whether a text has nothing but blanks. -/
def IsBlanks (cs : List Char) : Prop := ∀ c ∈ cs, Text.isBlank c = true

/-- Whether a text has no blanks. -/
def IsVisible (cs : List Char) : Prop := ∀ c ∈ cs, Text.isBlank c = false

instance (cs : List Char) : Decidable (IsName cs) := inferInstanceAs (Decidable (_ ∧ _))

instance (cs : List Char) : Decidable (IsDirectory cs) := inferInstanceAs (Decidable (_ ∧ _))

instance (cs : List Char) : Decidable (IsBlanks cs) :=
  inferInstanceAs (Decidable (∀ c ∈ cs, _))

instance (cs : List Char) : Decidable (IsVisible cs) :=
  inferInstanceAs (Decidable (∀ c ∈ cs, _))

@[simp] theorem isBlanks_nil : IsBlanks [] := by
  simp [IsBlanks]

theorem isBlanks_space : IsBlanks [' '] := by
  decide

theorem isBlank_space : Text.isBlank ' ' = true := by
  decide

theorem space_ne_nil : [' '] ≠ [] := by
  simp

theorem isBlank_head_nil : ∀ c ∈ ([] : List Char).head?, Text.isBlank c = true := by
  simp

@[simp] theorem isVisible_nil : IsVisible [] := by
  simp [IsVisible]

theorem IsVisible.append {xs ys : List Char} (hxs : IsVisible xs) (hys : IsVisible ys) :
    IsVisible (xs ++ ys) := by
  intro c hc
  rcases List.mem_append.1 hc with hc | hc
  · exact hxs c hc
  · exact hys c hc

theorem IsName.isVisible {cs : List Char} (h : IsName cs) : IsVisible cs :=
  fun c hc => Text.isBlank_eq_false_of_isName (h.2 c hc)

theorem IsName.not_mem {cs : List Char} (h : IsName cs) {c : Char} (hc : Text.isName c = false) :
    c ∉ cs := by
  intro hmem
  rw [h.2 c hmem] at hc
  simp at hc

theorem IsDirectory.not_mem {cs : List Char} (h : IsDirectory cs) {c : Char}
    (hc : Text.isName c = false) (hslash : c ≠ '/') : c ∉ cs := by
  intro hmem
  rcases h.2 c hmem with hname | rfl
  · rw [hname] at hc
    simp at hc
  · exact hslash rfl

theorem IsDirectory.isVisible {cs : List Char} (h : IsDirectory cs) : IsVisible cs := by
  intro c hc
  rcases h.2 c hc with hname | rfl
  · exact Text.isBlank_eq_false_of_isName hname
  · decide

/-- A name after a slash does not hold another slash. -/
theorem append_slash_ne {zs package xs : List Char} (hzs : zs ≠ [])
    (hxs : ∀ c ∈ xs, Text.isName c = true) : zs ++ '/' :: package ≠ '/' :: xs := by
  intro h
  obtain ⟨z, zs, rfl⟩ := List.exists_cons_of_ne_nil hzs
  obtain ⟨-, rfl⟩ : z = '/' ∧ zs ++ '/' :: package = xs := by simpa using h
  have hslash : Text.isName '/' = false := by decide
  simp [hxs '/' (by simp)] at hslash

/-- The text before the first dot is determined by the text. -/
theorem append_dot_inj {xs ys us vs : List Char} (hxs : '.' ∉ xs) (hys : '.' ∉ ys)
    (h : xs ++ '.' :: us = ys ++ '.' :: vs) : xs = ys ∧ us = vs := by
  have hne : ∀ {zs : List Char}, '.' ∉ zs → ∀ c ∈ zs, (c != '.') = true := by
    intro zs hzs c hc
    have : c ≠ '.' := fun heq => hzs (heq ▸ hc)
    simpa using this
  obtain ⟨hxy, -, huv⟩ := Text.append_inj_of_stop (p := (· != '.')) (hne hxs) (hne hys)
    (by simp) (by simp) h
  exact ⟨hxy, huv⟩

/-- A text without blanks that begins another one ends before the first blank there. -/
theorem prefix_of_isVisible {w xs after : List Char} (hw : IsVisible w)
    (hafter : ∀ c ∈ after.head?, Text.isBlank c = true) (h : w <+: xs ++ after) : w <+: xs := by
  cases after with
  | nil => simpa using h
  | cons b after =>
    refine Text.prefix_of_prefix_append (fun hmem => ?_) h
    have hb : Text.isBlank b = true := hafter b (by simp)
    simp [hw b hmem] at hb

/-- Beyond the last slash of a word no run of visible characters ends before a slash. -/
theorem not_visible_slash {name after us vs : List Char} (hname : '/' ∉ name)
    (hafter : ∀ c ∈ after.head?, Text.isBlank c = true)
    (h : '/' :: (name ++ after) = us ++ '/' :: vs) (hne : us ≠ []) (hus : IsVisible us) :
    False := by
  have hvisible : IsVisible (us ++ ['/']) := by
    intro c hc
    rcases List.mem_append.1 hc with hc | hc
    · exact hus c hc
    · obtain rfl : c = '/' := by simpa using hc
      decide
  obtain ⟨u, us, rfl⟩ := List.exists_cons_of_ne_nil hne
  have hpre : u :: us ++ ['/'] <+: '/' :: name :=
    prefix_of_isVisible hvisible hafter ⟨vs, by simpa using h.symm⟩
  obtain ⟨zs, hzs⟩ := hpre
  obtain ⟨-, htail⟩ : u = '/' ∧ us ++ '/' :: zs = name := by simpa using hzs
  exact hname (by simp [← htail])

/-- A run of visible characters that a slash comes after reads a path up to its last slash. -/
theorem read_to_last_slash {α : Type} {k : Place → Captures Field → Option α} {last : Option Char}
    {s : Captures Field} {r : α} {nonempty : Bool} {directory name after : List Char}
    (hdirectory : IsVisible directory) (hne : nonempty = true → directory ≠ [])
    (hname : '/' ∉ name) (hafter : ∀ c ∈ after.head?, Text.isBlank c = true)
    (hk : k ⟨lastAfter last directory, "/".toList ++ (name ++ after)⟩ s = some r)
    (hslash : ∀ b s' r', k b s' = some r' → ∃ rest, b.rest = "/".toList ++ rest) :
    (run .visible nonempty .longest).read k
      ⟨last, directory ++ ("/".toList ++ (name ++ after))⟩ s = some r := by
  refine read_run_longest ?_ hne hk ?_
  · intro c hc
    simp [CharClass.has, hdirectory c hc]
  · intro ys zs hsplit hys hvisible r' hr'
    obtain ⟨rest, rfl⟩ := hslash _ _ _ hr'
    have hysVisible : IsVisible ys := fun c hc => by simpa [CharClass.has] using hvisible c hc
    exact (not_visible_slash hname hafter (by simpa using hsplit) hys hysVisible).elim

/-- The directory of an output and the name in it are read up to the ending of the output. A shorter
directory would leave a slash to the name, since the first dot of the output is in its ending. -/
theorem read_directory_name {α : Type} {k : Place → Captures Field → Option α}
    {ps : List (Pattern Field)} {last : Option Char} {s : Captures Field} {r : α} {f : Field}
    {directory name rest start extension : List Char} {ending : String} {c : Char}
    (hdirectory : IsDirectory directory) (hname : IsName name)
    (hending : ending.toList = start ++ '.' :: extension) (hstart : '.' ∉ start)
    (hhead : ∀ c ∈ (ending.toList ++ rest).head?, Text.isName c = false)
    (hlast : ending.toList.getLast? = some c)
    (hk : (inOrder ps).read k ⟨some c, rest⟩
      (⟨f, name ++ (ending.toList ++ rest), ending.toList ++ rest⟩ ::
        ⟨.targetBuildDir, directory ++ ("/".toList ++ (name ++ (ending.toList ++ rest))),
          "/".toList ++ (name ++ (ending.toList ++ rest))⟩ :: s) = some r) :
    (inOrder (capture .targetBuildDir (severalLazy (.noneOf ['.'])) :: lit "/" ::
      capture f (several .name) :: lit ending :: ps)).read k
        ⟨last, directory ++ ("/".toList ++ (name ++ (ending.toList ++ rest)))⟩ s = some r := by
  have hdot : '.' ∉ directory := hdirectory.not_mem (by decide) (by decide)
  have hnameDot : '.' ∉ name := hname.not_mem (by decide)
  rw [read_cons_capture]
  refine read_run_shortest ?_ (by simp [hdirectory.1]) ?_ ?_
  · intro d hd
    have hne : d ≠ '.' := fun heq => hdot (heq ▸ hd)
    simp [CharClass.has, hne]
  · rw [read_cons_lit]
    refine read_cons_capture_run_of_stop hname.2 (by simp [hname.1]) hhead ?_
    rw [read_cons_lit, lastAfter_of_getLast? hlast]
    exact hk
  · -- A shorter directory is followed by a name with a slash in it.
    intro ys zs hsplit hzs _ r' hr
    obtain ⟨after, hafter, hr⟩ := exists_of_read_cons_lit hr
    obtain ⟨xs, after, rfl, hxs, -, hr⟩ := exists_of_read_cons_capture_run hr
    obtain ⟨after, rfl, -⟩ := exists_of_read_cons_lit hr
    have hzsDot : '.' ∉ zs := fun hmem => hdot (by simp [hsplit, hmem])
    have hxsDot : '.' ∉ xs := fun hmem => absurd (hxs '.' hmem) (by decide)
    have hdots : (zs ++ '/' :: (name ++ start)) ++ '.' :: (extension ++ rest) =
        ('/' :: (xs ++ start)) ++ '.' :: (extension ++ after) := by
      simpa [hending] using hafter
    obtain ⟨hsame, -⟩ := append_dot_inj (by simp [hzsDot, hnameDot, hstart])
      (by simp [hxsDot, hstart]) hdots
    have hsame' : (zs ++ '/' :: name) ++ start = ('/' :: xs) ++ start := by
      simpa using hsame
    exact absurd (List.append_cancel_right hsame') (append_slash_ne hzs hxs)

theorem exists_blanks_append (cs : List Char) :
    ∃ xs ys, cs = xs ++ ys ∧ IsBlanks xs ∧ ∀ c ∈ ys.head?, Text.isBlank c = false :=
  Text.exists_run_append Text.isBlank cs

section Opening

variable {α : Type} {k : Place → Captures Field → Option α} {s : Captures Field} {r : α}
  {ps : List (Pattern Field)} {w : String} {indent rest : List Char}

theorem read_opening (hindent : IsBlanks indent)
    (hw : ∃ c cs, w.toList = c :: cs ∧ Text.isBlank c = false)
    (hk : (inOrder ps).read k ⟨lastAfter (lastAfter none indent) w.toList, rest⟩ s = some r) :
    (inOrder (start :: many .blank :: lit w :: ps)).read k (.ofText (indent ++ (w.toList ++ rest)))
      s = some r := by
  obtain ⟨c, cs, hcs, hc⟩ := hw
  rw [read_inOrder_cons]
  refine read_cons_run_of_stop hindent (by simp) (by simp [hcs, hc, CharClass.has]) ?_
  rw [read_cons_lit]
  exact hk

/-- Whatever reads a statement by the word that it opens with finds the word after the blanks in
front. -/
theorem exists_of_read_opening {cs : List Char} (hindent : IsBlanks indent)
    (hw : ∃ d ds, w.toList = d :: ds ∧ Text.isBlank d = false)
    (hcs : ∃ c ∈ cs.head?, Text.isBlank c = false)
    (h : (inOrder (start :: many .blank :: lit w :: ps)).read k (.ofText (indent ++ cs)) s =
      some r) :
    ∃ rest, cs = w.toList ++ rest ∧
      (inOrder ps).read k ⟨lastAfter (lastAfter none indent) w.toList, rest⟩ s = some r := by
  obtain ⟨d, ds, hds, hd⟩ := hw
  obtain ⟨c, hhead, hc⟩ := hcs
  obtain ⟨cs, rfl⟩ : ∃ rest, cs = c :: rest := by cases cs <;> simp_all
  rw [read_inOrder_cons] at h
  obtain ⟨xs, rest, hxs, hall, -, h⟩ := exists_of_read_cons_run h
  obtain ⟨rest, rfl, h⟩ := exists_of_read_cons_lit h
  have hsplit : indent ++ c :: cs = xs ++ d :: (ds ++ rest) := by
    simpa [Place.ofText, hds] using hxs
  obtain ⟨rfl, rfl, rfl⟩ := Text.append_inj_of_stop hindent hall hc hd hsplit
  exact ⟨rest, by simp [hds], h⟩

end Opening

/-- What follows the first output of a build statement; `gap` stands before the rule, and `inputs`
begin with the blanks before them. -/
structure BuildTail where
  outputs : List Char
  gap : List Char
  rule : List Char
  inputs : List Char
  dependencies : List Char
  outputs_end : ':' ∉ outputs
  gap_blank : IsBlanks gap
  rule_ne : rule ≠ []
  rule_visible : IsVisible rule
  inputs_apart : ∃ c cs, inputs = c :: cs ∧ Text.isBlank c = true
  inputs_end : '|' ∉ inputs

/-- The text of what follows the first output. -/
def BuildTail.text (t : BuildTail) : List Char :=
  t.outputs ++ (":".toList ++ (t.gap ++ (t.rule ++ (t.inputs ++ ("|".toList ++ t.dependencies)))))

/-- Inputs begin with a run of blanks after which they go on up to the bar. -/
theorem BuildTail.exists_inputs (t : BuildTail) :
    ∃ xs ys, t.inputs = xs ++ ys ∧ IsBlanks xs ∧ ys ≠ [] ∧
      ∀ us vs, ys ++ ("|".toList ++ t.dependencies) = us ++ vs → us ≠ [] → IsBlanks us →
        vs = "|".toList ++ t.dependencies := by
  obtain ⟨xs, ys, hxy, hxs, hys⟩ := exists_blanks_append t.inputs
  cases ys with
  | cons y ys =>
    refine ⟨xs, y :: ys, hxy, hxs, by simp, fun us vs h hne hus => ?_⟩
    obtain _ | ⟨u, us⟩ := us
    · exact absurd rfl hne
    · obtain ⟨rfl, _⟩ : y = u ∧ _ := by simpa using h
      have := hus y (by simp)
      simp [hys y (by simp)] at this
  | nil =>
    -- Nothing but blanks: the last one is left for the inputs.
    obtain ⟨c, cs, hcs, hc⟩ := t.inputs_apart
    rw [List.append_nil] at hxy
    rcases List.eq_nil_or_concat xs with rfl | ⟨xs, x, rfl⟩
    · simp [hxy] at hcs
    · refine ⟨xs, [x], by simp [hxy], fun c hc => hxs c (by simp [hc]), by simp,
        fun us vs h hne hus => ?_⟩
      obtain _ | ⟨u, _ | ⟨v, us⟩⟩ := us
      · exact absurd rfl hne
      · simp_all
      · obtain ⟨_, rfl, _⟩ : x = u ∧ '|' = v ∧ _ := by simpa using h
        exact absurd (hus '|' (by simp)) (by decide)

/-- All that is left of a text is kept under one field. -/
theorem read_to_end (f : Field) (last : Option Char) (cs : List Char) (s : Captures Field) :
    (inOrder [capture f (many .any)]).read (fun _ s => some s) ⟨last, cs⟩ s =
      some (⟨f, cs, []⟩ :: s) := by
  have h : (inOrder [capture f (many .any)]).read (fun _ s => some s) ⟨last, cs ++ []⟩ s =
      some (⟨f, cs ++ [], []⟩ :: s) :=
    read_cons_capture_run_of_stop (by simp [CharClass.has]) (by simp) (by simp) (by simp)
  simpa using h

/-- The inputs are read up to the bar, and the dependencies up to the end. -/
theorem BuildTail.exists_read_inputs (t : BuildTail) :
    ∃ c : Capture Field, c.field = .inputs ∧ ∀ last s,
      (inOrder [many .blank, capture .inputs (several (.noneOf ['|'])), lit "|",
        capture .dependencies (many .any)]).read (fun _ s' => some s')
          ⟨last, t.inputs ++ ("|".toList ++ t.dependencies)⟩ s =
        some (⟨.dependencies, t.dependencies, []⟩ :: c :: s) := by
  obtain ⟨xs, ys, hinputs, hxs, hys, hstop⟩ := t.exists_inputs
  set fromBar := "|".toList ++ t.dependencies with hbar
  refine ⟨⟨.inputs, ys ++ fromBar, fromBar⟩, rfl, fun last s => ?_⟩
  rw [hinputs, List.append_assoc, read_inOrder_cons]
  refine read_run_longest hxs (by simp) ?_ ?_
  · refine read_cons_capture_run_of_stop ?_ (by simp [hys]) (by simp [hbar, CharClass.has]) ?_
    · intro d hd
      have hmem : d ∈ t.inputs := by simp [hinputs, hd]
      have : d ≠ '|' := fun h => t.inputs_end (h ▸ hmem)
      simp [CharClass.has, this]
    rw [hbar, read_cons_lit, read_to_end]
  · -- After more blanks nothing but the bar would be left for the inputs.
    intro us vs h hne hus r' hr'
    rw [hstop us vs h hne hus] at hr'
    obtain ⟨zs, rest, hzs, hall, hne', -⟩ := exists_of_read_cons_capture_run hr'
    obtain ⟨z, zs, rfl⟩ := List.exists_cons_of_ne_nil (hne' rfl)
    obtain ⟨rfl, -⟩ : '|' = z ∧ _ := by simpa [hbar] using hzs
    have := hall '|' (by simp)
    simp [CharClass.has] at this

theorem exists_read_buildTrailer (t : BuildTail) (last : Option Char) (s : Captures Field) :
    ∃ s', buildTrailer.read (fun _ s' => some s') ⟨last, t.text⟩ s = some s' ∧
      s'.get? .dependencies = some t.dependencies ∧
      ∀ f, f ≠ .otherOutputs → f ≠ .rule → f ≠ .inputs → f ≠ .dependencies →
        s'.get? f = s.get? f := by
  obtain ⟨xs, ys, houtputs, hxs, hys⟩ := exists_blanks_append t.outputs
  obtain ⟨captured, hcaptured, hinputs⟩ := t.exists_read_inputs
  obtain ⟨c, cs, hcs, hc⟩ := t.inputs_apart
  obtain ⟨r, rs, hrs⟩ := List.exists_cons_of_ne_nil t.rule_ne
  have hr : Text.isBlank r = false := t.rule_visible r (by simp [hrs])
  -- What is left of the text before the colon and the inputs.
  set fromInputs := t.inputs ++ ("|".toList ++ t.dependencies) with hfromInputs
  set fromColon := ":".toList ++ (t.gap ++ (t.rule ++ fromInputs)) with hcolon
  refine ⟨⟨.dependencies, t.dependencies, []⟩ :: captured ::
    ⟨.rule, t.rule ++ fromInputs, fromInputs⟩ :: ⟨.otherOutputs, ys ++ fromColon, fromColon⟩ :: s,
    ?_, by simp, ?_⟩
  · rw [buildTrailer, BuildTail.text, houtputs, List.append_assoc]
    refine read_cons_run_of_stop hxs (by simp) ?_ ?_
    · intro d hd
      cases ys with
      | nil =>
        obtain rfl : ':' = d := by simpa [hcolon] using hd
        decide
      | cons o os => exact hys d (by simpa using hd)
    refine read_cons_capture_run_of_stop ?_ (by simp) (by simp [CharClass.has]) ?_
    · intro d hd
      have hmem : d ∈ t.outputs := by simp [houtputs, hd]
      have : d ≠ ':' := fun h => t.outputs_end (h ▸ hmem)
      simp [CharClass.has, this]
    -- The blanks before the colon belong to the outputs.
    rw [read_cons_many_of_stop (by simp; decide), hcolon, read_cons_lit]
    refine read_cons_run_of_stop t.gap_blank (by simp) (by simp [hrs, hr, CharClass.has]) ?_
    refine read_cons_capture_run_of_stop ?_ (by simp [t.rule_ne]) ?_ ?_
    · intro d hd
      simp [CharClass.has, t.rule_visible d hd]
    · simp [hcs, hc, CharClass.has]
    exact hinputs _ _
  · intro f h₁ h₂ h₃ h₄
    simp [hcaptured, h₁.symm, h₂.symm, h₃.symm, h₄.symm]

/-- How a build statement is written around its first output: `indent` stands in front, `gap` before
the output. -/
structure BuildForm where
  indent : List Char
  gap : List Char
  tail : BuildTail
  indent_blank : IsBlanks indent
  gap_blank : IsBlanks gap

namespace BuildForm

variable {α : Type} {k : Place → Captures Field → Option α} {s : Captures Field} {r : α}
  {ps : List (Pattern Field)} {output : List Char}

/-- The build statement for an output, given by its path below the directory of outputs. -/
def text (f : BuildForm) (output : List Char) : List Char :=
  f.indent ++ ("build".toList ++ (f.gap ++ ("obj/".toList ++ (output ++ f.tail.text))))

theorem read_text (f : BuildForm)
    (hk : (inOrder ps).read k ⟨some '/', output ++ f.tail.text⟩ s = some r) :
    (inOrder (start :: many .blank :: lit "build" :: many .blank :: lit "obj/" :: ps)).read k
      (.ofText (f.text output)) s = some r := by
  refine read_opening f.indent_blank ⟨'b', _, rfl, by decide⟩ ?_
  refine read_cons_run_of_stop f.gap_blank (by simp) (by simp; decide) ?_
  rw [read_cons_lit]
  simpa using hk

end BuildForm

end Statement

end ComponentLinks
