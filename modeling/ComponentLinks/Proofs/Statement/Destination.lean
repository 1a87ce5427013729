import ComponentLinks.Proofs.Pattern.Words
import ComponentLinks.Proofs.Statement.ManifestFlags
import ComponentLinks.Proofs.Statement.PackageStamps

/-!
# The component of a validation command

The stamp of a command that validates the references of a manifest may name the manifest that the
component ends up with. The component has its target and its name from there; otherwise it has the
target from the label and the name from the file of the manifest.

## Main definitions

* `Statement.StampedWords`: how the words of a command with a stamp are written.
* `Statement.NamesManifest`: the manifest that a stamp names.
* `Statement.StampedWords.stampReading_of_namesManifest`: the name of the manifest is read first.
* `Statement.StampedWords.stampReading_eq_none`: a stamp without such a name is passed over.
* `Statement.exists_validation_of_stamped`: what is recorded of such a command.
-/
namespace ComponentLinks.Statement

open Pattern

/-- Whether a stamp names the manifest `name`, after the first mark in it. -/
def NamesManifest (stamp name : List Char) : Prop :=
  ∃ before, stamp = before ++ ("_validate_manifests_".toList ++ (name ++ ".action.stamp".toList)) ∧
    (∀ xs ys, stamp = xs ++ ("_validate_manifests_".toList ++ ys) → before.length ≤ xs.length) ∧
    IsDottedName name ∧ ¬ ".action.stamp".toList <:+: name

/-- The words that give the options of the command their meaning. -/
def validationFlags : List (List Char) :=
  ["--stamp".toList, "validate-references".toList, "--component-manifest".toList,
   "--gn-label".toList]

theorem stamp_mem : "--stamp".toList ∈ validationFlags := by simp [validationFlags]

theorem task_mem : "validate-references".toList ∈ validationFlags := by simp [validationFlags]

theorem manifest_mem : "--component-manifest".toList ∈ validationFlags := by
  simp [validationFlags]

theorem label_mem : "--gn-label".toList ∈ validationFlags := by simp [validationFlags]

section Flag

variable {flag gap rest : List Char}

theorem ne_nil_of_mem_validationFlags (h : flag ∈ validationFlags) : flag ≠ [] := by
  have hall : ∀ flag ∈ validationFlags, flag ≠ [] := by
    simp only [validationFlags]
    decide
  exact hall flag h

theorem isVisible_of_mem_validationFlags (h : flag ∈ validationFlags) : IsVisible flag := by
  have hall : ∀ flag ∈ validationFlags, IsVisible flag := by
    simp only [validationFlags]
    decide
  exact hall flag h

theorem words_flag_append (h : flag ∈ validationFlags)
    (hrest : ∀ c ∈ rest.head?, Text.isBlank c = true) :
    Text.words (flag ++ rest) = flag :: Text.words rest :=
  Text.words_visible_append (ne_nil_of_mem_validationFlags h) (isVisible_of_mem_validationFlags h)
    hrest

theorem head_append_of_isBlanks (hne : gap ≠ []) (hgap : IsBlanks gap) :
    ∀ c ∈ (gap ++ rest).head?, Text.isBlank c = true := by
  intro c hc
  obtain ⟨g, gs, rfl⟩ := List.exists_cons_of_ne_nil hne
  exact hgap c (by simp_all)

end Flag

/-- How the words of a command are written that has the stamp `stamp` right after its tool, and
other options `afterStamp`. None of the flags is hidden in the other options. -/
structure StampedWords extends ValidationWords where
  toolGap : List Char
  stampGap : List Char
  stamp : List Char
  afterStamp : List Char
  options_eq : options = toolGap ++ ("--stamp".toList ++ (stampGap ++ (stamp ++ afterStamp)))
  toolGap_blank : IsBlanks toolGap
  stampGap_ne : stampGap ≠ []
  stampGap_blank : IsBlanks stampGap
  stamp_ne : stamp ≠ []
  stamp_visible : IsVisible stamp
  afterStamp_apart : ∀ c ∈ afterStamp.head?, Text.isBlank c = true
  more_apart : ∀ c ∈ more.head?, Text.isBlank c = true
  directory_visible : IsVisible directory
  plain : ∀ flag ∈ validationFlags, ∀ part ∈ [before, stamp, afterStamp, more, others, rest],
    ¬ flag <:+: part

namespace StampedWords

/-! ## The words apart -/

def toFlag (f : StampedWords) : List Char :=
  f.afterStamp ++ f.taskStart :: ("validate-references".toList ++ f.more)

theorem head_toFlag (f : StampedWords) : ∀ c ∈ f.toFlag.head?, Text.isBlank c = true :=
  ManifestFlags.head_append_of_blank f.afterStamp_apart f.taskStart_blank

theorem settings_eq (f : StampedWords) : f.settings =
    f.toolGap ++ ("--stamp".toList ++ (f.stampGap ++ (f.stamp ++ f.toFlag))) := by
  simp [ValidationWords.settings, f.options_eq, toFlag]

def start (f : StampedWords) : List Char :=
  f.before ++ (ValidationWords.tool f.host ++ f.toolEnd :: f.toolGap)

theorem opening_eq (f : StampedWords) : f.opening =
    f.start ++ ("--stamp".toList ++ (f.stampGap ++ (f.stamp ++ f.toFlag))) := by
  simp [ValidationWords.opening, ValidationWords.tool, start, f.settings_eq]

theorem words_toFlag (f : StampedWords) : Text.words f.toFlag =
    Text.words f.afterStamp ++ "validate-references".toList :: Text.words f.more := by
  rw [toFlag, Text.words_append_cons_of_isBlank f.taskStart_blank,
    words_flag_append task_mem f.more_apart]

theorem words_settings (f : StampedWords) : Text.words f.settings =
    "--stamp".toList :: f.stamp :: Text.words f.toFlag := by
  rw [settings_eq, Text.words_blanks_append f.toolGap_blank,
    words_flag_append stamp_mem (head_append_of_isBlanks f.stampGap_ne f.stampGap_blank),
    Text.words_append f.stampGap_blank f.stamp_ne f.stamp_visible f.head_toFlag]

theorem words_opening (f : StampedWords) :
    Text.words f.opening = Text.words (f.before ++ ValidationWords.tool f.host) ++
      "--stamp".toList :: f.stamp :: (Text.words f.afterStamp ++
        "validate-references".toList :: Text.words f.more) := by
  have hopening : f.opening = (f.before ++ ValidationWords.tool f.host) ++ f.toolEnd ::
      f.settings := by
    simp [ValidationWords.opening, ValidationWords.tool]
  rw [hopening, Text.words_append_cons_of_isBlank f.toolEnd_blank, words_settings, words_toFlag]

def manifestWord (f : StampedWords) : List Char := f.root ++ ("/".toList ++ f.manifestPath)

def labelWord (f : StampedWords) : List Char :=
  "//".toList ++ (f.directory ++ ("$:".toList ++ f.label))

theorem manifestWord_ne (f : StampedWords) : f.manifestWord ≠ [] := by
  rw [manifestWord]
  exact List.append_ne_nil_of_right_ne_nil _ (List.append_ne_nil_of_left_ne_nil (by simp) _)

theorem labelWord_ne (f : StampedWords) : f.labelWord ≠ [] := by
  rw [labelWord]
  exact List.append_ne_nil_of_left_ne_nil (by simp) _

theorem isVisible_manifestWord (f : StampedWords) : IsVisible f.manifestWord := by
  have hroot : ∀ root ∈ manifestRoots, IsVisible root := by
    simp only [manifestRoots]
    decide
  have hending : ∀ ending ∈ manifestEndings, IsVisible ending := by
    simp only [manifestEndings]
    decide
  have hslash : IsVisible "/".toList := by decide
  exact (hroot _ f.root_mem).append (hslash.append (f.source_visible.append (hslash.append
    (f.manifest_name.isVisible.append (hending _ f.ending_mem)))))

theorem isVisible_labelWord (f : StampedWords) : IsVisible f.labelWord := by
  have hstart : IsVisible "//".toList := by decide
  have hcolon : IsVisible "$:".toList := by decide
  exact hstart.append (f.directory_visible.append (hcolon.append f.label_name.isVisible))

theorem words_fromLabel (f : StampedWords) : Text.words f.fromLabel =
    "--gn-label".toList :: f.labelWord :: Text.words f.rest := by
  have hfromLabel : f.fromLabel =
      "--gn-label".toList ++ (f.labelGap ++ (f.labelWord ++ f.rest)) := by
    unfold ManifestFlags.fromLabel labelWord
    simp only [List.append_assoc]
  rw [hfromLabel, words_flag_append label_mem
      (head_append_of_isBlanks f.labelGap_ne f.labelGap_blank),
    Text.words_append f.labelGap_blank f.labelWord_ne f.isVisible_labelWord f.rest_apart]

theorem words_fromManifest (f : StampedWords) :
    Text.words f.fromManifest = "--component-manifest".toList :: f.manifestWord ::
      (Text.words f.others ++ "--gn-label".toList :: f.labelWord :: Text.words f.rest) := by
  have hfromManifest : f.fromManifest = "--component-manifest".toList ++ (f.manifestGap ++
      (f.manifestWord ++ f.afterManifest)) := by
    unfold ManifestFlags.fromManifest manifestWord
    simp only [List.append_assoc]
  rw [hfromManifest, words_flag_append manifest_mem
      (head_append_of_isBlanks f.manifestGap_ne f.manifestGap_blank),
    Text.words_append f.manifestGap_blank f.manifestWord_ne f.isVisible_manifestWord
      f.head_afterManifest,
    ManifestFlags.afterManifest, Text.words_append_cons_of_isBlank f.labelStart_blank,
    words_fromLabel]

/-! ## Where the flags stand -/

/-- A flag stands in none of the other options. -/
theorem not_isInfix_of_mem_words (f : StampedWords) {flag part word : List Char}
    (hflag : flag ∈ validationFlags)
    (hpart : part ∈ [f.before, f.stamp, f.afterStamp, f.more, f.others, f.rest])
    (hword : word ∈ Text.words part) : ¬ flag <:+: word :=
  fun h => f.plain flag hflag part hpart (h.trans (Text.isInfix_of_mem_words hword))

/-- A flag with hyphens stands in the tool only if it stands before it. -/
theorem isInfix_before_of_tool (f : StampedWords) {flag gap : List Char} (hh : 'h' ∉ flag)
    (hhyphen : '-' ∈ flag) (hgap : IsBlanks gap)
    (h : flag <:+: f.before ++ (ValidationWords.tool f.host ++ gap)) : flag <:+: f.before := by
  have hsplit : ValidationWords.tool f.host ++ gap =
      'h' :: ("ost_".toList ++ (f.host ++ ("/cmc".toList ++ gap))) := by
    simp [ValidationWords.tool]
  rw [hsplit] at h
  rcases Text.isInfix_or_of_not_mem hh h with h | h
  · exact h
  · have hword : Text.isWord '-' = false := by decide
    have hblank : Text.isBlank '-' = false := by decide
    have hhost : '-' ∉ f.host := by
      intro hmem
      simp [f.host_word _ hmem] at hword
    have hgap : '-' ∉ gap := by
      intro hmem
      simp [hgap _ hmem] at hblank
    have hmem := h.subset hhyphen
    simp_all

/-- The flags of the manifest and the label are the first ones. -/
theorem isFirst (f : StampedWords) : f.IsFirst where
  label := f.plain _ label_mem _ (by simp)
  manifest := by
    intro h
    have hplain := f.plain _ manifest_mem
    have hwords {part word : List Char} :=
      @not_isInfix_of_mem_words f "--component-manifest".toList part word manifest_mem
    obtain ⟨v, hv, h⟩ := Text.exists_mem_words_of_isInfix
      (ne_nil_of_mem_validationFlags manifest_mem) (isVisible_of_mem_validationFlags manifest_mem) h
    rw [words_opening] at hv
    simp only [List.mem_append, List.mem_cons] at hv
    rcases hv with hv | hv | hv | hv | hv | hv
    · have h := h.trans (Text.isInfix_of_mem_words hv)
      have hbefore : "--component-manifest".toList <:+: f.before :=
        f.isInfix_before_of_tool (by decide) (by decide) isBlanks_nil (by rwa [List.append_nil])
      exact hplain f.before (by simp) hbefore
    · exact absurd (hv ▸ h).length_le (by decide)
    · exact hplain f.stamp (by simp) (hv ▸ h)
    · exact hwords (by simp) hv h
    · exact absurd (hv ▸ h).length_le (by decide)
    · exact hwords (by simp) hv h

theorem head_of_isPrefix_task {cs : List Char} (h : "validate-references".toList <+: cs) :
    cs.head? = some 'v' := by
  obtain ⟨zs, rfl⟩ := h
  simp

theorem head_manifestWord (f : StampedWords) : f.manifestWord.head? ≠ some 'v' := by
  have hroot : ∀ root ∈ manifestRoots, ∀ rest, (root ++ rest).head? ≠ some 'v' := by
    simp [manifestRoots]
  exact hroot _ f.root_mem _

theorem head_labelWord (f : StampedWords) : f.labelWord.head? ≠ some 'v' := by
  unfold labelWord
  simp

/-- The task is not named again after the options that follow it. -/
theorem not_isInfix_task (f : StampedWords) {b : Char} (hb : Text.isBlank b = true) :
    ¬ b :: "validate-references".toList <:+: f.more ++ f.flagStart :: f.fromManifest := by
  intro h
  obtain ⟨v, hv, h⟩ := Text.exists_mem_words_of_cons_isInfix hb
    (ne_nil_of_mem_validationFlags task_mem) (isVisible_of_mem_validationFlags task_mem) h
  rw [Text.words_append_cons_of_isBlank f.flagStart_blank, words_fromManifest] at hv
  simp only [List.mem_append, List.mem_cons] at hv
  rcases hv with hv | hv | hv | hv | hv | hv | hv
  · exact f.not_isInfix_of_mem_words task_mem (by simp) hv h.isInfix
  · exact absurd (head_of_isPrefix_task (hv ▸ h)) (by simp)
  · exact absurd (head_of_isPrefix_task (hv ▸ h)) f.head_manifestWord
  · exact f.not_isInfix_of_mem_words task_mem (by simp) hv h.isInfix
  · exact absurd (head_of_isPrefix_task (hv ▸ h)) (by simp)
  · exact absurd (head_of_isPrefix_task (hv ▸ h)) f.head_labelWord
  · exact f.not_isInfix_of_mem_words task_mem (by simp) hv h.isInfix

/-! ## The stamp -/

variable {xs us name : List Char}

theorem start_eq (f : StampedWords) (hopening : f.opening = xs ++ (us ++ f.settings)) :
    f.start = xs ++ (us ++ f.toolGap) := by
  rw [opening_eq, settings_eq, ← List.append_assoc us, ← List.append_assoc xs] at hopening
  exact List.append_cancel_right hopening

/-- No stamp is named between a tool and the last one. -/
theorem not_isPrefix_stamp (f : StampedWords) {ys zs rest : List Char}
    (hopening : f.opening = xs ++ (us ++ f.settings)) (hsplit : us ++ f.toolGap = ys ++ zs)
    (hne : zs ≠ []) : ¬ "--stamp".toList <+: zs ++ rest := by
  obtain ⟨gap, b, hgap⟩ : ∃ gap b, f.toolEnd :: f.toolGap = gap ++ [b] := by
    rcases List.eq_nil_or_concat (f.toolEnd :: f.toolGap) with hnil | ⟨gap, b, hgap⟩
    · simp at hnil
    · exact ⟨gap, b, by simpa using hgap⟩
  have hblanks : IsBlanks (gap ++ [b]) := by
    rw [← hgap]
    intro c hc
    rcases List.mem_cons.1 hc with rfl | hc
    · exact f.toolEnd_blank
    · exact f.toolGap_blank c hc
  have hb : b ∉ "--stamp".toList := by
    intro hmem
    have hblank := hblanks b (by simp)
    simp [isVisible_of_mem_validationFlags stamp_mem b hmem] at hblank
  have hstart : ¬ "--stamp".toList <:+: f.before ++ (ValidationWords.tool f.host ++ gap) :=
    fun h => f.plain _ stamp_mem f.before (by simp) (f.isInfix_before_of_tool (by decide)
      (by decide) (fun c hc => hblanks c (by simp [hc])) h)
  have hsame : f.before ++ (ValidationWords.tool f.host ++ gap) ++ [b] = (xs ++ ys) ++ zs := by
    have hstart : f.before ++ (ValidationWords.tool f.host ++ gap) ++ [b] = f.start := by
      simp [start, hgap]
    rw [hstart, f.start_eq hopening, hsplit, List.append_assoc]
  exact Text.not_isPrefix_of_not_isInfix hb hstart hsame hne

end StampedWords

section Name

variable {name ys zs rest : List Char}

/-- What stands after the name of a manifest does not begin in the name. -/
theorem not_isPrefix_nameEnd (hname : ¬ ".action.stamp".toList <:+: name)
    (hsplit : name = ys ++ zs) (hne : zs ≠ []) :
    ¬ ".action.stamp".toList <+: zs ++ (".action.stamp".toList ++ rest) := by
  rintro ⟨after, h⟩
  have hborder : ∀ n < 13, 0 < n → ¬ ".action.stamp".toList.drop n <+: ".action.stamp".toList := by
    decide
  rcases List.append_eq_append_iff.1 h with ⟨us, rfl, -⟩ | ⟨us, hus, hafter⟩
  · exact hname ⟨ys, us, by simp [hsplit]⟩
  · have hlength : zs.length + us.length = 13 := by
      rw [← List.length_append, ← hus]
      rfl
    cases us with
    | nil => exact hname ⟨ys, [], by simp [hsplit, hus]⟩
    | cons u us =>
      -- The end of the name would overlap with itself.
      have hpre : u :: us <+: ".action.stamp".toList :=
        List.prefix_of_prefix_length_le ⟨after, rfl⟩ ⟨rest, hafter⟩ (by
          rw [show ".action.stamp".toList.length = 13 by rfl]
          omega)
      have hdrop : ".action.stamp".toList.drop zs.length = u :: us := by
        rw [hus, List.drop_left]
      refine hborder zs.length ?_ (List.length_pos_iff.2 hne) (hdrop ▸ hpre)
      rw [List.length_cons] at hlength
      omega

theorem read_name {α : Type} {k : Place → Captures Field → Option α} {s : Captures Field} {r : α}
    (hname : IsDottedName name) (hend : ¬ ".action.stamp".toList <:+: name)
    (hrest : ∀ c ∈ rest.head?, Text.isBlank c = true) (last : Option Char)
    (hk : ∀ last, k ⟨last, rest⟩ (⟨.destComponentManifest, name ++ (".action.stamp".toList ++ rest),
      ".action.stamp".toList ++ rest⟩ :: s) = some r) :
    (inOrder [opt (capture .destComponentManifest (severalLazy .dottedName)),
      lit ".action.stamp", boundary]).read k ⟨last, name ++ (".action.stamp".toList ++ rest)⟩ s =
        some r := by
  rw [read_inOrder_cons]
  refine read_opt_of_some ?_
  rw [read_capture]
  refine read_run_shortest ?_ (by simp [hname.1]) ?_ ?_
  · intro c hc
    simpa [CharClass.has] using hname.2 c hc
  · rw [read_cons_lit, lastAfter_of_getLast? (c := 'p') (by simp),
      read_inOrder_cons, read_boundary_of_isBoundary]
    · exact hk _
    · exact ManifestFlags.isBoundary_of_blank (by decide) hrest
  · intro ys zs hsplit hne _ r' hr'
    obtain ⟨after, hafter, -⟩ := exists_of_read_cons_lit hr'
    exact absurd ⟨after, hafter.symm⟩ (not_isPrefix_nameEnd hend hsplit hne)

end Name

namespace StampedWords

variable {xs us name : List Char}

def fromTask (f : StampedWords) : List Char :=
  f.taskStart :: ("validate-references".toList ++ (f.more ++ f.flagStart :: f.fromManifest))

/-- A task that comes after some text stands no later than the last task. -/
theorem exists_of_append_fromTask (f : StampedWords) {pre ys zs : List Char} {b : Char}
    (hb : Text.isBlank b = true)
    (h : pre ++ f.fromTask = ys ++ (b :: ("validate-references".toList ++ zs))) :
    ∃ ts, pre = ys ++ ts := by
  rcases List.append_eq_append_iff.1 h with ⟨vs, hys, hvs⟩ | ⟨vs, hvs, -⟩
  · cases vs with
    | nil => exact ⟨[], by simp [hys]⟩
    | cons v vs =>
      obtain ⟨-, htask⟩ := List.cons.inj hvs
      have hvisible : b ∉ "validate-references".toList := by
        intro hmem
        simp [isVisible_of_mem_validationFlags task_mem b hmem] at hb
      refine absurd ?_ (f.not_isInfix_task hb)
      exact Text.isInfix_of_not_mem hvisible ⟨vs, zs, by rw [htask]; simp⟩
  · exact ⟨vs, hvs⟩

def stampReading (f : StampedWords) : Option (Captures Field) :=
  (inOrder ValidationWords.stampWordPatterns).read
    (fun b s => (inOrder ValidationWords.taskPatterns).read (fun _ s => some s) b s)
    ⟨f.stampGap.getLast?, f.stamp ++ (f.afterStamp ++ f.fromTask)⟩ []

/-- Whatever is read of the stamp, the manifest and the label are read after it. -/
theorem exists_of_stampReading (f : StampedWords) {r : Captures Field}
    (h : f.stampReading = some r) : ∃ s, r = f.kept s := by
  obtain ⟨⟨last, rest⟩, s, ⟨ps, hps⟩, hr⟩ := exists_suffix_of_read h
  obtain ⟨b, hb, qs, zs, hrest⟩ := ValidationWords.exists_isInfix_of_read_task hr
  change ps ++ rest = f.stamp ++ (f.afterStamp ++ f.fromTask) at hps
  change qs ++ b :: "validate-references".toList ++ zs = rest at hrest
  have htask : (f.stamp ++ f.afterStamp) ++ f.fromTask =
      (ps ++ qs) ++ (b :: ("validate-references".toList ++ zs)) := by
    rw [List.append_assoc, ← hps, ← hrest]
    simp
  obtain ⟨ts, hts⟩ := f.exists_of_append_fromTask hb htask
  obtain rfl : rest = (qs ++ ts) ++ f.fromTask := by
    have hsame : ps ++ rest = ps ++ ((qs ++ ts) ++ f.fromTask) := by
      rw [hps, ← List.append_assoc, hts]
      simp only [List.append_assoc]
    exact List.append_cancel_left hsame
  refine ⟨s, ?_⟩
  have hopening : f.opening = (f.start ++ ("--stamp".toList ++ (f.stampGap ++ ps))) ++
      ((qs ++ ts) ++ f.taskStart :: ("validate-references".toList ++ f.more)) := by
    have hsplit : f.stamp ++ f.afterStamp = ps ++ (qs ++ ts) := by
      rw [hts, List.append_assoc]
    rw [opening_eq, toFlag, ← List.append_assoc f.stamp, hsplit]
    simp only [List.append_assoc]
  exact (Option.some.inj ((f.read_task f.isFirst _ hopening last s).symm.trans hr)).symm

/-- Before the task only the stamp after the last tool is named. -/
theorem eq_of_stamp (f : StampedWords) {ys rest : List Char}
    (hopening : f.opening = xs ++ (us ++ f.settings))
    (h : us ++ f.options = ys ++ ("--stamp".toList ++ rest)) :
    rest = f.stampGap ++ (f.stamp ++ f.afterStamp) := by
  obtain ⟨g, gs, hgap⟩ := List.exists_cons_of_ne_nil f.stampGap_ne
  have hg : g ∉ "--stamp".toList := by
    intro hmem
    have hblank := f.stampGap_blank g (by simp [hgap])
    simp [isVisible_of_mem_validationFlags stamp_mem g hmem] at hblank
  rw [f.options_eq, ← List.append_assoc] at h
  rcases List.append_eq_append_iff.1 h with ⟨vs, -, hvs⟩ | ⟨vs, hsplit, hvs⟩
  · cases vs with
    | nil => exact (List.append_cancel_left hvs).symm
    | cons v vs =>
      -- The other options would hold the flag.
      have hinfix : "--stamp".toList <:+:
          "-stamp".toList ++ (f.stampGap ++ (f.stamp ++ f.afterStamp)) := by
        refine ⟨vs, rest, ?_⟩
        have hcons : '-' :: ("-stamp".toList ++ (f.stampGap ++ (f.stamp ++ f.afterStamp))) =
            v :: (vs ++ ("--stamp".toList ++ rest)) := hvs
        rw [List.append_assoc, (List.cons.inj hcons).2]
      rw [hgap, List.cons_append] at hinfix
      rcases Text.isInfix_or_of_not_mem hg hinfix with hinfix | hinfix
      · exact absurd hinfix.length_le (by decide)
      · obtain ⟨w, hw, hinfix⟩ := Text.exists_mem_words_of_isInfix
          (ne_nil_of_mem_validationFlags stamp_mem) (isVisible_of_mem_validationFlags stamp_mem)
          hinfix
        rw [Text.words_append (fun c hc => f.stampGap_blank c (by simp [hgap, hc])) f.stamp_ne
          f.stamp_visible f.afterStamp_apart, List.mem_cons] at hw
        rcases hw with hw | hw
        · exact absurd (hw ▸ hinfix) (f.plain _ stamp_mem f.stamp (by simp))
        · exact absurd hinfix (f.not_isInfix_of_mem_words stamp_mem (by simp) hw)
  · cases vs with
    | nil => exact List.append_cancel_left hvs
    | cons v vs =>
      exact absurd ⟨rest, hvs⟩ (f.not_isPrefix_stamp hopening hsplit (List.cons_ne_nil v vs))

/-- Where a word with a mark comes after the blanks of the stamp, it is the stamp that begins with
the word. -/
theorem gap_eq_and_isPrefix_stamp (f : StampedWords) {gap word rest : List Char}
    (hgap : IsBlanks gap) (hne : word ≠ []) (hword : IsVisible word)
    (h : gap ++ (word ++ rest) = f.stampGap ++ (f.stamp ++ f.afterStamp)) :
    gap = f.stampGap ∧ word <+: f.stamp := by
  obtain ⟨c, cs, hcs⟩ := List.exists_cons_of_ne_nil hne
  obtain ⟨d, ds, hds⟩ := List.exists_cons_of_ne_nil f.stamp_ne
  have hc : Text.isBlank c = false := hword c (by simp [hcs])
  have hd : Text.isBlank d = false := f.stamp_visible d (by simp [hds])
  have hcons : gap ++ c :: (cs ++ rest) = f.stampGap ++ d :: (ds ++ f.afterStamp) := by
    simpa only [hcs, hds, List.cons_append] using h
  obtain ⟨rfl, -, -⟩ := Text.append_inj_of_stop hgap f.stampGap_blank hc hd hcons
  exact ⟨rfl, prefix_of_isVisible hword f.afterStamp_apart ⟨rest, List.append_cancel_left h⟩⟩

theorem append_afterTool (f : StampedWords) (us : List Char) :
    us ++ f.afterTool = (us ++ f.options) ++ f.fromTask := by
  rw [ValidationWords.afterTool_eq, fromTask, List.append_assoc]

theorem stampReading_of_read (f : StampedWords) (hopening : f.opening = xs ++ (us ++ f.settings))
    {last : Option Char} {r : Captures Field}
    (h : ValidationWords.stampPattern.read
      (fun b s => (inOrder ValidationWords.taskPatterns).read (fun _ s => some s) b s)
      ⟨last, us ++ f.afterTool⟩ [] = some r) : f.stampReading = some r := by
  obtain ⟨ys, gap, rest, hus, -, hgap, hr⟩ := ValidationWords.exists_of_read_stamp h
  obtain ⟨word, after, hrest, hword, b, hb, ps, zs, hafter⟩ :=
    ValidationWords.exists_of_read_stampWord hr
  change us ++ f.afterTool = ys ++ ("--stamp".toList ++ (gap ++ rest)) at hus
  change rest = word ++ ("_validate_manifests_".toList ++ after) at hrest
  rw [append_afterTool] at hus
  set mark := "_validate_manifests_".toList with hmark
  -- The stamp comes before the task.
  have htask : (us ++ f.options) ++ f.fromTask =
      (ys ++ ("--stamp".toList ++ (gap ++ ((word ++ mark) ++ ps)))) ++
        (b :: ("validate-references".toList ++ zs)) := by
    rw [hus, hrest, ← hafter]
    simp only [List.append_assoc, List.cons_append]
  obtain ⟨ts, hts⟩ := f.exists_of_append_fromTask hb htask
  have hoptions : us ++ f.options =
      ys ++ ("--stamp".toList ++ (gap ++ ((word ++ mark) ++ (ps ++ ts)))) := by
    rw [hts]
    simp only [List.append_assoc]
  have hsame := f.eq_of_stamp hopening hoptions
  have hvisible : IsVisible mark := by
    rw [hmark]
    decide
  obtain ⟨rfl, -⟩ := f.gap_eq_and_isPrefix_stamp hgap (by simp [hmark]) (hword.append hvisible)
    hsame
  have hstamp : f.stamp ++ (f.afterStamp ++ f.fromTask) = rest := by
    rw [hoptions, hsame] at hus
    simpa only [List.append_assoc, List.append_cancel_left_eq] using hus
  rw [stampReading, hstamp, hr]

/-- What is read after any tool is what is read of the stamp; a stamp of which nothing is read is
passed over. -/
theorem read_afterTool (f : StampedWords) (hopening : f.opening = xs ++ (us ++ f.settings))
    (last : Option Char) :
    (inOrder (opt ValidationWords.stampPattern :: ValidationWords.taskPatterns)).read
      (fun _ s => some s) ⟨last, us ++ f.afterTool⟩ [] =
        some (f.stampReading.getD (f.kept [])) := by
  rw [read_inOrder_cons]
  cases h : f.stampReading with
  | none =>
    rw [read_opt_of_none]
    · exact f.read_task_afterTool f.isFirst hopening last []
    · by_contra hsome
      obtain ⟨r, hr⟩ := Option.ne_none_iff_exists'.1 hsome
      simp [f.stampReading_of_read hopening hr] at h
  | some r =>
    refine read_opt_of_some ?_
    obtain ⟨c, cs, hstamp⟩ := List.exists_cons_of_ne_nil f.stamp_ne
    have hc : Text.isBlank c = false := f.stamp_visible c (by simp [hstamp])
    have hstart : us ++ f.afterTool = (us ++ f.toolGap) ++ ("--stamp".toList ++ (f.stampGap ++
        (f.stamp ++ (f.afterStamp ++ f.fromTask)))) := by
      rw [append_afterTool, f.options_eq]
      simp only [List.append_assoc]
    rw [hstart, ValidationWords.stampPattern]
    refine read_cons_run_shortest (by simp [CharClass.has]) (by simp) ?_ ?_
    · rw [read_cons_lit]
      refine read_cons_run_of_stop f.stampGap_blank (by simp [f.stampGap_ne])
        (by simp [hstamp, hc, CharClass.has]) ?_
      rw [lastAfter_of_getLast? (List.getLast?_eq_some_getLast f.stampGap_ne),
        ← List.getLast?_eq_some_getLast]
      exact h
    · intro ys zs hsplit hne _ r' hr'
      obtain ⟨after, hafter, -⟩ := exists_of_read_cons_lit hr'
      exact absurd ⟨after, hafter.symm⟩ (f.not_isPrefix_stamp hopening hsplit hne)

theorem stampReading_of_namesManifest (f : StampedWords) (hname : NamesManifest f.stamp name) :
    ∃ rest, f.stampReading = some (f.kept [⟨.destComponentManifest, name ++ rest, rest⟩]) := by
  obtain ⟨before, hstamp, hfirst, hdotted, hend⟩ := hname
  have hvisible : IsVisible before :=
    fun c hc => f.stamp_visible c (by simp [hstamp, hc])
  have hmark : IsVisible "_validate_manifests_".toList := by decide
  have hblank : ∀ c ∈ (f.afterStamp ++ f.fromTask).head?, Text.isBlank c = true :=
    ManifestFlags.head_append_of_blank f.afterStamp_apart f.taskStart_blank
  have hsplit : f.stamp ++ (f.afterStamp ++ f.fromTask) = before ++
      ("_validate_manifests_".toList ++ (name ++ (".action.stamp".toList ++
        (f.afterStamp ++ f.fromTask)))) := by
    simp [hstamp]
  refine ⟨".action.stamp".toList ++ (f.afterStamp ++ f.fromTask), ?_⟩
  rw [stampReading, hsplit, ValidationWords.stampWordPatterns]
  refine read_cons_run_shortest ?_ (by simp) ?_ ?_
  · intro c hc
    simp [CharClass.has, hvisible c hc]
  · rw [read_cons_lit]
    refine read_name hdotted hend hblank _ fun last => ?_
    exact f.read_task f.isFirst (f.start ++ ("--stamp".toList ++ (f.stampGap ++ f.stamp)))
      (by rw [opening_eq, toFlag]; simp only [List.append_assoc]) last _
  · -- An earlier mark would be one in the stamp.
    intro ys zs hbefore hne _ r' hr'
    obtain ⟨after, hafter, -⟩ := exists_of_read_cons_lit hr'
    have hpre : ys ++ "_validate_manifests_".toList <+: f.stamp := by
      have hys : IsVisible ys := fun c hc => hvisible c (by simp [hbefore, hc])
      refine prefix_of_isVisible (hys.append hmark) hblank ⟨after, ?_⟩
      rw [hsplit, hbefore, List.append_assoc, List.append_assoc]
      exact congrArg (ys ++ ·) hafter.symm
    obtain ⟨after, hys⟩ := hpre
    have hle : before.length ≤ ys.length := hfirst ys after (by rw [← hys, List.append_assoc])
    have hzs : 0 < zs.length := List.length_pos_iff.2 hne
    rw [hbefore, List.length_append] at hle
    omega

/-- Nothing is read of a stamp without the mark of a name. -/
theorem stampReading_eq_none (f : StampedWords)
    (hstamp : ¬ "_validate_manifests_".toList <:+: f.stamp) : f.stampReading = none := by
  by_contra hsome
  obtain ⟨r, hr⟩ := Option.ne_none_iff_exists'.1 hsome
  obtain ⟨word, after, hrest, hword, -⟩ := ValidationWords.exists_of_read_stampWord hr
  have hmark : IsVisible "_validate_manifests_".toList := by decide
  have hblank : ∀ c ∈ (f.afterStamp ++ f.fromTask).head?, Text.isBlank c = true :=
    ManifestFlags.head_append_of_blank f.afterStamp_apart f.taskStart_blank
  have hpre : word ++ "_validate_manifests_".toList <+: f.stamp :=
    prefix_of_isVisible (hword.append hmark) hblank
      ⟨after, by rw [List.append_assoc]; exact hrest.symm⟩
  exact hstamp ((List.suffix_append word _).isInfix.trans hpre.isInfix)

/-- What a command with a stamp says, whatever is read of the stamp. -/
theorem exists_kept (f : StampedWords) :
    ∃ s, f.stampReading.getD (f.kept []) = f.kept s ∧
      (inOrder ValidationWords.wordPatterns).read (fun _ s => some s) ⟨some '=', f.words⟩ [] =
        some (f.kept s) := by
  obtain ⟨s, hs⟩ : ∃ s, f.stampReading.getD (f.kept []) = f.kept s := by
    cases h : f.stampReading with
    | none => exact ⟨[], rfl⟩
    | some r => exact f.exists_of_stampReading h
  exact ⟨s, hs, f.read_words fun xs us last hopening => hs ▸ f.read_afterTool hopening last⟩

theorem get?_destination_kept (f : StampedWords) (s : Captures Field) :
    (f.kept s).get? .destComponentManifest = s.get? .destComponentManifest := by
  simp [ManifestFlags.kept, ManifestFlags.keptOfLabel]

end StampedWords

/-! ## What is recorded -/

/-- Whether `stem` is left of a text without the ending that it has among some endings. -/
def IsStem (endings : List (List Char)) (cs stem : List Char) : Prop :=
  (∃ ending ∈ endings, cs = stem ++ ending) ∨ stem = cs ∧ ∀ ending ∈ endings, ¬ ending <:+ cs

/-- A text has one stem where none of the other endings ends it. -/
theorem IsStem.eq_of_append {endings : List (List Char)} {stem stem' ending : List Char}
    (hending : ending ∈ endings)
    (honly : ∀ other ∈ endings, other <:+ stem ++ ending → other = ending)
    (h : IsStem endings (stem ++ ending) stem') : stem' = stem := by
  rcases h with ⟨other, hother, h⟩ | ⟨-, hnone⟩
  · obtain rfl := honly other hother ⟨stem', h.symm⟩
    exact (List.append_cancel_right h).symm
  · exact absurd (List.suffix_append stem ending) (hnone ending hending)

theorem isStem_withoutEnding (ending cs : List Char) :
    IsStem [ending] cs (withoutEnding ending cs) := by
  rw [withoutEnding]
  split
  · rename_i h
    obtain ⟨stem, rfl⟩ := List.isSuffixOf_iff_suffix.1 h
    exact .inl ⟨ending, by simp, by simp⟩
  · rename_i h
    exact .inr ⟨rfl, by simpa using h⟩

theorem isStem_withoutExtension (name : List Char) :
    IsStem [".cmx".toList, ".cm".toList] name (Validation.withoutExtension name) := by
  rw [Validation.withoutExtension]
  split
  · rename_i h
    rcases isStem_withoutEnding ".cmx".toList name with ⟨ending, hending, hname⟩ | ⟨-, hnot⟩
    · exact .inl ⟨ending, List.mem_cons.2 (.inl (List.mem_singleton.1 hending)), hname⟩
    · exact absurd (List.isSuffixOf_iff_suffix.1 h) (hnot _ (by simp))
  · rename_i h
    rcases isStem_withoutEnding ".cm".toList name with ⟨ending, hending, hname⟩ | ⟨hname, hnot⟩
    · exact .inl ⟨ending, List.mem_cons_of_mem _ hending, hname⟩
    · refine .inr ⟨hname, fun ending hending => ?_⟩
      rcases List.mem_cons.1 hending with rfl | hending
      · rwa [← List.isSuffixOf_iff_suffix]
      · exact hnot ending hending

/-- The path of a generated manifest is below the directory of generated files. -/
theorem joinPaths_obj {buildDir path : String} (hne : buildDir ≠ "")
    (hend : buildDir.toList.getLast? ≠ some '/') (hpath : path.toList.head? ≠ some '/') :
    joinPaths (joinPaths buildDir "obj") path = buildDir ++ "/obj/" ++ path := by
  have hobj : joinPaths buildDir "obj" = buildDir ++ "/" ++ "obj" := by
    simp [joinPaths, hne, hend]
  rw [hobj, joinPaths, if_neg hpath, if_neg]
  · apply String.toList_inj.1
    simp
  · simp

/-- The command that validates the references of a manifest says which manifest that is, and that
it is the manifest of the component that its stamp names, or else its label. -/
theorem exists_validation_of_stamped (c : CommandForm) (f : StampedWords) :
    ∃ v, Validation.ofStatement? (c.text f.words) = some v ∧
      Recognized.ofStatement? (c.text f.words) = some (.validation v) ∧
      v.manifest = String.ofList f.manifestPath ∧
      (f.root = "../..".toList → ∀ buildDir,
        (v.record buildDir).manifest = String.ofList f.manifestPath) ∧
      (f.root = "obj".toList → f.source ≠ [] → f.source.head? ≠ some '/' → ∀ buildDir,
        buildDir ≠ "" → buildDir.toList.getLast? ≠ some '/' →
          (v.record buildDir).manifest = buildDir ++ "/obj/" ++ String.ofList f.manifestPath) ∧
      (∀ name, NamesManifest f.stamp name → ∀ buildDir,
        (v.record buildDir).target =
            targetPath (String.ofList f.directory) (String.ofList name) ∧
          ∃ stem, IsStem [".cmx".toList, ".cm".toList] name stem ∧
            (v.record buildDir).component = String.ofList stem) ∧
      (¬ "_validate_manifests_".toList <:+: f.stamp → ∀ buildDir,
        (v.record buildDir).component = String.ofList f.manifest ∧
          ∃ stem, IsStem ["_cmc_validate_references".toList] f.label stem ∧
            (v.record buildDir).target =
              targetPath (String.ofList f.directory) (String.ofList stem)) := by
  obtain ⟨s, hs, hread⟩ := f.exists_kept
  refine ⟨_, ValidationWords.validation_of_read c hread,
    ValidationWords.ofStatement?_of_read c hread, rfl, ?_, ?_, ?_, ?_⟩
  · intro hroot buildDir
    simp [Validation.record, Validation.sourceManifest, ValidationWords.said, Validation.rootOf,
      hroot]
  · intro hroot hne hslash buildDir hdir hend
    have hhead : (String.ofList f.manifestPath).toList.head? ≠ some '/' := by
      obtain ⟨c, cs, hsource⟩ := List.exists_cons_of_ne_nil hne
      simpa [ManifestFlags.manifestPath, hsource] using hslash
    simpa [Validation.record, Validation.sourceManifest, ValidationWords.said, Validation.rootOf,
      hroot] using joinPaths_obj hdir hend hhead
  · -- What is kept under the field of the destination comes from the stamp alone.
    intro name hname buildDir
    obtain ⟨rest, hreading⟩ := f.stampReading_of_namesManifest hname
    have hdestination : s.get? .destComponentManifest = some name := by
      rw [← f.get?_destination_kept, ← hs, hreading, Option.getD_some, f.get?_destination_kept]
      simp
    have hne : name ≠ [] := by
      obtain ⟨-, -, -, hdotted, -⟩ := hname
      exact hdotted.1
    have hnamed : (f.said s).namedDestination = some (String.ofList name) := by
      simp [Validation.namedDestination, ValidationWords.said, hdestination, hne]
    refine ⟨?_, Validation.withoutExtension name, isStem_withoutExtension name, ?_⟩
    · rw [Validation.record, Validation.componentTarget, hnamed]
      rfl
    · rw [Validation.record, Validation.componentName, hnamed]
      simp
  · -- Without a destination the label and the name of the file are left.
    intro hmark buildDir
    have hdestination : s.get? .destComponentManifest = none := by
      rw [← f.get?_destination_kept, ← hs, f.stampReading_eq_none hmark, Option.getD_none,
        f.get?_destination_kept]
      simp
    have hnamed : (f.said s).namedDestination = none := by
      simp [Validation.namedDestination, ValidationWords.said, hdestination]
    refine ⟨?_, _, isStem_withoutEnding _ _, ?_⟩
    · rw [Validation.record, Validation.componentName, hnamed]
      rfl
    · rw [Validation.record, Validation.componentTarget, hnamed]
      simp [ValidationWords.said]

/-- The words of a command with the given stamp, for a manifest below the given root. -/
def stampedWith (stamp root : List Char) (hne : stamp ≠ []) (hvisible : IsVisible stamp)
    (hplain : ∀ flag ∈ validationFlags, ¬ flag <:+: stamp) (hroot : root ∈ manifestRoots) :
    StampedWords where
  before := " ../../".toList
  host := "arm64".toList
  toolEnd := ' '
  options := "--stamp ".toList ++ (stamp ++ " -d x".toList)
  taskStart := ' '
  more := " -v".toList
  flagStart := ' '
  manifestGap := [' ']
  root := root
  source := "src/meta".toList
  manifest := "m".toList
  ending := ".cmx".toList
  others := []
  labelStart := ' '
  labelGap := [' ']
  directory := "src/a".toList
  label := "l_cmc_validate_references".toList
  rest := " -q".toList
  toolGap := []
  stampGap := [' ']
  stamp := stamp
  afterStamp := " -d x".toList
  options_eq := by simp
  host_ne := by decide
  host_word := by decide
  toolEnd_blank := isBlank_space
  taskStart_blank := isBlank_space
  flagStart_blank := isBlank_space
  manifestGap_ne := space_ne_nil
  manifestGap_blank := isBlanks_space
  root_mem := hroot
  source_visible := by decide
  manifest_name := by decide
  ending_mem := cmx_mem_manifestEndings
  others_apart := isBlank_head_nil
  labelStart_blank := isBlank_space
  labelGap_ne := space_ne_nil
  labelGap_blank := isBlanks_space
  directory_ne := by simp
  directory_end := by decide
  label_name := by decide
  label_end := ⟨'s', by simp, by decide⟩
  rest_apart := by decide
  toolGap_blank := isBlanks_nil
  stampGap_ne := space_ne_nil
  stampGap_blank := isBlanks_space
  stamp_ne := hne
  stamp_visible := hvisible
  afterStamp_apart := by decide
  more_apart := by decide
  directory_visible := by decide
  plain := by
    intro flag hflag part hpart
    have hothers : ∀ flag ∈ validationFlags, ∀ part ∈ [" ../../".toList, " -d x".toList,
        " -v".toList, " -q".toList], ¬ flag <:+: part := by
      decide +kernel
    simp only [List.mem_cons, List.not_mem_nil, or_false] at hpart
    rcases hpart with rfl | rfl | rfl | rfl | rfl | rfl
    · exact hothers flag hflag _ (by simp)
    · exact hplain flag hflag
    · exact hothers flag hflag _ (by simp)
    · exact hothers flag hflag _ (by simp)
    · exact fun h => ne_nil_of_mem_validationFlags hflag (List.eq_nil_of_infix_nil h)
    · exact hothers flag hflag _ (by simp)

def namedWords : StampedWords :=
  stampedWith "x_validate_manifests_b.cmx.action.stamp".toList "obj".toList (by simp) (by decide)
    (by decide +kernel) generated_mem_manifestRoots

def unnamedWords : StampedWords :=
  stampedWith "x.action.stamp".toList "../..".toList (by simp) (by decide)
    (by decide +kernel) source_mem_manifestRoots

theorem namesManifest_namedWords : NamesManifest namedWords.stamp "b.cmx".toList := by
  refine ⟨"x".toList, by decide +kernel, fun xs ys h => ?_, by decide, by decide +kernel⟩
  -- The mark does not begin the stamp.
  have hstart : ¬ "_validate_manifests_".toList <+: namedWords.stamp := by decide +kernel
  refine List.length_pos_iff.2 fun hnil => hstart ⟨ys, ?_⟩
  rw [h, hnil, List.nil_append]

/-- The way a command is written that only has a blank after its name. -/
def spacedCommand : CommandForm := ⟨[], [' '], isBlanks_nil, isBlanks_space⟩

/-- A command with a stamp that names a manifest is about that manifest, and a command with another
stamp is about its label. -/
theorem exists_validation_namedWords :
    (NamesManifest namedWords.stamp "b.cmx".toList ∧
      ∃ v, Validation.ofStatement? (spacedCommand.text namedWords.words) = some v ∧
        v.record "out" = ⟨"src/a:b.cmx", "b", "out/obj/src/meta/m.cmx"⟩) ∧
    (¬ "_validate_manifests_".toList <:+: unnamedWords.stamp ∧
      ∃ v, Validation.ofStatement? (spacedCommand.text unnamedWords.words) = some v ∧
        v.record "out" = ⟨"src/a:l", "m", "src/meta/m.cmx"⟩) := by
  have hunnamed : ¬ "_validate_manifests_".toList <:+: unnamedWords.stamp := by decide +kernel
  obtain ⟨v, hv, -, -, -, hmanifest, hnamed, -⟩ :=
    exists_validation_of_stamped spacedCommand namedWords
  obtain ⟨w, hw, -, -, hsource, -, -, hlabel⟩ :=
    exists_validation_of_stamped spacedCommand unnamedWords
  refine ⟨⟨namesManifest_namedWords, v, hv, ?_⟩, ⟨hunnamed, w, hw, ?_⟩⟩
  · have hpath := hmanifest rfl (by decide) (by decide) "out" (by decide) (by decide)
    obtain ⟨htarget, stem, hstem, hcomponent⟩ := hnamed _ namesManifest_namedWords "out"
    obtain rfl : stem = "b".toList :=
      IsStem.eq_of_append (List.mem_cons_self (a := ".cmx".toList)) (by decide +kernel) hstem
    cases hrecord : v.record "out" with
    | mk target component manifest =>
      rw [hrecord] at htarget hcomponent hpath
      obtain rfl := htarget
      obtain rfl := hcomponent
      obtain rfl := hpath
      decide +kernel
  · have hpath := hsource rfl "out"
    obtain ⟨hcomponent, stem, hstem, htarget⟩ := hlabel hunnamed "out"
    obtain rfl : stem = "l".toList :=
      IsStem.eq_of_append (List.mem_cons_self (a := "_cmc_validate_references".toList))
        (by decide +kernel) hstem
    cases hrecord : w.record "out" with
    | mk target component manifest =>
      rw [hrecord] at htarget hcomponent hpath
      obtain rfl := htarget
      obtain rfl := hcomponent
      obtain rfl := hpath
      decide +kernel

end ComponentLinks.Statement
