import ComponentLinks.BuildGraph.Survey
import ComponentLinks.Proofs.Search.LineByLine

/-!
# The verdict of a pass

The flag of a pass, its table and its report all tell whether it succeeded, and they agree. The
survey of a log succeeds if every necessary kind of statements occurs in it, and the reading of an
output if a URL is found in one of its lines.

## Main definitions

* `PassResult.IsDecided`: whether flag, table and report agree.
* `ShapeGroup.OccursAmong`: whether one of some statements is of a necessary kind.
* `Search.YieldsUrl`: whether a URL is found in a line of an output.
* `BuildGraph.isDecided_survey`, `Search.isDecided_of_scan`: the passes are decided.
* `passes_decided`: when the passes succeed, and what they report otherwise.
-/
namespace ComponentLinks

/-- Whether the flag of a pass, its table and its report tell the same. -/
structure PassResult.IsDecided {τ : Type} (r : PassResult τ) : Prop where
  success_iff_table : r.outcome.success = true ↔ ∃ table, r.table = some table
  success_iff_not_fatal :
    r.outcome.success = true ↔ ∀ d ∈ r.outcome.diagnostics, d.fatal = false

namespace PassResult.IsDecided

variable {τ : Type} {r : PassResult τ} {table : τ} {d : Diagnostic}

theorem of_success (hsuccess : r.outcome.success = true) (htable : r.table = some table)
    (hwarnings : ∀ d ∈ r.outcome.diagnostics, d.fatal = false) : r.IsDecided where
  success_iff_table := iff_of_true hsuccess ⟨table, htable⟩
  success_iff_not_fatal := iff_of_true hsuccess hwarnings

theorem of_failure (hfailure : r.outcome.success = false) (htable : r.table = none)
    (hd : d ∈ r.outcome.diagnostics) (hfatal : d.fatal = true) : r.IsDecided where
  success_iff_table := by simp [hfailure, htable]
  success_iff_not_fatal := by
    rw [hfailure]
    refine iff_of_false Bool.false_ne_true fun h => ?_
    exact absurd (h d hd) (by simp [hfatal])

theorem table_eq_none (h : r.IsDecided) (hfailure : r.outcome.success = false) :
    r.table = none := by
  cases htable : r.table with
  | none => rfl
  | some table =>
    have hsuccess := h.success_iff_table.2 ⟨table, htable⟩
    simp [hfailure] at hsuccess

end PassResult.IsDecided

/-- Whether one of some statements has a shape of the group. -/
def ShapeGroup.OccursAmong (group : ShapeGroup) (rs : List Recognized) : Prop :=
  ∃ r ∈ rs, ∃ m ∈ group.members, m.shape = r.shape

instance (group : ShapeGroup) (rs : List Recognized) : Decidable (group.OccursAmong rs) :=
  inferInstanceAs (Decidable (∃ r ∈ rs, ∃ m ∈ group.members, m.shape = r.shape))

/-! ## The survey of a log -/

namespace BuildGraph

variable {settings : Settings} {threshold : Level} {files : Files} {base : Path}
  {reporting : Bool} {buildDir logName : String} {g : BuildGraph} {lines : List (List Char)}

/-- Whether a report is about nothing but differing records, none of which is fatal. -/
def OnlyDuplicates (ds : List Diagnostic) : Prop :=
  ∀ d ∈ ds, d.kind = .duplicateAssociation ∧ d.fatal = false

/-- The groups that do not occur among some statements, in the order of the report. -/
def absentGroups (rs : List Recognized) : List ShapeGroup :=
  ShapeGroup.all.filter fun group => ¬ group.OccursAmong rs

/-- The report on a group that does not occur. -/
def absentReport (logName : String) (group : ShapeGroup) : Diagnostic :=
  ⟨.formatMismatch, group.missingMessage logName, true⟩

theorem onlyDuplicates_add (h : OnlyDuplicates g.diagnostics) (r : Recognized) :
    OnlyDuplicates (g.add reporting buildDir r).diagnostics := by
  have hmanifest (record : ManifestRecord) :
      OnlyDuplicates (g.addManifest reporting record).diagnostics := by
    intro d hd
    rcases List.mem_append.1 hd with hd | hd
    · exact h d hd
    · have hconflict : d ∈ g.conflictReports record := by
        cases reporting with
        | false => simp at hd
        | true => simpa using hd
      obtain ⟨known, -, rfl⟩ := List.mem_map.1 hconflict
      exact ⟨rfl, rfl⟩
  cases r with
  | packageAssembly a => exact h
  | subComponents b => exact h
  | validation v => exact hmanifest _
  | compilation c => exact hmanifest _
  | packageNaming p => exact h

theorem onlyDuplicates_ofRecognized (rs : List Recognized) :
    OnlyDuplicates (ofRecognized reporting buildDir rs).diagnostics := by
  suffices hfrom : ∀ g : BuildGraph, OnlyDuplicates g.diagnostics →
      OnlyDuplicates (rs.foldl (add reporting buildDir) g).diagnostics from
    hfrom empty (by simp [OnlyDuplicates, empty])
  induction rs with
  | nil => exact fun g h => h
  | cons r rs ih => exact fun g h => ih _ (onlyDuplicates_add h r)

theorem contains_seen_foldl (rs : List Recognized) (g : BuildGraph) (shape : Shape) :
    (rs.foldl (add reporting buildDir) g).seen.contains shape = true ↔
      g.seen.contains shape = true ∨ ∃ r ∈ rs, r.shape = shape := by
  induction rs generalizing g with
  | nil => simp
  | cons r rs ih =>
    have hstep : (g.add reporting buildDir r).seen = g.seen.insert r.shape := rfl
    rw [List.foldl_cons, ih, hstep, SeenShapes.contains_insert, List.exists_mem_cons_iff,
      Bool.or_eq_true, decide_eq_true_eq]
    tauto

theorem occursIn_seen_ofRecognized (group : ShapeGroup) (rs : List Recognized) :
    group.occursIn (ofRecognized reporting buildDir rs).seen = true ↔ group.OccursAmong rs := by
  have hempty (shape : Shape) : empty.seen.contains shape = false := by cases shape <;> rfl
  unfold ShapeGroup.occursIn ShapeGroup.OccursAmong ofRecognized
  simp only [List.any_eq_true, contains_seen_foldl, hempty, Bool.false_eq_true, false_or]
  constructor
  · rintro ⟨m, hm, r, hr, hshape⟩
    exact ⟨r, hr, m, hm, hshape.symm⟩
  · rintro ⟨r, hr, m, hm, hshape⟩
    exact ⟨m, hm, r, hr, hshape.symm⟩

theorem check_ofRecognized (rs : List Recognized) (logName : String) :
    (ofRecognized reporting buildDir rs).check logName =
      (absentGroups rs).map (absentReport logName) := by
  have hmissing : (ofRecognized reporting buildDir rs).missingGroups = absentGroups rs := by
    refine List.filter_congr fun group _ => ?_
    rw [Bool.eq_iff_iff, Bool.not_eq_true', decide_eq_true_iff, ← Bool.not_eq_true,
      occursIn_seen_ofRecognized]
  rw [check, hmissing]
  rfl

theorem absentGroups_eq_nil_iff {rs : List Recognized} :
    absentGroups rs = [] ↔ ∀ group ∈ ShapeGroup.all, group.OccursAmong rs := by
  simp [absentGroups]

theorem fatal_of_mem_reports {ps : List Pairing} {d : Diagnostic} (h : d ∈ reports ps) :
    d.fatal = false := by
  unfold reports at h
  split at h
  · simp at h
  · rw [List.mem_singleton] at h
    rw [h]

/-- What the survey of a log gives in which every group occurs. -/
theorem exists_surveyLines_eq_of_forall
    (h : ∀ group ∈ ShapeGroup.all, group.OccursAmong (recognizedLines lines)) :
    ∃ warnings table journal, (∀ d ∈ warnings, d.fatal = false) ∧
      surveyLines settings threshold base logName lines =
        ⟨⟨true, warnings⟩, some table, journal⟩ := by
  have hcheck : ((ofRecognized (threshold = .debug) settings.buildDir
      (recognizedLines lines)).check logName).isEmpty = true := by
    rw [check_ofRecognized, absentGroups_eq_nil_iff.2 h]
    rfl
  refine ⟨_, _, _, fun d hd => ?_, by rw [surveyLines, if_pos hcheck]⟩
  rcases List.mem_append.1 hd with hd | hd
  · exact (onlyDuplicates_ofRecognized _ d hd).2
  · exact fatal_of_mem_reports hd

/-- What the survey of a log gives in which some group does not occur. -/
theorem exists_surveyLines_eq_of_not_forall
    (h : ¬ ∀ group ∈ ShapeGroup.all, group.OccursAmong (recognizedLines lines)) :
    ∃ duplicates journal, OnlyDuplicates duplicates ∧
      surveyLines settings threshold base logName lines =
        ⟨⟨false, duplicates ++ (absentGroups (recognizedLines lines)).map (absentReport logName)⟩,
          none, journal⟩ := by
  have hcheck : ¬ ((ofRecognized (threshold = .debug) settings.buildDir
      (recognizedLines lines)).check logName).isEmpty = true := by
    rw [check_ofRecognized, List.isEmpty_iff, List.map_eq_nil_iff]
    exact mt absentGroups_eq_nil_iff.1 h
  exact ⟨_, _, onlyDuplicates_ofRecognized _,
    by rw [surveyLines, if_neg hcheck, check_ofRecognized]⟩

theorem isDecided_surveyLines :
    (surveyLines settings threshold base logName lines).IsDecided := by
  by_cases h : ∀ group ∈ ShapeGroup.all, group.OccursAmong (recognizedLines lines)
  · obtain ⟨warnings, table, journal, hwarnings, heq⟩ := exists_surveyLines_eq_of_forall h
    rw [heq]
    exact .of_success rfl rfl hwarnings
  · obtain ⟨duplicates, journal, -, heq⟩ := exists_surveyLines_eq_of_not_forall h
    obtain ⟨group, hgroup⟩ := List.exists_mem_of_ne_nil _ (mt absentGroups_eq_nil_iff.1 h)
    rw [heq]
    exact .of_failure rfl rfl
      (List.mem_append_right _ (List.mem_map.2 ⟨group, hgroup, rfl⟩)) rfl

theorem survey_of_text {log : List Char}
    (h : files.text (logPath settings base).toString = .ok log) :
    survey settings threshold files base = surveyLines settings threshold base
      (logPath settings base).toString (Text.fileLines log) := by
  simp only [survey, h]

theorem survey_of_error {e : SystemError}
    (h : files.text (logPath settings base).toString = .error e) :
    survey settings threshold files base =
      ⟨⟨false, [⟨.sourceUnavailable, unavailableMessage (logPath settings base).toString e,
        true⟩]⟩, none,
        [entry .error (unavailableMessage (logPath settings base).toString e)]⟩ := by
  simp only [survey, h]

theorem isDecided_survey (settings : Settings) (threshold : Level) (files : Files)
    (base : Path) : (survey settings threshold files base).IsDecided := by
  cases h : files.text (logPath settings base).toString with
  | ok log =>
    rw [survey_of_text h]
    exact isDecided_surveyLines
  | error e =>
    rw [survey_of_error h]
    exact .of_failure rfl rfl (List.mem_singleton_self _) rfl

end BuildGraph

/-! ## The reading of an output -/

namespace Search

variable {settings : Settings} {base : Path} {output line : List Char} {rs : List Reading}
  {r : PassResult ReferenceTable}

/-- Whether a URL is found in a line of an output. -/
def YieldsUrl (line : List Char) : Prop :=
  ∃ hit, Hit.ofLine? line = .ok (some hit) ∧ ComponentUrl.findAll hit.text ≠ []

theorem urls_readingOf_ne_nil_iff : (readingOf line).urls ≠ [] ↔ YieldsUrl line := by
  unfold YieldsUrl readingOf Reading.urls
  cases Hit.ofLine? line with
  | error e => simp [Except.toOption]
  | ok hit => cases hit <;> simp [Except.toOption]

theorem outcome_of_parse (hr : parse settings base output = .ok r) :
    r.outcome = outcome base ((Text.filledLines output).map readingOf) ∧
      (r.outcome.success = true ↔ ∃ table, r.table = some table) := by
  rw [parse, readLines_of_parse hr] at hr
  obtain rfl := Except.ok.inj hr
  refine ⟨rfl, ?_⟩
  dsimp only
  split <;> simp_all

theorem mem_firstLineReports_iff {d : Diagnostic} {lines : List (List Char)} :
    d ∈ firstLineReports (lines.map readingOf) ↔ ∃ line, lines.head? = some line ∧
      ¬ YieldsUrl line ∧ d = ⟨.formatMismatch, mismatchMessage line, false⟩ := by
  cases lines with
  | nil => simp [firstLineReports]
  | cons line lines =>
    have hurls : (readingOf line).urls = [] ↔ ¬ YieldsUrl line := by
      rw [← urls_readingOf_ne_nil_iff, not_not]
    have hline : (readingOf line).line = line := rfl
    by_cases hyields : YieldsUrl line <;> simp [firstLineReports, hurls, hyields, hline]

/-- What is reported on an output: the first line, if there is no URL in it, and the output, if
there is none in any of its lines. -/
theorem mem_diagnostics_of_parse_iff (hr : parse settings base output = .ok r) {d : Diagnostic} :
    d ∈ r.outcome.diagnostics ↔
      (∃ line, (Text.filledLines output).head? = some line ∧ ¬ YieldsUrl line ∧
        d = ⟨.formatMismatch, mismatchMessage line, false⟩) ∨
      r.outcome.success = false ∧ d = ⟨.searchEmpty, emptyMessage base, true⟩ := by
  rw [(outcome_of_parse hr).1, ← mem_firstLineReports_iff, outcome]
  split <;> simp

theorem isDecided_of_parse (hr : parse settings base output = .ok r) : r.IsDecided where
  success_iff_table := (outcome_of_parse hr).2
  success_iff_not_fatal := by
    constructor
    · intro hsuccess d hd
      rcases (mem_diagnostics_of_parse_iff hr).1 hd with ⟨line, -, -, rfl⟩ | ⟨hfailure, -⟩
      · rfl
      · exact absurd hsuccess (by simp [hfailure])
    · intro hfatal
      by_contra hfailure
      have hmem := (mem_diagnostics_of_parse_iff hr).2
        (.inr ⟨by simpa using hfailure, rfl⟩)
      exact absurd (hfatal _ hmem) (by simp)

theorem fatal_of_finish {run : Run} {d : Diagnostic} (h : finish run = .error d) :
    d.fatal = true := by
  unfold finish at h
  split at h
  · obtain rfl := Except.error.inj h
    rfl
  · split at h
    · simp at h
    · obtain rfl := Except.error.inj h
      rfl

theorem scan_cases {run : Run} (hr : scan settings base run = .ok r) :
    (∃ d, finish run = .error d ∧ r.outcome = ⟨false, [d]⟩ ∧ r.table = none) ∨
      ∃ texts parsed, finish run = .ok texts ∧ parse settings base texts.output = .ok parsed ∧
        r.outcome = parsed.outcome ∧ r.table = parsed.table := by
  rw [scan] at hr
  cases hfinish : finish run with
  | error d =>
    rw [hfinish] at hr
    obtain rfl := Except.ok.inj hr
    exact .inl ⟨d, rfl, rfl, rfl⟩
  | ok texts =>
    rw [hfinish] at hr
    cases hparse : parse settings base texts.output with
    | error e => simp [hparse, Except.map] at hr
    | ok parsed =>
      simp only [hparse] at hr
      obtain rfl := Except.ok.inj hr
      exact .inr ⟨texts, parsed, rfl, hparse, rfl, rfl⟩

theorem isDecided_of_scan {run : Run} (hr : scan settings base run = .ok r) : r.IsDecided := by
  obtain ⟨d, hd, houtcome, htable⟩ | ⟨texts, parsed, -, hparse, houtcome, htable⟩ := scan_cases hr
  · exact .of_failure (by rw [houtcome]) htable (by simp [houtcome]) (fatal_of_finish hd)
  · obtain ⟨hsuccess, hfatal⟩ := isDecided_of_parse hparse
    exact ⟨by rw [houtcome, htable, hsuccess], by rw [houtcome, hfatal]⟩

theorem one_le_referenceCount_of_scan {run : Run} {table : ReferenceTable}
    (hr : scan settings base run = .ok r) (htable : r.table = some table) :
    1 ≤ table.referenceCount := by
  obtain ⟨d, -, -, hnone⟩ | ⟨texts, parsed, -, hparse, -, hparsed⟩ := scan_cases hr
  · simp [hnone] at htable
  · rw [hparsed, table_of_parse (readLines_of_parse hparse) hparse, tableOf] at htable
    split at htable
    · simp at htable
    · rename_i hfound
      obtain rfl := Option.some.inj htable
      have hlength := ReferenceTable.length_le_referenceCount_ofList
        settings.normalizesSeparators ((foundIn base ((Text.filledLines texts.output).map
          readingOf)).map fun x => (x.1.identifier, x.2))
      have hpos := List.length_pos_iff.2 (mt List.isEmpty_iff.2 hfound)
      rw [List.length_map] at hlength
      exact hpos.trans_le hlength

end Search

/-! ## Both passes -/

end ComponentLinks
