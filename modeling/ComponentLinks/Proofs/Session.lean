import ComponentLinks.Proofs.Last
import ComponentLinks.Proofs.Verdict
import ComponentLinks.Workspace

/-!
# Sessions

A session is a workspace that is asked for one thing after the other. Each time its index is
published or taken back counts by itself: what the session answers afterwards is what a blank
workspace answers after this one step. Questions change nothing, and a refresh that stops with a
fault changes nothing either.

A refresh reads the repository and the settings of the workspace only, and publishes everything at
once. Refreshes that overlap are listed in the order in which they publish.

## Main definitions

* `Workspace.Query`, `Workspace.answer`: what a workspace can be asked, and its answers.
* `Workspace.Request`, `Workspace.perform`: one step of a session, with the reply to it.
* `Workspace.after`, `Workspace.history`: where a session leads, and its steps with the replies.
* `Workspace.IsPublished`: what a workspace holds after a refresh.
* `Workspace.decided_by_last_completed`: the last step that completed decides what is answered.
-/
namespace ComponentLinks

namespace Workspace

/-! ## One step -/

/-- What a workspace can be asked. -/
inductive Query where
  | resolve (id : String)
  | referencesTo (manifest : Path)
  | identifierOf (manifest : Path)
  | urlAt (text : List Char) (offset : Int)
  | stats
  | diagnostics

/-- The answers of a workspace. -/
inductive Answer where
  | manifest (manifest : Option Path)
  | references (references : Option (List Reference))
  | identifier (id : Option String)
  | url (url : Option ComponentUrl)
  | stats (stats : Stats)
  | diagnostics (diagnostics : List Diagnostic)

/-- The answer of a workspace. -/
def answer (w : Workspace) : Query → Answer
  | .resolve id => .manifest (w.index.resolve id)
  | .referencesTo manifest => .references (w.index.referencesTo manifest)
  | .identifierOf manifest => .identifier (w.index.identifierOf? manifest)
  | .urlAt text offset => .url (ComponentUrl.at? text offset)
  | .stats => .stats w.index.stats
  | .diagnostics => .diagnostics w.diagnostics

/-- One step of a session. -/
inductive Request where
  | refresh (threshold : Level) (files : Files) (run : Search.Run)
  | clear
  | ask (query : Query)

/-- The reply to a step. -/
inductive Reply where
  | refreshed (success : Bool)
  | failed (fault : Text.NumeralFault)
  | cleared
  | answered (answer : Answer)

/-- Whether a step has published an index or has taken it back. -/
def Reply.IsCompleted : Reply → Prop
  | .refreshed _ | .cleared => True
  | .failed _ | .answered _ => False

/-- A workspace after a step, and the reply. A fault leaves what was published before. -/
def perform (w : Workspace) : Request → Workspace × Reply
  | .refresh threshold files run =>
    match w.refresh threshold files run with
    | .ok r => (r.workspace, .refreshed r.success)
    | .error e => (w, .failed e)
  | .clear => (w.clear, .cleared)
  | .ask query => (w, .answered (w.answer query))

/-- A workspace after several steps. -/
def after (w : Workspace) (qs : List Request) : Workspace := qs.foldl (fun w q => (w.perform q).1) w

/-- The steps of a session with the replies to them. -/
def history (w : Workspace) : List Request → List (Request × Reply)
  | [] => []
  | q :: qs => (q, (w.perform q).2) :: (w.perform q).1.history qs

variable {w w' : Workspace} {q : Request} {qs : List Request} {threshold : Level} {files : Files}
  {run : Search.Run} {success : Bool}

/-- What is published after the passes, the search having given `references`. -/
theorem exists_refresh_eq_ok {references : PassResult ReferenceTable}
    (h : Search.scan w.settings w.base run = .ok references) (threshold : Level) (files : Files) :
    ∃ journal, w.refresh threshold files run = .ok
      { workspace :=
          { w with
            index := .ofTables w.base w.settings.normalizesSeparators
              (BuildGraph.survey w.settings threshold files w.base).table references.table
            diagnostics :=
              (BuildGraph.survey w.settings threshold files w.base).outcome.diagnostics ++
                references.outcome.diagnostics }
        success := (BuildGraph.survey w.settings threshold files w.base).outcome.success &&
          references.outcome.success
        journal := journal } := by
  rw [refresh, h]
  exact ⟨_, rfl⟩

theorem refresh_eq_error {e : Text.NumeralFault}
    (h : Search.scan w.settings w.base run = .error e) (threshold : Level) (files : Files) :
    w.refresh threshold files run = .error e := by
  rw [refresh, h]
  rfl

/-- A step keeps the repository and the settings. -/
theorem base_settings_perform (w : Workspace) (q : Request) :
    (w.perform q).1.base = w.base ∧ (w.perform q).1.settings = w.settings := by
  cases q with
  | refresh threshold files run =>
    unfold perform
    cases hscan : Search.scan w.settings w.base run with
    | ok references =>
      obtain ⟨journal, hrefresh⟩ := exists_refresh_eq_ok hscan threshold files
      simp only [hrefresh, and_self]
    | error e => simp only [refresh_eq_error hscan, and_self]
  | clear => exact ⟨rfl, rfl⟩
  | ask query => exact ⟨rfl, rfl⟩

/-- A step that does not complete leaves a workspace as it is. -/
theorem fst_perform_of_not_isCompleted (h : ¬ (w.perform q).2.IsCompleted) :
    (w.perform q).1 = w := by
  cases q with
  | refresh threshold files run =>
    cases hrefresh : w.refresh threshold files run with
    | ok r => simp [perform, hrefresh, Reply.IsCompleted] at h
    | error e => simp only [perform, hrefresh]
  | clear => exact absurd trivial h
  | ask query => rfl

/-- What a step that completes leads to does not depend on what was published before. -/
theorem perform_eq_of_isCompleted (hbase : w'.base = w.base) (hsettings : w'.settings = w.settings)
    (h : (w.perform q).2.IsCompleted) : w'.perform q = w.perform q := by
  cases q with
  | refresh threshold files run =>
    unfold perform at h ⊢
    cases hscan : Search.scan w.settings w.base run with
    | ok references =>
      have hrefresh : w'.refresh threshold files run = w.refresh threshold files run := by
        rw [refresh, refresh, hbase, hsettings]
      obtain ⟨journal, heq⟩ := exists_refresh_eq_ok hscan threshold files
      simp only [hrefresh, heq]
    | error e => simp [refresh_eq_error hscan, Reply.IsCompleted] at h
  | clear => simp only [perform, clear, hbase, hsettings]
  | ask query => exact absurd h (by simp [perform, Reply.IsCompleted])

/-! ## Sessions -/

theorem after_append_singleton (w : Workspace) (qs : List Request) (q : Request) :
    w.after (qs ++ [q]) = ((w.after qs).perform q).1 := by
  rw [after, List.foldl_append]
  rfl

theorem history_append_singleton (w : Workspace) (qs : List Request) (q : Request) :
    w.history (qs ++ [q]) = w.history qs ++ [(q, ((w.after qs).perform q).2)] := by
  induction qs generalizing w with
  | nil => rfl
  | cons q' qs ih =>
    rw [List.cons_append, history, ih]
    rfl

theorem base_settings_after (w : Workspace) (qs : List Request) :
    (w.after qs).base = w.base ∧ (w.after qs).settings = w.settings := by
  induction qs using List.reverseRecOn with
  | nil => exact ⟨rfl, rfl⟩
  | append_singleton qs q ih =>
    obtain ⟨hbase, hsettings⟩ := base_settings_perform (w.after qs) q
    rw [after_append_singleton]
    exact ⟨hbase.trans ih.1, hsettings.trans ih.2⟩

theorem after_of_forall_not_isCompleted (h : ∀ e ∈ w.history qs, ¬ e.2.IsCompleted) :
    w.after qs = w := by
  induction qs using List.reverseRecOn with
  | nil => rfl
  | append_singleton qs q ih =>
    rw [history_append_singleton] at h
    have hlast := h (q, ((w.after qs).perform q).2) (by simp)
    rw [after_append_singleton, fst_perform_of_not_isCompleted hlast]
    exact ih fun e he => h e (by simp [he])

/-- A session leads where its last step that completed leads by itself. -/
theorem perform_of_isLast {reply : Reply}
    (h : IsLast (fun e => e.2.IsCompleted) (w.history qs) (q, reply)) :
    w.perform q = (w.after qs, reply) := by
  induction qs using List.reverseRecOn with
  | nil => exact absurd h not_isLast_nil
  | append_singleton qs q' ih =>
    rw [history_append_singleton] at h
    rw [after_append_singleton]
    rcases isLast_append_singleton.1 h with ⟨hcompleted, heq⟩ | ⟨hcompleted, h⟩
    · obtain ⟨rfl, rfl⟩ := Prod.mk.inj heq
      obtain ⟨hbase, hsettings⟩ := base_settings_after w qs
      exact perform_eq_of_isCompleted hbase.symm hsettings.symm hcompleted
    · rw [fst_perform_of_not_isCompleted hcompleted]
      exact ih h

/-! ## What is published -/

/-- What a workspace holds after a refresh whose passes gave `links` and `references`. -/
structure IsPublished (w : Workspace) (links : PassResult ManifestTable)
    (references : PassResult ReferenceTable) (success : Bool) : Prop where
  success_eq : success = (links.outcome.success && references.outcome.success)
  diagnostics_eq : w.diagnostics = links.outcome.diagnostics ++ references.outcome.diagnostics
  success_iff_not_fatal : success = true ↔ ∀ d ∈ w.diagnostics, d.fatal = false
  resolve_eq : ∀ table, links.table = some table → ∀ id,
    w.index.resolve id =
      LinkIndex.eitherSpelling w.settings.normalizesSeparators table.manifest? id
  resolve_eq_none : links.outcome.success = false → ∀ id, w.index.resolve id = none
  referencesTo_eq_none : links.outcome.success = false ∨ references.outcome.success = false →
    ∀ manifest, w.index.referencesTo manifest = none
  references_eq : references.outcome.success = true → references.table = some w.index.references
  one_le_references : references.outcome.success = true → 1 ≤ w.index.stats.references
  one_le_references_of_success : success = true → 1 ≤ w.index.stats.references

end Workspace

namespace LinkIndex

variable {base : Path} {normalizes : Bool} {manifests : Option ManifestTable}
  {references : Option ReferenceTable}

theorem resolve_ofTables_none (id : String) :
    (ofTables base normalizes none references).resolve id = none := by
  cases normalizes <;> rfl

theorem referencesTo_ofTables_none (h : manifests = none ∨ references = none) (manifest : Path) :
    (ofTables base normalizes manifests references).referencesTo manifest = none := by
  rcases h with rfl | rfl
  · rfl
  · rw [referencesTo, Option.bind_eq_none_iff]
    intro id _
    exact eitherSpelling_none normalizes id

end LinkIndex

namespace Workspace

variable {w : Workspace} {threshold : Level} {files : Files} {run : Search.Run}

theorem isPublished_of_refresh {r : Refreshed} (h : w.refresh threshold files run = .ok r) :
    ∃ references, Search.scan w.settings w.base run = .ok references ∧
      r.workspace.IsPublished (BuildGraph.survey w.settings threshold files w.base) references
        r.success := by
  cases hscan : Search.scan w.settings w.base run with
  | error e => simp [refresh_eq_error hscan] at h
  | ok references =>
    obtain ⟨journal, heq⟩ := exists_refresh_eq_ok hscan threshold files
    obtain rfl := Except.ok.inj (heq.symm.trans h)
    have hlinks := BuildGraph.isDecided_survey w.settings threshold files w.base
    have hreferences := Search.isDecided_of_scan hscan
    -- Of the survey only its verdict counts from here on.
    generalize BuildGraph.survey w.settings threshold files w.base = links at hlinks ⊢
    have hcounted : references.outcome.success = true →
        ∃ table, references.table = some table ∧ 1 ≤ table.referenceCount := by
      intro hsuccess
      obtain ⟨table, htable⟩ := hreferences.success_iff_table.1 hsuccess
      exact ⟨table, htable, Search.one_le_referenceCount_of_scan hscan htable⟩
    refine ⟨references, rfl, ?_⟩
    constructor
    case success_eq => rfl
    case diagnostics_eq => rfl
    case success_iff_not_fatal =>
      rw [Bool.and_eq_true, hlinks.success_iff_not_fatal, hreferences.success_iff_not_fatal]
      simp only [List.mem_append, or_imp, forall_and]
    case resolve_eq =>
      intro table htable id
      simp only [LinkIndex.resolve, LinkIndex.ofTables, htable, Option.getD_some]
    case resolve_eq_none =>
      intro hfailure id
      rw [hlinks.table_eq_none hfailure]
      exact LinkIndex.resolve_ofTables_none id
    case referencesTo_eq_none =>
      intro hfailure manifest
      exact LinkIndex.referencesTo_ofTables_none
        (hfailure.imp hlinks.table_eq_none hreferences.table_eq_none) manifest
    case references_eq =>
      intro hsuccess
      obtain ⟨table, htable, -⟩ := hcounted hsuccess
      simp only [LinkIndex.ofTables, htable, Option.getD_some]
    case one_le_references =>
      intro hsuccess
      obtain ⟨table, htable, hcount⟩ := hcounted hsuccess
      simpa only [LinkIndex.stats, LinkIndex.ofTables, htable, Option.getD_some] using hcount
    case one_le_references_of_success =>
      intro hsuccess
      obtain ⟨table, htable, hcount⟩ := hcounted (Bool.and_eq_true_iff.1 hsuccess).2
      simpa only [LinkIndex.stats, LinkIndex.ofTables, htable, Option.getD_some] using hcount

/-- A request that completes is to publish an index or to take it back. -/
theorem perform_of_isCompleted {q : Request} (h : (w.perform q).2.IsCompleted) :
    (q = .clear ∧ w.perform q = (w.clear, .cleared)) ∨
      ∃ threshold files run r, q = .refresh threshold files run ∧
        w.refresh threshold files run = .ok r ∧
          w.perform q = (r.workspace, .refreshed r.success) := by
  cases q with
  | refresh threshold files run =>
    cases hrefresh : w.refresh threshold files run with
    | ok r => exact .inr ⟨threshold, files, run, r, rfl, hrefresh, by simp only [perform, hrefresh]⟩
    | error e => simp [perform, hrefresh, Reply.IsCompleted] at h
  | clear => exact .inl ⟨rfl, rfl⟩
  | ask query => exact absurd h (by simp [perform, Reply.IsCompleted])

/-- The last step of a session that completed decides what the session answers, whatever was done
before it: after a refresh the workspace holds what the two passes of this refresh gave; after the
index was taken back, and where no step has completed, it answers like a blank one. A refresh that
stops with a fault and a question leave the workspace as it is, and no step changes the repository
or the settings. -/
theorem decided_by_last_completed (base : Path) (settings : Settings) (qs : List Request) :
    (((blank base settings).after qs).base = base ∧
      ((blank base settings).after qs).settings = settings) ∧
    (∀ e, IsLast (fun e => e.2.IsCompleted) ((blank base settings).history qs) e →
      (e = (.clear, .cleared) ∧
        (∀ query, ((blank base settings).after qs).answer query =
          (blank base settings).answer query) ∧
        ((blank base settings).after qs).diagnostics = []) ∨
      ∃ threshold files run success references,
        e = (.refresh threshold files run, .refreshed success) ∧
        Search.scan settings base run = .ok references ∧
        ((blank base settings).after qs).IsPublished
          (BuildGraph.survey settings threshold files base) references success) ∧
    ((∀ e ∈ (blank base settings).history qs, ¬ e.2.IsCompleted) →
      (∀ query, ((blank base settings).after qs).answer query =
        (blank base settings).answer query) ∧
      ((blank base settings).after qs).diagnostics = []) ∧
    ∀ q, ¬ (((blank base settings).after qs).perform q).2.IsCompleted →
      (((blank base settings).after qs).perform q).1.index =
          ((blank base settings).after qs).index ∧
        (((blank base settings).after qs).perform q).1.diagnostics =
          ((blank base settings).after qs).diagnostics := by
  refine ⟨base_settings_after _ qs, ?_, ?_, ?_⟩
  · rintro ⟨q, reply⟩ h
    have hperform := perform_of_isLast h
    have hcompleted : ((blank base settings).perform q).2.IsCompleted := by
      rw [hperform]
      exact h.holds
    rcases perform_of_isCompleted hcompleted with
      ⟨rfl, heq⟩ | ⟨threshold, files, run, r, rfl, hrefresh, heq⟩
    · obtain ⟨hafter, hreply⟩ := Prod.mk.inj (hperform.symm.trans heq)
      rw [hafter, hreply]
      exact .inl ⟨rfl, fun query => rfl, rfl⟩
    · obtain ⟨hafter, hreply⟩ := Prod.mk.inj (hperform.symm.trans heq)
      obtain ⟨references, hscan, hpublished⟩ := isPublished_of_refresh hrefresh
      rw [hafter, hreply]
      exact .inr ⟨threshold, files, run, r.success, references, rfl, hscan, hpublished⟩
  · intro h
    rw [after_of_forall_not_isCompleted h]
    exact ⟨fun query => rfl, rfl⟩
  · intro q h
    rw [fst_perform_of_not_isCompleted h]
    exact ⟨rfl, rfl⟩

end Workspace

end ComponentLinks
