import ComponentLinks.Proofs.BuildGraph.Findings
import ComponentLinks.Proofs.Text.Classes

/-!
# The look-up of a component target

A component target is looked up as it is, and with heuristics also under two paths that are made
from it: with its first `:test_` read as a colon, and then without a final `_component`. What is
found is the first of these paths that has a record, together with this record; so a record is
always returned with the path that it is stored under.

## Main definitions

* `Collapses`, `Shortens`: the two steps, each of which may leave the path as it is.
* `BuildGraph.lookUp_true`: the first of three paths that has a record.
* `BuildGraph.find?_fst_lookUp`: the record is the one of the path.
* `BuildGraph.lookUp_exact`: what a look-up returns.
* `BuildGraph.testComponent`: a graph with a record that is found after both steps.
-/
namespace ComponentLinks

/-! ## The two steps -/

/-- Whether a path becomes another one by reading its first `:test_` as a colon. A path without
`:test_` stays as it is. -/
inductive Collapses (path next : String) : Prop
  | first (before after : List Char) (path_eq : path.toList = before ++ ":test_".toList ++ after)
      (first : ¬ ":test_".toList <:+: before) (next_eq : next.toList = before ++ ':' :: after)
  | unchanged (absent : ¬ ":test_".toList <:+: path.toList) (next_eq : next = path)

/-- Whether a path becomes another one by removing a final `_component`. A path that does not end so
stays as it is. -/
inductive Shortens (path next : String) : Prop
  | ending (path_eq : path.toList = next.toList ++ "_component".toList)
  | unchanged (absent : ¬ "_component".toList <:+ path.toList) (next_eq : next = path)

variable {path next : String} {before : List Char}

/-- What stands before the first `:test_` is kept. -/
theorem collapseTest_append (h : ¬ ":test_".toList <:+: before) (after : List Char) :
    collapseTest (before ++ ":test_".toList ++ after) = before ++ ':' :: after := by
  induction before with
  | nil => simp [collapseTest]
  | cons c before ih =>
    rw [List.infix_cons_iff, not_or] at h
    obtain ⟨hhead, htail⟩ := h
    have hstart : ¬ ":test_".toList <+: c :: (before ++ ":test_".toList ++ after) := by
      -- It would have to end before the colon of the later `:test_`.
      intro hpre
      obtain ⟨hc, hpre⟩ :
          ':' = c ∧ "test_".toList <+: before ++ ':' :: ("test_".toList ++ after) := by
        simpa using hpre
      have hbefore := Text.prefix_of_prefix_append (by decide) hpre
      exact hhead (List.cons_prefix_cons.2 ⟨hc, hbefore⟩)
    rw [List.cons_append, List.cons_append, collapseTest, if_neg, ih htail, List.cons_append]
    rwa [List.isPrefixOf_iff_prefix]

/-- Every path becomes exactly one other by the first step. -/
theorem collapses_iff :
    Collapses path next ↔ next = String.ofList (collapseTest path.toList) := by
  constructor
  · rintro (⟨before, after, hpath, hfirst, hnext⟩ | ⟨habsent, rfl⟩)
    · rw [← String.toList_inj, String.toList_ofList, hpath, collapseTest_append hfirst, hnext]
    · rcases collapseTest_eq_or_exists next.toList with ⟨-, heq⟩ | ⟨before, after, hpath, -⟩
      · rw [heq, String.ofList_toList]
      · exact absurd ⟨before, after, hpath.symm⟩ habsent
  · rintro rfl
    rcases collapseTest_eq_or_exists path.toList with
      ⟨habsent, heq⟩ | ⟨before, after, hpath, hfirst, heq⟩
    · exact .unchanged habsent (by rw [heq, String.ofList_toList])
    · exact .first before after hpath hfirst (by rw [String.toList_ofList, heq])

theorem dropComponentEnding_append (cs : List Char) :
    dropComponentEnding (cs ++ "_component".toList) = cs := by
  have hending : componentEnding.isSuffixOf (cs ++ componentEnding) = true :=
    List.isSuffixOf_iff_suffix.2 (List.suffix_append _ _)
  change dropComponentEnding (cs ++ componentEnding) = cs
  rw [dropComponentEnding, withoutFinal?, if_pos hending, withoutEnding_append, Option.getD_some]

/-- Every path on one line becomes exactly one other by the second step. -/
theorem shortens_iff (hpath : '\n' ∉ path.toList) :
    Shortens path next ↔ next = String.ofList (dropComponentEnding path.toList) := by
  constructor
  · rintro (heq | ⟨habsent, rfl⟩)
    · rw [← String.toList_inj, String.toList_ofList, heq, dropComponentEnding_append]
    · rcases dropComponentEnding_eq_or hpath with heq | heq
      · rw [heq, String.ofList_toList]
      · exact absurd ⟨_, heq.symm⟩ habsent
  · rintro rfl
    by_cases hending : "_component".toList <:+ path.toList
    · obtain ⟨stem, hstem⟩ := hending
      refine .ending ?_
      rw [← hstem, dropComponentEnding_append, String.toList_ofList (l := stem)]
    · refine .unchanged hending ?_
      rcases dropComponentEnding_eq_or hpath with heq | heq
      · rw [heq, String.ofList_toList]
      · exact absurd ⟨_, heq.symm⟩ hending

/-! ## What is returned -/

namespace BuildGraph

variable {g : BuildGraph} {target : String}

/-- With heuristics the first of three paths that has a record is returned with it, and the last of
them without a record if none has one. -/
theorem lookUp_true (g : BuildGraph) (target : String) :
    let known := [target, String.ofList (collapseTest target.toList), rewritten target].find?
      g.manifestOf.contains
    g.lookUp true target = (known.getD (rewritten target), known.bind g.manifestOf.find?) := by
  cases htarget : g.manifestOf.find? target with
  | some r => simp [lookUp, OrderedMap.contains, htarget]
  | none =>
    cases hcollapsed : g.manifestOf.find? (String.ofList (collapseTest target.toList)) with
    | some r => simp [lookUp, OrderedMap.contains, htarget, hcollapsed]
    | none =>
      have hlookUp : g.lookUp true target =
          (rewritten target, g.manifestOf.find? (rewritten target)) := by
        simp [lookUp, rewritten, htarget, hcollapsed]
      rw [hlookUp]
      cases hrewritten : g.manifestOf.find? (rewritten target) <;>
        simp [OrderedMap.contains, htarget, hcollapsed, hrewritten]

/-- The record that is returned is the one stored under the path that is returned. -/
theorem find?_fst_lookUp (useHeuristics : Bool) :
    g.manifestOf.find? (g.lookUp useHeuristics target).1 = (g.lookUp useHeuristics target).2 := by
  cases useHeuristics with
  | false => rw [lookUp_false]
  | true =>
    cases hrecord : (g.lookUp true target).2 with
    | none =>
      obtain ⟨hlookUp, hnone⟩ := lookUp_of_none hrecord
      rw [hlookUp, hnone]
    | some r => exact find?_of_lookUp_eq_some (Prod.ext rfl hrecord)

/-- What is returned for a component target on one line. There is one path that it becomes by the
first step and one that this becomes by the second. With heuristics the first of the three that has
a record is returned with it, and the last one without a record if none has one; without heuristics
the target is returned with what is stored under it. In both cases a target with a record is
returned as it is, the record is the one of the path that is returned, and this path, if it has a
record, is looked up as itself. -/
theorem lookUp_exact (g : BuildGraph) {target : String} (htarget : '\n' ∉ target.toList) :
    ∃ collapsed shortened : String,
      (∀ next, Collapses target next ↔ next = collapsed) ∧
      (∀ next, Shortens collapsed next ↔ next = shortened) ∧
      (let known := [target, collapsed, shortened].find? g.manifestOf.contains
       g.lookUp true target = (known.getD shortened, known.bind g.manifestOf.find?)) ∧
      g.lookUp false target = (target, g.manifestOf.find? target) ∧
      ∀ useHeuristics : Bool,
        (∀ r, g.manifestOf.find? target = some r →
          g.lookUp useHeuristics target = (target, some r)) ∧
        g.manifestOf.find? (g.lookUp useHeuristics target).1 = (g.lookUp useHeuristics target).2 ∧
        ∀ key r, g.lookUp useHeuristics target = (key, some r) →
          ∀ again : Bool, g.lookUp again key = (key, some r) := by
  have hcollapsed : '\n' ∉ (String.ofList (collapseTest target.toList)).toList :=
    fun hmem => htarget ((reaches_collapseTest target).subset hmem)
  refine ⟨String.ofList (collapseTest target.toList), rewritten target, fun _ => collapses_iff,
    fun next => ?_, lookUp_true g target, lookUp_false target, fun useHeuristics => ⟨?_, ?_, ?_⟩⟩
  · rw [shortens_iff hcollapsed, String.toList_ofList, rewritten]
  · exact fun r hrecord => lookUp_of_find? hrecord
  · exact find?_fst_lookUp useHeuristics
  · intro key r hlookUp again
    exact lookUp_of_find? (find?_of_lookUp_eq_some hlookUp)

/-- A graph in which a component target has a record under the path made by both steps, and under
that made by the second step alone. -/
def testComponent : BuildGraph :=
  { empty with
    manifestOf := .ofList
      [("d:test_a", ⟨"d:test_a", "b", "m/b.cml"⟩), ("d:a", ⟨"d:a", "a", "m/a.cml"⟩)] }

/-- The record under the path made by both steps is found, and only with heuristics. -/
theorem lookUp_testComponent :
    '\n' ∉ "d:test_a_component".toList ∧ Collapses "d:test_a_component" "d:a_component" ∧
      Shortens "d:a_component" "d:a" ∧
      testComponent.lookUp true "d:test_a_component" =
        ("d:a", some ⟨"d:a", "a", "m/a.cml"⟩) ∧
      testComponent.lookUp true "d:a" = ("d:a", some ⟨"d:a", "a", "m/a.cml"⟩) ∧
      testComponent.lookUp false "d:test_a_component" = ("d:test_a_component", none) := by
  have hline : '\n' ∉ "d:test_a_component".toList := by decide
  have hcollapses : Collapses "d:test_a_component" "d:a_component" :=
    .first "d".toList "a_component".toList (by decide) (by decide) (by decide)
  have hshortens : Shortens "d:a_component" "d:a" := .ending (by decide)
  obtain ⟨collapsed, shortened, hcollapsed, hshortened, hwith, hwithout, hrest⟩ :=
    testComponent.lookUp_exact hline
  obtain rfl := (hcollapsed _).1 hcollapses
  obtain rfl := (hshortened _).1 hshortens
  have hknown : ["d:test_a_component", "d:a_component", "d:a"].find?
      testComponent.manifestOf.contains = some "d:a" := by decide +kernel
  have hrecord : testComponent.manifestOf.find? "d:a" = some ⟨"d:a", "a", "m/a.cml"⟩ := by
    decide +kernel
  have hnone : testComponent.manifestOf.find? "d:test_a_component" = none := by decide +kernel
  have hfound : testComponent.lookUp true "d:test_a_component" =
      ("d:a", some ⟨"d:a", "a", "m/a.cml"⟩) := by
    rw [hwith, hknown, Option.getD_some, Option.bind_some, hrecord]
  exact ⟨hline, hcollapses, hshortens, hfound, (hrest true).2.2 _ _ hfound true, by
    rw [hwithout, hnone]⟩

end BuildGraph

end ComponentLinks
