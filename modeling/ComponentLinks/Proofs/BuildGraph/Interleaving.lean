import ComponentLinks.BuildGraph.Resolve
import Mathlib.Data.List.Basic

/-!
# The order of a log

Statements contribute facts of four kinds, each to a part of the graph of its own. Only the order
of the statements of one kind matters: however the kinds are mixed with each other and with
statements of no shape, the graph is the same, and so are its table and its reports.

## Main definitions

* `FactKind`: the kinds of facts.
* `statementsOf`: the statements of one kind.
* `BuildGraph.part`: the part of a graph that one kind of facts makes up.
* `BuildGraph.part_ofRecognized`: each part is the graph of the statements of its kind.
* `BuildGraph.ofLines_eq_of_statementsOf_eq`: the order of a log matters within the kinds only.
-/
namespace ComponentLinks

/-- The kinds of facts that statements contribute to a graph: what a package and what a component is
built from, what is known of component targets, and the names of packages. -/
inductive FactKind where
  | packages
  | parts
  | records
  | names
  deriving Repr, DecidableEq

/-- The kind of facts that statements of a shape contribute. -/
def Shape.factKind : Shape → FactKind
  | packageAssembly => .packages
  | subComponents => .parts
  | validation => .records
  | compilation => .records
  | packageNaming => .names

/-- The kind of facts that a recognized statement contributes. -/
def Recognized.factKind (r : Recognized) : FactKind := r.shape.factKind

/-- The statements that contribute facts of one kind, in order. -/
def statementsOf (kind : FactKind) (statements : List (List Char)) : List (List Char) :=
  statements.filter fun s => (Recognized.ofStatement? s).any fun r => r.factKind = kind

theorem filter_filterMap_ofStatement? (kind : FactKind) (statements : List (List Char)) :
    (statements.filterMap Recognized.ofStatement?).filter (fun r => decide (r.factKind = kind)) =
      (statementsOf kind statements).filterMap Recognized.ofStatement? := by
  induction statements with
  | nil => rfl
  | cons s statements ih =>
    cases hs : Recognized.ofStatement? s with
    | none => simpa [statementsOf, hs] using ih
    | some r =>
      by_cases hr : r.factKind = kind
      · simpa [statementsOf, hs, hr] using ih
      · simpa [statementsOf, hs, hr] using ih

namespace BuildGraph

variable {reporting : Bool} {buildDir : String}

/-- The part of a graph that one kind of facts makes up. -/
def part (g : BuildGraph) : FactKind → BuildGraph
  | .packages =>
    { empty with
      packagesOf := g.packagesOf
      seen := { packageAssembly := g.seen.packageAssembly } }
  | .parts =>
    { empty with
      partsOf := g.partsOf
      seen := { subComponents := g.seen.subComponents } }
  | .records =>
    { empty with
      manifestOf := g.manifestOf
      seen := { validation := g.seen.validation, compilation := g.seen.compilation }
      diagnostics := g.diagnostics }
  | .names =>
    { empty with
      nameOf := g.nameOf
      seen := { packageNaming := g.seen.packageNaming } }

@[simp] theorem part_empty (kind : FactKind) : empty.part kind = empty := by
  cases kind <;> rfl

theorem ext_part {g g' : BuildGraph} (h : ∀ kind, g.part kind = g'.part kind) : g = g' := by
  have hpackages := h .packages
  have hparts := h .parts
  have hrecords := h .records
  have hnames := h .names
  obtain ⟨_, _, _, _, ⟨_, _, _, _, _⟩, _⟩ := g
  obtain ⟨_, _, _, _, ⟨_, _, _, _, _⟩, _⟩ := g'
  simp only [part, BuildGraph.mk.injEq, SeenShapes.mk.injEq] at hpackages hparts hrecords hnames ⊢
  simp only [hpackages, hparts, hrecords, hnames, and_self]

theorem part_add_of_ne {r : Recognized} {kind : FactKind} (h : r.factKind ≠ kind)
    (g : BuildGraph) : (g.add reporting buildDir r).part kind = g.part kind := by
  cases r <;> cases kind <;> first | rfl | exact absurd rfl h

/-- A statement adds to the part of its own kind without looking at the others. -/
theorem part_add_of_eq {r : Recognized} {kind : FactKind} (h : r.factKind = kind)
    (g : BuildGraph) :
    (g.add reporting buildDir r).part kind = (g.part kind).add reporting buildDir r := by
  subst h
  cases r <;> rfl

theorem part_ofRecognized (kind : FactKind) (rs : List Recognized) :
    (ofRecognized reporting buildDir rs).part kind =
      ofRecognized reporting buildDir (rs.filter fun r => decide (r.factKind = kind)) := by
  suffices h : ∀ g : BuildGraph, (rs.foldl (add reporting buildDir) g).part kind =
      (rs.filter fun r => decide (r.factKind = kind)).foldl (add reporting buildDir)
        (g.part kind) by
    simpa [ofRecognized] using h empty
  induction rs with
  | nil => exact fun _ => rfl
  | cons r rs ih =>
    intro g
    by_cases hr : r.factKind = kind
    · rw [List.filter_cons_of_pos (by simpa using hr), List.foldl_cons, List.foldl_cons, ih,
        part_add_of_eq hr]
    · rw [List.filter_cons_of_neg (by simpa using hr), List.foldl_cons, ih, part_add_of_ne hr]

/-- The graph of a log is decided by the statements of each kind. -/
theorem ofRecognized_congr {rs rs' : List Recognized}
    (h : ∀ kind, rs.filter (fun r => decide (r.factKind = kind)) =
      rs'.filter fun r => decide (r.factKind = kind)) :
    ofRecognized reporting buildDir rs = ofRecognized reporting buildDir rs' := by
  refine ext_part fun kind => ?_
  rw [part_ofRecognized, part_ofRecognized, h kind]

/-- Statements of which no two are of one kind may come in any order. -/
theorem ofRecognized_perm {rs rs' : List Recognized} (h : rs.Perm rs')
    (hdistinct : (rs'.map Recognized.factKind).Nodup) :
    ofRecognized reporting buildDir rs = ofRecognized reporting buildDir rs' := by
  refine ofRecognized_congr fun kind => ?_
  have hperm := h.filter fun r => decide (r.factKind = kind)
  have hkinds : ((rs'.filter fun r => decide (r.factKind = kind)).map Recognized.factKind).Nodup :=
    hdistinct.sublist (List.filter_sublist.map Recognized.factKind)
  have hsame : ∀ r ∈ rs'.filter (fun r => decide (r.factKind = kind)), r.factKind = kind :=
    fun r hr => by simpa using (List.mem_filter.1 hr).2
  -- There is at most one statement of the kind.
  cases hrs' : rs'.filter fun r => decide (r.factKind = kind) with
  | nil =>
    rw [hrs'] at hperm
    exact List.perm_nil.1 hperm
  | cons r rest =>
    cases rest with
    | nil =>
      rw [hrs'] at hperm
      exact List.perm_singleton.1 hperm
    | cons r' rest =>
      rw [hrs'] at hkinds hsame
      have hr := hsame r (by simp)
      have hr' := hsame r' (by simp)
      simp [hr, hr'] at hkinds

/-- Two logs with the same statements of each kind, in the same order within the kind, have the
same graph at either level of reporting, and so the same table and the same reports, however the
kinds are mixed with each other and with statements of no shape. -/
theorem ofLines_eq_of_statementsOf_eq {lines lines' : List (List Char)}
    (h : ∀ kind, statementsOf kind (Statement.ofLines lines) =
      statementsOf kind (Statement.ofLines lines')) (reporting : Bool) (buildDir : String) :
    ofLines reporting buildDir lines = ofLines reporting buildDir lines' ∧
      ∀ settings base,
        (ofLines reporting buildDir lines).manifestTable settings base =
          (ofLines reporting buildDir lines').manifestTable settings base ∧
        reports ((ofLines reporting buildDir lines).pairings settings.usesHeuristics base) =
          reports ((ofLines reporting buildDir lines').pairings settings.usesHeuristics base) := by
  have hgraph : ofLines reporting buildDir lines = ofLines reporting buildDir lines' := by
    refine ofRecognized_congr fun kind => ?_
    rw [recognizedLines, recognizedLines, filter_filterMap_ofStatement?,
      filter_filterMap_ofStatement?, h kind]
  refine ⟨hgraph, fun settings base => ?_⟩
  rw [hgraph]
  exact ⟨rfl, rfl⟩

/-- A log with two packages, the first of which has a name and a component with a record. -/
def packagesFirst : List (List Char) :=
  ["build obj/d/p/meta.far: r i | obj/d/a.stamp".toList,
   "build obj/d/q/meta.far: r i | obj/d/a.stamp".toList,
   "command = /cmc compile ../../m/c.cml --output obj/d/m/c.cm --depfile obj/d/a.d".toList,
   "command = /pm -o obj/d/p -n n".toList]

/-- The same statements with the packages last, and another one before them. -/
def packagesLast : List (List Char) :=
  ["command = /pm -o obj/d/p -n n".toList,
   "rule r".toList,
   "command = /cmc compile ../../m/c.cml --output obj/d/m/c.cm --depfile obj/d/a.d".toList,
   "build obj/d/p/meta.far: r i | obj/d/a.stamp".toList,
   "build obj/d/q/meta.far: r i | obj/d/a.stamp".toList]

theorem ofLines_packagesFirst_eq :
    (∀ kind, statementsOf kind (Statement.ofLines packagesFirst) =
      statementsOf kind (Statement.ofLines packagesLast)) ∧
    ofLines true "out/default" packagesFirst = ofLines true "out/default" packagesLast := by
  have hkinds : ∀ kind, statementsOf kind (Statement.ofLines packagesFirst) =
      statementsOf kind (Statement.ofLines packagesLast) := by
    intro kind
    cases kind <;> decide +kernel
  exact ⟨hkinds, (ofLines_eq_of_statementsOf_eq hkinds true "out/default").1⟩

end BuildGraph

end ComponentLinks
