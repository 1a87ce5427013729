import ComponentLinks.BuildGraph.Check
import ComponentLinks.Proofs.BuildGraph.Repository

/-!
# Reports on differing records

Whether differing records of a target are reported shows nowhere else in a graph. The reports are
decided by the records of a log alone: there is one for each record that differs from the latest
earlier one of its target, in the order of the log.

## Main definitions

* `ManifestRecord.latest?`: the latest record of a target.
* `ManifestRecord.conflicts`: the records that differ from the latest earlier one of their target.
* `BuildGraph.records`: the records of a log.
* `BuildGraph.ofRecognized_true`: a graph with reports, from the graph without.
* `BuildGraph.ofLines_reporting`: what reporting changes in the graph of a log.
-/
namespace ComponentLinks

/-! ## Differing records -/

namespace ManifestRecord

def latest? (target : String) (rs : List ManifestRecord) : Option ManifestRecord :=
  rs.reverse.find? fun r => r.target = target

/-- The latest earlier record of the same target that a record differs from. -/
def conflict? (earlier : List ManifestRecord) (r : ManifestRecord) : Option ManifestRecord :=
  (latest? r.target earlier).filter fun known => known ≠ r

/-- The records that differ from the latest earlier one of their target, in order, each behind that
one. -/
def conflicts (rs : List ManifestRecord) : List (ManifestRecord × ManifestRecord) :=
  rs.zipIdx.filterMap fun (r, i) => (conflict? (rs.take i) r).map fun known => (known, r)

theorem latest?_append_singleton (target : String) (rs : List ManifestRecord)
    (r : ManifestRecord) :
    latest? target (rs ++ [r]) =
      ((some r).filter fun r => r.target = target).or (latest? target rs) := by
  by_cases h : r.target = target <;> simp [latest?, h, Option.filter]

/-- A record at the end adds nothing but its own conflict. -/
theorem conflicts_append_singleton (rs : List ManifestRecord) (r : ManifestRecord) :
    conflicts (rs ++ [r]) =
      conflicts rs ++ ((conflict? rs r).map fun known => (known, r)).toList := by
  rw [conflicts, List.zipIdx_append, List.filterMap_append]
  congr 1
  · refine List.filterMap_congr fun ⟨known, i⟩ he => ?_
    have hlt : i < 0 + rs.length := List.snd_lt_add_of_mem_zipIdx he
    dsimp only
    rw [List.take_append_of_le_length (by omega)]
  · cases h : conflict? rs r <;> simp [h]

/-- A record is reported again after it was replaced, but not when it is repeated. -/
example :
    let a : ManifestRecord := ⟨"d:t", "a", "m/a.cml"⟩
    let b : ManifestRecord := ⟨"d:t", "b", "m/b.cml"⟩
    conflicts [a, b, a] = [(a, b), (b, a)] ∧ conflicts [a, a, b] = [(a, b)] := by
  decide +kernel

end ManifestRecord

namespace BuildGraph

variable {reporting : Bool} {buildDir : String}

/-! ## Graphs with other reports -/

/-- A graph with other reports. -/
def withReports (g : BuildGraph) (ds : List Diagnostic) : BuildGraph := { g with diagnostics := ds }

@[simp] theorem check_withReports (g : BuildGraph) (ds : List Diagnostic) (logName : String) :
    (g.withReports ds).check logName = g.check logName := rfl

theorem pairingsOf_withReports (useHeuristics : Bool) (base : Path) (g : BuildGraph)
    (ds : List Diagnostic) (path : String) (packages : List String) :
    (g.withReports ds).pairingsOf useHeuristics base path packages =
      g.pairingsOf useHeuristics base path packages := by
  induction packages generalizing path with
  | nil => rfl
  | cons package packages ih =>
    have hpairing : (g.withReports ds).pairing useHeuristics base path package =
      g.pairing useHeuristics base path package := rfl
    simp only [pairingsOf, hpairing, ih]

@[simp] theorem pairings_withReports (useHeuristics : Bool) (base : Path) (g : BuildGraph)
    (ds : List Diagnostic) :
    (g.withReports ds).pairings useHeuristics base = g.pairings useHeuristics base :=
  List.flatMap_congr fun _ _ => pairingsOf_withReports ..

@[simp] theorem manifestTable_withReports (settings : Settings) (base : Path) (g : BuildGraph)
    (ds : List Diagnostic) :
    (g.withReports ds).manifestTable settings base = g.manifestTable settings base := by
  rw [manifestTable, links, pairings_withReports]
  rfl

/-! ## What is reported -/

/-- The report on a record that differs from an earlier one of its target. -/
def duplicateReport (known new : ManifestRecord) : Diagnostic :=
  ⟨.duplicateAssociation, conflictMessage known new, false⟩

/-- The records that the statements of a log give, in order. -/
def records (buildDir : String) (rs : List Recognized) : List ManifestRecord :=
  rs.filterMap fun s => s.record? buildDir

theorem records_append_singleton (rs : List Recognized) (s : Recognized) :
    records buildDir (rs ++ [s]) = records buildDir rs ++ (s.record? buildDir).toList := by
  rw [records, List.filterMap_append]
  cases h : s.record? buildDir <;> simp [records, h]

theorem find?_manifestOf_ofRecognized (target : String) (rs : List Recognized) :
    (ofRecognized reporting buildDir rs).manifestOf.find? target =
      ManifestRecord.latest? target (records buildDir rs) := by
  induction rs using List.reverseRecOn with
  | nil => rfl
  | append_singleton rs s ih =>
    rw [ofRecognized_append_singleton, find?_manifestOf_add, ih, records_append_singleton]
    cases s.record? buildDir with
    | none => simp
    | some r => exact (ManifestRecord.latest?_append_singleton target _ r).symm

/-- A record is in conflict with what a graph knows exactly if it differs from the latest earlier
one of its target. -/
theorem conflict?_ofRecognized (rs : List Recognized) (r : ManifestRecord) :
    (ofRecognized reporting buildDir rs).conflict? r =
      ManifestRecord.conflict? (records buildDir rs) r := by
  rw [conflict?, find?_manifestOf_ofRecognized, ManifestRecord.conflict?]
  congr 1
  funext known
  by_cases h : known = r <;> simp [h]

theorem add_of_record?_eq_none {s : Recognized} (h : s.record? buildDir = none) (g : BuildGraph)
    (ds : List Diagnostic) :
    (g.withReports ds).add true buildDir s = (g.add false buildDir s).withReports ds := by
  cases s with
  | packageAssembly | subComponents | packageNaming => rfl
  | validation | compilation => simp [Recognized.record?] at h

/-- A record changes a graph in the same way whether it is reported or not. -/
theorem add_of_record?_eq_some {s : Recognized} {r : ManifestRecord}
    (h : s.record? buildDir = some r) (g : BuildGraph) (ds : List Diagnostic) :
    (g.withReports ds).add true buildDir s = (g.add false buildDir s).withReports
      (ds ++ ((g.conflict? r).map fun known => duplicateReport known r).toList) := by
  have hreports : (g.withReports ds).conflictReports r =
      ((g.conflict? r).map fun known => duplicateReport known r).toList := by
    show ((g.conflict? r).toList.map fun known => duplicateReport known r) = _
    cases g.conflict? r <;> rfl
  rw [← hreports]
  cases s with
  | packageAssembly | subComponents | packageNaming => simp [Recognized.record?] at h
  | validation | compilation =>
    obtain rfl := Option.some.inj h
    rfl

/-- The graph with reports is the graph without, together with a report on each record that differs
from the latest earlier one of its target. -/
theorem ofRecognized_true (buildDir : String) (rs : List Recognized) :
    ofRecognized true buildDir rs = (ofRecognized false buildDir rs).withReports
      ((ManifestRecord.conflicts (records buildDir rs)).map fun c => duplicateReport c.1 c.2) := by
  induction rs using List.reverseRecOn with
  | nil => rfl
  | append_singleton rs s ih =>
    rw [ofRecognized_append_singleton, ofRecognized_append_singleton, ih, records_append_singleton]
    cases h : s.record? buildDir with
    | none => simpa using add_of_record?_eq_none h ..
    | some r =>
      rw [add_of_record?_eq_some h, conflict?_ofRecognized, Option.toList_some,
        ManifestRecord.conflicts_append_singleton, List.map_append]
      cases ManifestRecord.conflict? (records buildDir rs) r <;> rfl

theorem diagnostics_ofRecognized_false (buildDir : String) (rs : List Recognized) :
    (ofRecognized false buildDir rs).diagnostics = [] := by
  induction rs using List.reverseRecOn with
  | nil => rfl
  | append_singleton rs s ih =>
    rw [ofRecognized_append_singleton]
    cases s with
    | packageAssembly | subComponents | packageNaming => exact ih
    | validation | compilation => exact (List.append_nil _).trans ih

/-- Reporting changes neither the maps of a graph nor the shapes seen, and so neither the check nor
the table of manifests and the report on what it leaves out. Without it there are no reports. With
it there is one for each command whose record differs from the latest earlier record of the same
component target, in the order of the log; none of them is fatal. -/
theorem ofLines_reporting (buildDir : String) (lines : List (List Char)) :
    let quiet := ofLines false buildDir lines
    let loud := ofLines true buildDir lines
    (loud.packagesOf = quiet.packagesOf ∧ loud.manifestOf = quiet.manifestOf ∧
      loud.partsOf = quiet.partsOf ∧ loud.nameOf = quiet.nameOf ∧ loud.seen = quiet.seen) ∧
    (∀ logName, loud.check logName = quiet.check logName) ∧
    (∀ settings base, loud.manifestTable settings base = quiet.manifestTable settings base ∧
      reports (loud.pairings settings.usesHeuristics base) =
        reports (quiet.pairings settings.usesHeuristics base)) ∧
    quiet.diagnostics = [] ∧
    loud.diagnostics = (ManifestRecord.conflicts (records buildDir (recognizedLines lines))).map
      fun c => ⟨.duplicateAssociation, conflictMessage c.1 c.2, false⟩ := by
  intro quiet loud
  have hloud : loud = quiet.withReports ((ManifestRecord.conflicts
      (records buildDir (recognizedLines lines))).map fun c => duplicateReport c.1 c.2) :=
    ofRecognized_true buildDir (recognizedLines lines)
  have hquiet : quiet.diagnostics = [] :=
    diagnostics_ofRecognized_false buildDir (recognizedLines lines)
  rw [hloud]
  refine ⟨⟨rfl, rfl, rfl, rfl, rfl⟩, fun logName => rfl, fun settings base => ?_, hquiet, rfl⟩
  exact ⟨manifestTable_withReports .., congrArg reports (pairings_withReports ..)⟩

end BuildGraph

end ComponentLinks
