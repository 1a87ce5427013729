import ComponentLinks.Proofs.Search.Reading
import ComponentLinks.Proofs.Table.References
import ComponentLinks.Proofs.Text.Lines
import Mathlib.Data.List.Basic

/-!
# Reading the output of a search

The hits of a search are written one on a line. Reading the output gives the hits back, and a table
that lists for each identifier the places of its URLs in them. Only where a line number has more
digits than are read as a number, nothing is read at all.

## Main definitions

* `Search.Hit.IsPlain`, `Search.Hit.IsReported`: the hits that a search can report.
* `Search.written`: the output that reports hits.
* `Search.readLines_written`: what is read in it.
* `Search.parse_written`, `Search.parse_written_of_long`: the table of references, or the fault.
-/
namespace ComponentLinks.Search

/-- Whether a search can report a hit, whatever its line number: the path has no colon, and path and
text stand on one line. -/
structure Hit.IsPlain (h : Hit) : Prop where
  path_plain : ':' ∉ h.path
  path_line : Text.IsLine h.path
  text_line : Text.IsLine h.text
  line_nonneg : 0 ≤ h.line

instance (h : Hit) : Decidable h.IsPlain :=
  decidable_of_iff (':' ∉ h.path ∧ Text.IsLine h.path ∧ Text.IsLine h.text ∧ 0 ≤ h.line)
    ⟨fun ⟨hpath, hpathLine, htextLine, hline⟩ => ⟨hpath, hpathLine, htextLine, hline⟩,
      fun ⟨hpath, hpathLine, htextLine, hline⟩ => ⟨hpath, hpathLine, htextLine, hline⟩⟩

/-- The line number of a hit as it is written. -/
def Hit.digits (h : Hit) : List Char := (toString (h.line + 1)).toList

/-- Whether a search can report a hit that is read: its line number has no more digits than are read
as a number. -/
structure Hit.IsReported (h : Hit) : Prop extends h.IsPlain where
  line_short : h.digits.length ≤ Text.digitLimit

/-- The output that reports hits, each on a line; the last line may lack its end. -/
def written (hits : List Hit) (ending : List Char) : List Char :=
  List.intercalate ['\n'] (hits.map Hit.render) ++ ending

namespace Hit

theorem render_eq (h : Hit) : h.render = h.path ++ ':' :: (h.digits ++ ':' :: h.text) := by
  simp [render, digits]

theorem exists_toDigits {h : Hit} (hline : 0 ≤ h.line) :
    ∃ n : Nat, h.line = (n : Int) - 1 ∧ h.digits = Nat.toDigits 10 n := by
  obtain ⟨n, hn⟩ := Int.eq_ofNat_of_zero_le hline
  refine ⟨n + 1, by omega, ?_⟩
  rw [digits, hn]
  exact Nat.toList_repr (n := n + 1)

theorem isDigit_of_mem_toDigits {n : Nat} {c : Char} (h : c ∈ Nat.toDigits 10 n) :
    Text.isDigit c = true := by
  simp [Text.isDigit, Text.isDecimal_of_mem_toDigits h]

theorem colon_not_mem_toDigits (n : Nat) : ':' ∉ Nat.toDigits 10 n := by
  intro h
  have hcolon : Text.isDecimal ':' = false := by decide
  rw [Text.isDecimal_of_mem_toDigits h] at hcolon
  simp at hcolon

/-- In the line that reports a hit, its line number is read. -/
theorem ofLine?_render_eq {h : Hit} (hcolon : ':' ∉ h.path) (hline : 0 ≤ h.line) :
    ofLine? h.render =
      (Text.readNumeral h.digits).map fun n : Nat => some ⟨h.path, (n : Int) - 1, h.text⟩ := by
  obtain ⟨n, -, hdigits⟩ := exists_toDigits hline
  have hpath : cutAtColon h.render = some (h.path, h.digits ++ ':' :: h.text) := by
    rw [cutAtColon_eq_some_iff]
    exact ⟨h.render_eq, hcolon⟩
  have hrest : cutAtColon (h.digits ++ ':' :: h.text) = some (h.digits, h.text) := by
    rw [cutAtColon_eq_some_iff, hdigits]
    exact ⟨rfl, colon_not_mem_toDigits n⟩
  have hall : h.digits.all Text.isDigit = true := by
    rw [hdigits]
    exact List.all_eq_true.2 fun c hc => isDigit_of_mem_toDigits hc
  have hne : h.digits.isEmpty = false := by simp [hdigits, Nat.toDigits_ne_nil]
  simp only [ofLine?, hpath, hrest, hall, hne, Bool.not_true, Bool.or_self, Bool.false_eq_true,
    if_false]
  cases Text.readNumeral h.digits <;> rfl

theorem ofLine?_render_of_short {h : Hit} (hcolon : ':' ∉ h.path) (hline : 0 ≤ h.line)
    (hshort : h.digits.length ≤ Text.digitLimit) : ofLine? h.render = .ok (some h) := by
  obtain ⟨n, hn, hdigits⟩ := exists_toDigits hline
  rw [ofLine?_render_eq hcolon hline, hdigits, Text.readNumeral_toDigits (hdigits ▸ hshort)]
  simp [Except.map, ← hn]

theorem ofLine?_render_of_long {h : Hit} (hcolon : ':' ∉ h.path) (hline : 0 ≤ h.line)
    (hlong : Text.digitLimit < h.digits.length) :
    ofLine? h.render = .error (.tooLong h.digits.length) := by
  obtain ⟨n, -, hdigits⟩ := exists_toDigits hline
  rw [ofLine?_render_eq hcolon hline, hdigits,
    Text.readNumeral_toDigits_of_long (hdigits ▸ hlong)]
  rfl

theorem ofLine?_render {h : Hit} (hr : h.IsReported) : ofLine? h.render = .ok (some h) :=
  ofLine?_render_of_short hr.path_plain hr.line_nonneg hr.line_short

theorem isLine_digits {h : Hit} (hline : 0 ≤ h.line) : Text.IsLine h.digits := by
  obtain ⟨n, -, hdigits⟩ := exists_toDigits hline
  intro c hc
  rw [hdigits] at hc
  by_contra hboundary
  have hmem : c ∈ Text.lineBoundaries := by simpa [Text.isLineBoundary] using hboundary
  have hall : ∀ c ∈ Text.lineBoundaries, Text.isDecimal c = false := by decide
  have hnot := hall c hmem
  rw [Text.isDecimal_of_mem_toDigits hc] at hnot
  simp at hnot

/-- What stands before the text in the line that reports a hit. -/
def label (h : Hit) : List Char := h.path ++ ':' :: (h.digits ++ [':'])

theorem render_eq_label (h : Hit) : h.render = h.label ++ h.text := by
  simp [render_eq, label]

theorem label_ne (h : Hit) : h.label ≠ [] := by
  simp [label]

theorem isLine_label {h : Hit} (hpath : Text.IsLine h.path) (hline : 0 ≤ h.line) :
    Text.IsLine h.label := by
  intro c hc
  simp only [label, List.mem_append, List.mem_cons, List.not_mem_nil, or_false] at hc
  rcases hc with hc | rfl | hc | rfl
  · exact hpath c hc
  · decide
  · exact isLine_digits hline c hc
  · decide

theorem isLine_render {h : Hit} (hp : h.IsPlain) : Text.IsLine h.render := by
  intro c hc
  rw [render_eq_label, List.mem_append] at hc
  rcases hc with hc | hc
  · exact isLine_label hp.path_line hp.line_nonneg c hc
  · exact hp.text_line c hc

theorem render_ne (h : Hit) : h.render ≠ [] := by
  simp [render]

end Hit

theorem filter_boundaryLines_written {hits : List Hit} {ending : List Char}
    (hhits : ∀ h ∈ hits, h.IsPlain) (hending : ending = [] ∨ ending = ['\n']) :
    (Text.boundaryLines (written hits ending)).filter (!·.isEmpty) = hits.map Hit.render := by
  cases hits with
  | nil => rcases hending with rfl | rfl <;> rfl
  | cons h hits =>
    rw [written, Text.boundaryLines_intercalate _ (by simp) hending]
    · refine List.filter_eq_self.2 fun line hline => ?_
      obtain ⟨h', -, rfl⟩ := List.mem_map.1 hline
      simp [h'.render_ne]
    · intro line hline
      obtain ⟨h', hmem, rfl⟩ := List.mem_map.1 hline
      exact ⟨Hit.isLine_render (hhits h' hmem), h'.render_ne⟩

theorem readLines_written {hits : List Hit} {ending : List Char}
    (hhits : ∀ h ∈ hits, h.IsReported) (hending : ending = [] ∨ ending = ['\n']) :
    readLines (written hits ending) = .ok (hits.map fun h => ⟨h.render, some h⟩) := by
  have hread : ∀ line ∈ hits.map Hit.render, ∃ hit, Hit.ofLine? line = .ok hit :=
    List.forall_mem_map.2 fun h hmem => ⟨some h, Hit.ofLine?_render (hhits h hmem)⟩
  rw [readLines, filter_boundaryLines_written (fun h hmem => (hhits h hmem).toIsPlain) hending,
    mapM_ofLine?_eq_ok hread, List.map_map]
  refine congrArg Except.ok (List.map_congr_left fun h hmem => ?_)
  rw [Function.comp_apply, readingOf, Hit.ofLine?_render (hhits h hmem)]
  rfl

/-- Reading stops at the first hit whose line number is too long. -/
theorem readLines_written_of_long {before after : List Hit} {h : Hit} {ending : List Char}
    (hhits : ∀ k ∈ before ++ h :: after, k.IsPlain) (hending : ending = [] ∨ ending = ['\n'])
    (hbefore : ∀ k ∈ before, k.digits.length ≤ Text.digitLimit)
    (hlong : Text.digitLimit < h.digits.length) :
    readLines (written (before ++ h :: after) ending) = .error (.tooLong h.digits.length) := by
  have hplain : h.IsPlain := hhits h (by simp)
  rw [readLines, filter_boundaryLines_written hhits hending, List.map_append, List.map_cons]
  refine mapM_ofLine?_eq_error (List.forall_mem_map.2 fun k hk => ⟨some k, ?_⟩)
    (Hit.ofLine?_render_of_long hplain.path_plain hplain.line_nonneg hlong)
  exact Hit.ofLine?_render ⟨hhits k (by simp [hk]), hbefore k hk⟩

/-- The first hit whose line number is too long, if there is one. -/
theorem exists_first_long {hits : List Hit}
    (hlong : ∃ h ∈ hits, Text.digitLimit < h.digits.length) :
    ∃ before h after, hits = before ++ h :: after ∧
      (∀ k ∈ before, k.digits.length ≤ Text.digitLimit) ∧ Text.digitLimit < h.digits.length := by
  cases hfirst : hits.find? fun h => Text.digitLimit < h.digits.length with
  | none =>
    obtain ⟨h, hmem, hh⟩ := hlong
    exact absurd hh (by simpa using List.find?_eq_none.1 hfirst h hmem)
  | some h =>
    obtain ⟨hh, before, after, rfl, hbefore⟩ := List.find?_eq_some_iff_append.1 hfirst
    exact ⟨before, h, after, rfl, by simpa using hbefore, by simpa using hh⟩

def foundInHits (base : Path) (hits : List Hit) : List (ComponentUrl × Reference) :=
  hits.flatMap fun h => (ComponentUrl.findAll h.text).map fun u => (u, Reading.reference base h u)

theorem foundIn_map (base : Path) (hits : List Hit) :
    foundIn base (hits.map fun h => ⟨h.render, some h⟩) = foundInHits base hits := by
  rw [foundIn, foundInHits, List.flatMap_map]
  rfl

/-- Reading the output that reports hits gives the table of the URLs in them, if there are any. -/
theorem parse_written {settings : Settings} {base : Path} {hits : List Hit} {ending : List Char}
    (hhits : ∀ h ∈ hits, h.IsReported) (hending : ending = [] ∨ ending = ['\n'])
    (hne : foundInHits base hits ≠ []) :
    ∃ r, parse settings base (written hits ending) = .ok r ∧ r.outcome.success = true ∧
      r.table = some (.ofList settings.normalizesSeparators
        ((foundInHits base hits).map fun x => (x.1.identifier, x.2))) := by
  refine ⟨_, by rw [parse, readLines_written hhits hending]; rfl, ?_, ?_⟩
  · simp [outcome, foundIn_map, hne]
  · simp [outcome, referenceTable, foundIn_map, hne]

/-- Where a line number is too long, reading the output is the fault of the first such number. -/
theorem parse_written_of_long {settings : Settings} {base : Path} {before after : List Hit}
    {h : Hit} {ending : List Char} (hhits : ∀ k ∈ before ++ h :: after, k.IsPlain)
    (hending : ending = [] ∨ ending = ['\n'])
    (hbefore : ∀ k ∈ before, k.digits.length ≤ Text.digitLimit)
    (hlong : Text.digitLimit < h.digits.length) :
    parse settings base (written (before ++ h :: after) ending) =
      .error (.tooLong h.digits.length) := by
  rw [parse, readLines_written_of_long hhits hending hbefore hlong]
  rfl

/-- The occurrences recorded for a component are the URLs of hits that count for it. -/
theorem recordedFor_foundInHits (normalizes : Bool) (base : Path) (hits : List Hit)
    (id : String) :
    ReferenceTable.recordedFor normalizes ((foundInHits base hits).map
      fun x => (x.1.identifier, x.2)) id =
        hits.flatMap fun h => ((ComponentUrl.findAll h.text).filter fun u =>
          ReferenceTable.Counts normalizes id u.identifier).map (Reading.reference base h) := by
  rw [ReferenceTable.recordedFor, foundInHits]
  induction hits with
  | nil => rfl
  | cons h hits ih =>
    rw [List.flatMap_cons, List.flatMap_cons, List.map_append, List.filter_append,
      List.map_append, ih]
    congr 1
    simp [List.filter_map, Function.comp_def]

end ComponentLinks.Search
