import ComponentLinks.Proofs.Search.Reading
import ComponentLinks.Proofs.Table.References

/-!
# Each line for itself

What is recorded for an identifier is what each line of the output gives for it, line after line.
So outputs can be put together, and a line that is no hit can be left out. The exception is a line
that is refused: the output that holds it gives nothing at all.

## Main definitions

* `Search.recorded`: the places recorded for an identifier.
* `Search.lineReferences`: the places that one line gives for it.
* `Search.recorded_of_parse`: what is recorded, line after line.
* `Search.parse_line_by_line`: when an output is read, and what its lines give.
* `Search.superscriptOutput`: an output with a hit that is refused because of another line.
-/
namespace ComponentLinks.Search

variable {settings : Settings} {base : Path} {output : List Char}
  {r : PassResult ReferenceTable}

/-! ## When an output is read -/

theorem exists_parse_iff :
    (∃ r, parse settings base output = .ok r) ↔
      ∀ line ∈ Text.filledLines output, ∀ e, ¬ Hit.Refuses line e := by
  constructor
  · rintro ⟨r, hr⟩
    rcases readLines_eq_ok_or_error output with
      hread | ⟨before, line, after, e, hlines, hbefore, hline⟩
    · exact hread
    · rw [parse, readLines_eq_error hlines hbefore hline] at hr
      simp [Except.map] at hr
  · intro h
    exact ⟨_, by rw [parse, readLines_eq_ok h]; rfl⟩

theorem parse_eq_error_iff {e : Text.NumeralFault} :
    parse settings base output = .error e ↔
      ∃ before line after, Text.filledLines output = before ++ line :: after ∧
        (∀ l ∈ before, ∀ e', ¬ Hit.Refuses l e') ∧ Hit.Refuses line e := by
  constructor
  · intro h
    rcases readLines_eq_ok_or_error output with
      hread | ⟨before, line, after, e', hlines, hbefore, hline⟩
    · rw [parse, readLines_eq_ok hread] at h
      simp [Except.map] at h
    · rw [parse, readLines_eq_error hlines hbefore hline] at h
      obtain rfl : e' = e := by simpa [Except.map] using h
      exact ⟨before, line, after, hlines, hbefore, hline⟩
  · rintro ⟨before, line, after, hlines, hbefore, hline⟩
    rw [parse, readLines_eq_error hlines hbefore hline]
    rfl

theorem readLines_of_parse (hr : parse settings base output = .ok r) :
    readLines output = .ok ((Text.filledLines output).map readingOf) :=
  readLines_eq_ok (exists_parse_iff.1 ⟨r, hr⟩)

/-! ## What is recorded -/

/-- The places recorded for an identifier; there are none without a table. -/
def recorded (r : PassResult ReferenceTable) (id : String) : List Reference :=
  (r.table.bind (·.references? id)).getD []

/-- The places that a line gives for an identifier. -/
def lineReferences (normalizes : Bool) (base : Path) (id : String) (line : List Char) :
    List Reference :=
  (((readingOf line).found base).filter fun x =>
    ReferenceTable.Counts normalizes id x.1.identifier).map Prod.snd

/-- The table of the readings of an output, if there is a URL in them. -/
def tableOf (normalizes : Bool) (base : Path) (rs : List Reading) : Option ReferenceTable :=
  if (foundIn base rs).isEmpty then none else some (referenceTable normalizes base rs)

theorem found_eq_nil_iff (base : Path) (r : Reading) : r.found base = [] ↔ r.urls = [] := by
  unfold Reading.found Reading.urls
  cases r.hit <;> simp

theorem map_table_parse (settings : Settings) (base : Path) (output : List Char) :
    (parse settings base output).map (·.table) =
      (readLines output).map (tableOf settings.normalizesSeparators base) := by
  unfold parse
  cases readLines output with
  | error e => rfl
  | ok rs =>
    have htable : (if (outcome base rs).success then
        some (referenceTable settings.normalizesSeparators base rs) else none) =
        tableOf settings.normalizesSeparators base rs := by
      unfold outcome tableOf
      split <;> rfl
    exact congrArg Except.ok htable

theorem table_of_parse {rs : List Reading} (hread : readLines output = .ok rs)
    (hr : parse settings base output = .ok r) :
    r.table = tableOf settings.normalizesSeparators base rs := by
  have h := map_table_parse settings base output
  rw [hread, hr] at h
  exact Except.ok.inj h

/-- Whether a table is made or not, recorded is what was found. -/
theorem getD_references?_tableOf (normalizes : Bool) (base : Path) (rs : List Reading)
    (id : String) :
    ((tableOf normalizes base rs).bind (·.references? id)).getD [] =
      ReferenceTable.recordedFor normalizes
        ((foundIn base rs).map fun x => (x.1.identifier, x.2)) id := by
  unfold tableOf
  split
  · rename_i hnil
    simp [List.isEmpty_iff.1 hnil, ReferenceTable.recordedFor]
  · rw [Option.bind_some, referenceTable, ReferenceTable.references?_ofList]
    split
    · rename_i hnone
      simp [hnone]
    · rfl

theorem recordedFor_foundIn (normalizes : Bool) (base : Path) (lines : List (List Char))
    (id : String) :
    ReferenceTable.recordedFor normalizes
        ((foundIn base (lines.map readingOf)).map fun x => (x.1.identifier, x.2)) id =
      lines.flatMap (lineReferences normalizes base id) := by
  induction lines with
  | nil => rfl
  | cons line lines ih =>
    rw [List.flatMap_cons, ← ih]
    unfold foundIn lineReferences ReferenceTable.recordedFor
    simp only [List.map_cons, List.flatMap_cons, List.map_append, List.filter_append,
      List.filter_map, List.map_map]
    rfl

/-- What is recorded for an identifier is what the lines give for it, one after the other. -/
theorem recorded_of_parse (hr : parse settings base output = .ok r) (id : String) :
    recorded r id = (Text.filledLines output).flatMap
      (lineReferences settings.normalizesSeparators base id) := by
  rw [recorded, table_of_parse (readLines_of_parse hr) hr, getD_references?_tableOf,
    recordedFor_foundIn]

/-- A line without a decimal number between its first two colons gives nothing. -/
theorem lineReferences_of_not_isNumbered {line : List Char} (h : ¬ Hit.IsNumbered line)
    (normalizes : Bool) (base : Path) (id : String) :
    lineReferences normalizes base id line = [] := by
  have hfound : (readingOf line).found base = [] :=
    (found_eq_nil_iff base _).2 (urls_readingOf_of_not_isNumbered h)
  simp [lineReferences, hfound]

/-! ## Outputs put together -/

theorem readLines_append_newline (xs ys : List Char) :
    readLines (xs ++ '\n' :: ys) = do
      let before ← readLines xs
      let after ← readLines ys
      return before ++ after := by
  have happend := Text.filledLines_append_newline xs ys
  unfold Text.filledLines at happend
  rw [readLines, happend, List.mapM_append]
  rfl

theorem foundIn_append (base : Path) (rs rs' : List Reading) :
    foundIn base (rs ++ rs') = foundIn base rs ++ foundIn base rs' :=
  List.flatMap_append

theorem tableOf_congr {normalizes : Bool} {rs rs' : List Reading}
    (h : foundIn base rs = foundIn base rs') :
    tableOf normalizes base rs = tableOf normalizes base rs' := by
  unfold tableOf referenceTable
  rw [h]

/-- A line that is no hit and is not refused is read without finding anything. -/
theorem exists_readLines_of_not_isNumbered {line : List Char} (hline : Text.IsLine line)
    (hnumbered : ¬ Hit.IsNumbered line) (hrefused : ∀ e, ¬ Hit.Refuses line e) (base : Path) :
    ∃ rs, readLines line = .ok rs ∧ foundIn base rs = [] := by
  have hlines : ∀ l ∈ Text.filledLines line, l = line := by
    intro l hl
    by_cases hne : line = []
    · simp [hne, Text.filledLines, Text.boundaryLines] at hl
    · rw [Text.filledLines_of_isLine hline hne] at hl
      simpa using hl
  refine ⟨_, readLines_eq_ok fun l hl e => hlines l hl ▸ hrefused e, ?_⟩
  refine List.flatMap_eq_nil_iff.2 fun reading hreading => ?_
  obtain ⟨l, hl, rfl⟩ := List.mem_map.1 hreading
  rw [hlines l hl]
  exact (found_eq_nil_iff base _).2 (urls_readingOf_of_not_isNumbered hnumbered)

/-- Leaving out a line that is no hit and is not refused does not change the table. -/
theorem map_table_parse_skip {line : List Char} (hline : Text.IsLine line)
    (hnumbered : ¬ Hit.IsNumbered line) (hrefused : ∀ e, ¬ Hit.Refuses line e)
    (settings : Settings) (base : Path) (xs ys : List Char) :
    (parse settings base (xs ++ '\n' :: (line ++ '\n' :: ys))).map (·.table) =
      (parse settings base (xs ++ '\n' :: ys)).map (·.table) := by
  obtain ⟨rs, hread, hfound⟩ :=
    exists_readLines_of_not_isNumbered hline hnumbered hrefused base
  rw [map_table_parse, map_table_parse, readLines_append_newline, readLines_append_newline,
    readLines_append_newline, hread]
  cases readLines xs with
  | error e => rfl
  | ok before =>
    cases readLines ys with
    | error e => rfl
    | ok after =>
      refine congrArg Except.ok (tableOf_congr ?_)
      rw [foundIn_append, foundIn_append, foundIn_append, hfound, List.nil_append]

/-- Exactly if no line is refused, an output is read; otherwise the first line that is refused
decides the fault. Recorded for an identifier is what the lines give for it, one after the other,
and a line without a decimal number between its first two colons gives nothing. So such a line can
be left out unless it is refused, and the places recorded for two outputs with a newline between
them are those of the first one and then those of the second one. -/
theorem parse_line_by_line (settings : Settings) (base : Path) :
    (∀ output,
      ((∃ r, parse settings base output = .ok r) ↔
        ∀ line ∈ Text.filledLines output, ∀ e, ¬ Hit.Refuses line e) ∧
      (∀ e, parse settings base output = .error e ↔
        ∃ before line after, Text.filledLines output = before ++ line :: after ∧
          (∀ l ∈ before, ∀ e', ¬ Hit.Refuses l e') ∧ Hit.Refuses line e) ∧
      ∀ r, parse settings base output = .ok r → ∀ id,
        recorded r id = (Text.filledLines output).flatMap
          (lineReferences settings.normalizesSeparators base id)) ∧
    (∀ line, ¬ Hit.IsNumbered line →
      (∀ id, lineReferences settings.normalizesSeparators base id line = []) ∧
      (Text.IsLine line → (∀ e, ¬ Hit.Refuses line e) → ∀ xs ys,
        (parse settings base (xs ++ '\n' :: (line ++ '\n' :: ys))).map (·.table) =
          (parse settings base (xs ++ '\n' :: ys)).map (·.table))) ∧
    ∀ xs ys,
      ((∃ r, parse settings base (xs ++ '\n' :: ys) = .ok r) ↔
        (∃ r, parse settings base xs = .ok r) ∧ ∃ r, parse settings base ys = .ok r) ∧
      ∀ r r₁ r₂, parse settings base (xs ++ '\n' :: ys) = .ok r →
        parse settings base xs = .ok r₁ → parse settings base ys = .ok r₂ →
        ∀ id, recorded r id = recorded r₁ id ++ recorded r₂ id := by
  refine ⟨?_, ?_, ?_⟩
  · intro output
    refine ⟨exists_parse_iff, fun e => parse_eq_error_iff, ?_⟩
    intro r hr id
    exact recorded_of_parse hr id
  · intro line hnumbered
    constructor
    · intro id
      exact lineReferences_of_not_isNumbered hnumbered _ base id
    · intro hline hrefused xs ys
      exact map_table_parse_skip hline hnumbered hrefused settings base xs ys
  · intro xs ys
    constructor
    · rw [exists_parse_iff, exists_parse_iff, exists_parse_iff, Text.filledLines_append_newline]
      simp only [List.mem_append, or_imp, forall_and]
    · intro r r₁ r₂ hr hr₁ hr₂ id
      rw [recorded_of_parse hr, recorded_of_parse hr₁, recorded_of_parse hr₂,
        Text.filledLines_append_newline, List.flatMap_append]

/-- An output with a hit, and after it a line that has a superscript two for its line number. -/
def superscriptOutput : List Char :=
  "m.cml:1:fuchsia-pkg://fuchsia.com/foo#meta/bar.cmx\na:²:x".toList

/-- The superscript counts as a digit, and is not read as a number: the hit is lost as well. -/
theorem not_exists_parse_superscriptOutput :
    ¬ ∃ r, parse {} (.ofString "/fuchsia") superscriptOutput = .ok r := by
  have hmem : "a:²:x".toList ∈ Text.filledLines superscriptOutput := by decide +kernel
  have hrefused : Hit.Refuses "a:²:x".toList (.noNumeral 10 ['²']) := by
    refine ⟨['a'], ['²'], ['x'], ⟨rfl, by decide, by decide⟩, by simp, by decide, ?_⟩
    rw [if_neg (by decide)]
    exact ⟨⟨'²', by simp, by decide⟩, rfl⟩
  intro h
  exact exists_parse_iff.1 h _ hmem _ hrefused

end ComponentLinks.Search
