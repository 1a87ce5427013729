import ComponentLinks.Proofs.Search.Origin
import ComponentLinks.Proofs.Url.Lines

/-!
# Documents in the output of a search

An output that reports every line of a document, one hit for each, gives the URLs of the document:
those that the scan of the whole document finds, each at its position. Only a URL whose query goes
on over several lines is missed, and the URL in its last line, if there is one, is found instead.

## Main definitions

* `Search.documentHits`: the hits that report the lines of a document.
* `Search.documentReferences`: the places of the URLs in a document.
* `Search.parse_documentHits`: what is recorded for the output that reports a document.
* `Search.splitQuery`: a document with a query over two lines.
-/
namespace ComponentLinks.Search

open ComponentUrl (findAll lineUrls placesInLines)

variable {settings : Settings} {base : Path} {h : Hit} {lines : List (List Char)}

/-! ## One hit -/

namespace Hit

/-- Whether a hit has no colon in its path, and its text on one line. Unlike the path of a plain
hit, its path may be spread over several lines. -/
structure IsSpread (h : Hit) : Prop where
  path_plain : ':' ∉ h.path
  text_line : Text.IsLine h.text
  line_nonneg : 0 ≤ h.line

/-- A hit with what is left of its path where the path is spread over several lines. -/
def onLastLine (h : Hit) : Hit := { h with path := Text.lastLine h.path }

theorem IsSpread.isPlain_onLastLine (hs : h.IsSpread) : h.onLastLine.IsPlain where
  path_plain := fun hmem => hs.path_plain ((Text.lastLine_suffix h.path).subset hmem)
  path_line := Text.isLine_lastLine h.path
  text_line := hs.text_line
  line_nonneg := hs.line_nonneg

theorem IsSpread.isReported_onLastLine (hs : h.IsSpread)
    (hshort : h.digits.length ≤ Text.digitLimit) : h.onLastLine.IsReported :=
  ⟨hs.isPlain_onLastLine, hshort⟩

/-- The lines of a hit without colons in its path: only the last one of them has a colon. -/
theorem exists_filledLines_render (hs : h.IsSpread) :
    ∃ before, (∀ line ∈ before, ':' ∉ line) ∧
      Text.filledLines h.render = before ++ [h.onLastLine.render] := by
  have hplain := hs.isPlain_onLastLine
  have hlast : Text.filledLines h.onLastLine.render = [h.onLastLine.render] :=
    Text.filledLines_of_isLine (isLine_render hplain) (render_ne _)
  rcases Text.eq_lastLine_or h.path with hwhole | ⟨before, c, hc, hsplit⟩
  · have hself : h.onLastLine = h := by rw [onLastLine, ← hwhole]
    exact ⟨[], by simp, by rw [← hlast, hself]; rfl⟩
  · have hrender : h.render = before ++ c :: h.onLastLine.render := by
      rw [render_eq, render_eq, hsplit]
      simp [onLastLine, digits]
    refine ⟨Text.filledLines before, fun line hmem hcolon => ?_, ?_⟩
    · have hbefore := Text.mem_of_mem_boundaryLines (Text.mem_filledLines_iff.1 hmem).1 hcolon
      exact hs.path_plain (by rw [hsplit]; exact List.mem_append_left _ hbefore)
    · rw [hrender, Text.filledLines_append_boundary hc, hlast]
      rintro - rest hrest
      exact absurd (isLine_render hplain '\n' (by simp [hrest])) (by decide)

/-- No line of a hit is refused if its line number is short enough. -/
theorem not_refuses_of_mem_filledLines (hs : h.IsSpread)
    (hshort : h.digits.length ≤ Text.digitLimit) {line : List Char}
    (hmem : line ∈ Text.filledLines h.render) (e : Text.NumeralFault) : ¬ Refuses line e := by
  obtain ⟨before, hbefore, hlines⟩ := exists_filledLines_render hs
  have hreported := hs.isReported_onLastLine hshort
  rw [hlines, List.mem_append, List.mem_singleton] at hmem
  rw [← ofLine?_eq_error_iff]
  rcases hmem with hmem | rfl
  · simp [ofLine?_of_not_mem (hbefore line hmem)]
  · simp [ofLine?_render hreported]

theorem exists_refuses_of_long (hs : h.IsSpread) (hlong : Text.digitLimit < h.digits.length) :
    ∃ line ∈ Text.filledLines h.render, ∃ e, Refuses line e := by
  obtain ⟨before, -, hlines⟩ := exists_filledLines_render hs
  have hplain := hs.isPlain_onLastLine
  exact ⟨_, by rw [hlines]; simp, _, ofLine?_eq_error_iff.1
    (ofLine?_render_of_long hplain.path_plain hplain.line_nonneg hlong)⟩

/-- The lines of a hit give the URLs in its text. -/
theorem places_of_isSpread (hs : h.IsSpread) (hshort : h.digits.length ≤ Text.digitLimit)
    (normalizes : Bool) (base : Path) (id : String) :
    h.places normalizes base id =
      ((findAll h.text).filter fun u => ReferenceTable.Counts normalizes id u.identifier).map
        (Reading.reference base h.onLastLine) := by
  obtain ⟨before, hbefore, hlines⟩ := exists_filledLines_render hs
  have hplain := hs.isPlain_onLastLine
  have hnone : before.flatMap (lineReferences normalizes base id) = [] := by
    refine List.flatMap_eq_nil_iff.2 fun line hmem => ?_
    refine lineReferences_of_not_isNumbered (fun hnumbered => ?_) normalizes base id
    exact hbefore line hmem hnumbered.colon_mem
  rw [places, hlines, List.flatMap_append, hnone, List.nil_append, List.flatMap_singleton]
  exact lineReferences_render hplain.path_plain hplain.line_nonneg hshort normalizes base id

end Hit

/-! ## All lines of a document -/

/-- The hits that report lines, the first of which has the number `k`. -/
def hitsFrom (path : List Char) (k : Nat) (lines : List (List Char)) : List Hit :=
  (lines.zipIdx k).map fun line => ⟨path, line.2, line.1⟩

/-- The hits that report the lines of a document. -/
def documentHits (path text : List Char) : List Hit := hitsFrom path 0 (text.splitOn '\n')

/-- The places of the URLs for an identifier that are found line by line in a document. -/
def documentReferences (base : Path) (path text : List Char) (id : String) : List Reference :=
  ((lineUrls text).filter fun u => u.identifier = id).map fun u =>
    { source := base.join (.ofString (String.ofList (Text.lastLine path)))
      line := (Position.ofOffset text u.start).line
      column := (Position.ofOffset text u.start).character
      length := u.length }

variable {path text ending : List Char}

theorem mem_documentHits_iff : h ∈ documentHits path text ↔
    ∃ i line, (text.splitOn '\n')[i]? = some line ∧ h = ⟨path, (i : Nat), line⟩ := by
  rw [documentHits, hitsFrom, List.mem_map]
  constructor
  · rintro ⟨⟨line, i⟩, hmem, rfl⟩
    exact ⟨i, line, List.mem_zipIdx_iff_getElem?.1 hmem, rfl⟩
  · rintro ⟨i, line, hline, rfl⟩
    exact ⟨(line, i), List.mem_zipIdx_iff_getElem?.2 hline, rfl⟩

theorem isSpread_of_mem_documentHits (hpath : ':' ∉ path)
    (htext : ∀ c ∈ text, Text.isLineBoundary c = true → c = '\n')
    (hmem : h ∈ documentHits path text) : h.IsSpread := by
  obtain ⟨i, line, hline, rfl⟩ := mem_documentHits_iff.1 hmem
  have hmemLine := List.mem_of_getElem? hline
  refine ⟨hpath, fun c hc => ?_, Int.natCast_nonneg i⟩
  obtain ⟨hmemText, hne⟩ := Text.mem_and_ne_of_mem_splitOn hmemLine hc
  by_contra hboundary
  exact hne (htext c hmemText (by simpa using hboundary))

theorem length_digits_le_iff {i : Nat} {line : List Char} :
    (Hit.digits ⟨path, i, line⟩).length ≤ Text.digitLimit ↔ i + 1 < 10 ^ Text.digitLimit := by
  obtain ⟨n, hn, hdigits⟩ := Hit.exists_toDigits (h := ⟨path, i, line⟩) (Int.natCast_nonneg i)
  obtain rfl : n = i + 1 := by
    dsimp only at hn
    omega
  rw [hdigits, Nat.length_toDigits_le_iff (by decide) (by decide)]

theorem flatMap_hitsFrom (base : Path) (path : List Char) (normalizes : Bool) (k : Nat)
    (lines : List (List Char)) (id : String) :
    ((hitsFrom path k lines).flatMap fun h =>
        ((findAll h.text).filter fun u => ReferenceTable.Counts normalizes id u.identifier).map
          (Reading.reference base h.onLastLine)) =
      ReferenceTable.recordedFor normalizes
        (placesInLines (base.join (.ofString (String.ofList (Text.lastLine path)))) k 0 none lines)
        id := by
  induction lines generalizing k with
  | nil => rfl
  | cons line lines ih =>
    have hcons : hitsFrom path k (line :: lines) =
        ⟨path, k, line⟩ :: hitsFrom path (k + 1) lines := rfl
    rw [hcons, List.flatMap_cons, ih, placesInLines, ReferenceTable.recordedFor,
      ReferenceTable.recordedFor, List.filter_append, List.map_append]
    congr 1
    simp only [List.filter_map, List.map_map]
    rfl

theorem recordedFor_placesInText (source : Path) (text : List Char) (id : String) :
    ReferenceTable.recordedFor false
        (ComponentUrl.placesInText source ⟨(0 : Nat), (0 : Nat)⟩ none text) id =
      ((lineUrls text).filter fun u => u.identifier = id).map fun u =>
        { source := source
          line := (Position.ofOffset text u.start).line
          column := (Position.ofOffset text u.start).character
          length := u.length } := by
  rw [ReferenceTable.recordedFor, ComponentUrl.placesInText, List.filter_map, List.map_map]
  simp only [ReferenceTable.Counts, Function.comp_def, ComponentUrl.placed, Bool.false_eq_true,
    false_and, or_false]
  rfl

/-- If there are too many lines, the last one of them has a number that is too long. -/
theorem exists_long_of_mem_documentHits (path : List Char)
    (hcount : 10 ^ Text.digitLimit ≤ (text.splitOn '\n').length) :
    ∃ h ∈ documentHits path text, Text.digitLimit < h.digits.length := by
  have hpos : 0 < (text.splitOn '\n').length := List.length_pos_iff.2 (List.splitOn_ne_nil _ _)
  have hlast : (text.splitOn '\n').length - 1 < (text.splitOn '\n').length := by omega
  refine ⟨_, mem_documentHits_iff.2 ⟨_, _, List.getElem?_eq_getElem hlast, rfl⟩, ?_⟩
  by_contra hshort
  have hless := length_digits_le_iff.1 (Nat.le_of_not_lt hshort)
  omega

theorem length_digits_of_mem_documentHits
    (hcount : (text.splitOn '\n').length < 10 ^ Text.digitLimit) :
    ∀ h ∈ documentHits path text, h.digits.length ≤ Text.digitLimit := by
  intro h hmem
  obtain ⟨i, line, hline, rfl⟩ := mem_documentHits_iff.1 hmem
  have hi := (List.getElem?_eq_some_iff.1 hline).1
  exact length_digits_le_iff.2 (by omega)

/-! ## Reading the hits -/

section Reading

variable {hits : List Hit} {r : PassResult ReferenceTable}

theorem exists_parse_of_short (hending : ending = [] ∨ ending = ['\n'])
    (hspread : ∀ h ∈ hits, h.IsSpread) (hshort : ∀ h ∈ hits, h.digits.length ≤ Text.digitLimit) :
    ∃ r, parse settings base (written hits ending) = .ok r := by
  refine exists_parse_iff.2 ?_
  intro line hline e
  rw [filledLines_written hending] at hline
  obtain ⟨h, hmem, hline⟩ := List.mem_flatMap.1 hline
  exact Hit.not_refuses_of_mem_filledLines (hspread h hmem) (hshort h hmem) hline e

/-- What is recorded for hits is what their texts give, hit after hit. -/
theorem recorded_of_parse_written (hending : ending = [] ∨ ending = ['\n'])
    (hspread : ∀ h ∈ hits, h.IsSpread) (hshort : ∀ h ∈ hits, h.digits.length ≤ Text.digitLimit)
    (hr : parse settings base (written hits ending) = .ok r) (id : String) :
    recorded r id = hits.flatMap fun h =>
      ((findAll h.text).filter fun u =>
        ReferenceTable.Counts settings.normalizesSeparators id u.identifier).map
          (Reading.reference base h.onLastLine) := by
  rw [recorded_written hending hr]
  refine List.flatMap_congr ?_
  intro h hmem
  exact Hit.places_of_isSpread (hspread h hmem) (hshort h hmem) _ _ _

theorem exists_error_of_long (hending : ending = [] ∨ ending = ['\n'])
    (hspread : ∀ h ∈ hits, h.IsSpread) (hlong : ∃ h ∈ hits, Text.digitLimit < h.digits.length) :
    ∃ e, parse settings base (written hits ending) = .error e := by
  obtain ⟨h, hmem, hlong⟩ := hlong
  obtain ⟨line, hline, e, hrefused⟩ := Hit.exists_refuses_of_long (hspread h hmem) hlong
  have hfilled : line ∈ Text.filledLines (written hits ending) := by
    rw [filledLines_written hending]
    exact List.mem_flatMap.2 ⟨h, hmem, hline⟩
  cases hparse : parse settings base (written hits ending) with
  | error e => exact ⟨e, rfl⟩
  | ok r => exact absurd hrefused (exists_parse_iff.1 ⟨r, hparse⟩ line hfilled e)

end Reading

/-- The output that reports the lines of a document, the path of which has no colon, and the text no
boundaries other than newlines. If the last line has a number that is read, the output is read, and
recorded for an identifier are the URLs that are found line by line in the document, in their order
and at their positions: the URLs of the whole document, where one over several lines is replaced by
the URL in its last line, of which there is at most one. Otherwise the output is refused. -/
theorem parse_documentHits (hsettings : settings.normalizesSeparators = false)
    (hpath : ':' ∉ path) (htext : ∀ c ∈ text, Text.isLineBoundary c = true → c = '\n')
    (hending : ending = [] ∨ ending = ['\n']) (base : Path) :
    ((text.splitOn '\n').length < 10 ^ Text.digitLimit →
      ∃ r, parse settings base (written (documentHits path text) ending) = .ok r ∧
        ∀ id, recorded r id = documentReferences base path text id) ∧
    (10 ^ Text.digitLimit ≤ (text.splitOn '\n').length →
      ∃ e, parse settings base (written (documentHits path text) ending) = .error e) ∧
    (∀ u ∈ findAll text, (ComponentUrl.inLastLine u).length ≤ 1) ∧
    ((∀ u ∈ findAll text, '\n' ∉ u.url.toList) → lineUrls text = findAll text) := by
  have hspread : ∀ h ∈ documentHits path text, h.IsSpread :=
    fun h => isSpread_of_mem_documentHits hpath htext
  refine ⟨?_, ?_, fun u => ComponentUrl.length_inLastLine_le_one,
    ComponentUrl.lineUrls_of_forall_not_mem⟩
  · intro hcount
    have hshort : ∀ h ∈ documentHits path text, h.digits.length ≤ Text.digitLimit :=
      length_digits_of_mem_documentHits hcount
    obtain ⟨r, hr⟩ : ∃ r, parse settings base (written (documentHits path text) ending) = .ok r :=
      exists_parse_of_short hending hspread hshort
    refine ⟨r, hr, ?_⟩
    intro id
    rw [recorded_of_parse_written hending hspread hshort hr, documentHits, flatMap_hitsFrom,
      ← ComponentUrl.placesInText_eq_placesInLines _ htext, hsettings]
    exact recordedFor_placesInText _ _ _
  · intro hcount
    exact exists_error_of_long hending hspread (exists_long_of_mem_documentHits path hcount)

/-- A document with two URLs, the first of which has a query that goes on over the second line. -/
def splitQuery : List Char :=
  "fuchsia-pkg://fuchsia.com/a?\nfuchsia-pkg://fuchsia.com/b#meta/c.cm".toList

theorem eq_newline_of_mem_splitQuery :
    ∀ c ∈ splitQuery, Text.isLineBoundary c = true → c = '\n' := by
  decide +kernel

/-- The URL of the second line is recorded, and nothing for the package of the first line. -/
theorem parse_splitQuery :
    ':' ∉ ['p'] ∧ (∀ c ∈ splitQuery, Text.isLineBoundary c = true → c = '\n') ∧
      ∃ r, parse {} (.ofString "/fuchsia") (written (documentHits ['p'] splitQuery) []) = .ok r ∧
        recorded r "a/c" = [] ∧
        recorded r "b/c" = [⟨.ofString "/fuchsia/p", 1, 0, 37⟩] := by
  have hpath : ':' ∉ ['p'] := by decide
  have hlines : (splitQuery.splitOn '\n').length = 2 := by decide +kernel
  have hcount : (splitQuery.splitOn '\n').length < 10 ^ Text.digitLimit := by
    rw [hlines]
    exact Nat.lt_trans (by decide) (Nat.lt_pow_self (by decide))
  have hreferences : ["a/c", "b/c"].map
      (documentReferences (.ofString "/fuchsia") ['p'] splitQuery) =
        [[], [⟨.ofString "/fuchsia/p", 1, 0, 37⟩]] := by
    decide +kernel
  simp only [List.map_cons, List.map_nil, List.cons.injEq, and_true] at hreferences
  have hsettings : ({} : Settings).normalizesSeparators = false := rfl
  obtain ⟨r, hr, hrecorded⟩ := (parse_documentHits hsettings hpath
    eq_newline_of_mem_splitQuery (.inl rfl) (.ofString "/fuchsia")).1 hcount
  refine ⟨hpath, eq_newline_of_mem_splitQuery, r, hr, ?_, ?_⟩
  · rw [hrecorded]
    exact hreferences.1
  · rw [hrecorded]
    exact hreferences.2

/-- What is recorded is not what the scan of the whole document finds: that gives one URL, of the
package of the first line, that goes on over both lines. -/
theorem recorded_splitQuery_ne_findAll :
    ':' ∉ ['p'] ∧ (∀ c ∈ splitQuery, Text.isLineBoundary c = true → c = '\n') ∧
      ¬ ∃ r, parse {} (.ofString "/fuchsia") (written (documentHits ['p'] splitQuery) []) = .ok r ∧
        ∀ id, recorded r id = ((findAll splitQuery).filter fun u => u.identifier = id).map fun u =>
          ⟨.ofString "/fuchsia/p", (Position.ofOffset splitQuery u.start).line,
            (Position.ofOffset splitQuery u.start).character, u.length⟩ := by
  refine ⟨by decide, eq_newline_of_mem_splitQuery, ?_⟩
  rintro ⟨r, hr, hrecorded⟩
  have hlines : (Text.filledLines (written (documentHits ['p'] splitQuery) [])).flatMap
      (lineReferences false (.ofString "/fuchsia") "a/c") = [] := by
    decide +kernel
  have hfound : (findAll splitQuery).filter (fun u => u.identifier = "a/c") ≠ [] := by
    decide +kernel
  have hnone := hrecorded "a/c"
  rw [recorded_of_parse hr, hlines] at hnone
  exact hfound (List.map_eq_nil_iff.1 hnone.symm)

end ComponentLinks.Search
