import ComponentLinks.Proofs.Search.LineByLine
import ComponentLinks.Proofs.Search.Output
import ComponentLinks.Proofs.Url.Scan

/-!
# Where recorded places come from

What is recorded for an output that reports hits is what the lines of each hit give, and the lines
of a hit are those of its path and of its text. So a line in the text of a hit can pass for another
hit, and the beginning of its path for the path of one. Where nothing of this kind happens, each
recorded place is that of a URL in the text of a hit, in the file and the line that the hit names.

## Main definitions

* `Search.Hit.places`: the places that the lines of a hit give.
* `Search.recorded_written`: what is recorded is what the hits give, one after the other.
* `Search.Hit.IsUnmistakable`: the hits of which no part passes for another hit.
* `Search.exists_hit_of_mem_recorded`: the hit that a recorded place comes from.
* `Search.formFeedHit`: a hit with a text that passes for a hit in another file.
-/
namespace ComponentLinks.Search

open ComponentUrl (Written findAll)

variable {settings : Settings} {normalizes : Bool} {base : Path} {id : String} {h : Hit}
  {place : Reference} {line path rest : List Char}

namespace Hit

/-! ## What passes for a hit -/

theorem IsNumbered.colon_mem (hnumbered : IsNumbered line) : ':' ∈ line := by
  obtain ⟨path, digits, text, ⟨rfl, -, -⟩, -, -⟩ := hnumbered
  simp

/-- With a colon in the path, the path and the colon after it hold the first two colons. -/
theorem isNumbered_of_append (hnumbered : IsNumbered (path ++ ':' :: rest))
    (hcolon : ':' ∈ path) : IsNumbered (path ++ [':']) := by
  obtain ⟨first, digits, text, ⟨hline, hfirst, hdigits⟩, hdecimal⟩ := hnumbered
  obtain ⟨second, rfl, hsecond⟩ := Text.exists_append_of_mem hfirst hcolon hline
  have hsplit : (second ++ [':']) ++ rest = digits ++ ':' :: text := by
    rw [hsecond, List.append_assoc]
    rfl
  obtain ⟨text', htext', -⟩ := Text.exists_append_of_mem hdigits (by simp) hsplit
  refine ⟨first, digits, text', ⟨?_, hfirst, hdigits⟩, hdecimal⟩
  rw [List.append_assoc, List.cons_append, htext']

/-! ## The line that reports a hit -/

theorem lineReferences_render (hcolon : ':' ∉ h.path) (hline : 0 ≤ h.line)
    (hshort : h.digits.length ≤ Text.digitLimit) (normalizes : Bool) (base : Path) (id : String) :
    lineReferences normalizes base id h.render =
      ((findAll h.text).filter fun u => ReferenceTable.Counts normalizes id u.identifier).map
        (Reading.reference base h) := by
  have hread := hit_readingOf (ofLine?_render_of_short hcolon hline hshort)
  rw [lineReferences, Reading.found, hread]
  simp only [List.filter_map, List.map_map]
  rfl

theorem lineReferences_render_of_long (hcolon : ':' ∉ h.path) (hline : 0 ≤ h.line)
    (hlong : Text.digitLimit < h.digits.length) (normalizes : Bool) (base : Path) (id : String) :
    lineReferences normalizes base id h.render = [] := by
  have hread := ofLine?_render_of_long hcolon hline hlong
  simp [lineReferences, Reading.found, readingOf, hread, Except.toOption]

/-- If no part of its path passes for a hit, a hit has only places in its text. -/
theorem exists_url_of_mem_lineReferences (hpath : ¬ IsNumbered (h.path ++ [':']))
    (hline : 0 ≤ h.line) (hplace : place ∈ lineReferences normalizes base id h.render) :
    ∃ u ∈ findAll h.text, ReferenceTable.Counts normalizes id u.identifier ∧
      place = Reading.reference base h u := by
  by_cases hcolon : ':' ∈ h.path
  · have hnumbered : ¬ IsNumbered h.render := by
      rw [render_eq]
      exact fun hnumbered => hpath (isNumbered_of_append hnumbered hcolon)
    simp [lineReferences_of_not_isNumbered hnumbered] at hplace
  by_cases hshort : h.digits.length ≤ Text.digitLimit
  · rw [lineReferences_render hcolon hline hshort] at hplace
    obtain ⟨u, hu, rfl⟩ := List.mem_map.1 hplace
    obtain ⟨hfound, hcounts⟩ := List.mem_filter.1 hu
    exact ⟨u, hfound, by simpa using hcounts, rfl⟩
  · rw [lineReferences_render_of_long hcolon hline (Nat.lt_of_not_le hshort)] at hplace
    simp at hplace

/-! ## All lines of a hit -/

/-- The places that the lines of a hit give for an identifier. -/
def places (normalizes : Bool) (base : Path) (id : String) (h : Hit) : List Reference :=
  (Text.filledLines h.render).flatMap (lineReferences normalizes base id)

def onFirstLine (h : Hit) : Hit := { h with text := (Text.boundaryLines h.text).headD [] }

/-- Whether no part of a hit passes for another one: not the beginning of its path, and no line of
its text but the first, which stands behind the path. -/
structure IsUnmistakable (h : Hit) : Prop where
  path_line : Text.IsLine h.path
  path_plain : ¬ IsNumbered (h.path ++ [':'])
  text_plain : ∀ line ∈ (Text.boundaryLines h.text).tail, ¬ IsNumbered line
  line_nonneg : 0 ≤ h.line

theorem boundaryLines_render (hpath : Text.IsLine h.path) (hline : 0 ≤ h.line) :
    Text.boundaryLines h.render = h.onFirstLine.render :: (Text.boundaryLines h.text).tail := by
  rw [render_eq_label, Text.boundaryLines_append_of_isLine (isLine_label hpath hline) h.label_ne,
    render_eq_label]
  rfl

theorem places_of_isUnmistakable (hu : h.IsUnmistakable) (normalizes : Bool) (base : Path)
    (id : String) :
    h.places normalizes base id = lineReferences normalizes base id h.onFirstLine.render := by
  have hlater : ((Text.boundaryLines h.text).tail.filter (!·.isEmpty)).flatMap
      (lineReferences normalizes base id) = [] := by
    refine List.flatMap_eq_nil_iff.2 fun line hline => ?_
    exact lineReferences_of_not_isNumbered (hu.text_plain line (List.mem_of_mem_filter hline)) ..
  have hfirst : (!h.onFirstLine.render.isEmpty) = true := by simp [render_ne]
  rw [places, Text.filledLines, boundaryLines_render hu.path_line hu.line_nonneg, List.filter_cons,
    if_pos hfirst, List.flatMap_cons, hlater, List.append_nil]

/-- The places that a hit gives are those of URLs in its text. -/
theorem exists_url_of_mem_places (hu : h.IsUnmistakable)
    (hplace : place ∈ h.places normalizes base id) :
    ∃ (before : List Char) (u : Written) (after : List Char), h.text = before ++ (u.text ++ after) ∧
      ReferenceTable.Counts normalizes id u.identifier ∧
      place = ⟨base.join (.ofString (String.ofList h.path)), h.line, before.length,
        u.text.length⟩ := by
  rw [places_of_isUnmistakable hu] at hplace
  obtain ⟨v, hv, hcounts, rfl⟩ :=
    exists_url_of_mem_lineReferences (h := h.onFirstLine) hu.path_plain hu.line_nonneg hplace
  obtain ⟨u, before, after, hsplit, rfl⟩ := ComponentUrl.exists_append_of_mem_findAll hv
  obtain ⟨later, hlater⟩ := Text.headD_boundaryLines_prefix h.text
  have htext : h.text = before ++ (u.text ++ (after ++ later)) := by
    rw [← hlater, show (Text.boundaryLines h.text).headD [] = _ from hsplit]
    simp only [List.append_assoc]
  refine ⟨before, u, after ++ later, htext, hcounts, ?_⟩
  simp [Reading.reference, Written.found, ComponentUrl.length, onFirstLine]

end Hit

/-! ## The output that reports hits -/

variable {hits : List Hit} {ending : List Char} {r : PassResult ReferenceTable}

theorem filledLines_written (hending : ending = [] ∨ ending = ['\n']) (hits : List Hit) :
    Text.filledLines (written hits ending) = hits.flatMap fun h => Text.filledLines h.render := by
  have hopen : Text.filledLines (List.intercalate ['\n'] (hits.map Hit.render)) =
      hits.flatMap fun h => Text.filledLines h.render := by
    rw [Text.filledLines_intercalate, List.flatMap_map]
  rcases hending with rfl | rfl
  · rw [written, List.append_nil, hopen]
  · rw [written, Text.filledLines_append_newline, hopen]
    exact List.append_nil _

/-- What is recorded is what the hits give, one after the other, whatever they are. -/
theorem recorded_written (hending : ending = [] ∨ ending = ['\n'])
    (hr : parse settings base (written hits ending) = .ok r) (id : String) :
    recorded r id = hits.flatMap (Hit.places settings.normalizesSeparators base id) := by
  rw [recorded_of_parse hr, filledLines_written hending, List.flatMap_assoc]
  rfl

theorem exists_parse_of_readLines {output : List Char} (hread : (readLines output).isOk = true) :
    ∃ r, parse settings base output = .ok r := by
  cases hlines : readLines output with
  | error e => simp [hlines, Except.isOk, Except.toBool] at hread
  | ok rs => exact ⟨_, by rw [parse, hlines]; rfl⟩

/-- What is recorded for an output is what its hits give, one after the other. Each recorded place
is given by a hit, and unless a part of this hit passes for another one, it is in the file and the
line that the hit names, and its column and its length select a URL in the text of the hit. -/
theorem exists_hit_of_mem_recorded (hending : ending = [] ∨ ending = ['\n'])
    (hr : parse settings base (written hits ending) = .ok r) (id : String) :
    recorded r id = hits.flatMap (Hit.places settings.normalizesSeparators base id) ∧
    ∀ place ∈ recorded r id, ∃ h ∈ hits,
      place ∈ h.places settings.normalizesSeparators base id ∧
      (h.IsUnmistakable →
        place.source = base.join (.ofString (String.ofList h.path)) ∧ place.line = h.line ∧
        ∃ (before : List Char) (u : Written) (after : List Char),
          h.text = before ++ (u.text ++ after) ∧
          place.column = before.length ∧ place.length = u.text.length ∧
          ReferenceTable.Counts settings.normalizesSeparators id u.identifier) := by
  have hrecorded := recorded_written hending hr id
  refine ⟨hrecorded, ?_⟩
  intro place hplace
  rw [hrecorded] at hplace
  obtain ⟨h, hmem, hplace⟩ := List.mem_flatMap.1 hplace
  refine ⟨h, hmem, hplace, ?_⟩
  intro hu
  obtain ⟨before, u, after, htext, hcounts, rfl⟩ := Hit.exists_url_of_mem_places hu hplace
  exact ⟨rfl, rfl, before, u, after, htext, rfl, rfl, hcounts⟩

/-- The path is cut at its first two colons if there is a number between them. -/
example : (Hit.mk "a:5:b".toList 2 "fuchsia-pkg://fuchsia.com/n#meta/c.cm".toList).places false
    (.ofString "/fuchsia") "n/c" = [⟨.ofString "/fuchsia/a", 4, 4, 37⟩] := by
  decide +kernel

/-- A hit with a carriage return in its text, behind which no number stands between colons. -/
def carriageHit : Hit :=
  ⟨"a.cc".toList, 2, "x fuchsia-pkg://fuchsia.com/n#meta/c.cm\ry:z:".toList⟩

theorem isUnmistakable_carriageHit : carriageHit.IsUnmistakable where
  path_line := by decide
  path_plain := by decide
  text_plain := by decide +kernel
  line_nonneg := by decide

/-- The place of its URL is recorded, and it is where the hit says. -/
theorem recorded_carriageHit :
    carriageHit.IsUnmistakable ∧
    ∃ r, parse {} (.ofString "/fuchsia") (written [carriageHit] ['\n']) = .ok r ∧
      recorded r "n/c" = [⟨.ofString "/fuchsia/a.cc", 2, 2, 37⟩] ∧
      ∃ (before : List Char) (u : Written) (after : List Char),
        carriageHit.text = before ++ (u.text ++ after) ∧ before.length = 2 ∧
        u.text.length = 37 ∧ u.identifier = "n/c" := by
  obtain ⟨r, hr⟩ : ∃ r, parse {} (.ofString "/fuchsia") (written [carriageHit] ['\n']) = .ok r :=
    exists_parse_of_readLines (by decide +kernel)
  obtain ⟨hrecorded, hplaces⟩ := exists_hit_of_mem_recorded (.inr rfl) hr "n/c"
  have hplace : [carriageHit].flatMap (Hit.places false (.ofString "/fuchsia") "n/c") =
      [⟨.ofString "/fuchsia/a.cc", 2, 2, 37⟩] := by
    decide +kernel
  replace hrecorded := hrecorded.trans hplace
  obtain ⟨h, hmem, -, horigin⟩ := hplaces _ (hrecorded ▸ List.mem_singleton_self _)
  obtain rfl := List.mem_singleton.1 hmem
  obtain ⟨-, -, before, u, after, htext, hcolumn, hlength, hcounts⟩ :=
    horigin isUnmistakable_carriageHit
  have hidentifier : u.identifier = "n/c" := by simpa [ReferenceTable.Counts] using hcounts
  exact ⟨isUnmistakable_carriageHit, r, hr, hrecorded, before, u, after, htext,
    Int.ofNat_inj.1 hcolumn.symm, Int.ofNat_inj.1 hlength.symm, hidentifier⟩

/-- A hit with a form feed in its text, and behind it what another hit looks like. -/
def formFeedHit : Hit := ⟨"a.cc".toList, 2, "\x0cb:7:fuchsia-pkg://fuchsia.com/n#meta/c.cm".toList⟩

/-- Recorded is a place in a file and a line that the hit does not name. -/
theorem recorded_formFeedHit :
    '\n' ∉ formFeedHit.path ∧ '\n' ∉ formFeedHit.text ∧ 0 ≤ formFeedHit.line ∧
    ∃ r, parse {} (.ofString "/fuchsia") (written [formFeedHit] []) = .ok r ∧
      recorded r "n/c" = [⟨.ofString "/fuchsia/b", 6, 0, 37⟩] ∧
      ¬ ∀ place ∈ recorded r "n/c", ∃ h ∈ [formFeedHit],
        place.source = (Path.ofString "/fuchsia").join (.ofString (String.ofList h.path)) ∧
        place.line = h.line := by
  obtain ⟨r, hr⟩ : ∃ r, parse {} (.ofString "/fuchsia") (written [formFeedHit] []) = .ok r :=
    exists_parse_of_readLines (by decide +kernel)
  have hplace : [formFeedHit].flatMap (Hit.places false (.ofString "/fuchsia") "n/c") =
      [⟨.ofString "/fuchsia/b", 6, 0, 37⟩] := by
    decide +kernel
  have hrecorded := (recorded_written (.inl rfl) hr "n/c").trans hplace
  refine ⟨by decide, by decide +kernel, by decide, r, hr, hrecorded, ?_⟩
  intro hclaimed
  obtain ⟨h, hmem, -, hline⟩ := hclaimed _ (hrecorded ▸ List.mem_singleton_self _)
  obtain rfl := List.mem_singleton.1 hmem
  exact absurd hline (by decide)

end ComponentLinks.Search
