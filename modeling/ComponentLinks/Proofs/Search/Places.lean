import ComponentLinks.Proofs.Search.Output
import ComponentLinks.Proofs.Url
import Mathlib.Algebra.Ring.Nat

/-!
# The places in an output

An output that reports hits is read with success if there is a URL in their texts. Its table gives
for each identifier one place for every URL that names it, hit after hit and from left to right. The
only condition is that the line numbers are not too long to be read.

## Main definitions

* `Search.placesOf`: the places of the URLs of hits that name an identifier.
* `Search.parse_written_eq_placesOf`: what reading the output of hits gives.
* `Search.farHit`: a hit whose line number is too long.
-/
namespace ComponentLinks.Search

/-- The places of the URLs of hits that name an identifier, hit after hit and in order of
appearance. -/
def placesOf (base : Path) (hits : List Hit) (id : String) : List Reference :=
  hits.flatMap fun h => ((ComponentUrl.findAll h.text).filter fun u => u.identifier = id).map
    (Reading.reference base h)

/-- Where hyphens are not read as underscores, the places of an identifier are recorded for it. -/
theorem recordedFor_false_foundInHits (base : Path) (hits : List Hit) (id : String) :
    ReferenceTable.recordedFor false ((foundInHits base hits).map
      fun x => (x.1.identifier, x.2)) id = placesOf base hits id := by
  rw [recordedFor_foundInHits, placesOf]
  simp [ReferenceTable.Counts]

theorem foundInHits_ne_nil {base : Path} {hits : List Hit}
    (h : ∃ h ∈ hits, ComponentUrl.findAll h.text ≠ []) : foundInHits base hits ≠ [] := by
  obtain ⟨h, hmem, hne⟩ := h
  obtain ⟨u, hu⟩ := List.exists_mem_of_ne_nil _ hne
  exact List.ne_nil_of_mem
    (List.mem_flatMap.2 ⟨h, hmem, List.mem_map.2 ⟨u, hu, rfl⟩⟩)

theorem length_foundInHits (base : Path) (hits : List Hit) :
    (foundInHits base hits).length =
      (hits.map fun h => (ComponentUrl.findAll h.text).length).sum := by
  simp [foundInHits, List.length_flatMap]

/-- Let hits be written on lines, each with a path without a colon. If no line number is too long,
and some text holds a URL, the output is read with success. Its table gives for each identifier its
places, none for an identifier without a URL, and as many places as there are URLs; the URLs of a
text do not overlap, and each is what the text holds at its place. If some line number is too long,
reading the output is the fault of the first such number. -/
theorem parse_written_eq_placesOf (settings : Settings) (base : Path) {hits : List Hit}
    {ending : List Char} (hhits : ∀ h ∈ hits, h.IsPlain)
    (hending : ending = [] ∨ ending = ['\n']) :
    let plain := { settings with normalizesSeparators := false }
    ((∀ h ∈ hits, h.digits.length ≤ Text.digitLimit) →
      (∃ h ∈ hits, ComponentUrl.findAll h.text ≠ []) →
      ∃ r table, parse plain base (written hits ending) = .ok r ∧ r.outcome.success = true ∧
        r.table = some table ∧
        (∀ id, table.references? id =
          if placesOf base hits id = [] then none else some (placesOf base hits id)) ∧
        table.referenceCount = (hits.map fun h => (ComponentUrl.findAll h.text).length).sum ∧
        ∀ h ∈ hits,
          (ComponentUrl.findAll h.text).Pairwise (fun u v => u.start + u.length ≤ v.start) ∧
          ∀ u ∈ ComponentUrl.findAll h.text,
            (h.text.drop u.start).take u.length = u.url.toList) ∧
    ((∃ h ∈ hits, Text.digitLimit < h.digits.length) →
      ∃ before h after, hits = before ++ h :: after ∧
        (∀ k ∈ before, k.digits.length ≤ Text.digitLimit) ∧ Text.digitLimit < h.digits.length ∧
        parse plain base (written hits ending) = .error (.tooLong h.digits.length)) := by
  intro plain
  refine ⟨fun hshort hfound => ?_, fun hlong => ?_⟩
  swap
  · obtain ⟨before, h, after, rfl, hbefore, hh⟩ := exists_first_long hlong
    exact ⟨before, h, after, rfl, hbefore, hh, parse_written_of_long hhits hending hbefore hh⟩
  have hreported : ∀ h ∈ hits, h.IsReported := fun h hmem => ⟨hhits h hmem, hshort h hmem⟩
  obtain ⟨r, hr, hsuccess, htable⟩ : ∃ r, parse plain base (written hits ending) = .ok r ∧ _ :=
    parse_written hreported hending (foundInHits_ne_nil hfound)
  refine ⟨r, _, hr, hsuccess, htable, fun id => ?_, ?_, fun h _ => ?_⟩
  · rw [ReferenceTable.references?_ofList, recordedFor_false_foundInHits]
  · rw [ReferenceTable.referenceCount_ofList, List.length_map, length_foundInHits]
  · exact ⟨ComponentUrl.pairwise_findAll h.text, fun u => ComponentUrl.take_drop_of_mem_findAll⟩

/-- Two hits with three URLs, two of them in a text that begins like a hit itself. -/
def openingHits : List Hit :=
  [⟨"src/a.cc".toList, 11,
      "12:34: fuchsia-pkg://fuchsia.com/n#meta/c.cmx, ".toList ++
        "fuchsia-pkg://fuchsia.com/n?v=1#meta/d.cm".toList⟩,
    ⟨"b".toList, 0, "(fuchsia-pkg://fuchsia.com/n#meta/c.cm)".toList⟩]

theorem isPlain_openingHits : ∀ h ∈ openingHits, h.IsPlain := by decide +kernel

theorem parse_openingHits :
    (∀ h ∈ openingHits, h.IsPlain) ∧ (∀ h ∈ openingHits, h.digits.length ≤ Text.digitLimit) ∧
      (∃ h ∈ openingHits, ComponentUrl.findAll h.text ≠ []) ∧
      ∃ r table, parse {} (.ofString "/fuchsia") (written openingHits []) = .ok r ∧
        r.outcome.success = true ∧ r.table = some table ∧
        table.references? "n/c" = some [⟨.ofString "/fuchsia/src/a.cc", 11, 7, 38⟩,
          ⟨.ofString "/fuchsia/b", 0, 1, 37⟩] ∧
        table.references? "n/d" = some [⟨.ofString "/fuchsia/src/a.cc", 11, 47, 41⟩] ∧
        table.references? "n/e" = none ∧ table.referenceCount = 3 := by
  have hplaces : ["n/c", "n/d", "n/e"].map (placesOf (.ofString "/fuchsia") openingHits) =
      [[⟨.ofString "/fuchsia/src/a.cc", 11, 7, 38⟩, ⟨.ofString "/fuchsia/b", 0, 1, 37⟩],
        [⟨.ofString "/fuchsia/src/a.cc", 11, 47, 41⟩], []] := by
    decide +kernel
  have hcount : (openingHits.map fun h => (ComponentUrl.findAll h.text).length).sum = 3 := by
    decide +kernel
  have hshort : ∀ h ∈ openingHits, h.digits.length ≤ Text.digitLimit := by decide +kernel
  have hfound : ∃ h ∈ openingHits, ComponentUrl.findAll h.text ≠ [] := by decide +kernel
  obtain ⟨r, table, hr, hsuccess, htable, hreferences, hcounted, -⟩ :=
    (parse_written_eq_placesOf {} (.ofString "/fuchsia") isPlain_openingHits (.inl rfl)).1
      hshort hfound
  simp only [List.map_cons, List.map_nil, List.cons.injEq, and_true] at hplaces
  obtain ⟨hc, hd, he⟩ := hplaces
  refine ⟨isPlain_openingHits, hshort, hfound, r, table, hr, hsuccess, htable, ?_, ?_, ?_, ?_⟩
  · rw [hreferences, hc]
    rfl
  · rw [hreferences, hd]
    rfl
  · rw [hreferences, he]
    rfl
  · rw [hcounted, hcount]

def urlText : List Char := "fuchsia-pkg://fuchsia.com/n#meta/c.cm".toList

/-- A hit with a URL on the line whose number is a power of ten. -/
def farHit (k : Nat) : Hit := ⟨['a'], (10 ^ k : Nat) - 1, urlText⟩

theorem isPlain_farHit (k : Nat) : (farHit k).IsPlain := by
  have hpath : Text.IsLine ['a'] := by decide
  have htext : Text.IsLine urlText := by decide +kernel
  have hpos : 0 < 10 ^ k := Nat.pow_pos (by omega)
  refine ⟨by simp [farHit], hpath, htext, ?_⟩
  simp only [farHit]
  omega

theorem length_digits_farHit (k : Nat) : (farHit k).digits.length = k + 1 := by
  obtain ⟨n, hn, hdigits⟩ := Hit.exists_toDigits (isPlain_farHit k).line_nonneg
  obtain rfl : n = 10 ^ k := by
    simp only [farHit] at hn
    omega
  rw [hdigits, Text.length_toDigits_pow]

/-- A hit with a URL, whose line number has one digit too many, is a fault. -/
theorem parse_farHit :
    (farHit Text.digitLimit).IsPlain ∧
      (farHit Text.digitLimit).line + 1 = (10 ^ Text.digitLimit : Nat) ∧
      ComponentUrl.findAll (farHit Text.digitLimit).text ≠ [] ∧
      parse {} (.ofString "/fuchsia") (written [farHit Text.digitLimit] []) =
        .error (.tooLong (Text.digitLimit + 1)) := by
  generalize hk : Text.digitLimit = k
  have hplain : ∀ h ∈ [farHit k], h.IsPlain := by simpa using isPlain_farHit k
  have hlong : Text.digitLimit < (farHit k).digits.length := by
    rw [length_digits_farHit]
    omega
  have hurl : ComponentUrl.findAll urlText ≠ [] := by decide +kernel
  have hparse : parse {} (.ofString "/fuchsia") (written [farHit k] []) =
      .error (.tooLong (farHit k).digits.length) := by
    rw [← List.nil_append [farHit k]] at hplain ⊢
    exact parse_written_of_long hplain (.inl rfl) (by simp) hlong
  refine ⟨isPlain_farHit k, by simp only [farHit]; omega, hurl, ?_⟩
  rw [hparse, length_digits_farHit]

end ComponentLinks.Search
