import ComponentLinks.Location
import ComponentLinks.Proofs.Text.Boundaries
import ComponentLinks.Proofs.Url.Scan

/-!
# URLs found line by line

Scanning each line of a text by itself finds the URLs that the scan of the whole text finds, each
where it stands, as long as they stand on one line. The query of a URL may go on over several lines.
Such a URL is not found line by line; instead of it, the URL is found that is written in its last
line, if there is one.

## Main definitions

* `ComponentUrl.inLastLine`, `ComponentUrl.lineUrls`: what is found line by line.
* `ComponentUrl.placesInText`, `ComponentUrl.placesInLines`: the places of URLs in both scans.
* `ComponentUrl.placesInText_eq_placesInLines`: the scans agree.
-/
namespace ComponentLinks

namespace Position

@[simp] theorem advance_zero (p : Position) (cs : List Char) : p.advance cs 0 = p := by
  cases cs <;> rfl

/-- The position after a text is where the text that follows it is read from. -/
theorem advance_append (p : Position) (xs rest : List Char) (n : Nat) :
    p.advance (xs ++ rest) (xs.length + n) = (p.advance xs xs.length).advance rest n := by
  induction xs generalizing p with
  | nil => simp
  | cons x xs ih =>
    rw [List.length_cons, Nat.add_right_comm, List.cons_append, advance, advance]
    split <;> exact ih _

theorem advance_of_not_mem {xs : List Char} (h : '\n' ∉ xs) (p : Position) (rest : List Char)
    {n : Nat} (hn : n ≤ xs.length) : p.advance (xs ++ rest) n = ⟨p.line, p.character + n⟩ := by
  induction xs generalizing p n with
  | nil =>
    obtain rfl : n = 0 := by simpa using hn
    simp
  | cons x xs ih =>
    rw [List.mem_cons, not_or] at h
    obtain ⟨hx, hxs⟩ := h
    cases n with
    | zero => simp
    | succ n =>
      rw [List.cons_append, advance, if_neg (Ne.symm hx), ih hxs _ (by simpa using hn)]
      congr 1
      dsimp only
      omega

theorem advance_newline (p : Position) (xs : List Char) :
    p.advance (xs ++ ['\n']) (xs.length + 1) = ⟨p.line + (xs.splitOn '\n').length, 0⟩ := by
  induction xs generalizing p with
  | nil => simp [advance]
  | cons x xs ih =>
    rw [List.length_cons, List.cons_append, advance, List.splitOn_cons_eq_if_modifyHead]
    by_cases hx : x = '\n'
    · rw [if_pos hx, if_pos (by simpa using hx), ih, List.length_cons]
      congr 1
      dsimp only
      omega
    · rw [if_neg hx, ih]
      simp [hx]

end Position

/-! ## Lines between newlines -/

namespace Text

/-- The first line of a text, and what follows it. -/
theorem exists_splitOn_newline (cs : List Char) :
    ∃ line lines tail, cs.splitOn '\n' = line :: lines ∧ cs = line ++ tail ∧
      ∀ c ∈ tail.head?, c = '\n' := by
  induction cs with
  | nil => exact ⟨[], [], [], rfl, rfl, by simp⟩
  | cons c cs ih =>
    rw [List.splitOn_cons_eq_if_modifyHead]
    by_cases hc : c = '\n'
    · exact ⟨[], cs.splitOn '\n', c :: cs, by simp [hc], rfl, by simp [hc]⟩
    · obtain ⟨line, lines, tail, hlines, rfl, htail⟩ := ih
      exact ⟨c :: line, lines, tail, by simp [hc, hlines], rfl, htail⟩

theorem splitOn_append_of_not_mem {xs : List Char} (h : '\n' ∉ xs) (cs : List Char) :
    (xs ++ cs).splitOn '\n' = (cs.splitOn '\n').modifyHead (xs ++ ·) := by
  obtain ⟨line, lines, -, hlines, -⟩ := exists_splitOn_newline cs
  rw [hlines]
  induction xs with
  | nil => exact hlines
  | cons x xs ih =>
    rw [List.mem_cons, not_or] at h
    rw [List.cons_append, List.splitOn_cons_eq_if_modifyHead, ih h.2]
    simp [Ne.symm h.1]

theorem lastLine_append_boundary {c : Char} (hc : isLineBoundary c = true) (xs : List Char)
    {line : List Char} (h : IsLine line) : lastLine (xs ++ c :: line) = line := by
  have hall : ∀ d ∈ line.reverse, (!isLineBoundary d) = true := by
    intro d hd
    simp [h d (List.mem_reverse.1 hd)]
  rw [lastLine, List.reverse_append, List.reverse_cons, List.append_assoc,
    List.takeWhile_append_of_pos hall]
  simp [hc]

end Text

namespace ComponentUrl

variable {source : Path} {k col n : Nat} {last : Option Char} {cs rest xs : List Char}
  {u : ComponentUrl}

/-! ## What is found line by line -/

/-- What is found instead of a URL when the lines of the text are scanned by themselves: the URL
itself, if it stands on one line, and otherwise the URL in its last line, if there is one. -/
def inLastLine (u : ComponentUrl) : List ComponentUrl :=
  if '\n' ∈ u.url.toList then
    (findAll (Text.lastLine u.url.toList)).map
      (shift (u.start + (u.length - (Text.lastLine u.url.toList).length)))
  else [u]

/-- The URLs found line by line in a text. -/
def lineUrls (text : List Char) : List ComponentUrl := (findAll text).flatMap inLastLine

/-- Where every URL stands on one line, all of them are found. -/
theorem lineUrls_of_forall_not_mem (h : ∀ u ∈ findAll cs, '\n' ∉ u.url.toList) :
    lineUrls cs = findAll cs := by
  have hself : ∀ u ∈ findAll cs, inLastLine u = [u] := fun u hu => if_neg (h u hu)
  rw [lineUrls, List.flatMap_congr hself, List.flatMap_singleton']

theorem length_inLastLine_le_one (h : u ∈ findAll cs) : (inLastLine u).length ≤ 1 := by
  obtain ⟨w, hw⟩ := exists_url_eq_of_mem_findFrom h
  have hcount : (Text.lastLine w.text).count '#' ≤ 1 := by
    rw [← w.count_fragment_text]
    exact (Text.lastLine_suffix w.text).sublist.count_le '#'
  rw [inLastLine, hw]
  split
  · rw [List.length_map]
    exact Nat.le_trans (length_findFrom_le_count 0 none _) hcount
  · exact Nat.le_refl 1

theorem inLastLine_shift (n : Nat) (u : ComponentUrl) :
    inLastLine (shift n u) = (inLastLine u).map (shift n) := by
  unfold inLastLine
  rw [show (shift n u).url = u.url from rfl, show (shift n u).length = u.length from rfl]
  split
  · rw [List.map_map]
    congr 1
    funext v
    simp only [Function.comp_apply, shift]
    congr 1 <;> omega
  · rfl

def placed (source : Path) (p : Position) (u : ComponentUrl) : String × Reference :=
  (u.identifier, ⟨source, p.line, p.character, u.length⟩)

/-- What is found line by line in a text that is read from the position `p` on, after the character
`last`, by the positions in the text. -/
def placesInText (source : Path) (p : Position) (last : Option Char) (cs : List Char) :
    List (String × Reference) :=
  ((findFrom 0 last cs).flatMap inLastLine).map fun u => placed source (p.advance cs u.start) u

/-- What is found in lines that are scanned by themselves. The first one has the number `k`, and is
read from its character `col` on, after the character `last`. -/
def placesInLines (source : Path) (k col : Nat) (last : Option Char) :
    List (List Char) → List (String × Reference)
  | [] => []
  | line :: lines =>
    (findFrom col last line).map (fun u => placed source ⟨k, u.start⟩ u) ++
      placesInLines source (k + 1) 0 none lines

/-- The URLs that begin after a part of a text have their places in what follows. -/
theorem placesInText_append (source : Path) (p : Position) {before : List ComponentUrl}
    {last' : Option Char}
    (h : findFrom 0 last (xs ++ rest) = before ++ findFrom xs.length last' rest) :
    placesInText source p last (xs ++ rest) =
      (before.flatMap inLastLine).map
          (fun u => placed source (p.advance (xs ++ rest) u.start) u) ++
        placesInText source (p.advance xs xs.length) last' rest := by
  have hshift : findFrom xs.length last' rest = (findFrom 0 last' rest).map (shift xs.length) := by
    rw [← findFrom_add, Nat.zero_add]
  rw [placesInText, h, List.flatMap_append, List.map_append, hshift, List.flatMap_map]
  simp only [inLastLine_shift]
  rw [← List.map_flatMap, List.map_map]
  congr 2
  funext u
  simp only [Function.comp_apply]
  rw [show (shift xs.length u).start = xs.length + u.start from Nat.add_comm _ _,
    Position.advance_append]
  rfl

/-- Lines without a fragment hold no URL. -/
theorem placesInLines_append {lines : List (List Char)} (hlines : ∀ l ∈ lines, '#' ∉ l)
    (hne : lines ≠ []) (more : List (List Char)) :
    placesInLines source k col last (lines ++ more) =
      placesInLines source (k + lines.length) 0 none more := by
  induction lines generalizing k col last with
  | nil => exact absurd rfl hne
  | cons l lines ih =>
    rw [List.cons_append, placesInLines, findFrom_of_not_mem (hlines l (by simp)), List.map_nil,
      List.nil_append, List.length_cons]
    cases lines with
    | nil => rfl
    | cons l' lines =>
      rw [ih (fun l hl => hlines l (by simp [hl])) (by simp)]
      congr 1
      omega

/-! ## The scans agree -/

section Hit

variable {u : Written}

theorem placesInText_of_line (hline : '\n' ∉ u.text) (hlast : ∀ c ∈ last, Text.isWord c = false)
    (hrest : ∀ c ∈ rest.head?, Text.isWord c = false) :
    placesInText source ⟨k, col⟩ last (u.text ++ rest) =
      placed source ⟨k, col⟩ (u.found col) ::
        placesInText source ⟨k, (col + u.text.length : Nat)⟩ (lastAfter last u.text) rest := by
  have hfind : findFrom 0 last (u.text ++ rest) =
      [u.found 0] ++ findFrom u.text.length (lastAfter last u.text) rest := by
    rw [findFrom_hit u hlast hrest, Nat.zero_add]
    rfl
  have hself : inLastLine (u.found 0) = [u.found 0] := if_neg (by simpa [Written.found] using hline)
  have hafter := Position.advance_of_not_mem hline ⟨k, col⟩ [] (Nat.le_refl _)
  rw [List.append_nil] at hafter
  rw [placesInText_append source _ hfind, List.flatMap_singleton, hself, List.map_singleton, hafter,
    show (u.found 0).start = 0 from rfl, Position.advance_zero]
  rfl

theorem placesInLines_of_line (hline : '\n' ∉ u.text)
    (hlast : ∀ c ∈ last, Text.isWord c = false)
    (hrest : ∀ c ∈ rest.head?, Text.isWord c = false) :
    placesInLines source k col last ((u.text ++ rest).splitOn '\n') =
      placed source ⟨k, col⟩ (u.found col) ::
        placesInLines source k (col + u.text.length) (lastAfter last u.text)
          (rest.splitOn '\n') := by
  obtain ⟨line, lines, tail, hlines, rfl, -⟩ := Text.exists_splitOn_newline rest
  rw [Text.splitOn_append_of_not_mem hline, hlines, List.modifyHead_cons, placesInLines,
    placesInLines, findFrom_hit u hlast (isWord_head?_of_append hrest)]
  rfl

/-- A URL over several lines: the last one of them is scanned by itself. -/
theorem placesInText_of_lines {line : List Char} (hu : u.text = xs ++ '\n' :: line)
    (hline : Text.IsLine line) (hlast : ∀ c ∈ last, Text.isWord c = false)
    (hrest : ∀ c ∈ rest.head?, Text.isWord c = false) :
    placesInText source ⟨k, col⟩ last (u.text ++ rest) =
      (findAll line).map
          (fun v => placed source ⟨(k + (xs.splitOn '\n').length : Nat), v.start⟩ v) ++
        placesInText source ⟨(k + (xs.splitOn '\n').length : Nat), line.length⟩
          (lastAfter last u.text) rest := by
  have hnewline : '\n' ∉ line := fun h => absurd (hline _ h) (by decide)
  have hfind : findFrom 0 last (u.text ++ rest) =
      [u.found 0] ++ findFrom u.text.length (lastAfter last u.text) rest := by
    rw [findFrom_hit u hlast hrest, Nat.zero_add]
    rfl
  have hstart : Position.advance ⟨k, col⟩ (xs ++ ['\n']) (xs ++ ['\n']).length =
      ⟨(k + (xs.splitOn '\n').length : Nat), 0⟩ := by
    rw [List.length_append, List.length_singleton, Position.advance_newline]
    rfl
  have hsplit : u.text = (xs ++ ['\n']) ++ line := by simp [hu]
  have hplace (n : Nat) (hn : n ≤ line.length) (more : List Char) :
      Position.advance ⟨k, col⟩ (u.text ++ more) ((xs ++ ['\n']).length + n) =
        ⟨(k + (xs.splitOn '\n').length : Nat), n⟩ := by
    rw [hsplit, List.append_assoc, Position.advance_append, hstart,
      Position.advance_of_not_mem hnewline _ _ hn, Int.zero_add]
  have hinside : inLastLine (u.found 0) = (findAll line).map (shift (xs ++ ['\n']).length) := by
    have htext : (u.found 0).url.toList = xs ++ '\n' :: line := by
      rw [Written.found, String.toList_ofList, hu]
    have hlength : 0 + ((xs ++ '\n' :: line).length - line.length) = (xs ++ ['\n']).length := by
      simp only [List.length_append, List.length_cons, List.length_nil]
      omega
    rw [inLastLine, ComponentUrl.length, htext, if_pos (by simp),
      Text.lastLine_append_boundary (by decide) xs hline, show (u.found 0).start = 0 from rfl,
      hlength]
  -- The scan goes on after the URL, which is where its last line ends.
  have hafter := hplace line.length (Nat.le_refl _) []
  rw [List.append_nil, ← List.length_append, ← hsplit] at hafter
  rw [placesInText_append source _ hfind, List.flatMap_singleton, hinside, hafter, List.map_map]
  congr 1
  refine List.map_congr_left fun v hv => ?_
  have hv' : v.start ≤ line.length := by simpa using start_le_of_mem_findFrom hv
  rw [Function.comp_apply, show (shift (xs ++ ['\n']).length v).start = _ from Nat.add_comm _ _,
    hplace _ hv']
  rfl

theorem placesInLines_of_lines {line : List Char} (hu : u.text = xs ++ '\n' :: line)
    (hline : '\n' ∉ line) (hrest : ∀ c ∈ rest.head?, Text.isWord c = false) :
    placesInLines source k col last ((u.text ++ rest).splitOn '\n') =
      (findAll line).map
          (fun v => placed source ⟨(k + (xs.splitOn '\n').length : Nat), v.start⟩ v) ++
        placesInLines source (k + (xs.splitOn '\n').length) line.length (lastAfter last u.text)
          (rest.splitOn '\n') := by
  obtain ⟨hxs, hmem⟩ := u.fragment_of_lines hu
  obtain ⟨l, ls, tail, hlines, rfl, -⟩ := Text.exists_splitOn_newline rest
  have hlast : lastAfter none line = lastAfter last u.text := by
    obtain ⟨d, ds, rfl⟩ := List.exists_cons_of_ne_nil (List.ne_nil_of_mem hmem)
    rw [hu, lastAfter_append, lastAfter_cons, lastAfter_cons, lastAfter_cons]
  have hfind : findFrom 0 none (line ++ l) =
      findAll line ++ findFrom line.length (lastAfter last u.text) l := by
    rw [← hlast, ← Nat.zero_add line.length]
    refine findFrom_append (isWord_head?_of_append hrest) ?_ 0 none
    rintro ys zs rfl hzs v cs hcs
    have hsuffix : u.text = (xs ++ '\n' :: ys) ++ zs := by simp [hu]
    exact Written.length_le_of_suffix hsuffix hzs (isWord_head?_of_append hrest) hcs
  rw [hu, List.append_assoc, List.cons_append, List.splitOn_append_cons_self,
    placesInLines_append (fun l hl hmem => hxs (Text.mem_and_ne_of_mem_splitOn hl hmem).1)
      (List.splitOn_ne_nil _ _),
    Text.splitOn_append_of_not_mem hline, hlines, List.modifyHead_cons, placesInLines, hfind,
    placesInLines, List.map_append, List.append_assoc, ← hu]

end Hit

/-- What is found line by line in a text with no boundaries other than newlines is what the scan of
the whole text finds, in the same order and at the same places, where a URL over several lines is
replaced by the one in its last line. -/
theorem placesInText_eq_placesInLines (source : Path)
    (hcs : ∀ c ∈ cs, Text.isLineBoundary c = true → c = '\n') (k col : Nat)
    (last : Option Char) :
    placesInText source ⟨k, col⟩ last cs =
      placesInLines source k col last (cs.splitOn '\n') := by
  induction last, cs using scan_induction generalizing k col with
  | nil last => rfl
  | pass last c rest hnone ih =>
    have hrest : ∀ d ∈ rest, Text.isLineBoundary d = true → d = '\n' :=
      fun d hd => hcs d (List.mem_cons_of_mem _ hd)
    have hfind : findFrom 0 last ([c] ++ rest) = [] ++ findFrom [c].length (some c) rest :=
      findFrom_pass hnone 0
    have htext := placesInText_append source ⟨k, col⟩ hfind
    rw [List.flatMap_nil, List.map_nil, List.nil_append, List.singleton_append] at htext
    rw [htext, List.splitOn_cons_eq_if_modifyHead]
    obtain ⟨line, lines, tail, hlines, hsplit, htail⟩ := Text.exists_splitOn_newline rest
    have hnewline : Text.isWord '\n' = false := by decide
    by_cases hc : c = '\n'
    · -- The next line is scanned as if nothing stood before it.
      have hposition : Position.advance ⟨k, col⟩ [c] [c].length = ⟨(k + 1 : Nat), (0 : Nat)⟩ := by
        simp [Position.advance, hc]
      have hfresh : findFrom 0 (some c) line = findFrom 0 none line :=
        findFrom_congr (by simp [hc, hnewline]) (by simp) 0 line
      rw [hposition, ih hrest, if_pos (by simpa using hc), placesInLines, hlines, placesInLines,
        placesInLines, hfresh]
      rfl
    · have hposition : Position.advance ⟨k, col⟩ [c] [c].length = ⟨(k : Nat), (col + 1 : Nat)⟩ := by
        simp [Position.advance, hc]
      have hnone' : pattern.matchAt? ⟨last, c :: line⟩ = none := by
        have htailWord : ∀ d ∈ tail.head?, Text.isWord d = false :=
          fun d hd => htail d hd ▸ hnewline
        refine matchAt?_eq_none_of_append htailWord ?_
        rw [List.cons_append, ← hsplit]
        exact hnone
      rw [hposition, ih hrest, if_neg (by simpa using hc), hlines, List.modifyHead_cons,
        placesInLines, placesInLines, findFrom_pass hnone']
  | hit last u rest hlast hhead ih =>
    have hrest : ∀ d ∈ rest, Text.isLineBoundary d = true → d = '\n' :=
      fun d hd => hcs d (List.mem_append_right _ hd)
    by_cases hline : '\n' ∈ u.text
    · -- Line by line, only the URL in the last line of this one is found.
      have hlastLine := Text.isLine_lastLine u.text
      obtain ⟨xs, hu⟩ : ∃ xs, u.text = xs ++ '\n' :: Text.lastLine u.text := by
        rcases Text.eq_lastLine_or u.text with hwhole | ⟨xs, d, hd, hu⟩
        · rw [hwhole] at hline
          exact absurd (hlastLine _ hline) (by decide)
        · obtain rfl : d = '\n' := hcs d (List.mem_append_left _ (by rw [hu]; simp)) hd
          exact ⟨xs, hu⟩
      rw [placesInText_of_lines hu hlastLine hlast hhead,
        placesInLines_of_lines hu (fun h => absurd (hlastLine _ h) (by decide)) hhead, ih hrest]
    · rw [placesInText_of_line hline hlast hhead, placesInLines_of_line hline hlast hhead,
        ih hrest]

end ComponentUrl

end ComponentLinks
