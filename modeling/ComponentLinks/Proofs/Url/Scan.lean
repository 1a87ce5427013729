import ComponentLinks.Proofs.Url

/-!
# The scan for component URLs

At a place of a text a component URL is found exactly if one is written there and no word goes on
before or after it. So a scan can be followed from one place to the next: it passes a character with
which no URL begins, and a URL as a whole.

## Main definitions

* `ComponentUrl.matchAt?_eq_some_iff`: where a URL is found.
* `ComponentUrl.scan_induction`: following a scan.
* `ComponentUrl.findFrom`: the URLs found from a place on.
* `ComponentUrl.length_findFrom_le_count`: at most as many as there are fragments.
* `ComponentUrl.findFrom_append`: a part of a text out of which no URL leads.
-/
namespace ComponentLinks.ComponentUrl

open Pattern
open Written (metaPatterns)

variable {last : Option Char} {cs rest xs : List Char} {c : Char} {n : Nat} {u : Written}

/-! ## One place -/

theorem isWord_head?_of_isBoundary (hc : Text.isWord c = true)
    (h : Place.isBoundary ⟨some c, rest⟩ = true) : ∀ d ∈ rest.head?, Text.isWord d = false := by
  intro d hd
  rw [Option.mem_def] at hd
  simpa [Place.isBoundary, hc, hd] using h

section Reading

variable {α : Type} {k : Place → Captures Field → Option α} {s : Captures Field} {r : α}

theorem exists_of_read_metaPatterns (h : (inOrder metaPatterns).read k ⟨last, cs⟩ s = some r) :
    ∃ component ending rest,
      cs = "#meta/".toList ++ (component ++ (".cm".toList ++ (ending ++ rest))) ∧
      component ≠ [] ∧ (∀ c ∈ component, Text.isName c = true) ∧
      (ending = ['x'] ∨ ending = []) ∧ ∀ c ∈ rest.head?, Text.isWord c = false := by
  rw [metaPatterns] at h
  obtain ⟨cs₁, (rfl : cs = _), h⟩ := exists_of_read_cons_lit h
  obtain ⟨component, cs₂, (rfl : cs₁ = _), hcomponent, hne, h⟩ := exists_of_read_cons_capture_run h
  obtain ⟨cs₃, (rfl : cs₂ = _), h⟩ := exists_of_read_cons_lit h
  have hm (last : Option Char) : lastAfter last ".cm".toList = some 'm' := rfl
  rw [hm, read_inOrder_cons] at h
  rcases or_of_read_opt h with h | h
  · obtain ⟨rest, (rfl : cs₃ = _), h⟩ := exists_of_read_text h
    rw [read_inOrder_cons] at h
    have hrest := isWord_head?_of_isBoundary (by decide) (exists_of_read_boundary h).1
    exact ⟨component, ['x'], rest, rfl, hne rfl, hcomponent, .inl rfl, hrest⟩
  · rw [read_inOrder_cons] at h
    have hrest := isWord_head?_of_isBoundary (by decide) (exists_of_read_boundary h).1
    exact ⟨component, [], cs₃, rfl, hne rfl, hcomponent, .inr rfl, hrest⟩

theorem exists_of_read_query
    (h : (inOrder (opt (inOrder [lit "?", many (.noneOf ['#'])]) :: metaPatterns)).read k
      ⟨last, cs⟩ s = some r) :
    ∃ query last' rest, cs = query ++ rest ∧
      (query = [] ∨ ∃ words, query = '?' :: words ∧ '#' ∉ words) ∧
      (inOrder metaPatterns).read k ⟨last', rest⟩ s = some r := by
  rw [read_inOrder_cons] at h
  rcases or_of_read_opt h with h | h
  · obtain ⟨cs₁, (rfl : cs = _), h⟩ := exists_of_read_cons_lit h
    obtain ⟨words, cs₂, (rfl : cs₁ = _), hwords, -, h⟩ := exists_of_read_cons_run h
    refine ⟨'?' :: words, _, cs₂, rfl, .inr ⟨words, rfl, fun hmem => ?_⟩, h⟩
    simpa [CharClass.has] using hwords '#' hmem
  · exact ⟨[], last, cs, rfl, .inl rfl, h⟩

end Reading

theorem Written.text_append (u : Written) (rest : List Char) :
    u.text ++ rest = "fuchsia-pkg://fuchsia.com/".toList ++
      (u.package ++ (u.query ++ u.fromMeta rest)) := by
  have hfixed : "fuchsia-pkg://fuchsia.com/".toList = scheme ++ "fuchsia.com/".toList := by
    decide +kernel
  unfold Written.text Written.fromMeta
  simp only [hfixed, List.append_assoc]

/-- A URL is found exactly where it is written and no word goes on before or after it. -/
theorem matchAt?_eq_some_iff {r : Place × Captures Field} :
    pattern.matchAt? ⟨last, cs⟩ = some r ↔ (∀ c ∈ last, Text.isWord c = false) ∧
      ∃ (u : Written) (rest : List Char), cs = u.text ++ rest ∧
        (∀ c ∈ rest.head?, Text.isWord c = false) ∧
        r = (⟨lastAfter last u.text, rest⟩, u.kept rest) := by
  constructor
  · intro h
    have hmatch := h
    rw [matchAt?, pattern, read_inOrder_cons] at h
    obtain ⟨hboundary, h⟩ := exists_of_read_boundary h
    obtain ⟨cs₁, (hcs : cs = _), h⟩ := exists_of_read_cons_lit h
    obtain ⟨package, cs₂, (hcs₁ : cs₁ = _), hpackage, hpackageNe, h⟩ :=
      exists_of_read_cons_capture_run h
    obtain ⟨query, last', cs₃, hcs₂, hquery, h⟩ := exists_of_read_query h
    obtain ⟨component, ending, rest, hcs₃, hcomponentNe, hcomponent, hending, hrest⟩ :=
      exists_of_read_metaPatterns h
    let u : Written := ⟨package, query, component, ending, hpackageNe rfl, hpackage, hquery,
      hcomponentNe, hcomponent, hending⟩
    have htext : cs = u.text ++ rest := by
      subst hcs₃ hcs₂ hcs₁
      exact hcs.trans (u.text_append rest).symm
    have hlast : ∀ c ∈ last, Text.isWord c = false := by
      intro c hc
      obtain ⟨ds, hds⟩ := u.exists_text_eq_cons
      rw [Option.mem_def] at hc
      have hf : Text.isWord 'f' = true := by decide
      simpa [Place.isBoundary, hc, htext, hds, hf] using hboundary
    refine ⟨hlast, u, rest, htext, hrest, ?_⟩
    -- What is kept need not be followed through the parts: the URL is read as what it writes.
    rw [htext, u.matchAt?_text hlast hrest] at hmatch
    exact (Option.some.inj hmatch).symm
  · rintro ⟨hlast, u, rest, rfl, hrest, rfl⟩
    exact u.matchAt?_text hlast hrest

/-- No URL is found exactly where none is written with no word going on before or after it. -/
theorem matchAt?_eq_none_iff :
    pattern.matchAt? ⟨last, cs⟩ = none ↔ ((∀ c ∈ last, Text.isWord c = false) →
      ∀ (u : Written) (rest : List Char), cs = u.text ++ rest →
        ¬ ∀ c ∈ rest.head?, Text.isWord c = false) := by
  constructor
  · rintro h hlast u rest rfl hrest
    simp [u.matchAt?_text hlast hrest] at h
  · intro h
    by_contra hsome
    obtain ⟨r, hr⟩ := Option.ne_none_iff_exists'.1 hsome
    obtain ⟨hlast, u, rest, hcs, hrest, -⟩ := matchAt?_eq_some_iff.1 hr
    exact h hlast u rest hcs hrest

theorem isWord_head?_of_append (h : ∀ c ∈ (xs ++ rest).head?, Text.isWord c = false) :
    ∀ c ∈ xs.head?, Text.isWord c = false := by
  cases xs with
  | nil => simp
  | cons x xs => simpa using h

theorem isWord_head?_append (hxs : ∀ c ∈ xs.head?, Text.isWord c = false)
    (hrest : ∀ c ∈ rest.head?, Text.isWord c = false) :
    ∀ c ∈ (xs ++ rest).head?, Text.isWord c = false := by
  cases xs with
  | nil => simpa using hrest
  | cons x xs => simpa using hxs

/-- What does not begin in a text does not begin in a part of it that ends between words. -/
theorem matchAt?_eq_none_of_append (hrest : ∀ c ∈ rest.head?, Text.isWord c = false)
    (h : pattern.matchAt? ⟨last, xs ++ rest⟩ = none) : pattern.matchAt? ⟨last, xs⟩ = none := by
  refine matchAt?_eq_none_iff.2 fun hlast u ys hys hhead => ?_
  refine matchAt?_eq_none_iff.1 h hlast u (ys ++ rest) ?_ (isWord_head?_append hhead hrest)
  rw [hys, List.append_assoc]

/-- Following a scan: at each place either no URL is found, and the scan goes on after the next
character, or one is found, and the scan goes on after it. -/
theorem scan_induction {motive : Option Char → List Char → Prop}
    (nil : ∀ last, motive last [])
    (pass : ∀ last c rest, pattern.matchAt? ⟨last, c :: rest⟩ = none → motive (some c) rest →
      motive last (c :: rest))
    (hit : ∀ last (u : Written) rest, (∀ c ∈ last, Text.isWord c = false) →
      (∀ c ∈ rest.head?, Text.isWord c = false) → motive (lastAfter last u.text) rest →
      motive last (u.text ++ rest)) (last : Option Char) (cs : List Char) : motive last cs := by
  induction hlength : cs.length using Nat.strongRecOn generalizing last cs with
  | ind length ih =>
    cases cs with
    | nil => exact nil last
    | cons c cs =>
      cases hmatch : pattern.matchAt? ⟨last, c :: cs⟩ with
      | none =>
        exact pass last c cs hmatch (ih _ (by simp [← hlength]) _ _ rfl)
      | some r =>
        obtain ⟨hlast, u, rest, htext, hrest, -⟩ := matchAt?_eq_some_iff.1 hmatch
        obtain ⟨ds, hds⟩ := u.exists_text_eq_cons
        have hshorter : rest.length < length := by
          rw [← hlength, htext, hds, List.cons_append, List.length_cons, List.length_append]
          omega
        rw [htext]
        exact hit last u rest hlast hrest (ih _ hshorter _ _ rfl)

/-! ## The URLs found from a place on -/

/-- The URL found in a text that begins `n` characters earlier. -/
def shift (n : Nat) (u : ComponentUrl) : ComponentUrl :=
  { u with start := u.start + n, stop := u.stop + n }

/-- The URLs found from a place on that is `n` characters into a text, after the character
`last`. -/
def findFrom (n : Nat) (last : Option Char) (cs : List Char) : List ComponentUrl :=
  (pattern.scanFrom n 0 last cs).map ofFound

@[simp] theorem findFrom_nil (n : Nat) (last : Option Char) : findFrom n last [] = [] := rfl

theorem findFrom_pass (h : pattern.matchAt? ⟨last, c :: rest⟩ = none) (n : Nat) :
    findFrom n last (c :: rest) = findFrom (n + 1) (some c) rest := by
  rw [findFrom, scanFrom, h]
  rfl

theorem findFrom_hit (u : Written) (hlast : ∀ c ∈ last, Text.isWord c = false)
    (hrest : ∀ c ∈ rest.head?, Text.isWord c = false) (n : Nat) :
    findFrom n last (u.text ++ rest) =
      u.found n :: findFrom (n + u.text.length) (lastAfter last u.text) rest := by
  obtain ⟨ds, hds⟩ := u.exists_text_eq_cons
  rw [findFrom, scanFrom_match (by simp [hds]) (u.matchAt?_text hlast hrest), List.map_cons,
    u.ofFound_kept]
  rfl

theorem findFrom_add (n m : Nat) (last : Option Char) (cs : List Char) :
    findFrom (n + m) last cs = (findFrom n last cs).map (shift m) := by
  induction last, cs using scan_induction generalizing n with
  | nil last => rfl
  | pass last c rest hnone ih =>
    rw [findFrom_pass hnone, findFrom_pass hnone, ← ih (n + 1)]
    congr 1
    omega
  | hit last u rest hlast hrest ih =>
    have hfound : u.found (n + m) = shift m (u.found n) := by
      simp only [Written.found, shift]
      congr 1
      omega
    rw [findFrom_hit u hlast hrest, findFrom_hit u hlast hrest, List.map_cons, hfound, ← ih]
    congr 2
    omega

/-- What is found stands in the text as it is written, and no word goes on before or after it. -/
theorem exists_append_of_mem_findFrom {v : ComponentUrl} (h : v ∈ findFrom n last cs) :
    ∃ (u : Written) (before after : List Char), cs = before ++ (u.text ++ after) ∧
      v = u.found (n + before.length) ∧ (∀ c ∈ lastAfter last before, Text.isWord c = false) ∧
      ∀ c ∈ after.head?, Text.isWord c = false := by
  induction last, cs using scan_induction generalizing n with
  | nil last => simp at h
  | pass last c rest hnone ih =>
    rw [findFrom_pass hnone] at h
    obtain ⟨u, before, after, rfl, rfl, hbefore, hafter⟩ := ih h
    refine ⟨u, c :: before, after, rfl, ?_, by simpa using hbefore, hafter⟩
    rw [List.length_cons, Nat.add_comm before.length, Nat.add_assoc]
  | hit last u rest hlast hrest ih =>
    rw [findFrom_hit u hlast hrest] at h
    rcases List.mem_cons.1 h with rfl | h
    · exact ⟨u, [], rest, rfl, rfl, hlast, hrest⟩
    · obtain ⟨w, before, after, rfl, rfl, hbefore, hafter⟩ := ih h
      refine ⟨w, u.text ++ before, after, by simp, ?_, by simpa using hbefore, hafter⟩
      rw [List.length_append, Nat.add_assoc]

theorem exists_url_eq_of_mem_findFrom {v : ComponentUrl} (h : v ∈ findFrom n last cs) :
    ∃ u : Written, v.url.toList = u.text := by
  obtain ⟨u, before, after, -, rfl, -⟩ := exists_append_of_mem_findFrom h
  exact ⟨u, String.toList_ofList⟩

theorem start_le_of_mem_findFrom {v : ComponentUrl} (h : v ∈ findFrom n last cs) :
    v.start ≤ n + cs.length := by
  obtain ⟨u, before, after, rfl, rfl, -⟩ := exists_append_of_mem_findFrom h
  simp [Written.found]

/-- A URL that is found stands in the text at its place. -/
theorem exists_append_of_mem_findAll {v : ComponentUrl} (h : v ∈ findAll cs) :
    ∃ (u : Written) (before after : List Char), cs = before ++ (u.text ++ after) ∧
      v = u.found before.length := by
  obtain ⟨u, before, after, hcs, hv, -⟩ := exists_append_of_mem_findFrom h
  exact ⟨u, before, after, hcs, by simpa using hv⟩

/-- After a word has ended it does not matter with which character. -/
theorem findFrom_congr {last' : Option Char} (hlast : ∀ c ∈ last, Text.isWord c = false)
    (hlast' : ∀ c ∈ last', Text.isWord c = false) (n : Nat) (cs : List Char) :
    findFrom n last cs = findFrom n last' cs := by
  cases cs with
  | nil => rfl
  | cons c cs =>
    cases hmatch : pattern.matchAt? ⟨last, c :: cs⟩ with
    | none =>
      have hmatch' : pattern.matchAt? ⟨last', c :: cs⟩ = none :=
        matchAt?_eq_none_iff.2 fun _ => matchAt?_eq_none_iff.1 hmatch hlast
      rw [findFrom_pass hmatch, findFrom_pass hmatch']
    | some r =>
      obtain ⟨-, u, rest, htext, hrest, -⟩ := matchAt?_eq_some_iff.1 hmatch
      rw [htext, findFrom_hit u hlast hrest, findFrom_hit u hlast' hrest, u.lastAfter_text,
        u.lastAfter_text]

/-! ## Fragments -/

theorem not_mem_of_isName (hc : Text.isName c = false) (h : ∀ d ∈ xs, Text.isName d = true) :
    c ∉ xs := by
  intro hmem
  simp [h c hmem] at hc

namespace Written

def front (u : Written) : List Char :=
  scheme ++ ("fuchsia.com/".toList ++ (u.package ++ u.query))

def back (u : Written) : List Char :=
  ['m', 'e', 't', 'a', '/'] ++ (u.component ++ '.' :: 'c' :: 'm' :: u.ending)

theorem text_eq_front_back (u : Written) : u.text = u.front ++ '#' :: u.back := by
  have hmeta : "#meta/".toList = '#' :: ['m', 'e', 't', 'a', '/'] := by decide +kernel
  have hextension : ".cm".toList = ['.', 'c', 'm'] := by decide +kernel
  rw [text, front, back, hmeta, hextension]
  simp only [List.append_assoc, List.cons_append, List.nil_append]

theorem fragment_not_mem_front (u : Written) : '#' ∉ u.front := by
  have hscheme : '#' ∉ scheme := by decide +kernel
  have hdomain : '#' ∉ "fuchsia.com/".toList := by decide +kernel
  have hpackage : '#' ∉ u.package := not_mem_of_isName (by decide) u.package_name
  have hquery : '#' ∉ u.query := by
    rcases u.query_eq with hquery | ⟨words, hquery, hwords⟩
    · simp [hquery]
    · simp [hquery, hwords]
  rw [front, List.mem_append, List.mem_append, List.mem_append]
  exact not_or.2 ⟨hscheme, not_or.2 ⟨hdomain, not_or.2 ⟨hpackage, hquery⟩⟩⟩

/-- A character that stands neither in names nor in what is fixed after a fragment. -/
theorem not_mem_back (u : Written) (hname : Text.isName c = false)
    (hmeta : c ∉ ['m', 'e', 't', 'a', '/']) (hextension : c ∉ ['.', 'c', 'm', 'x']) :
    c ∉ u.back := by
  have hcomponent : c ∉ u.component := not_mem_of_isName hname u.component_name
  have hend : c ∉ '.' :: 'c' :: 'm' :: u.ending := by
    refine fun hmem => hextension (List.Sublist.subset ?_ hmem)
    rcases u.ending_eq with hending | hending
    · rw [hending]
    · rw [hending]
      decide
  rw [back, List.mem_append, List.mem_append]
  exact not_or.2 ⟨hmeta, not_or.2 ⟨hcomponent, hend⟩⟩

theorem fragment_not_mem_back (u : Written) : '#' ∉ u.back :=
  u.not_mem_back (by decide) (by decide) (by decide)

theorem count_fragment_text (u : Written) : u.text.count '#' = 1 := by
  rw [text_eq_front_back, List.count_append, List.count_cons_self,
    List.count_eq_zero.2 u.fragment_not_mem_front, List.count_eq_zero.2 u.fragment_not_mem_back]

end Written

/-- Every URL has a fragment. -/
theorem length_findFrom_le_count (n : Nat) (last : Option Char) (cs : List Char) :
    (findFrom n last cs).length ≤ cs.count '#' := by
  induction last, cs using scan_induction generalizing n with
  | nil last => exact Nat.zero_le _
  | pass last c rest hnone ih =>
    rw [findFrom_pass hnone]
    exact Nat.le_trans (ih (n + 1)) List.count_le_count_cons
  | hit last u rest hlast hrest ih =>
    rw [findFrom_hit u hlast hrest, List.length_cons, List.count_append, u.count_fragment_text]
    have hafter := ih (n + u.text.length)
    omega

theorem findFrom_of_not_mem (h : '#' ∉ cs) (n : Nat) (last : Option Char) :
    findFrom n last cs = [] := by
  have hlength := length_findFrom_le_count n last cs
  rw [List.count_eq_zero.2 h] at hlength
  exact List.eq_nil_of_length_eq_zero (Nat.le_zero.1 hlength)

/-! ## Where a URL ends -/

namespace Written

variable {v : Written} {ys zs : List Char}

/-- What two URLs have after their fragments is the same, up to an ending that is cut off. -/
theorem length_back_le (h : u.back ++ rest = v.back ++ cs)
    (hrest : ∀ c ∈ rest.head?, Text.isWord c = false) : v.back.length ≤ u.back.length := by
  simp only [back, List.append_assoc, List.cons_append, List.nil_append, List.cons.injEq,
    true_and] at h
  obtain ⟨hcomponent, -, h⟩ := Text.append_inj_of_stop u.component_name v.component_name
    (by decide) (by decide) h
  have hending : u.ending ++ rest = v.ending ++ cs := by simpa using h
  have hle : v.ending.length ≤ u.ending.length := by
    rcases u.ending_eq with hu | hu <;> rcases v.ending_eq with hv | hv
    · simp [hu, hv]
    · simp [hv]
    · -- The ending of the second URL would be read from `rest`, which does not begin like that.
      obtain rfl : rest = 'x' :: cs := by simpa [hu, hv] using hending
      exact absurd (hrest 'x' rfl) (by decide)
    · simp [hv]
  simp only [back, List.length_append, List.length_cons, hcomponent]
  omega

theorem exists_mem_of_suffix_back (h : zs <:+ u.back) (hne : zs ≠ []) : 'm' ∈ zs ∨ 'x' ∈ zs := by
  have hlast : zs.getLast? = u.back.getLast? := by
    obtain ⟨ys, hys⟩ := h
    rw [← hys, List.getLast?_append_of_ne_nil ys hne]
  rcases u.ending_eq with hending | hending
  · have hback : u.back =
        (['m', 'e', 't', 'a', '/'] ++ (u.component ++ ['.', 'c', 'm'])) ++ ['x'] := by
      simp [back, hending]
    exact .inr (List.mem_of_getLast? (by rw [hlast, hback, List.getLast?_concat]))
  · have hback : u.back = (['m', 'e', 't', 'a', '/'] ++ (u.component ++ ['.', 'c'])) ++ ['m'] := by
      simp [back, hending]
    exact .inl (List.mem_of_getLast? (by rw [hlast, hback, List.getLast?_concat]))

theorem exists_text_eq_append_colon (u : Written) :
    ∃ tail, u.text = "fuchsia-pkg".toList ++ ':' :: tail := by
  have hscheme : scheme = "fuchsia-pkg".toList ++ ':' :: "//".toList := by decide +kernel
  rw [text, hscheme, List.append_assoc, List.cons_append]
  exact ⟨_, rfl⟩

/-- A URL over several lines has its fragment in the last one. -/
theorem fragment_of_lines (hu : u.text = ys ++ '\n' :: zs) : '#' ∉ ys ∧ '#' ∈ zs := by
  have hnewline : '\n' ∉ u.back := u.not_mem_back (by decide) (by decide) (by decide)
  rw [text_eq_front_back] at hu
  have hys : '#' ∉ ys := by
    intro hmem
    obtain ⟨ts, -, hback⟩ := Text.exists_append_of_mem u.fragment_not_mem_front hmem hu.symm
    exact hnewline (by simp [hback])
  refine ⟨hys, ?_⟩
  have hmem : '#' ∈ ys ++ '\n' :: zs := by simp [← hu]
  simpa [hys] using hmem

/-- A URL that begins within another one, after which no word goes on, does not lead out of it. -/
theorem length_le_of_suffix (hu : u.text = ys ++ zs) (hne : zs ≠ [])
    (hrest : ∀ c ∈ rest.head?, Text.isWord c = false) (hv : zs ++ rest = v.text ++ cs) :
    v.text.length ≤ zs.length := by
  rw [text_eq_front_back] at hu
  by_cases hmem : '#' ∈ zs
  · -- Both URLs have the same fragment.
    rw [text_eq_front_back, List.append_assoc, List.cons_append] at hv
    obtain ⟨ts, rfl, hts⟩ := Text.exists_append_of_mem v.fragment_not_mem_front hmem hv
    rw [← List.append_assoc] at hu
    obtain ⟨-, -, hback⟩ :=
      (List.append_cons_inj_of_notMem u.fragment_not_mem_front u.fragment_not_mem_back).1 hu
    have hle := length_back_le (hback ▸ hts.symm) hrest
    simp only [text_eq_front_back, List.length_append, List.length_cons, ← hback]
    omega
  · -- What is left after the fragment does not begin like a URL.
    have hsuffix : zs <:+ u.back := Text.suffix_of_suffix_append hmem ⟨ys, hu.symm⟩
    have hcolon : ':' ∉ zs := fun h =>
      u.not_mem_back (by decide) (by decide) (by decide) (hsuffix.subset h)
    obtain ⟨tail, htail⟩ := v.exists_text_eq_append_colon
    rw [htail, List.append_assoc, List.cons_append] at hv
    have hbegin : zs <+: "fuchsia-pkg".toList := Text.prefix_of_prefix_append hcolon ⟨rest, hv⟩
    rcases exists_mem_of_suffix_back hsuffix hne with h | h
    · exact absurd (hbegin.subset h) (by decide)
    · exact absurd (hbegin.subset h) (by decide)

end Written

/-- Where a text falls into two parts of which the second does not carry a word on, and no URL leads
from the first part into the second, the URLs are those of both parts. -/
theorem findFrom_append (hrest : ∀ c ∈ rest.head?, Text.isWord c = false)
    (hends : ∀ ys zs, xs = ys ++ zs → zs ≠ [] → ∀ (v : Written) (cs : List Char),
      zs ++ rest = v.text ++ cs → v.text.length ≤ zs.length) (n : Nat) (last : Option Char) :
    findFrom n last (xs ++ rest) =
      findFrom n last xs ++ findFrom (n + xs.length) (lastAfter last xs) rest := by
  induction last, xs using scan_induction generalizing n with
  | nil last => rfl
  | pass last c xs hnone ih =>
    have hnone' : pattern.matchAt? ⟨last, c :: (xs ++ rest)⟩ = none := by
      refine matchAt?_eq_none_iff.2 fun hlast v cs hcs hhead => ?_
      have hle := hends [] (c :: xs) rfl (by simp) v cs hcs
      obtain ⟨ds, hds, rfl⟩ := Text.exists_append_of_length_le hcs.symm hle
      exact matchAt?_eq_none_iff.1 hnone hlast v ds hds (isWord_head?_of_append hhead)
    rw [List.cons_append, findFrom_pass hnone', findFrom_pass hnone,
      ih fun ys zs h => hends (c :: ys) zs (by simp [h])]
    rw [List.length_cons, lastAfter_cons, Nat.add_assoc, Nat.add_comm 1]
  | hit last u xs hlast hhead ih =>
    rw [List.append_assoc, findFrom_hit u hlast (isWord_head?_append hhead hrest),
      findFrom_hit u hlast hhead,
      ih fun ys zs h => hends (u.text ++ ys) zs (by simp [h])]
    simp only [List.length_append, lastAfter_append, Nat.add_assoc, List.cons_append]

end ComponentLinks.ComponentUrl
