import ComponentLinks.Proofs.Pattern.Scan
import ComponentLinks.Proofs.Text.Classes
import ComponentLinks.Url

/-!
# Finding component URLs

The URLs found in a text stand in it one after the other. Where the text is written down as the
component URLs in it and what stands between them, the scan finds just these URLs.

## Main definitions

* `ComponentUrl.take_drop_of_mem_findAll`, `ComponentUrl.pairwise_findAll`: where URLs are found.
* `ComponentUrl.Written`: a URL as it is written.
* `ComponentUrl.Mention`: a URL with the text before it.
* `ComponentUrl.textOf`: the text of several mentions.
* `ComponentUrl.findAll_textOf`: the URLs found in it.
-/
namespace ComponentLinks.ComponentUrl

open Pattern

/-- The characters at the place of a URL that is found are the URL. -/
theorem take_drop_of_mem_findAll {text : List Char} {u : ComponentUrl} (h : u ∈ findAll text) :
    (text.drop u.start).take u.length = u.url.toList := by
  obtain ⟨m, hm, rfl⟩ := List.mem_map.1 h
  obtain ⟨-, hpre⟩ := start_le_and_isPrefix_of_mem_scanFrom hm
  simpa [ofFound, ComponentUrl.length] using (List.prefix_iff_eq_take.1 hpre).symm

/-- A URL is found where the one before it has ended, or later. -/
theorem pairwise_findAll (text : List Char) :
    (findAll text).Pairwise fun u v => u.start + u.length ≤ v.start := by
  refine List.pairwise_map.2 ((pairwise_scanFrom pattern 0 0 none text).imp fun h => ?_)
  simpa [ofFound, ComponentUrl.length, Found.stop] using h

def scheme : List Char := "fuchsia-pkg://".toList

/-- A component URL as it is written: a query comes with its question mark, and `ending` is the last
letter of the extension. Either may be missing. -/
structure Written where
  package : List Char
  query : List Char
  component : List Char
  ending : List Char
  package_ne : package ≠ []
  package_name : ∀ c ∈ package, Text.isName c = true
  query_eq : query = [] ∨ ∃ words, query = '?' :: words ∧ '#' ∉ words
  component_ne : component ≠ []
  component_name : ∀ c ∈ component, Text.isName c = true
  ending_eq : ending = ['x'] ∨ ending = []

namespace Written

def text (u : Written) : List Char :=
  scheme ++ ("fuchsia.com/".toList ++ (u.package ++ (u.query ++ ("#meta/".toList ++
    (u.component ++ (".cm".toList ++ u.ending))))))

def identifier (u : Written) : String :=
  ComponentLinks.identifier (String.ofList u.package) (String.ofList u.component)

/-- The URL found at an offset. -/
def found (u : Written) (offset : Nat) : ComponentUrl where
  url := String.ofList u.text
  package := String.ofList u.package
  component := String.ofList u.component
  start := offset
  stop := offset + u.text.length

@[simp] theorem identifier_found (u : Written) (offset : Nat) :
    (u.found offset).identifier = u.identifier := rfl

@[simp] theorem length_found (u : Written) (offset : Nat) :
    (u.found offset).length = u.text.length := by
  simp [ComponentUrl.length, found]

def kept (u : Written) (rest : List Char) : Captures Field :=
  [⟨.componentName, u.component ++ (".cm".toList ++ (u.ending ++ rest)),
     ".cm".toList ++ (u.ending ++ rest)⟩,
   ⟨.packageName, u.package ++ (u.query ++ ("#meta/".toList ++ (u.component ++ (".cm".toList ++
     (u.ending ++ rest))))), u.query ++ ("#meta/".toList ++ (u.component ++ (".cm".toList ++
     (u.ending ++ rest))))⟩]

theorem ofFound_kept (u : Written) (offset : Nat) (rest : List Char) :
    ofFound ⟨offset, u.text, u.kept rest⟩ = u.found offset := by
  simp only [ofFound, kept, Captures.get, Captures.get?, found, Found.stop]
  simp [Capture.text]

theorem lastAfter_text (u : Written) (last : Option Char) :
    lastAfter last u.text = lastAfter (some 'm') u.ending := by
  unfold text scheme
  simp

theorem read_ending (u : Written) {rest : List Char}
    (hrest : ∀ c ∈ rest.head?, Text.isWord c = false) (s : Captures Field) :
    (inOrder [opt (lit "x"), boundary]).read (fun b s => some (b, s)) ⟨some 'm', u.ending ++ rest⟩
      s = some (⟨lastAfter (some 'm') u.ending, rest⟩, s) := by
  have hboundary : ∀ c, Text.isWord c = true → Place.isBoundary ⟨some c, rest⟩ = true := by
    intro c hc
    cases rest with
    | nil => simp [Place.isBoundary, hc]
    | cons d rest => simp [Place.isBoundary, hc, hrest d (by simp)]
  rw [read_inOrder_cons]
  rcases u.ending_eq with hending | hending
  · have hlast : lastAfter (some 'm') "x".toList = some 'x' := rfl
    refine read_opt_of_some ?_
    rw [hending, show ['x'] = "x".toList by rfl, read_lit_append, hlast, read_inOrder_cons,
      read_boundary_of_isBoundary (hboundary 'x' (by decide))]
    simp
  · rw [hending, List.nil_append, read_opt_of_none (read_lit_of_not_isPrefix ?_), read_inOrder_cons,
      read_boundary_of_isBoundary (hboundary 'm' (by decide))]
    · simp
    · -- The text does not go on with a word.
      rintro ⟨zs, hzs⟩
      have hx : Text.isWord 'x' = false := hrest 'x' (by simp [← hzs])
      revert hx
      decide

def fromMeta (u : Written) (rest : List Char) : List Char :=
  "#meta/".toList ++ (u.component ++ (".cm".toList ++ (u.ending ++ rest)))

theorem exists_fromMeta_eq_cons (u : Written) (rest : List Char) :
    ∃ cs, u.fromMeta rest = '#' :: cs := by
  unfold fromMeta
  simp

/-- The patterns from the fragment on. -/
def metaPatterns : List (Pattern Field) :=
  [lit "#meta/", capture .componentName (several .name), lit ".cm", opt (lit "x"), boundary]

theorem read_fromMeta (u : Written) {rest : List Char}
    (hrest : ∀ c ∈ rest.head?, Text.isWord c = false) (last : Option Char) (s : Captures Field) :
    (inOrder metaPatterns).read (fun b s => some (b, s)) ⟨last, u.fromMeta rest⟩ s =
      some (⟨lastAfter (some 'm') u.ending, rest⟩,
        ⟨.componentName, u.component ++ (".cm".toList ++ (u.ending ++ rest)),
          ".cm".toList ++ (u.ending ++ rest)⟩ :: s) := by
  unfold fromMeta
  rw [metaPatterns, read_cons_lit]
  refine read_cons_capture_run_of_stop u.component_name (by simp [u.component_ne])
    (by simp; decide) ?_
  rw [read_cons_lit]
  exact u.read_ending hrest _

theorem read_query (u : Written) (rest : List Char) {last : Option Char} {s : Captures Field}
    {r : Place × Captures Field}
    (h : ∀ last, (inOrder metaPatterns).read (fun b s => some (b, s)) ⟨last, u.fromMeta rest⟩ s =
      some r) :
    (inOrder (opt (inOrder [lit "?", many (.noneOf ['#'])]) :: metaPatterns)).read
      (fun b s => some (b, s)) ⟨last, u.query ++ u.fromMeta rest⟩ s = some r := by
  obtain ⟨cs, hcs⟩ := u.exists_fromMeta_eq_cons rest
  rw [read_inOrder_cons]
  rcases u.query_eq with hquery | ⟨words, hquery, hwords⟩
  · rw [hquery, List.nil_append, read_opt_of_none, h]
    rw [read_inOrder_cons]
    exact read_lit_of_not_isPrefix (by simp [hcs])
  · have hsplit : u.query ++ u.fromMeta rest = "?".toList ++ (words ++ u.fromMeta rest) := by
      simp [hquery]
    refine read_opt_of_some ?_
    rw [hsplit, read_cons_lit]
    refine read_cons_run_of_stop ?_ (by simp) (by simp [hcs, CharClass.has]) ?_
    · intro c hc
      have : c ≠ '#' := fun heq => hwords (heq ▸ hc)
      simp [CharClass.has, this]
    · rw [read_inOrder_nil, h]

theorem isBoundary_text {last : Option Char} (hlast : ∀ c ∈ last, Text.isWord c = false)
    (u : Written) (rest : List Char) : Place.isBoundary ⟨last, u.text ++ rest⟩ = true := by
  have hf : Text.isWord 'f' = true := by decide
  have htext : (u.text ++ rest).head? = some 'f' := by
    unfold text scheme
    simp
  cases last with
  | none => simp [Place.isBoundary, htext, hf]
  | some c => simp [Place.isBoundary, htext, hf, hlast c (by simp)]

/-- The URL is read up to its end where no word goes on before or after it. -/
theorem matchAt?_text (u : Written) {last : Option Char} {rest : List Char}
    (hlast : ∀ c ∈ last, Text.isWord c = false) (hrest : ∀ c ∈ rest.head?, Text.isWord c = false) :
    pattern.matchAt? ⟨last, u.text ++ rest⟩ =
      some (⟨lastAfter last u.text, rest⟩, u.kept rest) := by
  have htext : u.text ++ rest = "fuchsia-pkg://fuchsia.com/".toList ++
      (u.package ++ (u.query ++ u.fromMeta rest)) := by
    unfold text scheme fromMeta
    simp
  obtain ⟨cs, hcs⟩ := u.exists_fromMeta_eq_cons rest
  rw [matchAt?, pattern, read_inOrder_cons,
    read_boundary_of_isBoundary (isBoundary_text hlast u rest), htext, read_cons_lit]
  refine read_cons_capture_run_of_stop u.package_name (by simp [u.package_ne]) ?_ ?_
  · intro c hc
    rcases u.query_eq with hquery | ⟨words, hquery, -⟩
    · obtain rfl : '#' = c := by simpa [hquery, hcs] using hc
      decide
    · obtain rfl : '?' = c := by simpa [hquery] using hc
      decide
  rw [u.lastAfter_text]
  exact u.read_query rest fun last => u.read_fromMeta hrest last _

theorem exists_text_eq_cons (u : Written) : ∃ cs, u.text = 'f' :: cs := by
  unfold text scheme
  simp

end Written

/-- No match of the pattern begins in a text before a URL, or before the end, in which no URL
begins. -/
theorem matchAt?_gap_eq_none {xs ys zs rest : List Char} (hgap : ¬ scheme <:+: xs)
    (hsplit : xs = ys ++ zs) (hne : zs ≠ []) (hrest : rest = [] ∨ ∃ cs, rest = 'f' :: cs)
    (last : Option Char) : pattern.matchAt? ⟨last, zs ++ rest⟩ = none := by
  by_contra hsome
  obtain ⟨m, hm⟩ := Option.ne_none_iff_exists'.1 hsome
  have hpre : ∃ after, zs ++ rest = scheme ++ after := by
    rw [matchAt?, pattern, read_inOrder_cons] at hm
    obtain ⟨after, hafter, -⟩ := exists_of_read_cons_lit (exists_of_read_boundary hm).2
    refine ⟨"fuchsia.com/".toList ++ after, hafter.trans ?_⟩
    unfold scheme
    simp
  obtain ⟨after, hafter⟩ := hpre
  have hinfix : ∀ us, zs ≠ scheme ++ us := by
    rintro us rfl
    exact hgap ⟨ys, us, by simp [hsplit]⟩
  rcases List.append_eq_append_iff.1 hafter with ⟨us, hus, hrest'⟩ | ⟨us, hus, -⟩
  · cases us with
    | nil => exact hinfix [] (by simpa using hus.symm)
    | cons u us =>
      -- The scheme has its first letter only once.
      obtain ⟨cs, rfl⟩ : ∃ cs, rest = 'f' :: cs := by
        rcases hrest with rfl | h
        · simp at hrest'
        · exact h
      obtain ⟨rfl, -⟩ : 'f' = u ∧ _ := by simpa using hrest'
      obtain ⟨z, zs, rfl⟩ := List.exists_cons_of_ne_nil hne
      have htail : 'f' ∈ scheme.tail := by simp [hus]
      revert htail
      unfold scheme
      simp
  · exact hinfix us hus

/-- A URL with the text before it. -/
structure Mention where
  gap : List Char
  url : Written
  gap_free : ¬ scheme <:+: gap
  gap_end : ∀ c ∈ gap.getLast?, Text.isWord c = false

def textOf : List Mention → List Char → List Char
  | [], tail => tail
  | m :: ms, tail => m.gap ++ (m.url.text ++ textOf ms tail)

/-- Whether no word goes on after any of several mentions, and no URL begins after them. -/
def IsApart : List Mention → List Char → Prop
  | [], tail => ¬ scheme <:+: tail
  | _ :: ms, tail => (∀ c ∈ (textOf ms tail).head?, Text.isWord c = false) ∧ IsApart ms tail

instance : (ms : List Mention) → (tail : List Char) → Decidable (IsApart ms tail)
  | [], tail => inferInstanceAs (Decidable (¬ scheme <:+: tail))
  | _ :: ms, tail =>
    have : Decidable (IsApart ms tail) := instDecidableIsApart ms tail
    inferInstanceAs (Decidable (_ ∧ _))

/-- The mentions with the offsets of their URLs, after `n` characters. -/
def places (n : Nat) : List Mention → List (Mention × Nat)
  | [] => []
  | m :: ms =>
    (m, n + m.gap.length) :: places (n + m.gap.length + m.url.text.length) ms

theorem scan_textOf {ms : List Mention} {tail : List Char} (h : IsApart ms tail) (n : Nat)
    (last : Option Char)
    (hlast : (∀ c ∈ last, Text.isWord c = false) ∨
      ∀ c ∈ (textOf ms tail).head?, Text.isWord c = false) :
    (pattern.scanFrom n 0 last (textOf ms tail)).map ofFound =
      (places n ms).map fun p => p.1.url.found p.2 := by
  induction ms generalizing n last with
  | nil =>
    have hnone : ∀ ys zs, tail = ys ++ zs → zs ≠ [] →
        pattern.matchAt? ⟨lastAfter last ys, zs ++ []⟩ = none :=
      fun ys zs hsplit hne => matchAt?_gap_eq_none h hsplit hne (.inl rfl) _
    have hpass := scanFrom_pass (n := n) hnone
    rw [List.append_nil, scanFrom_nil] at hpass
    simp [textOf, hpass, places]
  | cons m ms ih =>
    obtain ⟨happart, h⟩ := h
    obtain ⟨cs, hcs⟩ := m.url.exists_text_eq_cons
    have hgap : ∀ ys zs, m.gap = ys ++ zs → zs ≠ [] →
        pattern.matchAt? ⟨lastAfter last ys, zs ++ (m.url.text ++ textOf ms tail)⟩ = none :=
      fun ys zs hsplit hne =>
        matchAt?_gap_eq_none m.gap_free hsplit hne (.inr ⟨cs ++ textOf ms tail, by simp [hcs]⟩) _
    -- Without a gap the text goes on with the first letter of the URL, which rules out the second
    -- case of `hlast`.
    have hstart : ∀ c ∈ lastAfter last m.gap, Text.isWord c = false := by
      intro c hc
      cases hlastGap : m.gap.getLast? with
      | none =>
        have hnil : m.gap = [] := List.getLast?_eq_none_iff.1 hlastGap
        rcases hlast with hlast | hhead
        · exact hlast c (by simpa [lastAfter, hnil] using hc)
        · have hf : Text.isWord 'f' = true := by decide
          rw [hhead 'f' (by simp [textOf, hnil, hcs])] at hf
          simp at hf
      | some d =>
        obtain rfl : d = c := by simpa [lastAfter, hlastGap] using hc
        exact m.gap_end d hlastGap
    rw [textOf, scanFrom_pass hgap, scanFrom_match (by simp [hcs])
      (m.url.matchAt?_text hstart happart), List.map_cons, m.url.ofFound_kept,
      ih h _ _ (.inr happart)]
    rfl

/-- The URLs found in a text are those mentioned in it, each where it stands. -/
theorem findAll_textOf {ms : List Mention} {tail : List Char} (h : IsApart ms tail) :
    findAll (textOf ms tail) = (places 0 ms).map fun p => p.1.url.found p.2 :=
  scan_textOf h 0 none (.inl (by simp))

theorem exists_mem_places {m : Mention} {ms : List Mention} (h : m ∈ ms) (n : Nat) :
    ∃ offset, (m, offset) ∈ places n ms := by
  induction ms generalizing n with
  | nil => simp at h
  | cons k ms ih =>
    rcases List.mem_cons.1 h with rfl | h
    · exact ⟨n + m.gap.length, by simp [places]⟩
    · obtain ⟨offset, hoffset⟩ := ih h (n + k.gap.length + k.url.text.length)
      exact ⟨offset, by simp [places, hoffset]⟩

theorem take_drop_textOf {ms : List Mention} {tail : List Char} (h : IsApart ms tail)
    {p : Mention × Nat} (hp : p ∈ places 0 ms) :
    ((textOf ms tail).drop p.2).take p.1.url.text.length = p.1.url.text := by
  have hfound : p.1.url.found p.2 ∈ findAll (textOf ms tail) := by
    rw [findAll_textOf h]
    exact List.mem_map_of_mem hp
  have hplace := take_drop_of_mem_findAll hfound
  rw [Written.length_found] at hplace
  simpa [Written.found] using hplace

end ComponentLinks.ComponentUrl
