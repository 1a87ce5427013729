import ComponentLinks.Proofs.Url.Scan

/-!
# Where component URLs stand

A component URL stands at a place of a text if it is written there and a word boundary is at both of
its ends. What a scan finds stands in the text, with at least one character between one URL and the
next, so an offset never belongs to two of them, even where the end of a URL counts as part of it.
What stands in the text is found, or lies within a URL that is found: in its query.

## Main definitions

* `ComponentUrl.Written.StandsAt`: a URL stands at a place of a text.
* `ComponentUrl.findAll_exact`: what is found, and what cannot be missed.
* `ComponentUrl.Covers`: an offset belongs to a URL.
* `ComponentUrl.at?_exact`: the URL at an offset.
-/
namespace ComponentLinks.ComponentUrl

open Pattern

variable {last : Option Char} {cs rest text : List Char} {n : Nat} {offset : Int}

/-! ## Standing at a place -/

/-- Whether a word boundary is after the first `n` characters of a text. -/
def IsBoundaryAt (text : List Char) (n : Nat) : Prop :=
  Place.isBoundary ⟨(text.take n).getLast?, text.drop n⟩ = true

instance (text : List Char) (n : Nat) : Decidable (IsBoundaryAt text n) :=
  inferInstanceAs (Decidable (_ = _))

theorem isBoundaryAt_append (before after : List Char) :
    IsBoundaryAt (before ++ after) before.length ↔
      Place.isBoundary ⟨before.getLast?, after⟩ = true := by
  rw [IsBoundaryAt, List.take_left, List.drop_left]

namespace Written

variable {u w : Written}

/-- Whether the URL stands in a text after its first `n` characters, with a word boundary at both
ends. -/
def StandsAt (u : Written) (text : List Char) (n : Nat) : Prop :=
  (text.drop n).take u.text.length = u.text ∧ IsBoundaryAt text n ∧
    IsBoundaryAt text (n + u.text.length)

instance (u : Written) (text : List Char) (n : Nat) : Decidable (u.StandsAt text n) :=
  inferInstanceAs (Decidable (_ ∧ _))

theorem text_ne_nil (u : Written) : u.text ≠ [] := by
  obtain ⟨cs, hcs⟩ := u.exists_text_eq_cons
  simp [hcs]

/-- The last character of a URL is a letter. -/
theorem exists_getLast?_text (u : Written) : ∃ c, u.text.getLast? = some c ∧ Text.isWord c := by
  have hlast := u.lastAfter_text none
  rw [lastAfter, Option.or_none] at hlast
  rw [hlast]
  rcases u.ending_eq with hending | hending
  · exact ⟨'x', by rw [hending]; rfl, by decide⟩
  · exact ⟨'m', by rw [hending]; rfl, by decide⟩

theorem standsAt_iff : u.StandsAt text n ↔ ∃ before after,
    text = before ++ (u.text ++ after) ∧ before.length = n ∧
      (∀ c ∈ before.getLast?, Text.isWord c = false) ∧
      ∀ c ∈ after.head?, Text.isWord c = false := by
  obtain ⟨ds, hds⟩ := u.exists_text_eq_cons
  obtain ⟨d, hd, hword⟩ := u.exists_getLast?_text
  have hf : Text.isWord 'f' = true := by decide
  constructor
  · rintro ⟨htext, hstart, hstop⟩
    have hn : n ≤ text.length := by
      by_contra hlt
      rw [List.drop_of_length_le (by omega), List.take_nil] at htext
      exact u.text_ne_nil htext.symm
    obtain ⟨before, tail, rfl, rfl⟩ : ∃ before tail, text = before ++ tail ∧ before.length = n :=
      ⟨text.take n, text.drop n, (List.take_append_drop n text).symm, List.length_take_of_le hn⟩
    rw [List.drop_left] at htext
    obtain ⟨after, rfl⟩ : ∃ after, tail = u.text ++ after :=
      (List.prefix_iff_eq_take.2 htext.symm).imp fun _ => Eq.symm
    refine ⟨before, after, rfl, rfl, fun c hc => ?_, ?_⟩
    · rw [isBoundaryAt_append] at hstart
      rw [Option.mem_def] at hc
      simpa [Place.isBoundary, hc, hds, hf] using hstart
    · rw [← List.append_assoc, ← List.length_append, isBoundaryAt_append,
        List.getLast?_append, hd] at hstop
      exact isWord_head?_of_isBoundary hword hstop
  · rintro ⟨before, after, rfl, rfl, hbefore, hafter⟩
    refine ⟨by simp, (isBoundaryAt_append _ _).2 (isBoundary_text hbefore u after), ?_⟩
    rw [← List.append_assoc, ← List.length_append, isBoundaryAt_append, List.getLast?_append, hd]
    cases hhead : after.head? with
    | none => simp [Place.isBoundary, hhead, hword]
    | some c => simp [Place.isBoundary, hhead, hword, hafter c hhead]

theorem found_eq_of_standsAt (hu : u.StandsAt text n) (hw : w.StandsAt text n) :
    u.found n = w.found n := by
  obtain ⟨before, after, rfl, rfl, hbefore, hafter⟩ := standsAt_iff.1 hu
  obtain ⟨before', after', htext, hlength, -, hafter'⟩ := standsAt_iff.1 hw
  obtain ⟨rfl, htail⟩ := List.append_inj htext hlength.symm
  have hread := u.matchAt?_text hbefore hafter
  rw [htail, w.matchAt?_text hbefore hafter', Option.some.injEq, Prod.mk.injEq,
    Place.mk.injEq] at hread
  obtain ⟨⟨-, rfl⟩, hkept⟩ := hread
  rw [← u.ofFound_kept, ← w.ofFound_kept, hkept, (List.append_cancel_right htail)]

/-- Without a query the only colon of a URL is that of its scheme. -/
theorem exists_text_eq_only_colon (h : '?' ∉ u.text) :
    ∃ tail, u.text = "fuchsia-pkg".toList ++ ':' :: tail ∧ ':' ∉ tail := by
  have hquery : u.query = [] := by
    rcases u.query_eq with hquery | ⟨words, hquery, -⟩
    · exact hquery
    · exact absurd (by simp [text, hquery]) h
  have hscheme : scheme = "fuchsia-pkg".toList ++ ':' :: "//".toList := by decide +kernel
  have hpackage : ':' ∉ u.package := not_mem_of_isName (by decide) u.package_name
  have hback : ':' ∉ u.back := u.not_mem_back (by decide) (by decide) (by decide)
  refine ⟨"//".toList ++ ("fuchsia.com/".toList ++ u.package) ++ '#' :: u.back, ?_, ?_⟩
  · rw [text_eq_front_back, front, hquery, hscheme]
    simp only [List.append_assoc, List.cons_append, List.append_nil]
  · simp [hpackage, hback]

/-- Within a URL without a query no other URL begins. -/
theorem eq_nil_of_text_eq_append {ys zs : List Char} (h : '?' ∉ u.text)
    (hu : u.text = ys ++ (w.text ++ zs)) : ys = [] := by
  obtain ⟨tail, htext, hcolon⟩ := exists_text_eq_only_colon h
  obtain ⟨tail', htext'⟩ := w.exists_text_eq_append_colon
  have hscheme : ':' ∉ "fuchsia-pkg".toList := by decide +kernel
  rw [htext, htext', List.append_assoc, List.cons_append, ← List.append_assoc] at hu
  obtain ⟨hys, -⟩ := (List.append_cons_inj_of_notMem hscheme hcolon).1 hu
  simpa using hys

/-- In a text without a query a URL that stands within another one is that one. -/
theorem start_eq_of_standsAt {m : Nat} (hquery : '?' ∉ text) (hu : u.StandsAt text m)
    (hw : w.StandsAt text n) (hstart : m ≤ n) (hstop : n + w.text.length ≤ m + u.text.length) :
    m = n := by
  obtain ⟨before, after, rfl, rfl, -⟩ := standsAt_iff.1 hu
  obtain ⟨before', after', htext, rfl, -⟩ := standsAt_iff.1 hw
  obtain ⟨ys, rfl, hys⟩ := Text.exists_append_of_length_le htext hstart
  rw [← List.append_assoc] at hys
  obtain ⟨zs, hzs, -⟩ := Text.exists_append_of_length_le hys.symm (by simp at hstop ⊢; omega)
  have hnil : ys = [] :=
    eq_nil_of_text_eq_append (fun h => hquery (by simp [h])) (hzs.trans (List.append_assoc ..))
  simp [hnil]

end Written

/-! ## What a scan finds -/

/-- After a word another URL cannot follow at once. -/
theorem lt_start_of_mem_findFrom {v : ComponentUrl} {c : Char} (hc : Text.isWord c = true)
    (h : v ∈ findFrom n (some c) cs) : n < v.start := by
  obtain ⟨u, before, after, -, rfl, hbefore, -⟩ := exists_append_of_mem_findFrom h
  cases before with
  | nil => simp [hbefore c rfl] at hc
  | cons b before =>
    rw [List.length_cons]
    dsimp only [Written.found]
    omega

/-- At least one character stands between a URL and the next. -/
theorem pairwise_stop_lt_start (n : Nat) (last : Option Char) (cs : List Char) :
    (findFrom n last cs).Pairwise fun u v => u.stop < v.start := by
  induction last, cs using scan_induction generalizing n with
  | nil last => exact List.Pairwise.nil
  | pass last c rest hnone ih =>
    rw [findFrom_pass hnone]
    exact ih (n + 1)
  | hit last u rest hlast hrest ih =>
    obtain ⟨d, hd, hword⟩ := u.exists_getLast?_text
    rw [findFrom_hit u hlast hrest]
    refine List.Pairwise.cons (fun v hv => ?_) (ih (n + u.text.length))
    rw [lastAfter_of_getLast? hd] at hv
    exact lt_start_of_mem_findFrom hword hv

theorem pairwise_stop_lt_start_findAll (text : List Char) :
    (findAll text).Pairwise fun u v => u.stop < v.start :=
  pairwise_stop_lt_start 0 none text

theorem exists_standsAt_of_mem_findAll {v : ComponentUrl} (h : v ∈ findAll text) :
    ∃ w : Written, w.StandsAt text v.start ∧ v = w.found v.start := by
  obtain ⟨w, before, after, rfl, rfl, hbefore, hafter⟩ := exists_append_of_mem_findFrom h
  rw [lastAfter, Option.or_none] at hbefore
  exact ⟨w, Written.standsAt_iff.2 ⟨before, after, rfl, by simp [Written.found], hbefore, hafter⟩,
    rfl⟩

theorem start_lt_stop_of_mem_findAll {v : ComponentUrl} (h : v ∈ findAll text) :
    v.start < v.stop := by
  obtain ⟨w, -, hv⟩ := exists_standsAt_of_mem_findAll h
  rw [hv]
  exact Nat.lt_add_of_pos_right (List.length_pos_iff.2 w.text_ne_nil)

/-- What is found is the text between its two offsets. -/
theorem drop_take_of_mem_findAll {v : ComponentUrl} (h : v ∈ findAll text) :
    v.stop ≤ text.length ∧ (text.take v.stop).drop v.start = v.url.toList := by
  obtain ⟨w, before, after, rfl, rfl, -, -⟩ := exists_append_of_mem_findAll h
  refine ⟨by simp [Written.found], ?_⟩
  rw [Written.found, ← List.length_append, ← List.append_assoc, List.take_left, List.drop_left,
    String.toList_ofList]

/-- What stands in a text lies within a URL that is found. -/
theorem exists_mem_findFrom_around {w : Written} {before after : List Char}
    (hcs : cs = before ++ (w.text ++ after))
    (hbefore : ∀ c ∈ lastAfter last before, Text.isWord c = false)
    (hafter : ∀ c ∈ after.head?, Text.isWord c = false) :
    ∃ v ∈ findFrom n last cs, v.start ≤ n + before.length ∧
      n + before.length + w.text.length ≤ v.stop := by
  induction last, cs using scan_induction generalizing n before with
  | nil last => simp [w.text_ne_nil] at hcs
  | pass last c rest hnone ih =>
    cases before with
    | nil => exact absurd hafter (matchAt?_eq_none_iff.1 hnone hbefore w after hcs)
    | cons b before =>
      obtain ⟨rfl, hrest⟩ := List.cons.inj hcs
      obtain ⟨v, hv, hstart, hstop⟩ := ih (n := n + 1) hrest (by simpa using hbefore)
      rw [findFrom_pass hnone, List.length_cons]
      exact ⟨v, hv, by omega, by omega⟩
  | hit last u rest hlast hrest ih =>
    rw [findFrom_hit u hlast hrest]
    rcases Nat.lt_or_ge before.length u.text.length with hlt | hle
    · -- It begins within the URL that is found first, and does not lead out of it.
      obtain ⟨zs, hzs, hfollow⟩ := Text.exists_append_of_length_le hcs.symm hlt.le
      have hne : zs ≠ [] := by
        rintro rfl
        simp [hzs] at hlt
      have hwithin := Written.length_le_of_suffix hzs hne hrest hfollow.symm
      refine ⟨u.found n, List.mem_cons_self, Nat.le_add_right _ _, ?_⟩
      have hlength : u.text.length = before.length + zs.length := by simp [hzs]
      dsimp only [Written.found]
      omega
    · obtain ⟨before', rfl, hfollow⟩ := Text.exists_append_of_length_le hcs hle
      obtain ⟨v, hv, hstart, hstop⟩ :=
        ih (n := n + u.text.length) hfollow (by simpa using hbefore)
      rw [List.length_append]
      exact ⟨v, List.mem_cons_of_mem _ hv, by omega, by omega⟩

theorem exists_mem_findAll_around {w : Written} (h : w.StandsAt text n) :
    ∃ v ∈ findAll text, v.start ≤ n ∧ n + w.text.length ≤ v.stop := by
  obtain ⟨before, after, rfl, rfl, hbefore, hafter⟩ := Written.standsAt_iff.1 h
  have hbefore : ∀ c ∈ lastAfter none before, Text.isWord c = false := by
    simpa [lastAfter] using hbefore
  obtain ⟨v, hv, hstart, hstop⟩ := exists_mem_findFrom_around (n := 0) rfl hbefore hafter
  exact ⟨v, hv, by omega, by omega⟩

/-- Without a query in the text what stands in it is found. -/
theorem found_mem_findAll {w : Written} (hquery : '?' ∉ text) (h : w.StandsAt text n) :
    w.found n ∈ findAll text := by
  obtain ⟨v, hv, hstart, hstop⟩ := exists_mem_findAll_around h
  obtain ⟨u, hu, hfound⟩ := exists_standsAt_of_mem_findAll hv
  have hsame : v.start = n := by
    refine Written.start_eq_of_standsAt hquery hu h hstart ?_
    rwa [hfound] at hstop
  rw [hsame] at hu hfound
  rwa [Written.found_eq_of_standsAt h hu, ← hfound]

/-- The URLs found in a text stand in it, one after the other with at least one character between
them, and none that stands in a text without a question mark is missed. -/
theorem findAll_exact (text : List Char) :
    ((findAll text).Pairwise fun u v => u.stop < v.start) ∧
    (∀ u ∈ findAll text, u.start < u.stop ∧
      (text.drop u.start).take (u.stop - u.start) = u.url.toList ∧
      ∃ w : Written, w.StandsAt text u.start ∧ u = w.found u.start) ∧
    ('?' ∉ text → ∀ (w : Written) (n : Nat), w.StandsAt text n → w.found n ∈ findAll text) := by
  refine ⟨pairwise_stop_lt_start_findAll text, fun u hu => ?_, fun hquery w n h =>
    found_mem_findAll hquery h⟩
  obtain ⟨w, hw, hfound⟩ := exists_standsAt_of_mem_findAll hu
  refine ⟨start_lt_stop_of_mem_findAll hu, ?_, w, hw, hfound⟩
  rw [hfound]
  simpa [Written.found] using hw.1

/-- A URL is found next to others that only begin like one. -/
theorem exists_found_mem_findAll :
    ∃ w : Written, w.text = "fuchsia-pkg://fuchsia.com/echo#meta/server.cmx".toList ∧
      w.found 48 ∈ findAll (("fuchsia-pkg://fuchsia.com/echo#meta/server.cml, " ++
        "fuchsia-pkg://fuchsia.com/echo#meta/server.cmx: " ++
        "fuchsia-pkg://fuchsia.com/echo#meta/server.cm_").toList) := by
  refine ⟨⟨"echo".toList, [], "server".toList, ['x'], by decide +kernel, by decide +kernel,
    .inl rfl, by decide +kernel, by decide +kernel, .inl rfl⟩, by decide +kernel, ?_⟩
  exact (findAll_exact _).2.2 (by decide +kernel) _ 48 (by decide +kernel)

/-! ## The URL at an offset -/

/-- Whether an offset belongs to a URL, its end included. -/
def Covers (offset : Int) (u : ComponentUrl) : Prop := (u.start : Int) ≤ offset ∧ offset ≤ u.stop

instance (offset : Int) (u : ComponentUrl) : Decidable (Covers offset u) :=
  inferInstanceAs (Decidable (_ ∧ _))

/-- Where URLs come in the order of their places, the search for an offset may stop early. -/
theorem covering?_eq_find? {us : List ComponentUrl} (h : us.Pairwise fun u v => u.start ≤ v.start) :
    covering? offset us = us.find? fun u => decide (Covers offset u) := by
  induction us with
  | nil => rfl
  | cons u us ih =>
    obtain ⟨hu, hus⟩ := List.pairwise_cons.1 h
    rw [covering?]
    split_ifs with hbefore hstop
    · -- The offset is before this URL, so it is before all that follow.
      refine (List.find?_eq_none.2 fun v hv hcover => ?_).symm
      have hle : u.start ≤ v.start := by
        rcases List.mem_cons.1 hv with rfl | hv
        · exact Nat.le_refl _
        · exact hu v hv
      obtain ⟨hstart, -⟩ : Covers offset v := of_decide_eq_true hcover
      omega
    · have hcover : Covers offset u := ⟨by omega, hstop⟩
      rw [List.find?_cons_of_pos]
      exact decide_eq_true hcover
    · rw [ih hus, List.find?_cons_of_neg]
      simp [Covers, hstop]

/-- An offset does not belong to two URLs with a character between them. -/
theorem length_filter_covers_le {us : List ComponentUrl}
    (h : us.Pairwise fun u v => u.stop < v.start) (offset : Int) :
    (us.filter fun u => decide (Covers offset u)).length ≤ 1 := by
  have happart := h.filter fun u => decide (Covers offset u)
  match hfilter : us.filter fun u => decide (Covers offset u) with
  | [] => exact Nat.zero_le 1
  | [u] => exact Nat.le_refl 1
  | u :: v :: vs =>
    have hcovers : ∀ w ∈ u :: v :: vs, Covers offset w := by
      rw [← hfilter]
      exact fun w hw => of_decide_eq_true (List.mem_filter.1 hw).2
    rw [hfilter] at happart
    obtain ⟨-, hu⟩ := hcovers u (by simp)
    obtain ⟨hv, -⟩ := hcovers v (by simp)
    have hlt := (List.pairwise_cons.1 happart).1 v (by simp)
    omega

theorem at?_eq_find? (text : List Char) (offset : Int) :
    at? text offset = (findAll text).find? fun u => decide (Covers offset u) := by
  refine covering?_eq_find? ((pairwise_stop_lt_start_findAll text).imp_of_mem ?_)
  intro u v hu hv hlt
  exact ((start_lt_stop_of_mem_findAll hu).trans hlt).le

/-- The URL at an offset is the one that is found and to which the offset belongs. -/
theorem at?_eq_some_iff {u : ComponentUrl} :
    at? text offset = some u ↔ u ∈ findAll text ∧ Covers offset u := by
  rw [at?_eq_find?]
  constructor
  · intro h
    exact ⟨List.mem_of_find?_eq_some h, by simpa using List.find?_some h⟩
  · rintro ⟨hu, hcover⟩
    have hone := length_filter_covers_le (pairwise_stop_lt_start_findAll text) offset
    have hmem : u ∈ (findAll text).filter fun u => decide (Covers offset u) :=
      List.mem_filter.2 ⟨hu, decide_eq_true hcover⟩
    obtain ⟨v, hv⟩ := List.length_eq_one_iff.1 (hone.antisymm (List.length_pos_of_mem hmem))
    rw [hv, List.mem_singleton] at hmem
    rw [← List.head?_filter, hv, hmem, List.head?_singleton]

/-- The identifier and the place of the URL at an offset are those of a URL that is found and to
which the offset belongs, its end included, and of such URLs there is at most one. -/
theorem at?_exact (text : List Char) (offset : Int) :
    (∀ (identifier : String) (start stop : Nat),
      (at? text offset).map (fun u => (u.identifier, u.start, u.stop)) =
          some (identifier, start, stop) ↔
        ∃ u ∈ findAll text, u.identifier = identifier ∧ u.start = start ∧ u.stop = stop ∧
          (start : Int) ≤ offset ∧ offset ≤ stop) ∧
    ((findAll text).filter fun u => decide (Covers offset u)).length ≤ 1 := by
  refine ⟨fun identifier start stop => ?_,
    length_filter_covers_le (pairwise_stop_lt_start_findAll text) offset⟩
  rw [Option.map_eq_some_iff]
  constructor
  · rintro ⟨u, hu, hfields⟩
    obtain ⟨hmem, hcover⟩ := at?_eq_some_iff.1 hu
    obtain ⟨rfl, rfl, rfl⟩ : u.identifier = identifier ∧ u.start = start ∧ u.stop = stop := by
      simpa using hfields
    exact ⟨u, hmem, rfl, rfl, rfl, hcover⟩
  · rintro ⟨u, hmem, rfl, rfl, rfl, hcover⟩
    exact ⟨u, at?_eq_some_iff.2 ⟨hmem, hcover⟩, rfl⟩

end ComponentLinks.ComponentUrl
