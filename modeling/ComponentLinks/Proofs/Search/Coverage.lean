import ComponentLinks.Proofs.Search.Document
import ComponentLinks.Proofs.Search.Extended
import ComponentLinks.Proofs.Search.Places

/-!
# What the search does not miss

The search looks for lines with a coarser expression than the pattern of component URLs. Every
component URL is a text that this expression stands for, so a line with a component URL is reported
by a search that reports all lines with such a text, and no place of a URL is lost.

## Main definitions

* `Search.accepts_text`: the expression accepts every URL.
* `Search.foundIn_of_findAll`: a line with a URL holds a text that the expression stands for.
* `Search.expression_covers_findAll`: what such a search reports.
-/
namespace ComponentLinks.Search

open ComponentUrl (Written findAll)

theorem Accepts.append {p : Piece} {ps : List Piece} {part rest : List Char}
    (hpart : p.Accepts part) (hrest : Accepts ps rest) : Accepts (p :: ps) (part ++ rest) :=
  ⟨part, rest, rfl, hpart, hrest⟩

/-- The expression accepts a component URL: its package and its query stand before the fragment, and
its component and the last letter of the extension after it. -/
theorem accepts_text (u : Written) : Accepts expression u.text := by
  have hbefore : ∀ c ∈ u.package ++ u.query, c ≠ '#' := by
    rintro c hc rfl
    apply u.fragment_not_mem_front
    rw [Written.front, List.mem_append, List.mem_append]
    exact .inr (.inr hc)
  have hfixed : ComponentUrl.scheme ++ "fuchsia.com/".toList =
      "fuchsia-pkg://fuchsia".toList ++ (['.'] ++ "com/".toList) := by
    decide +kernel
  have htext : u.text = "fuchsia-pkg://fuchsia".toList ++ (['.'] ++ ("com/".toList ++
      ((u.package ++ u.query) ++ ("#meta/".toList ++ (u.component ++ (".cm".toList ++
        (u.ending ++ []))))))) := by
    rw [Written.text, ← List.append_assoc ComponentUrl.scheme, hfixed]
    simp only [List.append_assoc, List.append_nil]
  have hback : Accepts [.text "#meta/", .nameRun, .text ".cm", .optional 'x']
      ("#meta/".toList ++ (u.component ++ (".cm".toList ++ (u.ending ++ [])))) :=
    .append rfl (.append u.component_name (.append rfl (.append u.ending_eq rfl)))
  rw [htext]
  exact .append rfl (.append ⟨'.', rfl⟩ (.append rfl (.append hbefore hback)))

def readExpression : Extended := .inOrder (expression.flatMap Piece.items)

theorem ofSource?_expression : Extended.ofSource? (source expression) = some readExpression :=
  Extended.ofSource?_source (by decide)

/-- A URL that is found is a text that the expression stands for. -/
theorem mem_language_of_mem_findAll {text : List Char} {u : ComponentUrl} (hu : u ∈ findAll text) :
    u.url.toList ∈ readExpression.language ∧ u.url.toList <:+: text := by
  obtain ⟨w, before, after, rfl, rfl⟩ := ComponentUrl.exists_append_of_mem_findAll hu
  rw [Written.found, String.toList_ofList]
  refine ⟨(mem_language_iff_accepts expression).2 (accepts_text w), before, after, ?_⟩
  rw [List.append_assoc]

theorem foundIn_of_findAll {text : List Char} (h : findAll text ≠ []) :
    readExpression.FoundIn text := by
  obtain ⟨u, hu⟩ := List.exists_mem_of_ne_nil _ h
  obtain ⟨hlanguage, hinfix⟩ := mem_language_of_mem_findAll hu
  exact ⟨u.url.toList, hlanguage, hinfix⟩

/-- Hits without a URL give no place. -/
theorem placesOf_filter {p : Hit → Bool} {hits : List Hit}
    (h : ∀ x ∈ hits, findAll x.text ≠ [] → p x = true) (base : Path) (id : String) :
    placesOf base (hits.filter p) id = placesOf base hits id := by
  induction hits with
  | nil => rfl
  | cons x hits ih =>
    have htail := ih fun y hy => h y (List.mem_cons_of_mem _ hy)
    by_cases hx : p x = true
    · rw [List.filter_cons_of_pos hx]
      simp only [placesOf, List.flatMap_cons] at htail ⊢
      rw [htail]
    · have hnone : findAll x.text = [] := by
        by_contra hne
        exact hx (h x List.mem_cons_self hne)
      rw [List.filter_cons_of_neg hx, htail]
      simp [placesOf, hnone]

/-- The written search expression is read, and a text with a component URL holds a text of its
language. So a search that reports every line with such a text reports every line with a component
URL, and what it reports of a document gives for every identifier the same places as all lines of
the document. -/
theorem expression_covers_findAll :
    ∃ e, Extended.ofSource? (source expression) = some e ∧
      (∀ text, findAll text ≠ [] → e.FoundIn text) ∧
      ∀ reports : List Char → Bool,
        (∀ line, '\n' ∉ line → e.FoundIn line → reports line = true) →
          (∀ line, '\n' ∉ line → findAll line ≠ [] → reports line = true) ∧
          ∀ base path text id,
            placesOf base ((documentHits path text).filter fun h => reports h.text) id =
              placesOf base (documentHits path text) id := by
  refine ⟨readExpression, ofSource?_expression, fun text => foundIn_of_findAll,
    fun reports hreports => ?_⟩
  have hlines : ∀ line, '\n' ∉ line → findAll line ≠ [] → reports line = true :=
    fun line hline hfound => hreports line hline (foundIn_of_findAll hfound)
  refine ⟨hlines, fun base path text id => placesOf_filter (fun h hmem hfound => ?_) base id⟩
  obtain ⟨i, line, hline, rfl⟩ := mem_documentHits_iff.1 hmem
  have hnewline : '\n' ∉ line := fun hc =>
    (Text.mem_and_ne_of_mem_splitOn (List.mem_of_getElem? hline) hc).2 rfl
  exact hlines line hnewline hfound

end ComponentLinks.Search
