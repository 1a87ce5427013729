import ComponentLinks.Links
import ComponentLinks.Proofs.Location
import ComponentLinks.Proofs.Url.Occurrence
import Mathlib.Data.List.Forall2

/-!
# The links of a text

The links of a document and those of a line of terminal output come from the same scan. In a
document every URL that leads to a manifest is linked, and the range of the link leads back to the
URL. In a single line the two kinds of links stand at the same places.

## Main definitions

* `DocumentLink.IsLinkOf`: a link stands at a URL of a document and leads to its manifest.
* `LinkIndex.isLinkOf_documentLinks`: every URL with a manifest is linked, in order.
* `LinkIndex.pairwise_documentLinks`: the links come one after the other.
* `LinkIndex.standsAt_terminalLinks`: the links of a document that is one line.
* `LinkIndex.links_exact`: the links of a document and of a line.
-/
namespace ComponentLinks

open ComponentUrl

/-- Two lists that are made of the same members agree where what is made of each member agrees. -/
theorem forall₂_filterMap {α β γ : Type} {P : β → γ → Prop} {f : α → Option β} {g : α → Option γ}
    {as : List α} (h : ∀ a ∈ as, Option.Rel P (f a) (g a)) :
    List.Forall₂ P (as.filterMap f) (as.filterMap g) := by
  have hsame : List.Forall₂ (fun a b => a = b ∧ a ∈ as) as as :=
    List.forall₂_same.2 fun a ha => ⟨rfl, ha⟩
  refine List.rel_filterMap ?_ hsame
  rintro a b ⟨rfl, ha⟩
  exact h a ha

namespace DocumentLink

/-- Whether a link stands in a document at a URL that was found there, and leads to the manifest of
the URL. -/
structure IsLinkOf (x : LinkIndex) (text : List Char) (u : ComponentUrl) (l : DocumentLink) :
    Prop where
  target : x.resolve u.identifier = some l.target
  start_isIn : l.range.start.IsIn text
  stop_isIn : l.range.stop.IsIn text
  start : l.range.start.offsetIn text = u.start
  stop : l.range.stop.offsetIn text = u.stop
  text : l.range.textIn text = u.url.toList

/-- Whether a link of a document stands in its first line where a link of the terminal stands, and
leads to the same manifest. -/
structure StandsAt (l : DocumentLink) (t : TerminalLink) : Prop where
  range : l.range = ⟨⟨0, t.start⟩, ⟨0, t.start + t.length⟩⟩
  target : t.target = some l.target

end DocumentLink

namespace LinkIndex

variable {x : LinkIndex} {text : List Char} {settings : Settings} {u : ComponentUrl}
  {l : DocumentLink}

/-! ## The links of a document -/

theorem documentLink?_eq_some_iff (hu : u ∈ findAll text) :
    x.documentLink? (.ofText text) u = some l ↔ x.resolve u.identifier = some l.target ∧
      l.range = ⟨.ofOffset text u.start, .ofOffset text u.stop⟩ := by
  obtain ⟨hstop, -⟩ := drop_take_of_mem_findAll hu
  have hstart : u.start ≤ text.length := (start_lt_stop_of_mem_findAll hu).le.trans hstop
  rw [documentLink?, LineIndex.positionAt_ofText hstart, LineIndex.positionAt_ofText hstop,
    Option.map_eq_some_iff]
  constructor
  · rintro ⟨target, htarget, rfl⟩
    exact ⟨htarget, rfl⟩
  · rintro ⟨htarget, hrange⟩
    exact ⟨l.target, htarget, by rw [← hrange]⟩

/-- The link that is made of a URL stands at the URL. -/
theorem isLinkOf_of_documentLink? (hu : u ∈ findAll text)
    (h : x.documentLink? (.ofText text) u = some l) : l.IsLinkOf x text u := by
  obtain ⟨htarget, hrange⟩ := (documentLink?_eq_some_iff hu).1 h
  obtain ⟨hstop, htext⟩ := drop_take_of_mem_findAll hu
  have hstart : u.start ≤ text.length := (start_lt_stop_of_mem_findAll hu).le.trans hstop
  have hfrom : l.range.start.offsetIn text = u.start := by
    rw [hrange, Position.offsetIn_ofOffset hstart]
  have hto : l.range.stop.offsetIn text = u.stop := by
    rw [hrange, Position.offsetIn_ofOffset hstop]
  exact
    { target := htarget
      start_isIn := hrange ▸ Position.isIn_ofOffset hstart
      stop_isIn := hrange ▸ Position.isIn_ofOffset hstop
      start := hfrom
      stop := hto
      text := by rw [Range.textIn, hfrom, hto, htext] }

/-- The URLs that lead to a manifest are linked, in the order in which they are found. -/
theorem isLinkOf_documentLinks (x : LinkIndex) (text : List Char) :
    List.Forall₂ (DocumentLink.IsLinkOf x text)
      ((findAll text).filter fun u => (x.resolve u.identifier).isSome)
      (x.documentLinks text) := by
  rw [documentLinks, ← List.filterMap_eq_filter]
  refine forall₂_filterMap fun u hu => ?_
  cases h : x.documentLink? (.ofText text) u with
  | none =>
    have hnone : x.resolve u.identifier = none := by simpa [documentLink?] using h
    simp only [Option.guard, hnone]
    exact .none
  | some l =>
    have hlink := isLinkOf_of_documentLink? hu h
    simp only [Option.guard, hlink.target]
    exact .some hlink

theorem precedes_of_mem_documentLinks (h : l ∈ x.documentLinks text) :
    l.range.start.Precedes l.range.stop := by
  obtain ⟨u, hu, hl⟩ := List.mem_filterMap.1 h
  rw [((documentLink?_eq_some_iff hu).1 hl).2]
  exact Position.precedes_ofOffset (start_lt_stop_of_mem_findAll hu)
    (drop_take_of_mem_findAll hu).1

/-- A link ends before the next one starts. -/
theorem pairwise_documentLinks (x : LinkIndex) (text : List Char) :
    (x.documentLinks text).Pairwise fun l m => l.range.stop.Precedes m.range.start := by
  rw [documentLinks, List.pairwise_filterMap]
  refine (pairwise_stop_lt_start_findAll text).imp_of_mem ?_
  intro u v hu hv hlt l hl m hm
  rw [((documentLink?_eq_some_iff hu).1 hl).2, ((documentLink?_eq_some_iff hv).1 hm).2]
  have hle := (start_lt_stop_of_mem_findAll hv).le
  exact Position.precedes_ofOffset hlt (hle.trans (drop_take_of_mem_findAll hv).1)

/-! ## The links of a line -/

/-- Where unresolved links are not shown, a line has the links that it has as a document. -/
theorem standsAt_terminalLinks (hshows : settings.showsUnresolved = false) (hline : '\n' ∉ text) :
    List.Forall₂ DocumentLink.StandsAt (x.documentLinks text) (x.terminalLinks settings text) := by
  refine forall₂_filterMap fun u hu => ?_
  obtain ⟨hstop, -⟩ := drop_take_of_mem_findAll hu
  have hle := (start_lt_stop_of_mem_findAll hu).le
  obtain ⟨w, before, after, -, hw⟩ := exists_append_of_mem_findAll hu
  have hlength : u.start + u.length = u.stop := by
    rw [hw, Written.length_found]
    rfl
  rw [documentLink?, LineIndex.positionAt_ofText (hle.trans hstop),
    LineIndex.positionAt_ofText hstop, Position.ofOffset_of_not_mem hline (hle.trans hstop),
    Position.ofOffset_of_not_mem hline hstop, ← hlength, terminalLink?]
  cases x.resolve u.identifier with
  | none =>
    rw [hshows]
    exact .none
  | some target => exact .some ⟨rfl, rfl⟩

/-- Where unresolved links are shown, every URL of a line is linked. -/
theorem terminalLinks_of_showsUnresolved (hshows : settings.showsUnresolved = true) :
    x.terminalLinks settings text =
      (findAll text).map fun u => ⟨u.start, u.length, x.resolve u.identifier⟩ := by
  have hlink : x.terminalLink? true =
      some ∘ fun u => ⟨u.start, u.length, x.resolve u.identifier⟩ := by
    funext u
    simp [terminalLink?]
  rw [terminalLinks, hshows, hlink, List.filterMap_eq_map]

/-- The links of a document are those of the URLs that lead to a manifest, in order: each with its
manifest and with a range that leads back to the URL, one after the other. In a line they are the
links of the terminal where unresolved links are not shown, and where these are shown, the terminal
links every URL, to a manifest if there is one. -/
theorem links_exact (x : LinkIndex) (text : List Char) :
    List.Forall₂ (DocumentLink.IsLinkOf x text)
      ((findAll text).filter fun u => (x.resolve u.identifier).isSome)
      (x.documentLinks text) ∧
    (∀ l ∈ x.documentLinks text, l.range.start.Precedes l.range.stop) ∧
    ((x.documentLinks text).Pairwise fun l m => l.range.stop.Precedes m.range.start) ∧
    ∀ settings : Settings,
      (settings.showsUnresolved = false → '\n' ∉ text →
        List.Forall₂ DocumentLink.StandsAt (x.documentLinks text)
          (x.terminalLinks settings text)) ∧
      (settings.showsUnresolved = true →
        x.terminalLinks settings text =
          (findAll text).map fun u => ⟨u.start, u.length, x.resolve u.identifier⟩) :=
  ⟨isLinkOf_documentLinks x text, fun _ => precedes_of_mem_documentLinks,
    pairwise_documentLinks x text,
    fun _ => ⟨standsAt_terminalLinks, terminalLinks_of_showsUnresolved⟩⟩

def serverManifest : Path := .ofString "/fuchsia/server.cml"

def serverIndex : LinkIndex :=
  ⟨.ofString "/fuchsia", .ofLinks false [⟨"echo", "server", serverManifest, false⟩], .empty false,
    false⟩

def echoLine : List Char :=
  ("fuchsia-pkg://fuchsia.com/echo#meta/server.cmx, " ++
    "fuchsia-pkg://fuchsia.com/echo#meta/client.cmx").toList

theorem links_exact_echoLine :
    serverIndex.documentLinks echoLine = [⟨⟨⟨0, 0⟩, ⟨0, 46⟩⟩, serverManifest⟩] ∧
      List.Forall₂ DocumentLink.StandsAt (serverIndex.documentLinks echoLine)
        (serverIndex.terminalLinks {} echoLine) ∧
      serverIndex.terminalLinks { showsUnresolved := true } echoLine =
        [⟨0, 46, some serverManifest⟩, ⟨48, 46, none⟩] := by
  obtain ⟨-, -, -, hterminal⟩ := links_exact serverIndex echoLine
  refine ⟨by decide +kernel, (hterminal {}).1 rfl (by decide +kernel), ?_⟩
  rw [(hterminal { showsUnresolved := true }).2 rfl]
  decide +kernel

end LinkIndex

end ComponentLinks
