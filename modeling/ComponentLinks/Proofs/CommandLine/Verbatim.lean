import ComponentLinks.CommandLine.Call
import ComponentLinks.Proofs.CommandLine.Markup
import ComponentLinks.Proofs.Text.Ascii

/-!
# Data in markup

The commands put identifiers, manifests, component URLs and the names of files into markup as they
are. Those without brackets are shown as they are by every console that reads markup, if it keeps
what is printed. A closing tag in them closes a style of the command itself, or nothing at all, and
the command ends there.

## Main definitions

* `CommandLine.Command.Prints`, `CommandLine.Command.IsRefused`: what becomes of a command on a
  console.
* `CommandLine.HasTaglessManifest`, `CommandLine.HasLoneClosing`: data without brackets, and data
  with a closing tag.
* `CommandLine.Command.shown_verbatim`: when the commands show data as they are.
-/
namespace ComponentLinks.CommandLine

open Markup

/-! ## Printing -/

namespace Console

variable {α ε : Type} {c : Console ε} {p : α → Printed} {xs : List α}

theorem exists_printAll {P : α → List Char → Prop}
    (h : ∀ x ∈ xs, ∃ lines, c.lines (p x) = .ok lines ∧ ∃ line ∈ lines, P x line) :
    ∃ lines, c.printAll (xs.map p) = .ok lines ∧ ∀ x ∈ xs, ∃ line ∈ lines, P x line := by
  obtain ⟨shown, hshown, hall⟩ := exists_mapM_eq_ok h
  refine ⟨shown.flatten, by rw [printAll, List.mapM_map]; exact congrArg _ hshown, fun x hx => ?_⟩
  obtain ⟨lines, hlines, line, hline, hP⟩ := hall x hx
  exact ⟨line, List.mem_flatten.2 ⟨lines, hlines, hline⟩, hP⟩

theorem printAll_singleton (q : Printed) : c.printAll [q] = c.lines q := by
  rw [printAll, List.mapM_cons]
  cases c.lines q with
  | error e => rfl
  | ok lines => simp [pure, bind, Except.pure, Except.bind, Except.map]

theorem exists_printAll_eq_error {ps : List Printed} {q : Printed} (hq : q ∈ ps)
    (h : ∃ e, c.lines q = .error e) : ∃ e, c.printAll ps = .error e := by
  obtain ⟨e, he⟩ := h
  obtain ⟨e', he'⟩ := exists_mapM_eq_error hq he
  exact ⟨e', by rw [printAll, he']; rfl⟩

end Console

namespace Command

variable {ε : Type}

/-- A command prints on a console up to its end, and shows these lines. -/
def Prints (command : Command) (c : Console ε) (files : Files) (w : Workspace)
    (lines : List (List Char)) : Prop :=
  ∃ ps, command.printed files w = .ok ps ∧ c.printAll ps = .ok lines

/-- A console refuses something that a command prints, and the command ends there. -/
def IsRefused (command : Command) (c : Console ε) (files : Files) (w : Workspace) : Prop :=
  ∃ ps e, command.printed files w = .ok ps ∧ c.printAll ps = .error e

end Command

/-! ## Data in a style -/

/-- Whether a text holds a closing tag without a name, and no other tag. -/
def HasLoneClosing (cs : List Char) : Prop :=
  ∃ xs ys, cs = xs ++ '[' :: '/' :: ']' :: ys ∧ IsPlain xs ∧ IsPlain ys

theorem HasLoneClosing.closesNothing {s : String} (h : HasLoneClosing s.toList) :
    ClosesNothing s := by
  obtain ⟨xs, ys, hs, hxs, -⟩ := h
  exact ⟨[.text xs], [], ys, by simp [hs, Piece.written], by simp [Piece.IsWritten, hxs],
    .inl rfl, rfl⟩

theorem HasLoneClosing.append_left {cs before : List Char} (h : HasLoneClosing cs)
    (hbefore : IsPlain before) : HasLoneClosing (before ++ cs) := by
  obtain ⟨xs, ys, rfl, hxs, hys⟩ := h
  exact ⟨before ++ xs, ys, by simp, hbefore.append hxs, hys⟩

section Styled

variable {markup : String} {style cs rest : List Char}
  (hmarkup : markup.toList =
    (Piece.opening style).written ++ (cs ++ ((Piece.closing []).written ++ rest)))
  (hstyle : IsStyle style)

include hmarkup hstyle

theorem shows_styled (hcs : IsPlain cs) (hrest : '[' ∉ rest) : Shows markup (cs ++ rest) :=
  ⟨[.opening style, .text cs, .closing []], rest, by simp [hmarkup, Piece.written],
    by simp [Piece.shown],
    by simp [Piece.IsWritten, hstyle, hcs], hrest, by simp [Piece.opened]⟩

/-- In a style, a lone closing tag closes that style, and the closing tag of the style nothing. -/
theorem closesNothing_styled (hcs : HasLoneClosing cs) : ClosesNothing markup := by
  obtain ⟨xs, ys, rfl, hxs, hys⟩ := hcs
  exact ⟨[.opening style, .text xs, .closing [], .text ys], [], rest,
    by simp [hmarkup, Piece.written], by simp [Piece.IsWritten, hstyle, hxs, hys], .inl rfl,
    by simp [Piece.opened]⟩

/-- A closing tag after a style has nothing to close. -/
theorem closesNothing_after_style (hcs : IsPlain cs) (hrest : HasLoneClosing rest) :
    ClosesNothing markup := by
  obtain ⟨xs, ys, rfl, hxs, -⟩ := hrest
  exact ⟨[.opening style, .text cs, .closing [], .text xs], [], ys,
    by simp [hmarkup, Piece.written], by simp [Piece.IsWritten, hstyle, hcs, hxs], .inl rfl,
    by simp [Piece.opened]⟩

end Styled

/-! ## Identifiers -/

/-- The manifest of an identifier holds no bracket, if there is one. -/
def HasTaglessManifest (x : LinkIndex) (id : String) : Prop :=
  ∀ m, x.resolve id = some m → '[' ∉ m.toString.toList

/-- A line that holds a text and the manifest of an identifier, if it has one. -/
structure HoldsWithManifest (x : LinkIndex) (id : String) (text line : List Char) : Prop where
  text : text <:+: line
  manifest : ∀ m, x.resolve id = some m → m.toString.toList <:+: line

/-- The manifest that is printed for an identifier, or that there is none. -/
def manifestText (x : LinkIndex) (id : String) : List Char :=
  match x.resolve id with
  | some m => m.toString.toList
  | none => "not found".toList

theorem manifestText_of_resolve {x : LinkIndex} {id : String} {m : Path}
    (h : x.resolve id = some m) : manifestText x id = m.toString.toList := by
  rw [manifestText, h]

theorem HasTaglessManifest.not_mem {x : LinkIndex} {id : String} (h : HasTaglessManifest x id) :
    '[' ∉ manifestText x id := by
  unfold manifestText
  split
  · rename_i m hm
    exact h m hm
  · decide

/-- An identifier is printed in a style, and its manifest after that. -/
theorem toList_resolvedMarkup (x : LinkIndex) (id : String) :
    ∃ style, IsStyle style ∧ (resolvedMarkup x id).toList =
      (Piece.opening style).written ++ (id.toList ++ ((Piece.closing []).written ++
        (':' :: ' ' :: manifestText x id))) := by
  unfold resolvedMarkup manifestText
  cases x.resolve id with
  | none => exact ⟨"red".toList, by decide, by simp [toString, Piece.written]⟩
  | some m => exact ⟨"green".toList, by decide, by simp [toString, Piece.written]⟩

theorem shows_resolvedMarkup {x : LinkIndex} {id : String} (hid : IsPlain id.toList)
    (hmanifest : HasTaglessManifest x id) :
    Shows (resolvedMarkup x id) (id.toList ++ (':' :: ' ' :: manifestText x id)) := by
  obtain ⟨style, hstyle, hmarkup⟩ := toList_resolvedMarkup x id
  exact shows_styled hmarkup hstyle hid (by simpa using hmanifest.not_mem)

theorem closesNothing_resolvedMarkup {x : LinkIndex} {id : String}
    (h : HasLoneClosing id.toList ∨
      IsPlain id.toList ∧ ∃ m, x.resolve id = some m ∧ HasLoneClosing m.toString.toList) :
    ClosesNothing (resolvedMarkup x id) := by
  obtain ⟨style, hstyle, hmarkup⟩ := toList_resolvedMarkup x id
  rcases h with h | ⟨hid, m, hm, h⟩
  · exact closesNothing_styled hmarkup hstyle h
  · rw [← manifestText_of_resolve hm] at h
    have hcolon : IsPlain [':', ' '] := by decide
    exact closesNothing_after_style hmarkup hstyle hid (h.append_left hcolon)

/-! ## Manifests without references -/

theorem toList_unreferencedMarkup (manifest : String) :
    (unreferencedMarkup manifest).toList = (Piece.opening "dim".toList).written ++
      (("No references to ".toList ++ manifest.toList) ++ ((Piece.closing []).written ++ [])) := by
  have hfront : "[dim]No references to ".toList =
      (Piece.opening "dim".toList).written ++ "No references to ".toList := by decide
  have hmarkup : unreferencedMarkup manifest =
      "[dim]No references to " ++ manifest ++ "[/]" := rfl
  have hback : "[/]".toList = (Piece.closing []).written ++ [] := by decide
  rw [hmarkup, String.toList_append, String.toList_append, hfront, hback]
  simp only [List.append_assoc]

theorem isPlain_unreferenced : IsPlain "No references to ".toList := by decide

theorem shows_unreferencedMarkup {manifest : String} (h : IsPlain manifest.toList) :
    Shows (unreferencedMarkup manifest) ("No references to ".toList ++ manifest.toList) := by
  have hshows := shows_styled (toList_unreferencedMarkup manifest) (by decide)
    (isPlain_unreferenced.append h) List.not_mem_nil
  rwa [List.append_nil] at hshows

theorem closesNothing_unreferencedMarkup {manifest : String} (h : HasLoneClosing manifest.toList) :
    ClosesNothing (unreferencedMarkup manifest) :=
  closesNothing_styled (toList_unreferencedMarkup manifest) (by decide)
    (h.append_left isPlain_unreferenced)

/-! ## Component URLs of a file -/

/-- The component URLs in a text that have a row. -/
def shownUrls (w : Workspace) (text : List Char) : List ComponentUrl :=
  (ComponentUrl.findAll text).filter fun u =>
    (w.index.resolve u.identifier).isSome || w.settings.showsUnresolved

def manifestMarkup (x : LinkIndex) (u : ComponentUrl) : String :=
  match x.resolve u.identifier with
  | some manifest => manifest.toString
  | none => "[red]not found[/]"

theorem rows_linkSheet (w : Workspace) (file : String) (text : List Char) :
    (linkSheet w file text).rows =
      (shownUrls w text).map fun u => (u.url, manifestMarkup w.index u) := by
  rw [shownUrls, ← List.filterMap_eq_map, ← List.filterMap_eq_filter, List.filterMap_filterMap]
  refine List.filterMap_congr fun u _ => ?_
  rw [linkRow?]
  cases hresolve : w.index.resolve u.identifier <;> cases w.settings.showsUnresolved <;>
    simp [Option.guard, manifestMarkup, hresolve]

theorem shows_manifestMarkup {x : LinkIndex} {u : ComponentUrl}
    (h : HasTaglessManifest x u.identifier) :
    Shows (manifestMarkup x u) (manifestText x u.identifier) := by
  unfold manifestMarkup manifestText
  split
  · rename_i m hm
    exact shows_of_not_mem (h m hm)
  · have hmarkup : "[red]not found[/]".toList = (Piece.opening "red".toList).written ++
        ("not found".toList ++ ((Piece.closing []).written ++ [])) := by decide
    exact shows_styled hmarkup (by decide) (by decide) List.not_mem_nil

theorem closesNothing_manifestMarkup {x : LinkIndex} {u : ComponentUrl} {m : Path}
    (hm : x.resolve u.identifier = some m) (h : HasLoneClosing m.toString.toList) :
    ClosesNothing (manifestMarkup x u) := by
  rw [manifestMarkup, hm]
  exact h.closesNothing

theorem texts_linkSheet (w : Workspace) (file : String) (text : List Char) :
    (linkSheet w file text).texts = file :: "Component URL" :: "Manifest" ::
      (shownUrls w text).flatMap fun u => [u.url, manifestMarkup w.index u] := by
  rw [Sheet.texts, rows_linkSheet, List.flatMap_map]
  rfl

theorem exists_mem_texts_of_hasLoneClosing {w : Workspace} {file : String} {text : List Char}
    (h : HasLoneClosing file.toList ∨ ∃ u ∈ shownUrls w text, HasLoneClosing u.url.toList ∨
      ∃ m, w.index.resolve u.identifier = some m ∧ HasLoneClosing m.toString.toList) :
    ∃ t ∈ (linkSheet w file text).texts, ClosesNothing t := by
  rw [texts_linkSheet]
  rcases h with h | ⟨u, hu, h | ⟨m, hm, h⟩⟩
  · exact ⟨file, by simp, h.closesNothing⟩
  · exact ⟨u.url, by simp only [List.mem_cons, List.mem_flatMap]; grind, h.closesNothing⟩
  · exact ⟨manifestMarkup w.index u, by simp only [List.mem_cons, List.mem_flatMap]; grind,
      closesNothing_manifestMarkup hm h⟩

/-! ## What is shown -/

section Shown

variable {ε : Type} {c : Console ε} {Keeps : Printed → Prop} {w : Workspace}

theorem exists_resolved (hc : c.ReadsMarkup Keeps) {x : LinkIndex} {ids : List String}
    (h : ∀ id ∈ ids, IsPlain id.toList ∧ HasTaglessManifest x id ∧
      Keeps (.markup (resolvedMarkup x id))) :
    ∃ lines, c.printAll (ids.map fun id => .markup (resolvedMarkup x id)) = .ok lines ∧
      ∀ id ∈ ids, ∃ line ∈ lines, HoldsWithManifest x id id.toList line := by
  refine Console.exists_printAll fun id hid => ?_
  obtain ⟨hplain, hmanifest, hkeeps⟩ := h id hid
  obtain ⟨lines, hlines, line, hline, hshown⟩ :=
    hc.shows_markup (shows_resolvedMarkup hplain hmanifest) hkeeps
  refine ⟨lines, hlines, line, hline, (List.prefix_append _ _).isInfix.trans hshown,
    fun m hm => ?_⟩
  rw [manifestText_of_resolve hm] at hshown
  have hsuffix : m.toString.toList <:+ id.toList ++ (':' :: ' ' :: m.toString.toList) :=
    ⟨id.toList ++ [':', ' '], by simp⟩
  exact hsuffix.isInfix.trans hshown

theorem exists_unreferenced (hc : c.ReadsMarkup Keeps) {manifest : String}
    (hplain : IsPlain manifest.toList) (hkeeps : Keeps (.markup (unreferencedMarkup manifest))) :
    ∃ lines, c.printAll [.markup (unreferencedMarkup manifest)] = .ok lines ∧
      ∃ line ∈ lines, manifest.toList <:+: line := by
  obtain ⟨lines, hlines, line, hline, hshown⟩ :=
    hc.shows_markup (shows_unreferencedMarkup hplain) hkeeps
  exact ⟨lines, by rw [Console.printAll_singleton, hlines], line, hline,
    (List.suffix_append _ _).isInfix.trans hshown⟩

theorem exists_links (hc : c.ReadsMarkup Keeps) {file : String} {text : List Char}
    (hfile : '[' ∉ file.toList)
    (hurls : ∀ u ∈ shownUrls w text, '[' ∉ u.url.toList ∧ HasTaglessManifest w.index u.identifier)
    (hkeeps : Keeps (.sheet (linkSheet w file text))) :
    ∃ lines, c.printAll [.sheet (linkSheet w file text)] = .ok lines ∧
      (∃ line ∈ lines, file.toList <:+: line) ∧
      ∀ u ∈ shownUrls w text, ∃ line ∈ lines,
        HoldsWithManifest w.index u.identifier u.url.toList line := by
  have htexts : ∀ t ∈ (linkSheet w file text).texts, ∃ cs, Shows t cs := by
    rw [texts_linkSheet]
    simp only [List.forall_mem_cons, List.forall_mem_flatMap]
    refine ⟨⟨_, shows_of_not_mem hfile⟩, ⟨_, shows_of_not_mem (by decide)⟩,
      ⟨_, shows_of_not_mem (by decide)⟩, fun u hu => ?_⟩
    exact ⟨⟨_, shows_of_not_mem (hurls u hu).1⟩, ⟨_, shows_manifestMarkup (hurls u hu).2⟩, by simp⟩
  obtain ⟨lines, hlines, htitle, hrows⟩ := hc.shows_sheet htexts hkeeps
  refine ⟨lines, by rw [Console.printAll_singleton, hlines], htitle _ (shows_of_not_mem hfile),
    fun u hu => ?_⟩
  rw [rows_linkSheet, List.forall_mem_map] at hrows
  obtain ⟨line, hline, hurl, hmanifest⟩ := hrows u hu
  refine ⟨line, hline, hurl _ (shows_of_not_mem (hurls u hu).1), fun m hm => ?_⟩
  rw [← manifestText_of_resolve hm]
  exact hmanifest _ (shows_manifestMarkup (hurls u hu).2)

theorem isRefused_resolve (hc : c.ReadsMarkup Keeps) (files : Files) {ids : List String}
    {id : String} (hid : id ∈ ids) (h : ClosesNothing (resolvedMarkup w.index id)) :
    (Command.resolve ids).IsRefused c files w := by
  obtain ⟨e, he⟩ := Console.exists_printAll_eq_error
    (List.mem_map_of_mem (f := fun id => Printed.markup (resolvedMarkup w.index id)) hid)
    (hc.refuses_markup h)
  exact ⟨_, e, rfl, he⟩

end Shown

/-! ## Commands -/

/-- What each command shows of data without brackets, on every console that reads markup: each
identifier with its manifest, each manifest without references, and the name of a file with the
component URLs that have a row and their manifests. A closing tag in any of them ends the
command. -/
theorem Command.shown_verbatim {ε : Type} {c : Console ε} {Keeps : Printed → Prop}
    (hc : c.ReadsMarkup Keeps) (files : Files) (w : Workspace) :
    (∀ ids : List String,
      (∀ id ∈ ids, IsPlain id.toList ∧ HasTaglessManifest w.index id ∧
        Keeps (.markup (resolvedMarkup w.index id))) →
      ∃ lines, (Command.resolve ids).Prints c files w lines ∧
        ∀ id ∈ ids, ∃ line ∈ lines, HoldsWithManifest w.index id id.toList line) ∧
    (∀ manifest : String, (w.index.referencesTo (.ofString manifest)).getD [] = [] →
      IsPlain manifest.toList → Keeps (.markup (unreferencedMarkup manifest)) →
      ∃ lines, (Command.references manifest).Prints c files w lines ∧
        ∃ line ∈ lines, manifest.toList <:+: line) ∧
    (∀ (file : String) (text : List Char), files.text (Path.ofString file).toString = .ok text →
      '[' ∉ file.toList →
      (∀ u ∈ shownUrls w text, '[' ∉ u.url.toList ∧ HasTaglessManifest w.index u.identifier) →
      Keeps (.sheet (linkSheet w file text)) →
      ∃ lines, (Command.links file).Prints c files w lines ∧
        (∃ line ∈ lines, file.toList <:+: line) ∧
        ∀ u ∈ shownUrls w text, ∃ line ∈ lines,
          HoldsWithManifest w.index u.identifier u.url.toList line) ∧
    (∀ ids : List String, (∃ id ∈ ids, HasLoneClosing id.toList ∨ IsPlain id.toList ∧
        ∃ m, w.index.resolve id = some m ∧ HasLoneClosing m.toString.toList) →
      (Command.resolve ids).IsRefused c files w) ∧
    (∀ manifest : String, (w.index.referencesTo (.ofString manifest)).getD [] = [] →
      HasLoneClosing manifest.toList → (Command.references manifest).IsRefused c files w) ∧
    ∀ (file : String) (text : List Char), files.text (Path.ofString file).toString = .ok text →
      (HasLoneClosing file.toList ∨ ∃ u ∈ shownUrls w text, HasLoneClosing u.url.toList ∨
        ∃ m, w.index.resolve u.identifier = some m ∧ HasLoneClosing m.toString.toList) →
      (Command.links file).IsRefused c files w := by
  refine ⟨fun ids hids => ?_, fun manifest hnone hplain hkeeps => ?_,
    fun file text hread hfile hurls hkeeps => ?_, fun ids ⟨id, hid, h⟩ => ?_,
    fun manifest hnone h => ?_, fun file text hread h => ?_⟩
  · obtain ⟨lines, hlines, hshown⟩ := exists_resolved hc hids
    exact ⟨lines, ⟨_, rfl, hlines⟩, hshown⟩
  · obtain ⟨lines, hlines, hshown⟩ := exists_unreferenced hc hplain hkeeps
    exact ⟨lines, ⟨_, by rw [Command.printed, referencesPrinted, hnone], hlines⟩, hshown⟩
  · obtain ⟨lines, hlines, hshown⟩ := exists_links hc hfile hurls hkeeps
    exact ⟨lines, ⟨_, by rw [Command.printed, hread]; rfl, hlines⟩, hshown⟩
  · exact isRefused_resolve hc files hid (closesNothing_resolvedMarkup h)
  · obtain ⟨e, he⟩ := hc.refuses_markup (closesNothing_unreferencedMarkup h)
    refine ⟨_, e, by rw [Command.printed, referencesPrinted, hnone], ?_⟩
    rw [Console.printAll_singleton, he]
  · -- One text with a tag too many is enough for a table to be refused.
    obtain ⟨t, ht, hclosing⟩ := exists_mem_texts_of_hasLoneClosing h
    obtain ⟨e, he⟩ := hc.refuses_sheet ht hclosing
    refine ⟨_, e, by rw [Command.printed, hread]; rfl, ?_⟩
    rw [Console.printAll_singleton, he]

/-! ## An example -/

def echoText : List Char := "open(fuchsia-pkg://fuchsia.com/echo#meta/server.cm)".toList

/-- A file with the text, and an empty one with a closing tag in its path. -/
def echoFiles : Files := ⟨[("main.cc", .ok (Text.asciiBytes echoText)), ("a[/]b", .ok [])]⟩

def echoWorkspace : Workspace where
  base := .ofString "/fuchsia"
  settings := {}
  index :=
    ⟨.ofString "/fuchsia",
      .ofLinks false [⟨"echo", "server", .ofString "/fuchsia/server.cml", false⟩],
      .empty false, false⟩
  diagnostics := []

theorem resolve_echoWorkspace :
    echoWorkspace.index.resolve "echo/server" = some (.ofString "/fuchsia/server.cml") := by
  decide +kernel

theorem shownUrls_echoText :
    shownUrls echoWorkspace echoText =
      [⟨"fuchsia-pkg://fuchsia.com/echo#meta/server.cm", "echo", "server", 5, 50⟩] := by
  decide +kernel

theorem toString_echoManifest :
    (Path.ofString "/fuchsia/server.cml").toString = "/fuchsia/server.cml" := by
  decide +kernel

theorem hasTaglessManifest_echoWorkspace :
    HasTaglessManifest echoWorkspace.index "echo/server" := by
  intro m h
  rw [resolve_echoWorkspace, Option.some.injEq] at h
  rw [← h, toString_echoManifest]
  decide

theorem hasLoneClosing_closingTag : HasLoneClosing "a[/]b".toList :=
  ⟨['a'], ['b'], by decide, by decide, by decide⟩

/-- The identifier, the manifest and the component URL are shown, and so is the name of another
manifest; a closing tag ends each of the commands. -/
theorem Command.shown_verbatim_echo :
    (∃ lines, (Command.resolve ["echo/server"]).Prints wideConsole echoFiles echoWorkspace lines ∧
      ∃ line ∈ lines, "echo/server".toList <:+: line ∧ "/fuchsia/server.cml".toList <:+: line) ∧
    (∃ lines, (Command.references "client.cml").Prints wideConsole echoFiles echoWorkspace lines ∧
      ∃ line ∈ lines, "client.cml".toList <:+: line) ∧
    (∃ lines, (Command.links "main.cc").Prints wideConsole echoFiles echoWorkspace lines ∧
      (∃ line ∈ lines, "main.cc".toList <:+: line) ∧
      ∃ line ∈ lines, "fuchsia-pkg://fuchsia.com/echo#meta/server.cm".toList <:+: line ∧
        "/fuchsia/server.cml".toList <:+: line) ∧
    (Command.resolve ["echo/server", "a[/]b"]).IsRefused wideConsole echoFiles echoWorkspace ∧
    (Command.references "a[/]b").IsRefused wideConsole echoFiles echoWorkspace ∧
    (Command.links "a[/]b").IsRefused wideConsole echoFiles echoWorkspace := by
  obtain ⟨hresolve, hreferences, hlinks, hresolveTag, hreferencesTag, hlinksTag⟩ :=
    Command.shown_verbatim wideConsole_readsMarkup echoFiles echoWorkspace
  have hread : echoFiles.text (Path.ofString "main.cc").toString = .ok echoText :=
    Files.text_of_ascii (by decide +kernel) (by decide +kernel) (by decide +kernel)
  have hreadTag : echoFiles.text (Path.ofString "a[/]b").toString = .ok [] :=
    Files.text_of_ascii (by decide +kernel) (by decide +kernel) (by decide +kernel)
  have hurls : ∀ u ∈ shownUrls echoWorkspace echoText, '[' ∉ u.url.toList ∧
      HasTaglessManifest echoWorkspace.index u.identifier := by
    rw [shownUrls_echoText]
    exact List.forall_mem_singleton.2 ⟨by decide, hasTaglessManifest_echoWorkspace⟩
  refine ⟨?_, ?_, ?_, ?_, ?_, ?_⟩
  · obtain ⟨lines, hlines, hshown⟩ := hresolve ["echo/server"] (List.forall_mem_singleton.2
      ⟨by decide, hasTaglessManifest_echoWorkspace, trivial⟩)
    obtain ⟨line, hline, hid, hmanifest⟩ := hshown _ (List.mem_singleton_self _)
    have hmanifest := hmanifest _ resolve_echoWorkspace
    rw [toString_echoManifest] at hmanifest
    exact ⟨lines, hlines, line, hline, hid, hmanifest⟩
  · exact hreferences "client.cml" (by decide +kernel) (by decide) trivial
  · obtain ⟨lines, hlines, hfile, hshown⟩ := hlinks "main.cc" echoText hread (by decide) hurls
      trivial
    obtain ⟨line, hline, hurl, hmanifest⟩ := hshown _ (by
      rw [shownUrls_echoText]
      exact List.mem_singleton_self _)
    have hmanifest := hmanifest _ resolve_echoWorkspace
    rw [toString_echoManifest] at hmanifest
    exact ⟨lines, hlines, hfile, line, hline, hurl, hmanifest⟩
  · exact hresolveTag _ ⟨"a[/]b", by simp, .inl hasLoneClosing_closingTag⟩
  · exact hreferencesTag _ (by decide +kernel) hasLoneClosing_closingTag
  · exact hlinksTag "a[/]b" [] hreadTag (.inl hasLoneClosing_closingTag)

/-- The closing tag in `a[/]b` ends the command. -/
theorem Command.isRefused_closingTag :
    (Command.resolve ["a[/]b"]).IsRefused wideConsole .none (.blank (.ofString "/fuchsia") {}) :=
  isRefused_resolve wideConsole_readsMarkup .none (List.mem_singleton_self _)
    (closesNothing_resolvedMarkup (.inl hasLoneClosing_closingTag))

end ComponentLinks.CommandLine
