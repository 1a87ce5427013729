import ComponentLinks.CommandLine.Console
import Mathlib.Data.List.Basic

/-!
# Markup on a console

What the commands rely on when they print markup. A markup is made of texts and tags: an opening tag
opens a style, a closing tag closes the style opened last, a backslash before a tag makes it a text,
and no tag is shown. A console that reads markup shows that, as far as it keeps what is printed: it
has room for each line, and replaces nothing in it. It refuses a closing tag where nothing is open.

## Main definitions

* `CommandLine.Markup.Piece`: the texts and tags of a markup.
* `CommandLine.Markup.Shows`, `CommandLine.Markup.ClosesNothing`: what a markup shows, and which
  markup has a tag too many.
* `CommandLine.Console.ReadsMarkup`: the consoles that read markup.
* `CommandLine.Markup.wideConsole`: one of them.
-/
namespace ComponentLinks.CommandLine

namespace Markup

/-! ## Texts and tags -/

/-- A part of a markup. A closing tag without a name closes any style. -/
inductive Piece where
  | text (cs : List Char)
  | escaped (name : List Char)
  | opening (name : List Char)
  | closing (name : List Char)
  deriving DecidableEq

/-- Whether the name of a style is written in small letters only. -/
def IsStyle (name : List Char) : Prop := name ≠ [] ∧ name.all Char.isLower = true

instance (name : List Char) : Decidable (IsStyle name) := inferInstanceAs (Decidable (_ ∧ _))

/-- Whether a text can stand before a tag: it holds no bracket, and no backslash at its end. -/
def IsPlain (cs : List Char) : Prop := '[' ∉ cs ∧ cs.getLast? ≠ some '\\'

instance (cs : List Char) : Decidable (IsPlain cs) := inferInstanceAs (Decidable (_ ∧ _))

namespace Piece

def written : Piece → List Char
  | text cs => cs
  | escaped name => '\\' :: '[' :: (name ++ [']'])
  | opening name => '[' :: (name ++ [']'])
  | closing name => '[' :: '/' :: (name ++ [']'])

def shown : Piece → List Char
  | text cs => cs
  | escaped name => '[' :: (name ++ [']'])
  | opening _ => []
  | closing _ => []

/-- Whether a part of a markup can be told from those around it. -/
def IsWritten : Piece → Prop
  | text cs => IsPlain cs
  | escaped name => IsStyle name
  | opening name => IsStyle name
  | closing name => name = [] ∨ IsStyle name

/-- The styles that are open after a part of a markup, the latest first. A closing tag closes the
latest one, if it names that or none. -/
def opened (styles : List (List Char)) : Piece → Option (List (List Char))
  | text _ => some styles
  | escaped _ => some styles
  | opening name => some (name :: styles)
  | closing name =>
    match styles with
    | [] => none
    | latest :: others => if name = [] ∨ name = latest then some others else none

end Piece

def written (ps : List Piece) : List Char := ps.flatMap Piece.written

def shown (ps : List Piece) : List Char := ps.flatMap Piece.shown

def opened (styles : List (List Char)) (ps : List Piece) : Option (List (List Char)) :=
  ps.foldlM Piece.opened styles

/-- What a markup shows in which each closing tag closes the latest style. -/
def Shows (markup : String) (cs : List Char) : Prop :=
  ∃ ps last, markup.toList = written ps ++ last ∧ cs = shown ps ++ last ∧
    (∀ p ∈ ps, p.IsWritten) ∧ '[' ∉ last ∧ (opened [] ps).isSome

/-- Whether a markup has a closing tag where no style is open, whatever comes after it. -/
def ClosesNothing (markup : String) : Prop :=
  ∃ before name rest,
    markup.toList = written before ++ ((Piece.closing name).written ++ rest) ∧
      (∀ p ∈ before, p.IsWritten) ∧ (Piece.closing name).IsWritten ∧ opened [] before = some []

end Markup

/-! ## Consoles -/

/-- The texts of a table that are read as markup. -/
def Sheet.texts (s : Sheet) : List String :=
  s.title :: s.columns.1.head :: s.columns.2.head :: s.rows.flatMap fun row => [row.1, row.2]

/-- A console reads markup, in texts as in tables, where the cells of a row stand on one line. Of
what it does not keep, for want of room or because it replaces a part of it, no more is said than
which markup it refuses. -/
structure Console.ReadsMarkup {ε : Type} (c : Console ε) (Keeps : Printed → Prop) : Prop where
  shows_markup : ∀ {markup : String} {cs : List Char}, Markup.Shows markup cs →
    Keeps (.markup markup) →
      ∃ lines, c.lines (.markup markup) = .ok lines ∧ ∃ line ∈ lines, cs <:+: line
  refuses_markup : ∀ {markup : String}, Markup.ClosesNothing markup →
    ∃ e, c.lines (.markup markup) = .error e
  shows_sheet : ∀ {s : Sheet}, (∀ t ∈ s.texts, ∃ cs, Markup.Shows t cs) → Keeps (.sheet s) →
    ∃ lines, c.lines (.sheet s) = .ok lines ∧
      (∀ cs, Markup.Shows s.title cs → ∃ line ∈ lines, cs <:+: line) ∧
      ∀ row ∈ s.rows, ∃ line ∈ lines, (∀ cs, Markup.Shows row.1 cs → cs <:+: line) ∧
        ∀ cs, Markup.Shows row.2 cs → cs <:+: line
  refuses_sheet : ∀ {s : Sheet} {t : String}, t ∈ s.texts → Markup.ClosesNothing t →
    ∃ e, c.lines (.sheet s) = .error e

theorem exists_mapM_eq_ok {ε α β : Type} {f : α → Except ε β} {P : α → β → Prop} {xs : List α}
    (h : ∀ x ∈ xs, ∃ y, f x = .ok y ∧ P x y) :
    ∃ ys, xs.mapM f = .ok ys ∧ ∀ x ∈ xs, ∃ y ∈ ys, P x y := by
  induction xs with
  | nil => exact ⟨[], rfl, by simp⟩
  | cons x xs ih =>
    obtain ⟨y, hy, hxy⟩ := h x (by simp)
    obtain ⟨ys, hys, hall⟩ := ih fun x hx => h x (by simp [hx])
    refine ⟨y :: ys, by rw [List.mapM_cons, hy, hys]; rfl, List.forall_mem_cons.2 ⟨?_, ?_⟩⟩
    · exact ⟨y, List.mem_cons_self, hxy⟩
    · exact fun x hx => (hall x hx).imp fun _ hy => ⟨List.mem_cons_of_mem _ hy.1, hy.2⟩

theorem exists_mapM_eq_error {ε α β : Type} {f : α → Except ε β} {xs : List α} {x : α} {e : ε}
    (hx : x ∈ xs) (h : f x = .error e) : ∃ e', xs.mapM f = .error e' := by
  induction xs with
  | nil => simp at hx
  | cons y ys ih =>
    rw [List.mapM_cons]
    cases hy : f y with
    | error e' => exact ⟨e', rfl⟩
    | ok b =>
      obtain rfl | hx := List.mem_cons.1 hx
      · rw [h] at hy
        cases hy
      · obtain ⟨e', he'⟩ := ih hx
        exact ⟨e', by rw [he']; rfl⟩

namespace Markup

variable {styles : List (List Char)}

@[simp] theorem written_nil : written [] = [] := rfl

@[simp] theorem written_cons (p : Piece) (ps : List Piece) :
    written (p :: ps) = p.written ++ written ps := rfl

@[simp] theorem shown_nil : shown [] = [] := rfl

@[simp] theorem shown_cons (p : Piece) (ps : List Piece) :
    shown (p :: ps) = p.shown ++ shown ps := rfl

@[simp] theorem opened_nil : opened styles [] = some styles := rfl

@[simp] theorem opened_cons (p : Piece) (ps : List Piece) :
    opened styles (p :: ps) = (p.opened styles).bind fun styles => opened styles ps := rfl

theorem IsPlain.append {xs ys : List Char} (hxs : IsPlain xs) (hys : IsPlain ys) :
    IsPlain (xs ++ ys) := by
  refine ⟨by simp [hxs.1, hys.1], ?_⟩
  rw [List.getLast?_append]
  cases hlast : ys.getLast? with
  | none => simpa using hxs.2
  | some c => simpa [hlast] using hys.2

/-- A text without a bracket is shown as it is. -/
theorem shows_of_not_mem {s : String} (h : '[' ∉ s.toList) : Shows s s.toList :=
  ⟨[], s.toList, rfl, rfl, by simp, h, rfl⟩

/-! ## A console that reads markup -/

def afterTag (styles : List (List Char)) : List Char → Option (List (List Char))
  | '/' :: name => (Piece.closing name).opened styles
  | name => (Piece.opening name).opened styles

/-- What a markup shows, read from left to right. Inside a tag, `tag` is what was read of it, the
latest character first. -/
def read (styles : List (List Char)) : (tag : Option (List Char)) → List Char → Option (List Char)
  | none, [] => some []
  | some _, [] => none
  | none, '\\' :: '[' :: rest => (read styles none rest).map ('[' :: ·)
  | none, '[' :: rest => read styles (some []) rest
  | none, c :: rest => (read styles none rest).map (c :: ·)
  | some tag, ']' :: rest => (afterTag styles tag.reverse).bind fun styles => read styles none rest
  | some tag, c :: rest => read styles (some (c :: tag)) rest

theorem read_cons {c : Char} (hc : c ≠ '[') {cs : List Char}
    (hcs : c = '\\' → cs.head? ≠ some '[') :
    read styles none (c :: cs) = (read styles none cs).map (c :: ·) := by
  rw [read.eq_def]
  split <;> simp_all

theorem read_of_not_mem {cs : List Char} (h : '[' ∉ cs) : read styles none cs = some cs := by
  induction cs with
  | nil => simp [read]
  | cons c cs ih =>
    rw [List.mem_cons, not_or] at h
    rw [read_cons (Ne.symm h.1) fun _ hhead => h.2 (List.mem_of_mem_head? hhead), ih h.2]
    rfl

theorem read_append_of_isPlain {cs : List Char} (h : IsPlain cs) (rest : List Char) :
    read styles none (cs ++ rest) = (read styles none rest).map (cs ++ ·) := by
  induction cs with
  | nil => simp
  | cons c cs ih =>
    obtain ⟨hbracket, hlast⟩ := h
    rw [List.mem_cons, not_or] at hbracket
    have hplain : IsPlain cs := ⟨hbracket.2, fun hcs => hlast (by simp [List.getLast?_cons, hcs])⟩
    -- The text goes on after a backslash, and not with a bracket.
    have hhead : c = '\\' → (cs ++ rest).head? ≠ some '[' := by
      rintro rfl hhead
      cases cs with
      | nil => exact hlast rfl
      | cons d ds => exact hbracket.2 (by simp_all)
    rw [List.cons_append, read_cons (Ne.symm hbracket.1) hhead, ih hplain]
    simp [Function.comp_def]

theorem read_tag {tag name : List Char} (h : ']' ∉ name) (rest : List Char) :
    read styles (some tag) (name ++ ']' :: rest) =
      (afterTag styles (tag.reverse ++ name)).bind fun styles => read styles none rest := by
  induction name generalizing tag with
  | nil => simp [read]
  | cons c name ih =>
    rw [List.mem_cons, not_or] at h
    rw [List.cons_append, read]
    · rw [ih h.2]
      simp
    · exact Ne.symm h.1

theorem IsStyle.not_mem {name : List Char} (h : IsStyle name) {c : Char} (hc : ¬ c.isLower = true) :
    c ∉ name :=
  fun hmem => hc (List.all_eq_true.1 h.2 c hmem)

theorem afterTag_of_isStyle {name : List Char} (h : IsStyle name) :
    afterTag styles name = some (name :: styles) := by
  unfold afterTag
  split
  · exact absurd List.mem_cons_self (h.not_mem (by decide))
  · rfl

/-- What a part of a markup shows, before any rest. -/
theorem read_piece {p : Piece} (h : p.IsWritten) (rest : List Char) :
    read styles none (p.written ++ rest) =
      (p.opened styles).bind fun styles => (read styles none rest).map (p.shown ++ ·) := by
  cases p with
  | text cs => exact read_append_of_isPlain h rest
  | escaped name =>
    have hrest : read styles none ((name ++ [']']) ++ rest) =
        (read styles none rest).map ((name ++ [']']) ++ ·) := by
      refine read_append_of_isPlain ⟨?_, by simp⟩ rest
      simpa using h.not_mem (by decide)
    simp only [Piece.written, List.cons_append, read, hrest]
    simp [Piece.opened, Piece.shown, Function.comp_def]
  | opening name =>
    simp only [Piece.written, List.cons_append, List.append_assoc, read, List.nil_append]
    rw [read_tag (h.not_mem (by decide)), List.reverse_nil, List.nil_append, afterTag_of_isStyle h]
    simp [Piece.opened, Piece.shown]
  | closing name =>
    have hname : ']' ∉ '/' :: name := by
      rcases h with rfl | h
      · decide
      · exact List.not_mem_cons_of_ne_of_not_mem (by decide) (h.not_mem (by decide))
    simp only [Piece.written, List.cons_append, List.append_assoc, read, List.nil_append]
    rw [← List.cons_append, read_tag hname]
    simp [afterTag, Piece.shown]

/-- What the parts of a markup show, before any rest. -/
theorem read_written {ps : List Piece} (h : ∀ p ∈ ps, p.IsWritten) (rest : List Char) :
    read styles none (written ps ++ rest) =
      (opened styles ps).bind fun styles => (read styles none rest).map (shown ps ++ ·) := by
  induction ps generalizing styles with
  | nil => simp
  | cons p ps ih =>
    obtain ⟨hp, hps⟩ := List.forall_mem_cons.1 h
    rw [written_cons, List.append_assoc, read_piece hp, opened_cons, Option.bind_assoc]
    congr 1
    funext styles
    rw [ih hps]
    cases opened styles ps <;> simp [Function.comp_def]

theorem read_of_shows {markup : String} {cs : List Char} (h : Shows markup cs) :
    read [] none markup.toList = some cs := by
  obtain ⟨ps, last, hmarkup, rfl, hps, hlast, hopened⟩ := h
  obtain ⟨styles, hstyles⟩ := Option.isSome_iff_exists.1 hopened
  rw [hmarkup, read_written hps, hstyles, Option.bind_some, read_of_not_mem hlast]
  rfl

theorem read_of_closesNothing {markup : String} (h : ClosesNothing markup) :
    read [] none markup.toList = none := by
  obtain ⟨before, name, rest, hmarkup, hbefore, hname, hopened⟩ := h
  rw [hmarkup, read_written hbefore, hopened, Option.bind_some, read_piece hname]
  rfl

/-- What a markup shows, unless it is refused. -/
def shownOf (markup : String) : Except Unit (List Char) :=
  match read [] none markup.toList with
  | some cs => .ok cs
  | none => .error ()

def cellsOf (row : String × String) : Except Unit (List Char × List Char) := do
  return (← shownOf row.1, ← shownOf row.2)

def spaced (before after : Nat) (cs : List Char) : List Char :=
  List.replicate before ' ' ++ (cs ++ List.replicate after ' ')

def centred (width : Nat) (cs : List Char) : List Char :=
  let room := width - cs.length
  spaced (room / 2) (room - room / 2) cs

/-- A cell, with a blank before and after the width of its column. -/
def cell (column : Column) (width : Nat) (cs : List Char) : List Char :=
  let room := width - cs.length
  if column.alignsRight then spaced (room + 1) 1 cs else spaced 1 (room + 1) cs

def edged (left middle right : Char) (cells : List Char × List Char) : List Char :=
  left :: (cells.1 ++ middle :: (cells.2 ++ [right]))

def ruled (left line middle right : Char) (widths : Nat × Nat) : List Char :=
  edged left middle right
    (List.replicate (widths.1 + 2) line, List.replicate (widths.2 + 2) line)

def rowLine (edge : Char) (columns : Column × Column) (widths : Nat × Nat)
    (cells : List Char × List Char) : List Char :=
  edged edge edge edge (cell columns.1 widths.1 cells.1, cell columns.2 widths.2 cells.2)

def drawn (columns : Column × Column) (title : List Char) (heads : List Char × List Char)
    (rows : List (List Char × List Char)) : List (List Char) :=
  let widths : Nat × Nat :=
    ((heads :: rows).foldr (fun cells width => max cells.1.length width) 0,
      (heads :: rows).foldr (fun cells width => max cells.2.length width) 0)
  [centred (widths.1 + widths.2 + 7) title, ruled '┏' '━' '┳' '┓' widths,
    rowLine '┃' columns widths heads, ruled '┡' '━' '╇' '┩' widths] ++
      rows.map (rowLine '│' columns widths) ++ [ruled '└' '─' '┴' '┘' widths]

def sheetLines (s : Sheet) : Except Unit (List (List Char)) := do
  let title ← shownOf s.title
  let heads ← cellsOf (s.columns.1.head, s.columns.2.head)
  let rows ← s.rows.mapM cellsOf
  return drawn s.columns title heads rows

/-- The lines of what is printed, none of which is broken. -/
def linesOf : Printed → Except Unit (List (List Char))
  | .markup text => (shownOf text).map fun cs => [cs]
  | .verbatim text => .ok [text.toList]
  | .styled _ text => .ok [text.toList]
  | .sheet s => sheetLines s
  | .panel title text _ => .ok [title.toList, text.toList]

/-- A console with room for any line, which frames its tables. -/
def wideConsole : Console Unit := ⟨linesOf⟩

theorem shownOf_of_shows {markup : String} {cs : List Char} (h : Shows markup cs) :
    shownOf markup = .ok cs := by
  rw [shownOf, read_of_shows h]

theorem shownOf_of_closesNothing {markup : String} (h : ClosesNothing markup) :
    shownOf markup = .error () := by
  rw [shownOf, read_of_closesNothing h]

theorem cellsOf_of_shows {row : String × String} {l r : List Char} (hl : Shows row.1 l)
    (hr : Shows row.2 r) : cellsOf row = .ok (l, r) := by
  rw [cellsOf, shownOf_of_shows hl, shownOf_of_shows hr]
  rfl

theorem cellsOf_of_closesNothing {row : String × String}
    (h : ClosesNothing row.1 ∨ ClosesNothing row.2) : cellsOf row = .error () := by
  rcases h with h | h
  · rw [cellsOf, shownOf_of_closesNothing h]
    rfl
  · rw [cellsOf, shownOf_of_closesNothing h]
    cases shownOf row.1 <;> rfl

theorem isInfix_spaced (before after : Nat) (cs : List Char) : cs <:+: spaced before after cs :=
  (List.prefix_append cs _).isInfix.trans (List.suffix_append _ _).isInfix

theorem isInfix_cell (column : Column) (width : Nat) (cs : List Char) :
    cs <:+: cell column width cs := by
  unfold cell
  dsimp only
  split <;> exact isInfix_spaced _ _ cs

theorem isInfix_rowLine (edge : Char) (columns : Column × Column) (widths : Nat × Nat)
    (cells : List Char × List Char) :
    cells.1 <:+: rowLine edge columns widths cells ∧
      cells.2 <:+: rowLine edge columns widths cells := by
  constructor
  · refine (isInfix_cell columns.1 widths.1 cells.1).trans
      ⟨[edge], edge :: (cell columns.2 widths.2 cells.2 ++ [edge]), ?_⟩
    simp [rowLine, edged]
  · refine (isInfix_cell columns.2 widths.2 cells.2).trans
      ⟨edge :: (cell columns.1 widths.1 cells.1 ++ [edge]), [edge], ?_⟩
    simp [rowLine, edged]

/-- The cells of a row stand on one line of a table, and the title on another one. -/
theorem exists_mem_drawn (columns : Column × Column) (title : List Char)
    (heads : List Char × List Char) (rows : List (List Char × List Char)) :
    (∃ line ∈ drawn columns title heads rows, title <:+: line) ∧
      ∀ cells ∈ rows, ∃ line ∈ drawn columns title heads rows,
        cells.1 <:+: line ∧ cells.2 <:+: line := by
  refine ⟨⟨_, List.mem_cons_self, isInfix_spaced _ _ title⟩, fun cells hcells => ?_⟩
  exact ⟨_, List.mem_append_left _ (List.mem_append_right _ (List.mem_map_of_mem hcells)),
    isInfix_rowLine _ _ _ cells⟩

theorem Shows.eq {markup : String} {cs ds : List Char} (h : Shows markup cs)
    (h' : Shows markup ds) : cs = ds := by
  have heq := (shownOf_of_shows h).symm.trans (shownOf_of_shows h')
  exact Except.ok.inj heq

theorem exists_sheetLines {s : Sheet} (h : ∀ t ∈ s.texts, ∃ cs, Shows t cs) :
    ∃ lines, sheetLines s = .ok lines ∧
      (∀ cs, Shows s.title cs → ∃ line ∈ lines, cs <:+: line) ∧
      ∀ row ∈ s.rows, ∃ line ∈ lines, (∀ cs, Shows row.1 cs → cs <:+: line) ∧
        ∀ cs, Shows row.2 cs → cs <:+: line := by
  simp only [Sheet.texts, List.forall_mem_cons, List.forall_mem_flatMap] at h
  obtain ⟨⟨title, htitle⟩, ⟨left, hleft⟩, ⟨right, hright⟩, hrows⟩ := h
  have hcells : ∀ row ∈ s.rows, ∃ cells, cellsOf row = .ok cells ∧
      (∀ cs, Shows row.1 cs → cs = cells.1) ∧ ∀ cs, Shows row.2 cs → cs = cells.2 := by
    intro row hrow
    obtain ⟨⟨l, hl⟩, ⟨r, hr⟩, -⟩ := hrows row hrow
    exact ⟨(l, r), cellsOf_of_shows hl hr, fun _ hcs => hcs.eq hl, fun _ hcs => hcs.eq hr⟩
  obtain ⟨rows, hlines, hall⟩ := exists_mapM_eq_ok hcells
  obtain ⟨hdrawn, hrow⟩ := exists_mem_drawn s.columns title (left, right) rows
  refine ⟨drawn s.columns title (left, right) rows, ?_, fun cs hcs => ?_, fun row hmem => ?_⟩
  · rw [sheetLines, shownOf_of_shows htitle, cellsOf_of_shows hleft hright, hlines]
    rfl
  · exact hcs.eq htitle ▸ hdrawn
  · obtain ⟨cells, hcells, hl, hr⟩ := hall row hmem
    obtain ⟨line, hline, hfirst, hsecond⟩ := hrow cells hcells
    exact ⟨line, hline, fun cs hcs => hl cs hcs ▸ hfirst, fun cs hcs => hr cs hcs ▸ hsecond⟩

theorem sheetLines_of_closesNothing {s : Sheet} {t : String} (ht : t ∈ s.texts)
    (h : ClosesNothing t) : sheetLines s = .error () := by
  have hrow : ∀ row : String × String, t = row.1 ∨ t = row.2 → cellsOf row = .error () := by
    rintro row (rfl | rfl)
    · exact cellsOf_of_closesNothing (.inl h)
    · exact cellsOf_of_closesNothing (.inr h)
  have hcases : t = s.title ∨ (t = s.columns.1.head ∨ t = s.columns.2.head) ∨
      ∃ row ∈ s.rows, t = row.1 ∨ t = row.2 := by
    simpa [Sheet.texts, or_assoc] using ht
  rcases hcases with rfl | hheads | ⟨row, hmem, hcell⟩
  · rw [sheetLines, shownOf_of_closesNothing h]
    rfl
  · rw [sheetLines, hrow (s.columns.1.head, s.columns.2.head) hheads]
    cases shownOf s.title <;> rfl
  · obtain ⟨_, herror⟩ := exists_mapM_eq_error hmem (hrow row hcell)
    rw [sheetLines, herror]
    cases shownOf s.title <;> cases cellsOf (s.columns.1.head, s.columns.2.head) <;> rfl

theorem wideConsole_readsMarkup : wideConsole.ReadsMarkup fun _ => True where
  shows_markup h _ :=
    ⟨_, congrArg (Except.map fun cs => [cs]) (shownOf_of_shows h), _, List.mem_singleton_self _,
      List.infix_refl _⟩
  refuses_markup h :=
    ⟨(), congrArg (Except.map fun cs => [cs]) (shownOf_of_closesNothing h)⟩
  shows_sheet h _ := exists_sheetLines h
  refuses_sheet ht h := ⟨(), sheetLines_of_closesNothing ht h⟩

end Markup

end ComponentLinks.CommandLine
