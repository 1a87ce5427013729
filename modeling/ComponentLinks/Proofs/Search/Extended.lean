import ComponentLinks.Search.Expression
import Mathlib.Computability.Language

/-!
# Extended regular expressions

The search is given its expression as a text in the notation of extended regular expressions. Here
such a text is read, and what is read stands for a language: the texts that the search looks for in
a line. Reading the written form of the pieces of an expression gives back the texts that the pieces
accept.

Of the notation, these signs are read: a character that stands for itself, with a backslash before
it if it is a sign; `.` for any character, `\w` for a word character and `[^c]` for any character
but `c`; a group in parentheses, a bar between alternatives, a star and a question mark. No other
text is read.

## Main definitions

* `Search.Extended`: extended regular expressions.
* `Search.Extended.language`: the language of an expression.
* `Search.Extended.ofSource?`: reading an expression.
* `Search.Extended.ofSource?_source`: what is read in the written form of pieces.
* `Search.Piece.mem_language_items_iff`: the language of pieces.
-/
namespace ComponentLinks.Search

open Computability

/-- An extended regular expression. -/
inductive Extended where
  | nothing
  | one (t : CharClass)
  | seq (p q : Extended)
  | alt (p q : Extended)
  | many (p : Extended)
  | opt (p : Extended)
  deriving Repr, DecidableEq

namespace Extended

/-- The texts that an expression stands for. -/
def language : Extended → Language Char
  | nothing => 1
  | one t => {cs | ∃ c, t.has c = true ∧ cs = [c]}
  | seq p q => p.language * q.language
  | alt p q => p.language + q.language
  | many p => p.language∗
  | opt p => p.language + 1

def inOrder : List Extended → Extended
  | [] => nothing
  | p :: ps => seq p (inOrder ps)

def char (c : Char) : Extended := one (.oneOf [c])

/-- Whether a line holds a text that the expression stands for. -/
def FoundIn (e : Extended) (line : List Char) : Prop := ∃ part ∈ e.language, part <:+: line

end Extended

/-! ## Reading an expression -/

/-- The signs of a written expression. -/
inductive Sign where
  | opening
  | closing
  | bar
  | star
  | question
  | item (t : CharClass)
  deriving Repr, DecidableEq

namespace Sign

/-- The sign that a character stands for without a backslash before it. -/
def plain? (c : Char) : Option Sign :=
  if c = '(' then some opening
  else if c = ')' then some closing
  else if c = '|' then some bar
  else if c = '*' then some star
  else if c = '?' then some question
  else if c = '.' then some (item .any)
  else if patternSigns.contains c then none
  else some (item (.oneOf [c]))

/-- The sign that a character stands for with a backslash before it. -/
def escaped? (c : Char) : Option Sign :=
  if c = 'w' then some (item .word)
  else if patternSigns.contains c then some (item (.oneOf [c]))
  else none

def ofChars? : List Char → Option (List Sign)
  | [] => some []
  | '\\' :: c :: cs => (escaped? c).bind fun s => (ofChars? cs).map (s :: ·)
  | '[' :: '^' :: c :: ']' :: cs => (ofChars? cs).map (item (.noneOf [c]) :: ·)
  | c :: cs => (plain? c).bind fun s => (ofChars? cs).map (s :: ·)

end Sign

/-- An expression that is being read: the alternatives before the last bar, if there is a bar, and
the items after it, the latest first. -/
structure Draft where
  before : Option Extended
  items : List Extended

namespace Draft

def empty : Draft := ⟨none, []⟩

def closed (d : Draft) : Extended :=
  match d.before with
  | none => .inOrder d.items.reverse
  | some p => .alt p (.inOrder d.items.reverse)

def push (d : Draft) (p : Extended) : Draft := { d with items := p :: d.items }

def append (d : Draft) (ps : List Extended) : Draft := { d with items := ps.reverse ++ d.items }

def split (d : Draft) : Draft := ⟨some d.closed, []⟩

/-- The draft after a sign that applies to the last item. -/
def amend? (d : Draft) (f : Extended → Extended) : Option Draft :=
  match d.items with
  | [] => none
  | p :: ps => some { d with items := f p :: ps }

end Draft

/-- Reads signs up to the end, within the drafts of the groups that are open. -/
def readSigns : List Draft → Draft → List Sign → Option Extended
  | [], d, [] => some d.closed
  | _ :: _, _, [] => none
  | outer, d, .opening :: ss => readSigns (d :: outer) .empty ss
  | [], _, .closing :: _ => none
  | e :: outer, d, .closing :: ss => readSigns outer (e.push d.closed) ss
  | outer, d, .bar :: ss => readSigns outer d.split ss
  | outer, d, .star :: ss => (d.amend? .many).bind fun d => readSigns outer d ss
  | outer, d, .question :: ss => (d.amend? .opt).bind fun d => readSigns outer d ss
  | outer, d, .item t :: ss => readSigns outer (d.push (.one t)) ss

/-- The expression that a text writes. -/
def Extended.ofSource? (s : String) : Option Extended :=
  (Sign.ofChars? s.toList).bind (readSigns [] .empty)

/-! ## The written form of pieces -/

namespace Piece

/-- Whether the written form of a piece reads as the piece: an optional character is written without
a backslash, so it must not be a sign. -/
def IsWritten : Piece → Prop
  | optional c => c ∉ patternSigns
  | _ => True

instance : (p : Piece) → Decidable p.IsWritten
  | optional c => inferInstanceAs (Decidable (c ∉ patternSigns))
  | text _ | anyChar | runExcept _ | nameRun => .isTrue trivial

def signs : Piece → List Sign
  | text s => s.toList.map fun c => .item (.oneOf [c])
  | anyChar => [.item .any]
  | runExcept c => [.opening, .item (.noneOf [c]), .star, .closing]
  | nameRun => [.opening, .item (.oneOf ['-']), .bar, .item .word, .closing, .star]
  | optional c => [.item (.oneOf [c]), .question]

/-- The expressions that are read in the written form of a piece. -/
def items : Piece → List Extended
  | text s => s.toList.map .char
  | anyChar => [.one .any]
  | runExcept c => [.inOrder [.many (.one (.noneOf [c]))]]
  | nameRun => [.many (.alt (.inOrder [.char '-']) (.inOrder [.one .word]))]
  | optional c => [.opt (.char c)]

end Piece

namespace Sign

variable {c : Char} {s : Sign}

/-- A character without a backslash before it, where no bracket begins. -/
theorem ofChars?_cons (h : plain? c = some s) (cs : List Char) :
    ofChars? (c :: cs) = (ofChars? cs).map (s :: ·) := by
  have hbackslash : c ≠ '\\' := by
    rintro rfl
    simp [plain?, patternSigns] at h
  have hbracket : c ≠ '[' := by
    rintro rfl
    simp [plain?, patternSigns] at h
  rw [ofChars?, h]
  · rfl
  · exact fun _ _ heq _ => hbackslash heq
  · exact fun _ _ heq _ => hbracket heq

theorem plain?_of_not_mem (h : c ∉ patternSigns) : plain? c = some (item (.oneOf [c])) := by
  have hne {d : Char} (hd : d ∈ patternSigns) : c ≠ d := fun heq => h (heq ▸ hd)
  simp [plain?, h, hne (d := '(') (by decide), hne (d := ')') (by decide),
    hne (d := '|') (by decide), hne (d := '*') (by decide), hne (d := '?') (by decide),
    hne (d := '.') (by decide)]

/-- A character that stands for itself is read as such. -/
theorem ofChars?_escapeSign (c : Char) (cs : List Char) :
    ofChars? (escapeSign c ++ cs) = (ofChars? cs).map (item (.oneOf [c]) :: ·) := by
  by_cases h : c ∈ patternSigns
  · have hw : c ≠ 'w' := by
      rintro rfl
      revert h
      decide
    have hescaped : escaped? c = some (item (.oneOf [c])) := by simp [escaped?, h, hw]
    have hwritten : escapeSign c = ['\\', c] := by simp [escapeSign, h]
    rw [hwritten]
    simp [ofChars?, hescaped]
  · have hwritten : escapeSign c = [c] := by simp [escapeSign, h]
    rw [hwritten]
    exact ofChars?_cons (plain?_of_not_mem h) cs

theorem ofChars?_flatMap_escapeSign (w cs : List Char) :
    ofChars? (w.flatMap escapeSign ++ cs) =
      (ofChars? cs).map ((w.map fun c => item (.oneOf [c])) ++ ·) := by
  induction w with
  | nil => simp
  | cons c w ih =>
    rw [List.flatMap_cons, List.append_assoc, ofChars?_escapeSign, ih, Option.map_map]
    rfl

end Sign

namespace Piece

/-- In the written form of a piece its signs are read, whatever comes after it. -/
theorem ofChars?_source {p : Piece} (hp : p.IsWritten) (cs : List Char) :
    Sign.ofChars? (p.source.toList ++ cs) = (Sign.ofChars? cs).map (p.signs ++ ·) := by
  cases p with
  | text w =>
    rw [source, String.toList_ofList]
    exact Sign.ofChars?_flatMap_escapeSign w.toList cs
  | anyChar => exact Sign.ofChars?_cons rfl cs
  | runExcept c =>
    have hwritten : (runExcept c).source.toList ++ cs =
        '(' :: '[' :: '^' :: c :: ']' :: '*' :: ')' :: cs := by
      simp [source]
    rw [hwritten, Sign.ofChars?_cons (s := .opening) rfl, Sign.ofChars?,
      Sign.ofChars?_cons (s := .star) rfl, Sign.ofChars?_cons (s := .closing) rfl]
    simp only [Option.map_map]
    rfl
  | nameRun =>
    have hwritten : nameRun.source.toList ++ cs =
        '(' :: '-' :: '|' :: '\\' :: 'w' :: ')' :: '*' :: cs := by
      simp [source]
    rw [hwritten, Sign.ofChars?_cons (s := .opening) rfl,
      Sign.ofChars?_cons (s := .item (.oneOf ['-'])) rfl, Sign.ofChars?_cons (s := .bar) rfl,
      Sign.ofChars?, Sign.ofChars?_cons (s := .closing) rfl, Sign.ofChars?_cons (s := .star) rfl]
    simp only [Sign.escaped?, if_true, Option.bind_some, Option.map_map]
    rfl
  | optional c =>
    have hwritten : (optional c).source.toList ++ cs = c :: '?' :: cs := by simp [source]
    rw [hwritten, Sign.ofChars?_cons (Sign.plain?_of_not_mem hp),
      Sign.ofChars?_cons (s := .question) rfl, Option.map_map]
    rfl

end Piece

theorem ofChars?_source {ps : List Piece} (hps : ∀ p ∈ ps, p.IsWritten) :
    Sign.ofChars? (source ps).toList = some (ps.flatMap Piece.signs) := by
  induction ps with
  | nil => rfl
  | cons p ps ih =>
    have hwritten : (source (p :: ps)).toList = p.source.toList ++ (source ps).toList := by
      simp [source]
    rw [hwritten, Piece.ofChars?_source (hps p (by simp)), ih fun q hq => hps q (by simp [hq])]
    rfl

/-! ## The expressions of pieces -/

section Reading

variable {outer : List Draft} {d : Draft} {ss : List Sign}

theorem readSigns_item (t : CharClass) :
    readSigns outer d (.item t :: ss) = readSigns outer (d.push (.one t)) ss := by
  cases outer <;> rfl

theorem readSigns_text (w : List Char) :
    readSigns outer d ((w.map fun c => .item (.oneOf [c])) ++ ss) =
      readSigns outer (d.append (w.map .char)) ss := by
  induction w generalizing d with
  | nil => rfl
  | cons c w ih =>
    rw [List.map_cons, List.cons_append, readSigns_item, ih]
    simp [Draft.append, Draft.push, Extended.char]

theorem readSigns_signs (p : Piece) :
    readSigns outer d (p.signs ++ ss) = readSigns outer (d.append p.items) ss := by
  cases p with
  | text w => exact readSigns_text w.toList
  | anyChar => exact readSigns_item .any
  | runExcept c => cases outer <;> rfl
  | nameRun => cases outer <;> rfl
  | optional c => cases outer <;> rfl

theorem readSigns_flatMap_signs (ps : List Piece) :
    readSigns outer d (ps.flatMap Piece.signs ++ ss) =
      readSigns outer (d.append (ps.flatMap Piece.items)) ss := by
  induction ps generalizing d with
  | nil => rfl
  | cons p ps ih =>
    rw [List.flatMap_cons, List.append_assoc, readSigns_signs, ih]
    simp [Draft.append]

end Reading

namespace Extended

/-- Reading the written form of pieces gives the expressions of the pieces, one after the other. -/
theorem ofSource?_source {ps : List Piece} (hps : ∀ p ∈ ps, p.IsWritten) :
    ofSource? (source ps) = some (inOrder (ps.flatMap Piece.items)) := by
  have hread : readSigns [] .empty (ps.flatMap Piece.signs ++ []) =
      readSigns [] (Draft.empty.append (ps.flatMap Piece.items)) [] := readSigns_flatMap_signs ps
  rw [List.append_nil] at hread
  rw [ofSource?, ofChars?_source hps, Option.bind_some, hread]
  simp [readSigns, Draft.closed, Draft.append, Draft.empty]

/-! ## Languages -/

variable {p q : Extended} {cs : List Char}

@[simp] theorem mem_language_nothing : cs ∈ nothing.language ↔ cs = [] := Language.mem_one cs

@[simp] theorem mem_language_one {t : CharClass} :
    cs ∈ (one t).language ↔ ∃ c, t.has c = true ∧ cs = [c] := Iff.rfl

@[simp] theorem mem_language_seq :
    cs ∈ (seq p q).language ↔ ∃ xs ∈ p.language, ∃ ys ∈ q.language, xs ++ ys = cs :=
  Language.mem_mul

@[simp] theorem mem_language_alt :
    cs ∈ (alt p q).language ↔ cs ∈ p.language ∨ cs ∈ q.language := Iff.rfl

@[simp] theorem mem_language_opt : cs ∈ (opt p).language ↔ cs ∈ p.language ∨ cs = [] := Iff.rfl

theorem mem_language_char {c : Char} : cs ∈ (char c).language ↔ cs = [c] := by
  simp [char, CharClass.has]

theorem language_inOrder_append (ps qs : List Extended) :
    (inOrder (ps ++ qs)).language = (inOrder ps).language * (inOrder qs).language := by
  induction ps with
  | nil => simp [inOrder, language]
  | cons p ps ih => simp only [List.cons_append, inOrder, language, ih, mul_assoc]

theorem language_inOrder_singleton (p : Extended) : (inOrder [p]).language = p.language := by
  simp [inOrder, language]

/-- Any number of single characters make a text of such characters. -/
theorem mem_language_many_iff {P : Char → Prop} (hp : ∀ cs, cs ∈ p.language ↔ ∃ c, P c ∧ cs = [c]) :
    cs ∈ (many p).language ↔ ∀ c ∈ cs, P c := by
  rw [language, Language.mem_kstar]
  constructor
  · rintro ⟨parts, rfl, hparts⟩ c hc
    obtain ⟨part, hpart, hmem⟩ := List.mem_flatten.1 hc
    obtain ⟨d, hd, rfl⟩ := (hp part).1 (hparts part hpart)
    rwa [List.mem_singleton.1 hmem]
  · intro hcs
    refine ⟨cs.map fun c => [c], by simp [← List.flatMap_def], fun part hpart => ?_⟩
    obtain ⟨c, hc, rfl⟩ := List.mem_map.1 hpart
    exact (hp [c]).2 ⟨c, hcs c hc, rfl⟩

theorem mem_language_inOrder_char_iff (w : List Char) :
    cs ∈ (inOrder (w.map char)).language ↔ cs = w := by
  induction w generalizing cs with
  | nil => exact mem_language_nothing
  | cons c w ih => simp [inOrder, mem_language_char, ih, eq_comm (a := cs)]

end Extended

namespace Piece

theorem mem_language_items_iff (p : Piece) {cs : List Char} :
    cs ∈ (Extended.inOrder p.items).language ↔ p.Accepts cs := by
  cases p with
  | text w => exact Extended.mem_language_inOrder_char_iff w.toList
  | anyChar =>
    rw [items, Extended.language_inOrder_singleton, Extended.mem_language_one]
    simp [Accepts, CharClass.has]
  | runExcept c =>
    rw [items, Extended.language_inOrder_singleton, Extended.language_inOrder_singleton,
      Extended.mem_language_many_iff fun _ => Extended.mem_language_one]
    simp [Accepts, CharClass.has]
  | nameRun =>
    rw [items, Extended.language_inOrder_singleton,
      Extended.mem_language_many_iff (P := fun c => Text.isName c = true)]
    · rfl
    · intro part
      rw [Extended.mem_language_alt, Extended.language_inOrder_singleton,
        Extended.language_inOrder_singleton, Extended.mem_language_char, Extended.mem_language_one]
      simp only [CharClass.has]
      constructor
      · rintro (rfl | ⟨c, hc, rfl⟩)
        · exact ⟨'-', by decide, rfl⟩
        · exact ⟨c, by simp [Text.isName, hc], rfl⟩
      · rintro ⟨c, hc, rfl⟩
        rcases Bool.or_eq_true_iff.1 hc with hc | hc
        · exact .inl (by rw [beq_iff_eq.1 hc])
        · exact .inr ⟨c, hc, rfl⟩
  | optional c =>
    rw [items, Extended.language_inOrder_singleton, Extended.mem_language_opt,
      Extended.mem_language_char]
    rfl

end Piece

/-- The language of the written form of pieces, as it is read, is what the pieces accept one after
the other. -/
theorem mem_language_iff_accepts (ps : List Piece) {cs : List Char} :
    cs ∈ (Extended.inOrder (ps.flatMap Piece.items)).language ↔ Accepts ps cs := by
  induction ps generalizing cs with
  | nil => exact Extended.mem_language_nothing
  | cons p ps ih =>
    rw [List.flatMap_cons, Extended.language_inOrder_append, Language.mem_mul, Accepts]
    simp only [Piece.mem_language_items_iff, ih]
    constructor
    · rintro ⟨part, hpart, rest, hrest, rfl⟩
      exact ⟨part, rest, rfl, hpart, hrest⟩
    · rintro ⟨part, rest, rfl, hpart, hrest⟩
      exact ⟨part, hpart, rest, hrest, rfl⟩

example : source expression = "fuchsia-pkg://fuchsia.com/([^#]*)#meta/(-|\\w)*\\.cmx?" := by
  decide +kernel

end ComponentLinks.Search
