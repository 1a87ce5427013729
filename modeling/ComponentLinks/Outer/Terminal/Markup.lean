import ComponentLinks.Outer.Terminal.Handler
import ComponentLinks.Outer.Terminal.Pictograph
import ComponentLinks.Outer.Terminal.Style
import ComponentLinks.Outer.Terminal.Wrap
import ComponentLinks.Pattern.Match

/-!
# Markup of console text

Text for the console may hold tags in brackets: `[style]` opens a style, `[/style]` closes it and
`[/]` closes the style opened last. No tag is shown. A backslash before a tag makes it plain text,
and the name of a pictograph between colons is shown as the pictograph.

## Main definitions

* `Terminal.showPictographs`: a text with the names of pictographs replaced.
* `Terminal.Piece`, `Terminal.pieces`: the plain texts and tags of a markup.
* `Terminal.MarkupError`: why a markup is refused.
* `Terminal.Rendered`: the text that a markup shows, with the styles in it.
-/
namespace ComponentLinks.Terminal

/-! ## Pictographs -/

inductive PictographField where
  | name
  | variant
  deriving Repr, DecidableEq

open Pattern in
def pictographPattern : Pattern PictographField := inOrder
  [lit ":", capture .name (manyLazy .visible),
   opt (inOrder [lit "-", capture .variant (alt (lit "emoji") (lit "text"))]), lit ":"]

def variantSign (variant : List Char) : List Char :=
  if variant = "text".toList then ['\uFE0E']
  else if variant = "emoji".toList then ['\uFE0F']
  else []

def shownName (m : Found PictographField) : List Char :=
  ((pictograph? (Text.lowercase (m.captures.get .name))).map fun sign =>
    sign ++ variantSign (m.captures.get .variant)).getD m.text

def replaceFrom {ι : Type} (f : Found ι → List Char) (n : Nat) (cs : List Char) :
    List (Found ι) → List Char
  | [] => cs
  | m :: ms =>
    let skipped := m.start - n
    cs.take skipped ++ f m ++ replaceFrom f m.stop (cs.drop (skipped + m.text.length)) ms

def showPictographs (cs : List Char) : List Char :=
  replaceFrom shownName 0 cs (pictographPattern.scan cs)

/-! ## Tags -/

inductive TagField where
  | escapes
  | content
  deriving Repr, DecidableEq

def tagStarts : List Char := "abcdefghijklmnopqrstuvwxyz#/@".toList

open Pattern in
def tagPattern : Pattern TagField := inOrder
  [capture .escapes (many (.oneOf ['\\'])), lit "[",
   capture .content (inOrder [one (.oneOf tagStarts), manyLazy (.noneOf ['['])]), lit "]"]

structure Tag where
  position : Nat
  name : List Char
  parameters : Option (List Char)
  deriving Repr, DecidableEq

def Tag.toString (t : Tag) : String :=
  "[" ++ String.ofList t.name ++
    (match t.parameters with | some p => "=" ++ String.ofList p | none => "") ++ "]"

def Tag.ofContent (position : Nat) (content : List Char) : Tag where
  position := position
  name := content.takeWhile (· != '=')
  parameters := if content.contains '=' then some ((content.dropWhile (· != '=')).drop 1) else none

inductive Piece where
  | plain (text : List Char)
  | tag (t : Tag)
  deriving Repr, DecidableEq

def plainPieces (text : List Char) : List Piece := if text.isEmpty then [] else [.plain text]

/-- The pieces of a match. Two backslashes before a tag are shown as one; a single one is not
shown and makes the tag a plain text. -/
def piecesOfMatch (m : Found TagField) : List Piece :=
  let escapes := (m.captures.get .escapes).length
  plainPieces (List.replicate (escapes / 2) '\\') ++
    if escapes % 2 = 1 then [.plain (m.text.drop escapes)]
    else [.tag (.ofContent (m.start + escapes / 2 * 2) (m.captures.get .content))]

def piecesFrom (n : Nat) (cs : List Char) : List (Found TagField) → List Piece
  | [] => plainPieces cs
  | m :: ms =>
    let skipped := m.start - n
    plainPieces (cs.take skipped) ++ piecesOfMatch m ++
      piecesFrom m.stop (cs.drop (skipped + m.text.length)) ms

def pieces (markup : List Char) : List Piece := piecesFrom 0 markup (tagPattern.scan markup)

/-! ## Plain texts -/

def controls : List Char := ['\x07', '\x08', '\x0b', '\x0c', '\r']

def withoutControls (cs : List Char) : List Char := cs.filter (!controls.contains ·)

def unescapeBrackets : List Char → List Char
  | [] => []
  | '\\' :: '[' :: rest => '[' :: unescapeBrackets rest
  | c :: rest => c :: unescapeBrackets rest

def shown (text : List Char) : List Char :=
  withoutControls (showPictographs (unescapeBrackets text))

/-! ## Open styles -/

inductive MarkupError where
  | notOpen (t : Tag)
  | nothingOpen (position : Nat)
  | call (f : Handler.Fault)
  | numeral (f : Text.NumeralFault)
  deriving Repr, DecidableEq

def MarkupError.message : MarkupError → String
  | notOpen t =>
    s!"closing tag '{t.toString}' at position {t.position} doesn't match any open tag"
  | nothingOpen position => s!"closing tag '[/]' at position {position} has nothing to close"
  | call f => f.message
  | numeral f => f.message

structure Span where
  start : Nat
  stop : Nat
  style : List Char
  deriving Repr, DecidableEq

structure OpenStyle where
  name : String
  parameters : Option (List Char)
  start : Nat
  deriving Repr, DecidableEq

namespace OpenStyle

def span (o : OpenStyle) (stop : Nat) : Span where
  start := o.start
  stop := stop
  style := o.name.toList ++ (match o.parameters with | some p => ' ' :: p | none => [])

/-- The part that a style covers which is closed after `stop` characters. One that names a call
covers none, and its call must be readable. -/
def close (o : OpenStyle) (stop : Nat) : Except MarkupError (List Span) :=
  if o.name.toList.head? = some '@' then
    match Handler.fault? (o.parameters.getD []) with
    | some f => .error (.call f)
    | none => .ok []
  else .ok [o.span stop]

end OpenStyle

/-- The style that a closing tag with the name `written` after its slash closes, and those that stay
open. The open styles are given the latest first. -/
def closedBy (openStyles : List OpenStyle) (t : Tag) (written : List Char) :
    Except MarkupError (OpenStyle × List OpenStyle) :=
  if (Text.trim written).isEmpty then
    match openStyles with
    | [] => .error (.nothingOpen t.position)
    | o :: rest => .ok (o, rest)
  else do
    let name ← (Style.normalForm (Text.trim written)).mapError .numeral
    match openStyles.find? fun o => o.name = name with
    | some o => return (o, openStyles.eraseP fun o => o.name = name)
    | none => .error (.notOpen t)

/-! ## Rendering -/

structure Rendered where
  text : List Char
  spans : List Span
  deriving Repr, DecidableEq

/-- What pieces show after `n` characters, where the given styles are open, the latest first. Those
that are never closed reach to the end. -/
def renderPieces (n : Nat) (openStyles : List OpenStyle) :
    List Piece → Except MarkupError Rendered
  | [] => .ok ⟨[], openStyles.map (·.span n)⟩
  | .plain text :: rest => do
    let text := shown text
    let r ← renderPieces (n + text.length) openStyles rest
    return { r with text := text ++ r.text }
  | .tag t :: rest =>
    match t.name with
    | '/' :: written => do
      let (o, others) ← closedBy openStyles t written
      let spans ← o.close n
      let r ← renderPieces n others rest
      return { r with spans := spans ++ r.spans }
    | written => do
      let name ← (Style.normalForm written).mapError .numeral
      renderPieces n (⟨name, t.parameters, n⟩ :: openStyles) rest

def Rendered.ofMarkup (markup : List Char) : Except MarkupError Rendered :=
  renderPieces 0 [] (pieces markup)

namespace Rendered

/-- Whether a style is looked at when the text is shown: in a text of several lines, or with tabs,
only if it covers a character. -/
def looksAt (r : Rendered) (isDivided : Bool) (s : Span) : Bool :=
  !isDivided || ((r.text.take s.stop).drop s.start).any (· != '\n')

/-- The lines of limited width that the text is shown as. The styles in it are read then, those
that begin first before the others. -/
def lines (r : Rendered) (limit : Nat) (o : Overlong) : Except MarkupError (List (List Char)) := do
  let lines := wrapAll limit o r.text
  let isDivided := 1 < lines.length || r.text.contains '\t'
  let spans := (r.spans.filter (r.looksAt isDivided)).reverse.mergeSort fun s t => s.start ≤ t.start
  let _ ← (spans.mapM fun s => Style.read? s.style).mapError .numeral
  return lines

end Rendered

end ComponentLinks.Terminal
