import ComponentLinks.Text.Utf8
import ComponentLinks.Outer.Yaml.Cursor
import ComponentLinks.Outer.Yaml.Fault

/-!
# Scalars of YAML

The four ways of writing a scalar: plain, in single or double quotes, and as a block that keeps or
folds its lines.

## Main definitions

* `Yaml.plainScalar`, `Yaml.quotedScalar`, `Yaml.blockScalar?`: reading a scalar at a cursor.
* `Yaml.Spelling`: how a scalar is written.
-/
namespace ComponentLinks.Yaml

structure ScalarText where
  text : List Char
  after : Cursor
  crossedLine : Bool

def foldBreaks (first : Char) (later : List Char) : List Char :=
  if first ≠ '\n' then first :: later
  else if later.isEmpty then [' '] else later

/-! ## Plain scalars -/

def endsPlain (flow : Bool) (c : Cursor) (n : Nat) : Bool :=
  let d := c.peekAt n
  endsWord d ||
    (d == some ':' &&
      (endsWord (c.peekAt (n + 1)) ||
        (flow && (c.peekAt (n + 1)).any ",[]\x7b\x7d".toList.contains))) ||
    (flow && d.any ",?[]\x7b\x7d".toList.contains)

def plainWordLength (flow : Bool) (c : Cursor) : (fuel : Nat) → Nat → Nat
  | 0, n => n
  | fuel + 1, n => if endsPlain flow c n then n else plainWordLength flow c fuel (n + 1)

/-- The line breaks and spaces after a first line break of a plain scalar. Nothing comes of them
before a document marker. -/
def plainBreaks? : (fuel : Nat) → Cursor → Option (List Char) × Cursor
  | 0, c => (some [], c)
  | fuel + 1, c =>
    if c.isDocumentMarker && c.column = 0 then (none, c)
    else
      let d := c.skipSpaces
      match d.lineBreak? with
      | none => (some [], d)
      | some b =>
        let (later, e) := plainBreaks? fuel d.next
        (later.map (b :: ·), e)

/-- The spaces after a word of a plain scalar: what they count for, nothing if the scalar ends
with them, and whether a line ended in them. -/
def plainSpaces (c : Cursor) : Option (List Char) × Cursor × Bool :=
  let spaces := c.run (· == ' ')
  let d := c.skipSpaces
  match d.lineBreak? with
  | some b =>
    let (later, e) := plainBreaks? (d.rest.length + 1) d.next
    (later.map (foldBreaks b), e, true)
  | none => (if spaces.isEmpty then none else some spaces, d, false)

/-- The words of a plain scalar whose lines, beyond the first, are indented by at least `indent`
columns outside of flow collections. -/
def plainWords (flow : Bool) (indent : Int) : (fuel : Nat) → List Char → Cursor → Bool → ScalarText
  | 0, _, c, crossed => ⟨[], c, crossed⟩
  | fuel + 1, spaces, c, crossed =>
    let n := plainWordLength flow c c.rest.length 0
    if c.peek = some '#' || n = 0 then ⟨[], c, crossed⟩
    else
      let word := spaces ++ c.rest.take n
      match plainSpaces (c.advance n) with
      | (none, d, line) => ⟨word, d, line⟩
      | (some next, d, line) =>
        if d.peek = some '#' || (!flow && (d.column : Int) < indent) then ⟨word, d, line⟩
        else
          let more := plainWords flow indent fuel next d line
          { more with text := word ++ more.text }

def plainScalar (flow : Bool) (indent : Int) (c : Cursor) : ScalarText :=
  plainWords flow indent (c.rest.length + 1) [] c false

/-! ## Quoted scalars -/

def letterEscapes : List (Char × Char) :=
  [('0', '\x00'), ('a', '\x07'), ('b', '\x08'), ('t', '\t'), ('\t', '\t'), ('n', '\n'),
   ('v', '\x0b'), ('f', '\x0c'), ('r', '\r'), ('e', '\x1b'), (' ', ' '), ('"', '"'),
   ('\\', '\\'), ('/', '/'), ('N', '\u0085'), ('_', '\u00a0'), ('L', '\u2028'), ('P', '\u2029')]

def codeEscapes : List (Char × Nat) := [('x', 2), ('u', 4), ('U', 8)]

/-- The line breaks and blanks after a first line break of a quoted scalar. A document marker is
not allowed there. -/
def quotedBreaks? : (fuel : Nat) → Cursor → Option (List Char × Cursor)
  | 0, c => some ([], c)
  | fuel + 1, c =>
    if c.isDocumentMarker then none
    else
      let d := c.skip fun x => x == ' ' || x == '\t'
      match d.lineBreak? with
      | none => some ([], d)
      | some b => (quotedBreaks? fuel d.next).map fun (later, e) => (b :: later, e)

def codes (cs : List Char) : List Nat := cs.map Char.toNat

def isHalf (n : Nat) : Bool := 0xD800 ≤ n && n < 0xE000

/-- The character of a code point. A half that stands alone is shown as a replacement. -/
def charOfCode (n : Nat) : Char := if isHalf n then Utf8.replacement else .ofNat n

/-- The text that code points write, where two halves that fit make a character. -/
def textOfCodes : List Nat → List Char
  | a :: b :: rest =>
    if isHalf a && a < 0xDC00 && isHalf b && 0xDC00 ≤ b then
      .ofNat (0x10000 + (a - 0xD800) * 0x400 + (b - 0xDC00)) :: textOfCodes rest
    else charOfCode a :: textOfCodes (b :: rest)
  | [a] => [charOfCode a]
  | [] => []

def checkCode (n : Nat) : Except Fault Nat :=
  if n < 0x110000 then .ok n
  else if n < 0x80000000 then .error .noCharacter
  else .error .codeTooLarge

/-- What an escape in double quotes counts for, from the character after its backslash on, and the
place after it. -/
def escape (c : Cursor) : Except Fault (List Nat × Cursor) :=
  match c.peek with
  | none => .error .malformed
  | some x =>
    match letterEscapes.lookup x, codeEscapes.lookup x with
    | some y, _ => .ok (codes [y], c.next)
    | none, some n =>
      let digits := c.next.rest.take n
      if digits.length < n then .error .malformed
      else
        match Text.hexNumeral? digits with
        | some code => (checkCode code).map fun code => ([code], c.advance (n + 1))
        | none => .error .malformed
    | none, none =>
      if isBreak x then
        (orMalformed (quotedBreaks? (c.rest.length + 1) c.next)).map fun (text, d) =>
          (codes text, d)
      else .error .malformed

def quotedPiece (double : Bool) (c : Cursor) : Except Fault (List Nat × Cursor) :=
  match c.peek with
  | none => .error .malformed
  | some d =>
    if d == ' ' || d == '\t' || isBreak d then
      let blanks := c.run fun x => x == ' ' || x == '\t'
      let e := c.advance blanks.length
      match e.peek, e.lineBreak? with
      | none, _ => .error .malformed
      | some _, some b =>
        (orMalformed (quotedBreaks? (e.rest.length + 1) e.next)).map fun (later, f) =>
          (codes (foldBreaks b later), f)
      | some _, none => .ok (codes blanks, e)
    else if !double && d == '\'' && c.peekAt 1 == some '\'' then .ok (codes ['\''], c.advance 2)
    else if double && d == '\\' then escape c.next
    else .ok (codes [d], c.next)

def quotedPieces (double : Bool) : (fuel : Nat) → Cursor → Except Fault (List Nat × Cursor)
  | 0, _ => .error .malformed
  | fuel + 1, c =>
    let quote := if double then '"' else '\''
    if c.peek = some quote && (double || c.peekAt 1 != some '\'') then .ok ([], c.next)
    else do
      let (piece, d) ← quotedPiece double c
      let (more, e) ← quotedPieces double fuel d
      return (piece ++ more, e)

inductive Spelling where
  | plain
  | marked
  | halved
  deriving Repr, DecidableEq

def quotedScalar (double : Bool) (c : Cursor) : Except Fault (List Char × Spelling × Cursor) := do
  let (found, d) ← quotedPieces double (c.rest.length + 1) c.next
  return (textOfCodes found, if found.any isHalf then .halved else .marked, d)

/-! ## Block scalars -/

inductive Chomping where
  | strip
  | clip
  | keep
  deriving DecidableEq

def Chomping.ofSign? : Option Char → Option Chomping
  | some '+' => some keep
  | some '-' => some strip
  | _ => none

def incrementOf? (c : Option Char) : Option Nat :=
  (c.filter Char.isDigit).map fun d => d.toNat - 0x30

def blockIndicators (c : Cursor) : Chomping × Option Nat × Cursor :=
  match Chomping.ofSign? c.peek, incrementOf? c.peek with
  | some chomping, _ =>
    match incrementOf? (c.peekAt 1) with
    | some n => (chomping, some n, c.advance 2)
    | none => (chomping, none, c.next)
  | none, some n =>
    match Chomping.ofSign? (c.peekAt 1) with
    | some chomping => (chomping, some n, c.advance 2)
    | none => (.clip, some n, c.next)
  | none, none => (.clip, none, c)

/-- The empty lines before a block whose indentation is still unknown: their line breaks, and the
greatest column that their spaces reach. -/
def blockIndentation : (fuel : Nat) → Cursor → List Char × Nat × Cursor
  | 0, c => ([], 0, c)
  | fuel + 1, c =>
    let d := c.skipSpaces
    match d.lineBreak? with
    | none => ([], d.column, d)
    | some b =>
      let (later, column, e) := blockIndentation fuel d.next
      (b :: later, max d.column column, e)

def blockBreaks (indent : Nat) : (fuel : Nat) → Cursor → List Char × Cursor
  | 0, c => ([], c)
  | fuel + 1, c =>
    let d := c.skipIndent indent
    match d.lineBreak? with
    | none => ([], d)
    | some b =>
      let (later, e) := blockBreaks indent fuel d.next
      (b :: later, e)

def beginsBlank (c : Cursor) : Bool := c.peek.any fun d => d == ' ' || d == '\t'

def blockLines (folded : Bool) (chomping : Chomping) (indent : Nat) :
    (fuel : Nat) → List Char → Cursor → List Char × Cursor
  | 0, _, c => ([], c)
  | fuel + 1, breaks, c =>
    let line := c.run (!isBreak ·)
    let d := c.skipLine
    let lineBreak := d.lineBreak?.toList
    let (later, e) := blockBreaks indent (d.rest.length + 1) d.next
    if e.column = indent && e.peek.isSome && !lineBreak.isEmpty then
      let joint :=
        if folded && lineBreak = ['\n'] && !beginsBlank c && !beginsBlank e then
          if later.isEmpty then [' '] else []
        else lineBreak
      let (more, f) := blockLines folded chomping indent fuel later e
      (breaks ++ line ++ joint ++ more, f)
    else
      let final := match chomping with
        | .strip => []
        | .clip => lineBreak
        | .keep => lineBreak ++ later
      (breaks ++ line ++ final, e)

def blockScalar? (folded : Bool) (indent : Int) (c : Cursor) : Option (List Char × Cursor) :=
  let (chomping, increment, afterSigns) := blockIndicators c.next
  let spaced := afterSigns.skipSpaces
  let d := if spaced.peek = some '#' then spaced.skipLine else spaced
  if increment = some 0 || !(afterSigns.peek.all fun x => x == ' ' || isBreak x) ||
      !endsLine d.peek then none
  else
    let least := (max (indent + 1) 1).toNat
    let e := d.next
    let (breaks, column, f) := match increment with
      | some n =>
        let (breaks, f) := blockBreaks (least + n - 1) (e.rest.length + 1) e
        (breaks, least + n - 1, f)
      | none =>
        let (breaks, column, f) := blockIndentation (e.rest.length + 1) e
        (breaks, max least column, f)
    if f.column = column && f.peek.isSome then
      some (blockLines folded chomping column (f.rest.length + 1) breaks f)
    else some (match chomping with | .keep => breaks | _ => [], f)

end ComponentLinks.Yaml
