import ComponentLinks.Outer.Yaml.Directive
import ComponentLinks.Outer.Yaml.Scalar

/-!
# Tokens of YAML

A YAML text is cut into tokens first. Indentation opens and closes block collections, and a colon
after a value on the same line makes that value a key.

## Main definitions

* `Yaml.Token`: the tokens.
* `Yaml.Scanner`: what is known while tokens are read.
* `Yaml.tokens`: the tokens of a text, up to the first fault in it.
-/
namespace ComponentLinks.Yaml

inductive Token where
  | documentStart
  | documentEnd
  | blockSequenceStart
  | blockMappingStart
  | blockEnd
  | flowSequenceStart
  | flowSequenceEnd
  | flowMappingStart
  | flowMappingEnd
  | blockEntry
  | flowEntry
  | key
  | value
  | directive (d : Directive)
  | anchor (name : List Char)
  | mention (name : List Char)
  | tag (t : Tag)
  | scalar (text : List Char) (spelling : Spelling)
  | fault (f : Fault)
  deriving Repr, DecidableEq

structure PossibleKey where
  level : Nat
  tokenCount : Nat
  required : Bool
  index : Nat
  line : Nat
  column : Nat

structure Scanner where
  cursor : Cursor
  tokens : Array Token
  flowLevel : Nat
  indent : Int
  outer : List Int
  keyAllowed : Bool
  possibleKeys : List PossibleKey

namespace Scanner

def ofText (cs : List Char) : Scanner :=
  ⟨.ofText cs, #[], 0, -1, [], true, []⟩

def inFlow (s : Scanner) : Bool := s.flowLevel != 0

def emit (s : Scanner) (t : Token) : Scanner := { s with tokens := s.tokens.push t }

def allowKey (s : Scanner) (allowed : Bool) : Scanner := { s with keyAllowed := allowed }

def advance (s : Scanner) (n : Nat) : Scanner := { s with cursor := s.cursor.advance n }

/-- Goes to the next character that is no space, comment or line end. At the end of a line outside
of flow collections a key may begin. -/
def toNextToken : (fuel : Nat) → Scanner → Scanner
  | 0, s => s
  | fuel + 1, s =>
    let c := s.cursor.skipSpaces
    let d := if c.peek = some '#' then c.skipLine else c
    if d.lineBreak?.isSome then
      toNextToken fuel { s with cursor := d.next, keyAllowed := s.keyAllowed || !s.inFlow }
    else { s with cursor := d }

/-- Gives up the possible keys that are too far back; a required key must not be given up. -/
def dropStaleKeys? (s : Scanner) : Option Scanner :=
  let stale := fun (k : PossibleKey) =>
    k.line != s.cursor.line || k.index + 1024 < s.cursor.index
  if s.possibleKeys.any fun k => stale k && k.required then none
  else some { s with possibleKeys := s.possibleKeys.filter fun k => !stale k }

def dropKey? (s : Scanner) : Option Scanner :=
  if s.possibleKeys.any fun k => k.level = s.flowLevel && k.required then none
  else some { s with possibleKeys := s.possibleKeys.filter fun k => k.level != s.flowLevel }

def saveKey? (s : Scanner) : Option Scanner :=
  if s.keyAllowed then
    s.dropKey?.map fun s =>
      { s with possibleKeys :=
        ⟨s.flowLevel, s.tokens.size, !s.inFlow && s.indent = s.cursor.column, s.cursor.index,
          s.cursor.line, s.cursor.column⟩ :: s.possibleKeys }
  else some s

def closeBlocks (column : Int) : List Int → Scanner → Scanner
  | [], s => s
  | around :: outer, s =>
    if s.indent > column then
      closeBlocks column outer { s.emit .blockEnd with indent := around, outer := outer }
    else s

/-- Closes the block collections that are indented further than a column, outside of flow
collections. -/
def unwind (s : Scanner) (column : Int) : Scanner :=
  if s.inFlow then s else closeBlocks column s.outer s

def opensBlock (s : Scanner) (column : Nat) : Bool := s.indent < column

def indented (s : Scanner) (column : Nat) : Scanner :=
  { s with indent := column, outer := s.indent :: s.outer }

def openBlock (s : Scanner) (column : Nat) (t : Token) : Scanner :=
  if s.opensBlock column then (s.indented column).emit t else s

def marker? (s : Scanner) (t : Token) : Option Scanner :=
  (s.unwind (-1)).dropKey?.map fun s => ((s.allowKey false).emit t).advance 3

def flowStart? (s : Scanner) (t : Token) : Option Scanner :=
  s.saveKey?.map fun s =>
    { ((s.allowKey true).emit t).advance 1 with flowLevel := s.flowLevel + 1 }

def flowEnd? (s : Scanner) (t : Token) : Option Scanner :=
  if s.inFlow then
    s.dropKey?.map fun s =>
      { ((s.allowKey false).emit t).advance 1 with flowLevel := s.flowLevel - 1 }
  else none

def flowEntry? (s : Scanner) : Option Scanner :=
  (s.allowKey true).dropKey?.map fun s => (s.emit .flowEntry).advance 1

def blockEntry? (s : Scanner) : Option Scanner :=
  if !s.inFlow && !s.keyAllowed then none
  else
    let s := if s.inFlow then s else s.openBlock s.cursor.column .blockSequenceStart
    (s.allowKey true).dropKey?.map fun s => (s.emit .blockEntry).advance 1

def explicitKey? (s : Scanner) : Option Scanner :=
  if !s.inFlow && !s.keyAllowed then none
  else
    let s := if s.inFlow then s else s.openBlock s.cursor.column .blockMappingStart
    (s.allowKey !s.inFlow).dropKey?.map fun s => (s.emit .key).advance 1

def keyAt (s : Scanner) (k : PossibleKey) : Scanner :=
  let s := { s with
    possibleKeys := s.possibleKeys.filter fun j => j.level != s.flowLevel
    tokens := s.tokens.insertIdxIfInBounds k.tokenCount .key
    keyAllowed := false }
  if !s.inFlow && s.opensBlock k.column then
    { s.indented k.column with
      tokens := s.tokens.insertIdxIfInBounds k.tokenCount .blockMappingStart }
  else s

def value? (s : Scanner) : Option Scanner :=
  let finish := fun (s : Scanner) => (s.emit .value).advance 1
  match s.possibleKeys.find? fun k => k.level = s.flowLevel with
  | some k => some (finish (s.keyAt k))
  | none =>
    if !s.inFlow && !s.keyAllowed then none
    else
      let s := if s.inFlow then s else s.openBlock s.cursor.column .blockMappingStart
      (s.allowKey !s.inFlow).dropKey?.map finish

def name? (s : Scanner) (make : List Char → Token) : Option Scanner :=
  s.saveKey?.bind fun s =>
    let name := s.cursor.next.run isNameChar
    let after := s.cursor.advance (name.length + 1)
    let ends := endsWord after.peek || after.peek.any "?:,]\x7d%@`".toList.contains
    if name.isEmpty || !ends then none
    else some { s.emit (make name) with keyAllowed := false, cursor := after }

def tag? (s : Scanner) : Option Scanner :=
  s.saveKey?.bind fun s =>
    (Tag.read? s.cursor).map fun (t, after) =>
      { s.emit (.tag t) with keyAllowed := false, cursor := after }

def block? (s : Scanner) (folded : Bool) : Option Scanner :=
  (s.allowKey true).dropKey?.bind fun s =>
    (blockScalar? folded s.indent s.cursor).map fun (text, after) =>
      { s.emit (.scalar text .marked) with cursor := after }

def plain? (s : Scanner) : Option Scanner :=
  s.saveKey?.map fun s =>
    let found := plainScalar s.inFlow (s.indent + 1) s.cursor
    { s.emit (.scalar found.text .plain) with
      keyAllowed := found.crossedLine
      cursor := found.after }

def quoted (s : Scanner) (double : Bool) : Except Fault Scanner := do
  let s ← orMalformed s.saveKey?
  let (text, spelling, after) ← quotedScalar double s.cursor
  return { s.emit (.scalar text spelling) with keyAllowed := false, cursor := after }

def directive (s : Scanner) : Except Fault Scanner := do
  let s ← orMalformed (s.unwind (-1)).dropKey?
  let (d, after) ← Directive.read s.cursor
  return { s.emit (.directive d) with keyAllowed := false, cursor := after }

def signs : List Char := "-?:,[]\x7b\x7d#&*!|>'\"%@`".toList

def beginsPlain (s : Scanner) : Bool :=
  match s.cursor.peek with
  | none => false
  | some c =>
    (!endsWord (some c) && !signs.contains c) ||
      (!endsWord (s.cursor.peekAt 1) && (c == '-' || (!s.inFlow && (c == '?' || c == ':'))))

def sign? (s : Scanner) (c : Char) : Option Scanner :=
  let wordEnds := endsWord (s.cursor.peekAt 1)
  if s.cursor.column = 0 && s.cursor.isMarker "---".toList then s.marker? .documentStart
  else if s.cursor.column = 0 && s.cursor.isMarker "...".toList then s.marker? .documentEnd
  else if c == '[' then s.flowStart? .flowSequenceStart
  else if c == '\x7b' then s.flowStart? .flowMappingStart
  else if c == ']' then s.flowEnd? .flowSequenceEnd
  else if c == '\x7d' then s.flowEnd? .flowMappingEnd
  else if c == ',' then s.flowEntry?
  else if c == '-' && wordEnds then s.blockEntry?
  else if c == '?' && (s.inFlow || wordEnds) then s.explicitKey?
  else if c == ':' && (s.inFlow || wordEnds) then s.value?
  else if c == '&' then s.name? .anchor
  else if c == '*' then s.name? .mention
  else if c == '!' then s.tag?
  else if c == '|' && !s.inFlow then s.block? false
  else if c == '>' && !s.inFlow then s.block? true
  else if s.beginsPlain then s.plain?
  else none

def token (s : Scanner) (c : Char) : Except Fault Scanner :=
  if c == '%' && s.cursor.column = 0 then s.directive
  else if c == '\'' then s.quoted false
  else if c == '"' then s.quoted true
  else orMalformed (s.sign? c)

def scan : (fuel : Nat) → Scanner → Array Token
  | 0, s => s.tokens.push (.fault .malformed)
  | fuel + 1, s =>
    match (s.toNextToken (s.cursor.rest.length + 1)).dropStaleKeys? with
    | none => s.tokens.push (.fault .malformed)
    | some s =>
      let s := s.unwind s.cursor.column
      match s.cursor.peek with
      | none =>
        match (s.unwind (-1)).dropKey? with
        | none => s.tokens.push (.fault .malformed)
        | some s => s.tokens
      | some c =>
        match s.token c with
        | .error f => s.tokens.push (.fault f)
        | .ok s => scan fuel s

end Scanner

def isAllowed (c : Char) : Bool :=
  let n := c.toNat
  n = 0x9 || n = 0xA || n = 0xD || (0x20 ≤ n && n ≤ 0x7E) || n = 0x85 ||
    (0xA0 ≤ n && n ≤ 0xD7FF) || (0xE000 ≤ n && n ≤ 0xFFFD) || 0x10000 ≤ n

def withoutMark : List Char → List Char
  | [] => []
  | c :: rest => if c = byteOrderMark then rest else c :: rest

def tokens (text : List Char) : Array Token :=
  if text.all isAllowed then
    let cs := withoutMark text
    Scanner.scan (cs.length + 2) (.ofText cs)
  else #[.fault .malformed]

end ComponentLinks.Yaml
