import ComponentLinks.Text.Numeral
import ComponentLinks.Text.Utf8
import ComponentLinks.Outer.Yaml.Cursor

/-!
# Tags of YAML

A tag before a value says what kind of value it is. It is written as a whole or begins with a
handle, which abbreviates the beginning of tags.

## Main definitions

* `Yaml.Tag`: the tags as they are written.
* `Yaml.Tag.read?`: reading a tag at a cursor.
* `Yaml.Tag.name?`: the whole of a tag.
-/
namespace ComponentLinks.Yaml

structure Tag where
  handle : Option (List Char)
  rest : List Char
  deriving Repr, DecidableEq

def isNameChar (c : Char) : Bool := c.isAlphanum || c == '-' || c == '_'

/-- Whether a line ends or a space stands where the given character, if any, comes next. -/
def endsPart (c : Option Char) : Bool := c == some ' ' || endsLine c

def handle? (c : Cursor) : Option (List Char × Cursor) :=
  if c.peek != some '!' then none
  else if c.peekAt 1 == some ' ' then some (['!'], c.next)
  else
    let name := c.next.run isNameChar
    if c.peekAt (name.length + 1) == some '!' then
      some ('!' :: name ++ ['!'], c.advance (name.length + 2))
    else none

/-! ## Addresses -/

def isAddressChar (c : Char) : Bool :=
  isNameChar c || ";/?:@&=+$,.!~*'()[]%".toList.contains c

def escapedBytes? : (fuel : Nat) → List Char → Option (List UInt8 × List Char)
  | 0, _ => none
  | fuel + 1, cs =>
    match cs with
    | '%' :: h :: l :: rest =>
      match Text.hexValue? h, Text.hexValue? l with
      | some a, some b =>
        (escapedBytes? fuel rest).map fun (bytes, rest) => (.ofNat (a * 16 + b) :: bytes, rest)
      | _, _ => none
    | '%' :: _ => none
    | _ => some ([], cs)

def unescaped? : (fuel : Nat) → List Char → Option (List Char)
  | 0, cs => some cs
  | fuel + 1, cs =>
    match cs with
    | [] => some []
    | '%' :: _ => do
      let (bytes, rest) ← escapedBytes? (cs.length + 1) cs
      let text ← (Utf8.decode? bytes).toOption
      return text ++ (← unescaped? fuel rest)
    | c :: rest => (unescaped? fuel rest).map (c :: ·)

def address? (c : Cursor) : Option (List Char × Cursor) :=
  let written := c.run isAddressChar
  if written.isEmpty then none
  else (unescaped? written.length written).map fun text => (text, c.advance written.length)

/-! ## Tags -/

namespace Tag

def plain : Tag := ⟨none, ['!']⟩

def readWord? (c : Cursor) : Option (Tag × Cursor) :=
  match c.peekAt 1 with
  | some '<' => do
    let (text, d) ← address? (c.advance 2)
    if d.peek = some '>' then some (⟨none, text⟩, d.next) else none
  | next =>
    if endsWord next then some (plain, c.next)
    else if (c.next.run fun x => x != ' ' && !isBreak x).contains '!' then do
      let (handle, d) ← handle? c
      let (text, e) ← address? d
      return (⟨some handle, text⟩, e)
    else (address? c.next).map fun (text, d) => (⟨some ['!'], text⟩, d)

def read? (c : Cursor) : Option (Tag × Cursor) :=
  (readWord? c).filter fun found => endsPart found.2.peek

def standardHandle : List Char := "!!".toList

def standardStart : List Char := "tag:yaml.org,2002:".toList

def name? (abbreviations : List (List Char × List Char)) (t : Tag) : Option (List Char) :=
  match t.handle with
  | none => some t.rest
  | some handle =>
    ((abbreviations ++ [(['!'], ['!']), (standardHandle, standardStart)]).lookup handle).map
      (· ++ t.rest)

end Tag

end ComponentLinks.Yaml
