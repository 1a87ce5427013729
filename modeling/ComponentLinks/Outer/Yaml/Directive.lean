import ComponentLinks.Outer.Yaml.Fault
import ComponentLinks.Outer.Yaml.Tag

/-!
# Directives of YAML

Lines that begin with a percent sign may stand before a document. They tell the version of YAML
or abbreviate tags; others are ignored.

## Main definitions

* `Yaml.Directive`: the directives.
* `Yaml.Directive.read`: reading a directive at a cursor.
* `Yaml.areAccepted`: whether directives may stand together before a document.
-/
namespace ComponentLinks.Yaml

inductive Directive where
  | version (major : Nat)
  | abbreviation (handle start : List Char)
  | other
  deriving Repr, DecidableEq

def readVersionNumber (c : Cursor) : Except Fault (Nat × Cursor) :=
  let digits := c.run Char.isDigit
  if digits.isEmpty then .error .malformed
  else ((Text.readNumeral digits).mapError .numeral).map fun n => (n, c.advance digits.length)

def readVersion (c : Cursor) : Except Fault (Directive × Cursor) := do
  let (major, d) ← readVersionNumber c.skipSpaces
  if d.peek = some '.' then
    let (_, e) ← readVersionNumber d.next
    if endsPart e.peek then return (.version major, e)
  throw .malformed

def abbreviation? (c : Cursor) : Option (Directive × Cursor) := do
  let (handle, d) ← handle? c.skipSpaces
  let (start, e) ← address? d.skipSpaces
  if d.peek = some ' ' && endsPart e.peek then some (.abbreviation handle start, e) else none

def lineEnd? (c : Cursor) : Option Cursor :=
  let d := c.skipSpaces
  let e := if d.peek = some '#' then d.skipLine else d
  if endsLine e.peek then some e.next else none

def Directive.read (c : Cursor) : Except Fault (Directive × Cursor) := do
  let name := c.next.run isNameChar
  let d := c.advance (name.length + 1)
  if name.isEmpty || !endsPart d.peek then throw .malformed
  let (found, e) ←
    if name = "YAML".toList then readVersion d
    else if name = "TAG".toList then orMalformed (abbreviation? d)
    else .ok (.other, d.skipLine)
  return (found, ← orMalformed (lineEnd? e))

def versions (ds : List Directive) : List Nat :=
  ds.filterMap fun d => match d with
    | .version major => some major
    | _ => none

def abbreviations (ds : List Directive) : List (List Char × List Char) :=
  ds.filterMap fun d => match d with
    | .abbreviation handle start => some (handle, start)
    | _ => none

/-- Whether directives may stand together before a document: there is at most one version, which is
the first, and no handle is used twice. -/
def areAccepted (ds : List Directive) : Bool :=
  (versions ds == [] || versions ds == [1]) && ((abbreviations ds).map Prod.fst).Nodup

end ComponentLinks.Yaml
