import ComponentLinks.Pattern.Match
import ComponentLinks.Target

/-!
# Component URLs

A component URL names a component by its package and its own name, and may carry a query between
the two. URLs are found in any text.

## Main definitions

* `ComponentUrl`: a URL found in a text.
* `ComponentUrl.pattern`: what a URL looks like.
* `ComponentUrl.findAll`: the URLs of a text.
* `ComponentUrl.at?`: the URL that covers an offset.
-/
namespace ComponentLinks

/-- A component URL found in a text, with the numbers of characters before it and up to its end. -/
structure ComponentUrl where
  url : String
  package : String
  component : String
  start : Nat
  stop : Nat
  deriving Repr, DecidableEq

namespace ComponentUrl

/-- The identifier that the URL names. -/
def identifier (u : ComponentUrl) : String := ComponentLinks.identifier u.package u.component

def length (u : ComponentUrl) : Nat := u.url.toList.length

/-- The parts of a URL that are kept. -/
inductive Field where
  | packageName
  | componentName
  deriving Repr, DecidableEq

def Field.name : Field → String
  | packageName => "package_name"
  | componentName => "component_name"

open Pattern

/-- A component URL between word boundaries. -/
def pattern : Pattern Field := inOrder
  [boundary, lit "fuchsia-pkg://fuchsia.com/", capture .packageName (several .name),
   opt (inOrder [lit "?", many (.noneOf ['#'])]),
   lit "#meta/", capture .componentName (several .name), lit ".cm", opt (lit "x"), boundary]

def ofFound (m : Found Field) : ComponentUrl where
  url := String.ofList m.text
  package := String.ofList (m.captures.get .packageName)
  component := String.ofList (m.captures.get .componentName)
  start := m.start
  stop := m.stop

/-- The URLs of a text, in order of appearance. -/
def findAll (text : List Char) : List ComponentUrl := (pattern.scan text).map ofFound

/-- The first of several URLs in order of appearance that covers an offset, its end included. The
search stops at the first URL that starts beyond the offset. -/
def covering? (offset : Int) : List ComponentUrl → Option ComponentUrl
  | [] => none
  | u :: us =>
    if offset < u.start then none
    else if offset ≤ u.stop then some u
    else covering? offset us

/-- The URL of a text that covers an offset, its end included. -/
def at? (text : List Char) (offset : Int) : Option ComponentUrl :=
  covering? offset (findAll text)

end ComponentUrl

end ComponentLinks
