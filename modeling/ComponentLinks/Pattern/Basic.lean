import ComponentLinks.Text.Blank
import ComponentLinks.Text.Word

/-!
# Text patterns

A pattern describes how a text may go on from a place, and which parts of it to keep under the
names of fields. Repetition is over single characters of a class, which is all that build
statements and component URLs need.

## Main definitions

* `CharClass`: a class of characters.
* `Pattern`: patterns over a type of fields.
* `Pattern.inOrder`: patterns one after the other.
* `Pattern.many`, `Pattern.several` and their `Lazy` forms: the four repetitions.
-/
namespace ComponentLinks

/-- A class of characters. Names consist of word characters and hyphens, dotted ones of dots too. -/
inductive CharClass where
  | any
  | blank
  | visible
  | word
  | name
  | dottedName
  | oneOf (cs : List Char)
  | noneOf (cs : List Char)
  deriving Repr, DecidableEq

namespace CharClass

def has : CharClass → Char → Bool
  | any, _ => true
  | blank, c => Text.isBlank c
  | visible, c => !Text.isBlank c
  | word, c => Text.isWord c
  | name, c => Text.isName c
  | dottedName, c => Text.isName c || c == '.'
  | oneOf cs, c => cs.contains c
  | noneOf cs, c => !cs.contains c

end CharClass

/-- Which length of a repetition is tried first. -/
inductive Preference where
  | longest
  | shortest
  deriving Repr, DecidableEq

/-- A pattern whose parts may be kept under fields of type `ι`. Where several readings of a text are
possible they are ordered: the left alternative first, an optional part first present and then
absent, a run by its preference. A boundary is a place with a word character on exactly one side;
`blankOrEnd` and `notBefore` look at what follows the place and cover nothing. -/
inductive Pattern (ι : Type) where
  | text (w : List Char)
  | one (t : CharClass)
  | run (t : CharClass) (nonempty : Bool) (p : Preference)
  | seq (p q : Pattern ι)
  | alt (p q : Pattern ι)
  | opt (p : Pattern ι)
  | capture (f : ι) (p : Pattern ι)
  | start
  | boundary
  | blankOrEnd
  | notBefore (w : List Char)
  deriving Repr, DecidableEq

namespace Pattern

variable {ι : Type}

def inOrder : List (Pattern ι) → Pattern ι
  | [] => text []
  | [p] => p
  | p :: ps => seq p (inOrder ps)

def lit (s : String) : Pattern ι := text s.toList

def many (t : CharClass) : Pattern ι := run t false .longest

def manyLazy (t : CharClass) : Pattern ι := run t false .shortest

def several (t : CharClass) : Pattern ι := run t true .longest

def severalLazy (t : CharClass) : Pattern ι := run t true .shortest

end Pattern

end ComponentLinks
