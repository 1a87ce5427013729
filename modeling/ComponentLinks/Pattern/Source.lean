import ComponentLinks.Pattern.Basic

/-!
# The written form of a pattern

Patterns are shown in messages in the usual notation of regular expressions: an escape before
every sign with a meaning of its own, `(?:…)` around a group, `(?P<field>…)` around a part that is
kept.

## Main definitions

* `CharClass.source`: the written form of a class.
* `Pattern.source`: the written form of a pattern.
-/
namespace ComponentLinks

def patternSigns : List Char :=
  ['.', '^', '$', '*', '+', '?', '\x7b', '\x7d', '[', ']', '\\', '|', '(', ')']

def escapeSign (c : Char) : List Char :=
  if patternSigns.contains c then ['\\', c] else [c]

def CharClass.source : CharClass → String
  | any => "."
  | blank => "\\s"
  | visible => "\\S"
  | word => "\\w"
  | name => "[-\\w]"
  | dottedName => "[-\\w.]"
  | oneOf cs => "[" ++ String.ofList cs ++ "]"
  | noneOf cs => "[^" ++ String.ofList cs ++ "]"

namespace Pattern

variable {ι : Type}

def runSign (nonempty : Bool) (p : Preference) : String :=
  (if nonempty then "+" else "*") ++ (match p with | .longest => "" | .shortest => "?")

/-- Whether the pattern is one item, so that a sign after it applies to all of it. -/
def isItem : Pattern ι → Bool
  | text [_] => true
  | one _ => true
  | capture _ _ => true
  | _ => false

def grouped (item : Bool) (source : String) : String :=
  if item then source else "(?:" ++ source ++ ")"

def isChoice : Pattern ι → Bool
  | alt _ _ => true
  | _ => false

/-- The written form of a pattern whose fields have the given names. -/
def source (name : ι → String) : Pattern ι → String
  | text w => String.ofList (w.flatMap escapeSign)
  | one t => t.source
  | run t nonempty p => t.source ++ runSign nonempty p
  | seq p q => grouped (!p.isChoice) (p.source name) ++ grouped (!q.isChoice) (q.source name)
  | alt p q => p.source name ++ "|" ++ q.source name
  | opt p => grouped p.isItem (p.source name) ++ "?"
  | capture f p => "(?P<" ++ name f ++ ">" ++ p.source name ++ ")"
  | start => "^"
  | boundary => "\\b"
  | blankOrEnd => "(?=\\s|$)"
  | notBefore w => "(?!" ++ String.ofList (w.flatMap escapeSign) ++ ")"

end Pattern

end ComponentLinks
