import ComponentLinks.Pattern.Basic

/-!
# Matching a pattern against a text

A match is found by trying the readings of a pattern in their order until one can be completed:
each pattern is given what remains to be done after it, and goes on to its next reading when that
fails.

## Main definitions

* `Place`: a place in a text.
* `Captures`: the parts of the text kept so far.
* `Pattern.read`: the first reading of a pattern that can be completed.
* `Pattern.matchAt?`: the match of a pattern at a place.
* `Pattern.scan`: all matches of a pattern in a text, left to right and disjoint.
-/
namespace ComponentLinks

/-- A place in a text: the character before it, if there is one, and the text after it. -/
structure Place where
  last : Option Char
  rest : List Char
  deriving Repr, DecidableEq

namespace Place

def ofText (cs : List Char) : Place := ⟨none, cs⟩

def isBoundary (a : Place) : Bool :=
  a.last.any Text.isWord != a.rest.head?.any Text.isWord

/-- Whether the text ends here or goes on with white space. -/
def isBlankOrEnd (a : Place) : Bool :=
  a.rest.head?.all Text.isBlank

def skip? (last : Option Char) : List Char → List Char → Option Place
  | [], rest => some ⟨last, rest⟩
  | _ :: _, [] => none
  | c :: w, d :: rest => if c = d then skip? (some d) w rest else none

end Place

/-- A part of a text kept under a field: the text from where the part begins, and the text from
where it ends. -/
structure Capture (ι : Type) where
  field : ι
  opening : List Char
  closing : List Char
  deriving Repr, DecidableEq

def Capture.text {ι : Type} (c : Capture ι) : List Char :=
  c.opening.take (c.opening.length - c.closing.length)

/-- The parts kept so far, the latest first. -/
abbrev Captures (ι : Type) := List (Capture ι)

/-- The text kept under a field, if the field took part in the match. -/
def Captures.get? {ι : Type} [DecidableEq ι] (s : Captures ι) (f : ι) : Option (List Char) :=
  (s.find? fun c => decide (c.field = f)).map Capture.text

/-- The text kept under a field, empty if the field took no part in the match. -/
def Captures.get {ι : Type} [DecidableEq ι] (s : Captures ι) (f : ι) : List Char :=
  (s.get? f).getD []

namespace Pattern

variable {ι α : Type}

/-- Tries what follows a run of characters of a class, after the longest run first. -/
def readLongest (t : CharClass) (k : Place → Option α) : Option Char → List Char → Option α
  | last, [] => k ⟨last, []⟩
  | last, c :: rest =>
    if t.has c then
      match readLongest t k (some c) rest with
      | some r => some r
      | none => k ⟨last, c :: rest⟩
    else k ⟨last, c :: rest⟩

/-- Tries what follows a run of characters of a class, after the shortest run first. -/
def readShortest (t : CharClass) (k : Place → Option α) : Option Char → List Char → Option α
  | last, [] => k ⟨last, []⟩
  | last, c :: rest =>
    match k ⟨last, c :: rest⟩ with
    | some r => some r
    | none => if t.has c then readShortest t k (some c) rest else none

def readRun (t : CharClass) (p : Preference) (k : Place → Option α) (a : Place) : Option α :=
  match p with
  | .longest => readLongest t k a.last a.rest
  | .shortest => readShortest t k a.last a.rest

def readOne (t : CharClass) (k : Place → Option α) (a : Place) : Option α :=
  match a.rest with
  | [] => none
  | c :: rest => if t.has c then k ⟨some c, rest⟩ else none

/-- The result of `k` after the first reading of the pattern for which `k` has one. -/
def read : Pattern ι → (Place → Captures ι → Option α) → Place → Captures ι → Option α
  | text w, k, a, s =>
    match Place.skip? a.last w a.rest with
    | some b => k b s
    | none => none
  | one t, k, a, s => readOne t (fun b => k b s) a
  | run t false p, k, a, s => readRun t p (fun b => k b s) a
  | run t true p, k, a, s => readOne t (readRun t p (fun b => k b s)) a
  | seq p q, k, a, s => p.read (fun b s' => q.read k b s') a s
  | alt p q, k, a, s =>
    match p.read k a s with
    | some r => some r
    | none => q.read k a s
  | opt p, k, a, s =>
    match p.read k a s with
    | some r => some r
    | none => k a s
  | capture f p, k, a, s => p.read (fun b s' => k b (⟨f, a.rest, b.rest⟩ :: s')) a s
  | start, k, a, s => if a.last.isNone then k a s else none
  | boundary, k, a, s => if a.isBoundary then k a s else none
  | blankOrEnd, k, a, s => if a.isBlankOrEnd then k a s else none
  | notBefore w, k, a, s => if w.isPrefixOf a.rest then none else k a s

/-- The match of a pattern at a place: where it ends and what it keeps. -/
def matchAt? (p : Pattern ι) (a : Place) : Option (Place × Captures ι) :=
  p.read (fun b s => some (b, s)) a []

/-- What a pattern keeps when it matches at the beginning of a text. -/
def matchText? (p : Pattern ι) (cs : List Char) : Option (Captures ι) :=
  (p.matchAt? (.ofText cs)).map Prod.snd

end Pattern

/-- A match in a text: the number of characters before it, its own characters, what it keeps. -/
structure Found (ι : Type) where
  start : Nat
  text : List Char
  captures : Captures ι
  deriving Repr, DecidableEq

def Found.stop {ι : Type} (m : Found ι) : Nat := m.start + m.text.length

namespace Pattern

variable {ι : Type}

/-- The matches from a place on that is `n` characters into the text, where the next `covered`
characters belong to a match already found. -/
def scanFrom (p : Pattern ι) : Nat → Nat → Option Char → List Char → List (Found ι)
  | _, _, _, [] => []
  | n, covered + 1, _, c :: rest => p.scanFrom (n + 1) covered (some c) rest
  | n, 0, last, c :: rest =>
    match p.matchAt? ⟨last, c :: rest⟩ with
    | some (b, s) =>
      let text := (c :: rest).take (rest.length + 1 - b.rest.length)
      ⟨n, text, s⟩ :: p.scanFrom (n + 1) (text.length - 1) (some c) rest
    | none => p.scanFrom (n + 1) 0 (some c) rest

/-- All matches of a pattern in a text, left to right; each search goes on where the last match
ended. The pattern is one that never matches the empty text. -/
def scan (p : Pattern ι) (cs : List Char) : List (Found ι) :=
  p.scanFrom 0 0 none cs

end Pattern

end ComponentLinks
