import ComponentLinks.Pattern.Match

/-!
# The readings of a pattern

All the ways in which a pattern can read a text from a place, in the order in which they are
tried. A match is the first of them that can be completed.

## Main definitions

* `Pattern.readings`: the readings in order.
* `Pattern.read_eq_findSome?`: matching takes the first reading that can be completed.
* `Pattern.matchAt?_eq_head?`: the match of a pattern on its own is its first reading.
-/
namespace ComponentLinks

namespace Pattern

variable {ι α : Type}

/-- The places where a run of characters of a class can end, the last one first. -/
def endsLongest (t : CharClass) : Option Char → List Char → List Place
  | last, [] => [⟨last, []⟩]
  | last, c :: rest =>
    if t.has c then endsLongest t (some c) rest ++ [⟨last, c :: rest⟩] else [⟨last, c :: rest⟩]

/-- The places where a run of characters of a class can end, the first one first. -/
def endsShortest (t : CharClass) : Option Char → List Char → List Place
  | last, [] => [⟨last, []⟩]
  | last, c :: rest =>
    ⟨last, c :: rest⟩ :: if t.has c then endsShortest t (some c) rest else []

/-- The places where a run of characters of a class can end, in the order of a preference. -/
def runEnds (t : CharClass) (p : Preference) (a : Place) : List Place :=
  match p with
  | .longest => endsLongest t a.last a.rest
  | .shortest => endsShortest t a.last a.rest

def oneEnds (t : CharClass) (a : Place) : List Place :=
  match a.rest with
  | [] => []
  | c :: rest => if t.has c then [⟨some c, rest⟩] else []

/-- The readings of a pattern from a place, in the order in which they are tried: where each one
ends and what it keeps. -/
def readings : Pattern ι → Place → Captures ι → List (Place × Captures ι)
  | text w, a, s => (Place.skip? a.last w a.rest).toList.map fun b => (b, s)
  | one t, a, s => (oneEnds t a).map fun b => (b, s)
  | run t false p, a, s => (runEnds t p a).map fun b => (b, s)
  | run t true p, a, s => ((oneEnds t a).flatMap (runEnds t p)).map fun b => (b, s)
  | seq p q, a, s => (p.readings a s).flatMap fun r => q.readings r.1 r.2
  | alt p q, a, s => p.readings a s ++ q.readings a s
  | opt p, a, s => p.readings a s ++ [(a, s)]
  | capture f p, a, s =>
    (p.readings a s).map fun r => (r.1, ⟨f, a.rest, r.1.rest⟩ :: r.2)
  | start, a, s => if a.last.isNone then [(a, s)] else []
  | boundary, a, s => if a.isBoundary then [(a, s)] else []
  | blankOrEnd, a, s => if a.isBlankOrEnd then [(a, s)] else []
  | notBefore w, a, s => if w.isPrefixOf a.rest then [] else [(a, s)]

theorem readLongest_eq_findSome? (t : CharClass) (k : Place → Option α) (last : Option Char)
    (cs : List Char) : readLongest t k last cs = (endsLongest t last cs).findSome? k := by
  induction cs generalizing last with
  | nil => simp [readLongest, endsLongest]
  | cons c rest ih =>
    simp only [readLongest, endsLongest, ih]
    split
    · simp only [List.findSome?_append]
      cases h : (endsLongest t (some c) rest).findSome? k <;> simp
    · simp

theorem readShortest_eq_findSome? (t : CharClass) (k : Place → Option α) (last : Option Char)
    (cs : List Char) : readShortest t k last cs = (endsShortest t last cs).findSome? k := by
  induction cs generalizing last with
  | nil => simp [readShortest, endsShortest]
  | cons c rest ih =>
    simp only [readShortest, endsShortest, ih, List.findSome?_cons]
    cases k ⟨last, c :: rest⟩ <;> simp only
    split <;> simp

theorem readRun_eq_findSome? (t : CharClass) (p : Preference) (k : Place → Option α) (a : Place) :
    readRun t p k a = (runEnds t p a).findSome? k := by
  cases p
  · exact readLongest_eq_findSome? t k a.last a.rest
  · exact readShortest_eq_findSome? t k a.last a.rest

theorem readOne_eq_findSome? (t : CharClass) (k : Place → Option α) (a : Place) :
    readOne t k a = (oneEnds t a).findSome? k := by
  obtain ⟨last, _ | ⟨c, rest⟩⟩ := a
  · rfl
  · simp only [readOne, oneEnds]
    split <;> simp

theorem findSome?_flatMap {β γ : Type} (f : β → List γ) (k : γ → Option α) (xs : List β) :
    (xs.flatMap f).findSome? k = xs.findSome? fun x => (f x).findSome? k := by
  induction xs with
  | nil => rfl
  | cons x xs ih =>
    simp only [List.flatMap_cons, List.findSome?_append, List.findSome?_cons, ih]
    cases (f x).findSome? k <;> rfl

/-- Matching takes the first reading that can be completed. -/
theorem read_eq_findSome? (p : Pattern ι) (k : Place → Captures ι → Option α) (a : Place)
    (s : Captures ι) : p.read k a s = (p.readings a s).findSome? fun r => k r.1 r.2 := by
  induction p generalizing k a s with
  | text w =>
    simp only [read, readings]
    cases Place.skip? a.last w a.rest <;> simp
  | one t => simp [read, readings, readOne_eq_findSome?, List.findSome?_map, Function.comp_def]
  | run t nonempty p =>
    cases nonempty
    · simp [read, readings, readRun_eq_findSome?, List.findSome?_map, Function.comp_def]
    · have hrun : (readRun t p fun b => k b s) = fun b => (runEnds t p b).findSome? (k · s) :=
        funext fun b => readRun_eq_findSome? t p _ b
      simp [read, readings, readOne_eq_findSome?, hrun, List.findSome?_map, findSome?_flatMap,
        Function.comp_def]
  | seq p q ihp ihq => simp only [read, readings, ihp, ihq, findSome?_flatMap]
  | alt p q ihp ihq =>
    simp only [read, readings, ihp, ihq, List.findSome?_append]
    cases (p.readings a s).findSome? fun r => k r.1 r.2 <;> simp
  | opt p ih =>
    simp only [read, readings, ih, List.findSome?_append]
    cases (p.readings a s).findSome? fun r => k r.1 r.2 <;> simp
  | capture f p ih => simp [read, readings, ih, List.findSome?_map, Function.comp_def]
  | start =>
    simp only [read, readings]
    split <;> simp
  | boundary =>
    simp only [read, readings]
    split <;> simp
  | blankOrEnd =>
    simp only [read, readings]
    split <;> simp
  | notBefore w =>
    simp only [read, readings]
    split <;> simp

/-- The match of a pattern on its own is its first reading. -/
theorem matchAt?_eq_head? (p : Pattern ι) (a : Place) :
    p.matchAt? a = (p.readings a []).head? := by
  rw [matchAt?, read_eq_findSome?]
  cases p.readings a [] <;> simp

end Pattern

end ComponentLinks
