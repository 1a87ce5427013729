import ComponentLinks.Text.Lines

/-!
# File paths

A path is a list of segments with an anchor: relative to some directory, from the root, or from
the root written with exactly two slashes, which stays apart from the plain root. Empty segments
and `.` segments are dropped when a path is read; `..` segments stay until the path is normalized.

## Main definitions

* `Path.IsSegment`: the texts that are segments.
* `Path.ofString`, `Path.toString`: reading and writing a path.
* `Path.extend`, `Path.join`: going on from a path, by segments or by another path.
* `Path.normalized`: a path without `..` segments that can be cancelled.
* `Path.resolved`: the absolute path without `..` segments.
* `Path.extension`: the extension of the last segment.
-/
namespace ComponentLinks

/-- Where a path starts: at a directory that is not named, at the root, or at the root written with
exactly two slashes. -/
inductive Anchor where
  | relative
  | root
  | doubleRoot
  deriving Repr, DecidableEq

def Anchor.toString : Anchor → String
  | relative => ""
  | root => "/"
  | doubleRoot => "//"

/-- Whether a written segment says where to go: it is neither empty nor a `.`. -/
def Path.isStep (segment : List Char) : Bool := !segment.isEmpty && segment != ['.']

/-- Whether a text is a segment of a path: it says where to go, and holds no slash. -/
def Path.IsSegment (s : String) : Prop := Path.isStep s.toList = true ∧ '/' ∉ s.toList

instance (s : String) : Decidable (Path.IsSegment s) := inferInstanceAs (Decidable (_ ∧ _))

/-- A path: an anchor and the segments after it. -/
@[ext]
structure Path where
  anchor : Anchor
  segments : List String
  isSegment : ∀ s ∈ segments, Path.IsSegment s
  deriving Repr, DecidableEq

namespace Path

def anchorOf : List Char → Anchor
  | '/' :: '/' :: '/' :: _ => .root
  | '/' :: '/' :: _ => .doubleRoot
  | '/' :: _ => .root
  | _ => .relative

theorem isSegment_of_mem_splitOn {cs : List Char} {s : String}
    (h : s ∈ ((cs.splitOn '/').filter isStep).map String.ofList) : IsSegment s := by
  obtain ⟨segment, hsegment, rfl⟩ := List.mem_map.1 h
  obtain ⟨hmem, hstep⟩ := List.mem_filter.1 hsegment
  rw [IsSegment, String.toList_ofList]
  exact ⟨hstep, fun hslash => (Text.mem_and_ne_of_mem_splitOn hmem hslash).2 rfl⟩

/-- The path that a text writes. -/
def ofString (s : String) : Path where
  anchor := anchorOf s.toList
  segments := ((s.toList.splitOn '/').filter isStep).map String.ofList
  isSegment _ := isSegment_of_mem_splitOn

/-- The written form of a path; the empty relative path is a `.`. -/
def toString (p : Path) : String :=
  match p.anchor, p.segments with
  | .relative, [] => "."
  | a, segments => a.toString ++ "/".intercalate segments

/-- Whether the path starts at the root. -/
def isAbsolute (p : Path) : Bool := p.anchor != .relative

def extend (p : Path) (segments : List String) (h : ∀ s ∈ segments, IsSegment s) : Path where
  anchor := p.anchor
  segments := p.segments ++ segments
  isSegment := List.forall_mem_append.2 ⟨p.isSegment, h⟩

/-- The path `q` taken from the directory `p`. -/
def join (p q : Path) : Path := if q.isAbsolute then q else p.extend q.segments q.isSegment

/-- One step of normalization: `seen` holds the segments so far, the last one first. A `..`
cancels a segment before it, is dropped at the root, and stays otherwise. -/
def normalStep (absolute : Bool) (seen : List String) (segment : String) : List String :=
  if segment = ".." then
    match seen with
    | [] => if absolute then [] else [segment]
    | previous :: before => if previous = ".." then segment :: seen else before
  else segment :: seen

theorem mem_of_mem_normalStep {absolute : Bool} {seen : List String} {segment s : String}
    (h : s ∈ normalStep absolute seen segment) : s = segment ∨ s ∈ seen := by
  unfold normalStep at h
  grind

theorem mem_of_mem_foldl_normalStep {absolute : Bool} {segments seen : List String} {s : String}
    (h : s ∈ segments.foldl (normalStep absolute) seen) : s ∈ segments ∨ s ∈ seen := by
  induction segments generalizing seen with
  | nil => exact .inr h
  | cons segment segments ih =>
    rcases ih h with h | h
    · exact .inl (List.mem_cons_of_mem _ h)
    · rcases mem_of_mem_normalStep h with rfl | h
      · exact .inl List.mem_cons_self
      · exact .inr h

/-- Normalization keeps some of the segments. -/
theorem mem_of_mem_normalized {absolute : Bool} {segments : List String} {s : String}
    (h : s ∈ (segments.foldl (normalStep absolute) []).reverse) : s ∈ segments :=
  (mem_of_mem_foldl_normalStep (List.mem_reverse.1 h)).resolve_right List.not_mem_nil

/-- The path without the `..` segments that can be cancelled. -/
def normalized (p : Path) : Path where
  anchor := p.anchor
  segments := (p.segments.foldl (normalStep p.isAbsolute) []).reverse
  isSegment s h := p.isSegment s (mem_of_mem_normalized h)

/-- The absolute path that `p` means in the directory `here`, without `..` segments. -/
def resolved (here p : Path) : Path where
  anchor := .root
  segments := ((here.join p).segments.foldl (normalStep true) []).reverse
  isSegment s h := (here.join p).isSegment s (mem_of_mem_normalized h)

def rootDirectory : Path := ⟨.root, [], by simp⟩

/-- The last dot of a file name and what follows it, unless the dot begins or ends the name. -/
def extensionOf (name : List Char) : List Char :=
  let tail := (name.reverse.takeWhile (· != '.')).reverse
  if tail.isEmpty || name.length ≤ tail.length + 1 then [] else '.' :: tail

/-- The extension of the last segment with its dot, empty if there is none. -/
def extension (p : Path) : String :=
  String.ofList (extensionOf (p.segments.getLast?.getD "").toList)

@[simp] theorem anchor_extend (p : Path) {segments : List String}
    (h : ∀ s ∈ segments, IsSegment s) : (p.extend segments h).anchor = p.anchor := rfl

@[simp] theorem segments_extend (p : Path) {segments : List String}
    (h : ∀ s ∈ segments, IsSegment s) :
    (p.extend segments h).segments = p.segments ++ segments := rfl

@[simp] theorem isAbsolute_extend (p : Path) {segments : List String}
    (h : ∀ s ∈ segments, IsSegment s) : (p.extend segments h).isAbsolute = p.isAbsolute := rfl

@[simp] theorem anchor_normalized (p : Path) : p.normalized.anchor = p.anchor := rfl

theorem segments_normalized (p : Path) :
    p.normalized.segments = (p.segments.foldl (normalStep p.isAbsolute) []).reverse := rfl

@[simp] theorem isAbsolute_normalized (p : Path) : p.normalized.isAbsolute = p.isAbsolute := rfl

@[simp] theorem isAbsolute_resolved (here p : Path) : (resolved here p).isAbsolute = true := rfl

theorem join_of_isAbsolute {q : Path} (h : q.isAbsolute = true) (p : Path) : p.join q = q := by
  simp [join, h]

end Path

/-- A written path taken from a written directory, without reading either of them. -/
def joinPaths (directory path : String) : String :=
  if path.toList.head? = some '/' then path
  else if directory.isEmpty || directory.toList.getLast? = some '/' then directory ++ path
  else directory ++ "/" ++ path

end ComponentLinks
