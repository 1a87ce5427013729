import ComponentLinks.Path
import Mathlib.Data.List.Basic
import Mathlib.Data.List.Induction

/-!
# Paths made of steps

A path that is written as steps with slashes between them is read as these steps, and taking it from
a normalized path gives a normalized path. A path is normalized once and for all.

## Main definitions

* `Path.IsStep`: the texts that are one step down.
* `Path.segments_ofString`, `Path.anchorOf_takeWhile`: what is read of the slashes at the beginning,
  and what of the segments after them.
* `Path.ofString_intercalate`: reading steps with slashes between them.
* `Path.normalized_extend`: going down from a normalized path.
* `Path.normalized_normalized`: normalizing a second time.
-/
namespace ComponentLinks.Path

/-- Whether a text is one step down: a segment that is written in a path and stays there. -/
structure IsStep (segment : List Char) : Prop where
  ne_nil : segment ≠ []
  ne_here : segment ≠ ['.']
  ne_up : segment ≠ ['.', '.']
  no_slash : '/' ∉ segment

instance (segment : List Char) : Decidable (IsStep segment) :=
  decidable_of_iff (segment ≠ [] ∧ segment ≠ ['.'] ∧ segment ≠ ['.', '.'] ∧ '/' ∉ segment)
    ⟨fun ⟨hnil, hhere, hup, hslash⟩ => ⟨hnil, hhere, hup, hslash⟩,
      fun h => ⟨h.ne_nil, h.ne_here, h.ne_up, h.no_slash⟩⟩

theorem IsStep.isStep {segment : List Char} (h : IsStep segment) : isStep segment = true := by
  simp [Path.isStep, h.ne_nil, h.ne_here]

theorem IsStep.isStep_and_not_mem {segment : List Char} (h : IsStep segment) :
    Path.isStep segment = true ∧ '/' ∉ segment := ⟨h.isStep, h.no_slash⟩

theorem IsStep.ofList_ne_up {segment : List Char} (h : IsStep segment) :
    String.ofList segment ≠ ".." := by
  intro heq
  refine h.ne_up ?_
  have := congrArg String.toList heq
  simpa using this

/-- One more step comes after a slash. -/
theorem intercalate_append_singleton {segments : List (List Char)} (hne : segments ≠ [])
    (last : List Char) :
    List.intercalate ['/'] (segments ++ [last]) =
      List.intercalate ['/'] segments ++ '/' :: last := by
  induction segments with
  | nil => exact absurd rfl hne
  | cons segment segments ih =>
    cases segments with
    | nil => simp [List.intercalate]
    | cons next segments =>
      rw [List.cons_append, List.cons_append, List.intercalate_cons_cons,
        List.intercalate_cons_cons, ← List.cons_append, ih (by simp)]
      simp

def stepsOf (segments : List (List Char)) : List String :=
  (segments.filter isStep).map String.ofList

/-- The segments that a path is written with, after the slashes that it begins with. -/
def writtenSegments (s : String) : List (List Char) :=
  (s.toList.dropWhile (· == '/')).splitOn '/'

theorem stepsOf_append (front back : List (List Char)) :
    stepsOf (front ++ back) = stepsOf front ++ stepsOf back := by
  simp [stepsOf]

/-- Slashes at the beginning are no steps. -/
theorem segments_ofString (s : String) : (ofString s).segments = stepsOf (writtenSegments s) := by
  show stepsOf (s.toList.splitOn '/') = stepsOf ((s.toList.dropWhile (· == '/')).splitOn '/')
  induction s.toList with
  | nil => rfl
  | cons c cs ih =>
    by_cases hc : c = '/'
    · subst hc
      rw [List.dropWhile_cons_of_pos (by rfl), ← ih, List.splitOn_cons_eq_if_modifyHead]
      simp [stepsOf, isStep]
    · rw [List.dropWhile_cons_of_neg (by simpa using hc)]

/-- The anchor shows in the slashes at the beginning. -/
theorem anchorOf_takeWhile (cs : List Char) : anchorOf (cs.takeWhile (· == '/')) = anchorOf cs := by
  rcases cs with _ | ⟨a, _ | ⟨b, _ | ⟨c, cs⟩⟩⟩
  · rfl
  · by_cases ha : a = '/' <;> simp [anchorOf, ha]
  · by_cases ha : a = '/' <;> by_cases hb : b = '/' <;> simp [anchorOf, ha, hb]
  · by_cases ha : a = '/' <;> by_cases hb : b = '/' <;> by_cases hc : c = '/' <;>
      simp [anchorOf, ha, hb, hc]

/-- Segments with slashes between them do not begin with a slash if they are steps. -/
theorem head?_intercalate_ne {segments : List (List Char)}
    (h : ∀ s ∈ segments, isStep s = true ∧ '/' ∉ s) :
    (List.intercalate ['/'] segments).head? ≠ some '/' := by
  cases segments with
  | nil => simp
  | cons segment segments =>
    obtain ⟨hstep, hslash⟩ := h segment (by simp)
    obtain ⟨c, cs, rfl⟩ : ∃ c cs, segment = c :: cs := by
      refine List.exists_cons_of_ne_nil ?_
      rintro rfl
      simp [Path.isStep] at hstep
    have hc : c ≠ '/' := fun heq => hslash (by simp [heq])
    cases segments <;> simp [hc]

theorem stepsOf_splitOn_intercalate {segments : List (List Char)}
    (h : ∀ s ∈ segments, isStep s = true ∧ '/' ∉ s) :
    stepsOf ((List.intercalate ['/'] segments).splitOn '/') = segments.map String.ofList := by
  by_cases hnil : segments = []
  · subst hnil
    rfl
  · rw [List.splitOn_intercalate '/' (fun s hs => (h s hs).2) hnil, stepsOf,
      List.filter_eq_self.2 fun s hs => (h s hs).1]

theorem isSegment_of_mem_map {segments : List (List Char)}
    (h : ∀ s ∈ segments, isStep s = true ∧ '/' ∉ s) :
    ∀ s ∈ segments.map String.ofList, IsSegment s := by
  simpa [IsSegment] using h

/-- Slashes and then steps with slashes between them are read as these steps from an anchor. -/
theorem ofString_slashes_append {slashes : List Char} (hslashes : ∀ c ∈ slashes, c = '/')
    {segments : List (List Char)} (h : ∀ s ∈ segments, isStep s = true ∧ '/' ∉ s) :
    ofString (String.ofList (slashes ++ List.intercalate ['/'] segments)) =
      ⟨anchorOf slashes, segments.map String.ofList, isSegment_of_mem_map h⟩ := by
  have hall : ∀ c ∈ slashes, (c == '/') = true := fun c hc => by simp [hslashes c hc]
  have hhead := head?_intercalate_ne h
  have hsteps := stepsOf_splitOn_intercalate h
  generalize List.intercalate ['/'] segments = body at hhead hsteps
  have hnone : body.takeWhile (· == '/') = [] ∧ body.dropWhile (· == '/') = body := by
    cases body with
    | nil => exact ⟨rfl, rfl⟩
    | cons c body =>
      have hc : c ≠ '/' := by simpa using hhead
      exact ⟨by simp [hc], by simp [hc]⟩
  have hanchor : anchorOf (slashes ++ body) = anchorOf slashes := by
    rw [← anchorOf_takeWhile, List.takeWhile_append_of_pos hall, hnone.1, List.append_nil]
  have hwritten : writtenSegments (String.ofList (slashes ++ body)) = body.splitOn '/' := by
    rw [writtenSegments, String.toList_ofList, List.dropWhile_append_of_pos hall, hnone.2]
  have hsegments := segments_ofString (String.ofList (slashes ++ body))
  rw [hwritten, hsteps] at hsegments
  exact Path.ext (by rw [← hanchor]; simp [ofString]) hsegments

/-- Steps with slashes between them are read as a relative path. -/
theorem ofString_intercalate {segments : List (List Char)}
    (h : ∀ segment ∈ segments, IsStep segment) :
    ofString (String.ofList (List.intercalate ['/'] segments)) =
      ⟨.relative, segments.map String.ofList,
        isSegment_of_mem_map fun s hs => (h s hs).isStep_and_not_mem⟩ :=
  ofString_slashes_append (List.forall_mem_nil _) fun s hs => (h s hs).isStep_and_not_mem

/-! ## Normalization -/

theorem normalStep_of_ne {segment : String} (h : segment ≠ "..") (absolute : Bool)
    (seen : List String) : normalStep absolute seen segment = segment :: seen := by
  simp [normalStep, h]

theorem foldl_normalStep (absolute : Bool) (seen : List String) {segments : List String}
    (h : ∀ segment ∈ segments, segment ≠ "..") :
    segments.foldl (normalStep absolute) seen = segments.reverse ++ seen := by
  induction segments generalizing seen with
  | nil => rfl
  | cons segment segments ih =>
    rw [List.foldl_cons, normalStep_of_ne (h segment (by simp)),
      ih _ fun s hs => h s (by simp [hs])]
    simp

/-- A path further down from a normalized path is normalized. -/
theorem normalized_extend {base : Path} (hbase : base.normalized = base) {segments : List String}
    (hsegments : ∀ segment ∈ segments, IsSegment segment)
    (h : ∀ segment ∈ segments, segment ≠ "..") :
    (base.extend segments hsegments).normalized = base.extend segments hsegments := by
  have hsame : (base.segments.foldl (normalStep base.isAbsolute) []).reverse = base.segments :=
    congrArg Path.segments hbase
  have hfold : (base.segments ++ segments).foldl (normalStep base.isAbsolute) [] =
      segments.reverse ++ base.segments.reverse := by
    rw [List.foldl_append, foldl_normalStep _ _ h, List.reverse_eq_iff.1 hsame]
  refine Path.ext rfl ?_
  rw [segments_normalized, segments_extend, isAbsolute_extend, hfold]
  simp

/-- Whether segments, the last one first, stay as they are when they are normalized. -/
def IsSettled (absolute : Bool) (seen : List String) : Prop :=
  seen.reverse.foldl (normalStep absolute) [] = seen

theorem isSettled_cons_iff {absolute : Bool} {segment : String} {seen : List String} :
    IsSettled absolute (segment :: seen) ↔
      normalStep absolute (seen.reverse.foldl (normalStep absolute) []) segment =
        segment :: seen := by
  rw [IsSettled, List.reverse_cons, List.foldl_append, List.foldl_cons, List.foldl_nil]

/-- Normalizing one more segment leaves nothing more to normalize. -/
theorem IsSettled.normalStep {absolute : Bool} {seen : List String} (h : IsSettled absolute seen)
    (segment : String) : IsSettled absolute (normalStep absolute seen segment) := by
  by_cases hup : segment = ".."
  · subst hup
    cases seen with
    | nil => cases absolute <;> rfl
    | cons previous before =>
      by_cases hprevious : previous = ".."
      · subst hprevious
        have hstep : Path.normalStep absolute (".." :: before) ".." = ".." :: ".." :: before := by
          simp [Path.normalStep]
        rw [hstep, isSettled_cons_iff, h, hstep]
      · -- The segment before is cancelled, and those before it were settled already.
        have hstep : Path.normalStep absolute (previous :: before) ".." = before := by
          simp [Path.normalStep, hprevious]
        rw [isSettled_cons_iff, normalStep_of_ne hprevious] at h
        rw [hstep]
        exact (List.cons.inj h).2
  · rw [normalStep_of_ne hup, isSettled_cons_iff, h, normalStep_of_ne hup]

theorem isSettled_foldl (absolute : Bool) (segments : List String) :
    IsSettled absolute (segments.foldl (Path.normalStep absolute) []) := by
  induction segments using List.reverseRecOn with
  | nil => rfl
  | append_singleton segments segment ih =>
    rw [List.foldl_append]
    exact ih.normalStep segment

@[simp] theorem normalized_normalized (p : Path) : p.normalized.normalized = p.normalized := by
  have h := isSettled_foldl p.isAbsolute p.segments
  exact Path.ext rfl (congrArg List.reverse h)

end ComponentLinks.Path
