import ComponentLinks.Proofs.Pattern.Words
import ComponentLinks.Proofs.Statement.Build

/-!
# Dependencies in a directory

The dependencies of a build statement are scanned for the stamps of one directory. Whatever stands
before and after a stamp in the list of dependencies, apart from it by blanks, the scan comes to the
stamp if no match leads across the blanks before it. It passes over the paths of other directories.

## Main definitions

* `Statement.outputPrefix`: how the outputs of a directory begin.
* `Statement.ReadsOutputs`: the patterns that match outputs of a directory only.
* `Statement.ReadsOutputs.scansTo_of_path`: a path that is none.
* `Statement.Dependencies`: a list of dependencies with a stamp of a directory in it.
* `Statement.Dependencies.exists_scan_eq`: the match of the stamp in such a list.
* `Statement.DependentBuild`: build statements with such a list.
-/
namespace ComponentLinks.Statement

open Pattern

/-- How the paths of the outputs of a directory begin. -/
def outputPrefix (directory : List Char) : List Char := "obj/".toList ++ (directory ++ ['/'])

theorem isVisible_outputPrefix {directory : List Char} (h : IsVisible directory) :
    IsVisible (outputPrefix directory) := by
  have hobj : IsVisible "obj/".toList := by decide
  have hslash : IsVisible ['/'] := by decide
  exact hobj.append (h.append hslash)

/-! ## Paths that a scan passes over -/

/-- Whether every match of a pattern begins, after blanks, with an output of a directory that is
allowed. -/
def ReadsOutputs (p : Pattern Field) (directory : List Char) (allowed : List Char → Prop) : Prop :=
  ∀ last cs b s, p.matchAt? ⟨last, cs⟩ = some (b, s) →
    ∃ blanks out, IsBlanks blanks ∧ cs = blanks ++ (outputPrefix directory ++ out) ∧ allowed out

namespace ReadsOutputs

variable {β : Type} {p : Pattern Field} {g : Found Field → Option β} {allowed : List Char → Prop}
  {directory gap path rest : List Char}

/-- Nothing is made of blanks at the end. -/
theorem scansTo_of_blanks (h : ReadsOutputs p directory allowed) (hgap : IsBlanks gap) :
    ScansTo p g gap [] [] := by
  refine ScansTo.of_none fun us vs hsplit _ last => ?_
  by_contra hsome
  obtain ⟨⟨b, s⟩, hmatch⟩ := Option.ne_none_iff_exists'.1 hsome
  obtain ⟨blanks, out, -, hout, -⟩ := h _ _ _ _ hmatch
  have hvs : vs = blanks ++ (outputPrefix directory ++ out) := by simpa using hout
  exact absurd (hgap 'o' (by simp [hsplit, hvs, outputPrefix])) (by decide)

/-- The scan passes over a path that holds no output of the directory that is allowed. -/
theorem scansTo_of_path (h : ReadsOutputs p directory allowed) (hdirectory : IsDirectory directory)
    (hgap : IsBlanks gap) (hne : path ≠ []) (hpath : IsVisible path)
    (hrest : ∀ c ∈ rest.head?, Text.isBlank c = true)
    (hout : ∀ us vs, path = us ++ (outputPrefix directory ++ vs) → ¬ allowed (vs ++ rest)) :
    ScansTo p g (gap ++ path) rest [] := by
  refine ScansTo.of_none fun us vs hsplit hvs last => ?_
  by_contra hsome
  obtain ⟨⟨b, s⟩, hmatch⟩ := Option.ne_none_iff_exists'.1 hsome
  obtain ⟨blanks, out, hblanks, hread, hallowed⟩ := h _ _ _ _ hmatch
  obtain ⟨gap', front, path', hgap', hne', rfl, rfl⟩ : ∃ gap' front path', IsBlanks gap' ∧
      path' ≠ [] ∧ vs = gap' ++ path' ∧ path = front ++ path' := by
    rcases List.append_eq_append_iff.1 hsplit with ⟨ts, rfl, hts⟩ | ⟨ts, rfl, hts⟩
    · exact ⟨[], ts, vs, isBlanks_nil, hvs, rfl, hts⟩
    · exact ⟨ts, [], path, fun c hc => hgap c (by simp [hc]), hne, hts, rfl⟩
  -- The blanks of the match are what is left of the gap, and the output begins in the path.
  obtain ⟨c, cs, rfl⟩ := List.exists_cons_of_ne_nil hne'
  have hc : Text.isBlank c = false := hpath c (by simp)
  have ho : Text.isBlank 'o' = false := by decide
  have hblank : gap' ++ c :: (cs ++ rest) =
      blanks ++ 'o' :: ("bj/".toList ++ (directory ++ '/' :: out)) := by
    simpa [outputPrefix] using hread
  obtain ⟨rfl, rfl, htail⟩ := Text.append_inj_of_stop hgap' hblanks hc ho hblank
  have hoPath : outputPrefix directory ++ out = ('o' :: cs) ++ rest := by
    simp [outputPrefix, htail]
  obtain ⟨vs, hvs⟩ :=
    prefix_of_isVisible (isVisible_outputPrefix hdirectory.isVisible) hrest ⟨out, hoPath⟩
  rw [← hvs, List.append_assoc] at hoPath
  obtain rfl := List.append_cancel_left hoPath
  exact hout front vs (by rw [hvs]) hallowed

end ReadsOutputs

/-! ## A stamp in a list of dependencies -/

/-- A list of dependencies with the stamp of a target of a directory in it, after the dependencies
`before` and the blanks `gap`. -/
structure Dependencies (directory target : List Char) where
  before : List Char
  gap : List Char
  after : List Char
  before_end : ∀ c ∈ before.getLast?, Text.isBlank c = false
  gap_blank : IsBlanks gap
  gap_apart : before = [] ∨ gap ≠ []
  after_apart : ∀ c ∈ after.head?, Text.isBlank c = true

namespace Dependencies

variable {directory target : List Char}

def stamp (_ : Dependencies directory target) : List Char :=
  outputPrefix directory ++ (target ++ ".stamp".toList)

def fromGap (d : Dependencies directory target) : List Char := (d.gap ++ d.stamp) ++ d.after

def text (d : Dependencies directory target) : List Char := d.before ++ d.fromGap

/-- A part of the dependencies before the stamp ends with no blank. -/
theorem exists_last_of_before_eq (d : Dependencies directory target) {ys zs : List Char}
    (h : d.before = ys ++ zs) (hzs : zs ≠ []) :
    ∃ us c, zs = us ++ [c] ∧ Text.isBlank c = false := by
  obtain ⟨us, c, rfl⟩ : ∃ us c, zs = us ++ [c] := by
    rcases List.eq_nil_or_concat zs with rfl | ⟨us, c, rfl⟩
    · exact absurd rfl hzs
    · exact ⟨us, c, List.concat_eq_append⟩
  exact ⟨us, c, rfl, d.before_end c (by simp [h, ← List.append_assoc])⟩

/-- Where there are dependencies before the stamp, a blank comes after them. -/
theorem exists_gap_of_before_eq (d : Dependencies directory target) {ys zs : List Char}
    (h : d.before = ys ++ zs) (hzs : zs ≠ []) :
    ∃ g gs, d.gap = g :: gs ∧ Text.isBlank g = true := by
  rcases d.gap_apart with hnil | hne
  · simp_all
  · obtain ⟨g, gs, hgap⟩ := List.exists_cons_of_ne_nil hne
    exact ⟨g, gs, hgap, d.gap_blank g (by simp [hgap])⟩

/-- An output of the directory that is read in the dependencies before the stamp, after some blanks,
begins there. -/
theorem exists_of_output (hdirectory : IsDirectory directory) (d : Dependencies directory target)
    {ys zs blanks rest : List Char} (h : d.before = ys ++ zs) (hzs : zs ≠ [])
    (hblanks : IsBlanks blanks)
    (hread : zs ++ d.fromGap = blanks ++ (outputPrefix directory ++ rest)) :
    ∃ us, zs = blanks ++ (outputPrefix directory ++ us) ∧ rest = us ++ d.fromGap := by
  obtain ⟨ws, c, hws, hc⟩ := d.exists_last_of_before_eq h hzs
  obtain ⟨g, gs, hgap, hg⟩ := d.exists_gap_of_before_eq h hzs
  rcases List.append_eq_append_iff.1 hread with ⟨us, rfl, -⟩ | ⟨us, rfl, hus⟩
  · -- The blanks would hold the last character before the gap.
    have := hblanks c (by simp [hws])
    simp [hc] at this
  · have hvisible : g ∉ outputPrefix directory := by
      intro hmem
      simp [isVisible_outputPrefix hdirectory.isVisible g hmem] at hg
    have hpre : outputPrefix directory <+: us ++ g :: (gs ++ (d.stamp ++ d.after)) :=
      ⟨rest, by simpa [fromGap, hgap] using hus⟩
    obtain ⟨vs, rfl⟩ := Text.prefix_of_prefix_append hvisible hpre
    refine ⟨vs, rfl, ?_⟩
    rw [List.append_assoc] at hus
    exact List.append_cancel_left hus

/-- A word in the dependencies before the stamp ends before the blanks in front of the stamp. -/
theorem length_le_of_isVisible (d : Dependencies directory target) {ys zs us word rest : List Char}
    (h : d.before = ys ++ zs) (hzs : zs ≠ []) (hword : IsVisible word)
    (hread : word ++ rest = us ++ d.fromGap) : d.fromGap.length ≤ rest.length := by
  obtain ⟨g, gs, hgap, hg⟩ := d.exists_gap_of_before_eq h hzs
  have hhead : ∀ c ∈ d.fromGap.head?, Text.isBlank c = true := by
    simp [fromGap, hgap, hg]
  obtain ⟨vs, rfl⟩ := prefix_of_isVisible hword hhead ⟨rest, hread⟩
  rw [List.append_assoc] at hread
  rw [List.append_cancel_left hread, List.length_append]
  omega

/-- A pattern that matches the stamp, and of which no match leads from before the blanks in front of
the stamp across them, has a match for the stamp. -/
theorem exists_scan_eq {p : Pattern Field} {s : Captures Field} {end_ : Option Char}
    (d : Dependencies directory target)
    (hends : ∀ ys zs, d.before = ys ++ zs → zs ≠ [] → ∀ last b s,
      p.matchAt? ⟨last, zs ++ d.fromGap⟩ = some (b, s) → d.fromGap.length ≤ b.rest.length)
    (hmatch : p.matchAt? ⟨lastAfter none d.before, d.fromGap⟩ = some (⟨end_, d.after⟩, s)) :
    ∃ m ∈ p.scan d.text, m.captures = s := by
  have hne : d.gap ++ d.stamp ≠ [] := by simp [stamp, outputPrefix]
  obtain ⟨ms, hms⟩ : ∃ ms, p.scanFrom 0 0 none (d.before ++ d.fromGap) =
      ms ++ p.scanFrom (0 + d.before.length) 0 (lastAfter none d.before) d.fromGap :=
    exists_scanFrom_append (Nat.zero_le _) hends
  rw [scan, text, hms, fromGap, scanFrom_match hne hmatch]
  exact ⟨⟨_, _, s⟩, List.mem_append_right _ List.mem_cons_self, rfl⟩

end Dependencies

/-- How a build statement is written that depends on the stamp of a target of a directory. -/
structure DependentBuild (directory target : List Char) extends BuildForm where
  dependencies : Dependencies directory target
  dependencies_eq : tail.dependencies = dependencies.text

end ComponentLinks.Statement
