import ComponentLinks.Proofs.BuildGraph.Join
import Mathlib.Data.List.Perm.Basic
import Mathlib.Logic.Function.Iterate

/-!
# Target paths that are rewritten

With heuristics the path of a component target is rewritten until a record is found, and a path that
was rewritten for one package is looked up as it is for the next. So a package whose turn comes late
may be linked where the ones before it are not. From the first package that is linked on, all
packages with a name are linked to one record. And where the first look-up decides, in particular
where a rewritten path is not rewritten any further, what comes of a package does not depend on the
other packages at all.

## Main definitions

* `rewritten`: a target path after all rewriting of one look-up.
* `BuildGraph.workingPath`: the path that is looked up after several packages.
* `BuildGraph.DecidesAtOnce`: whether the first look-up of a component target decides.
* `BuildGraph.outcome`: what comes of a package where a record is found or none is.
* `BuildGraph.pairingsOf_of_target`: what comes of the packages of a component target.
* `BuildGraph.endingTwice`: a graph in which a package is linked only because of another one.
-/
namespace ComponentLinks

/-! ## One look-up -/

/-- A target path after all rewriting of one look-up. -/
def rewritten (target : String) : String :=
  String.ofList (dropComponentEnding (collapseTest target.toList))

/-- Reading the first `:test_` as a colon changes nothing where there is none. -/
theorem collapseTest_eq_or_exists (cs : List Char) :
    (¬ ":test_".toList <:+: cs ∧ collapseTest cs = cs) ∨
      ∃ before after, cs = before ++ ":test_".toList ++ after ∧
        ¬ ":test_".toList <:+: before ∧ collapseTest cs = before ++ ':' :: after := by
  induction cs with
  | nil => exact .inl ⟨by decide, rfl⟩
  | cons c cs ih =>
    rw [collapseTest]
    split
    · rename_i hstart
      obtain ⟨after, hafter⟩ := List.isPrefixOf_iff_prefix.1 hstart
      have hdrop : cs.drop 5 = after := by
        have := congrArg (List.drop 6) hafter
        simpa using this.symm
      exact .inr ⟨[], after, hafter.symm, by decide, by rw [hdrop]; rfl⟩
    · rename_i hstart
      rw [List.isPrefixOf_iff_prefix] at hstart
      rcases ih with ⟨habsent, heq⟩ | ⟨before, after, hcs, hfirst, heq⟩
      · refine .inl ⟨?_, by rw [heq]⟩
        rw [List.infix_cons_iff, not_or]
        exact ⟨hstart, habsent⟩
      · refine .inr ⟨c :: before, after, by simp [hcs], ?_, by simp [heq]⟩
        rw [List.infix_cons_iff, not_or]
        refine ⟨fun hpre => hstart ?_, hfirst⟩
        rw [hcs, List.append_assoc, ← List.cons_append]
        exact hpre.trans (List.prefix_append _ _)

theorem collapseTest_eq_or_lt (cs : List Char) :
    collapseTest cs = cs ∨ (collapseTest cs).length < cs.length := by
  rcases collapseTest_eq_or_exists cs with ⟨-, heq⟩ | ⟨before, after, hcs, -, heq⟩
  · exact .inl heq
  · refine .inr ?_
    rw [heq, hcs]
    simp

theorem length_withoutEnding {ending cs : List Char} (h : ending <:+ cs) :
    (withoutEnding ending cs).length + ending.length = cs.length := by
  have hle := h.length_le
  rw [withoutEnding, if_pos (List.isSuffixOf_iff_suffix.2 h), List.length_take]
  omega

theorem length_withoutFinal?_lt {ending cs ds : List Char} (hne : ending ≠ [])
    (h : withoutFinal? ending cs = some ds) : ds.length < cs.length := by
  have hpos := List.length_pos_iff.2 hne
  unfold withoutFinal? at h
  split at h
  · rename_i hending
    have hlength := length_withoutEnding (List.isSuffixOf_iff_suffix.1 hending)
    obtain rfl := Option.some.inj h
    omega
  · split at h
    · rename_i hending
      have hlength := length_withoutEnding (List.isSuffixOf_iff_suffix.1 hending)
      obtain rfl := Option.some.inj h
      simp only [List.length_append, List.length_singleton] at hlength ⊢
      omega
    · simp at h

theorem dropComponentEnding_eq_or_lt (cs : List Char) :
    dropComponentEnding cs = cs ∨ (dropComponentEnding cs).length < cs.length := by
  unfold dropComponentEnding
  cases h : withoutFinal? componentEnding cs with
  | none => exact .inl rfl
  | some ds =>
    have hlt : ds.length < cs.length := length_withoutFinal?_lt (by decide) h
    exact .inr hlt

/-- A path that is the same after all rewriting is not rewritten on the way either. -/
theorem collapseTest_eq_of_rewritten_eq {target : String} (h : rewritten target = target) :
    collapseTest target.toList = target.toList := by
  -- Each of the two steps keeps the path or makes it shorter, and the whole keeps its length.
  have hlist : dropComponentEnding (collapseTest target.toList) = target.toList := by
    rw [← String.toList_inj, rewritten, String.toList_ofList] at h
    exact h
  rcases collapseTest_eq_or_lt target.toList with heq | hlt
  · exact heq
  · rcases dropComponentEnding_eq_or_lt (collapseTest target.toList) with heq | hlt'
    · rw [← heq, hlist]
    · rw [hlist] at hlt'
      omega

namespace BuildGraph

variable {g : BuildGraph} {base : Path} {target : String}

/-- A look-up that finds nothing rewrites the path to its end. -/
theorem lookUp_of_none (h : (g.lookUp true target).2 = none) :
    g.lookUp true target = (rewritten target, none) ∧
      g.manifestOf.find? (rewritten target) = none := by
  unfold lookUp at h ⊢
  cases htarget : g.manifestOf.find? target with
  | some r => simp [htarget] at h
  | none =>
    cases hcollapsed : g.manifestOf.find? (String.ofList (collapseTest target.toList)) with
    | some r => simp [htarget, hcollapsed] at h
    | none => simpa [htarget, hcollapsed, rewritten] using h

theorem lookUp_of_rewritten_eq (hfixed : rewritten target = target)
    (h : g.manifestOf.find? target = none) : g.lookUp true target = (target, none) := by
  have hcollapsed : String.ofList (collapseTest target.toList) = target := by
    rw [collapseTest_eq_of_rewritten_eq hfixed, String.ofList_toList]
  have hdropped : String.ofList (dropComponentEnding target.toList) = target := by
    rw [← collapseTest_eq_of_rewritten_eq hfixed]
    exact hfixed
  simp [lookUp, h, hcollapsed, hdropped]

/-! ## One look-up after another -/

/-- The path that is looked up for a component target after `n` packages with a name. -/
def workingPath (g : BuildGraph) (target : String) (n : ℕ) : String :=
  (fun path => (g.lookUp true path).1)^[n] target

/-- Whether the first look-up of a component target decides: if it finds no record, then no look-up
of a path that is rewritten further does. -/
def DecidesAtOnce (g : BuildGraph) (target : String) : Prop :=
  (g.lookUp true target).2 = none → ∀ n, (g.lookUp true (g.workingPath target n)).2 = none

/-- The first look-up decides if a rewritten path is not rewritten any further. -/
theorem decidesAtOnce_of_rewritten_eq (h : rewritten (rewritten target) = rewritten target) :
    g.DecidesAtOnce target := by
  intro hnone n
  obtain ⟨hfirst, hfound⟩ := lookUp_of_none hnone
  have hlater := lookUp_of_rewritten_eq h hfound
  -- After the first look-up the path stays as it is, and it has no record.
  cases n with
  | zero => exact hnone
  | succ n =>
    have hpath : g.workingPath target (n + 1) = rewritten target := by
      rw [workingPath, Function.iterate_succ_apply, hfirst]
      exact Function.iterate_fixed (by rw [hlater]) n
    rw [hpath, hlater]

example : rewritten "d:test_a_component" = "d:a" ∧ rewritten "d:a" = "d:a" := by decide +kernel

/-- The record that the first look-up of a component target finds, with its path. -/
def found? (g : BuildGraph) (target : String) : Option (String × ManifestRecord) :=
  (g.lookUp true target).2.map fun r => ((g.lookUp true target).1, r)

/-- What comes of a package where this record, or none, is found for the component target. -/
def outcome (g : BuildGraph) (base : Path) (result : Option (String × ManifestRecord))
    (package : String) : Pairing :=
  match g.packageName? package, result with
  | none, _ => .unnamed
  | some _, none => .missing
  | some name, some (found, r) => .linked (g.linksOf true base name found r)

theorem pairingsOf_of_found {found : String} {r : ManifestRecord}
    (h : g.lookUp true target = (found, some r)) (packages : List String) :
    g.pairingsOf true base target packages = packages.map (g.outcome base (some (found, r))) := by
  -- The path is general: it is the one with the record from the first named package on.
  induction packages generalizing target with
  | nil => rfl
  | cons package packages ih =>
    rw [pairingsOf, List.map_cons]
    simp only [pairing, outcome]
    cases g.packageName? package with
    | none => rw [ih h]
    | some name =>
      simp only [h]
      rw [ih (lookUp_of_find? (find?_of_lookUp_eq_some h))]

theorem pairingsOf_of_not_found
    (h : ∀ n, (g.lookUp true (g.workingPath target n)).2 = none) (packages : List String) :
    g.pairingsOf true base target packages = packages.map (g.outcome base none) := by
  -- The hypothesis speaks of all paths still to come, so it is kept when one of them is used.
  induction packages generalizing target with
  | nil => rfl
  | cons package packages ih =>
    rw [pairingsOf, List.map_cons]
    simp only [pairing, outcome]
    cases g.packageName? package with
    | none => rw [ih h]
    | some name =>
      have hfirst : g.lookUp true target = (rewritten target, none) := (lookUp_of_none (h 0)).1
      have hnext (n : ℕ) : (g.lookUp true (g.workingPath (rewritten target) n)).2 = none := by
        have hstep := h (n + 1)
        rwa [workingPath, Function.iterate_succ_apply, hfirst] at hstep
      simp only [hfirst]
      rw [ih hnext]

/-- Where the first look-up decides, what comes of a package does not depend on the others. -/
theorem pairingsOf_of_decidesAtOnce (h : g.DecidesAtOnce target) (packages : List String) :
    g.pairingsOf true base target packages = packages.map (g.outcome base (g.found? target)) := by
  cases hlookUp : g.lookUp true target with
  | mk found record =>
    cases record with
    | none =>
      rw [pairingsOf_of_not_found (h (by rw [hlookUp])), found?, hlookUp]
      rfl
    | some r =>
      rw [pairingsOf_of_found hlookUp, found?, hlookUp]
      rfl

theorem exists_lookUp_of_pairing_eq_linked {package : String} {links : List ManifestLink}
    (h : (g.pairing true base target package).2 = .linked links) :
    ∃ found r, g.lookUp true target = (found, some r) := by
  simp only [pairing] at h
  cases hname : g.packageName? package with
  | none => simp [hname] at h
  | some name =>
    cases hlookUp : g.lookUp true target with
    | mk found record =>
      cases record with
      | none => simp [hname, hlookUp] at h
      | some r => exact ⟨found, r, rfl⟩

/-- From a package that is linked on, all packages with a name are linked to one record. -/
theorem exists_drop_pairingsOf_eq {packages : List String} {i : ℕ} {links : List ManifestLink}
    (h : (g.pairingsOf true base target packages)[i]? = some (.linked links)) :
    ∃ found r, g.manifestOf.find? found = some r ∧
      (g.pairingsOf true base target packages).drop i =
        (packages.drop i).map (g.outcome base (some (found, r))) := by
  induction packages generalizing target i with
  | nil => simp [pairingsOf] at h
  | cons package packages ih =>
    cases i with
    | zero =>
      obtain ⟨found, r, hlookUp⟩ := exists_lookUp_of_pairing_eq_linked (Option.some.inj h)
      exact ⟨found, r, find?_of_lookUp_eq_some hlookUp, pairingsOf_of_found hlookUp _⟩
    | succ i => exact ih h

/-- What comes of the packages of a component target with heuristics. From the first package that is
linked on, all packages with a name are linked to one record, with the same parts. Where the first
look-up decides, what comes of a package does not depend on the other packages, nor on their order:
those with a name are all linked to the record found, or none of them is. It decides where a
rewritten path is not rewritten any further. -/
theorem pairingsOf_of_target (g : BuildGraph) (base : Path) (target : String)
    (packages : List String) :
    let outcomes := g.pairingsOf true base target packages
    (∀ i links, outcomes[i]? = some (.linked links) →
      ∃ found r, g.manifestOf.find? found = some r ∧
        outcomes.drop i = (packages.drop i).map (g.outcome base (some (found, r)))) ∧
    (g.DecidesAtOnce target →
      outcomes = packages.map (g.outcome base (g.found? target)) ∧
        ∀ others, packages.Perm others → (packages.zip outcomes).Perm
          (others.zip (g.pairingsOf true base target others))) ∧
    (rewritten (rewritten target) = rewritten target → g.DecidesAtOnce target) := by
  intro outcomes
  refine ⟨fun i links => exists_drop_pairingsOf_eq, fun h => ?_, decidesAtOnce_of_rewritten_eq⟩
  refine ⟨pairingsOf_of_decidesAtOnce h packages, fun others hperm => ?_⟩
  have hzip (xs : List String) : xs.zip (g.pairingsOf true base target xs) =
      xs.map fun package => (package, g.outcome base (g.found? target) package) := by
    rw [pairingsOf_of_decidesAtOnce h, ← List.map_prod_left_eq_zip]
  rw [hzip, hzip]
  exact hperm.map _

/-- A graph of a component target whose path has to be rewritten twice, in two packages. -/
def endingTwice : BuildGraph :=
  { empty with
    packagesOf := .ofList [("d:a_component_component", ["d:p", "d:q"])]
    manifestOf := .ofList [("d:a", ⟨"d:a", "a", "m/a.cml"⟩)]
    nameOf := .ofList [("d:p", "p"), ("d:q", "q")] }

/-- Of the two packages only the second one is linked, whichever of them that is. -/
theorem pairingsOf_endingTwice :
    endingTwice.packagesOf.find? "d:a_component_component" = some ["d:p", "d:q"] ∧
      endingTwice.packageName? "d:p" = some "p" ∧ endingTwice.packageName? "d:q" = some "q" ∧
      endingTwice.pairingsOf true (.ofString "/fuchsia") "d:a_component_component" ["d:p", "d:q"] =
        [.missing, .linked [⟨"q", "a", .ofString "/fuchsia/m/a.cml", false⟩]] ∧
      endingTwice.pairingsOf true (.ofString "/fuchsia") "d:a_component_component" ["d:q", "d:p"] =
        [.missing, .linked [⟨"p", "a", .ofString "/fuchsia/m/a.cml", false⟩]] := by
  refine ⟨?_, ?_, ?_, ?_, ?_⟩ <;> decide +kernel

end BuildGraph

end ComponentLinks
