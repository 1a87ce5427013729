import ComponentLinks.Proofs.Path

/-!
# Paths taken from a directory

A relative path goes up some steps and then down. Taken from an absolute directory it leads to the
directory so many steps further up, and down from there. So it stays below a directory exactly if it
does not go up beyond it, or comes down to it again; an absolute path leads where it leads.

## Main definitions

* `Path.rise`, `Path.descent`: the steps up and down.
* `Path.IsBelow`: whether a path is a directory or stands below it.
* `Path.normalized_join_of_relative`: where a relative path leads.
* `Path.LeadsInto`, `Path.isBelow_normalized_join_iff`: which paths lead into a directory.
* `Path.ofString_joinPaths`: written paths taken from each other.
-/
namespace ComponentLinks

namespace Path

/-- The number of steps up with which a path begins. -/
def rise (p : Path) : ℕ := (p.normalized.segments.takeWhile (· == "..")).length

def descent (p : Path) : List String := p.normalized.segments.dropWhile (· == "..")

/-- Whether a path is a directory or stands below it. -/
def IsBelow (directory p : Path) : Prop :=
  p.anchor = directory.anchor ∧ directory.segments <+: p.segments

instance (directory p : Path) : Decidable (IsBelow directory p) :=
  inferInstanceAs (Decidable (_ ∧ _))

/-! ## Steps up and down -/

/-- The segments of a path amount to some steps up and then some down, which are taken from any
directory alike. -/
theorem exists_foldl_normalStep (segments : List String) :
    ∃ k downs, ".." ∉ downs ∧
      segments.foldl (normalStep false) [] = downs ++ List.replicate k ".." ∧
      ∀ seen, ".." ∉ seen → segments.foldl (normalStep true) seen = downs ++ seen.drop k := by
  -- Normalization adds segments at the end, so the induction takes the last one off.
  induction segments using List.reverseRecOn with
  | nil => exact ⟨0, [], by simp, rfl, by simp⟩
  | append_singleton segments segment ih =>
    obtain ⟨k, downs, hdowns, hrelative, habsolute⟩ := ih
    simp only [List.foldl_append, List.foldl_cons, List.foldl_nil, hrelative]
    by_cases hup : segment = ".."
    · subst hup
      cases downs with
      | cons last downs =>
        have hlast : last ≠ ".." := fun heq => hdowns (by simp [heq])
        refine ⟨k, downs, fun hmem => hdowns (by simp [hmem]), by simp [normalStep, hlast], ?_⟩
        intro seen hseen
        simp [habsolute seen hseen, normalStep, hlast]
      | nil =>
        refine ⟨k + 1, [], by simp, ?_, fun seen hseen => ?_⟩
        · cases k <;> simp [normalStep, List.replicate_succ]
        · rw [habsolute seen hseen, ← List.tail_drop]
          cases hdrop : seen.drop k with
          | nil => simp [normalStep]
          | cons last before =>
            have hlast : last ≠ ".." :=
              fun heq => hseen (List.mem_of_mem_drop (i := k) (by simp [hdrop, heq]))
            simp [normalStep, hlast]
    · have hdowns' : ".." ∉ segment :: downs := by simp [Ne.symm hup, hdowns]
      refine ⟨k, segment :: downs, hdowns', by simp [normalStep_of_ne hup], fun seen hseen => ?_⟩
      rw [normalStep_of_ne hup, habsolute seen hseen]
      rfl

theorem up_not_mem_of_normalized_eq {p : Path} (habs : p.isAbsolute = true)
    (hp : p.normalized = p) : ".." ∉ p.segments := by
  obtain ⟨k, downs, hdowns, -, hfold⟩ := exists_foldl_normalStep p.segments
  have hsegments : (p.segments.foldl (normalStep p.isAbsolute) []).reverse = p.segments :=
    congrArg segments hp
  rw [habs, hfold [] (by simp)] at hsegments
  rw [← hsegments]
  simpa using hdowns

theorem rise_eq_and_descent_eq {p : Path} {k : ℕ} {downs : List String}
    (hdowns : ".." ∉ downs) (h : p.normalized.segments = List.replicate k ".." ++ downs) :
    p.rise = k ∧ p.descent = downs := by
  have hups : ∀ s ∈ List.replicate k "..", (s == "..") = true := by
    intro s hs
    simp [List.eq_of_mem_replicate hs]
  rw [rise, descent, h, List.takeWhile_append_of_pos hups, List.dropWhile_append_of_pos hups]
  cases downs with
  | nil => simp
  | cons first downs =>
    have hfirst : first ≠ ".." := fun heq => hdowns (by simp [heq])
    simp [hfirst]

/-- A relative path leads to the directory so many steps further up, and down from there. -/
theorem normalized_join_of_relative {base path : Path} (habs : base.isAbsolute = true)
    (hbase : base.normalized = base) (hpath : path.isAbsolute = false) :
    (base.join path).normalized.anchor = base.anchor ∧
      (base.join path).normalized.segments =
        base.segments.take (base.segments.length - path.rise) ++ path.descent := by
  obtain ⟨k, downs, hdowns, hrelative, habsolute⟩ := exists_foldl_normalStep path.segments
  have hup : ".." ∉ base.segments.reverse := by
    simpa using up_not_mem_of_normalized_eq habs hbase
  -- Normalizing goes through the base without a change.
  have hfold : base.segments.foldl (normalStep true) [] = base.segments.reverse := by
    rw [← habs]
    exact List.reverse_eq_iff.1 (congrArg segments hbase)
  have hnormal : path.normalized.segments = List.replicate k ".." ++ downs.reverse := by
    rw [segments_normalized, hpath, hrelative]
    simp
  obtain ⟨hrise, hdescent⟩ := rise_eq_and_descent_eq (by simpa using hdowns) hnormal
  rw [hrise, hdescent, join, if_neg (by simp [hpath])]
  refine ⟨rfl, ?_⟩
  rw [segments_normalized, segments_extend, isAbsolute_extend, habs, List.foldl_append, hfold,
    habsolute _ hup, List.drop_reverse]
  simp

/-- Whether a path leads into a directory if it is taken from a place that is `depth` steps below
the directory: it goes up no more steps than that, or comes down to the directory again. -/
def LeadsInto (directory : Path) (depth : ℕ) (p : Path) : Prop :=
  if p.isAbsolute then directory.IsBelow p.normalized
  else directory.segments.drop (directory.segments.length - (p.rise - depth)) <+: p.descent

theorem leadsInto_of_rise_le {directory p : Path} {depth : ℕ} (hp : p.isAbsolute = false)
    (h : p.rise ≤ depth) : LeadsInto directory depth p := by
  rw [LeadsInto, hp, Nat.sub_eq_zero_of_le h]
  simp

theorem prefix_take_append_iff {xs ys zs : List String} {k : ℕ} :
    xs <+: (xs ++ ys).take ((xs ++ ys).length - k) ++ zs ↔
      xs.drop (xs.length - (k - ys.length)) <+: zs := by
  rw [List.length_append]
  rcases Nat.le_or_le k ys.length with hle | hle
  · rw [Nat.add_sub_assoc hle, List.take_length_add_append, Nat.sub_eq_zero_of_le hle]
    simp [List.append_assoc]
  · have hlength : xs.length + ys.length - k = xs.length - (k - ys.length) := by omega
    rw [hlength, List.take_append_of_le_length (by omega)]
    generalize xs.length - (k - ys.length) = n
    have hsplit : xs <+: xs.take n ++ zs ↔ xs.take n ++ xs.drop n <+: xs.take n ++ zs := by
      rw [List.take_append_drop]
    rw [hsplit, List.prefix_append_right_inj]

theorem isAbsolute_join {p q : Path} (h : p.isAbsolute = true) : (p.join q).isAbsolute = true := by
  unfold join
  split
  · assumption
  · exact h

theorem isBelow_normalized_join_iff {base p : Path} {extra : List String}
    (habs : base.isAbsolute = true) (hbase : base.normalized = base)
    (hsegments : ∀ segment ∈ extra, IsSegment segment) (hextra : ".." ∉ extra) :
    base.IsBelow ((base.extend extra hsegments).join p).normalized ↔
      LeadsInto base extra.length p := by
  have hplace : (base.extend extra hsegments).normalized = base.extend extra hsegments :=
    normalized_extend hbase hsegments fun s hs heq => hextra (heq ▸ hs)
  have hroot : (base.extend extra hsegments).isAbsolute = true := habs
  cases hp : p.isAbsolute with
  | true => simp [LeadsInto, join_of_isAbsolute hp, hp]
  | false =>
    obtain ⟨hanchor, hdown⟩ := normalized_join_of_relative hroot hplace hp
    rw [LeadsInto, hp, IsBelow, hanchor, hdown, segments_extend, prefix_take_append_iff]
    simp

/-! ## Written paths -/

/-- The anchor of a written path shows in its first three characters. -/
theorem anchorOf_eq (cs : List Char) :
    anchorOf cs =
      if cs[0]? = some '/' then
        if cs[1]? = some '/' ∧ cs[2]? ≠ some '/' then .doubleRoot else .root
      else .relative := by
  unfold anchorOf
  split
  · simp
  · rename_i rest hrest
    cases rest <;> simp_all
  · rename_i rest _ hrest
    cases rest <;> simp_all
  · cases cs <;> simp_all

theorem anchorOf_append_slash {cs rest : List Char} (hne : cs ≠ [])
    (hlast : cs.getLast? ≠ some '/') : anchorOf (cs ++ '/' :: rest) = anchorOf cs := by
  rw [anchorOf_eq, anchorOf_eq]
  rcases cs with _ | ⟨c, _ | ⟨d, _ | ⟨e, cs⟩⟩⟩ <;> simp_all

theorem anchorOf_append_of_head {cs rest : List Char} (hne : cs ≠ [])
    (hrest : rest.head? ≠ some '/') : anchorOf (cs ++ rest) = anchorOf cs := by
  rw [anchorOf_eq, anchorOf_eq]
  rcases cs with _ | ⟨c, _ | ⟨d, _ | ⟨e, cs⟩⟩⟩ <;> rcases rest with _ | ⟨f, rest⟩ <;> simp_all

/-- The steps of a written path. -/
theorem segments_ofString_append_slash (front back : List Char) :
    (ofString (String.ofList (front ++ '/' :: back))).segments =
      (ofString (String.ofList front)).segments ++ (ofString (String.ofList back)).segments := by
  simp [ofString, List.splitOn_append_cons_self]

theorem isAbsolute_ofString_iff {s : String} :
    (ofString s).isAbsolute = true ↔ s.toList.head? = some '/' := by
  rw [isAbsolute, ofString, anchorOf_eq, List.head?_eq_getElem?]
  split
  · split <;> simp_all
  · simp_all

theorem ofString_append_slash {front back : List Char} (hne : front ≠ [])
    (hlast : front.getLast? ≠ some '/') :
    ofString (String.ofList (front ++ '/' :: back)) =
      (ofString (String.ofList front)).extend (ofString (String.ofList back)).segments
        (ofString (String.ofList back)).isSegment := by
  refine Path.ext ?_ (segments_ofString_append_slash front back)
  simp [ofString, anchorOf_append_slash hne hlast]

theorem ofString_slash_append {front back : List Char} (hback : back.head? ≠ some '/') :
    ofString (String.ofList ((front ++ ['/']) ++ back)) =
      (ofString (String.ofList (front ++ ['/']))).extend (ofString (String.ofList back)).segments
        (ofString (String.ofList back)).isSegment := by
  have hsegments : (ofString (String.ofList (front ++ ['/']))).segments =
      (ofString (String.ofList front)).segments := by
    rw [segments_ofString_append_slash]
    simp [ofString, isStep]
  have hanchor : anchorOf ((front ++ ['/']) ++ back) = anchorOf (front ++ ['/']) :=
    anchorOf_append_of_head (by simp) hback
  refine Path.ext ?_ ?_
  · simp only [ofString, anchor_extend, String.toList_ofList, hanchor]
  · rw [segments_extend, hsegments, ← segments_ofString_append_slash, List.append_assoc,
      List.singleton_append]

/-- Written paths taken from each other are read one after the other. -/
theorem ofString_joinPaths (directory path : String) :
    ofString (joinPaths directory path) = (ofString directory).join (ofString path) := by
  by_cases habs : path.toList.head? = some '/'
  · rw [joinPaths, if_pos habs, join_of_isAbsolute (isAbsolute_ofString_iff.2 habs)]
  have hpath : (ofString path).isAbsolute = false := by
    rw [Bool.eq_false_iff, ne_eq, isAbsolute_ofString_iff]
    exact habs
  rw [join, if_neg (by simp [hpath]), joinPaths, if_neg habs]
  obtain ⟨front, rfl⟩ : ∃ front, directory = String.ofList front := ⟨_, String.ofList_toList.symm⟩
  obtain ⟨back, rfl⟩ : ∃ back, path = String.ofList back := ⟨_, String.ofList_toList.symm⟩
  rw [String.toList_ofList] at habs
  by_cases hnil : front = []
  · have hanchor : (ofString (String.ofList back)).anchor = .relative := by
      simpa [isAbsolute] using hpath
    subst hnil
    rw [if_pos (by rfl)]
    refine Path.ext ?_ ?_
    · simpa [ofString, anchorOf] using hanchor
    · simp [ofString, isStep]
  · by_cases hlast : front.getLast? = some '/'
    · obtain ⟨xs, rfl⟩ := List.getLast?_eq_some_iff.1 hlast
      rw [← ofString_slash_append habs]
      simp [String.append_assoc]
    · rw [← ofString_append_slash hnil hlast]
      simp [hnil, hlast, String.append_assoc]

end Path

end ComponentLinks
