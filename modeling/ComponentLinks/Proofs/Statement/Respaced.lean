import ComponentLinks.Proofs.Pattern.SingleBlanks
import ComponentLinks.Proofs.Statement.Compilation
import ComponentLinks.Proofs.Statement.ManifestFlags
import ComponentLinks.Proofs.Statement.Naming
import ComponentLinks.Proofs.Statement.Parts

/-!
# Statements that differ in their blanks

The five patterns read two statements alike that differ in their blanks only, with one exception:
the blank after the tool of a validation is taken, and the task that follows has to have another
one in front. Where the task follows the tool at once, the statement is recognized only if more
than one blank stands between them.

## Main definitions

* `Statement.EndsInTool`, `Statement.IsTaskGap`: the blanks after the tool of a validation.
* `Statement.matchText?_build_alike`, `Statement.matchText?_command_alike`: the statements without
  an exception.
* `Statement.matchText?_validation_alike`: the validations.
-/
namespace ComponentLinks.Statement

open Pattern Text Place

/-! ## What is kept -/

def isUnrecorded : Field → Bool
  | .otherOutputs => true
  | _ => false

section Kept

variable {s t : Captures Field} {f : Field}

theorem get?_alike (hs : Captures.Alike isUnrecorded s t) (hf : isUnrecorded f = false) :
    Option.Rel (fun x y => squeeze x = squeeze y) (s.get? f) (t.get? f) := by
  induction hs with
  | nil => exact .none
  | @cons c d s t hcd hs ih =>
    rw [Captures.get?_cons, Captures.get?_cons, ← hcd.field]
    split
    · rename_i hfield
      exact .some (hcd.text (hfield ▸ hf))
    · exact ih

theorem get_alike (hs : Captures.Alike isUnrecorded s t) (hf : isUnrecorded f = false) :
    squeeze (s.get f) = squeeze (t.get f) := by
  have h := get?_alike hs hf
  rw [Captures.get, Captures.get]
  generalize s.get? f = x at h ⊢
  generalize t.get? f = y at h ⊢
  cases h with
  | none => rfl
  | some h => exact h

/-- Texts that are squeezed to the same are equal where one of them has no blank. -/
theorem eq_of_squeeze_eq_or {xs ys : List Char} (h : squeeze xs = squeeze ys)
    (hvisible : IsVisible xs ∨ IsVisible ys) : xs = ys := by
  rcases hvisible with hxs | hys
  · exact eq_of_squeeze_eq h hxs
  · exact (eq_of_squeeze_eq h.symm hys).symm

end Kept

/-! ## The patterns -/

section Patterns

variable {bound : List Char → List Char → Prop} {xs ys w : List Char}

def archivePatterns : List (Pattern Field) :=
  [many .blank, lit "build", many .blank, lit "obj/",
   capture .targetBuildDir (severalLazy (.noneOf ['.'])), lit "/",
   capture .packageTarget (several .name), lit "/meta.far"]

def builtPatterns : List (Pattern Field) :=
  [many .blank, lit "build", many .blank, lit "obj/",
   capture .manifestPath <| inOrder
     [capture .targetBuildDir (severalLazy (.noneOf ['.'])), lit "/",
      capture .componentTarget (several .name), lit ".cm", one (.oneOf ['x', 'l'])]]

def middlePatterns : List (Pattern Field) :=
  [many .blank, capture .otherOutputs (many (.noneOf [':'])), many .blank, lit ":",
   many .blank, capture .rule (several .visible),
   many .blank, capture .inputs (several (.noneOf ['|'])), lit "|"]

theorem assemblyPattern_eq : assemblyPattern = inOrder
    (start :: (archivePatterns ++ (middlePatterns ++ [capture .dependencies (many .any)]))) := rfl

theorem manifestPattern_eq : manifestPattern = inOrder
    (start :: (builtPatterns ++ (middlePatterns ++ [capture .dependencies (many .any)]))) := rfl

def compilePatterns : List (Pattern Field) :=
  [many .blank, lit "command", many .blank, lit "=", manyLazy .any, lit "/cmc", several .blank,
   lit "compile", several .blank, lit "../../",
   capture .manifestPath (inOrder [several (.noneOf ['.']), lit ".cml"]),
   several .blank, lit "--output", several .blank, lit "obj/", several .visible, lit "/",
   capture .componentName (several (.noneOf ['/', '.'])), lit ".cm"]

theorem compilationPattern_split : compilationPattern = inOrder
    (start ::
      (compilePatterns ++ one .blank :: many .any :: CompilationForm.depfilePatterns)) := rfl

def pathPatterns : List (Pattern Field) :=
  [many .blank, lit "command", many .blank, lit "=", manyLazy .any, lit "/pm", several .blank,
   lit "-o", several .blank, lit "obj/", capture .targetBuildDir (several .visible), lit "/",
   capture .packageTarget (several .visible)]

def namePatterns : List (Pattern Field) :=
  [lit "-n", several .blank, capture .packageName (several .name), blankOrEnd]

theorem namingPattern_split : namingPattern = inOrder
    (start :: (pathPatterns ++ one .blank :: manyLazy .any :: namePatterns)) := rfl

theorem matchText?_start (ps : List (Pattern Field)) (cs : List Char) :
    (inOrder (start :: ps)).matchText? cs = (inOrder ps).matchText? cs := by
  rw [matchText?_eq, matchText?_eq, read_inOrder_cons]
  rfl

theorem abreast_ofText (h : Respaced bound w xs ys) :
    Abreast bound false (.ofText xs) (.ofText ys) :=
  ⟨⟨w, h⟩, by simp⟩

/-- A build statement is read alike up to its dependencies, and these are kept as they are. -/
theorem matchText?_build_alike (ps : List (Pattern Field))
    (hps : (inOrder ps).ignoresSpacing isUnrecorded false false = true)
    (h : Respaced bound w xs ys) :
    let p := inOrder (start :: (ps ++ (middlePatterns ++ [capture .dependencies (many .any)])))
    Option.Rel (Captures.Alike isUnrecorded) (p.matchText? xs) (p.matchText? ys) := by
  intro p
  rw [matchText?_start, matchText?_start, matchText?_eq, matchText?_eq, read_inOrder_append,
    read_inOrder_append]
  refine read_alike hps (abreast_ofText h) .nil (by simp) fun a b s t _ _ hab hs => ?_
  rw [read_inOrder_append, read_inOrder_append]
  have hmiddle : (inOrder middlePatterns).ignoresSpacing isUnrecorded false false = true := by
    decide
  refine read_alike hmiddle (hab.weaken (by simp)) hs (by simp) fun a b s t _ _ hab hs => ?_
  obtain ⟨last, xs⟩ := a
  obtain ⟨last', ys⟩ := b
  rw [read_to_end, read_to_end]
  obtain ⟨w, hrespaced⟩ := hab.rest
  refine .some (.cons ⟨rfl, fun _ => ?_⟩ hs)
  simpa [Capture.text] using hrespaced.squeeze_eq

/-- A command is read alike around a single blank that any text may follow. -/
theorem matchText?_command_alike (ps qs : List (Pattern Field)) {p : Preference}
    (hps : (inOrder ps).ignoresSpacing isUnrecorded false false = true)
    (hqs : (inOrder qs).ignoresSpacing isUnrecorded false false = true)
    (hrefuses : (inOrder qs).refusesBlank false = true) (h : Respaced bound w xs ys) :
    let q := inOrder (start :: (ps ++ one .blank :: run .any false p :: qs))
    Option.Rel (Captures.Alike isUnrecorded) (q.matchText? xs) (q.matchText? ys) := by
  intro q
  rw [matchText?_start, matchText?_start, matchText?_eq, matchText?_eq, read_inOrder_append,
    read_inOrder_append]
  refine read_alike hps (abreast_ofText h) .nil (by simp) fun a b s t _ _ hab hs => ?_
  obtain ⟨v, hrespaced⟩ := hab.rest
  rw [read_inOrder_cons, read_inOrder_cons]
  have hover : PassesOver (fun _ => True)
      ((inOrder (run .any false p :: qs)).read fun _ s => some s) := by
    have hany := passesOver_any (fun _ => True) p (refuses_read (p := inOrder qs)
      (k := fun _ s => some s) hrefuses (by simp))
    simpa only [PassesOver, read_inOrder_cons] using hany
  refine read_blank_alike hrespaced (fun _ _ _ => .inl ⟨trivial, trivial⟩) hover hover
    fun a b _ _ hab => ?_
  rw [read_inOrder_cons, read_inOrder_cons]
  have hany : ignoresSpacing isUnrecorded false false (run .any false p) = true := rfl
  refine read_alike hany hab hs (by simp) fun a b s t _ _ hab hs => ?_
  exact read_alike hqs (hab.weaken (by simp)) hs (by simp) fun _ _ _ _ _ _ _ hs => .some hs

end Patterns

/-! ## The validation of a manifest -/

/-- Whether a word ends in the tool that validates manifests. -/
def EndsInTool (word : List Char) : Prop :=
  ∃ before host, host ≠ [] ∧ (∀ c ∈ host, isWord c = true) ∧
    word = before ++ ValidationWords.tool host

/-- Whether the blanks after a word stand between the tool and its task. -/
def IsTaskGap (word rest : List Char) : Prop :=
  EndsInTool word ∧ "validate-references".toList <+: rest

theorem EndsInTool.ne_nil {word : List Char} (h : EndsInTool word) : word ≠ [] := by
  obtain ⟨before, host, -, -, rfl⟩ := h
  simp [ValidationWords.tool]

section Tool

variable {bound : List Char → List Char → Prop} {α : Type} {E : α → α → Prop}
  {k₁ k₂ : Place → Captures Field → Option α} {a b : Place} {s t : Captures Field}
  {xs ys w : List Char}

theorem read_lit_alike {v : String} (hv : IsVisible v.toList) (h : Respaced bound w a.rest b.rest)
    (hk : ∀ a' b', Respaced bound (w ++ v.toList) a'.rest b'.rest →
      Option.Rel E (k₁ a' s) (k₂ b' t)) :
    Option.Rel E ((lit v).read k₁ a s) ((lit v).read k₂ b t) := by
  obtain ⟨last, xs⟩ := a
  obtain ⟨last', ys⟩ := b
  rcases h.text hv with ⟨xs', ys', hxs, hys, hrest⟩ | ⟨hxs, hys⟩
  · simp only at hxs hys
    subst hxs hys
    rw [read_lit_append, read_lit_append]
    exact hk _ _ hrest
  · rw [read_lit_of_not_isPrefix hxs, read_lit_of_not_isPrefix hys]
    exact .none

/-- After the tool has been read, both texts stand in a word that ends in it. -/
theorem read_tool_alike (h : Respaced bound w a.rest b.rest)
    (hk : ∀ a' b' w', EndsInTool w' → Respaced bound w' a'.rest b'.rest →
      Option.Rel E (k₁ a' s) (k₂ b' t)) :
    Option.Rel E ((inOrder [lit "host_", several .word, lit "/cmc"]).read k₁ a s)
      ((inOrder [lit "host_", several .word, lit "/cmc"]).read k₂ b t) := by
  refine read_lit_alike (by decide) h fun a b h => ?_
  refine read_several_solid_alike rfl h fun host a b hne hhost h => ?_
  refine read_lit_alike (by decide) h fun a b h => hk a b _ ⟨w, host, hne, hhost, ?_⟩ h
  simp [ValidationWords.tool]

def referencesPatterns : List (Pattern Field) :=
  lit "validate-references" :: manyLazy .any :: ManifestFlags.manifestPatterns

def commandPatterns : List (Pattern Field) :=
  [many .blank, lit "command", many .blank, lit "=", manyLazy .any]

theorem validationPattern_split : validationPattern = inOrder (start :: (commandPatterns ++
    ([lit "host_", several .word, lit "/cmc"] ++ one .blank :: opt ValidationWords.stampPattern ::
      manyLazy .any :: one .blank :: referencesPatterns))) := rfl

theorem read_task_eq (k : Place → Captures Field → Option α) (a : Place) (s : Captures Field) :
    (inOrder (manyLazy .any :: one .blank :: referencesPatterns)).read k a s =
      (manyLazy .any).read ((one .blank).read ((inOrder referencesPatterns).read k)) a s := by
  rw [read_inOrder_cons]
  simp only [read_inOrder_cons]

theorem refuses_references : Refuses ((inOrder referencesPatterns).read fun _ s => some s) := by
  have hrefuses : (inOrder referencesPatterns).refusesBlank false = true := by
    decide
  exact refuses_read hrefuses (by simp)

/-- The blanks that are left after the tool are passed over, unless the task follows them. -/
theorem passesOver_task : PassesOver (fun rest => ¬ "validate-references".toList <+: rest)
    ((opt ValidationWords.stampPattern).read fun b s =>
      (inOrder (manyLazy .any :: one .blank :: referencesPatterns)).read (fun _ s => some s)
        b s) := by
  simp only [read_task_eq]
  refine passesOver_opt ?_ (passesOver_anyLazy_blank refuses_references fun last rest s hrest => ?_)
  · have hrefuses : (inOrder (lit "--stamp" :: several .blank ::
        ValidationWords.stampWordPatterns)).refusesBlank false = true := by
      decide
    exact passesOver_any _ .shortest (refuses_read hrefuses (by simp))
  · rw [referencesPatterns, read_inOrder_cons]
    exact read_lit_of_not_isPrefix hrest

/-- A validation is read alike, but for the blanks between the tool and its task. -/
theorem matchText?_validation_alike (h : Respaced IsTaskGap w xs ys) :
    Option.Rel (Captures.Alike isUnrecorded) (validationPattern.matchText? xs)
      (validationPattern.matchText? ys) := by
  have hcommand : (inOrder commandPatterns).ignoresSpacing isUnrecorded false false = true := by
    decide
  rw [validationPattern_split, matchText?_start, matchText?_start, matchText?_eq, matchText?_eq,
    read_inOrder_append, read_inOrder_append]
  refine read_alike hcommand (abreast_ofText h) .nil (by simp) fun a b s t _ _ hab hs => ?_
  obtain ⟨v, hrespaced⟩ := hab.rest
  rw [read_inOrder_append, read_inOrder_append]
  refine read_tool_alike hrespaced fun a b v htool hrespaced => ?_
  rw [read_inOrder_cons, read_inOrder_cons]
  refine read_blank_alike hrespaced ?_ passesOver_task passesOver_task fun a b _ _ hab => ?_
  · intro xs ys h
    rcases h.text (v := "validate-references".toList) (by decide) with ⟨xs', ys', hxs, -, -⟩ | hnot
    · exact .inr ⟨htool.ne_nil, htool, ⟨xs', hxs.symm⟩⟩
    · exact .inl hnot
  · rw [read_inOrder_cons, read_inOrder_cons]
    have hstamp : (opt ValidationWords.stampPattern).ignoresSpacing isUnrecorded false false =
        true := by
      decide
    refine read_alike hstamp hab hs (by simp) fun a b s t _ _ hab hs => ?_
    rw [read_task_eq, read_task_eq]
    refine read_anyLazy_blank_alike hab refuses_references refuses_references fun a b _ _ hab => ?_
    have hreferences : (inOrder referencesPatterns).ignoresSpacing isUnrecorded false false =
        true := by
      decide
    exact read_alike hreferences hab hs (by simp) fun _ _ _ _ _ _ _ hs => .some hs

end Tool

end ComponentLinks.Statement
