import ComponentLinks.Proofs.Statement.Command
import ComponentLinks.Proofs.Statement.Cut

/-!
# The shapes that compete for a statement

A statement may have more than one shape, and then the order decides in which one it is read. Only
commands can be read in more than one way: a build statement and a command begin with different
words, and the first dot after the directory of outputs tells an archive from a manifest.

## Main definitions

* `Shape.isCommand`: the shapes of commands.
* `Statement.exists_text_of_isCommand`: what is read as a command is written as one.
* `Recognized.only_commands_compete`: what the order of the shapes decides.
-/
namespace ComponentLinks

/-- Whether a shape is that of a command; the other shapes are those of build statements. -/
def Shape.isCommand : Shape → Bool
  | packageAssembly | subComponents => false
  | validation | compilation | packageNaming => true

theorem Shape.mem_all (shape : Shape) : shape ∈ all := by
  cases shape <;> decide

namespace Statement

open Pattern

/-! ## Commands and build statements -/

/-- Whatever is read after the name of a command is read of a command. -/
theorem exists_text_of_matchText? {ps : List (Pattern Field)} {cs : List Char}
    {s : Captures Field}
    (h : (inOrder (start :: many .blank :: lit "command" :: many .blank :: lit "=" ::
      ps)).matchText? cs = some s) :
    ∃ (f : CommandForm) (words : List Char), cs = f.text words := by
  rw [matchText?_eq, read_inOrder_cons] at h
  obtain ⟨indent, rest, hcs, hindent, -, h⟩ := exists_of_read_cons_run h
  obtain ⟨rest, rfl, h⟩ := exists_of_read_cons_lit h
  obtain ⟨gap, rest, rfl, hgap, -, h⟩ := exists_of_read_cons_run h
  obtain ⟨words, rfl, -⟩ := exists_of_read_cons_lit h
  exact ⟨⟨indent, gap, hindent, hgap⟩, words, hcs⟩

/-- What is read in the shape of a command is written as a command. -/
theorem exists_text_of_isCommand {cs : List Char} {shape : Shape}
    (hshape : shape.isCommand = true) (h : (Recognized.inShape? cs shape).isSome) :
    ∃ (f : CommandForm) (words : List Char), cs = f.text words := by
  cases shape with
  | packageAssembly | subComponents => cases hshape
  | validation =>
    rw [Recognized.inShape?, Option.isSome_map, Validation.ofStatement?] at h
    split at h
    case h_1 => cases h
    case h_2 s hs => exact exists_text_of_matchText? hs
  | compilation =>
    rw [Recognized.inShape?, Option.isSome_map, Compilation.ofStatement?, Option.isSome_map] at h
    obtain ⟨s, hs⟩ := Option.isSome_iff_exists.1 h
    exact exists_text_of_matchText? hs
  | packageNaming =>
    rw [Recognized.inShape?, Option.isSome_map, PackageNaming.ofStatement?, Option.isSome_map] at h
    obtain ⟨s, hs⟩ := Option.isSome_iff_exists.1 h
    exact exists_text_of_matchText? hs

end Statement

namespace Recognized

open Statement

variable {statement : List Char} {shape other : Shape} {order : List Shape}

theorem inShape?_eq_none_of_build (hshape : shape.isCommand = false)
    (h : (inShape? statement shape).isSome) (hne : other ≠ shape) :
    inShape? statement other = none := by
  by_contra hsome
  have hother : (inShape? statement other).isSome := Option.isSome_iff_ne_none.2 hsome
  cases hcommand : other.isCommand with
  | true =>
    obtain ⟨f, words, rfl⟩ := exists_text_of_isCommand hcommand hother
    cases shape with
    | packageAssembly => simp [inShape?, f.assembly_eq_none] at h
    | subComponents => simp [inShape?, f.subComponents_eq_none] at h
    | validation | compilation | packageNaming => cases hshape
  | false =>
    -- One of the two shapes is that of an archive, and the other that of a manifest.
    cases shape <;> cases other <;> simp only [Shape.isCommand, reduceCtorEq] at hshape hcommand
    · exact hne rfl
    · simp [inShape?, subComponents_eq_none_of_assembly (by simpa [inShape?] using h)] at hsome
    · simp [inShape?, subComponents_eq_none_of_assembly (by simpa [inShape?] using hother)] at h
    · exact hne rfl

theorem isCommand_of_ne (hne : shape ≠ other) (h : (inShape? statement shape).isSome)
    (hother : (inShape? statement other).isSome) : shape.isCommand = true := by
  cases hcommand : shape.isCommand with
  | true => rfl
  | false => simp [inShape?_eq_none_of_build hcommand h hne.symm] at hother

theorem findSome?_inShape?_of_build (hshape : shape.isCommand = false)
    (h : (inShape? statement shape).isSome) (hmem : shape ∈ order) :
    order.findSome? (inShape? statement) = inShape? statement shape := by
  induction order with
  | nil => cases hmem
  | cons first order ih =>
    rw [List.findSome?_cons]
    by_cases hfirst : first = shape
    · obtain ⟨r, hr⟩ := Option.isSome_iff_exists.1 h
      rw [hfirst, hr]
    · rw [inShape?_eq_none_of_build hshape h hfirst]
      exact ih (List.mem_of_ne_of_mem (Ne.symm hfirst) hmem)

/-- Where a statement has no shape of build statements, only the order of the commands counts. -/
theorem findSome?_inShape?_filter
    (h : ∀ shape, shape.isCommand = false → inShape? statement shape = none)
    (order : List Shape) :
    (order.filter Shape.isCommand).findSome? (inShape? statement) =
      order.findSome? (inShape? statement) := by
  induction order with
  | nil => rfl
  | cons first order ih =>
    cases hfirst : first.isCommand with
    | true => rw [List.filter_cons_of_pos hfirst, List.findSome?_cons, List.findSome?_cons, ih]
    | false =>
      rw [List.filter_cons_of_neg (by simp [hfirst]), List.findSome?_cons, h first hfirst, ih]

/-- A statement that has the shape of a build statement has no other shape, so it is read alike
whatever the order of the shapes. Only the shapes of commands compete, and nothing but their order
counts. -/
theorem only_commands_compete (statement : List Char) :
    (∀ shape, shape.isCommand = false → (inShape? statement shape).isSome →
      (∀ other, other ≠ shape → inShape? statement other = none) ∧
      ∀ order : List Shape, order.Perm Shape.all →
        order.findSome? (inShape? statement) = ofStatement? statement) ∧
    (∀ shape other, shape ≠ other → (inShape? statement shape).isSome →
      (inShape? statement other).isSome → shape.isCommand = true ∧ other.isCommand = true) ∧
    ∀ order : List Shape, order.Perm Shape.all →
      order.filter Shape.isCommand = Shape.all.filter Shape.isCommand →
      order.findSome? (inShape? statement) = ofStatement? statement := by
  have hbuild : ∀ shape, shape.isCommand = false → (inShape? statement shape).isSome →
      ∀ order : List Shape, order.Perm Shape.all →
        order.findSome? (inShape? statement) = ofStatement? statement := by
    intro shape hshape h order horder
    rw [ofStatement?, findSome?_inShape?_of_build hshape h (horder.mem_iff.2 shape.mem_all),
      findSome?_inShape?_of_build hshape h shape.mem_all]
  refine ⟨?_, ?_, ?_⟩
  · intro shape hshape h
    exact ⟨fun other => inShape?_eq_none_of_build hshape h, hbuild shape hshape h⟩
  · intro shape other hne h hother
    exact ⟨isCommand_of_ne hne h hother, isCommand_of_ne hne.symm hother h⟩
  · intro order horder hcommands
    -- A build statement decides alone; without one the orders agree on all that is left.
    by_cases h : ∃ shape, shape.isCommand = false ∧ (inShape? statement shape).isSome
    · obtain ⟨shape, hshape, h⟩ := h
      exact hbuild shape hshape h order horder
    · have hnone : ∀ shape, shape.isCommand = false → inShape? statement shape = none := by
        intro shape hshape
        by_contra hsome
        exact h ⟨shape, hshape, Option.isSome_iff_ne_none.2 hsome⟩
      rw [ofStatement?, ← findSome?_inShape?_filter hnone order, hcommands,
        findSome?_inShape?_filter hnone]

/-- The build statement of an archive with the command in it that names the package. -/
def namingArchive : List Char :=
  "build obj/d/p/meta.far: r i | obj/d/c.stamp command = /pm -o obj/d/p -n n".toList

theorem only_commands_compete_namingArchive :
    (inShape? namingArchive .packageAssembly).isSome ∧
      inShape? namingArchive .packageNaming = none ∧
      Shape.all.reverse.findSome? (inShape? namingArchive) = ofStatement? namingArchive := by
  have hassembly : (inShape? namingArchive .packageAssembly).isSome := by decide +kernel
  obtain ⟨hnone, horder⟩ := (only_commands_compete namingArchive).1 .packageAssembly rfl hassembly
  exact ⟨hassembly, hnone .packageNaming (by decide), horder _ Shape.all.reverse_perm⟩

/-- Commands do compete: one that runs two tools is read in either shape. -/
example :
    let statement :=
      "command = /cmc compile ../../m.cml --output obj/d/c.cm --depfile obj/d/c.d".toList ++
        " && /pm -o obj/d/p -n n".toList
    Shape.all.reverse.findSome? (inShape? statement) ≠ ofStatement? statement := by
  decide +kernel

end Recognized

end ComponentLinks
