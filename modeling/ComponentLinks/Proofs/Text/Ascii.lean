import ComponentLinks.Files
import ComponentLinks.Proofs.Text.Classes
import Mathlib.Data.List.Basic

/-!
# Texts of one byte a character

A character with a small number is written as one byte, so a text of such characters is read from
its bytes as it is.

## Main definitions

* `Text.asciiBytes`: the bytes of a text of such characters.
* `Utf8.decodeReplacing_asciiBytes`: reading them.
* `Files.text_of_ascii`: reading a file of them.
-/
namespace ComponentLinks

def Text.asciiBytes (cs : List Char) : List UInt8 := cs.map fun c => UInt8.ofNat c.toNat

open Text (asciiBytes)

namespace Utf8

/-- A byte below 128 is a character of its own. -/
theorem readFirst_ofNat {c : Char} (h : c.toNat < 128) (rest : List UInt8) :
    readFirst (UInt8.ofNat c.toNat) rest = (1, .ok c) := by
  have hbyte : (UInt8.ofNat c.toNat).toNat = c.toNat := by
    rw [UInt8.toNat_ofNat']
    omega
  have hlead : lead? (UInt8.ofNat c.toNat) = some (0, c.toNat) := by
    rw [lead?, if_pos, hbyte]
    rw [UInt8.lt_iff_toNat_lt, hbyte]
    exact h
  rw [readFirst, hlead]
  simp [readRest, Char.ofNat_toNat]

theorem piecesFrom_asciiBytes {cs : List Char} (h : ∀ c ∈ cs, c.toNat < 128) (n : ℕ) :
    piecesFrom n 0 (asciiBytes cs) = cs.map .ok := by
  induction cs generalizing n with
  | nil => rfl
  | cons c cs ih =>
    have hc : readFirst (UInt8.ofNat c.toNat) (asciiBytes cs) = (1, .ok c) :=
      readFirst_ofNat (h c (by simp)) _
    simp only [asciiBytes, List.map_cons, piecesFrom] at hc ⊢
    rw [hc]
    exact congrArg (Except.ok c :: ·) (ih (fun d hd => h d (by simp [hd])) (n + 1))

/-- A text whose characters have numbers below 128 is read from its bytes as it is. -/
theorem decodeReplacing_asciiBytes {cs : List Char} (h : ∀ c ∈ cs, c.toNat < 128) :
    decodeReplacing (asciiBytes cs) = cs := by
  simp [decodeReplacing, pieces, piecesFrom_asciiBytes h, Function.comp_def]

end Utf8

/-- Without carriage returns there is nothing to unify. -/
theorem Text.unifyNewlines_of_not_mem {cs : List Char} (h : '\r' ∉ cs) :
    unifyNewlines cs = cs := by
  fun_induction unifyNewlines cs with
  | case1 => rfl
  | case2 rest ih => simp at h
  | case3 rest hrest ih => simp at h
  | case4 c rest hc hc' ih =>
    rw [ih]
    simp_all

/-- A file whose characters have numbers below 128 and are no carriage returns is read as it is. -/
theorem Files.text_of_ascii {files : Files} {path : String} {cs : List Char}
    (hfile : files.bytes path = .ok (asciiBytes cs)) (hascii : ∀ c ∈ cs, c.toNat < 128)
    (hreturn : '\r' ∉ cs) : files.text path = .ok cs := by
  rw [text, hfile, Except.map, Utf8.decodeReplacing_asciiBytes hascii,
    Text.unifyNewlines_of_not_mem hreturn]

end ComponentLinks
