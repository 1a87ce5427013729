import ComponentLinks.Outer.Yaml.Moment

/-!
# Faults of YAML texts

Why a text has no values. Most texts that have none are not of the form of YAML at all; some are,
but write a character, a number or a date that does not exist.

## Main definitions

* `Yaml.Fault`: the faults.
* `Yaml.Fault.isReported`: which of them are told.
-/
namespace ComponentLinks.Yaml

inductive Fault where
  | malformed
  | noCharacter
  | codeTooLarge
  | numeral (f : Text.NumeralFault)
  | moment (f : Moment.Fault)
  | noFraction (text : List Char)
  | noDigits
  | noTruth (word : List Char)
  | noMoment
  deriving Repr, DecidableEq

def Fault.message : Fault → String
  | malformed => "the file is no YAML document"
  | noCharacter => "chr() arg not in range(0x110000)"
  | codeTooLarge => "a character is written by a code that is too large"
  | numeral f => f.message
  | moment f => f.message
  | noFraction text => s!"could not convert string to float: {Text.quoted (String.ofList text)}"
  | noDigits => "a number has no digits"
  | noTruth word => Text.quoted (String.ofList word)
  | noMoment => "a date is not written as one"

/-- Whether a fault is told to a user who asks for the file. A code that is too large to be looked
for, and a text that is none of the kind its tag asks for, end the program instead. -/
def Fault.isReported : Fault → Bool
  | codeTooLarge | noDigits | noTruth _ | noMoment => false
  | _ => true

def orMalformed {α : Type} : Option α → Except Fault α
  | some a => .ok a
  | none => .error .malformed

end ComponentLinks.Yaml
