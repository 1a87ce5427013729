import ComponentLinks.Text.Utf8

/-!
# Values of settings

What may stand for a setting before it is known to be of the right type.

## Main definitions

* `Value`: the values.
* `Value.bool?`, `Value.text?`: reading a value as a truth value or a text.
-/
namespace ComponentLinks

inductive Value where
  | null
  | bool (b : Bool)
  | int (n : Int)
  | float (x : Float)
  | text (s : String)
  | halved (s : String)
  | bytes (bs : List UInt8)
  | date
  | list (xs : List Value)
  | mapping (entries : List (Value × Value))

instance : Inhabited Value := ⟨.null⟩

inductive ValueFault where
  | noBoolWord
  | noBool
  | halves
  | noText
  deriving Repr, DecidableEq

def ValueFault.message : ValueFault → String
  | noBoolWord => "the value writes no truth value"
  | noBool => "the value is no truth value"
  | halves => "the value has halves of characters"
  | noText => "the value is no text"

namespace Value

def isNull : Value → Bool
  | null => true
  | _ => false

def trueWords : List String := ["1", "true", "t", "yes", "y", "on"]

def falseWords : List String := ["0", "false", "f", "no", "n", "off"]

def boolOfWord (s : String) : Except ValueFault Bool :=
  if trueWords.contains s.toLower then .ok true
  else if falseWords.contains s.toLower then .ok false
  else .error .noBoolWord

/-- The bound of the numbers that are compared with one and zero. Those of greater size are of
another type than truth values. -/
def sizeLimit : Nat := 0x8000000000000000

def boolOfInt (n : Int) : Except ValueFault Bool :=
  if n = 1 then .ok true
  else if n = 0 then .ok false
  else if -sizeLimit ≤ n && n < sizeLimit then .error .noBoolWord
  else .error .noBool

def boolOfFloat (x : Float) : Except ValueFault Bool :=
  if x == 1.0 then .ok true
  else if x == 0.0 then .ok false
  else if x.floor == x && x.abs < Float.ofNat sizeLimit then .error .noBoolWord
  else .error .noBool

def textOfBytes? (bs : List UInt8) : Option String := (Utf8.decode? bs).toOption.map String.ofList

def bool? : Value → Except ValueFault Bool
  | bool b => .ok b
  | int n => boolOfInt n
  | float x => boolOfFloat x
  | text s => boolOfWord s
  | halved _ => .error .halves
  | bytes bs =>
    match textOfBytes? bs with
    | some s => boolOfWord s
    | none => .error .noBoolWord
  | _ => .error .noBool

def text? : Value → Except ValueFault String
  | text s => .ok s
  | halved s => .ok s
  | bytes bs =>
    match textOfBytes? bs with
    | some s => .ok s
    | none => .error .halves
  | _ => .error .noText

end Value

end ComponentLinks
