import ComponentLinks.Outer.Text.Lowercase
import ComponentLinks.Outer.Yaml.Fault

/-!
# Numbers of YAML

Whole numbers are written in base two, eight, ten, sixteen or sixty, and numbers with a fraction
with a point, with sixtieths before it or with an exponent. A scalar is first recognized by the form
of a number, and then read as one; a tag may ask for a number in any form.

## Main definitions

* `Yaml.isInteger`, `Yaml.isFraction`: the forms.
* `Yaml.readInteger`, `Yaml.readFraction`: reading numbers.
-/
namespace ComponentLinks.Yaml

/-! ## Forms -/

def isGrouped (p : Char → Bool) (c : Char) : Bool := p c || c == '_'

def isPositive : List Char → Bool
  | c :: rest => c != '0' && c.isDigit && rest.all (isGrouped Char.isDigit)
  | [] => false

def isCount : List Char → Bool
  | c :: rest => c.isDigit && rest.all (isGrouped Char.isDigit)
  | [] => false

def isSixtieth : List Char → Bool
  | [c] => c.isDigit
  | [c, d] => c.isDigit && c ≤ '5' && d.isDigit
  | _ => false

def isNatural (cs : List Char) : Bool :=
  match cs with
  | ['0'] => true
  | '0' :: 'b' :: ds => !ds.isEmpty && ds.all (isGrouped fun c => c == '0' || c == '1')
  | '0' :: 'x' :: ds => !ds.isEmpty && ds.all (isGrouped fun c => (Text.hexValue? c).isSome)
  | '0' :: ds => ds.all (isGrouped fun c => '0' ≤ c && c ≤ '7')
  | _ =>
    match cs.splitOn ':' with
    | first :: rest => isPositive first && rest.all isSixtieth
    | [] => false

def isInteger (cs : List Char) : Bool := isNatural (Text.splitSign cs).2

def isExponent : List Char → Bool
  | [] => true
  | e :: sign :: digits =>
    (e == 'e' || e == 'E') && (sign == '+' || sign == '-') && !digits.isEmpty &&
      digits.all Char.isDigit
  | _ => false

def isPointed (signed : Bool) (cs : List Char) : Bool :=
  let whole := cs.takeWhile (· != '.')
  match cs.dropWhile (· != '.') with
  | [] => false
  | _ :: rest =>
    let tail := rest.dropWhile (isGrouped Char.isDigit)
    if whole.isEmpty then !signed && rest.head?.any Char.isDigit && isExponent tail
    else if isCount whole then isExponent tail
    else match whole.splitOn ':' with
      | first :: more => isCount first && !more.isEmpty && more.all isSixtieth && tail.isEmpty
      | [] => false

def infinityWords : List (List Char) := [".inf".toList, ".Inf".toList, ".INF".toList]

def nanWords : List (List Char) := [".nan".toList, ".NaN".toList, ".NAN".toList]

def isFraction (cs : List Char) : Bool :=
  let unsigned := (Text.splitSign cs).2
  let signed := unsigned.length < cs.length
  infinityWords.contains unsigned || (!signed && nanWords.contains unsigned) ||
    isPointed signed unsigned

/-! ## Whole numbers -/

def integerIn (base : Nat) (cs : List Char) : Except Fault Int :=
  (Text.readInteger base cs).mapError .numeral

/-- A whole number without a sign. What follows the sign of a base is read in that base, and parts
between colons are sixtieths of those before them. -/
def readNatural (cs : List Char) : Except Fault Int :=
  match cs with
  | [] => .error .noDigits
  | ['0'] => .ok 0
  | '0' :: 'b' :: ds => integerIn 2 ds
  | '0' :: 'x' :: ds => integerIn 16 ds
  | '0' :: _ => integerIn 8 cs
  | _ => ((cs.splitOn ':').mapM (integerIn 10)).map fun parts =>
      parts.foldl (fun n part => n * 60 + part) 0

def readInteger (cs : List Char) : Except Fault Int :=
  match cs.filter (· != '_') with
  | [] => .error .noDigits
  | written =>
    let (isNegative, digits) := Text.splitSign written
    (readNatural digits).map fun n => if isNegative then -n else n

/-! ## Numbers with a fraction -/

def valueOf (digits : List Char) : Nat := (Text.numeral? digits).getD 0

def scaled (m : Nat) (exponent : Int) : Float :=
  Float.ofScientific m (exponent < 0) exponent.natAbs

def exponentLimit : Nat := 1000

/-- The exponent that a text writes: nothing, or a letter, perhaps a sign, and digits. One of
greater size than `limit` is cut. -/
def exponent? (limit : Nat) : List Char → Option Int
  | [] => some 0
  | e :: rest =>
    let (isNegative, digits) := Text.splitSign rest
    if e == 'e' && !digits.isEmpty && digits.all Text.isDecimal then
      let n : Int := min (valueOf digits) limit
      some (if isNegative then -n else n)
    else none

def pointed? (cs : List Char) : Option Float :=
  let whole := cs.takeWhile Text.isDecimal
  let afterWhole := cs.dropWhile Text.isDecimal
  let afterPoint := if afterWhole.head? = some '.' then afterWhole.tail else []
  let places := afterPoint.takeWhile Text.isDecimal
  let tail := if afterWhole.head? = some '.' then afterPoint.dropWhile Text.isDecimal
    else afterWhole
  if whole.isEmpty && places.isEmpty then none
  else (exponent? (exponentLimit + cs.length) tail).map fun e =>
    scaled (valueOf (whole ++ places)) (e - places.length)

/-- A number that a text in small letters writes as a decimal, with blanks around it and a sign
before it, or by a word. -/
def readDecimal (cs : List Char) : Except Fault Float :=
  let (isNegative, unsigned) := Text.splitSign (Text.trim cs)
  let found :=
    if unsigned = "inf".toList || unsigned = "infinity".toList then some (1.0 / 0.0)
    else if unsigned = "nan".toList then some (0.0 / 0.0)
    else pointed? unsigned
  match found with
  | some x => .ok (if isNegative then -x else x)
  | none => .error (.noFraction cs)

/-- The sum of numbers of units, of which each is sixty of the one before. It is rounded after each
of them. -/
def sumOfSixtieths (sum : Float) (unit : Nat) : List Float → Float
  | [] => sum
  | x :: rest => sumOfSixtieths (sum + x * Float.ofNat unit) (unit * 60) rest

/-- The number with a fraction that a text writes, in letters of any case. Underscores do not
count. -/
def readFraction (cs : List Char) : Except Fault Float :=
  match Text.lowercase (cs.filter (· != '_')) with
  | [] => .error .noDigits
  | written => do
    let (isNegative, unsigned) := Text.splitSign written
    let x ←
      if unsigned = ".inf".toList then pure (1.0 / 0.0)
      else if unsigned = ".nan".toList then pure (0.0 / 0.0)
      else if unsigned.contains ':' then do
        let parts ← (unsigned.splitOn ':').mapM readDecimal
        pure (sumOfSixtieths 0.0 1 parts.reverse)
      else readDecimal unsigned
    return if isNegative then -x else x

end ComponentLinks.Yaml
