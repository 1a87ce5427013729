import ComponentLinks.Text.Blank
import ComponentLinks.Text.Quoted

/-!
# Decimal numerals

A number may be written with the decimal digits of any script. Digits that have no place value,
such as superscripts and circled digits, count as digits but form no numeral. Numerals of very many
digits are refused.

## Main definitions

* `Text.digitValue?`: the value of a decimal digit.
* `Text.isDecimal`: decimal digits.
* `Text.isDigit`: decimal digits and digits without a place value.
* `Text.numeral?`, `Text.hexNumeral?`: the number that a run of digits denotes.
* `Text.NumeralFault`: why a text is not read as a number.
* `Text.readNumeral`: reading a text of decimal digits as a number.
* `Text.readInteger`: reading a text in any base as a number, perhaps with a sign.
-/
namespace ComponentLinks.Text

/-- The zeros of the decimal digits beyond ASCII; the nine other digits of a script follow its
zero in order. -/
def decimalZeros : List Nat :=
  [0x660, 0x6F0, 0x7C0, 0x966, 0x9E6, 0xA66, 0xAE6, 0xB66, 0xBE6, 0xC66, 0xCE6, 0xD66, 0xDE6,
   0xE50, 0xED0, 0xF20, 0x1040, 0x1090, 0x17E0, 0x1810, 0x1946, 0x19D0, 0x1A80, 0x1A90, 0x1B50,
   0x1BB0, 0x1C40, 0x1C50, 0xA620, 0xA8D0, 0xA900, 0xA9D0, 0xA9F0, 0xAA50, 0xABF0, 0xFF10,
   0x104A0, 0x10D30, 0x11066, 0x110F0, 0x11136, 0x111D0, 0x112F0, 0x11450, 0x114D0, 0x11650,
   0x116C0, 0x11730, 0x118E0, 0x11950, 0x11C50, 0x11D50, 0x11DA0, 0x16A60, 0x16AC0, 0x16B50,
   0x1D7CE, 0x1D7D8, 0x1D7E2, 0x1D7EC, 0x1D7F6, 0x1E140, 0x1E2F0, 0x1E950, 0x1FBF0]

/-- Digits without a place value: superscripts, subscripts, circled and ancient digits. -/
def signDigitRanges : List (Nat × Nat) :=
  [(0xB2, 0xB3), (0xB9, 0xB9), (0x1369, 0x1371), (0x19DA, 0x19DA), (0x2070, 0x2070),
   (0x2074, 0x2079), (0x2080, 0x2089), (0x2460, 0x2468), (0x2474, 0x247C), (0x2488, 0x2490),
   (0x24EA, 0x24EA), (0x24F5, 0x24FD), (0x24FF, 0x24FF), (0x2776, 0x277E), (0x2780, 0x2788),
   (0x278A, 0x2792), (0x10A40, 0x10A43), (0x10E60, 0x10E68), (0x11052, 0x1105A),
   (0x1F100, 0x1F10A)]

def digitValue? (c : Char) : Option Nat :=
  if c.toNat < 0x80 then
    if c.isDigit then some (c.toNat - 0x30) else none
  else
    (decimalZeros.find? fun z => z ≤ c.toNat && c.toNat < z + 10).map (c.toNat - ·)

def isDecimal (c : Char) : Bool := (digitValue? c).isSome

def isDigit (c : Char) : Bool :=
  isDecimal c || inRanges signDigitRanges c.toNat

/-- The number that digits denote, continuing a number already read. -/
def numeralFrom? (n : Nat) : List Char → Option Nat
  | [] => some n
  | c :: rest =>
    match digitValue? c with
    | some d => numeralFrom? (n * 10 + d) rest
    | none => none

/-- The number that a nonempty run of decimal digits denotes. -/
def numeral? : List Char → Option Nat
  | [] => none
  | cs => numeralFrom? 0 cs

def hexValue? (c : Char) : Option Nat :=
  if c.isDigit then some (c.toNat - 0x30)
  else if 'a' ≤ c ∧ c ≤ 'f' then some (c.toNat - 0x61 + 10)
  else if 'A' ≤ c ∧ c ≤ 'F' then some (c.toNat - 0x41 + 10)
  else none

def hexNumeral? (cs : List Char) : Option Nat :=
  cs.foldl (fun n c => n.bind fun n => (hexValue? c).map (n * 16 + ·)) (some 0)

/-- Why a text is not read as a number. -/
inductive NumeralFault where
  | noNumeral (base : Nat) (text : List Char)
  | tooLong (digits : Nat)
  deriving Repr, DecidableEq

/-- The greatest number of decimal digits that are read as a number. -/
def digitLimit : Nat := 4300

/-- The greatest length of a quoted text in what is said about a fault. -/
def quotedLimit : Nat := 200

def NumeralFault.message : NumeralFault → String
  | noNumeral base text =>
    s!"invalid literal for int() with base {base}: " ++
      String.ofList ((quoted (String.ofList text)).toList.take quotedLimit)
  | tooLong digits =>
    s!"Exceeds the limit ({digitLimit} digits) for integer string conversion: " ++
      s!"value has {digits} digits; use sys.set_int_max_str_digits() to increase the limit"

/-- The number that decimal digits write. Too many digits are a fault even if more characters
follow them. -/
def readNumeral (cs : List Char) : Except NumeralFault Nat :=
  let digits := (cs.takeWhile isDecimal).length
  if digitLimit < digits then .error (.tooLong digits)
  else
    match numeral? cs with
    | some n => .ok n
    | none => .error (.noNumeral 10 cs)

def splitSign : List Char → Bool × List Char
  | '-' :: rest => (true, rest)
  | '+' :: rest => (false, rest)
  | cs => (false, cs)

def valueIn? (base : Nat) (c : Char) : Option Nat :=
  ((digitValue? c).or (hexValue? c)).filter (· < base)

def baseMarks : List (Nat × Char) := [(2, 'b'), (8, 'o'), (16, 'x')]

def withoutMark (base : Nat) (cs : List Char) : List Char :=
  match baseMarks.lookup base, cs with
  | some mark, '0' :: c :: rest => if c.toLower = mark then rest else cs
  | _, _ => cs

/-- The whole number that a text writes in a base: digits, with blanks around them, a sign and a
mark of the base before them. -/
def readInteger (base : Nat) (cs : List Char) : Except NumeralFault Int :=
  let (isNegative, unsigned) := splitSign (trim cs)
  let digits := withoutMark base unsigned
  let count := (digits.takeWhile isDecimal).length
  if base = 10 && digitLimit < count then .error (.tooLong count)
  else
    match digits.mapM (valueIn? base) with
    | some (d :: ds) =>
      let n := (d :: ds).foldl (fun n d => n * base + d) 0
      .ok (if isNegative then -(n : Int) else n)
    | _ => .error (.noNumeral base cs)

end ComponentLinks.Text
