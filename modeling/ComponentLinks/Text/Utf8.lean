/-!
# UTF-8

Texts as bytes. A sequence of bytes that writes no character is a fault; it is as long as the
bytes that could have begun a character, at least one.

## Main definitions

* `Utf8.Fault`: bytes that write no character.
* `Utf8.pieces`: the characters and faults of a sequence of bytes.
* `Utf8.decodeReplacing`: the text, with one replacement character for each fault.
* `Utf8.decode?`: the text, or the first fault.
-/
namespace ComponentLinks.Utf8

/-- Why bytes write no character. -/
inductive Reason where
  | invalidStart
  | invalidContinuation
  | unexpectedEnd
  deriving Repr, DecidableEq

def Reason.toString : Reason → String
  | invalidStart => "invalid start byte"
  | invalidContinuation => "invalid continuation byte"
  | unexpectedEnd => "unexpected end of data"

/-- Bytes that write no character: how many come before them, the first of them, how many they are,
and why. -/
structure Fault where
  start : Nat
  byte : UInt8
  length : Nat
  reason : Reason
  deriving Repr, DecidableEq

/-- The number of bytes that follow the first byte of a character, and the bits of the character
that the first byte gives. -/
def lead? (b : UInt8) : Option (Nat × Nat) :=
  if b < 0x80 then some (0, b.toNat)
  else if b < 0xC2 then none
  else if b < 0xE0 then some (1, b.toNat - 0xC0)
  else if b < 0xF0 then some (2, b.toNat - 0xE0)
  else if b < 0xF5 then some (3, b.toNat - 0xF0)
  else none

/-- Whether a byte may be the second one after a given first byte: longer forms than necessary,
surrogates and numbers beyond the last character are excluded. -/
def isSecond (first b : UInt8) : Bool :=
  if first = 0xE0 then 0xA0 ≤ b && b < 0xC0
  else if first = 0xED then 0x80 ≤ b && b < 0xA0
  else if first = 0xF0 then 0x90 ≤ b && b < 0xC0
  else if first = 0xF4 then 0x80 ≤ b && b < 0x90
  else 0x80 ≤ b && b < 0xC0

def isLater (b : UInt8) : Bool := 0x80 ≤ b && b < 0xC0

/-- What the rest of a character reads as: the number of bytes taken so far is `used`, the bits so
far are `bits`, and `ok` tells which next byte is possible. -/
def readRest (ok : UInt8 → Bool) : (wanted used bits : Nat) → List UInt8 →
    Nat × Except Reason Char
  | 0, used, bits, _ => (used, .ok (Char.ofNat bits))
  | _ + 1, used, _, [] => (used, .error .unexpectedEnd)
  | wanted + 1, used, bits, b :: rest =>
    if ok b then readRest isLater wanted (used + 1) (bits * 64 + (b.toNat - 0x80)) rest
    else (used, .error .invalidContinuation)

/-- What a sequence of bytes begins with, and how many bytes that takes. -/
def readFirst (b : UInt8) (rest : List UInt8) : Nat × Except Reason Char :=
  match lead? b with
  | none => (1, .error .invalidStart)
  | some (wanted, bits) => readRest (isSecond b) wanted 1 bits rest

/-- The characters and faults of bytes that follow `n` others, where the next `covered` bytes
belong to a character or fault already read. -/
def piecesFrom : Nat → Nat → List UInt8 → List (Except Fault Char)
  | _, _, [] => []
  | n, covered + 1, _ :: rest => piecesFrom (n + 1) covered rest
  | n, 0, b :: rest =>
    match readFirst b rest with
    | (used, .ok c) => .ok c :: piecesFrom (n + 1) (used - 1) rest
    | (used, .error reason) => .error ⟨n, b, used, reason⟩ :: piecesFrom (n + 1) (used - 1) rest

def pieces (bytes : List UInt8) : List (Except Fault Char) := piecesFrom 0 0 bytes

/-- The character that stands for bytes that write none. -/
def replacement : Char := '\uFFFD'

/-- The text of a sequence of bytes, with one replacement character for each fault. -/
def decodeReplacing (bytes : List UInt8) : List Char :=
  (pieces bytes).map fun piece => match piece with
    | .ok c => c
    | .error _ => replacement

def decode? (bytes : List UInt8) : Except Fault (List Char) := (pieces bytes).mapM id

/-- The number of bytes of a file that are decoded at once. -/
def blockSize : Nat := 8192

/-- The number of bytes before the one by which a fault is noticed: the byte that fits nothing
before it, or the end. The first two bytes of a surrogate are noticed only by what follows them. -/
def Fault.bytesBeforeNotice (f : Fault) (bytes : List UInt8) : Nat :=
  match f.reason with
  | .invalidStart => f.start
  | .invalidContinuation =>
    if f.byte = 0xED && f.length = 1 && (bytes[f.start + 1]?).any isLater then f.start + 2
    else f.start + f.length
  | .unexpectedEnd => bytes.length

def characterStart (bytes : List UInt8) : Nat → Nat
  | 0 => 0
  | n + 1 => if (bytes[n + 1]?).any isLater then characterStart bytes n else n + 1

/-- The fault as it is reported for a file, whose bytes are decoded in blocks: bytes at the end of a
block that do not make a character are decoded with the next block, or on their own at the end of
the file. The fault is counted from the beginning of what is decoded with it. -/
def Fault.inFile (f : Fault) (bytes : List UInt8) : Fault :=
  let notice := f.bytesBeforeNotice bytes
  let block := notice / blockSize * blockSize
  let beginning :=
    if bytes.length ≤ notice || f.start ≤ block then f.start
    else characterStart bytes block
  { f with start := f.start - beginning }

def byteDigits (b : UInt8) : String :=
  let digits := Nat.toDigits 16 b.toNat
  String.ofList (if digits.length < 2 then '0' :: digits else digits)

def Fault.message (f : Fault) : String :=
  (if f.length = 1 then
    s!"'utf-8' codec can't decode byte 0x{byteDigits f.byte} in position {f.start}: "
  else
    s!"'utf-8' codec can't decode bytes in position {f.start}-{f.start + f.length - 1}: ") ++
  f.reason.toString

end ComponentLinks.Utf8
