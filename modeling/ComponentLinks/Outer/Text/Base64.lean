/-!
# Bytes written in letters

Three bytes are written in four characters, of which each has six bits. Other characters are passed
over; equals signs fill up the last four characters.

## Main definitions

* `Text.sixBits?`: the bits of a character.
* `Text.bytesOf?`: the bytes that a text writes.
-/
namespace ComponentLinks.Text

def sixBits? (c : Char) : Option Nat :=
  if 'A' ≤ c && c ≤ 'Z' then some (c.toNat - 0x41)
  else if 'a' ≤ c && c ≤ 'z' then some (c.toNat - 0x61 + 26)
  else if c.isDigit then some (c.toNat - 0x30 + 52)
  else if c == '+' then some 62
  else if c == '/' then some 63
  else none

/-- The bytes that a text writes, after `place` characters of the last four with the bits `left`
that are not yet in a byte. `fills` equals signs came last. -/
def bytesFrom? (place left fills : Nat) : List Char → Option (List UInt8)
  | [] => if place = 0 then some [] else none
  | c :: rest =>
    if c == '=' then
      if place < 2 then bytesFrom? place left fills rest
      else if 4 ≤ place + fills + 1 then some []
      else bytesFrom? place left (fills + 1) rest
    else
      match sixBits? c with
      | none => bytesFrom? place left fills rest
      | some bits =>
        match place with
        | 0 => bytesFrom? 1 bits 0 rest
        | 1 => (bytesFrom? 2 (bits % 16) 0 rest).map (.ofNat (left * 4 + bits / 16) :: ·)
        | 2 => (bytesFrom? 3 (bits % 4) 0 rest).map (.ofNat (left * 16 + bits / 4) :: ·)
        | _ => (bytesFrom? 0 0 0 rest).map (.ofNat (left * 64 + bits) :: ·)

def bytesOf? (cs : List Char) : Option (List UInt8) := bytesFrom? 0 0 0 cs

end ComponentLinks.Text
