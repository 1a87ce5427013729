import ComponentLinks.Text.Numeral

/-!
# Dates and times of YAML

A date is written as year, month and day; a time of day and the offset of a time zone may follow.
The form is recognized first, and then it is checked that there is such a date.

## Main definitions

* `Yaml.Moment`: a written date, with or without a time.
* `Yaml.Moment.ofText?`, `Yaml.Moment.read?`: the date that a text writes.
* `Yaml.Moment.Fault`, `Yaml.Moment.fault?`: why there is no such date.
-/
namespace ComponentLinks.Yaml

structure Clock where
  hour : Nat
  minute : Nat
  second : Nat
  offset : Int
  deriving Repr, DecidableEq

structure Moment where
  year : Nat
  month : Nat
  day : Nat
  clock : Option Clock
  deriving Repr, DecidableEq

namespace Moment

/-! ## Reading -/

def number? (least most : Nat) (cs : List Char) : Option (Nat × List Char) :=
  let digits := (cs.take most).takeWhile Char.isDigit
  if least ≤ digits.length then
    (Text.numeral? digits).map fun n => (n, cs.drop digits.length)
  else none

def afterSign? (sign : Char) : List Char → Option (List Char)
  | c :: rest => if c = sign then some rest else none
  | [] => none

def afterBlanks (cs : List Char) : List Char := cs.dropWhile fun c => c == ' ' || c == '\t'

def date? (least : Nat) (cs : List Char) : Option (Moment × List Char) := do
  let (year, cs) ← number? 4 4 cs
  let (month, cs) ← (afterSign? '-' cs).bind (number? least 2)
  let (day, cs) ← (afterSign? '-' cs).bind (number? least 2)
  return (⟨year, month, day, none⟩, cs)

def size? (cs : List Char) : Option Int := do
  let (hours, cs) ← number? 1 2 cs
  match cs with
  | [] => return hours * 60
  | _ =>
    match ← (afterSign? ':' cs).bind (number? 2 2) with
    | (minutes, []) => return hours * 60 + minutes
    | _ => none

def offset? (cs : List Char) : Option Int :=
  match cs, afterBlanks cs with
  | [], _ => some 0
  | _, ['Z'] => some 0
  | _, '+' :: rest => size? rest
  | _, '-' :: rest => (size? rest).map (- ·)
  | _, _ => none

def afterDate? (cs : List Char) : Option (List Char) :=
  match cs with
  | 'T' :: rest => some rest
  | 't' :: rest => some rest
  | _ => if (afterBlanks cs).length < cs.length then some (afterBlanks cs) else none

def afterFraction : List Char → List Char
  | '.' :: rest => rest.dropWhile Char.isDigit
  | cs => cs

def clock? (cs : List Char) : Option Clock := do
  let (hour, cs) ← (afterDate? cs).bind (number? 1 2)
  let (minute, cs) ← (afterSign? ':' cs).bind (number? 2 2)
  let (second, cs) ← (afterSign? ':' cs).bind (number? 2 2)
  let offset ← offset? (afterFraction cs)
  return ⟨hour, minute, second, offset⟩

/-- The date that a text writes, alone or with a time. A date alone has two digits for the month
and the day. -/
def ofText? (cs : List Char) : Option Moment :=
  match date? 2 cs with
  | some (m, []) => some m
  | _ => do
    let (m, cs) ← date? 1 cs
    let clock ← clock? cs
    return { m with clock := some clock }

/-- The date that a text writes of which a date is asked for. Month and day may have one digit in
any case, and a line may end after the date. -/
def read? (cs : List Char) : Option Moment :=
  let line := if cs.getLast? = some '\n' then cs.dropLast else cs
  match date? 1 line with
  | some (m, []) => some m
  | _ => ofText? line

/-! ## Checking -/

inductive Fault where
  | offset (minutes : Int)
  | year
  | month
  | day
  | hour
  | minute
  | second
  deriving Repr, DecidableEq

def minutesPerDay : Nat := 24 * 60

def duration (minutes : Int) : String :=
  let seconds := minutes.fmod minutesPerDay * 60
  s!"datetime.timedelta(days={minutes.fdiv minutesPerDay}" ++
    (if seconds = 0 then ")" else s!", seconds={seconds})")

def Fault.message : Fault → String
  | offset minutes =>
    "offset must be a timedelta strictly between -timedelta(hours=24) and " ++
      s!"timedelta(hours=24), not {duration minutes}."
  | year => "year 0 is out of range"
  | month => "month must be in 1..12"
  | day => "day is out of range for month"
  | hour => "hour must be in 0..23"
  | minute => "minute must be in 0..59"
  | second => "second must be in 0..59"

def isLeap (year : Nat) : Bool := year % 4 = 0 && (year % 100 ≠ 0 || year % 400 = 0)

def daysIn (year month : Nat) : Nat :=
  if month = 2 then if isLeap year then 29 else 28
  else if [4, 6, 9, 11].contains month then 30
  else 31

def clockFault? (c : Clock) : Option Fault :=
  if 24 ≤ c.hour then some .hour
  else if 60 ≤ c.minute then some .minute
  else if 60 ≤ c.second then some .second
  else none

/-- Why a date does not exist: the first thing that is wrong, of which the time zone comes first and
then the longest units. -/
def fault? (m : Moment) : Option Fault :=
  let offset := (m.clock.map Clock.offset).getD 0
  if minutesPerDay ≤ offset.natAbs then some (.offset offset)
  else if m.year = 0 then some .year
  else if m.month = 0 || 12 < m.month then some .month
  else if m.day = 0 || daysIn m.year m.month < m.day then some .day
  else m.clock.bind clockFault?

end Moment

end ComponentLinks.Yaml
