import Governance.Decimal.Shortest
import Governance.Text.Basic

/-!
# Days, dates and instants

How days are numbered, and how points of time are written and read.
-/

namespace Governance.Time

/-!
## Days and dates

Dates of the Gregorian calendar, continued in both directions, and their numbering from the first
of January 1970. Years are counted from March on, so that the day that leap years add is the last
one of a year and every month has a fixed place in it.
-/

structure Date where
  year : Int
  month : Nat
  day : Nat
  deriving DecidableEq, Repr

/-- Whether a year has a twenty-ninth of February. -/
def isLeapYear (year : Int) : Bool :=
  year % 4 = 0 && (year % 100 != 0 || year % 400 = 0)

def daysInMonth (year : Int) (month : Nat) : Nat :=
  if month = 2 then if isLeapYear year then 29 else 28
  else if month = 4 || month = 6 || month = 9 || month = 11 then 30
  else 31

/-- Whether the calendar has that date. -/
def Date.isValid (d : Date) : Bool :=
  1 ≤ d.month && d.month ≤ 12 && 1 ≤ d.day && d.day ≤ daysInMonth d.year d.month

/-- The number of days from the first of January 1970 to a date. -/
def Date.toDays (d : Date) : Int :=
  let year := if d.month ≤ 2 then d.year - 1 else d.year
  let era := year.fdiv 400
  let yearOfEra := year - era * 400
  let monthFromMarch : Int := (d.month + 9) % 12
  let dayOfYear := (153 * monthFromMarch + 2) / 5 + d.day - 1
  let dayOfEra := yearOfEra * 365 + yearOfEra / 4 - yearOfEra / 100 + dayOfYear
  era * 146097 + dayOfEra - 719468

/-- The date a number of days after the first of January 1970. -/
def Date.ofDays (days : Int) : Date :=
  let shifted := days + 719468
  let era := shifted.fdiv 146097
  let dayOfEra := shifted - era * 146097
  let yearOfEra := (dayOfEra - dayOfEra / 1460 + dayOfEra / 36524 - dayOfEra / 146096) / 365
  let dayOfYear := dayOfEra - (365 * yearOfEra + yearOfEra / 4 - yearOfEra / 100)
  let monthFromMarch := (5 * dayOfYear + 2) / 153
  let day := dayOfYear - (153 * monthFromMarch + 2) / 5 + 1
  let month := if monthFromMarch < 10 then monthFromMarch + 3 else monthFromMarch - 9
  let year := yearOfEra + era * 400
  ⟨if month ≤ 2 then year + 1 else year, month.toNat, day.toNat⟩

end Governance.Time

namespace Governance

/-!
## Instants and their text

An instant is a second, counted from the first of January 1970, and nanoseconds in it. A second that
is inserted into a day is the one before it with more than a billion nanoseconds.

Instants are written as RFC 3339 times in UTC, with a fraction of as few digits as a multiple of
three allows. The reader accepts more than that: any offset, lower case letters, a blank for the
`T`, short numbers, and blanks between the parts.
-/

/-- A point in time. -/
structure Instant where
  seconds : Int
  nanos : Nat
  deriving DecidableEq, Repr

namespace Instant

open Time Text

def le (a b : Instant) : Bool := a.seconds < b.seconds || (a.seconds = b.seconds && a.nanos ≤ b.nanos)

def lt (a b : Instant) : Bool := a.seconds < b.seconds || (a.seconds = b.seconds && a.nanos < b.nanos)

/-- Milliseconds since the first of January 1970, toward the past. -/
def toMillis (t : Instant) : Int := t.seconds * 1000 + (t.nanos / 1000000 : Nat)

/-! ### Writing -/

/-- A natural number with leading zeros up to a width. -/
def padded (width n : Nat) : List Char :=
  let digits := Nat.toDigits 10 n
  List.replicate (width - digits.length) '0' ++ digits

/-- A year: four digits, or a sign and at least four digits outside of the years that have four. -/
def yearText (year : Int) : List Char :=
  if 0 ≤ year && year ≤ 9999 then padded 4 year.toNat
  else (if year < 0 then '-' else '+') :: padded 4 year.natAbs

/-- The fraction of a second, in no, three, six or nine digits. -/
def fractionText (nanos : Nat) : List Char :=
  if nanos = 0 then []
  else if nanos % 1000000 = 0 then '.' :: padded 3 (nanos / 1000000)
  else if nanos % 1000 = 0 then '.' :: padded 6 (nanos / 1000)
  else '.' :: padded 9 nanos

/-- The RFC 3339 text of an instant. -/
def text (t : Instant) : List Char :=
  let date := Date.ofDays (t.seconds.fdiv 86400)
  let second := (t.seconds.fmod 86400).toNat
  let inserted := t.nanos / 1000000000
  yearText date.year ++ '-' :: padded 2 date.month ++ '-' :: padded 2 date.day ++
    'T' :: padded 2 (second / 3600) ++ ':' :: padded 2 (second / 60 % 60) ++
    ':' :: padded 2 (second % 60 + inserted) ++ fractionText (t.nanos % 1000000000) ++ ['Z']

def render (t : Instant) : String := String.ofList t.text

/-! ### Reading -/

def naturalOf (digits : List Char) : Nat :=
  digits.foldl (fun n c => n * 10 + (c.toNat - '0'.toNat)) 0

/-- Reads between one and `most` digits after blanks. -/
def readNumber (most : Nat) (cs : List Char) : Option (Nat × List Char) :=
  let cs := trimStart cs
  let digits := (cs.take most).takeWhile Char.isDigit
  if digits.isEmpty then none else some (naturalOf digits, cs.drop digits.length)

/-- Reads a year, which may have a sign and then any number of digits. -/
def readYear (cs : List Char) : Option (Int × List Char) :=
  match trimStart cs with
  | '-' :: rest => signed rest |>.map fun (n, rest) => (-(n : Int), rest)
  | '+' :: rest => signed rest |>.map fun (n, rest) => ((n : Int), rest)
  | cs => (readNumber 4 cs).map fun (n, rest) => ((n : Int), rest)
where
  signed (cs : List Char) : Option (Nat × List Char) :=
    let digits := cs.takeWhile Char.isDigit
    if digits.isEmpty then none else some (naturalOf digits, cs.drop digits.length)

/-- Reads a mark after blanks. -/
def readMark (mark : Char) (cs : List Char) : Option (List Char) :=
  match trimStart cs with
  | c :: rest => if c = mark then some rest else none
  | [] => none

/-- Reads the fraction of a second, if there is one; digits beyond the ninth are dropped. -/
def readFraction (cs : List Char) : Option (Nat × List Char) :=
  match cs with
  | '.' :: rest =>
    let digits := rest.takeWhile Char.isDigit
    if digits.isEmpty then none
    else
      let kept := digits.take 9
      some (naturalOf kept * Nat.pow 10 (9 - kept.length), rest.drop digits.length)
  | cs => some (0, cs)

/-- Reads the offset from UTC in seconds. -/
def readOffset (cs : List Char) : Option (Int × List Char) :=
  match cs with
  | 'Z' :: rest => some (0, rest)
  | 'z' :: rest => some (0, rest)
  | u :: t :: c :: rest =>
    if u.toUpper = 'U' && t.toUpper = 'T' && c.toUpper = 'C' then some (0, rest)
    else if u = '+' then digits t c rest
    else if u = '-' || u = Char.ofNat 0x2212 then
      (digits t c rest).map fun (offset, rest) => (-offset, rest)
    else none
  | _ => none
where
  digits (h1 h2 : Char) (rest : List Char) : Option (Int × List Char) :=
    if h1.isDigit && h2.isDigit then
      match rest.dropWhile fun c => c = ':' || isBlankChar c with
      | m1 :: m2 :: rest =>
        if m1.isDigit && m1.toNat < '6'.toNat && m2.isDigit then
          some (naturalOf [h1, h2] * 3600 + naturalOf [m1, m2] * 60, rest)
        else none
      | _ => none
    else none

def readDate (cs : List Char) : Option (Date × List Char) := do
  let (year, cs) ← readYear cs
  let cs ← readMark '-' cs
  let (month, cs) ← readNumber 2 cs
  let cs ← readMark '-' cs
  let (day, cs) ← readNumber 2 cs
  let date : Date := ⟨year, month, day⟩
  if date.isValid then some (date, cs) else none

/-- The first and the last year that a time may lie in. -/
def yearRange : Int × Int := (-262143, 262142)

def isInRange (year : Int) : Bool := yearRange.1 ≤ year && year ≤ yearRange.2

/-- Reads what stands between a date and a time of day. -/
def readSeparator : List Char → Option (List Char)
  | 'T' :: rest => some rest
  | 't' :: rest => some rest
  | ' ' :: rest => some rest
  | _ => none

/-- The instant written in a text. -/
def ofChars? (cs : List Char) : Option Instant := do
  let (date, cs) ← readDate cs
  let cs ← readSeparator cs
  let (hour, cs) ← readNumber 2 cs
  let cs ← readMark ':' cs
  let (minute, cs) ← readNumber 2 cs
  let cs ← readMark ':' cs
  let (second, cs) ← readNumber 2 cs
  let (fraction, cs) ← readFraction cs
  let (offset, cs) ← readOffset (trimStart cs)
  if !(trimStart cs).isEmpty then none
  else if hour < 24 && minute < 60 && second ≤ 60 && offset.natAbs < 86400 &&
      isInRange date.year then
    let inDay := hour * 3600 + minute * 60 + min second 59
    let seconds := date.toDays * 86400 + inDay - offset
    let nanos := if second = 60 then fraction + 1000000000 else fraction
    if isInRange (Date.ofDays (seconds.fdiv 86400)).year then some ⟨seconds, nanos⟩ else none
  else none

def parse? (text : String) : Option Instant := ofChars? text.toList

end Instant

end Governance

namespace Governance

/-!
## Durations

Lengths of time in whole nanoseconds.
-/

/-- A length of time. -/
structure Duration where
  nanos : Nat
  deriving DecidableEq, Repr

namespace Duration

def ofSeconds (n : Nat) : Duration := ⟨n * 1000000000⟩

def ofMillis (n : Nat) : Duration := ⟨n * 1000000⟩

def ofMicros (n : Nat) : Duration := ⟨n * 1000⟩

/-- The milliseconds of a duration, what is left over dropped. -/
def toMillis (d : Duration) : Nat := d.nanos / 1000000

/-- The seconds of a duration as a double: the whole ones and the rest are rounded apart. -/
def toSecondsFloat (d : Duration) : Float :=
  Float.ofNat (d.nanos / 1000000000) + Float.ofNat (d.nanos % 1000000000) / 1000000000.0

def toMillisFloat (d : Duration) : Float := d.toSecondsFloat * 1000.0

/-- A number of units with the fraction that is left over, without zeros at its end; `scale` is the
number of places that the fraction has. -/
def scaledText (whole rest scale : Nat) : List Char :=
  let digits := Decimal.naturalText rest
  let places := List.replicate (scale - digits.length) '0' ++ digits
  let kept := (places.reverse.dropWhile (· = '0')).reverse
  Decimal.naturalText whole ++ if kept.isEmpty then [] else '.' :: kept

/-- The text of a duration in the largest unit of which it has at least one. -/
def text (d : Duration) : List Char :=
  if 1000000000 ≤ d.nanos then
    scaledText (d.nanos / 1000000000) (d.nanos % 1000000000) 9 ++ ['s']
  else if 1000000 ≤ d.nanos then
    scaledText (d.nanos / 1000000) (d.nanos % 1000000) 6 ++ ['m', 's']
  else if 1000 ≤ d.nanos then
    scaledText (d.nanos / 1000) (d.nanos % 1000) 3 ++ ['µ', 's']
  else Decimal.naturalText d.nanos ++ ['n', 's']

def render (d : Duration) : String := String.ofList d.text

end Duration

/-- The instant so much later, if there is one: the seconds of an instant that a clock counts to are a
number of sixty-four bits with a sign. -/
def Instant.plus? (t : Instant) (d : Duration) : Option Instant :=
  let nanos := t.nanos + d.nanos
  let seconds := t.seconds + (nanos / 1000000000 : Nat)
  if seconds ≤ Int64.maxValue.toInt then some ⟨seconds, nanos % 1000000000⟩ else none

/-- The time since an instant, nought when the instant is yet to come. -/
def Instant.since (now earlier : Instant) : Duration :=
  ⟨((now.seconds - earlier.seconds) * 1000000000 + now.nanos - earlier.nanos).toNat⟩

end Governance
