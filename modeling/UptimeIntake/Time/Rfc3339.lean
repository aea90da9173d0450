import UptimeIntake.Text.Decimal
import UptimeIntake.Time.Instant

/-!
# RFC 3339 text

Writing an instant in UTC at second precision, and reading a relaxed form of the standard: white
space is allowed around the parts, fields may have fewer digits, years may have a sign and any
number of digits, and the offset may be `UTC`, `Z` or signed hours and minutes.
-/

set_option autoImplicit false

namespace UptimeIntake.Rfc3339

open Text Calendar

/-! ## Writing -/

/-- The year as written: four digits, or outside 0 to 9999 a sign and at least four. -/
def year (y : Int) : List Char :=
  let size := y.natAbs
  let digits := if size < 10000 then Decimal.field 4 size else Decimal.digits size
  if y < 0 then '-' :: digits
  else if 9999 < y then '+' :: digits
  else digits

def date (d : Date) : List Char :=
  year d.year ++ '-' :: Decimal.field 2 d.month ++ '-' :: Decimal.field 2 d.day

/-- A time of day as written, from the second of the day. A leap second counts one more than the
second before it. -/
def timeOfDay (second : Nat) (leap : Bool) : List Char :=
  Decimal.field 2 (second / 3600) ++ ':' :: Decimal.field 2 (second / 60 % 60) ++
    ':' :: Decimal.field 2 (second % 60 + leap.toNat)

/-- An instant in UTC at second precision. -/
def write (t : Instant) : List Char :=
  date (Date.ofDay (t.secs / 86400)) ++
    'T' :: timeOfDay (t.secs % 86400).toNat t.isLeapSecond ++ ['Z']

def writeString (t : Instant) : String :=
  String.ofList (write t)

/-! ## Reading

A reader takes the characters ahead and gives what it read with the characters left. -/

/-- Reads a number of one to `limit` digits behind white space. -/
def number? (limit : Nat) (cs : List Char) : Option (Nat × List Char) :=
  Decimal.read? limit (trimStart cs)

def mark? (c : Char) (cs : List Char) : Option (List Char) :=
  match trimStart cs with
  | [] => none
  | x :: rest => if x = c then some rest else none

/-- Reads a year behind white space. A sign lifts the limit of four digits. -/
def year? (cs : List Char) : Option (Int × List Char) :=
  match trimStart cs with
  | '-' :: rest => (Decimal.read? rest.length rest).map fun (n, rest) => (-(n : Int), rest)
  | '+' :: rest => (Decimal.read? rest.length rest).map fun (n, rest) => ((n : Int), rest)
  | cs => (Decimal.read? 4 cs).map fun (n, rest) => ((n : Int), rest)

/-- Reads a date. Whether it exists is not asked here. -/
def date? (cs : List Char) : Option (Date × List Char) := do
  let (y, cs) ← year? cs
  let cs ← mark? '-' cs
  let (m, cs) ← number? 2 cs
  let cs ← mark? '-' cs
  let (d, cs) ← number? 2 cs
  return (⟨y, m, d⟩, cs)

/-- Reads the character between date and time. -/
def separator? : List Char → Option (List Char)
  | c :: cs => if c = 'T' ∨ c = 't' ∨ c = ' ' then some cs else none
  | [] => none

/-- Reads a fraction of a second, if there is one, as nanoseconds. Digits behind the ninth are
skipped. -/
def fraction? : List Char → Option (Nat × List Char)
  | '.' :: cs =>
    match Decimal.split 9 cs with
    | ([], _) => none
    | (run, rest) =>
      some (Decimal.value run * Nat.pow 10 (9 - run.length), rest.dropWhile Char.isDigit)
  | cs => some (0, cs)

/-- A time of day as read, not yet checked. -/
structure Clock where
  hour : Nat
  minute : Nat
  /-- Seconds, 60 in a leap second. -/
  second : Nat
  nanos : Nat
  deriving DecidableEq, Repr

/-- The time of day exists; a leap second may end any minute. -/
def Clock.IsValid (c : Clock) : Prop :=
  c.hour < 24 ∧ c.minute < 60 ∧ c.second ≤ 60

instance (c : Clock) : Decidable c.IsValid :=
  inferInstanceAs (Decidable (_ ∧ _))

def clock? (cs : List Char) : Option (Clock × List Char) := do
  let (h, cs) ← number? 2 cs
  let cs ← mark? ':' cs
  let (m, cs) ← number? 2 cs
  let cs ← mark? ':' cs
  let (s, cs) ← number? 2 cs
  let (nanos, cs) ← fraction? cs
  return (⟨h, m, s, nanos⟩, cs)

def twoDigits? : List Char → Option (Nat × List Char)
  | a :: b :: cs =>
    if a.isDigit ∧ b.isDigit then some (Decimal.value [a, b], cs) else none
  | _ => none

/-- Reads hours and minutes behind the sign of an offset, in seconds. Colons and white space may
stand between them. -/
def hoursMinutes? (cs : List Char) : Option (Int × List Char) := do
  let (h, cs) ← twoDigits? cs
  let (m, cs) ← twoDigits? (cs.dropWhile fun c => c = ':' || isBlank c)
  if m < 60 then return ((h : Int) * 3600 + m * 60, cs) else none

/-- Reads an offset from UTC in seconds. The minus sign may be a hyphen or U+2212. -/
def offset? : List Char → Option (Int × List Char)
  | 'U' :: 'T' :: 'C' :: cs | 'U' :: 'T' :: 'c' :: cs | 'U' :: 't' :: 'C' :: cs
  | 'U' :: 't' :: 'c' :: cs | 'u' :: 'T' :: 'C' :: cs | 'u' :: 'T' :: 'c' :: cs
  | 'u' :: 't' :: 'C' :: cs | 'u' :: 't' :: 'c' :: cs => some (0, cs)
  | c :: cs =>
    if c = 'Z' ∨ c = 'z' then some (0, cs)
    else if c = '+' then hoursMinutes? cs
    else if c = '-' ∨ c = '\u2212' then (hoursMinutes? cs).map fun (s, cs) => (-s, cs)
    else none
  | [] => none

/-- The instant of a local date and time at an offset from UTC, if all of them exist and are in
range. -/
def instant? (d : Date) (c : Clock) (offset : Int) : Option Instant :=
  if d.IsValid ∧ c.IsValid ∧ (-262143 ≤ d.year ∧ d.year ≤ 262142) ∧
      (-86400 < offset ∧ offset < 86400) then
    let leap := c.second = 60
    let second := if leap then 59 else c.second
    let nanos := if leap then c.nanos + 1000000000 else c.nanos
    Instant.ofParts?
      (d.toDay * 86400 + ((c.hour * 3600 + c.minute * 60 + second : Nat) : Int) - offset) nanos
  else none

/-- Reads an instant. Nothing but white space may follow it. -/
def read? (cs : List Char) : Option Instant := do
  let (d, cs) ← date? cs
  let cs ← separator? cs
  let (c, cs) ← clock? cs
  let (offset, cs) ← offset? (trimStart cs)
  if (trimStart cs).isEmpty then instant? d c offset else none

end UptimeIntake.Rfc3339
