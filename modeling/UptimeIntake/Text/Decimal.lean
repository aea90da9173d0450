import UptimeIntake.Text.Blank

/-!
# Decimal text

Natural numbers as decimal digits: the shortest form, fixed-width fields, and the reading of
digit runs. Only the ASCII digits count.
-/

set_option autoImplicit false

namespace UptimeIntake.Text.Decimal

/-- The shortest decimal digits of a number. -/
def digits (n : Nat) : List Char :=
  Nat.toDigits 10 n

/-- The lowest `width` decimal digits of a number, with leading zeros. -/
def field : Nat → Nat → List Char
  | 0, _ => []
  | width + 1, n => field width (n / 10) ++ [Nat.digitChar (n % 10)]

/-- The number that decimal digits write. -/
def value (digits : List Char) : Nat :=
  Nat.ofDigitChars 10 digits 0

/-- Splits off the digits at the start, `limit` at most. -/
def split : Nat → List Char → List Char × List Char
  | 0, cs => ([], cs)
  | _ + 1, [] => ([], [])
  | limit + 1, c :: cs =>
    if c.isDigit then
      let (run, rest) := split limit cs
      (c :: run, rest)
    else ([], c :: cs)

/-- Reads one to `limit` digits at the start. -/
def read? (limit : Nat) (cs : List Char) : Option (Nat × List Char) :=
  match split limit cs with
  | ([], _) => none
  | (run, rest) => some (value run, rest)

/-- Reads a whole text as an unsigned number at most `bound`: digits behind an optional `+`. -/
def unsigned? (bound : Nat) (cs : List Char) : Option Nat :=
  let run := match cs with
    | '+' :: rest => rest
    | cs => cs
  if run ≠ [] ∧ run.all Char.isDigit ∧ value run ≤ bound then some (value run) else none

end UptimeIntake.Text.Decimal
