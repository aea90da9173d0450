import UptimeIntake.Text.Decimal

/-!
# The environment

The variables that the program is started with, and how numbers and flags are read from them.
-/

set_option autoImplicit false

namespace UptimeIntake

open Text

abbrev Environment := String → Option String

namespace Environment

/-- A number of at most `bound`, white space around it aside. An unreadable number counts as not
set. -/
def natural? (env : Environment) (bound : Nat) (name : String) : Option Nat :=
  (env name).bind fun s => Decimal.unsigned? bound (trim s.toList)

/-- A letter in lower case, if it is an ASCII letter. -/
def lower (c : Char) : Char :=
  if 'A' ≤ c ∧ c ≤ 'Z' then Char.ofNat (c.toNat + 32) else c

/-- The text of a flag that is on: `1`, or `true` in any case. -/
def isOn (s : String) : Bool :=
  s.toList.map lower = ['t', 'r', 'u', 'e'] || s = "1"

def flag? (env : Environment) (name : String) : Option Bool :=
  (env name).map isOn

end Environment

end UptimeIntake
