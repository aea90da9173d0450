import UptimeIntake.Environment

/-!
# Real numbers

Which texts write a real number: an optional sign, then digits with an optional fraction and
exponent, or an infinity, or no number at all. One of the two digit runs around the point may be
empty.
-/

set_option autoImplicit false

namespace UptimeIntake.Text

/-- The text behind an optional sign. -/
def unsigned : List Char → List Char
  | '+' :: cs | '-' :: cs => cs
  | cs => cs

/-- The texts of an infinity and of no number, in lower case. -/
def realNames : List String := ["inf", "infinity", "nan"]

/-- The text is empty or an exponent. -/
def isExponent : List Char → Bool
  | [] => true
  | c :: cs =>
    let digits := unsigned cs
    (c = 'e' || c = 'E') && !digits.isEmpty && digits.all Char.isDigit

/-- The text is digits with an optional fraction, and an optional exponent. -/
def isDecimal (cs : List Char) : Bool :=
  let whole := cs.takeWhile Char.isDigit
  match cs.dropWhile Char.isDigit with
  | '.' :: rest =>
    !(whole.isEmpty && (rest.takeWhile Char.isDigit).isEmpty) &&
      isExponent (rest.dropWhile Char.isDigit)
  | rest => !whole.isEmpty && isExponent rest

/-- The text writes a real number. Names count in any case. -/
def isReal (cs : List Char) : Bool :=
  let cs := unsigned cs
  isDecimal cs || realNames.contains (String.ofList (cs.map Environment.lower))

end UptimeIntake.Text
