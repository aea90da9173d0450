import UptimeIntake.Text.Blank

/-!
# Splitting

The pieces of a text between the occurrences of a separator. A text without separator is one
piece, so there is always one.
-/

set_option autoImplicit false

namespace UptimeIntake.Text

/-- The pieces between the occurrences of `separator`. -/
def split (separator : Char) : List Char → List (List Char)
  | [] => [[]]
  | c :: cs =>
    if c = separator then [] :: split separator cs
    else
      match split separator cs with
      | [] => [[c]]
      | first :: rest => (c :: first) :: rest

end UptimeIntake.Text
