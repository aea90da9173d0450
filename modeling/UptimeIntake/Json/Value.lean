import UptimeIntake.Text.Utf8

/-!
# JSON values

A JSON document as a tree. Strings and member names are kept as the bytes between the quotes,
escapes included, and numbers as their literals: what they denote is decided by whoever reads
them, so a value that nobody reads is only checked for its form.
-/

set_option autoImplicit false

namespace UptimeIntake.Json

inductive Value where
  | null
  | bool (b : Bool)
  /-- A number, as its literal. -/
  | number (literal : List Char)
  /-- A string, as the bytes between its quotes. -/
  | text (raw : Bytes)
  | array (items : List Value)
  /-- An object, with its members in order; names may repeat. -/
  | object (members : List (Bytes × Value))

end UptimeIntake.Json
