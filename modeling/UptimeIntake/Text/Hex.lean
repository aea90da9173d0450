import UptimeIntake.Text.Utf8

/-!
# Hexadecimal text

Bytes as pairs of hexadecimal digits. Writing uses lowercase; reading takes either case and
names the first byte that is no digit.
-/

set_option autoImplicit false

namespace UptimeIntake.Text.Hex

inductive Error where
  /-- The text has an odd number of bytes. -/
  | oddLength
  /-- The byte at `index` of the text is no hexadecimal digit. -/
  | badDigit (byte : UInt8) (index : Nat)
  deriving DecidableEq, Repr

/-- The lowercase digit of a value below 16. -/
def digit (n : Nat) : Char :=
  if n < 10 then Char.ofNat (48 + n) else Char.ofNat (87 + n)

/-- The two digits of a byte, high half first. -/
def encodeByte (b : UInt8) : List Char :=
  [digit (b.toNat / 16), digit (b.toNat % 16)]

/-- Lowercase hexadecimal text of the bytes. -/
def encode (bytes : Bytes) : List Char :=
  bytes.flatMap encodeByte

def encodeString (bytes : Bytes) : String :=
  String.ofList (encode bytes)

/-- The value of a digit of either case, given as its byte. -/
def value? (b : UInt8) : Option Nat :=
  let n := b.toNat
  if 48 ≤ n ∧ n ≤ 57 then some (n - 48)
  else if 97 ≤ n ∧ n ≤ 102 then some (n - 87)
  else if 65 ≤ n ∧ n ≤ 70 then some (n - 55)
  else none

/-- Reads pairs of digits from byte `index` of the text on; `seen` holds the bytes already
read, last first. -/
def decodeFrom (index : Nat) (seen : Bytes) : Bytes → Except Error Bytes
  | [] => .ok seen.reverse
  | [_] => .error .oddLength
  | high :: low :: rest =>
    match value? high with
    | none => .error (.badDigit high index)
    | some x =>
      match value? low with
      | none => .error (.badDigit low (index + 1))
      | some y => decodeFrom (index + 2) (UInt8.ofNat (x * 16 + y) :: seen) rest

/-- Reads hexadecimal text, given as its UTF-8 bytes. An odd length is reported before any bad
digit. -/
def decodeBytes (text : Bytes) : Except Error Bytes :=
  if text.length % 2 = 1 then .error .oddLength else decodeFrom 0 [] text

def decode (text : List Char) : Except Error Bytes :=
  decodeBytes (Utf8.encode text)

end UptimeIntake.Text.Hex
