import UptimeIntake.Text.Hex

/-!
# Byte strings of fixed length

Keys, signatures and hashes are byte strings whose length is part of their type. Their text form
is lowercase hexadecimal; reading is lenient about white space around the digits, one leading
`0x` and the case of the digits.
-/

set_option autoImplicit false

namespace UptimeIntake

open Text

structure Octets (n : Nat) where
  bytes : Bytes
  /-- There are `n` of them. -/
  length_eq : bytes.length = n
  deriving DecidableEq

/-- The public key of a submitter. -/
abbrev SubmitterKey := Octets 32

/-- A signature over a hashed payload. -/
abbrev Signature := Octets 64

abbrev Digest := Octets 32

namespace Octets

variable {n : Nat}

theorem eq_of_bytes_eq : ∀ {a b : Octets n}, a.bytes = b.bytes → a = b
  | ⟨_, _⟩, ⟨_, _⟩, rfl => rfl

/-- The byte string with these bytes, if there are `n` of them. -/
def ofBytes? (n : Nat) (bytes : Bytes) : Option (Octets n) :=
  if h : bytes.length = n then some ⟨bytes, h⟩ else none

def zero (n : Nat) : Octets n :=
  ⟨List.replicate n 0, List.length_replicate⟩

/-- The byte string whose byte at `i` is `f i`. -/
def ofFn (f : Fin n → UInt8) : Octets n :=
  ⟨List.ofFn f, List.length_ofFn⟩

/-- Lowercase hexadecimal text. -/
def toHex (a : Octets n) : List Char :=
  Hex.encode a.bytes

def toHexString (a : Octets n) : String :=
  Hex.encodeString a.bytes

instance : ToString (Octets n) := ⟨toHexString⟩

/-- Why a text does not write a byte string of the expected length. -/
inductive ParseError where
  | notHex (cause : Hex.Error)
  /-- The digits write a byte string of another length. -/
  | wrongLength (expected actual : Nat)
  deriving DecidableEq, Repr

/-- Drops one leading `0x`. -/
def dropMark : List Char → List Char
  | '0' :: 'x' :: rest => rest
  | cs => cs

/-- Reads a byte string: white space at both ends and one `0x` in front of the digits are
dropped, in this order. -/
def parse (n : Nat) (text : List Char) : Except ParseError (Octets n) :=
  match Hex.decode (dropMark (trim text)) with
  | .error cause => .error (.notHex cause)
  | .ok bytes =>
    if h : bytes.length = n then .ok ⟨bytes, h⟩ else .error (.wrongLength n bytes.length)

def parse? (n : Nat) (text : List Char) : Option (Octets n) :=
  (parse n text).toOption

end Octets

namespace Text.Hex

/-- A character as shown between quotes in a message: control and other invisible characters
of the first 256 are escaped. -/
def quoteChar (c : Char) : List Char :=
  let n := c.toNat
  if n = 0 then ['\\', '0']
  else if n = 9 then ['\\', 't']
  else if n = 10 then ['\\', 'n']
  else if n = 13 then ['\\', 'r']
  else if c = '\x27' then ['\\', '\x27']
  else if c = '\\' then ['\\', '\\']
  else if n < 32 ∨ (127 ≤ n ∧ n ≤ 160) ∨ n = 173 then
    ['\\', 'u', '\x7b'] ++ (Nat.toDigits 16 n) ++ ['\x7d']
  else [c]

/-- The wording of an error. A bad byte is shown as the character with its code point. -/
def Error.message : Error → String
  | .oddLength => "Odd number of digits"
  | .badDigit byte index =>
    "Invalid character '" ++ String.ofList (quoteChar (Char.ofNat byte.toNat)) ++
      "' at position " ++ toString index

end Text.Hex

def Octets.ParseError.message : Octets.ParseError → String
  | .notHex cause => "invalid hex: " ++ cause.message
  | .wrongLength expected actual =>
    "invalid length: expected " ++ toString expected ++ " bytes, got " ++ toString actual

end UptimeIntake
