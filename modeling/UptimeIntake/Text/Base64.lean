import UptimeIntake.Text.Blank

/-!
# Base64

The standard alphabet with mandatory padding. Three bytes become four characters; a last group
of one or two bytes is padded with `=`. Reading accepts exactly what writing produces: the
padding is there and nowhere else, and the bits it leaves over are zero.
-/

set_option autoImplicit false

namespace UptimeIntake.Text.Base64

/-- The character of a value below 64. -/
def char (n : Nat) : Char :=
  if n < 26 then Char.ofNat (65 + n)
  else if n < 52 then Char.ofNat (71 + n)
  else if n < 62 then Char.ofNat (n - 4)
  else if n = 62 then '+'
  else '/'

def value? (c : Char) : Option Nat :=
  let n := c.toNat
  if 65 ≤ n ∧ n ≤ 90 then some (n - 65)
  else if 97 ≤ n ∧ n ≤ 122 then some (n - 71)
  else if 48 ≤ n ∧ n ≤ 57 then some (n + 4)
  else if c = '+' then some 62
  else if c = '/' then some 63
  else none

/-- Writes the bytes behind the characters already written, which `seen` holds last first. -/
def encodeFrom (seen : List Char) : Bytes → List Char
  | [] => seen.reverse
  | [a] =>
    let n := a.toNat
    ('=' :: '=' :: char (n % 4 * 16) :: char (n / 4) :: seen).reverse
  | [a, b] =>
    let n := a.toNat * 256 + b.toNat
    ('=' :: char (n % 16 * 4) :: char (n / 16 % 64) :: char (n / 1024) :: seen).reverse
  | a :: b :: c :: rest =>
    let n := a.toNat * 65536 + b.toNat * 256 + c.toNat
    encodeFrom
      (char (n % 64) :: char (n / 64 % 64) :: char (n / 4096 % 64) :: char (n / 262144) :: seen)
      rest

def encode (bytes : Bytes) : List Char :=
  encodeFrom [] bytes

def encodeString (bytes : Bytes) : String :=
  String.ofList (encode bytes)

/-- The three bytes of a full group of four values. -/
def fullGroup (w x y z : Nat) : Bytes :=
  let n := w * 262144 + x * 4096 + y * 64 + z
  [UInt8.ofNat (n / 65536), UInt8.ofNat (n / 256 % 256), UInt8.ofNat (n % 256)]

/-- The bytes of a last group of four characters, which may be padded. -/
def lastGroup? (a b c d : Char) : Option Bytes :=
  match value? a, value? b with
  | some w, some x =>
    if d = '=' then
      if c = '=' then
        if x % 16 = 0 then some [UInt8.ofNat (w * 4 + x / 16)] else none
      else
        match value? c with
        | some y =>
          if y % 4 = 0 then
            let n := w * 1024 + x * 16 + y / 4
            some [UInt8.ofNat (n / 256), UInt8.ofNat (n % 256)]
          else none
        | none => none
    else
      match value? c, value? d with
      | some y, some z => some (fullGroup w x y z)
      | _, _ => none
  | _, _ => none

/-- Reads groups of four characters behind the bytes already read, which `seen` holds last
first. Only the last group may be padded. -/
def decodeFrom (seen : Bytes) : List Char → Option Bytes
  | [] => some seen.reverse
  | [a, b, c, d] => (lastGroup? a b c d).map fun bytes => (bytes.reverse ++ seen).reverse
  | a :: b :: c :: d :: rest =>
    match value? a, value? b, value? c, value? d with
    | some w, some x, some y, some z => decodeFrom ((fullGroup w x y z).reverse ++ seen) rest
    | _, _, _, _ => none
  | _ => none

def decode (text : List Char) : Option Bytes :=
  decodeFrom [] text

end UptimeIntake.Text.Base64
