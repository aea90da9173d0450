import UptimeIntake.Text.Blank

/-!
# UTF-8

Text as bytes. `encode` writes each character in its one to four bytes; `decode` accepts
exactly what `encode` writes: no overlong form, no surrogate, nothing above U+10FFFF.
-/

set_option autoImplicit false

namespace UptimeIntake.Text.Utf8

def encode (cs : List Char) : Bytes :=
  cs.flatMap String.utf8EncodeChar

def encodeString (s : String) : Bytes :=
  encode s.toList

/-- The six payload bits of a continuation byte. -/
def continuation? (b : UInt8) : Option Nat :=
  if 0x80 ≤ b.toNat ∧ b.toNat < 0xC0 then some (b.toNat - 0x80) else none

/-- The character with code point `n`, if there is one at or above `least`. The bound refuses
forms longer than needed. -/
def scalar? (least n : Nat) : Option Char :=
  if least ≤ n ∧ n.isValidChar then some (Char.ofNat n) else none

def two? (b₀ b₁ : UInt8) : Option Char :=
  if 0xC0 ≤ b₀.toNat ∧ b₀.toNat < 0xE0 then
    (continuation? b₁).bind fun x => scalar? 0x80 ((b₀.toNat - 0xC0) * 64 + x)
  else none

def three? (b₀ b₁ b₂ : UInt8) : Option Char :=
  if 0xE0 ≤ b₀.toNat ∧ b₀.toNat < 0xF0 then
    (continuation? b₁).bind fun x => (continuation? b₂).bind fun y =>
      scalar? 0x800 ((b₀.toNat - 0xE0) * 4096 + x * 64 + y)
  else none

def four? (b₀ b₁ b₂ b₃ : UInt8) : Option Char :=
  if 0xF0 ≤ b₀.toNat ∧ b₀.toNat < 0xF8 then
    (continuation? b₁).bind fun x => (continuation? b₂).bind fun y => (continuation? b₃).bind fun z =>
      scalar? 0x10000 ((b₀.toNat - 0xF0) * 262144 + x * 4096 + y * 64 + z)
  else none

/-- Reads bytes behind the characters already read, which `seen` holds last first. The lead
byte decides the length of a form. -/
def decodeFrom (seen : List Char) : Bytes → Option (List Char)
  | [] => some seen.reverse
  | b₀ :: rest₀ =>
    if b₀.toNat < 0x80 then decodeFrom (Char.ofNat b₀.toNat :: seen) rest₀
    else
      match rest₀ with
      | [] => none
      | b₁ :: rest₁ =>
        if b₀.toNat < 0xE0 then
          match two? b₀ b₁ with
          | some c => decodeFrom (c :: seen) rest₁
          | none => none
        else
          match rest₁ with
          | [] => none
          | b₂ :: rest₂ =>
            if b₀.toNat < 0xF0 then
              match three? b₀ b₁ b₂ with
              | some c => decodeFrom (c :: seen) rest₂
              | none => none
            else
              match rest₂ with
              | [] => none
              | b₃ :: rest₃ =>
                match four? b₀ b₁ b₂ b₃ with
                | some c => decodeFrom (c :: seen) rest₃
                | none => none

def decode (bytes : Bytes) : Option (List Char) :=
  decodeFrom [] bytes

def decodeString (bytes : Bytes) : Option String :=
  (decode bytes).map String.ofList

end UptimeIntake.Text.Utf8
