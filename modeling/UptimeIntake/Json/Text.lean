import UptimeIntake.Json.Value
import UptimeIntake.Text.Hex

/-!
# JSON strings

What the bytes between two quotes denote, and how a string is written. Reading resolves escapes
and refuses lone surrogates and bytes that are not UTF-8; writing escapes the quote, the
backslash and the characters below U+0020 and nothing else.
-/

set_option autoImplicit false

namespace UptimeIntake.Json.Text

open UptimeIntake.Text

/-! ## Reading -/

/-- The byte that a one-letter escape stands for. -/
def simpleEscape? (b : UInt8) : Option UInt8 :=
  let c := Char.ofNat b.toNat
  if c = '\"' ∨ c = '\\' ∨ c = '/' then some b
  else if c = 'b' then some 8
  else if c = 'f' then some 12
  else if c = 'n' then some 10
  else if c = 'r' then some 13
  else if c = 't' then some 9
  else none

/-- The number that four hexadecimal digits write. -/
def unit? (a b c d : UInt8) : Option Nat :=
  match Hex.value? a, Hex.value? b, Hex.value? c, Hex.value? d with
  | some w, some x, some y, some z => some (w * 4096 + x * 256 + y * 16 + z)
  | _, _, _, _ => none

def isHighSurrogate (n : Nat) : Bool :=
  0xD800 ≤ n && n < 0xDC00

def isLowSurrogate (n : Nat) : Bool :=
  0xDC00 ≤ n && n < 0xE000

def pairValue (high low : Nat) : Nat :=
  0x10000 + (high - 0xD800) * 0x400 + (low - 0xDC00)

/-- The bytes of the character with code point `n`, last first. -/
def scalarReversed (n : Nat) : Bytes :=
  (String.utf8EncodeChar (Char.ofNat n)).reverse

/-- Resolves the escapes behind the bytes already resolved, which `seen` holds last first. -/
def unescapeFrom (seen : Bytes) : Bytes → Option Bytes
  | [] => some seen.reverse
  | b :: rest =>
    if b ≠ 0x5C then unescapeFrom (b :: seen) rest
    else
      match rest with
      | [] => none
      | e :: rest =>
        match simpleEscape? e with
        | some byte => unescapeFrom (byte :: seen) rest
        | none =>
          if e ≠ 0x75 then none
          else
            match rest with
            | h₁ :: h₂ :: h₃ :: h₄ :: rest =>
              match unit? h₁ h₂ h₃ h₄ with
              | none => none
              | some high =>
                if isLowSurrogate high then none
                else if isHighSurrogate high then
                  match rest with
                  | s :: u :: l₁ :: l₂ :: l₃ :: l₄ :: rest =>
                    if s = 0x5C ∧ u = 0x75 then
                      match unit? l₁ l₂ l₃ l₄ with
                      | none => none
                      | some low =>
                        if isLowSurrogate low then
                          unescapeFrom (scalarReversed (pairValue high low) ++ seen) rest
                        else none
                    else none
                  | _ => none
                else unescapeFrom (scalarReversed high ++ seen) rest
            | _ => none

/-- The bytes between quotes with their escapes resolved. -/
def unescape (raw : Bytes) : Option Bytes :=
  unescapeFrom [] raw

/-- The string that the bytes between quotes denote. -/
def read? (raw : Bytes) : Option String :=
  (unescape raw).bind Utf8.decodeString

/-! ## Writing -/

/-- A character as written between quotes. -/
def escapeChar (c : Char) : List Char :=
  let n := c.toNat
  if c = '\"' then ['\\', '\"']
  else if c = '\\' then ['\\', '\\']
  else if n = 8 then ['\\', 'b']
  else if n = 9 then ['\\', 't']
  else if n = 10 then ['\\', 'n']
  else if n = 12 then ['\\', 'f']
  else if n = 13 then ['\\', 'r']
  else if n < 0x20 then ['\\', 'u', '0', '0', Hex.digit (n / 16), Hex.digit (n % 16)]
  else [c]

def quote (cs : List Char) : List Char :=
  '\"' :: cs.flatMap escapeChar ++ ['\"']

def quoteString (s : String) : List Char :=
  quote s.toList

end UptimeIntake.Json.Text
