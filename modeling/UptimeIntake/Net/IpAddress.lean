import UptimeIntake.Text.Decimal
import UptimeIntake.Text.Hex

/-!
# IP addresses

IPv4 and IPv6 addresses and their text. Reading takes dotted decimals without leading zeros, and
groups of up to four hexadecimal digits of which one run may be left out as `::`; the last two
groups may be dotted decimals. Writing is canonical: the first of the longest runs of two or more
zero groups is left out, and mapped IPv4 addresses are dotted.
-/

set_option autoImplicit false

namespace UptimeIntake

open Text

inductive IpAddress where
  /-- An IPv4 address by its bytes. -/
  | v4 (a b c d : UInt8)
  /-- An IPv6 address by its groups. -/
  | v6 (groups : Vector UInt16 8)
  deriving DecidableEq

namespace IpAddress

/-! ## Writing -/

def dotted (a b c d : UInt8) : List Char :=
  Decimal.digits a.toNat ++ '.' :: Decimal.digits b.toNat ++ '.' :: Decimal.digits c.toNat ++
    '.' :: Decimal.digits d.toNat

/-- A group in hexadecimal without leading zeros. -/
def group (g : UInt16) : List Char :=
  Nat.toDigits 16 g.toNat

def joinGroups : List UInt16 → List Char
  | [] => []
  | [g] => group g
  | g :: rest => group g ++ ':' :: joinGroups rest

/-- The length of the run of zeros at the start. -/
def zeroRun (groups : List UInt16) : Nat :=
  (groups.takeWhile (· = 0)).length

/-- The start and length of the first of the longest runs of zeros, counted from `index`. -/
def longestRun (index : Nat) : List UInt16 → Nat × Nat
  | [] => (index, 0)
  | g :: rest =>
    let later := longestRun (index + 1) rest
    let here := zeroRun (g :: rest)
    if later.2 ≤ here then (index, here) else later

def writeGroups (groups : List UInt16) : List Char :=
  let (start, size) := longestRun 0 groups
  if 1 < size then
    joinGroups (groups.take start) ++ ':' :: ':' :: joinGroups (groups.drop (start + size))
  else joinGroups groups

def write : IpAddress → List Char
  | v4 a b c d => dotted a b c d
  | v6 groups =>
    match groups.toList with
    | [0, 0, 0, 0, 0, 0xFFFF, high, low] =>
      "::ffff:".toList ++
        dotted (high >>> 8).toUInt8 high.toUInt8 (low >>> 8).toUInt8 low.toUInt8
    | list => writeGroups list

/-! ## Reading -/

/-- Reads a decimal byte of at most three digits without leading zeros. -/
def byte? (cs : List Char) : Option (UInt8 × List Char) :=
  let (run, rest) := Decimal.split 4 cs
  let n := Decimal.value run
  if 1 ≤ run.length ∧ run.length ≤ 3 ∧ ¬(run.head? = some '0' ∧ 1 < run.length) ∧ n ≤ 255 then
    some (UInt8.ofNat n, rest)
  else none

/-- Reads a dot and a decimal byte. -/
def dotByte? : List Char → Option (UInt8 × List Char)
  | '.' :: cs => byte? cs
  | _ => none

def dotted? (cs : List Char) : Option ((UInt8 × UInt8 × UInt8 × UInt8) × List Char) := do
  let (a, cs) ← byte? cs
  let (b, cs) ← dotByte? cs
  let (c, cs) ← dotByte? cs
  let (d, cs) ← dotByte? cs
  return ((a, b, c, d), cs)

def hexValue? (c : Char) : Option Nat :=
  if c.toNat < 128 then Hex.value? (UInt8.ofNat c.toNat) else none

/-- Reads a group of one to four hexadecimal digits; a fifth digit is no part of any group. -/
def group? (cs : List Char) : Option (UInt16 × List Char) :=
  let run := cs.takeWhile fun c => (hexValue? c).isSome
  if 1 ≤ run.length ∧ run.length ≤ 4 then
    some (UInt16.ofNat (run.foldl (fun n c => n * 16 + (hexValue? c).getD 0) 0),
      cs.drop run.length)
  else none

/-- Two bytes as a group. -/
def pair (a b : UInt8) : UInt16 :=
  UInt16.ofNat (a.toNat * 256 + b.toNat)

/-- What stands before a group: nothing before the first, else a colon. -/
def lead? (isFirst : Bool) (cs : List Char) : Option (List Char) :=
  if isFirst then some cs
  else
    match cs with
    | ':' :: rest => some rest
    | _ => none

/-- Reads up to `limit` groups between colons, as far as they go. Where two are left they may be
dotted decimals, which end the groups; the flag says so. -/
def groups (isFirst : Bool) : Nat → List Char → List UInt16 × Bool × List Char
  | 0, cs => ([], false, cs)
  | limit + 1, cs =>
    match lead? isFirst cs with
    | none => ([], false, cs)
    | some ahead =>
      match if limit = 0 then none else dotted? ahead with
      | some ((a, b, c, d), rest) => ([pair a b, pair c d], true, rest)
      | none =>
        match group? ahead with
        | none => ([], false, cs)
        | some (g, rest) =>
          let (more, isDotted, rest) := groups false limit rest
          (g :: more, isDotted, rest)

/-- The IPv6 address with eight groups. -/
def ofGroups? (list : List UInt16) : Option IpAddress :=
  if h : list.length = 8 then some (v6 ⟨list.toArray, by simpa using h⟩) else none

def readV6? (cs : List Char) : Option (IpAddress × List Char) :=
  let (head, isDotted, rest) := groups true 8 cs
  if head.length = 8 then (ofGroups? head).map fun address => (address, rest)
  else if isDotted then none
  else
    match rest with
    | ':' :: ':' :: rest =>
      let (tail, _, rest) := groups true (7 - head.length) rest
      let zeros := List.replicate (8 - head.length - tail.length) 0
      (ofGroups? (head ++ zeros ++ tail)).map fun address => (address, rest)
    | _ => none

def parse? (text : List Char) : Option IpAddress :=
  match dotted? text with
  | some ((a, b, c, d), rest) =>
    if rest.isEmpty then some (v4 a b c d) else none
  | none =>
    match readV6? text with
    | some (address, rest) => if rest.isEmpty then some address else none
    | none => none

end IpAddress

end UptimeIntake
