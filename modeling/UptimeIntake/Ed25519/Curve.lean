import UptimeIntake.Octets

/-!
# The curve of Ed25519

The twisted Edwards curve `-x² + y² = 1 + d x² y²` over the field of `2²⁵⁵ - 19` elements, in
extended coordinates. Addition is complete: it needs no case for doubling, for the neutral
element or for points of small order.
-/

set_option autoImplicit false

namespace UptimeIntake.Ed25519

/-- The order of the field. -/
def p : Nat := Nat.pow 2 255 - 19

def groupOrder : Nat := Nat.pow 2 252 + 27742317777372353535851937790883648493

/-- The number that little-endian bytes write. -/
def littleEndian (bytes : Bytes) : Nat :=
  bytes.foldr (fun b n => n * 256 + b.toNat) 0

/-- The `count` low bytes of a number, little-endian. -/
def toLittleEndian (count n : Nat) : Bytes :=
  (List.range count).map fun i => UInt8.ofNat (n >>> (8 * i))

namespace Residue

def add (a b : Nat) : Nat := (a + b) % p

def sub (a b : Nat) : Nat := (a + (p - b % p)) % p

def mul (a b : Nat) : Nat := a * b % p

/-- A power with an exponent below `2 ^ 256`, by squaring from the high bit down. -/
def pow (a exponent : Nat) : Nat :=
  (List.range 256).foldl
    (fun acc i =>
      let square := mul acc acc
      if exponent.testBit (255 - i) then mul square a else square)
    1

/-- The inverse of a non-zero element; zero is sent to itself. -/
def inv (a : Nat) : Nat := pow a (p - 2)

/-- The curve constant `-121665 / 121666`. -/
def d : Nat := 37095705934669439343138083508754565189542113879843219016388785533085940283555

/-- A square root of `-1`. -/
def sqrtMinusOne : Nat :=
  19681161376707505956807079304988542015446066515923890162744021073123829784752

/-- The even square root of `u / v`, if there is one. -/
def sqrtRatio? (u v : Nat) : Option Nat :=
  let v₃ := mul (mul v v) v
  let r := mul (mul u v₃) (pow (mul u (mul (mul v₃ v₃) v)) ((p - 5) / 8))
  let check := mul v (mul r r)
  let root? :=
    if check = u % p then some r
    else if check = sub 0 u then some (mul r sqrtMinusOne)
    else none
  root?.map fun r => if r % 2 = 1 then sub 0 r else r

end Residue

/-- A point in extended coordinates: `x/z` and `y/z` are its affine coordinates and
`t = x y / z`. -/
structure Point where
  x : Nat
  y : Nat
  z : Nat
  t : Nat
  deriving Repr

namespace Point

open Residue

def zero : Point := ⟨0, 1, 1, 0⟩

def add (P Q : Point) : Point :=
  let a := mul (sub P.y P.x) (sub Q.y Q.x)
  let b := mul (Residue.add P.y P.x) (Residue.add Q.y Q.x)
  let c := mul (mul P.t (2 * d % p)) Q.t
  let e := mul (2 * P.z) Q.z
  let h := Residue.add b a
  let f := sub e c
  let g := Residue.add e c
  let k := sub b a
  ⟨mul k f, mul g h, mul f g, mul k h⟩

def neg (P : Point) : Point := ⟨sub 0 P.x, P.y, P.z, sub 0 P.t⟩

/-- The multiple of a point by a number below `2 ^ 256`, by doubling from the high bit down. -/
def smul (n : Nat) (P : Point) : Point :=
  (List.range 256).foldl
    (fun acc i =>
      let double := add acc acc
      if n.testBit (255 - i) then add double P else double)
    zero

def base : Point :=
  let x := 15112221349535400772501151409588531511454012693041857206046113283949847762202
  let y := 46316835694926478169428394003475163141307993866256225615783033603165251855960
  ⟨x, y, 1, mul x y⟩

/-- The 32 bytes of a point: its second coordinate, with the parity of the first in the top
bit. -/
def compress (P : Point) : Bytes :=
  let zInverse := inv P.z
  let x := mul P.x zInverse
  let y := mul P.y zInverse
  toLittleEndian 32 (y + (x % 2) * Nat.pow 2 255)

/-- The point that 32 bytes write. The second coordinate is taken modulo the field order, and
the top bit selects the parity of the first; it is ignored when the first is zero. -/
def decompress? (bytes : Bytes) : Option Point :=
  let n := littleEndian bytes
  let y := n % Nat.pow 2 255 % p
  let y₂ := mul y y
  (sqrtRatio? (sub y₂ 1) (Residue.add (mul d y₂) 1)).map fun root =>
    let x := if n.testBit 255 then sub 0 root else root
    ⟨x, y, 1, mul x y⟩

end Point

end UptimeIntake.Ed25519
