import UptimeIntake.Hash.Words
import UptimeIntake.Text.Blank

/-!
# SHA-512

The hash of a byte string as 64 bytes. The message is padded by a byte `0x80`, zeros, and its
length in bits as sixteen big-endian bytes, to a multiple of 128 bytes.
-/

set_option autoImplicit false

namespace UptimeIntake.Hash.Sha512

def roundConstants : Vector UInt64 80 :=
  #v[0x428a2f98d728ae22, 0x7137449123ef65cd, 0xb5c0fbcfec4d3b2f, 0xe9b5dba58189dbbc,
     0x3956c25bf348b538, 0x59f111f1b605d019, 0x923f82a4af194f9b, 0xab1c5ed5da6d8118,
     0xd807aa98a3030242, 0x12835b0145706fbe, 0x243185be4ee4b28c, 0x550c7dc3d5ffb4e2,
     0x72be5d74f27b896f, 0x80deb1fe3b1696b1, 0x9bdc06a725c71235, 0xc19bf174cf692694,
     0xe49b69c19ef14ad2, 0xefbe4786384f25e3, 0x0fc19dc68b8cd5b5, 0x240ca1cc77ac9c65,
     0x2de92c6f592b0275, 0x4a7484aa6ea6e483, 0x5cb0a9dcbd41fbd4, 0x76f988da831153b5,
     0x983e5152ee66dfab, 0xa831c66d2db43210, 0xb00327c898fb213f, 0xbf597fc7beef0ee4,
     0xc6e00bf33da88fc2, 0xd5a79147930aa725, 0x06ca6351e003826f, 0x142929670a0e6e70,
     0x27b70a8546d22ffc, 0x2e1b21385c26c926, 0x4d2c6dfc5ac42aed, 0x53380d139d95b3df,
     0x650a73548baf63de, 0x766a0abb3c77b2a8, 0x81c2c92e47edaee6, 0x92722c851482353b,
     0xa2bfe8a14cf10364, 0xa81a664bbc423001, 0xc24b8b70d0f89791, 0xc76c51a30654be30,
     0xd192e819d6ef5218, 0xd69906245565a910, 0xf40e35855771202a, 0x106aa07032bbd1b8,
     0x19a4c116b8d2d0c8, 0x1e376c085141ab53, 0x2748774cdf8eeb99, 0x34b0bcb5e19b48a8,
     0x391c0cb3c5c95a63, 0x4ed8aa4ae3418acb, 0x5b9cca4f7763e373, 0x682e6ff3d6b2b8a3,
     0x748f82ee5defb2fc, 0x78a5636f43172f60, 0x84c87814a1f0ab72, 0x8cc702081a6439ec,
     0x90befffa23631e28, 0xa4506cebde82bde9, 0xbef9a3f7b2c67915, 0xc67178f2e372532b,
     0xca273eceea26619c, 0xd186b8c721c0c207, 0xeada7dd6cde0eb1e, 0xf57d4f7fee6ed178,
     0x06f067aa72176fba, 0x0a637dc5a2c898a6, 0x113f9804bef90dae, 0x1b710b35131c471b,
     0x28db77f523047d84, 0x32caab7b40c72493, 0x3c9ebe0a15c9bebc, 0x431d67c49c100d4c,
     0x4cc5d4becb3e42b6, 0x597f299cfc657e2a, 0x5fcb6fab3ad6faec, 0x6c44198c4a475817]

/-- The padding behind a message of `size` bytes. -/
def padding (size : Nat) : Bytes :=
  let zeros := (239 - size % 128) % 128
  (0x80 : UInt8) :: List.replicate zeros 0 ++
    (List.range 16).map fun i => UInt8.ofNat ((8 * size) >>> (8 * (15 - i)))

/-- The big-endian word of the eight bytes at `offset`. -/
def wordAt (data : Array UInt8) (offset : Nat) : UInt64 :=
  (List.range 8).foldl (fun word k => (word <<< 8) ||| (data.getD (offset + k) 0).toUInt64) 0

/-- The 80 scheduled words of the block at `offset`. -/
def schedule (data : Array UInt8) (offset : Nat) : Array UInt64 :=
  (List.range 64).foldl
    (fun words t =>
      let w₁₅ := words.getD (t + 1) 0
      let w₂ := words.getD (t + 14) 0
      let s₀ := rotateRight w₁₅ 1 ^^^ rotateRight w₁₅ 8 ^^^ (w₁₅ >>> 7)
      let s₁ := rotateRight w₂ 19 ^^^ rotateRight w₂ 61 ^^^ (w₂ >>> 6)
      words.push (words.getD t 0 + s₀ + words.getD (t + 9) 0 + s₁))
    (Array.ofFn fun j : Fin 16 => wordAt data (offset + 8 * j.val))

/-- One round with the scheduled word `w` and the constant `k`. -/
def round (v : Vector UInt64 8) (k w : UInt64) : Vector UInt64 8 :=
  let s₁ := rotateRight (v.get 4) 14 ^^^ rotateRight (v.get 4) 18 ^^^ rotateRight (v.get 4) 41
  let choice := (v.get 4 &&& v.get 5) ^^^ (~~~ v.get 4 &&& v.get 6)
  let t₁ := v.get 7 + s₁ + choice + k + w
  let s₀ := rotateRight (v.get 0) 28 ^^^ rotateRight (v.get 0) 34 ^^^ rotateRight (v.get 0) 39
  let majority := (v.get 0 &&& v.get 1) ^^^ (v.get 0 &&& v.get 2) ^^^ (v.get 1 &&& v.get 2)
  #v[t₁ + (s₀ + majority), v.get 0, v.get 1, v.get 2, v.get 3 + t₁, v.get 4, v.get 5, v.get 6]

def compress (data : Array UInt8) (chain : Vector UInt64 8) (offset : Nat) : Vector UInt64 8 :=
  let words := schedule data offset
  let v := (List.finRange 80).foldl
    (fun v t => round v (roundConstants.get t) (words.getD t.val 0)) chain
  Vector.ofFn fun i : Fin 8 => chain.get i + v.get i

/-- The SHA-512 hash of the bytes. -/
def digest (bytes : Bytes) : Bytes :=
  let data := (bytes ++ padding bytes.length).toArray
  let chain := (List.range (data.size / 128)).foldl (fun chain i => compress data chain (128 * i)) iv
  List.ofFn fun i : Fin 64 =>
    (chain[i.val / 8] >>> UInt64.ofNat (8 * (7 - i.val % 8))).toUInt8

end UptimeIntake.Hash.Sha512
