import UptimeIntake.Hash.Words
import UptimeIntake.Octets

/-!
# BLAKE2b with a 256-bit digest

Unkeyed, with the digest length 32 in the parameter word. Input is taken in blocks of 128 bytes;
the last block, which may be short or empty, is padded with zeros and compressed with the
finalisation flag.
-/

set_option autoImplicit false

namespace UptimeIntake.Hash.Blake2b

/-- The order in which the ten distinct rounds take the message words. -/
def sigma : Vector (Vector (Fin 16) 16) 10 :=
  #v[#v[0, 1, 2, 3, 4, 5, 6, 7, 8, 9, 10, 11, 12, 13, 14, 15],
     #v[14, 10, 4, 8, 9, 15, 13, 6, 1, 12, 0, 2, 11, 7, 5, 3],
     #v[11, 8, 12, 0, 5, 2, 15, 13, 10, 14, 3, 6, 7, 1, 9, 4],
     #v[7, 9, 3, 1, 13, 12, 11, 14, 2, 6, 5, 10, 4, 0, 15, 8],
     #v[9, 0, 5, 7, 2, 4, 10, 15, 14, 1, 11, 12, 6, 8, 3, 13],
     #v[2, 12, 6, 10, 0, 11, 8, 3, 4, 13, 7, 5, 15, 14, 1, 9],
     #v[12, 5, 1, 15, 14, 13, 4, 10, 0, 7, 6, 3, 9, 2, 8, 11],
     #v[13, 11, 7, 14, 12, 1, 3, 9, 5, 0, 15, 4, 8, 6, 2, 10],
     #v[6, 15, 14, 9, 11, 3, 0, 8, 12, 2, 13, 7, 1, 4, 10, 5],
     #v[10, 2, 8, 4, 7, 6, 1, 5, 15, 11, 9, 14, 3, 12, 13, 0]]

/-- The steps of a round: four columns, then four diagonals. -/
def lanes : Vector (Fin 16 × Fin 16 × Fin 16 × Fin 16) 8 :=
  #v[(0, 4, 8, 12), (1, 5, 9, 13), (2, 6, 10, 14), (3, 7, 11, 15),
     (0, 5, 10, 15), (1, 6, 11, 12), (2, 7, 8, 13), (3, 4, 9, 14)]

/-- Mixes two message words into the four words of a lane. -/
def mix (v : Vector UInt64 16) (lane : Fin 16 × Fin 16 × Fin 16 × Fin 16) (x y : UInt64) :
    Vector UInt64 16 :=
  let (a, b, c, d) := lane
  let va := v[a] + v[b] + x
  let vd := rotateRight (v[d] ^^^ va) 32
  let vc := v[c] + vd
  let vb := rotateRight (v[b] ^^^ vc) 24
  let va := va + vb + y
  let vd := rotateRight (vd ^^^ va) 16
  let vc := vc + vd
  let vb := rotateRight (vb ^^^ vc) 63
  (((v.set a va).set b vb).set c vc).set d vd

/-- One round under the message order `order`. -/
def round (message : Vector UInt64 16) (order : Vector (Fin 16) 16) (v : Vector UInt64 16) :
    Vector UInt64 16 :=
  (List.finRange 8).foldl
    (fun v i =>
      mix v (lanes.get i) (message.get order[2 * i.val]) (message.get order[2 * i.val + 1])) v

/-- Compresses a block into the chain. `count` is the number of input bytes up to its end. -/
def compress (chain : Vector UInt64 8) (message : Vector UInt64 16) (count : Nat)
    (isLast : Bool) : Vector UInt64 8 :=
  let v := chain ++ iv
  let v := v.set 12 (v.get 12 ^^^ UInt64.ofNat count)
  let v := v.set 13 (v.get 13 ^^^ UInt64.ofNat (count / UInt64.size))
  let v := if isLast then v.set 14 (~~~ v.get 14) else v
  let v := (List.range 12).foldl
    (fun v r => round message (sigma.get ⟨r % 10, Nat.mod_lt r (by decide)⟩) v) v
  Vector.ofFn fun i : Fin 8 => chain.get i ^^^ v.get (i.castAdd 8) ^^^ v.get (i.addNat 8)

/-- The little-endian word of the eight bytes at `offset`; bytes behind the end are zero. -/
def wordAt (data : Array UInt8) (offset : Nat) : UInt64 :=
  (List.range 8).foldr (fun k word => (word <<< 8) ||| (data.getD (offset + k) 0).toUInt64) 0

/-- The number of blocks of an input of `size` bytes; an empty input has one. -/
def blockCount (size : Nat) : Nat :=
  max 1 ((size + 127) / 128)

/-- The final chain of an input. -/
def chain (data : Array UInt8) : Vector UInt64 8 :=
  let blocks := blockCount data.size
  (List.range blocks).foldl
    (fun chain i =>
      compress chain (Vector.ofFn fun j : Fin 16 => wordAt data (128 * i + 8 * j.val))
        (min (128 * (i + 1)) data.size) (i + 1 == blocks))
    (iv.set 0 (iv[0] ^^^ 0x01010020))

/-- The BLAKE2b-256 hash of the bytes. -/
def digest (bytes : Bytes) : Digest :=
  let words := chain bytes.toArray
  Octets.ofFn fun i : Fin 32 =>
    (words[i.val / 8] >>> UInt64.ofNat (8 * (i.val % 8))).toUInt8

/-- The digest of the text `abc`. -/
example : (digest [0x61, 0x62, 0x63]).toHexString =
    "bddd813c634239723171ef3fee98579b94964e3bb1cb3e427262c8c068d52319" := by
  decide +kernel

end UptimeIntake.Hash.Blake2b
