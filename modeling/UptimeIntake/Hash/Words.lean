/-!
# Words of 64 bits

What the hash functions on 64-bit words have in common: a rotation, and the words that their
chains start from.
-/

set_option autoImplicit false

namespace UptimeIntake.Hash

def rotateRight (x k : UInt64) : UInt64 :=
  (x >>> k) ||| (x <<< (64 - k))

/-- The words that a chain starts from: the first 64 bits of the fractional parts of the square
roots of the first eight primes. -/
def iv : Vector UInt64 8 :=
  #v[0x6a09e667f3bcc908, 0xbb67ae8584caa73b, 0x3c6ef372fe94f82b, 0xa54ff53a5f1d36f1,
     0x510e527fade682d1, 0x9b05688c2b3e6c1f, 0x1f83d9abfb41bd6b, 0x5be0cd19137e2179]

end UptimeIntake.Hash
