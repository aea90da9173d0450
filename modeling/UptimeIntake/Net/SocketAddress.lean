import UptimeIntake.Net.IpAddress

/-!
# Socket addresses

An IP address with a port, and for IPv6 a scope. Reading takes the forms `a.b.c.d:port` and
`[groups%scope]:port`, the numbers with leading zeros or not; writing leaves out scope zero.
-/

set_option autoImplicit false

namespace UptimeIntake

open Text

structure SocketAddress where
  ip : IpAddress
  port : UInt16
  /-- The scope of an IPv6 address. -/
  scope : UInt32 := 0
  deriving DecidableEq

namespace SocketAddress

def write (a : SocketAddress) : List Char :=
  let port := ':' :: Decimal.digits a.port.toNat
  match a.ip with
  | .v4 .. => a.ip.write ++ port
  | .v6 _ =>
    let scope := if a.scope = 0 then [] else '%' :: Decimal.digits a.scope.toNat
    '[' :: a.ip.write ++ scope ++ ']' :: port

/-- Reads a number of ASCII digits that is at most `bound`. -/
def number? (bound : Nat) (cs : List Char) : Option (Nat × List Char) :=
  let run := cs.takeWhile Char.isDigit
  if run ≠ [] ∧ Decimal.value run ≤ bound then some (Decimal.value run, cs.drop run.length)
  else none

/-- Reads a colon and a port, which end the text. -/
def port? : List Char → Option UInt16
  | ':' :: cs =>
    match number? (UInt16.size - 1) cs with
    | some (n, []) => some (UInt16.ofNat n)
    | _ => none
  | _ => none

def scope? : List Char → Option (UInt32 × List Char)
  | '%' :: cs => (number? (UInt32.size - 1) cs).map fun (n, rest) => (UInt32.ofNat n, rest)
  | cs => some (0, cs)

def parse? : List Char → Option SocketAddress
  | '[' :: cs => do
    let (ip, cs) ← IpAddress.readV6? cs
    let (scope, cs) ← scope? cs
    match cs with
    | ']' :: cs => return { ip, port := ← port? cs, scope }
    | _ => none
  | cs => do
    let ((a, b, c, d), cs) ← IpAddress.dotted? cs
    return { ip := .v4 a b c d, port := ← port? cs }

end SocketAddress

end UptimeIntake
