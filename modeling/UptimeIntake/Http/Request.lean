import UptimeIntake.Environment
import UptimeIntake.Net.SocketAddress
import UptimeIntake.Text.Utf8

/-!
# HTTP requests

A request as the service sees it: method, target, headers in order, the parts in which the body
arrives, and the address of the peer.
-/

set_option autoImplicit false

namespace UptimeIntake

open Text

inductive BodyPart where
  /-- Bytes, after a wait in milliseconds. -/
  | chunk (delay : Nat) (bytes : Bytes)
  /-- The body breaks off. -/
  | broken
  deriving DecidableEq, Repr

structure HttpRequest where
  method : String
  target : String
  headers : List (String × Bytes)
  body : List BodyPart
  peer : Option SocketAddress

namespace HttpRequest

/-- A header name in lower case. -/
def lowerName (name : String) : List Char :=
  name.toList.map Environment.lower

/-- The value of the first header of a name, given in lower case. -/
def header? (r : HttpRequest) (name : String) : Option Bytes :=
  (r.headers.find? fun header => lowerName header.1 = name.toList).map (·.2)

/-- The byte is visible ASCII, a space or a tab. -/
def isVisible (b : UInt8) : Bool :=
  b = 9 || (32 ≤ b && b < 127)

/-- The text of a header value, if all its bytes are visible. -/
def visible? (value : Bytes) : Option (List Char) :=
  if value.all isVisible then some (value.map fun b => Char.ofNat b.toNat) else none

/-- The path behind a scheme and an authority: what follows up to the first slash is skipped. -/
def pathBehindAuthority (cs : List Char) : List Char :=
  match cs.dropWhile (· ≠ '/') with
  | [] => ['/']
  | path => path

/-- The path of a target that is neither query nor fragment. An absolute target without path has
the path of the root; a target that is neither absolute nor begins with a slash has no path. -/
def pathOf (cs : List Char) : List Char :=
  if cs.head? = some '/' then cs
  else
    match cs.dropWhile (· ≠ ':') with
    | ':' :: '/' :: '/' :: rest => pathBehindAuthority rest
    | _ => []

def path (r : HttpRequest) : List Char :=
  pathOf (r.target.toList.takeWhile fun c => c ≠ '?' && c ≠ '#')

/-- The first address that a forwarding header names. -/
def forwarded? (r : HttpRequest) : Option (List Char) :=
  (((r.header? "x-forwarded-for").bind visible?).map fun cs =>
    trim (cs.takeWhile (· ≠ ','))).filter fun cs => !cs.isEmpty

/-- Where the request came from: as forwarded, else the peer. -/
def remoteAddr (r : HttpRequest) : String :=
  match r.forwarded?, r.peer with
  | some cs, _ => String.ofList cs
  | none, some peer => String.ofList peer.write
  | none, none => "unknown"

end HttpRequest

end UptimeIntake
