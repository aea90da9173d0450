import Std.Async.DNS
import Std.Async.TCP
import Std.Async.Timer
import UptimeIntake.Text.Decimal
import UptimeIntake.Text.Utf8

/-!
# Downloads

Fetches a document from an address that begins with `http://`. Nothing else is downloaded, and
whatever goes wrong is no document.
-/

set_option autoImplicit false

namespace UptimeIntake.Download

open Std.Async Text

structure Address where
  host : String
  port : UInt16
  path : String

/-- The address that a text writes, if it begins with `http://`. -/
def Address.parse? (s : String) : Option Address :=
  match s.toList with
  | 'h' :: 't' :: 't' :: 'p' :: ':' :: '/' :: '/' :: rest =>
    let authority := rest.takeWhile (· ≠ '/')
    let path := rest.dropWhile (· ≠ '/')
    let host := String.ofList (authority.takeWhile (· ≠ ':'))
    let path := if path.isEmpty then "/" else String.ofList path
    match authority.dropWhile (· ≠ ':') with
    | [] => some ⟨host, 80, path⟩
    | _ :: port => (Decimal.unsigned? 65535 port).map fun n => ⟨host, UInt16.ofNat n, path⟩
  | _ => none

def Address.request (a : Address) : String :=
  "GET " ++ a.path ++ " HTTP/1.0\r\nHost: " ++ a.host ++ "\r\nConnection: close\r\n\r\n"

/-- What follows the first blank line. -/
def body : List Char → List Char
  | [] => []
  | '\r' :: '\n' :: '\r' :: '\n' :: rest => rest
  | _ :: rest => body rest

/-- The document in a response, if the response is a success. -/
def document? (response : Bytes) : Option String :=
  (Utf8.decode response).bind fun cs =>
    match (cs.dropWhile (· ≠ ' ')).drop 1 with
    | '2' :: _ => some (String.ofList (body cs))
    | _ => none

/-- Receives until the connection is closed. -/
partial def receive (client : TCP.Socket.Client) (seen : ByteArray) : Async ByteArray := do
  match ← client.recv? 65536 with
  | none => return seen
  | some bytes => receive client (seen ++ bytes)

/-- Asks one machine for a document. -/
def fetchFrom (a : Address) (ip : Std.Net.IPAddr) : Async (Option String) := do
  let client ← TCP.Socket.Client.mk
  client.connect <| match ip with
    | .v4 addr => .v4 ⟨addr, a.port⟩
    | .v6 addr => .v6 ⟨addr, a.port⟩
  client.send a.request.toUTF8
  return document? (← receive client .empty).toList

def fetch (address : String) : Async (Option String) := do
  match Address.parse? address with
  | none => return none
  | some a =>
    match (← DNS.getAddrInfo a.host "").toList with
    | [] => return none
    | ip :: _ => fetchFrom a ip

/-- Downloads the document at an address within `timeout` milliseconds. -/
def run (timeout : Nat) (address : String) : IO (Option String) := do
  let bounded : Async (Option String) :=
    Async.race (fetch address) do
      Std.Async.sleep (.ofNat timeout)
      return none
  try bounded.block
  catch _ => return none

end UptimeIntake.Download
