import UptimeIntake.Config.Basic
import UptimeIntake.Whitelist.Fetch

/-!
# Whitelist sources

Where a whitelist comes from: a local file or an address to download it from. What lies there is
looked up on every fetch.
-/

set_option autoImplicit false

namespace UptimeIntake

open Text

inductive WhitelistSource where
  | file (path : String)
  | url (address : String)
  deriving DecidableEq, Repr

namespace WhitelistSource

def describe : WhitelistSource → String
  | file path => "file:" ++ path
  | url address => address

/-- The configured source. An address goes before a file, and that a client can be built for it is
taken for granted. -/
def ofConfig (c : WhitelistConfig) : Except WhitelistError WhitelistSource :=
  match c.url, c.file with
  | some address, _ => .ok (.url address)
  | none, some path => .ok (.file path)
  | none, none => .error .notConfigured

/-- The whitelist in a document that could be had, if it could be had. -/
def readText (name : String) : Option String → FetchResult
  | none => .error (.transport name)
  | some document => WhitelistDocument.read document

/-- Fetches the whitelist once. A file must be UTF-8. -/
def fetch (contents : String → Option Bytes) (download : String → Option String) :
    WhitelistSource → FetchResult
  | file path => readText path ((contents path).bind Utf8.decodeString)
  | url address => readText address (download address)

end WhitelistSource

end UptimeIntake
