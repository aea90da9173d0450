import UptimeIntake.Octets
import UptimeIntake.Text.Split

/-!
# Whitelists

The set of submitters that are let in, and the document that lists them: one entry a line, the
key in the first of the cells separated by commas. Blank lines and comments are no entries, and
entries that are no keys are skipped. A document without a single key is refused.
-/

set_option autoImplicit false

namespace UptimeIntake

open Text

structure Whitelist where
  keys : List SubmitterKey
  nodup : keys.Nodup
  deriving DecidableEq

namespace Whitelist

def empty : Whitelist := ⟨[], List.nodup_nil⟩

def insert (key : SubmitterKey) (w : Whitelist) : Whitelist :=
  if h : key ∈ w.keys then w else ⟨key :: w.keys, List.nodup_cons.2 ⟨h, w.nodup⟩⟩

def ofList (keys : List SubmitterKey) : Whitelist :=
  keys.foldr insert empty

def size (w : Whitelist) : Nat :=
  w.keys.length

def contains (w : Whitelist) (key : SubmitterKey) : Bool :=
  w.keys.contains key

instance : Membership SubmitterKey Whitelist := ⟨fun w key => key ∈ w.keys⟩

end Whitelist

inductive WhitelistError where
  | transport (detail : String)
  | parse (detail : String)
  | notConfigured
  deriving DecidableEq, Repr

def WhitelistError.message : WhitelistError → String
  | transport detail => "whitelist transport error: " ++ detail
  | parse detail => "whitelist parse error: " ++ detail
  | notConfigured => "whitelist source not configured"

namespace WhitelistDocument

/-- The trimmed lines that are entries. White space includes the carriage return that may stand
before a line feed. -/
def entries (document : List Char) : List (List Char) :=
  ((split '\n' document).map trim).filter fun line =>
    !line.isEmpty && line.head? != some '#'

/-- The first cell of an entry, without white space around it and then without the double quotes
around it. -/
def cell (entry : List Char) : List Char :=
  dropEndWhile (· = '\"') ((trim (entry.takeWhile (· ≠ ','))).dropWhile (· = '\"'))

def key? (entry : List Char) : Option SubmitterKey :=
  Octets.parse? 32 (cell entry)

def keys (document : List Char) : List SubmitterKey :=
  (entries document).filterMap key?

def read (document : String) : Except WhitelistError Whitelist :=
  let found := keys document.toList
  if found.isEmpty then
    .error (.parse
      ("no submitter keys in " ++ toString (entries document.toList).length ++ " entries"))
  else .ok (.ofList found)

end WhitelistDocument

end UptimeIntake
