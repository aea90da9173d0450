import UptimeIntake.Octets
import UptimeIntake.Time.Rfc3339

/-!
# Storage paths

Where the objects of a submission are kept, in every destination alike: the metadata under the
day and the second in which the submission was received and its submitter, the block under its
hash.
-/

set_option autoImplicit false

namespace UptimeIntake

open Text

/-- The paths of the objects of one submission. -/
structure StoragePaths where
  metadata : String
  block : String
  deriving DecidableEq, Repr

namespace StoragePaths

def submissionsFolder : String := "submissions/"

def blocksFolder : String := "blocks/"

/-- The characters at the start that fill exactly `size` bytes, if some do. -/
def takeBytes? (size : Nat) : List Char → Option (List Char)
  | [] => if size = 0 then some [] else none
  | c :: cs =>
    if size = 0 then some []
    else if c.utf8Size ≤ size then (takeBytes? (size - c.utf8Size) cs).map (c :: ·)
    else none

/-- The day directory of a time text: its first ten bytes, or all of it where they are no whole
characters. -/
def day (submittedAt : List Char) : List Char :=
  (takeBytes? 10 submittedAt).getD submittedAt

def metadataPath (submittedAt : List Char) (submitter : SubmitterKey) : List Char :=
  submissionsFolder.toList ++ day submittedAt ++ '/' :: submittedAt ++ '-' :: submitter.toHex ++
    ".json".toList

def blockPath (blockHash : List Char) : List Char :=
  blocksFolder.toList ++ blockHash ++ ".dat".toList

def ofText (submittedAt blockHash : String) (submitter : SubmitterKey) : StoragePaths where
  metadata := String.ofList (metadataPath submittedAt.toList submitter)
  block := String.ofList (blockPath blockHash.toList)

def build (submittedAt : Instant) (blockHash : String) (submitter : SubmitterKey) :
    StoragePaths :=
  ofText (Rfc3339.writeString submittedAt) blockHash submitter

end StoragePaths

def isBlockPath (path : String) : Bool :=
  StoragePaths.blocksFolder.toList.isPrefixOf path.toList

end UptimeIntake
