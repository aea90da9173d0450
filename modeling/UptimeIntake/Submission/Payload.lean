import UptimeIntake.Hash.Blake2b
import UptimeIntake.Submission.Request

/-!
# Sign payload and metadata

The two JSON documents made from a submission: the payload whose hash the submitter signs, and
the metadata kept for each accepted submission. Both are compact, their members stand in a fixed
order, and unset members are left out. Times are given in UTC to the second.
-/

set_option autoImplicit false

namespace UptimeIntake

open Text

/-- A member of a compact JSON object: its name and its value as written. -/
abbrev Member := String × List Char

namespace Member

def text (name : String) (value : List Char) : Member :=
  (name, Json.Text.quote value)

def write (m : Member) : List Char :=
  Json.Text.quoteString m.1 ++ ':' :: m.2

/-- Members as written behind another member. -/
def writeFurther (members : List Member) : List Char :=
  members.flatMap fun m => ',' :: m.write

/-- A compact object as written. -/
def writeObject : List Member → List Char
  | [] => ['\x7b', '\x7d']
  | m :: rest => '\x7b' :: m.write ++ writeFurther rest ++ ['\x7d']

end Member

namespace SubmissionData

def snarkWorkMember (d : SubmissionData) : List Member :=
  d.snarkWork.toList.map fun bytes => .text "snark_work" (Base64.encode bytes)

def controlPortMember (d : SubmissionData) : List Member :=
  d.controlPort.toList.map fun port => ("graphql_control_port", Decimal.digits port.toNat)

def commitMember (d : SubmissionData) : List Member :=
  d.commitSha.toList.map fun sha => .text "built_with_commit_sha" sha.toList

def signMembers (d : SubmissionData) : List Member :=
  [.text "block" (Base64.encode d.block),
   .text "created_at" (Rfc3339.write d.createdAt),
   .text "peer_id" d.peerId.toList] ++
    d.snarkWorkMember ++ d.controlPortMember ++ d.commitMember

/-- The text that the submitter hashes and signs. -/
def signText (d : SubmissionData) : List Char :=
  Member.writeObject d.signMembers

def signPayload (d : SubmissionData) : Bytes :=
  Utf8.encode d.signText

def metaMembers (d : SubmissionData) (submitter : SubmitterKey) (remoteAddr blockHash : String) :
    List Member :=
  [.text "created_at" (Rfc3339.write d.createdAt),
   .text "peer_id" d.peerId.toList] ++
    d.snarkWorkMember ++
    [.text "remote_addr" remoteAddr.toList,
     .text "submitter" submitter.toHex] ++
    d.controlPortMember ++ d.commitMember ++
    [.text "block_hash" blockHash.toList]

def metaText (d : SubmissionData) (submitter : SubmitterKey) (remoteAddr blockHash : String) :
    List Char :=
  Member.writeObject (d.metaMembers submitter remoteAddr blockHash)

def metadata (d : SubmissionData) (submitter : SubmitterKey) (remoteAddr blockHash : String) :
    Bytes :=
  Utf8.encode (d.metaText submitter remoteAddr blockHash)

def blockHash (d : SubmissionData) : String :=
  (Hash.Blake2b.digest d.block).toHexString

end SubmissionData

end UptimeIntake
