import Mathlib.Data.List.Induction
import UptimeIntake.Proofs.Pipeline.Concurrent
import UptimeIntake.Proofs.Submission.SentTexts
import UptimeIntake.Storage.Memory

/-!
# What lies in the memory store

However many submissions are in flight and however their calls are interleaved, a stored block
lies under its own hash, and stored metadata are those of a submission that was let through and
whose block is there already. An answer that a block is missing may be out of date when the block
is written; it is then written once more in the same place.
-/

set_option autoImplicit false

namespace UptimeIntake

namespace MemoryStore

theorem get?_write (m : MemoryStore) (path other : String) (bytes : Bytes) :
    (m.write path bytes).get? other = if other = path then some bytes else m.get? other :=
  ObjectSet.get?_insert path other bytes m.objects

theorem checksExistence_store (name : String) : (store name).checksExistence = isBlockPath := rfl

private theorem contains_store (name path : String) (m : MemoryStore) :
    (store name).contains path m = (.ok (m.get? path).isSome, m) := rfl

theorem write_store (name path : String) (bytes : Bytes) (m : MemoryStore) :
    (store name).write path bytes m = (.ok (), m.write path bytes) := rfl

def Holds (m : MemoryStore) (path : String) : Prop :=
  (m.get? path).isSome

private theorem holds_write_self (m : MemoryStore) (path : String) (bytes : Bytes) :
    (m.write path bytes).Holds path := by
  rw [Holds, get?_write, if_pos rfl, Option.isSome_some]

/-- Nothing is ever removed. -/
theorem Holds.write {m : MemoryStore} {path : String} (held : m.Holds path) (written : String)
    (bytes : Bytes) : (m.write written bytes).Holds path := by
  rw [Holds, get?_write]
  split
  · rfl
  · exact held

end MemoryStore

/-! ## One save -/

/-- A save of a block and metadata in a store where nothing fails. The metadata are written only
when the block is known to be there, which `held` says. -/
inductive Saving.BlockFirst (block metadata : String × Bytes) : Bool → Saving → Prop where
  | finished {held : Bool} {report : DestinationReport} :
      BlockFirst block metadata held (.finished report)
  | lookUp {held : Bool} {next : Except StorageError Bool → Saving}
      (present : BlockFirst block metadata true (next (.ok true)))
      (missing : BlockFirst block metadata held (next (.ok false))) :
      BlockFirst block metadata held (.contains block.1 next)
  | writeBlock {held : Bool} {next : Except StorageError Unit → Saving}
      (rest : BlockFirst block metadata true (next (.ok ()))) :
      BlockFirst block metadata held (.write block.1 block.2 next)
  | writeMetadata {next : Except StorageError Unit → Saving}
      (rest : BlockFirst block metadata true (next (.ok ()))) :
      BlockFirst block metadata true (.write metadata.1 metadata.2 next)

private theorem Saving.blockFirst_ofObjects {checks : String → Bool}
    {block metadata : String × Bytes}
    (checked : checks block.1 = true) (unchecked : checks metadata.1 = false)
    (report : DestinationReport) :
    (ofObjects checks report [block, metadata]).BlockFirst block metadata false := by
  have behind (report : DestinationReport) :
      (ofObjects checks report [metadata]).BlockFirst block metadata true := by
    simp only [ofObjects, unchecked, Bool.false_eq_true, if_false]
    exact .writeMetadata .finished
  rw [ofObjects, if_pos checked]
  exact .lookUp (behind _) (.writeBlock (behind _))

namespace Pipeline

theorem block_paths (s : Submission) (now : Instant) :
    (paths s now).block =
      String.ofList (StoragePaths.blockPath (Hash.Blake2b.digest s.data.block).toHex) := by
  simp only [paths, StoragePaths.build, StoragePaths.ofText, SubmissionData.blockHash,
    Octets.toHexString, Text.Hex.encodeString, String.toList_ofList, Octets.toHex]

private theorem checksExistence_blockObject (name : String) (s : Submission) (now : Instant) :
    (MemoryStore.store name).checksExistence (blockObject s now).1 = true := by
  rw [MemoryStore.checksExistence_store]
  exact StoragePaths.isBlockPath_block now s.data.blockHash s.submitter

private theorem checksExistence_metadataObject (name : String) (s : Submission)
    (remoteAddr : String)
    (now : Instant) :
    (MemoryStore.store name).checksExistence (metadataObject s remoteAddr now).1 = false := by
  rw [MemoryStore.checksExistence_store]
  exact StoragePaths.isBlockPath_metadata now s.data.blockHash s.submitter

private theorem blockFirst_start (name : String) (s : Submission) (remoteAddr : String)
    (now : Instant) :
    (Saving.start (MemoryStore.store name) (objects s remoteAddr now)).BlockFirst
      (blockObject s now) (metadataObject s remoteAddr now) false := by
  rw [Saving.start, objects_eq]
  exact Saving.blockFirst_ofObjects (checksExistence_blockObject name s now)
    (checksExistence_metadataObject name s remoteAddr now) _

end Pipeline

/-! ## All saves -/

namespace Intake

open Pipeline (blockObject metadataObject)

/-- What may lie in the store: the blocks and the metadata of submissions that were let through, the
metadata beside an object in the place of the block. -/
inductive Filed (admitted : Call → Submission → Prop) (m : MemoryStore) : String × Bytes → Prop where
  | block {call : Call} {s : Submission} (letThrough : admitted call s) :
      Filed admitted m (blockObject s call.now)
  | metadata {call : Call} {s : Submission} (letThrough : admitted call s)
      (held : m.Holds (blockObject s call.now).1) :
      Filed admitted m (metadataObject s call.remoteAddr call.now)

/-- The save is that of a submission that was let through, and keeps its order. -/
def InFlight (admitted : Call → Submission → Prop) (m : MemoryStore) (save : OngoingSave) : Prop :=
  admitted save.call save.submission ∧ ∃ held,
    save.progress.BlockFirst (blockObject save.submission save.call.now)
      (metadataObject save.submission save.call.remoteAddr save.call.now) held ∧
    (held = true → m.Holds (blockObject save.submission save.call.now).1)

structure Sound (admitted : Call → Submission → Prop) (intake : Intake MemoryStore) : Prop where
  filed : ∀ {path bytes}, intake.state.get? path = some bytes →
    Filed admitted intake.state (path, bytes)
  inFlight : ∀ save ∈ intake.saves, InFlight admitted intake.state save

variable {admitted : Call → Submission → Prop} {m m' : MemoryStore}

theorem Filed.mono {wider : Call → Submission → Prop} {object : String × Bytes}
    (filed : Filed admitted m object) (still : ∀ call s, admitted call s → wider call s)
    (kept : ∀ path, m.Holds path → m'.Holds path) : Filed wider m' object := by
  cases filed with
  | block letThrough => exact .block (still _ _ letThrough)
  | metadata letThrough held => exact .metadata (still _ _ letThrough) (kept _ held)

theorem InFlight.mono {wider : Call → Submission → Prop} {save : OngoingSave}
    (inFlight : InFlight admitted m save) (still : ∀ call s, admitted call s → wider call s)
    (kept : ∀ path, m.Holds path → m'.Holds path) : InFlight wider m' save := by
  obtain ⟨letThrough, held, ordered, known⟩ := inFlight
  exact ⟨still _ _ letThrough, held, ordered, fun isHeld => kept _ (known isHeld)⟩

theorem Sound.mono {wider : Call → Submission → Prop} {intake : Intake MemoryStore}
    (sound : Sound admitted intake) (still : ∀ call s, admitted call s → wider call s) :
    Sound wider intake where
  filed found := (sound.filed found).mono still fun _ => id
  inFlight save member := (sound.inFlight save member).mono still fun _ => id

private theorem inFlight_start (name : String) {call : Call} {s : Submission}
    (letThrough : admitted call s) :
    InFlight admitted m ⟨call, s, Saving.start (MemoryStore.store name)
      (Pipeline.objects s call.remoteAddr call.now)⟩ := by
  have ordered := Pipeline.blockFirst_start name s call.remoteAddr call.now
  generalize Saving.start (MemoryStore.store name)
    (Pipeline.objects s call.remoteAddr call.now) = progress at ordered ⊢
  exact ⟨letThrough, false, ordered, fun isHeld => absurd isHeld Bool.false_ne_true⟩

/-- What a call of a save does: it leaves the store as it is, or files an object. -/
theorem InFlight.step {name : String} {save : OngoingSave} {progress : Saving}
    (inFlight : InFlight admitted m save)
    (stepped : save.progress.step? (MemoryStore.store name) m = some (progress, m')) :
    InFlight admitted m' { save with progress } ∧
      (m' = m ∨ ∃ object, Filed admitted m object ∧ m' = m.write object.1 object.2) := by
  obtain ⟨letThrough, held, ordered, known⟩ := inFlight
  generalize reached : save.progress = before at stepped ordered
  cases ordered with
  | finished => cases stepped
  | lookUp present missing =>
      rw [Saving.step?, MemoryStore.contains_store] at stepped
      cases stepped
      refine ⟨⟨letThrough, ?_⟩, .inl rfl⟩
      cases found : (m.get? (blockObject save.submission save.call.now).1).isSome with
      | true => exact ⟨true, present, fun _ => found⟩
      | false => exact ⟨held, missing, known⟩
  | writeBlock rest =>
      rw [Saving.step?, MemoryStore.write_store] at stepped
      cases stepped
      exact ⟨⟨letThrough, true, rest, fun _ => m.holds_write_self _ _⟩,
        .inr ⟨_, .block letThrough, rfl⟩⟩
  | writeMetadata rest =>
      rw [Saving.step?, MemoryStore.write_store] at stepped
      cases stepped
      exact ⟨⟨letThrough, true, rest, fun _ => (known rfl).write _ _⟩,
        .inr ⟨_, .metadata letThrough (known rfl), rfl⟩⟩

theorem Sound.write {intake : Intake MemoryStore} {object : String × Bytes}
    (sound : Sound admitted intake) (filed : Filed admitted intake.state object) :
    Sound admitted { intake with state := intake.state.write object.1 object.2 } where
  filed := by
    intro path bytes found
    have kept (path : String) (held : intake.state.Holds path) :=
      held.write object.1 object.2
    rw [MemoryStore.get?_write] at found
    split at found
    · next same =>
        obtain rfl := Option.some.inj found
        rw [same]
        exact filed.mono (fun _ _ => id) kept
    · exact (sound.filed found).mono (fun _ _ => id) kept
  inFlight save member :=
    (sound.inFlight save member).mono (fun _ _ => id) fun _ held => held.write object.1 object.2

theorem Sound.callStore {intake : Intake MemoryStore} (name : String)
    (sound : Sound admitted intake) (i : Nat) :
    Sound admitted (intake.callStore (MemoryStore.store name) i) := by
  unfold Intake.callStore
  split
  · exact sound
  · next save found =>
      split
      · exact sound
      · next progress state stepped =>
          have member := List.mem_of_getElem? found
          obtain ⟨inFlight, change⟩ := (sound.inFlight save member).step stepped
          have after : Sound admitted { intake with state } := by
            rcases change with rfl | ⟨object, filed, rfl⟩
            · exact sound
            · exact sound.write filed
          refine ⟨after.filed, fun other isSave => ?_⟩
          rcases List.mem_or_eq_of_mem_set isSave with isOther | rfl
          · exact after.inFlight other isOther
          · exact inFlight

theorem Sound.submit {intake : Intake MemoryStore} {wider : Call → Submission → Prop}
    (name : String) (sound : Sound admitted intake) (call : Call)
    (still : ∀ call s, admitted call s → wider call s)
    (letThrough : ∀ s, (intake.pipeline.accept call intake.attempts).1 = .ok s → wider call s) :
    Sound wider (intake.submit (MemoryStore.store name) call) := by
  have before := sound.mono still
  unfold Intake.submit
  split
  · exact ⟨before.filed, before.inFlight⟩
  · next s attempts accepted =>
      refine ⟨before.filed, fun save member => ?_⟩
      rcases List.mem_append.1 member with earlier | isNew
      · exact before.inFlight save earlier
      · rw [List.mem_singleton.1 isNew]
        exact inFlight_start name (letThrough s (by rw [accepted]))

/-- The induction adds events at the end, for an admission is judged by what came before it. -/
theorem sound_serve (p : Pipeline) (attempts : AttemptTable) (name : String)
    (events : List IntakeEvent) :
    Sound (Admitted (MemoryStore.store name) (.start p attempts .empty) events)
      ((start p attempts .empty).serve (MemoryStore.store name) events) := by
  induction events using List.reverseRecOn with
  | nil =>
      refine ⟨fun {path bytes} found => ?_, fun save member => absurd member List.not_mem_nil⟩
      have missing : (none : Option Bytes) = some bytes := found
      cases missing
  | append_singleton events event ih =>
      have still := fun call s
        (admitted : Admitted (MemoryStore.store name) (.start p attempts .empty) events
          call s) => admitted.append [event]
      rw [Intake.serve_append]
      match event with
      | .storeCall i => exact (ih.mono still).callStore name i
      | .pipeline (.submission call) =>
          exact ih.submit name call still fun s accepted => ⟨events, [], rfl, accepted⟩
      | .pipeline (.cleanup now) => exact ⟨(ih.mono still).filed, (ih.mono still).inFlight⟩
      | .pipeline (.publication whitelist) =>
          exact ⟨(ih.mono still).filed, (ih.mono still).inFlight⟩

/-! ## What is found -/

theorem filed_cases {path : String} {bytes : Bytes} (filed : Filed admitted m (path, bytes)) :
    (path = String.ofList (StoragePaths.blockPath (Hash.Blake2b.digest bytes).toHex) ∧
      ∃ call s, admitted call s ∧ bytes = s.data.block) ∨
      ∃ call s, admitted call s ∧ m.Holds (Pipeline.paths s call.now).block ∧
        path = (Pipeline.paths s call.now).metadata ∧
        bytes = s.data.metadata s.submitter call.remoteAddr s.data.blockHash := by
  generalize same : (path, bytes) = object at filed
  cases filed with
  | block letThrough =>
      obtain ⟨rfl, rfl⟩ := Prod.mk.inj same
      exact .inl ⟨Pipeline.block_paths _ _, _, _, letThrough, rfl⟩
  | metadata letThrough held =>
      obtain ⟨rfl, rfl⟩ := Prod.mk.inj same
      exact .inr ⟨_, _, letThrough, held, rfl, rfl⟩

/-- The object in the place of a block may be another block, but one with the same hash. -/
theorem Sound.block_of_holds {intake : Intake MemoryStore} {s : Submission} {now : Instant}
    (sound : Sound admitted intake) (held : intake.state.Holds (Pipeline.paths s now).block) :
    ∃ block, intake.state.get? (Pipeline.paths s now).block = some block ∧
      (Hash.Blake2b.digest block).toHexString = s.data.blockHash := by
  obtain ⟨block, found⟩ := Option.isSome_iff_exists.1 held
  refine ⟨block, found, ?_⟩
  rcases filed_cases (sound.filed found) with ⟨isBlock, _⟩ | ⟨_, other, _, _, isMetadata, _⟩
  · rw [Pipeline.block_paths, String.ofList_inj] at isBlock
    exact congrArg String.ofList (StoragePaths.blockPath_injective isBlock).symm
  · exact absurd (String.ofList_inj.1 isMetadata.symm) StoragePaths.metadataPath_ne_blockPath

/-- Whatever is found in a memory store that started empty, in any state that submissions in flight
can reach, in the middle of saves too. A block lies under its own hash. Metadata name the submitter
of their path, the address it called from, the peer, the time and the hash of a block that is
there. -/
theorem stored_objects_refer_to_stored_blocks (p : Pipeline) (attempts : AttemptTable)
    (name : String) (events : List IntakeEvent) (path : String) (bytes : Bytes)
    (stored : ((start p attempts .empty).serve (MemoryStore.store name) events).state.get?
      path = some bytes) :
    (StoragePaths.blocksFolder.toList <+: path.toList →
      path = String.ofList (StoragePaths.blockPath (Hash.Blake2b.digest bytes).toHex) ∧
      ∃ call s,
        Admitted (MemoryStore.store name) (.start p attempts .empty) events call s ∧
        bytes = s.data.block) ∧
    (StoragePaths.submissionsFolder.toList <+: path.toList →
      ∃ call s,
        Admitted (MemoryStore.store name) (.start p attempts .empty) events call s ∧
        path = (Pipeline.paths s call.now).metadata ∧
        bytes = s.data.metadata s.submitter call.remoteAddr s.data.blockHash ∧
        (∀ t, Json.HasText bytes "submitter" t ↔ t = s.submitter.toHexString) ∧
        (∀ t, Json.HasText bytes "remote_addr" t ↔ t = call.remoteAddr) ∧
        (∀ t, Json.HasText bytes "peer_id" t ↔ t = s.data.peerId) ∧
        (∀ t, Json.HasText bytes "created_at" t ↔ t = Rfc3339.writeString s.data.createdAt) ∧
        (∀ t, Json.HasText bytes "block_hash" t ↔ t = s.data.blockHash) ∧
        (∀ key, StoragePaths.submitterSuffix key <:+ path.toList ↔ key = s.submitter) ∧
        ∃ block,
          ((start p attempts .empty).serve (MemoryStore.store name) events).state.get?
            (String.ofList (StoragePaths.blockPath s.data.blockHash.toList)) = some block ∧
          (Hash.Blake2b.digest block).toHexString = s.data.blockHash) ∧
    (StoragePaths.blocksFolder.toList <+: path.toList ∨
      StoragePaths.submissionsFolder.toList <+: path.toList) := by
  have sound := sound_serve p attempts name events
  rcases filed_cases (sound.filed stored) with
    ⟨isBlock, fromSubmission⟩ | ⟨call, s, admitted, held, isMetadata, bytes_eq⟩
  · have inBlocks : StoragePaths.blocksFolder.toList <+: path.toList := by
      rw [isBlock, String.toList_ofList]
      exact StoragePaths.blocksFolder_prefix_blockPath
    exact ⟨fun _ => ⟨isBlock, fromSubmission⟩,
      fun inSubmissions => absurd inSubmissions (StoragePaths.not_submissionsFolder_prefix inBlocks),
      .inl inBlocks⟩
  · have inSubmissions : StoragePaths.submissionsFolder.toList <+: path.toList := by
      rw [isMetadata]
      exact StoragePaths.submissionsFolder_prefix_metadata call.now s.data.blockHash s.submitter
    have named (key : SubmitterKey) :
        StoragePaths.submitterSuffix key <:+ path.toList ↔ key = s.submitter := by
      rw [isMetadata]
      exact StoragePaths.submitterSuffix_suffix_metadata_iff
    refine ⟨fun inBlocks =>
        absurd inSubmissions (StoragePaths.not_submissionsFolder_prefix inBlocks),
      fun _ => ⟨call, s, admitted, isMetadata, bytes_eq, ?_, ?_, ?_, ?_, ?_, named,
        sound.block_of_holds held⟩,
      .inr inSubmissions⟩
    · exact fun t => bytes_eq ▸ SubmissionData.hasText_metadata_submitter_iff
    · exact fun t => bytes_eq ▸ SubmissionData.hasText_metadata_remoteAddr_iff
    · exact fun t => bytes_eq ▸ SubmissionData.hasText_metadata_peerId_iff
    · exact fun t => bytes_eq ▸ SubmissionData.hasText_metadata_createdAt_iff
    · exact fun t => bytes_eq ▸ SubmissionData.hasText_metadata_blockHash_iff

/-- A submission with zeros for the key and the signature. -/
private def smallBody : Bytes :=
  Text.Utf8.encode <|
    "\x7b\"submitter\":\"".toList ++ (Octets.zero 32).toHex ++
      "\",\"sig\":\"".toList ++ (Octets.zero 64).toHex ++
      "\",\"data\":\x7b\"peer_id\":\"p\",\"block\":\"AQID\",".toList ++
      "\"created_at\":\"1970-01-01T00:00:00Z\"\x7d\x7d".toList

/-- Everybody may submit twice, and signatures are not checked. -/
private def openPipeline : Pipeline :=
  ⟨{ whitelist := { disabled := true }, verifySignatureDisabled := true }, ⟨2, 10⟩, none, none⟩

/-- Two submissions of one block both look it up before either writes it. The second is done, and the
first is about to write the block again. -/
private def crowdedEvents : List IntakeEvent :=
  let call : Call := ⟨smallBody, "", ⟨0, 0, by decide, by decide, by decide⟩, 0⟩
  [.pipeline (.submission call), .pipeline (.submission call), .storeCall 0, .storeCall 1,
    .storeCall 1, .storeCall 1]

private def smallPath : String :=
  "submissions/1970-01-01/1970-01-01T00:00:00Z-" ++ String.ofList (List.replicate 64 '0') ++ ".json"

set_option maxRecDepth 100000 in
theorem stored_objects_refer_to_stored_blocks_amid_saves :
    ∃ bytes,
      ((start openPipeline .empty .empty).serve (MemoryStore.store "memory")
        crowdedEvents).state.get? smallPath = some bytes ∧
      StoragePaths.submissionsFolder.toList <+: smallPath.toList ∧
      ∃ call s,
        Admitted (MemoryStore.store "memory") (.start openPipeline .empty .empty)
          crowdedEvents call s ∧
        smallPath = (Pipeline.paths s call.now).metadata ∧
        bytes = s.data.metadata s.submitter call.remoteAddr s.data.blockHash ∧
        Json.HasText bytes "submitter" s.submitter.toHexString ∧
        Json.HasText bytes "block_hash" s.data.blockHash ∧
        ∃ block,
          ((start openPipeline .empty .empty).serve (MemoryStore.store "memory")
            crowdedEvents).state.get?
              (String.ofList (StoragePaths.blockPath s.data.blockHash.toList)) = some block ∧
          (Hash.Blake2b.digest block).toHexString = s.data.blockHash := by
  have held : (((start openPipeline .empty .empty).serve (MemoryStore.store "memory")
      crowdedEvents).state.get? smallPath).isSome = true := by
    decide +kernel
  have inSubmissions : StoragePaths.submissionsFolder.toList <+: smallPath.toList := by
    decide +kernel
  obtain ⟨bytes, stored⟩ := Option.isSome_iff_exists.1 held
  obtain ⟨_, refers, _⟩ := stored_objects_refer_to_stored_blocks openPipeline .empty "memory"
    crowdedEvents smallPath bytes stored
  obtain ⟨call, s, admitted, isMetadata, bytes_eq, submitter, _, _, _, blockHash, _, block⟩ :=
    refers inSubmissions
  exact ⟨bytes, stored, inSubmissions, call, s, admitted, isMetadata, bytes_eq,
    (submitter _).2 rfl, (blockHash _).2 rfl, block⟩

end Intake

end UptimeIntake
