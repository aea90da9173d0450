import UptimeIntake.Proofs.Text.Hex
import UptimeIntake.Storage.Paths

/-!
# What storage paths tell apart

The path of a block tells its hash, and the path of metadata its submitter and its time text, for
any such text. Blocks and metadata lie in folders of their own, blocks in the one that comes first.
-/

set_option autoImplicit false

namespace UptimeIntake.StoragePaths

open Text

variable {submittedAt blockHash : List Char} {submitter : SubmitterKey}

/-! ## Folders -/

theorem blocksFolder_prefix_blockPath : blocksFolder.toList <+: blockPath blockHash := by
  rw [blockPath, List.append_assoc]
  exact List.prefix_append _ _

theorem submissionsFolder_prefix_metadataPath :
    submissionsFolder.toList <+: metadataPath submittedAt submitter := by
  simp only [metadataPath, List.append_assoc]
  exact List.prefix_append _ _

/-- No path lies in both folders. -/
theorem not_submissionsFolder_prefix {path : List Char} (inBlocks : blocksFolder.toList <+: path) :
    ¬ submissionsFolder.toList <+: path := by
  intro inSubmissions
  obtain ⟨_, rfl⟩ := inBlocks
  obtain ⟨_, same⟩ := inSubmissions
  cases List.head_eq_of_cons_eq same

theorem metadataPath_ne_blockPath : metadataPath submittedAt submitter ≠ blockPath blockHash := by
  intro same
  exact not_submissionsFolder_prefix blocksFolder_prefix_blockPath
    (same ▸ submissionsFolder_prefix_metadataPath)

theorem blockPath_lt_metadataPath :
    String.ofList (blockPath blockHash) < String.ofList (metadataPath submittedAt submitter) := by
  rw [String.lt_iff, String.toList_ofList, String.toList_ofList]
  exact List.cons_lt_cons_iff.2 (.inl (by decide))

theorem isBlockPath_iff {path : String} :
    isBlockPath path = true ↔ blocksFolder.toList <+: path.toList :=
  List.isPrefixOf_iff_prefix

theorem isBlockPath_blockPath : isBlockPath (String.ofList (blockPath blockHash)) = true := by
  rw [isBlockPath_iff, String.toList_ofList]
  exact blocksFolder_prefix_blockPath

theorem isBlockPath_metadataPath :
    isBlockPath (String.ofList (metadataPath submittedAt submitter)) = false := by
  rw [Bool.eq_false_iff, Ne, isBlockPath_iff, String.toList_ofList]
  exact fun inBlocks =>
    not_submissionsFolder_prefix inBlocks submissionsFolder_prefix_metadataPath

theorem isBlockPath_block (received : Instant) (hash : String) (key : SubmitterKey) :
    isBlockPath (build received hash key).block = true :=
  isBlockPath_blockPath

theorem isBlockPath_metadata (received : Instant) (hash : String) (key : SubmitterKey) :
    isBlockPath (build received hash key).metadata = false :=
  isBlockPath_metadataPath

/-! ## Names -/

theorem blockPath_injective {first second : List Char}
    (same : blockPath first = blockPath second) : first = second := by
  rw [blockPath, blockPath, List.append_assoc, List.append_assoc] at same
  exact List.append_cancel_right (List.append_cancel_left same)

/-- The end of a metadata path, behind the time. -/
def submitterSuffix (submitter : SubmitterKey) : List Char :=
  '-' :: submitter.toHex ++ ".json".toList

theorem submitterSuffix_injective {first second : SubmitterKey}
    (same : submitterSuffix first = submitterSuffix second) : first = second := by
  have tails := List.tail_eq_of_cons_eq same
  exact Octets.toHex_injective (List.append_cancel_right tails)

theorem length_submitterSuffix (submitter : SubmitterKey) :
    (submitterSuffix submitter).length = 70 := by
  simp [submitterSuffix, Octets.length_toHex]

theorem submitterSuffix_suffix_metadataPath :
    submitterSuffix submitter <:+ metadataPath submittedAt submitter :=
  ⟨submissionsFolder.toList ++ day submittedAt ++ '/' :: submittedAt,
    (List.append_assoc _ _ _).symm⟩

/-- Two keys cannot both be named at the end of one path. -/
theorem eq_of_submitterSuffix {path : List Char} {first second : SubmitterKey}
    (endsFirst : submitterSuffix first <:+ path) (endsSecond : submitterSuffix second <:+ path) :
    first = second := by
  have same : (submitterSuffix first).length = (submitterSuffix second).length := by
    rw [length_submitterSuffix, length_submitterSuffix]
  rcases List.suffix_or_suffix_of_suffix endsFirst endsSecond with shorter | shorter
  · exact submitterSuffix_injective (shorter.eq_of_length same)
  · exact (submitterSuffix_injective (shorter.eq_of_length same.symm)).symm

/-! ## Days -/

variable {first second : List Char}

theorem takeBytes?_eq_some_iff {size : Nat} {text front : List Char} :
    takeBytes? size text = some front ↔ front <+: text ∧ (Utf8.encode front).length = size := by
  induction text generalizing size front with
  | nil =>
      rw [takeBytes?, List.prefix_nil]
      constructor
      · intro taken
        split at taken
        · next zero =>
            cases taken
            exact ⟨rfl, zero.symm⟩
        · cases taken
      · rintro ⟨rfl, rfl⟩
        rfl
  | cons c text ih =>
      rw [takeBytes?, List.prefix_cons_iff]
      constructor
      · intro taken
        split at taken
        · next zero =>
            cases taken
            exact ⟨.inl rfl, zero.symm⟩
        split at taken
        · next fits =>
            obtain ⟨rest, takenRest, rfl⟩ := Option.map_eq_some_iff.1 taken
            obtain ⟨isFront, length⟩ := ih.1 takenRest
            refine ⟨.inr ⟨rest, rfl, isFront⟩, ?_⟩
            rw [Utf8.length_encode_cons]
            omega
        · cases taken
      · rintro ⟨rfl | ⟨rest, rfl, isFront⟩, rfl⟩
        · rfl
        · have positive := c.utf8Size_pos
          rw [Utf8.length_encode_cons, if_neg (by omega), if_pos (by omega), Nat.add_sub_cancel_left,
            ih.2 ⟨isFront, rfl⟩]
          rfl

theorem takeBytes?_eq_none_iff {size : Nat} {text : List Char} :
    takeBytes? size text = none ↔ ∀ front, front <+: text → (Utf8.encode front).length ≠ size := by
  rw [Option.eq_none_iff_forall_ne_some]
  simp only [ne_eq, takeBytes?_eq_some_iff, not_and]

/-- The whole text stands for the day only where no ten bytes can be cut off. -/
theorem cut_ne_whole {front cut whole : List Char} (isCut : takeBytes? 10 cut = some front)
    (isWhole : takeBytes? 10 whole = none) : front ++ '/' :: cut ≠ whole ++ '/' :: whole := by
  intro same
  obtain ⟨isFront, ten⟩ := takeBytes?_eq_some_iff.1 isCut
  have noFront := takeBytes?_eq_none_iff.1 isWhole
  have sizes := congrArg (fun text => (Utf8.encode text).length) same
  simp only [Utf8.encode_append, List.length_append, Utf8.length_encode_cons] at sizes
  have cutSize := Utf8.length_encode_le_of_prefix isFront
  have fronts := List.prefix_or_prefix_of_prefix (same ▸ List.prefix_append front ('/' :: cut))
    (List.prefix_append whole ('/' :: whole))
  cases fronts with
  | inl frontOfWhole => exact noFront front frontOfWhole ten
  | inr wholeOfFront =>
      have wholeSize := Utf8.length_encode_le_of_prefix wholeOfFront
      exact noFront whole List.prefix_rfl (by omega)

private theorem dated_injective (same : day first ++ '/' :: first = day second ++ '/' :: second) :
    first = second := by
  rw [day, day] at same
  cases cutFirst : takeBytes? 10 first with
  | none =>
      cases cutSecond : takeBytes? 10 second with
      | none =>
          rw [cutFirst, cutSecond, Option.getD_none, Option.getD_none] at same
          have lengths := congrArg List.length same
          simp only [List.length_append, List.length_cons] at lengths
          exact List.append_inj_left same (by omega)
      | some front =>
          rw [cutFirst, cutSecond] at same
          exact absurd same.symm (cut_ne_whole cutSecond cutFirst)
  | some front =>
      cases cutSecond : takeBytes? 10 second with
      | none =>
          rw [cutFirst, cutSecond] at same
          exact absurd same (cut_ne_whole cutFirst cutSecond)
      | some other =>
          rw [cutFirst, cutSecond, Option.getD_some, Option.getD_some] at same
          obtain ⟨_, firstTen⟩ := takeBytes?_eq_some_iff.1 cutFirst
          obtain ⟨_, secondTen⟩ := takeBytes?_eq_some_iff.1 cutSecond
          have fronts : front = other := by
            refine Utf8.front_unique (same ▸ List.prefix_append front _) (List.prefix_append other _) ?_
            rw [firstTen, secondTen]
          rw [fronts] at same
          exact List.tail_eq_of_cons_eq (List.append_cancel_left same)

/-! ## Whole paths -/

theorem metadataPath_eq (submittedAt : List Char) (submitter : SubmitterKey) :
    metadataPath submittedAt submitter =
      submissionsFolder.toList ++ (day submittedAt ++ '/' :: submittedAt) ++
        submitterSuffix submitter := by
  simp only [metadataPath, submitterSuffix, List.append_assoc]

theorem metadataPath_eq_iff {k₁ k₂ : SubmitterKey} :
    metadataPath first k₁ = metadataPath second k₂ ↔ first = second ∧ k₁ = k₂ := by
  constructor
  · intro same
    rw [metadataPath_eq, metadataPath_eq] at same
    have ends : (submitterSuffix k₁).length = (submitterSuffix k₂).length := by
      rw [length_submitterSuffix, length_submitterSuffix]
    obtain ⟨fronts, suffixes⟩ := List.append_inj' same ends
    exact ⟨dated_injective (List.append_cancel_left fronts), submitterSuffix_injective suffixes⟩
  · rintro ⟨rfl, rfl⟩
    rfl

/-! ## The paths of one submission -/

theorem toList_metadata (received : Instant) (hash : String) (key : SubmitterKey) :
    (build received hash key).metadata.toList =
      metadataPath (Rfc3339.writeString received).toList key :=
  String.toList_ofList

theorem submissionsFolder_prefix_metadata (received : Instant) (hash : String)
    (key : SubmitterKey) :
    submissionsFolder.toList <+: (build received hash key).metadata.toList := by
  rw [toList_metadata]
  exact submissionsFolder_prefix_metadataPath

theorem submitterSuffix_suffix_metadata_iff {received : Instant} {hash : String}
    {key other : SubmitterKey} :
    submitterSuffix other <:+ (build received hash key).metadata.toList ↔ other = key := by
  rw [toList_metadata]
  constructor
  · intro isNamed
    exact eq_of_submitterSuffix isNamed submitterSuffix_suffix_metadataPath
  · rintro rfl
    exact submitterSuffix_suffix_metadataPath

/-- A metadata path tells its time text and its submitter, whatever the text, and a block path its
hash. No path is both, and the folder tells which it is. -/
theorem paths_tell_time_text_submitter_and_hash (at₁ at₂ h₁ h₂ : String) (k₁ k₂ : SubmitterKey) :
    ((ofText at₁ h₁ k₁).metadata = (ofText at₂ h₂ k₂).metadata ↔ at₁ = at₂ ∧ k₁ = k₂) ∧
      ((ofText at₁ h₁ k₁).block = (ofText at₂ h₂ k₂).block ↔ h₁ = h₂) ∧
      (ofText at₁ h₁ k₁).metadata ≠ (ofText at₂ h₂ k₂).block ∧
      isBlockPath (ofText at₁ h₁ k₁).metadata = false ∧
      isBlockPath (ofText at₁ h₁ k₁).block = true := by
  refine ⟨?_, ?_, ?_, isBlockPath_metadataPath, isBlockPath_blockPath⟩
  · rw [ofText, ofText, String.ofList_inj, metadataPath_eq_iff, String.toList_inj]
  · rw [ofText, ofText, String.ofList_inj]
    constructor
    · intro same
      exact String.toList_inj.1 (blockPath_injective same)
    · intro same
      rw [same]
  · intro same
    exact metadataPath_ne_blockPath (String.ofList_injective same)

end UptimeIntake.StoragePaths
