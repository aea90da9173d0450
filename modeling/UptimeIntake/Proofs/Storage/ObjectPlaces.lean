import UptimeIntake.Proofs.Storage.Location

/-!
# Where objects are filed

The paths of metadata and blocks name a file in one or two directories. Dates, times and hexadecimal
digits are plain, so all names are safe, and none is that of a temporary file.
-/

set_option autoImplicit false

namespace UptimeIntake

open Text

/-! ## Plain texts -/

theorem Text.Hex.isPlain_of_mem_encode {bytes : Bytes} {c : Char} (member : c ∈ encode bytes) :
    isPlain c = true := by
  have all : ∀ n < 16, isPlain (digit n) = true := by decide
  obtain ⟨byte, _, inPair⟩ := List.mem_flatMap.1 member
  have lt := byte.toNat_lt
  rcases List.mem_pair.1 inPair with rfl | rfl
  · exact all _ (by omega)
  · exact all _ (by omega)

namespace Rfc3339

private theorem length_yearDigits {size : Nat} (small : size < 1000000) :
    4 ≤ (yearDigits size).length ∧ (yearDigits size).length ≤ 6 := by
  unfold yearDigits
  split
  · rw [Decimal.length_field]
    decide
  · next long =>
      rw [Decimal.digits]
      refine ⟨?_, (Nat.length_toDigits_le_iff (by decide) (by decide)).2 small⟩
      have notShort := (Nat.length_toDigits_le_iff (b := 10) (n := size) (k := 3) (by decide)
        (by decide)).not.2 (by omega)
      omega

theorem year_eq (y : Int) : ∃ sign : List Char, year y = sign ++ yearDigits y.natAbs ∧
    (sign = [] ∨ sign = ['-'] ∨ sign = ['+']) := by
  have written : year y =
      if y < 0 then '-' :: yearDigits y.natAbs
      else if 9999 < y then '+' :: yearDigits y.natAbs
      else yearDigits y.natAbs := rfl
  rw [written]
  split
  · exact ⟨['-'], rfl, .inr (.inl rfl)⟩
  · split
    · exact ⟨['+'], rfl, .inr (.inr rfl)⟩
    · exact ⟨[], rfl, .inl rfl⟩

theorem isPlain_of_mem_write {t : Instant} : ∀ c ∈ write t, isPlain c = true := by
  obtain ⟨sign, isYear, signs⟩ := year_eq (Calendar.Date.ofDay (t.secs / 86400)).year
  have plainField (width n : Nat) : (Decimal.field width n).all isPlain = true :=
    List.all_eq_true.2 fun c member => isPlain_of_isDigit (Decimal.isDigit_of_mem_field member)
  have plainYear (size : Nat) : (yearDigits size).all isPlain = true :=
    List.all_eq_true.2 fun c member => isPlain_of_isDigit ((yearDigits_spec size).1 c member)
  have plainSign : sign.all isPlain = true := by
    rcases signs with rfl | rfl | rfl <;> decide
  have marks : isPlain '-' = true ∧ isPlain 'T' = true ∧ isPlain ':' = true ∧
      isPlain 'Z' = true := by decide
  rw [← List.all_eq_true]
  simp only [write, date, timeOfDay, isYear, List.all_append, List.all_cons, List.all_nil,
    plainField, plainYear, plainSign, marks, Bool.and_self]

theorem length_write (t : Instant) : 20 ≤ (write t).length ∧ (write t).length ≤ 23 := by
  obtain ⟨sign, isYear, signs⟩ := year_eq (Calendar.Date.ofDay (t.secs / 86400)).year
  obtain ⟨low, high⟩ := year_inRange t
  have small : (Calendar.Date.ofDay (t.secs / 86400)).year.natAbs < 1000000 := by omega
  have digits := length_yearDigits small
  have shortSign : sign.length ≤ 1 := by
    rcases signs with rfl | rfl | rfl <;> decide
  simp only [write, date, timeOfDay, isYear, List.length_append, List.length_cons,
    Decimal.length_field, List.length_nil]
  omega

end Rfc3339

theorem StoragePaths.takeBytes?_eq {size : Nat} {cs : List Char}
    (plain : ∀ c ∈ cs, isPlain c = true) (fits : size ≤ cs.length) :
    takeBytes? size cs = some (cs.take size) := by
  have isFront := List.take_prefix size cs
  have length := Utf8.length_encode_of_ascii fun c member =>
    toNat_lt_of_isPlain (plain c (isFront.mem member))
  exact takeBytes?_eq_some_iff.2 ⟨isFront, length.trans (List.length_take_of_le fits)⟩

/-! ## Objects -/

/-- A path as submissions have them. -/
def IsObjectPath (path : String) : Prop :=
  ∃ (received : Instant) (digest : Digest) (submitter : SubmitterKey),
    path = (StoragePaths.build received digest.toHexString submitter).metadata ∨
      path = (StoragePaths.build received digest.toHexString submitter).block

/-- The path leads to a file with a safe name, not that of a temporary file, in one of the two
folders of objects. -/
structure IsFiled (path : String) (way : List (List Char)) (last : List Char) : Prop where
  path_eq : path = String.ofList (joinSegments (way ++ [last]))
  folder : way = ["blocks".toList] ∨ ∃ day, IsSafeName day ∧ way = ["submissions".toList, day]
  safe : IsSafeName last
  notTemporary : ¬ ".tmp".toList <:+ path.toList

theorem notTemporary_append (front ending : List Char) (long : 4 ≤ ending.length)
    (other : ¬ ".tmp".toList <:+ ending) :
    ¬ ".tmp".toList <:+ (String.ofList (front ++ ending)).toList := by
  rw [String.toList_ofList (l := front ++ ending)]
  intro isTemporary
  exact other (List.suffix_of_suffix_length_le isTemporary (List.suffix_append front ending) long)

private theorem isFiled_block (digest : Digest) :
    IsFiled (String.ofList (StoragePaths.blockPath digest.toHex)) ["blocks".toList]
      (digest.toHex ++ ".dat".toList) where
  path_eq := by simp [StoragePaths.blockPath, StoragePaths.blocksFolder, joinSegments]
  folder := .inl rfl
  safe := by
    have size := Octets.length_toHex digest
    have ending : ".dat".toList.length = 4 := rfl
    have plainEnding : ".dat".toList.all isPlain = true := by decide
    refine ⟨List.forall_mem_append.2
      ⟨fun c => Hex.isPlain_of_mem_encode, List.all_eq_true.1 plainEnding⟩, ?_, ?_⟩
    all_goals
      rw [List.length_append, size, ending]
      decide
  notTemporary := notTemporary_append _ ".dat".toList (by decide) (by decide)

private theorem isFiled_metadata (received : Instant) (submitter : SubmitterKey) :
    IsFiled (String.ofList (StoragePaths.metadataPath (Rfc3339.write received) submitter))
      ["submissions".toList, (Rfc3339.write received).take 10]
      (Rfc3339.write received ++ '-' :: submitter.toHex ++ ".json".toList) := by
  have plain : ∀ c ∈ Rfc3339.write received, isPlain c = true := Rfc3339.isPlain_of_mem_write
  obtain ⟨long, short⟩ := Rfc3339.length_write received
  generalize Rfc3339.write received = time at plain long short ⊢
  have day : StoragePaths.day time = time.take 10 := by
    rw [StoragePaths.day, StoragePaths.takeBytes?_eq plain (Nat.le_trans (by decide) long),
      Option.getD_some]
  have dayLength : (time.take 10).length = 10 :=
    List.length_take_of_le (Nat.le_trans (by decide) long)
  have safeDay : IsSafeName (time.take 10) :=
    ⟨fun c member => plain c (List.mem_of_mem_take member), by rw [dayLength]; decide,
      by rw [dayLength]; decide⟩
  have plainFile : ∀ c ∈ time ++ '-' :: submitter.toHex ++ ".json".toList, isPlain c = true := by
    have plainEnding : ".json".toList.all isPlain = true := by decide
    refine List.forall_mem_append.2
      ⟨List.forall_mem_append.2 ⟨plain, ?_⟩, List.all_eq_true.1 plainEnding⟩
    exact List.forall_mem_cons.2 ⟨by decide, fun c => Hex.isPlain_of_mem_encode⟩
  have fileLength : (time ++ '-' :: submitter.toHex ++ ".json".toList).length =
      time.length + 70 := by
    simp [Octets.length_toHex]
  refine ⟨?_, .inr ⟨_, safeDay, rfl⟩, ⟨plainFile, ?_, ?_⟩,
    notTemporary_append _ ".json".toList (by decide) (by decide)⟩
  · simp [StoragePaths.metadataPath, StoragePaths.submissionsFolder, joinSegments, day]
  · omega
  · omega

theorem IsObjectPath.isFiled {path : String} (isObject : IsObjectPath path) :
    ∃ way last, IsFiled path way last := by
  obtain ⟨received, digest, submitter, rfl | rfl⟩ := isObject
  · have filed := isFiled_metadata received submitter
    rw [← String.toList_ofList (l := Rfc3339.write received)] at filed
    exact ⟨_, _, filed⟩
  · have filed := isFiled_block digest
    rw [← String.toList_ofList (l := digest.toHex)] at filed
    exact ⟨_, _, filed⟩

namespace IsFiled

variable {path : String} {way : List (List Char)} {last : List Char}

theorem safeWay (filed : IsFiled path way last) : IsSafeWay way := by
  have safeBlocks : IsSafeName "blocks".toList :=
    ⟨List.all_eq_true.1 (by decide), by decide, by decide⟩
  have safeSubmissions : IsSafeName "submissions".toList :=
    ⟨List.all_eq_true.1 (by decide), by decide, by decide⟩
  rcases filed.folder with rfl | ⟨day, safeDay, rfl⟩
  · exact ⟨List.forall_mem_singleton.2 safeBlocks, List.cons_ne_nil _ _, by decide⟩
  · refine ⟨List.forall_mem_cons.2 ⟨safeSubmissions, ?_⟩, List.cons_ne_nil _ _, Nat.le_refl 2⟩
    exact List.forall_mem_singleton.2 safeDay

theorem parse?_eq (filed : IsFiled path way last) :
    Location.parse? path = some (placeOf way last) := by
  rw [filed.path_eq]
  exact parse?_joinSegments filed.safeWay.safe filed.safe

theorem fits {root : String} (room : HasRoom root) (filed : IsFiled path way last) :
    FileTree.Fits root (placeOf way last) :=
  fits_placeOf room filed.safeWay filed.safe

theorem pathNames_eq (filed : IsFiled path way last) :
    pathNames path = (placeOf way last).full := by
  rw [filed.path_eq]
  exact pathNames_joinSegments filed.safeWay filed.safe.noSlash

private theorem temporary_eq (filed : IsFiled path way last) (number : Nat) :
    path ++ "." ++ toString number ++ ".tmp" =
      String.ofList (joinSegments (way ++ [temporaryName last number])) := by
  rw [joinSegments_concat filed.safeWay.nonempty, String.ofList_append, String.ofList_cons,
    ofList_temporaryName, filed.path_eq, joinSegments_concat filed.safeWay.nonempty,
    String.ofList_append, String.ofList_cons]
  simp only [String.append_assoc]

theorem pathNames_temporary (filed : IsFiled path way last) (number : Nat) :
    pathNames (path ++ "." ++ toString number ++ ".tmp") =
      ((placeOf way last).temporary number).full := by
  have noSlash := noSlash_temporaryName filed.safe.noSlash number
  rw [filed.temporary_eq, temporary_placeOf filed.safeWay]
  exact pathNames_joinSegments filed.safeWay noSlash

/-- No place of an object can be a folder of objects. -/
theorem not_on_way {other : String} {beside : List (List Char)} {name : List Char}
    (filed : IsFiled path way last) (filedBeside : IsFiled other beside name) (file : String) :
    ¬ way.map String.ofList ++ [file] <+: beside.map String.ofList := by
  intro isPrefix
  rcases filed.folder with rfl | ⟨day, _, rfl⟩ <;>
    rcases filedBeside.folder with rfl | ⟨otherDay, _, rfl⟩
  · exact absurd isPrefix.length_le (by simp)
  · have first := (List.cons_prefix_cons.1 isPrefix).1
    revert first
    decide
  · exact absurd isPrefix.length_le (by simp)
  · exact absurd isPrefix.length_le (by simp)

end IsFiled

/-- A name that temporary files have while an object is written. -/
def IsTemporaryPath (path : String) : Prop :=
  ∃ (object : String) (number : UInt64), IsObjectPath object ∧
    path = object ++ "." ++ toString number.toNat ++ ".tmp"

theorem IsObjectPath.not_isTemporaryPath {path : String} (isObject : IsObjectPath path) :
    ¬ IsTemporaryPath path := by
  rintro ⟨object, number, _, rfl⟩
  obtain ⟨way, last, filed⟩ := isObject.isFiled
  refine filed.notTemporary ?_
  rw [String.toList_append]
  exact List.suffix_append _ _

end UptimeIntake
