import UptimeIntake.Proofs.Storage.FileTree
import UptimeIntake.Proofs.Storage.Paths
import UptimeIntake.Proofs.Text.Decimal
import UptimeIntake.Proofs.Text.Split
import UptimeIntake.Proofs.Time.Rfc3339

/-!
# Where the paths of objects lead

The paths of metadata and blocks name a file in one or two directories. The names are plain and
short enough for the system, those of temporary files too.
-/

set_option autoImplicit false

namespace UptimeIntake

/-! ## Segments -/

/-- The segments of a path, written with slashes between them. -/
def joinSegments (segments : List (List Char)) : List Char :=
  ['/'].intercalate segments

theorem joinSegments_pathSegments (path : List Char) : joinSegments (pathSegments path) = path := by
  rw [joinSegments, pathSegments, Text.split_eq_splitOn, List.intercalate_splitOn]

theorem pathSegments_joinSegments {segments : List (List Char)} (nonempty : segments ≠ [])
    (noSlash : ∀ segment ∈ segments, '/' ∉ segment) :
    pathSegments (joinSegments segments) = segments := by
  rw [joinSegments, pathSegments, Text.split_eq_splitOn,
    List.splitOn_intercalate '/' noSlash nonempty]

theorem joinSegments_ne_nil {segments : List (List Char)} (nonempty : segments ≠ [])
    (noSlash : ∀ segment ∈ segments, '/' ∉ segment) (filled : segments.head? ≠ some []) :
    joinSegments segments ≠ [] := by
  intro isEmpty
  have pieces := pathSegments_joinSegments nonempty noSlash
  rw [isEmpty] at pieces
  exact filled (pieces ▸ rfl)

theorem joinSegments_concat {way : List (List Char)} (nonempty : way ≠ []) (last : List Char) :
    joinSegments (way ++ [last]) = joinSegments way ++ '/' :: last := by
  rw [joinSegments, joinSegments]
  induction way with
  | nil => exact absurd rfl nonempty
  | cons segment way ih =>
      rw [List.cons_append, List.intercalate_cons_of_ne_nil (by simp)]
      by_cases isLast : way = []
      · simp [isLast]
      · rw [List.intercalate_cons_of_ne_nil isLast, ih isLast]
        simp only [List.append_assoc]

/-- The names on a path, with no regard to idle segments. -/
def pathNames (path : String) : List String :=
  (pathSegments path.toList).map String.ofList

theorem pathNames_injective {first second : String} (same : pathNames first = pathNames second) :
    first = second := by
  have segments := List.map_inj_right (fun _ _ => String.ofList_injective) |>.1 same
  have joined := congrArg joinSegments segments
  rw [joinSegments_pathSegments, joinSegments_pathSegments] at joined
  exact String.toList_inj.1 joined

/-! ## Safe names -/

/-- A visible character that may stand in a name. -/
def isPlain (c : Char) : Bool :=
  0 < c.toNat && c.toNat < 128 && c ≠ '/'

/-- A name that every system takes, also with the ending of a temporary file. -/
structure IsSafeName (segment : List Char) : Prop where
  plain : ∀ c ∈ segment, isPlain c = true
  long : 2 < segment.length
  short : segment.length ≤ 128

theorem IsSafeName.noSlash {segment : List Char} (safe : IsSafeName segment) : '/' ∉ segment :=
  fun member => absurd (safe.plain '/' member) (by decide)

theorem not_isIdle_of_long {segment : List Char} (long : 2 < segment.length) :
    isIdleSegment segment = false := by
  simp only [isIdleSegment, Bool.or_eq_false_iff, decide_eq_false_iff_not]
  constructor
  · rintro rfl
    cases long
  · rintro rfl
    exact absurd long (by decide)

theorem ne_up_of_long {segment : List Char} (long : 2 < segment.length) :
    segment ≠ ['.', '.'] := by
  rintro rfl
  exact absurd long (by decide)

theorem IsSafeName.not_idle {segment : List Char} (safe : IsSafeName segment) :
    isIdleSegment segment = false :=
  not_isIdle_of_long safe.long

private theorem IsSafeName.ne_up {segment : List Char} (safe : IsSafeName segment) :
    segment ≠ ['.', '.'] :=
  ne_up_of_long safe.long

/-! ## Parsing -/

variable {way : List (List Char)} {last : List Char}

/-- The place of a file by its directories and its name. -/
def placeOf (way : List (List Char)) (last : List Char) : Location where
  folder := ⟨way.map String.ofList, String.ofList (joinSegments way)⟩
  name := String.ofList last
  text := String.ofList (joinSegments (way ++ [last]))
  asDirectory := false

theorem trimSegments_eq {segments : List (List Char)}
    (notIdle : ∀ segment ∈ segments, isIdleSegment segment = false) :
    trimSegments segments = segments := by
  rw [trimSegments]
  cases reversed : segments.reverse with
  | nil => rw [List.reverse_eq_nil_iff.1 reversed]; rfl
  | cons segment others =>
      have isIdle := notIdle segment (List.mem_reverse.1 (by rw [reversed]; exact .head _))
      rw [List.dropWhile_cons_of_neg (by simp [isIdle]), ← reversed, List.reverse_reverse]

theorem parse?_joinSegments (safeWay : ∀ segment ∈ way, IsSafeName segment)
    (safe : IsSafeName last) :
    Location.parse? (String.ofList (joinSegments (way ++ [last]))) = some (placeOf way last) := by
  have allSafe : ∀ segment ∈ way ++ [last], IsSafeName segment := by
    intro segment member
    rcases List.mem_append.1 member with onWay | isLast
    · exact safeWay segment onWay
    · exact List.mem_singleton.1 isLast ▸ safe
  have segments : pathSegments (joinSegments (way ++ [last])) = way ++ [last] :=
    pathSegments_joinSegments (by simp) fun segment member => (allSafe segment member).noSlash
  have notUp : (way ++ [last]).contains ['.', '.'] = false := by
    rw [Bool.eq_false_iff, Ne, List.contains_iff_mem]
    exact fun member => (allSafe _ member).ne_up rfl
  have notIdle : ∀ segment ∈ way ++ [last], isIdleSegment segment = false :=
    fun segment member => (allSafe segment member).not_idle
  have notIdleWay : ∀ segment ∈ way, isIdleSegment segment = false :=
    fun segment member => (safeWay segment member).not_idle
  have inside : Location.escapes (joinSegments (way ++ [last])) = false := by
    rw [Location.escapes, segments, notUp, Bool.or_false]
    cases way with
    | nil => exact safe.not_idle
    | cons first rest => exact notIdle first (.head _)
  have noFilter : (way.filter fun segment => !isIdleSegment segment) = way := by
    rw [List.filter_eq_self]
    intro segment member
    rw [notIdleWay segment member, Bool.not_false]
  rw [Location.parse?, String.toList_ofList, inside]
  simp only [segments, trimSegments_eq notIdle, List.getLast?_concat, Option.map_some,
    List.dropLast_concat, trimSegments_eq notIdleWay, Directory.ofSegments, noFilter,
    Option.any_some, safe.not_idle, Bool.false_eq_true, if_false]
  rfl

/-! ## Sizes -/

theorem utf8ByteSize_ofList {cs : List Char} (ascii : ∀ c ∈ cs, c.toNat < 128) :
    (String.ofList cs).utf8ByteSize = cs.length := by
  rw [String.utf8ByteSize, String.toByteArray_ofList, List.utf8Encode, List.size_toByteArray]
  exact Text.Utf8.length_encode_of_ascii ascii

theorem toNat_lt_of_isPlain {c : Char} (plain : isPlain c = true) : c.toNat < 128 := by
  simp only [isPlain, Bool.and_eq_true, decide_eq_true_eq] at plain
  exact plain.1.2

theorem isLongName_ofList {segment : List Char} (plain : ∀ c ∈ segment, isPlain c = true)
    (short : segment.length ≤ 255) : FileTree.isLongName (String.ofList segment) = false := by
  rw [FileTree.isLongName, utf8ByteSize_ofList fun c member => toNat_lt_of_isPlain (plain c member)]
  exact decide_eq_false (Nat.not_lt.2 short)

private theorem mem_joinSegments {segments : List (List Char)} {c : Char}
    (member : c ∈ joinSegments segments) : c = '/' ∨ ∃ segment ∈ segments, c ∈ segment := by
  rw [joinSegments] at member
  induction segments with
  | nil => cases member
  | cons segment segments ih =>
      by_cases isLast : segments = []
      · subst isLast
        rw [List.intercalate_singleton] at member
        exact .inr ⟨segment, .head _, member⟩
      · rw [List.intercalate_cons_of_ne_nil isLast, List.mem_append, List.mem_append,
          List.mem_singleton] at member
        rcases member with (inFirst | isSlash) | inRest
        · exact .inr ⟨segment, .head _, inFirst⟩
        · exact .inl isSlash
        · obtain isSlash | ⟨other, isOther, inOther⟩ := ih inRest
          · exact .inl isSlash
          · exact .inr ⟨other, .tail _ isOther, inOther⟩

private theorem length_joinSegments_le {segments : List (List Char)}
    (short : ∀ segment ∈ segments, segment.length ≤ 255) :
    (joinSegments segments).length ≤ 256 * segments.length := by
  rw [joinSegments]
  induction segments with
  | nil => exact Nat.le_refl 0
  | cons segment segments ih =>
      obtain ⟨isShort, short⟩ := List.forall_mem_cons.1 short
      by_cases isLast : segments = []
      · subst isLast
        rw [List.intercalate_singleton]
        exact Nat.le_succ_of_le isShort
      · have rest := ih short
        rw [List.intercalate_cons_of_ne_nil isLast, List.length_append, List.length_append,
          List.length_singleton, List.length_cons]
        omega

/-! ## Paths below a root -/

theorem pathBelow_cases (root text : String) :
    pathBelow root text = root ∨ pathBelow root text = text ∨
      pathBelow root text = root ++ text ∨ pathBelow root text = root ++ "/" ++ text := by
  unfold pathBelow joinPath
  split
  · exact .inl rfl
  · split
    · exact .inr (.inl rfl)
    · split
      · exact .inr (.inr (.inl rfl))
      · exact .inr (.inr (.inr rfl))

private theorem utf8ByteSize_pathBelow_le (root text : String) :
    (pathBelow root text).utf8ByteSize ≤ root.utf8ByteSize + 1 + text.utf8ByteSize := by
  have slash : "/".utf8ByteSize = 1 := rfl
  rcases pathBelow_cases root text with isRoot | isText | isJoined | isJoined
  · rw [isRoot]
    omega
  · rw [isText]
    omega
  · rw [isJoined, String.utf8ByteSize_append]
    omega
  · rw [isJoined, String.utf8ByteSize_append, String.utf8ByteSize_append, slash]

private theorem mem_pathBelow {root text : String} {c : Char}
    (member : c ∈ (pathBelow root text).toList) :
    c ∈ root.toList ∨ c = '/' ∨ c ∈ text.toList := by
  rcases pathBelow_cases root text with isRoot | isText | isJoined | isJoined
  · exact .inl (isRoot ▸ member)
  · exact .inr (.inr (isText ▸ member))
  · rw [isJoined, String.toList_append, List.mem_append] at member
    exact member.imp_right .inr
  · rw [isJoined, String.toList_append, String.toList_append, List.append_assoc, List.mem_append,
      List.mem_append] at member
    exact member.imp_right (.imp_left List.mem_singleton.1)

/-- The system takes the path of the root with three further names, whatever their length. -/
structure HasRoom (root : String) : Prop where
  noNul : '\x00' ∉ root.toList
  short : root.utf8ByteSize + 1 + 3 * 256 ≤ FileTree.pathLimit

private theorem HasRoom.refuseBelow?_eq_none {root text : String} (room : HasRoom root)
    (noNul : '\x00' ∉ text.toList) (short : text.utf8ByteSize ≤ 3 * 256) :
    FileTree.refuseBelow? root text = none := by
  have isText : (pathBelow root text).toList.contains '\x00' = false := by
    rw [Bool.eq_false_iff, Ne, List.contains_iff_mem]
    intro member
    rcases mem_pathBelow member with inRoot | isSlash | inText
    · exact room.noNul inRoot
    · exact absurd isSlash (by decide)
    · exact noNul inText
  have fits : ¬ FileTree.pathLimit < (pathBelow root text).utf8ByteSize := by
    have size := utf8ByteSize_pathBelow_le root text
    have whole := room.short
    omega
  rw [FileTree.refuseBelow?, FileTree.refuse?, isText, if_neg Bool.false_ne_true, if_neg fits]

theorem refuseBelow?_joinSegments {root : String} {segments : List (List Char)}
    (room : HasRoom root) (plain : ∀ segment ∈ segments, ∀ c ∈ segment, isPlain c = true)
    (short : ∀ segment ∈ segments, segment.length ≤ 255) (few : segments.length ≤ 3) :
    FileTree.refuseBelow? root (String.ofList (joinSegments segments)) = none := by
  have visible : ∀ c ∈ joinSegments segments, isPlain c = true ∨ c = '/' := by
    intro c member
    rcases mem_joinSegments member with isSlash | ⟨segment, isSegment, inSegment⟩
    · exact .inr isSlash
    · exact .inl (plain segment isSegment c inSegment)
  refine room.refuseBelow?_eq_none ?_ ?_
  · rw [String.toList_ofList]
    intro member
    rcases visible _ member with isPlain | isSlash
    · exact absurd isPlain (by decide)
    · exact absurd isSlash (by decide)
  · rw [utf8ByteSize_ofList]
    · exact Nat.le_trans (length_joinSegments_le short) (by omega)
    · intro c member
      rcases visible c member with isPlain | isSlash
      · exact toNat_lt_of_isPlain isPlain
      · rw [isSlash]
        decide

/-! ## Temporary names -/

/-- The name of a temporary file beside a file. -/
def temporaryName (last : List Char) (number : Nat) : List Char :=
  last ++ '.' :: Text.Decimal.digits number ++ ".tmp".toList

theorem ofList_temporaryName (last : List Char) (number : Nat) :
    String.ofList (temporaryName last number) =
      String.ofList last ++ "." ++ toString number ++ ".tmp" := by
  simp only [temporaryName, String.ofList_append, String.ofList_toList, String.ofList_cons,
    String.append_assoc]
  rfl

theorem isPlain_of_isDigit {c : Char} (isDigit : c.isDigit = true) : isPlain c = true := by
  have bounds := Text.Decimal.toNat_of_isDigit isDigit
  have noSlash : c ≠ '/' := by
    rintro rfl
    exact absurd isDigit (by decide)
  simp only [isPlain, Bool.and_eq_true, decide_eq_true_eq]
  exact ⟨⟨by omega, by omega⟩, noSlash⟩

theorem forall_mem_temporaryName {P : Char → Prop} (inName : ∀ c ∈ last, P c)
    (digit : ∀ c, c.isDigit = true → P c) (ending : ∀ c ∈ ".tmp".toList, P c) (number : Nat) :
    ∀ c ∈ temporaryName last number, P c := by
  intro c member
  rw [temporaryName, List.append_assoc, List.mem_append, List.cons_append, List.mem_cons,
    List.mem_append] at member
  rcases member with isInName | rfl | isDigit | inEnding
  · exact inName c isInName
  · exact ending '.' List.mem_cons_self
  · exact digit c (Text.Decimal.isDigit_of_mem_digits isDigit)
  · exact ending c inEnding

theorem IsSafeName.plain_temporaryName (safe : IsSafeName last) (number : Nat) :
    ∀ c ∈ temporaryName last number, isPlain c = true :=
  forall_mem_temporaryName safe.plain (fun _ => isPlain_of_isDigit)
    (List.all_eq_true.1 (by decide)) number

theorem noSlash_temporaryName (noSlash : '/' ∉ last) (number : Nat) :
    '/' ∉ temporaryName last number := by
  intro member
  have others : ∀ c ∈ temporaryName last number, c ≠ '/' := by
    refine forall_mem_temporaryName (P := (· ≠ '/')) ?_ ?_ ?_ number
    · intro c inName same
      exact noSlash (same ▸ inName)
    · intro c isDigit same
      rw [same] at isDigit
      cases isDigit
    · intro c inEnding same
      rw [same] at inEnding
      exact absurd inEnding (by decide)
  exact others '/' member rfl

theorem IsSafeName.length_temporaryName (safe : IsSafeName last) (number : UInt64) :
    (temporaryName last number.toNat).length ≤ 255 := by
  have digits : (Text.Decimal.digits number.toNat).length ≤ 20 :=
    (Nat.length_toDigits_le_iff (by decide) (by decide)).2
      (Nat.lt_of_lt_of_le number.toNat_lt (by decide))
  have short := safe.short
  have ending : ".tmp".toList.length = 4 := rfl
  rw [temporaryName, List.length_append, List.length_append, List.length_cons, ending]
  omega

/-! ## Places of files -/

/-- The directories on the way to an object. -/
structure IsSafeWay (way : List (List Char)) : Prop where
  safe : ∀ segment ∈ way, IsSafeName segment
  nonempty : way ≠ []
  few : way.length ≤ 2

theorem IsSafeWay.joinSegments_ne_nil (safeWay : IsSafeWay way) : joinSegments way ≠ [] := by
  refine UptimeIntake.joinSegments_ne_nil safeWay.nonempty
    (fun segment member => (safeWay.safe segment member).noSlash) fun isFirst => ?_
  have isName := (safeWay.safe [] (List.mem_of_mem_head? isFirst)).long
  cases isName

theorem temporary_placeOf (safeWay : IsSafeWay way) (number : Nat) :
    (placeOf way last).temporary number = placeOf way (temporaryName last number) := by
  have notRoot : String.ofList (joinSegments way) ≠ "" := by
    intro isRoot
    exact safeWay.joinSegments_ne_nil (String.ofList_eq_empty_iff.1 isRoot)
  simp only [Location.temporary, placeOf, Directory.join, if_neg notRoot, ofList_temporaryName,
    joinSegments_concat safeWay.nonempty, String.ofList_append, String.ofList_cons,
    String.append_assoc]
  rfl

theorem refuseBelow?_text_placeOf {root : String} (room : HasRoom root)
    (safeWay : IsSafeWay way) (plain : ∀ c ∈ last, isPlain c = true) (short : last.length ≤ 255) :
    FileTree.refuseBelow? root (placeOf way last).text = none := by
  refine refuseBelow?_joinSegments room ?_ ?_ ?_
  · refine List.forall_mem_append.2 ⟨fun segment member => (safeWay.safe segment member).plain, ?_⟩
    exact List.forall_mem_singleton.2 plain
  · refine List.forall_mem_append.2 ⟨fun segment member => ?_, List.forall_mem_singleton.2 short⟩
    exact Nat.le_trans (safeWay.safe segment member).short (by decide)
  · rw [List.length_append]
    exact Nat.succ_le_succ safeWay.few

theorem fits_placeOf {root : String} (room : HasRoom root) (safeWay : IsSafeWay way)
    (safe : IsSafeName last) : FileTree.Fits root (placeOf way last) where
  text := refuseBelow?_text_placeOf room safeWay safe.plain (Nat.le_trans safe.short (by decide))
  folderText := by
    refine refuseBelow?_joinSegments room
      (fun segment member => (safeWay.safe segment member).plain) (fun segment member => ?_)
      (Nat.le_succ_of_le safeWay.few)
    exact Nat.le_trans (safeWay.safe segment member).short (by decide)
  temporaryText number := by
    rw [temporary_placeOf safeWay]
    exact refuseBelow?_text_placeOf room safeWay (safe.plain_temporaryName _)
      (safe.length_temporaryName number)
  shortFolder := by
    intro name member
    obtain ⟨segment, isSegment, rfl⟩ := List.mem_map.1 member
    have isSafe := safeWay.safe segment isSegment
    exact isLongName_ofList isSafe.plain (Nat.le_trans isSafe.short (by decide))
  shortName := isLongName_ofList safe.plain (Nat.le_trans safe.short (by decide))
  shortTemporary number := by
    rw [temporary_placeOf safeWay]
    exact isLongName_ofList (safe.plain_temporaryName _) (safe.length_temporaryName number)
  asFile := rfl

theorem pathNames_joinSegments (safeWay : IsSafeWay way) (noSlash : '/' ∉ last) :
    pathNames (String.ofList (joinSegments (way ++ [last]))) = (placeOf way last).full := by
  have segments : pathSegments (joinSegments (way ++ [last])) = way ++ [last] := by
    refine pathSegments_joinSegments (by simp) (List.forall_mem_append.2 ⟨?_, ?_⟩)
    · exact fun segment member => (safeWay.safe segment member).noSlash
    · exact List.forall_mem_singleton.2 noSlash
  rw [pathNames, String.toList_ofList, segments, List.map_append]
  rfl

end UptimeIntake
