import UptimeIntake.Proofs.Json.Quoting
import UptimeIntake.Proofs.Text.Hex
import UptimeIntake.Proofs.Text.Trim

/-!
# How byte strings are written

The texts that are read as a byte string, and the error for every other text. White space around
the digits, one mark in front of them and their case make no difference, so two texts denote one
byte string exactly if their digits agree up to case.
-/

set_option autoImplicit false

namespace UptimeIntake

open Text

namespace Text.Hex

private theorem isDigit_of_bytes {text : List Char}
    (areDigits : ∀ b ∈ Utf8.encode text, IsDigitByte b) :
    ∀ c ∈ text, ∃ x, IsDigit c x := by
  intro c member
  obtain ⟨b, isByte⟩ := List.exists_mem_of_ne_nil _ (String.utf8EncodeChar_ne_nil (c := c))
  obtain ⟨d, x, isDigit, sameNumber⟩ := areDigits b (List.mem_flatMap.2 ⟨c, member, isByte⟩)
  have ascii := isDigit.ascii
  cases Json.Text.toNat_of_mem_utf8EncodeChar c b isByte with
  | inl same =>
      obtain rfl : d = c := Char.toNat_inj.1 (sameNumber.trans same)
      exact ⟨x, isDigit⟩
  | inr above => omega

end Text.Hex

namespace Octets

variable {n : Nat}

/-! ## Texts of a byte string -/

/-- White space, one `0x` or none, the digits that spell the byte string, and white space. -/
inductive Spelling (v : Octets n) (digits : List Char) : List Char → Prop
  | intro {before mark after : List Char} :
      (∀ c ∈ before, isBlank c = true) → (mark = [] ∨ mark = ['0', 'x']) →
      Hex.Spells digits v.bytes → (∀ c ∈ after, isBlank c = true) →
      Spelling v digits (before ++ (mark ++ digits ++ after))

/-- The text without white space at its ends and then without one `0x` in front. -/
def Stripped (text core : List Char) : Prop :=
  ∃ bare, Trims isBlank text bare ∧
    (bare = ['0', 'x'] ++ core ∨ bare = core ∧ ¬ ['0', 'x'] <+: bare)

/-- What reading makes of a text. An odd length goes before a bad byte, and that before a wrong
number of bytes. -/
inductive Reads (n : Nat) (text : List Char) : Except ParseError (Octets n) → Prop
  | value {v : Octets n} {digits : List Char} : Spelling v digits text → Reads n text (.ok v)
  | oddLength {core : List Char} : Stripped text core → (Utf8.encode core).length % 2 = 1 →
      Reads n text (.error (.notHex .oddLength))
  | badDigit {core : List Char} {front rest : Bytes} {b : UInt8} : Stripped text core →
      (Utf8.encode core).length % 2 = 0 → Utf8.encode core = front ++ b :: rest →
      (∀ d ∈ front, Hex.IsDigitByte d) → ¬ Hex.IsDigitByte b →
      Reads n text (.error (.notHex (.badDigit b front.length)))
  | wrongLength {core : List Char} {actual : Nat} : Stripped text core →
      (∀ d ∈ Utf8.encode core, Hex.IsDigitByte d) → (Utf8.encode core).length = 2 * actual →
      actual ≠ n → Reads n text (.error (.wrongLength n actual))

variable {text core digits : List Char} {v : Octets n}

theorem dropMark_eq_iff {bare : List Char} :
    dropMark bare = core ↔
      bare = ['0', 'x'] ++ core ∨ bare = core ∧ ¬ ['0', 'x'] <+: bare := by
  by_cases marked : ['0', 'x'] <+: bare
  · obtain ⟨rest, rfl⟩ := marked
    have dropped : dropMark (['0', 'x'] ++ rest) = rest := rfl
    rw [dropped, List.append_cancel_left_eq]
    constructor
    · exact .inl
    · rintro (same | ⟨_, unmarked⟩)
      · exact same
      · exact absurd (List.prefix_append _ _) unmarked
  · have kept : dropMark bare = bare := by
      unfold dropMark
      split
      · next rest => exact absurd (List.prefix_append ['0', 'x'] rest) marked
      · rfl
    rw [kept]
    constructor
    · exact fun same => .inr ⟨same, marked⟩
    · rintro (rfl | ⟨same, _⟩)
      · exact absurd (List.prefix_append _ _) marked
      · exact same

theorem stripped_iff : Stripped text core ↔ dropMark (trim text) = core := by
  rw [dropMark_eq_iff]
  constructor
  · rintro ⟨bare, trims, shape⟩
    rwa [trim_eq_iff.2 trims]
  · exact fun shape => ⟨trim text, trim_eq_iff.1 rfl, shape⟩

theorem Spelling.stripped (spelling : Spelling v digits text) : Stripped text digits := by
  cases spelling with
  | @intro before mark after leading isMark spells trailing =>
      have notBlank : ∀ c ∈ digits, isBlank c = false := by
        intro c member
        obtain ⟨x, isDigit⟩ := spells.isDigit c member
        exact isDigit.not_isBlank
      have bare : IsBare isBlank (mark ++ digits) := by
        apply isBare_of_forall
        intro c member
        cases List.mem_append.1 member with
        | inl inMark =>
            rcases isMark with rfl | rfl
            · cases inMark
            · have all : ∀ c ∈ ['0', 'x'], isBlank c = false :=
                List.forall_mem_cons.2 ⟨rfl, List.forall_mem_singleton.2 rfl⟩
              exact all c inMark
        | inr inDigits => exact notBlank c inDigits
      refine ⟨mark ++ digits, ⟨before, after, rfl, leading, trailing, bare⟩, ?_⟩
      rcases isMark with rfl | rfl
      · refine .inr ⟨rfl, ?_⟩
        rintro ⟨rest, shape⟩
        have inDigits : 'x' ∈ digits := by
          rw [← List.nil_append digits, ← shape]
          simp
        obtain ⟨x, isDigit⟩ := spells.isDigit 'x' inDigits
        exact isDigit.ne_mark rfl
      · exact .inl rfl

theorem Stripped.spelling (stripped : Stripped text core) (spells : Hex.Spells core v.bytes) :
    Spelling v core text := by
  obtain ⟨bare, ⟨before, after, rfl, leading, trailing, _⟩, shape⟩ := stripped
  rcases shape with rfl | ⟨rfl, _⟩
  · exact .intro leading (.inr rfl) spells trailing
  · exact .intro leading (.inl rfl) spells trailing

theorem parse_eq (stripped : Stripped text core) :
    parse n text =
      match Hex.decode core with
      | .error cause => .error (.notHex cause)
      | .ok bytes =>
        if h : bytes.length = n then .ok ⟨bytes, h⟩ else .error (.wrongLength n bytes.length) := by
  obtain rfl := stripped_iff.1 stripped
  rfl

theorem exists_spells_of_stripped (areDigits : ∀ b ∈ Utf8.encode core, Hex.IsDigitByte b)
    (even : (Utf8.encode core).length % 2 = 0) : ∃ bytes, Hex.Spells core bytes := by
  have eachDigit := Hex.isDigit_of_bytes areDigits
  have sameLength : (Utf8.encode core).length = core.length := by
    clear even areDigits
    induction core with
    | nil => rfl
    | cons c core ih =>
        obtain ⟨⟨x, isDigit⟩, others⟩ := List.forall_mem_cons.1 eachDigit
        rw [Utf8.encode_cons, Utf8.utf8EncodeChar_of_lt isDigit.ascii, List.singleton_append,
          List.length_cons, ih others, List.length_cons]
  exact Hex.exists_spells eachDigit (sameLength ▸ even)

theorem Reads.parse_eq {verdict : Except ParseError (Octets n)} (reads : Reads n text verdict) :
    parse n text = verdict := by
  cases reads with
  | @value v digits spelling =>
      have stripped := spelling.stripped
      cases spelling with
      | intro _ _ spells _ =>
          rw [Octets.parse_eq stripped, Hex.decode_of_spells spells]
          simp only [v.length_eq, dif_pos]
  | @oddLength core stripped odd =>
      rw [Octets.parse_eq stripped, Hex.decode, Hex.decodeBytes, if_pos odd]
  | @badDigit core front rest b stripped even shape areDigits isBad =>
      have notOdd : ¬ (Utf8.encode core).length % 2 = 1 := by omega
      rw [shape] at even
      rw [Octets.parse_eq stripped, Hex.decode, Hex.decodeBytes, if_neg notOdd, shape,
        Hex.decodeFrom_badDigit 0 [] areDigits isBad even, Nat.zero_add]
  | @wrongLength core actual stripped areDigits length different =>
      obtain ⟨bytes, spells⟩ := exists_spells_of_stripped areDigits (by omega)
      obtain rfl : bytes.length = actual := by
        have twice := Hex.length_utf8_of_spells spells
        omega
      rw [Octets.parse_eq stripped, Hex.decode_of_spells spells]
      simp only [different, dif_neg, not_false_eq_true]

private theorem exists_reads (n : Nat) (text : List Char) : ∃ verdict, Reads n text verdict := by
  have stripped : Stripped text (dropMark (trim text)) := stripped_iff.2 rfl
  generalize dropMark (trim text) = core at stripped
  rcases Nat.mod_two_eq_zero_or_one (Utf8.encode core).length with even | odd
  · cases found : (Utf8.encode core).find? fun b => (Hex.value? b).isNone with
    | some b =>
        obtain ⟨isBad, front, rest, shape, others⟩ := List.find?_eq_some_iff_append.1 found
        rw [Option.isNone_iff_eq_none, Hex.value?_eq_none_iff] at isBad
        refine ⟨_, .badDigit stripped even shape ?_ isBad⟩
        intro d member
        have hasValue := others d member
        rw [Bool.not_eq_true', Option.isNone_eq_false_iff, Option.isSome_iff_exists] at hasValue
        obtain ⟨x, isValue⟩ := hasValue
        exact Hex.exists_isDigit_of_value? isValue
    | none =>
        have areDigits : ∀ b ∈ Utf8.encode core, Hex.IsDigitByte b := by
          intro b member
          have hasValue := List.find?_eq_none.1 found b member
          rw [Option.isNone_iff_eq_none, Hex.value?_eq_none_iff, not_not] at hasValue
          exact hasValue
        obtain ⟨bytes, spells⟩ := exists_spells_of_stripped areDigits even
        by_cases isLength : bytes.length = n
        · exact ⟨.ok ⟨bytes, isLength⟩, .value (stripped.spelling spells)⟩
        · exact ⟨_, .wrongLength stripped areDigits (Hex.length_utf8_of_spells spells) isLength⟩
  · exact ⟨_, .oddLength stripped odd⟩

theorem parse_eq_iff {verdict : Except ParseError (Octets n)} :
    parse n text = verdict ↔ Reads n text verdict := by
  constructor
  · rintro rfl
    obtain ⟨verdict, reads⟩ := exists_reads n text
    rwa [reads.parse_eq]
  · exact Reads.parse_eq

theorem parse?_eq_some_iff : parse? n text = some v ↔ ∃ digits, Spelling v digits text := by
  rw [parse?]
  constructor
  · intro isRead
    cases parsed : parse n text with
    | error cause =>
        rw [parsed] at isRead
        cases isRead
    | ok w =>
        rw [parsed] at isRead
        cases isRead
        cases parse_eq_iff.1 parsed with
        | value spelling => exact ⟨_, spelling⟩
  · rintro ⟨digits, spelling⟩
    rw [(Reads.value spelling).parse_eq]
    rfl

private theorem Spelling.toString_eq (spelling : Spelling v digits text) :
    toString v = String.ofList (digits.map Char.toLower) := by
  cases spelling with
  | intro _ _ spells _ => exact congrArg String.ofList spells.encode_eq

theorem Spelling.length (spelling : Spelling v digits text) : digits.length = 2 * n := by
  cases spelling with
  | intro _ _ spells _ => rw [spells.length, v.length_eq]

theorem spelling_toHex (v : Octets n) : Spelling v v.toHex v.toHex := by
  have spelling : Spelling v v.toHex ([] ++ ([] ++ v.toHex ++ [])) :=
    .intro (List.forall_mem_nil _) (.inl rfl) (Hex.spells_encode v.bytes) (List.forall_mem_nil _)
  rwa [List.nil_append, List.nil_append, List.append_nil] at spelling

theorem Spelling.eq_iff {w : Octets n} {others other : List Char}
    (spelling : Spelling v digits text) (spellingToo : Spelling w others other) :
    v = w ↔ digits.map Char.toLower = others.map Char.toLower := by
  cases spelling with
  | intro _ _ spells _ =>
      cases spellingToo with
      | intro _ _ spellsToo _ =>
          rw [← spells.eq_iff spellsToo]
          exact ⟨congrArg bytes, eq_of_bytes_eq⟩

/-- A text is read as a byte string exactly if it is white space, one `0x` or none, twice as many
digits as bytes, which spell them, and white space. Every other text has the error of what is left
when it is trimmed and one `0x` is removed: an odd number of bytes, else the first byte that is no
digit, with its place, else the number of bytes that the digits write. A byte string is shown as its
digits in lower case, and reads back; so texts denote the same one if their digits agree up to
case. -/
theorem text_read_by_its_digits (n : Nat) :
    (∀ text verdict, parse n text = verdict ↔ Reads n text verdict) ∧
    (∀ (v : Octets n) digits text, Spelling v digits text →
      digits.length = 2 * n ∧ toString v = String.ofList (digits.map Char.toLower)) ∧
    (∀ v : Octets n, parse n (toString v).toList = .ok v) ∧
    (∀ (v w : Octets n) digits text others other, Spelling v digits text → Spelling w others other →
      (v = w ↔ digits.map Char.toLower = others.map Char.toLower)) ∧
    (ParseError.notHex .oddLength).message = "invalid hex: Odd number of digits" ∧
    (∀ b index, ∃ shown, (ParseError.notHex (.badDigit b index)).message =
      "invalid hex: Invalid character '" ++ shown ++ "' at position " ++ toString index) ∧
    ∀ actual, (ParseError.wrongLength n actual).message =
      "invalid length: expected " ++ toString n ++ " bytes, got " ++ toString actual := by
  refine ⟨fun text verdict => parse_eq_iff, ?_, ?_, ?_, by decide, ?_, fun actual => rfl⟩
  · exact fun v digits text spelling => ⟨spelling.length, spelling.toString_eq⟩
  · intro v
    have shown : (toString v).toList = v.toHex := String.toList_ofList
    rw [shown]
    exact (Reads.value v.spelling_toHex).parse_eq
  · exact fun v w digits text others other spelling spellingToo => spelling.eq_iff spellingToo
  · intro b index
    have joined : "invalid hex: " ++ "Invalid character '" = "invalid hex: Invalid character '" := by
      decide
    have worded : (ParseError.notHex (.badDigit b index)).message =
        "invalid hex: " ++ ("Invalid character '" ++
          String.ofList (Hex.quoteChar (Char.ofNat b.toNat)) ++ "' at position " ++
            toString index) := rfl
    refine ⟨String.ofList (Hex.quoteChar (Char.ofNat b.toNat)), ?_⟩
    rw [worded, ← joined]
    simp only [String.append_assoc]

example : parse 2 "\t0xaB0f\u00a0".toList = .ok ⟨[0xab, 0x0f], rfl⟩ := by decide +kernel

example : parse 2 "0x0x0".toList = .error (.notHex .oddLength) := by decide +kernel

end Octets

end UptimeIntake
