import UptimeIntake.Octets
import UptimeIntake.Proofs.Text.Utf8

/-!
# Hexadecimal text

Which digits write which bytes. Decoding reads the digits of either case and stops at the first
byte that is none; it undoes encoding, so byte strings with one text are the same.
-/

set_option autoImplicit false

namespace UptimeIntake

namespace Text.Hex

private theorem length_encode (bytes : Bytes) : (encode bytes).length = 2 * bytes.length := by
  induction bytes with
  | nil => rfl
  | cons byte bytes ih =>
      rw [encode, List.flatMap_cons, List.length_append, ← encode, ih, List.length_cons]
      simp only [encodeByte, List.length_cons, List.length_nil]
      omega

/-! ## Digits -/

/-- The digits of either case with their values. -/
def digitTable : List (Char × Nat) :=
  "0123456789abcdef".toList.zipIdx ++ "ABCDEF".toList.zipIdx 10

def IsDigit (c : Char) (x : Nat) : Prop :=
  (c, x) ∈ digitTable

/-- The byte is that of a digit. -/
def IsDigitByte (b : UInt8) : Prop :=
  ∃ c x, IsDigit c x ∧ c.toNat = b.toNat

/-- The digits write the bytes, the high half of each first. -/
inductive Spells : List Char → Bytes → Prop
  | nil : Spells [] []
  | cons {high low : Char} {x y : Nat} {digits : List Char} {bytes : Bytes} :
      IsDigit high x → IsDigit low y → Spells digits bytes →
      Spells (high :: low :: digits) (UInt8.ofNat (16 * x + y) :: bytes)

variable {c : Char} {x : Nat} {digits : List Char} {bytes : Bytes}

theorem IsDigit.ascii (isDigit : IsDigit c x) : c.toNat < 0x80 := by
  have all : ∀ d ∈ digitTable, d.1.toNat < 0x80 := by decide
  exact all (c, x) isDigit

theorem IsDigit.lt (isDigit : IsDigit c x) : x < 16 := by
  have all : ∀ d ∈ digitTable, d.2 < 16 := by decide
  exact all (c, x) isDigit

theorem IsDigit.value? (isDigit : IsDigit c x) : value? (UInt8.ofNat c.toNat) = some x := by
  have all : ∀ d ∈ digitTable, Hex.value? (UInt8.ofNat d.1.toNat) = some d.2 := by decide
  exact all (c, x) isDigit

theorem IsDigit.digit_eq (isDigit : IsDigit c x) : digit x = c.toLower := by
  have all : ∀ d ∈ digitTable, digit d.2 = d.1.toLower := by decide
  exact all (c, x) isDigit

theorem IsDigit.not_isBlank (isDigit : IsDigit c x) : isBlank c = false := by
  have all : ∀ d ∈ digitTable, isBlank d.1 = false := by decide +kernel
  exact all (c, x) isDigit

theorem IsDigit.ne_mark (isDigit : IsDigit c x) : c ≠ 'x' := by
  have all : ∀ d ∈ digitTable, d.1 ≠ 'x' := by decide
  exact all (c, x) isDigit

theorem isDigit_digit {n : Nat} (small : n < 16) : IsDigit (digit n) n := by
  have all : ∀ m < 16, (digit m, m) ∈ digitTable := by decide
  exact all n small

theorem exists_isDigit_of_value? {b : UInt8} (isValue : value? b = some x) : IsDigitByte b := by
  have all : ∀ n < 256, ∀ y ∈ value? (UInt8.ofNat n),
      (Char.ofNat n, y) ∈ digitTable ∧ (Char.ofNat n).toNat = n := by decide +kernel
  have same : UInt8.ofNat b.toNat = b := UInt8.ofNat_toNat
  obtain ⟨isDigit, sameNumber⟩ := all b.toNat b.toNat_lt x (by rwa [same])
  exact ⟨_, x, isDigit, sameNumber⟩

theorem value?_eq_none_iff {b : UInt8} : value? b = none ↔ ¬ IsDigitByte b := by
  constructor
  · rintro noValue ⟨c, x, isDigit, sameNumber⟩
    have isValue := isDigit.value?
    rw [sameNumber, UInt8.ofNat_toNat, noValue] at isValue
    cases isValue
  · intro noDigit
    cases isValue : value? b with
    | none => rfl
    | some x => exact absurd (exists_isDigit_of_value? isValue) noDigit

theorem IsDigitByte.exists_value? {b : UInt8} (isDigit : IsDigitByte b) :
    ∃ x, value? b = some x := by
  cases isValue : value? b with
  | none => exact absurd isDigit (value?_eq_none_iff.1 isValue)
  | some x => exact ⟨x, rfl⟩

/-! ## Digits that spell bytes -/

theorem Spells.length (spells : Spells digits bytes) : digits.length = 2 * bytes.length := by
  induction spells with
  | nil => rfl
  | cons _ _ _ ih =>
      simp only [List.length_cons, ih]
      omega

theorem Spells.isDigit (spells : Spells digits bytes) : ∀ c ∈ digits, ∃ x, IsDigit c x := by
  induction spells with
  | nil => exact fun _ member => by cases member
  | cons high low _ ih => exact List.forall_mem_cons.2 ⟨⟨_, high⟩, List.forall_mem_cons.2 ⟨⟨_, low⟩, ih⟩⟩

theorem Spells.encode_eq (spells : Spells digits bytes) :
    encode bytes = digits.map Char.toLower := by
  induction spells with
  | nil => rfl
  | @cons high low x y digits bytes highDigit lowDigit _ ih =>
      have x_lt := highDigit.lt
      have y_lt := lowDigit.lt
      have byte : (UInt8.ofNat (16 * x + y)).toNat = 16 * x + y :=
        Utf8.toNat_ofNat_of_lt (by omega)
      have highHalf : (16 * x + y) / 16 = x := by omega
      have lowHalf : (16 * x + y) % 16 = y := by omega
      rw [encode, List.flatMap_cons, ← encode, ih, encodeByte, byte, highHalf, lowHalf,
        highDigit.digit_eq, lowDigit.digit_eq]
      rfl

theorem spells_encode (bytes : Bytes) : Spells (encode bytes) bytes := by
  induction bytes with
  | nil => exact .nil
  | cons byte bytes ih =>
      have lt := byte.toNat_lt
      have whole : 16 * (byte.toNat / 16) + byte.toNat % 16 = byte.toNat := by omega
      have spells := Spells.cons (isDigit_digit (n := byte.toNat / 16) (by omega))
        (isDigit_digit (n := byte.toNat % 16) (by omega)) ih
      rwa [whole, UInt8.ofNat_toNat] at spells

theorem exists_spells {digits : List Char} (areDigits : ∀ c ∈ digits, ∃ x, IsDigit c x)
    (even : digits.length % 2 = 0) : ∃ bytes, Spells digits bytes := by
  match digits with
  | [] => exact ⟨[], .nil⟩
  | [_] => cases even
  | high :: low :: digits =>
      obtain ⟨⟨x, highDigit⟩, ⟨y, lowDigit⟩, others⟩ :=
        (List.forall_mem_cons.1 areDigits).imp_right List.forall_mem_cons.1
      simp only [List.length_cons] at even
      obtain ⟨bytes, spells⟩ := exists_spells others (by omega)
      exact ⟨_, .cons highDigit lowDigit spells⟩

/-! ## Reading digits -/

private theorem decodeFrom_spells (spells : Spells digits bytes) (index : Nat) (seen : Bytes) :
    decodeFrom index seen (Utf8.encode digits) = .ok (seen.reverse ++ bytes) := by
  induction spells generalizing index seen with
  | nil => rw [List.append_nil]; rfl
  | @cons high low x y digits bytes highDigit lowDigit _ ih =>
      have commuted : x * 16 + y = 16 * x + y := by omega
      rw [Utf8.encode_cons, Utf8.encode_cons, Utf8.utf8EncodeChar_of_lt highDigit.ascii,
        Utf8.utf8EncodeChar_of_lt lowDigit.ascii, List.singleton_append, List.singleton_append,
        decodeFrom]
      simp only [highDigit.value?, lowDigit.value?, commuted, ih]
      rw [List.reverse_cons, List.append_assoc, List.singleton_append]

theorem length_utf8_of_spells (spells : Spells digits bytes) :
    (Utf8.encode digits).length = 2 * bytes.length := by
  induction spells with
  | nil => rfl
  | cons highDigit lowDigit _ ih =>
      rw [Utf8.encode_cons, Utf8.encode_cons, Utf8.utf8EncodeChar_of_lt highDigit.ascii,
        Utf8.utf8EncodeChar_of_lt lowDigit.ascii]
      simp only [List.singleton_append, List.length_cons, ih]
      omega

theorem decode_of_spells (spells : Spells digits bytes) : decode digits = .ok bytes := by
  have even : ¬ (Utf8.encode digits).length % 2 = 1 := by
    rw [length_utf8_of_spells spells]
    omega
  rw [decode, decodeBytes, if_neg even, decodeFrom_spells spells]
  rfl

theorem decode_encode (bytes : Bytes) : decode (encode bytes) = .ok bytes :=
  decode_of_spells (spells_encode bytes)

theorem encode_injective {first second : Bytes} (same : encode first = encode second) :
    first = second := by
  have decoded := congrArg decode same
  rwa [decode_encode, decode_encode, Except.ok.injEq] at decoded

theorem Spells.eq_iff {others : List Char} {more : Bytes} (spells : Spells digits bytes)
    (spellsToo : Spells others more) :
    bytes = more ↔ digits.map Char.toLower = others.map Char.toLower := by
  rw [← spells.encode_eq, ← spellsToo.encode_eq]
  exact ⟨congrArg encode, encode_injective⟩

theorem decodeFrom_badDigit (index : Nat) (seen : Bytes) {front rest : Bytes} {b : UInt8}
    (areDigits : ∀ d ∈ front, IsDigitByte d) (isBad : ¬ IsDigitByte b)
    (even : (front ++ b :: rest).length % 2 = 0) :
    decodeFrom index seen (front ++ b :: rest) = .error (.badDigit b (index + front.length)) := by
  have noValue := value?_eq_none_iff.2 isBad
  match front, rest with
  | [], [] => cases even
  | [], low :: rest => simp only [List.nil_append, decodeFrom, noValue, List.length_nil, Nat.add_zero]
  | [high], rest =>
      obtain ⟨x, isValue⟩ := (List.forall_mem_singleton.1 areDigits).exists_value?
      simp only [List.singleton_append, decodeFrom, isValue, noValue, List.length_singleton]
  | high :: low :: front, rest =>
      obtain ⟨highDigit, lowDigit, others⟩ :=
        (List.forall_mem_cons.1 areDigits).imp_right List.forall_mem_cons.1
      obtain ⟨x, highValue⟩ := highDigit.exists_value?
      obtain ⟨y, lowValue⟩ := lowDigit.exists_value?
      have evenBehind : (front ++ b :: rest).length % 2 = 0 := by
        simp only [List.cons_append, List.length_cons] at even
        omega
      have later := decodeFrom_badDigit (index + 2) (UInt8.ofNat (x * 16 + y) :: seen) others isBad
        evenBehind
      simp only [List.cons_append, decodeFrom, highValue, lowValue, later, List.length_cons]
      congr 2
      omega

end Text.Hex

namespace Octets

variable {n : Nat}

theorem length_toHex (a : Octets n) : a.toHex.length = 2 * n := by
  rw [toHex, Text.Hex.length_encode, a.length_eq]

theorem toHex_injective {a b : Octets n} (same : a.toHex = b.toHex) : a = b :=
  eq_of_bytes_eq (Text.Hex.encode_injective same)

end Octets

end UptimeIntake
