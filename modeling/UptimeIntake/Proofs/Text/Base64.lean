import UptimeIntake.Text.Base64

/-!
# Base64 reads back

Decoding undoes encoding for every list of bytes. The proof follows the groups of three bytes;
the last group, which may be padded, is the only one whose form depends on its length. What is read
has a form of its own, which leaves no choice: every list of bytes has one text.
-/

set_option autoImplicit false

namespace UptimeIntake.Text.Base64

/-! ## One character -/

theorem value?_char {n : Nat} (small : n < 64) : value? (char n) = some n := by
  have all : ∀ m < 64, value? (char m) = some m := by decide
  exact all n small

theorem char_ne_pad {n : Nat} (small : n < 64) : char n ≠ '=' := by
  have all : ∀ m < 64, char m ≠ '=' := by decide
  exact all n small

/-! ## Writing -/

/-- The four characters of three bytes. -/
def group (a b c : UInt8) : List Char :=
  let n := a.toNat * 65536 + b.toNat * 256 + c.toNat
  [char (n / 262144), char (n / 4096 % 64), char (n / 64 % 64), char (n % 64)]

theorem encodeFrom_eq : ∀ (seen : List Char) (bytes : Bytes),
    encodeFrom seen bytes = seen.reverse ++ encode bytes
  | seen, [] => by simp [encode, encodeFrom]
  | seen, [a] => by simp [encode, encodeFrom]
  | seen, [a, b] => by simp [encode, encodeFrom]
  | seen, a :: b :: c :: rest => by
    rw [encode, encodeFrom, encodeFrom, encodeFrom_eq _ rest, encodeFrom_eq _ rest]
    simp

theorem encode_cons_cons_cons (a b c : UInt8) (rest : Bytes) :
    encode (a :: b :: c :: rest) = group a b c ++ encode rest := by
  rw [encode, encodeFrom, encodeFrom_eq]
  rfl

private theorem encode_cons_ne_nil (a : UInt8) : ∀ rest : Bytes, encode (a :: rest) ≠ []
  | [] => by simp [encode, encodeFrom]
  | [b] => by simp [encode, encodeFrom]
  | b :: c :: rest => by simp [encode_cons_cons_cons, group]

/-! ## Reading -/

theorem fullGroup_values (a b c : UInt8) :
    let n := a.toNat * 65536 + b.toNat * 256 + c.toNat
    fullGroup (n / 262144) (n / 4096 % 64) (n / 64 % 64) (n % 64) = [a, b, c] := by
  intro n
  have a_lt := a.toNat_lt
  have b_lt := b.toNat_lt
  have c_lt := c.toNat_lt
  have whole : n / 262144 * 262144 + n / 4096 % 64 * 4096 + n / 64 % 64 * 64 + n % 64 = n := by
    omega
  have first : n / 65536 = a.toNat := by omega
  have second : n / 256 % 256 = b.toNat := by omega
  have third : n % 256 = c.toNat := by omega
  simp only [fullGroup, whole, first, second, third, UInt8.ofNat_toNat]

private theorem lastGroup?_one (a : UInt8) :
    lastGroup? (char (a.toNat / 4)) (char (a.toNat % 4 * 16)) '=' '=' = some [a] := by
  have a_lt := a.toNat_lt
  have whole : a.toNat / 4 * 4 + a.toNat % 4 * 16 / 16 = a.toNat := by omega
  have unused : a.toNat % 4 * 16 % 16 = 0 := by omega
  rw [lastGroup?, value?_char (by omega), value?_char (by omega)]
  simp only [if_true, unused, whole, UInt8.ofNat_toNat]

private theorem lastGroup?_two (a b : UInt8) :
    let n := a.toNat * 256 + b.toNat
    lastGroup? (char (n / 1024)) (char (n / 16 % 64)) (char (n % 16 * 4)) '=' = some [a, b] := by
  intro n
  have a_lt := a.toNat_lt
  have b_lt := b.toNat_lt
  have whole : n / 1024 * 1024 + n / 16 % 64 * 16 + n % 16 * 4 / 4 = n := by omega
  have first : n / 256 = a.toNat := by omega
  have second : n % 256 = b.toNat := by omega
  have unused : n % 16 * 4 % 4 = 0 := by omega
  have notPad : char (n % 16 * 4) ≠ '=' := char_ne_pad (by omega)
  rw [lastGroup?, value?_char (by omega), value?_char (by omega), value?_char (by omega)]
  simp only [if_true, if_neg notPad, unused, whole, first, second, UInt8.ofNat_toNat]

private theorem lastGroup?_full (a b c : UInt8) :
    let n := a.toNat * 65536 + b.toNat * 256 + c.toNat
    lastGroup? (char (n / 262144)) (char (n / 4096 % 64)) (char (n / 64 % 64)) (char (n % 64)) =
      some [a, b, c] := by
  intro n
  have a_lt := a.toNat_lt
  have b_lt := b.toNat_lt
  have c_lt := c.toNat_lt
  have notPad : char (n % 64) ≠ '=' := char_ne_pad (by omega)
  rw [lastGroup?, value?_char (by omega), value?_char (by omega), value?_char (by omega),
    value?_char (by omega)]
  simp only [if_neg notPad]
  exact congrArg some (fullGroup_values a b c)

/-- A full group behind which more text stands. -/
theorem decodeFrom_group (seen : Bytes) (a b c : UInt8) {text : List Char} (more : text ≠ []) :
    decodeFrom seen (group a b c ++ text) = decodeFrom (c :: b :: a :: seen) text := by
  have a_lt := a.toNat_lt
  have b_lt := b.toNat_lt
  have c_lt := c.toNat_lt
  cases text with
  | nil => exact absurd rfl more
  | cons x text =>
      simp only [group, List.cons_append, List.nil_append, decodeFrom]
      rw [value?_char (by omega), value?_char (by omega), value?_char (by omega),
        value?_char (by omega)]
      simp only [fullGroup_values a b c]
      rfl

theorem decodeFrom_encode : ∀ (seen bytes : Bytes),
    decodeFrom seen (encode bytes) = some (seen.reverse ++ bytes)
  | seen, [] => by simp [encode, encodeFrom, decodeFrom]
  | seen, [a] => by simp [encode, encodeFrom, decodeFrom, lastGroup?_one]
  | seen, [a, b] => by simp [encode, encodeFrom, decodeFrom, lastGroup?_two]
  | seen, [a, b, c] => by
    simp [encode, encodeFrom, decodeFrom, lastGroup?_full]
  | seen, a :: b :: c :: d :: rest => by
    rw [encode_cons_cons_cons, decodeFrom_group seen a b c (encode_cons_ne_nil d rest),
      decodeFrom_encode _ (d :: rest)]
    simp

theorem decode_encode (bytes : Bytes) : decode (encode bytes) = some bytes :=
  decodeFrom_encode [] bytes

/-! ## Only what is written is read -/

/-- The text consists of groups of four characters of the alphabet, the last of which may end in
padding that leaves over no bit but zeros. -/
inductive IsCanonical : List Char → Prop
  | empty : IsCanonical []
  | one {a b : Char} {w x : Nat} : value? a = some w → value? b = some x → x % 16 = 0 →
      IsCanonical [a, b, '=', '=']
  | two {a b c : Char} {w x y : Nat} : value? a = some w → value? b = some x →
      value? c = some y → y % 4 = 0 → IsCanonical [a, b, c, '=']
  | group {a b c d : Char} {w x y z : Nat} {rest : List Char} : value? a = some w →
      value? b = some x → value? c = some y → value? d = some z → IsCanonical rest →
      IsCanonical (a :: b :: c :: d :: rest)

variable {a b c d : Char} {w x y z : Nat} {text : List Char} {bytes : Bytes}

theorem char_of_value? (isValue : value? a = some w) : w < 64 ∧ char w = a := by
  have back {n : Nat} (isCode : n = a.toNat) : Char.ofNat n = a := by
    rw [isCode, Char.ofNat_toNat]
  simp only [value?] at isValue
  split at isValue
  · obtain rfl := Option.some.inj isValue
    rw [char, if_pos (by omega)]
    exact ⟨by omega, back (by omega)⟩
  split at isValue
  · obtain rfl := Option.some.inj isValue
    rw [char, if_neg (by omega), if_pos (by omega)]
    exact ⟨by omega, back (by omega)⟩
  split at isValue
  · obtain rfl := Option.some.inj isValue
    rw [char, if_neg (by omega), if_neg (by omega), if_pos (by omega)]
    exact ⟨by omega, back (by omega)⟩
  split at isValue
  · next isPlus =>
      obtain rfl := Option.some.inj isValue
      exact ⟨by decide, isPlus.symm⟩
  split at isValue
  · next isSlash =>
      obtain rfl := Option.some.inj isValue
      exact ⟨by decide, isSlash.symm⟩
  · cases isValue

private theorem group_of_values (first : value? a = some w) (second : value? b = some x)
    (third : value? c = some y) (fourth : value? d = some z) :
    ∃ p q r, fullGroup w x y z = [p, q, r] ∧ group p q r = [a, b, c, d] := by
  have joined (n : Nat) : n / 65536 * 65536 + n / 256 % 256 * 256 + n % 256 = n := by omega
  obtain ⟨w_lt, rfl⟩ := char_of_value? first
  obtain ⟨x_lt, rfl⟩ := char_of_value? second
  obtain ⟨y_lt, rfl⟩ := char_of_value? third
  obtain ⟨z_lt, rfl⟩ := char_of_value? fourth
  unfold fullGroup
  generalize isSum : w * 262144 + x * 4096 + y * 64 + z = n
  refine ⟨UInt8.ofNat (n / 65536), UInt8.ofNat (n / 256 % 256), UInt8.ofNat (n % 256), rfl, ?_⟩
  have isFirst : n / 262144 = w := by omega
  have isSecond : n / 4096 % 64 = x := by omega
  have isThird : n / 64 % 64 = y := by omega
  have isFourth : n % 64 = z := by omega
  rw [group, UInt8.toNat_ofNat_of_lt' (show n / 65536 < 256 by omega),
    UInt8.toNat_ofNat_of_lt' (show n / 256 % 256 < 256 by omega),
    UInt8.toNat_ofNat_of_lt' (show n % 256 < 256 by omega), joined]
  simp only [isFirst, isSecond, isThird, isFourth]

theorem IsCanonical.exists_eq_encode (canonical : IsCanonical text) :
    ∃ bytes, text = encode bytes := by
  induction canonical with
  | empty => exact ⟨[], rfl⟩
  | @one a b w x first second unused =>
      obtain ⟨w_lt, rfl⟩ := char_of_value? first
      obtain ⟨x_lt, rfl⟩ := char_of_value? second
      generalize isSum : w * 4 + x / 16 = n
      have isFirst : n / 4 = w := by omega
      have isSecond : n % 4 * 16 = x := by omega
      refine ⟨[UInt8.ofNat n], ?_⟩
      rw [encode, encodeFrom, UInt8.toNat_ofNat_of_lt' (show n < 256 by omega), isFirst, isSecond]
      rfl
  | @two a b c w x y first second third unused =>
      have joined (n : Nat) : n / 256 * 256 + n % 256 = n := by omega
      obtain ⟨w_lt, rfl⟩ := char_of_value? first
      obtain ⟨x_lt, rfl⟩ := char_of_value? second
      obtain ⟨y_lt, rfl⟩ := char_of_value? third
      generalize isSum : w * 1024 + x * 16 + y / 4 = n
      have isFirst : n / 1024 = w := by omega
      have isSecond : n / 16 % 64 = x := by omega
      have isThird : n % 16 * 4 = y := by omega
      refine ⟨[UInt8.ofNat (n / 256), UInt8.ofNat (n % 256)], ?_⟩
      rw [encode, encodeFrom, UInt8.toNat_ofNat_of_lt' (show n / 256 < 256 by omega),
        UInt8.toNat_ofNat_of_lt' (show n % 256 < 256 by omega), joined]
      simp only [isFirst, isSecond, isThird]
      rfl
  | group first second third fourth _ ih =>
      obtain ⟨p, q, r, _, isGroup⟩ := group_of_values first second third fourth
      obtain ⟨more, rfl⟩ := ih
      refine ⟨p :: q :: r :: more, ?_⟩
      rw [encode_cons_cons_cons, isGroup]
      rfl

private theorem isCanonical_of_lastGroup? (reads : lastGroup? a b c d = some bytes) :
    IsCanonical [a, b, c, d] := by
  unfold lastGroup? at reads
  split at reads
  · next w x first second =>
      split at reads
      · next isPad =>
          subst isPad
          split at reads
          · next isPad =>
              subst isPad
              split at reads
              · next unused => exact .one first second unused
              · cases reads
          split at reads
          · next y third =>
              split at reads
              · next unused => exact .two first second third unused
              · cases reads
          · cases reads
      · split at reads
        · next y z third fourth => exact .group first second third fourth .empty
        · cases reads
  · cases reads

theorem isCanonical_of_decodeFrom {seen : Bytes} (reads : decodeFrom seen text = some bytes) :
    IsCanonical text := by
  fun_induction decodeFrom seen text with
  | case1 => exact .empty
  | case2 seen a b c d =>
      obtain ⟨last, isLast, _⟩ := Option.map_eq_some_iff.1 reads
      exact isCanonical_of_lastGroup? isLast
  | case3 seen a b c d rest _ w x y z fourth third second first ih =>
      exact .group first second third fourth (ih reads)
  | case4 => cases reads
  | case5 => cases reads

/-- Every list of bytes is read from the one text that writes it. -/
theorem decode_eq_some_iff : decode text = some bytes ↔ text = encode bytes := by
  constructor
  · intro reads
    obtain ⟨written, rfl⟩ := (isCanonical_of_decodeFrom reads).exists_eq_encode
    rw [decode_encode] at reads
    rw [Option.some.inj reads]
  · rintro rfl
    exact decode_encode bytes

theorem isCanonical_iff : IsCanonical text ↔ ∃ bytes, decode text = some bytes := by
  constructor
  · intro canonical
    obtain ⟨bytes, rfl⟩ := canonical.exists_eq_encode
    exact ⟨bytes, decode_encode bytes⟩
  · rintro ⟨bytes, reads⟩
    exact isCanonical_of_decodeFrom reads

end UptimeIntake.Text.Base64
