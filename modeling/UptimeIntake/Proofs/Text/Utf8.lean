import UptimeIntake.Text.Utf8

/-!
# UTF-8 reads back

Decoding undoes encoding for every list of characters. The proof goes by the length of the form
of one character; behind it the reader stands where it stood, with one character more.
-/

set_option autoImplicit false

namespace UptimeIntake.Text.Utf8

@[simp] theorem encode_nil : encode [] = [] := rfl

@[simp] theorem encode_cons (c : Char) (cs : List Char) :
    encode (c :: cs) = String.utf8EncodeChar c ++ encode cs :=
  List.flatMap_cons

@[simp] theorem encode_append (cs ds : List Char) : encode (cs ++ ds) = encode cs ++ encode ds :=
  List.flatMap_append

theorem utf8EncodeChar_of_lt {c : Char} (ascii : c.toNat < 0x80) :
    String.utf8EncodeChar c = [UInt8.ofNat c.toNat] := by
  have small : c.val.toNat ≤ 0x7F := Nat.le_of_lt_succ ascii
  rw [String.utf8EncodeChar.eq_1, if_pos small]
  rfl

theorem toNat_ofNat_of_lt {n : Nat} (small : n < 256) : (UInt8.ofNat n).toNat = n :=
  UInt8.toNat_ofNat_of_lt' small

theorem toNat_lt (c : Char) : c.toNat < 0x110000 := by
  have valid : c.toNat < 0xD800 ∨ 0xDFFF < c.toNat ∧ c.toNat < 0x110000 := c.valid
  omega

/-! ## Sizes -/

theorem length_encode_cons (c : Char) (cs : List Char) :
    (encode (c :: cs)).length = c.utf8Size + (encode cs).length := by
  rw [encode_cons, List.length_append, String.length_utf8EncodeChar]

theorem length_encode_of_ascii {cs : List Char} (ascii : ∀ c ∈ cs, c.toNat < 128) :
    (encode cs).length = cs.length := by
  induction cs with
  | nil => rfl
  | cons c cs ih =>
      obtain ⟨isAscii, ascii⟩ := List.forall_mem_cons.1 ascii
      have one : c.utf8Size = 1 := Char.utf8Size_eq_one_iff.2 (Nat.le_of_lt_succ isAscii)
      rw [length_encode_cons, one, ih ascii, List.length_cons, Nat.add_comm]

private theorem eq_nil_of_length_encode {cs : List Char} (empty : (encode cs).length = 0) :
    cs = [] := by
  cases cs with
  | nil => rfl
  | cons c cs =>
      have positive := c.utf8Size_pos
      rw [length_encode_cons] at empty
      omega

theorem length_encode_le_of_prefix {front text : List Char} (isFront : front <+: text) :
    (encode front).length ≤ (encode text).length := by
  obtain ⟨rest, rfl⟩ := isFront
  rw [encode_append, List.length_append]
  exact Nat.le_add_right _ _

/-- A text has at most one front of each size. -/
theorem front_unique {text first second : List Char} (isFirst : first <+: text)
    (isSecond : second <+: text) (same : (encode first).length = (encode second).length) :
    first = second := by
  have nothing {shorter longer : List Char} (ordered : shorter <+: longer)
      (same : (encode shorter).length = (encode longer).length) : shorter = longer := by
    obtain ⟨rest, rfl⟩ := ordered
    rw [encode_append, List.length_append] at same
    rw [eq_nil_of_length_encode (show (encode rest).length = 0 by omega), List.append_nil]
  cases List.prefix_or_prefix_of_prefix isFirst isSecond with
  | inl ordered => exact nothing ordered same
  | inr ordered => exact (nothing ordered same.symm).symm

/-! ## Forms of several bytes -/

theorem continuation?_ofNat {x : Nat} (small : x < 64) :
    continuation? (UInt8.ofNat (x + 128)) = some x := by
  rw [continuation?, toNat_ofNat_of_lt (by omega), if_pos (by omega), Nat.add_sub_cancel]

theorem scalar?_toNat {c : Char} {least : Nat} (large : least ≤ c.toNat) :
    scalar? least c.toNat = some c := by
  rw [scalar?, if_pos ⟨large, c.valid⟩, Char.ofNat_toNat]

variable {c : Char}

private theorem two?_toNat (low : 0x80 ≤ c.toNat) (high : c.toNat < 0x800) :
    two? (UInt8.ofNat (c.toNat / 64 % 32 + 192)) (UInt8.ofNat (c.toNat % 64 + 128)) = some c := by
  have lead : (UInt8.ofNat (c.toNat / 64 % 32 + 192)).toNat = c.toNat / 64 % 32 + 192 :=
    toNat_ofNat_of_lt (by omega)
  have whole : (c.toNat / 64 % 32 + 192 - 0xC0) * 64 + c.toNat % 64 = c.toNat := by omega
  rw [two?, lead, if_pos (by omega), continuation?_ofNat (by omega), Option.bind_some, whole]
  exact scalar?_toNat low

private theorem three?_toNat (low : 0x800 ≤ c.toNat) (high : c.toNat < 0x10000) :
    three? (UInt8.ofNat (c.toNat / 4096 % 16 + 224)) (UInt8.ofNat (c.toNat / 64 % 64 + 128))
      (UInt8.ofNat (c.toNat % 64 + 128)) = some c := by
  have lead : (UInt8.ofNat (c.toNat / 4096 % 16 + 224)).toNat = c.toNat / 4096 % 16 + 224 :=
    toNat_ofNat_of_lt (by omega)
  have whole : (c.toNat / 4096 % 16 + 224 - 0xE0) * 4096 + c.toNat / 64 % 64 * 64 + c.toNat % 64 =
      c.toNat := by omega
  rw [three?, lead, if_pos (by omega), continuation?_ofNat (by omega), Option.bind_some,
    continuation?_ofNat (by omega), Option.bind_some, whole]
  exact scalar?_toNat low

private theorem four?_toNat (low : 0x10000 ≤ c.toNat) :
    four? (UInt8.ofNat (c.toNat / 262144 % 8 + 240)) (UInt8.ofNat (c.toNat / 4096 % 64 + 128))
      (UInt8.ofNat (c.toNat / 64 % 64 + 128)) (UInt8.ofNat (c.toNat % 64 + 128)) = some c := by
  have high := toNat_lt c
  have lead : (UInt8.ofNat (c.toNat / 262144 % 8 + 240)).toNat = c.toNat / 262144 % 8 + 240 :=
    toNat_ofNat_of_lt (by omega)
  have whole : (c.toNat / 262144 % 8 + 240 - 0xF0) * 262144 + c.toNat / 4096 % 64 * 4096 +
      c.toNat / 64 % 64 * 64 + c.toNat % 64 = c.toNat := by omega
  rw [four?, lead, if_pos (by omega), continuation?_ofNat (by omega), Option.bind_some,
    continuation?_ofNat (by omega), Option.bind_some, continuation?_ofNat (by omega),
    Option.bind_some, whole]
  exact scalar?_toNat low

/-! ## Texts -/

private theorem decodeFrom_utf8EncodeChar (c : Char) (seen : List Char) (rest : Bytes) :
    decodeFrom seen (String.utf8EncodeChar c ++ rest) = decodeFrom (c :: seen) rest := by
  have high := toNat_lt c
  have unfolded : c.val.toNat = c.toNat := rfl
  rw [String.utf8EncodeChar.eq_1, unfolded]
  split
  · rw [List.singleton_append, decodeFrom.eq_def]
    simp only [toNat_ofNat_of_lt (n := c.toNat) (by omega), Char.ofNat_toNat]
    rw [if_pos (by omega)]
  split
  · rw [List.cons_append, List.singleton_append, decodeFrom.eq_def]
    simp only [toNat_ofNat_of_lt (n := c.toNat / 64 % 32 + 192) (by omega),
      two?_toNat (c := c) (by omega) (by omega)]
    rw [if_neg (by omega), if_pos (by omega)]
  split
  · rw [List.cons_append, List.cons_append, List.singleton_append, decodeFrom.eq_def]
    simp only [toNat_ofNat_of_lt (n := c.toNat / 4096 % 16 + 224) (by omega),
      three?_toNat (c := c) (by omega) (by omega)]
    rw [if_neg (by omega), if_neg (by omega), if_pos (by omega)]
  · rw [List.cons_append, List.cons_append, List.cons_append, List.singleton_append,
      decodeFrom.eq_def]
    simp only [toNat_ofNat_of_lt (n := c.toNat / 262144 % 8 + 240) (by omega),
      four?_toNat (c := c) (by omega)]
    rw [if_neg (by omega), if_neg (by omega), if_neg (by omega)]

theorem decodeFrom_encode (seen cs : List Char) :
    decodeFrom seen (encode cs) = some (seen.reverse ++ cs) := by
  induction cs generalizing seen with
  | nil => simp [decodeFrom]
  | cons c cs ih => rw [encode_cons, decodeFrom_utf8EncodeChar, ih]; simp

theorem decode_encode (cs : List Char) : decode (encode cs) = some cs :=
  decodeFrom_encode [] cs

/-! ## Nothing else is read -/

theorem toNat_ofNat_of_isValidChar {n : Nat} (valid : n.isValidChar) : (Char.ofNat n).toNat = n := by
  have isChar : Char.ofNat n = Char.ofNatAux n valid := dif_pos valid
  rw [isChar]
  rfl

theorem toNat_of_scalar? {least n : Nat} (found : scalar? least n = some c) :
    c.toNat = n ∧ least ≤ n := by
  obtain ⟨⟨large, valid⟩, isChar⟩ := Option.ite_none_right_eq_some.1 found
  cases isChar
  exact ⟨toNat_ofNat_of_isValidChar valid, large⟩

theorem toNat_of_continuation? {b : UInt8} {x : Nat} (found : continuation? b = some x) :
    b.toNat = x + 128 ∧ x < 64 := by
  obtain ⟨range, isRest⟩ := Option.ite_none_right_eq_some.1 found
  have value := Option.some.inj isRest
  omega

variable {b₀ b₁ b₂ b₃ : UInt8}

theorem ofNat_eq_of_toNat {b : UInt8} {n : Nat} (same : b.toNat = n) : UInt8.ofNat n = b := by
  rw [← same, UInt8.ofNat_toNat]

private theorem utf8EncodeChar_of_two? (found : two? b₀ b₁ = some c) :
    String.utf8EncodeChar c = [b₀, b₁] := by
  obtain ⟨lead, behind⟩ := Option.ite_none_right_eq_some.1 found
  obtain ⟨x, isX, scalar⟩ := Option.bind_eq_some_iff.1 behind
  obtain ⟨second, _⟩ := toNat_of_continuation? isX
  obtain ⟨value, large⟩ := toNat_of_scalar? scalar
  have unfolded : c.val.toNat = c.toNat := rfl
  rw [String.utf8EncodeChar.eq_1, unfolded, if_neg (by omega), if_pos (by omega),
    ofNat_eq_of_toNat (b := b₀) (by omega), ofNat_eq_of_toNat (b := b₁) (by omega)]

private theorem utf8EncodeChar_of_three? (found : three? b₀ b₁ b₂ = some c) :
    String.utf8EncodeChar c = [b₀, b₁, b₂] := by
  obtain ⟨lead, behind⟩ := Option.ite_none_right_eq_some.1 found
  obtain ⟨x, isX, behind⟩ := Option.bind_eq_some_iff.1 behind
  obtain ⟨y, isY, scalar⟩ := Option.bind_eq_some_iff.1 behind
  obtain ⟨second, _⟩ := toNat_of_continuation? isX
  obtain ⟨third, _⟩ := toNat_of_continuation? isY
  obtain ⟨value, large⟩ := toNat_of_scalar? scalar
  have unfolded : c.val.toNat = c.toNat := rfl
  rw [String.utf8EncodeChar.eq_1, unfolded, if_neg (by omega), if_neg (by omega),
    if_pos (by omega), ofNat_eq_of_toNat (b := b₀) (by omega),
    ofNat_eq_of_toNat (b := b₁) (by omega), ofNat_eq_of_toNat (b := b₂) (by omega)]

private theorem utf8EncodeChar_of_four? (found : four? b₀ b₁ b₂ b₃ = some c) :
    String.utf8EncodeChar c = [b₀, b₁, b₂, b₃] := by
  obtain ⟨lead, behind⟩ := Option.ite_none_right_eq_some.1 found
  obtain ⟨x, isX, behind⟩ := Option.bind_eq_some_iff.1 behind
  obtain ⟨y, isY, behind⟩ := Option.bind_eq_some_iff.1 behind
  obtain ⟨z, isZ, scalar⟩ := Option.bind_eq_some_iff.1 behind
  obtain ⟨second, _⟩ := toNat_of_continuation? isX
  obtain ⟨third, _⟩ := toNat_of_continuation? isY
  obtain ⟨fourth, _⟩ := toNat_of_continuation? isZ
  obtain ⟨value, large⟩ := toNat_of_scalar? scalar
  have unfolded : c.val.toNat = c.toNat := rfl
  rw [String.utf8EncodeChar.eq_1, unfolded, if_neg (by omega), if_neg (by omega),
    if_neg (by omega), ofNat_eq_of_toNat (b := b₀) (by omega),
    ofNat_eq_of_toNat (b := b₁) (by omega), ofNat_eq_of_toNat (b := b₂) (by omega),
    ofNat_eq_of_toNat (b := b₃) (by omega)]

private theorem exists_of_decodeFrom {seen read : List Char} {bytes : Bytes}
    (decoded : decodeFrom seen bytes = some read) :
    ∃ cs, read = seen.reverse ++ cs ∧ bytes = encode cs := by
  have onward {c : Char} {front rest : Bytes} {seen : List Char}
      (form : String.utf8EncodeChar c = front)
      (later : ∃ cs, read = (c :: seen).reverse ++ cs ∧ rest = encode cs) :
      ∃ cs, read = seen.reverse ++ cs ∧ front ++ rest = encode cs := by
    obtain ⟨cs, whole, rfl⟩ := later
    refine ⟨c :: cs, ?_, by rw [encode_cons, form]⟩
    rw [whole, List.reverse_cons, List.append_assoc, List.singleton_append]
  fun_induction decodeFrom seen bytes with
  | case1 seen =>
      cases decoded
      exact ⟨[], (List.append_nil _).symm, rfl⟩
  | case2 seen b₀ rest₀ ascii ih =>
      have value : (Char.ofNat b₀.toNat).toNat = b₀.toNat :=
        toNat_ofNat_of_isValidChar (.inl (by omega))
      have form : String.utf8EncodeChar (Char.ofNat b₀.toNat) = [b₀] := by
        rw [utf8EncodeChar_of_lt (by omega), value, UInt8.ofNat_toNat]
      exact onward form (ih decoded)
  | case4 seen b₀ _ b₁ rest₁ _ c found ih => exact onward (utf8EncodeChar_of_two? found) (ih decoded)
  | case7 seen b₀ _ b₁ _ b₂ rest₂ _ c found ih =>
      exact onward (utf8EncodeChar_of_three? found) (ih decoded)
  | case10 seen b₀ _ b₁ _ b₂ _ b₃ rest₃ c found ih =>
      exact onward (utf8EncodeChar_of_four? found) (ih decoded)
  | case3 | case5 | case6 | case8 | case9 | case11 => cases decoded

theorem decode_eq_some_iff {bytes : Bytes} {cs : List Char} :
    decode bytes = some cs ↔ bytes = encode cs := by
  constructor
  · intro decoded
    obtain ⟨read, whole, isText⟩ := exists_of_decodeFrom decoded
    rw [isText, whole]
    rfl
  · rintro rfl
    exact decode_encode cs

end UptimeIntake.Text.Utf8
