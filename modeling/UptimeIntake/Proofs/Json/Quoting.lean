import UptimeIntake.Json.Text
import UptimeIntake.Json.Token
import UptimeIntake.Proofs.Text.Hex

/-!
# Quoted strings read back

What may stand between two quotes, and which text it spells. A character stands there for itself
or behind a backslash, as a letter, as a code or, above U+FFFF, as a pair of codes. Whatever spells
a text is one token and denotes that text, and so does what is written for it.
-/

set_option autoImplicit false

namespace UptimeIntake.Json

open UptimeIntake.Text

namespace Text

/-! ## Escapes -/

/-- The letters behind a backslash with the characters they stand for. -/
def letterEscapes : List (Char × Char) :=
  [('\"', '\"'), ('\\', '\\'), ('/', '/'), ('b', Char.ofNat 8), ('f', Char.ofNat 12), ('n', '\n'),
   ('r', '\r'), ('t', '\t')]

/-- Four hexadecimal digits of either case write the number. -/
inductive IsCode : List Char → Nat → Prop
  | intro {a b c d : Char} {w x y z : Nat} : Hex.IsDigit a w → Hex.IsDigit b x →
      Hex.IsDigit c y → Hex.IsDigit d z →
      IsCode [a, b, c, d] (w * 4096 + x * 256 + y * 16 + z)

/-- What may stand between quotes at once. -/
inductive IsUnit : List Char → Prop
  | plain {c : Char} : c ≠ '\"' → c ≠ '\\' → 0x20 ≤ c.toNat → IsUnit [c]
  | letter {l c : Char} : (l, c) ∈ letterEscapes → IsUnit ['\\', l]
  | code {digits : List Char} {n : Nat} : IsCode digits n → IsUnit ('\\' :: 'u' :: digits)

/-- The text may stand between quotes. It need not spell anything, as codes may be surrogates
without their partner. -/
inductive IsQuotable : List Char → Prop
  | nil : IsQuotable []
  | cons {unit raw : List Char} : IsUnit unit → IsQuotable raw → IsQuotable (unit ++ raw)

/-- Between quotes, the first text spells the second. -/
inductive Spells : List Char → List Char → Prop
  | nil : Spells [] []
  | plain {c : Char} {raw cs : List Char} : c ≠ '\"' → c ≠ '\\' → 0x20 ≤ c.toNat →
      Spells raw cs → Spells ([c] ++ raw) (c :: cs)
  | letter {l c : Char} {raw cs : List Char} : (l, c) ∈ letterEscapes →
      Spells raw cs → Spells (['\\', l] ++ raw) (c :: cs)
  | code {digits raw cs : List Char} {n : Nat} : IsCode digits n → n < 0xD800 ∨ 0xE000 ≤ n →
      Spells raw cs → Spells (('\\' :: 'u' :: digits) ++ raw) (Char.ofNat n :: cs)
  | pair {highDigits lowDigits raw cs : List Char} {high low : Nat} :
      IsCode highDigits high → 0xD800 ≤ high → high < 0xDC00 →
      IsCode lowDigits low → 0xDC00 ≤ low → low < 0xE000 →
      Spells raw cs →
      Spells (('\\' :: 'u' :: highDigits) ++ (('\\' :: 'u' :: lowDigits) ++ raw))
        (Char.ofNat (0x10000 + (high - 0xD800) * 0x400 + (low - 0xDC00)) :: cs)

variable {raw cs digits unit : List Char} {n : Nat}

theorem Spells.isQuotable (spells : Spells raw cs) : IsQuotable raw := by
  induction spells with
  | nil => exact .nil
  | plain notQuote notBackslash visible _ ih => exact .cons (.plain notQuote notBackslash visible) ih
  | letter isLetter _ ih => exact .cons (.letter isLetter) ih
  | code isCode _ _ ih => exact .cons (.code isCode) ih
  | pair high _ _ low _ _ _ ih => exact .cons (.code high) (.cons (.code low) ih)

/-! ## Writing -/

theorem Spells.escapeChar (spells : Spells raw cs) (c : Char) :
    Spells (escapeChar c ++ raw) (c :: cs) := by
  have letterOf (m : Nat) (l : Char) (value : c.toNat = m)
      (isLetter : (l, Char.ofNat m) ∈ letterEscapes) : Spells (['\\', l] ++ raw) (c :: cs) := by
    rw [← Char.ofNat_toNat c, value]
    exact .letter isLetter spells
  simp only [Text.escapeChar]
  split
  · next quote =>
      subst quote
      exact .letter (by decide) spells
  split
  · next backslash =>
      subst backslash
      exact .letter (by decide) spells
  split
  · next value => exact letterOf 8 'b' value (by decide)
  split
  · next value => exact letterOf 9 't' value (by decide)
  split
  · next value => exact letterOf 10 'n' value (by decide)
  split
  · next value => exact letterOf 12 'f' value (by decide)
  split
  · next value => exact letterOf 13 'r' value (by decide)
  split
  · next control =>
      have zero : Hex.IsDigit '0' 0 := Hex.isDigit_digit (n := 0) (by decide)
      have isCode := IsCode.intro zero zero (Hex.isDigit_digit (n := c.toNat / 16) (by omega))
        (Hex.isDigit_digit (n := c.toNat % 16) (by omega))
      have whole : 0 * 4096 + 0 * 256 + c.toNat / 16 * 16 + c.toNat % 16 = c.toNat := by omega
      rw [whole] at isCode
      have spelled := Spells.code isCode (by omega) spells
      rwa [Char.ofNat_toNat] at spelled
  · next notQuote notBackslash _ _ _ _ _ visible =>
      exact .plain notQuote notBackslash (Nat.le_of_not_lt visible) spells

theorem spells_escaped (cs : List Char) : Spells (cs.flatMap Text.escapeChar) cs := by
  induction cs with
  | nil => exact .nil
  | cons c cs ih => exact ih.escapeChar c

/-! ## Bytes -/

/-- The bytes of a character: its own value if that is below 0x80, else values from 0x80 on. -/
theorem toNat_of_mem_utf8EncodeChar (c : Char) :
    ∀ b ∈ String.utf8EncodeChar c, b.toNat = c.toNat ∨ 0x80 ≤ b.toNat := by
  have unfolded : c.val.toNat = c.toNat := rfl
  have above (x : Nat) (low : 0x80 ≤ x) (high : x < 256) :
      (UInt8.ofNat x).toNat = c.toNat ∨ 0x80 ≤ (UInt8.ofNat x).toNat := by
    rw [Utf8.toNat_ofNat_of_lt high]
    exact .inr low
  rw [String.utf8EncodeChar.eq_1, unfolded]
  split
  · intro b member
    rw [List.mem_singleton.1 member, Utf8.toNat_ofNat_of_lt (by omega)]
    exact .inl rfl
  split
  · exact List.forall_mem_cons.2 ⟨above _ (by omega) (by omega),
      List.forall_mem_singleton.2 (above _ (by omega) (by omega))⟩
  split
  · exact List.forall_mem_cons.2 ⟨above _ (by omega) (by omega),
      List.forall_mem_cons.2 ⟨above _ (by omega) (by omega),
        List.forall_mem_singleton.2 (above _ (by omega) (by omega))⟩⟩
  · exact List.forall_mem_cons.2 ⟨above _ (by omega) (by omega),
      List.forall_mem_cons.2 ⟨above _ (by omega) (by omega),
        List.forall_mem_cons.2 ⟨above _ (by omega) (by omega),
          List.forall_mem_singleton.2 (above _ (by omega) (by omega))⟩⟩⟩

theorem letterEscapes_bytes {l c : Char} (isLetter : (l, c) ∈ letterEscapes) :
    l.toNat < 0x80 ∧ c.toNat < 0x80 ∧
      simpleEscape? (UInt8.ofNat l.toNat) = some (UInt8.ofNat c.toNat) ∧
      Token.isSimpleEscape l = true := by
  have all : ∀ d ∈ letterEscapes, d.1.toNat < 0x80 ∧ d.2.toNat < 0x80 ∧
      simpleEscape? (UInt8.ofNat d.1.toNat) = some (UInt8.ofNat d.2.toNat) ∧
      Token.isSimpleEscape d.1 = true := by decide
  exact all (l, c) isLetter

theorem IsCode.exists_bytes (isCode : IsCode digits n) :
    ∃ h₁ h₂ h₃ h₄ : UInt8, Utf8.encode digits = [h₁, h₂, h₃, h₄] ∧
      unit? h₁ h₂ h₃ h₄ = some n ∧
      ∀ h ∈ [h₁, h₂, h₃, h₄], Token.isHexDigit (Char.ofNat h.toNat) = true := by
  have isHexDigit {d : Char} {v : Nat} (isDigit : Hex.IsDigit d v) :
      Token.isHexDigit (Char.ofNat (UInt8.ofNat d.toNat).toNat) = true := by
    have all : ∀ e ∈ Hex.digitTable,
        Token.isHexDigit (Char.ofNat (UInt8.ofNat e.1.toNat).toNat) = true := by decide
    exact all (d, v) isDigit
  cases isCode with
  | @intro a b c d w x y z first second third fourth =>
      refine ⟨UInt8.ofNat a.toNat, UInt8.ofNat b.toNat, UInt8.ofNat c.toNat, UInt8.ofNat d.toNat,
        ?_, ?_, ?_⟩
      · simp only [Utf8.encode_cons, Utf8.utf8EncodeChar_of_lt first.ascii,
          Utf8.utf8EncodeChar_of_lt second.ascii, Utf8.utf8EncodeChar_of_lt third.ascii,
          Utf8.utf8EncodeChar_of_lt fourth.ascii]
        rfl
      · simp only [unit?, first.value?, second.value?, third.value?, fourth.value?]
      · exact List.forall_mem_cons.2 ⟨isHexDigit first, List.forall_mem_cons.2
          ⟨isHexDigit second, List.forall_mem_cons.2 ⟨isHexDigit third,
            List.forall_mem_singleton.2 (isHexDigit fourth)⟩⟩⟩

theorem encode_escape {l : Char} (ascii : l.toNat < 0x80) (rest : List Char) :
    Utf8.encode ('\\' :: l :: rest) = 0x5C :: UInt8.ofNat l.toNat :: Utf8.encode rest := by
  rw [Utf8.encode_cons, Utf8.encode_cons, Utf8.utf8EncodeChar_of_lt ascii]
  rfl

/-! ## Resolving escapes -/

private theorem unescapeFrom_plain (seen : Bytes) {bytes : Bytes} (rest : Bytes)
    (plain : ∀ b ∈ bytes, b ≠ 0x5C) :
    unescapeFrom seen (bytes ++ rest) = unescapeFrom (bytes.reverse ++ seen) rest := by
  induction bytes generalizing seen with
  | nil => rfl
  | cons b bytes ih =>
      obtain ⟨first, others⟩ := List.forall_mem_cons.1 plain
      rw [List.cons_append, unescapeFrom.eq_def]
      simp only [if_pos first]
      rw [ih (b :: seen) others, List.reverse_cons, List.append_assoc, List.singleton_append]

private theorem unescapeFrom_letter (seen : Bytes) {e byte : UInt8} (rest : Bytes)
    (denotes : simpleEscape? e = some byte) :
    unescapeFrom seen (0x5C :: e :: rest) = unescapeFrom (byte :: seen) rest := by
  rw [unescapeFrom.eq_def]
  simp [denotes]

private theorem unescapeFrom_code (seen : Bytes) {h₁ h₂ h₃ h₄ : UInt8} {n : Nat} (rest : Bytes)
    (unit : unit? h₁ h₂ h₃ h₄ = some n) (isScalar : n < 0xD800 ∨ 0xE000 ≤ n) :
    unescapeFrom seen (0x5C :: 0x75 :: h₁ :: h₂ :: h₃ :: h₄ :: rest) =
      unescapeFrom (scalarReversed n ++ seen) rest := by
  have noEscape : simpleEscape? 0x75 = none := by decide
  have notLow : isLowSurrogate n = false := by simp [isLowSurrogate]; omega
  have notHigh : isHighSurrogate n = false := by simp [isHighSurrogate]; omega
  rw [unescapeFrom.eq_def]
  simp [noEscape, unit, notLow, notHigh]

private theorem unescapeFrom_pair (seen : Bytes) {h₁ h₂ h₃ h₄ l₁ l₂ l₃ l₄ : UInt8} {high low : Nat}
    (rest : Bytes) (highUnit : unit? h₁ h₂ h₃ h₄ = some high)
    (lowUnit : unit? l₁ l₂ l₃ l₄ = some low) (isHigh : isHighSurrogate high = true)
    (isLow : isLowSurrogate low = true) :
    unescapeFrom seen (0x5C :: 0x75 :: h₁ :: h₂ :: h₃ :: h₄ ::
        0x5C :: 0x75 :: l₁ :: l₂ :: l₃ :: l₄ :: rest) =
      unescapeFrom (scalarReversed (pairValue high low) ++ seen) rest := by
  have noEscape : simpleEscape? 0x75 = none := by decide
  have notLow : isLowSurrogate high = false := by
    simp only [isHighSurrogate, Bool.and_eq_true, decide_eq_true_eq] at isHigh
    simp [isLowSurrogate]
    omega
  rw [unescapeFrom.eq_def]
  simp [noEscape, highUnit, lowUnit, notLow, isHigh, isLow]

private theorem Spells.unescapeFrom_eq (spells : Spells raw cs) (seen : Bytes) :
    unescapeFrom seen (Utf8.encode raw) = some (seen.reverse ++ Utf8.encode cs) := by
  have resolved (c : Char) (cs : List Char) (seen : Bytes) :
      ((String.utf8EncodeChar c).reverse ++ seen).reverse ++ Utf8.encode cs =
        seen.reverse ++ Utf8.encode (c :: cs) := by
    rw [List.reverse_append, List.reverse_reverse, List.append_assoc, Utf8.encode_cons]
  induction spells generalizing seen with
  | nil => rw [Utf8.encode_nil, unescapeFrom, List.append_nil]
  | @plain c raw cs notQuote notBackslash _ _ ih =>
      have plain : ∀ b ∈ String.utf8EncodeChar c, b ≠ 0x5C := by
        rintro b member rfl
        rcases toNat_of_mem_utf8EncodeChar c _ member with same | above
        · exact notBackslash (Char.toNat_inj.1 same.symm)
        · exact absurd above (by decide)
      rw [List.singleton_append, Utf8.encode_cons, unescapeFrom_plain seen _ plain, ih, resolved]
  | @letter l c raw cs isLetter _ ih =>
      obtain ⟨letterAscii, ascii, denotes, _⟩ := letterEscapes_bytes isLetter
      have byte := Utf8.utf8EncodeChar_of_lt ascii
      rw [List.cons_append, List.singleton_append, encode_escape letterAscii,
        unescapeFrom_letter seen _ denotes, ih, ← resolved, byte]
      rfl
  | @code digits raw cs n isCode isScalar _ ih =>
      obtain ⟨h₁, h₂, h₃, h₄, bytes, unit, _⟩ := isCode.exists_bytes
      rw [Utf8.encode_append, encode_escape (by decide), bytes]
      exact (unescapeFrom_code seen _ unit isScalar).trans ((ih _).trans (by rw [← resolved]; rfl))
  | @pair highDigits lowDigits raw cs high low highCode highLeast highMost lowCode lowLeast lowMost
      _ ih =>
      obtain ⟨h₁, h₂, h₃, h₄, highBytes, highUnit, _⟩ := highCode.exists_bytes
      obtain ⟨l₁, l₂, l₃, l₄, lowBytes, lowUnit, _⟩ := lowCode.exists_bytes
      have isHigh : isHighSurrogate high = true := by simp [isHighSurrogate]; omega
      have isLow : isLowSurrogate low = true := by simp [isLowSurrogate]; omega
      rw [Utf8.encode_append, Utf8.encode_append, encode_escape (by decide),
        encode_escape (by decide), highBytes, lowBytes]
      exact (unescapeFrom_pair seen _ highUnit lowUnit isHigh isLow).trans
        ((ih _).trans (by rw [← resolved]; rfl))

theorem Spells.read? {s : String} (spells : Spells raw s.toList) :
    read? (Utf8.encode raw) = some s := by
  rw [Text.read?, unescape, spells.unescapeFrom_eq]
  simp [Utf8.decodeString, Utf8.decode_encode]

/-- The bytes between the quotes when a text is written. -/
def quotedBytes (cs : List Char) : Bytes :=
  Utf8.encode (cs.flatMap escapeChar)

theorem read?_quotedBytes (s : String) : Text.read? (quotedBytes s.toList) = some s :=
  (spells_escaped s.toList).read?

/-! ## Texts without escapes -/

theorem escapeChar_of_isDigit {c : Char} (isDigit : c.isDigit = true) : escapeChar c = [c] := by
  have all : ∀ n < 58, 48 ≤ n → escapeChar (Char.ofNat n) = [Char.ofNat n] := by decide
  simp only [Char.isDigit, Bool.and_eq_true, decide_eq_true_eq] at isDigit
  have low := UInt32.le_iff_toNat_le.1 isDigit.1
  have high := UInt32.le_iff_toNat_le.1 isDigit.2
  have isLast : c.toNat < 58 := Nat.lt_succ_of_le high
  have found := all c.toNat isLast low
  rwa [Char.ofNat_toNat] at found

theorem escapeChar_of_mem_hex {bytes : Bytes} {c : Char} (member : c ∈ Hex.encode bytes) :
    escapeChar c = [c] := by
  have all : ∀ n < 16, escapeChar (Hex.digit n) = [Hex.digit n] := by decide
  obtain ⟨byte, _, inPair⟩ := List.mem_flatMap.1 member
  have lt := byte.toNat_lt
  rcases List.mem_cons.1 inPair with rfl | isLow
  · exact all _ (by omega)
  · rw [List.mem_singleton.1 isLow]
    exact all _ (by omega)

theorem escapeChar_of_all {cs : List Char}
    (all : cs.all (fun c => escapeChar c == [c]) = true) : ∀ c ∈ cs, escapeChar c = [c] :=
  fun c member => beq_iff_eq.1 (List.all_eq_true.1 all c member)

/-- A text with no characters to escape is written as itself between quotes. -/
theorem quoteString_eq {s : String} (unescaped : ∀ c ∈ s.toList, escapeChar c = [c]) :
    quoteString s = '\"' :: s.toList ++ ['\"'] := by
  rw [quoteString, quote, List.flatMap, List.map_congr_left unescaped, ← List.flatMap_def,
    List.flatMap_singleton']

end Text

/-! ## Quoted strings as tokens -/

namespace Token

theorem scanFrom_step {mode next : Mode} {b : UInt8} {tokens : List Token} (seen : List Token)
    (rest : Bytes) (stepped : step mode b = some (next, tokens)) :
    scanFrom mode seen (b :: rest) = scanFrom next (tokens.reverse ++ seen) rest := by
  rw [scanFrom, stepped]

/-- The machine takes a byte for the character of its value. -/
theorem toNat_ofNat_byte (b : UInt8) : (Char.ofNat b.toNat).toNat = b.toNat := by
  have small := b.toNat_lt
  have valid : b.toNat.isValidChar := .inl (by omega)
  rw [Char.ofNat, dif_pos valid]
  rfl

theorem ofNat_byte_ne {b : UInt8} {c : Char} (different : b.toNat ≠ c.toNat) :
    Char.ofNat b.toNat ≠ c := by
  intro same
  exact different (by rw [← same, toNat_ofNat_byte])

theorem ofNat_byte_of_lt {c : Char} (ascii : c.toNat < 0x80) :
    Char.ofNat (UInt8.ofNat c.toNat).toNat = c := by
  rw [Utf8.toNat_ofNat_of_lt (by omega), Char.ofNat_toNat]

private theorem scanFrom_plain (seen : Bytes) (tokens : List Token) {bytes : Bytes} (rest : Bytes)
    (plain : ∀ b ∈ bytes, b.toNat ≠ 0x22 ∧ b.toNat ≠ 0x5C ∧ 0x20 ≤ b.toNat) :
    scanFrom (.text seen .outside) tokens (bytes ++ rest) =
      scanFrom (.text (bytes.reverse ++ seen) .outside) tokens rest := by
  induction bytes generalizing seen with
  | nil => rfl
  | cons b bytes ih =>
      obtain ⟨⟨notQuote, notBackslash, visible⟩, others⟩ := List.forall_mem_cons.1 plain
      have stepped : step (.text seen .outside) b = some (.text (b :: seen) .outside, []) := by
        have isOther : Char.ofNat b.toNat ≠ '\"' := ofNat_byte_ne notQuote
        have isNoEscape : Char.ofNat b.toNat ≠ '\\' := ofNat_byte_ne notBackslash
        simp only [step, textStep, if_neg isOther, if_neg isNoEscape,
          if_neg (Nat.not_lt.2 visible)]
      rw [List.cons_append, scanFrom_step tokens _ stepped, List.reverse_cons, List.append_assoc]
      exact ih (b :: seen) others

private theorem scanFrom_letter (seen : Bytes) (tokens : List Token) {l : Char} (rest : Bytes)
    (ascii : l.toNat < 0x80) (isEscape : isSimpleEscape l = true) :
    scanFrom (.text seen .outside) tokens (0x5C :: UInt8.ofNat l.toNat :: rest) =
      scanFrom (.text (UInt8.ofNat l.toNat :: 0x5C :: seen) .outside) tokens rest := by
  have opens : step (.text seen .outside) 0x5C = some (.text (0x5C :: seen) .opened, []) := rfl
  have notCode : l ≠ 'u' := by
    intro isCode
    rw [isCode] at isEscape
    cases isEscape
  have closes : step (.text (0x5C :: seen) .opened) (UInt8.ofNat l.toNat) =
      some (.text (UInt8.ofNat l.toNat :: 0x5C :: seen) .outside, []) := by
    simp only [step, textStep, ofNat_byte_of_lt ascii, if_neg notCode, isEscape, if_true]
  rw [scanFrom_step tokens _ opens, scanFrom_step _ _ closes]
  rfl

private theorem scanFrom_code (seen : Bytes) (tokens : List Token) {h₁ h₂ h₃ h₄ : UInt8}
    (rest : Bytes)
    (first : isHexDigit (Char.ofNat h₁.toNat) = true)
    (second : isHexDigit (Char.ofNat h₂.toNat) = true)
    (third : isHexDigit (Char.ofNat h₃.toNat) = true)
    (fourth : isHexDigit (Char.ofNat h₄.toNat) = true) :
    scanFrom (.text seen .outside) tokens (0x5C :: 0x75 :: h₁ :: h₂ :: h₃ :: h₄ :: rest) =
      scanFrom (.text (h₄ :: h₃ :: h₂ :: h₁ :: 0x75 :: 0x5C :: seen) .outside) tokens rest := by
  have digit (before : Bytes) (due : Nat) {h : UInt8}
      (isDigit : isHexDigit (Char.ofNat h.toNat) = true) :
      step (.text before (.digits (due + 1))) h =
        some (.text (h :: before) (if due = 0 then .outside else .digits due), []) := by
    cases due with
    | zero => simp [step, textStep, isDigit]
    | succ due => simp [step, textStep, isDigit]
  have opens : step (.text seen .outside) 0x5C = some (.text (0x5C :: seen) .opened, []) := rfl
  have marks : step (.text (0x5C :: seen) .opened) 0x75 =
      some (.text (0x75 :: 0x5C :: seen) (.digits 4), []) := rfl
  rw [scanFrom_step _ _ opens, scanFrom_step _ _ marks, scanFrom_step _ _ (digit _ 3 first)]
  exact (scanFrom_step _ _ (digit _ 2 second)).trans
    ((scanFrom_step _ _ (digit _ 1 third)).trans (scanFrom_step _ _ (digit _ 0 fourth)))

private theorem scanFrom_unit {unit : List Char} (isUnit : Text.IsUnit unit) (seen : Bytes)
    (tokens : List Token) (rest : Bytes) :
    scanFrom (.text seen .outside) tokens (Utf8.encode unit ++ rest) =
      scanFrom (.text ((Utf8.encode unit).reverse ++ seen) .outside) tokens rest := by
  cases isUnit with
  | @plain c notQuote notBackslash visible =>
      refine scanFrom_plain seen tokens rest ?_
      rw [Utf8.encode_cons, Utf8.encode_nil, List.append_nil]
      intro b member
      rcases Text.toNat_of_mem_utf8EncodeChar c b member with same | above
      · rw [same]
        exact ⟨fun value => notQuote (Char.toNat_inj.1 value),
          fun value => notBackslash (Char.toNat_inj.1 value), visible⟩
      · omega
  | letter isLetter =>
      obtain ⟨ascii, _, _, isEscape⟩ := Text.letterEscapes_bytes isLetter
      rw [Text.encode_escape ascii]
      exact scanFrom_letter seen tokens rest ascii isEscape
  | code isCode =>
      obtain ⟨h₁, h₂, h₃, h₄, bytes, _, areDigits⟩ := isCode.exists_bytes
      obtain ⟨first, second, third, fourth⟩ := by simpa using areDigits
      rw [Text.encode_escape (by decide), bytes]
      exact scanFrom_code seen tokens rest first second third fourth

private theorem scanFrom_quotable {raw : List Char} (isQuotable : Text.IsQuotable raw)
    (seen : Bytes)
    (tokens : List Token) (rest : Bytes) :
    scanFrom (.text seen .outside) tokens (Utf8.encode raw ++ rest) =
      scanFrom (.text ((Utf8.encode raw).reverse ++ seen) .outside) tokens rest := by
  induction isQuotable generalizing seen with
  | nil => rfl
  | cons isUnit _ ih =>
      rw [Utf8.encode_append, List.append_assoc, scanFrom_unit isUnit, ih, List.reverse_append,
        List.append_assoc]

theorem scanFrom_quoted {raw : List Char} (isQuotable : Text.IsQuotable raw)
    (tokens : List Token) (rest : Bytes) :
    scanFrom .gap tokens (Utf8.encode ('\"' :: raw ++ ['\"']) ++ rest) =
      scanFrom .gap (.text (Utf8.encode raw) :: tokens) rest := by
  have bytes : Utf8.encode ('\"' :: raw ++ ['\"']) = 0x22 :: Utf8.encode raw ++ [0x22] := by
    rw [Utf8.encode_append, Utf8.encode_cons]
    rfl
  have opens : step .gap 0x22 = some (.text [] .outside, []) := rfl
  have closes (seen : Bytes) :
      step (.text seen .outside) 0x22 = some (.gap, [.text seen.reverse]) := rfl
  rw [bytes, List.append_assoc, List.cons_append, scanFrom_step tokens _ opens,
    scanFrom_quotable isQuotable, List.singleton_append, scanFrom_step _ _ (closes _)]
  simp

end Token

end UptimeIntake.Json
