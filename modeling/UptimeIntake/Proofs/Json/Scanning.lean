import UptimeIntake.Proofs.Json.Quoting
import UptimeIntake.Proofs.Text.Decimal

/-!
# Scanning

Which texts are read as which tokens, whatever came before them. A number ends where it cannot go
on, so it matters for numbers what comes behind.
-/

set_option autoImplicit false

namespace UptimeIntake.Json

open UptimeIntake.Text

namespace Token

/-! ## Between tokens -/

/-- The character ends any number before it. -/
def isDelimiter (c : Char) : Bool :=
  isSpace c || c = ',' || c = ']' || c = '\x7d'

theorem toNat_lt_of_isSpace {c : Char} (space : isSpace c = true) : c.toNat < 0x80 := by
  simp only [isSpace, Bool.or_eq_true, decide_eq_true_eq] at space
  rcases space with ((rfl | rfl) | rfl) | rfl <;> decide

/-- A number that stands before these bytes ends there. -/
def Delimited (rest : Bytes) : Prop :=
  ∀ b ∈ rest.head?, isDelimiter (Char.ofNat b.toNat) = true

theorem delimited_cons {b : UInt8} (rest : Bytes)
    (delimits : isDelimiter (Char.ofNat b.toNat) = true) : Delimited (b :: rest) := by
  intro first same
  rw [List.head?_cons, Option.mem_some_iff] at same
  rwa [← same]

theorem delimited_spaces {spaces : List Char} {rest : Bytes}
    (areSpaces : ∀ c ∈ spaces, isSpace c = true) (delimited : Delimited rest) :
    Delimited (Utf8.encode spaces ++ rest) := by
  cases spaces with
  | nil => exact delimited
  | cons c spaces =>
      have first := areSpaces c List.mem_cons_self
      have ascii := toNat_lt_of_isSpace first
      rw [Utf8.encode_cons, Utf8.utf8EncodeChar_of_lt ascii]
      refine delimited_cons _ ?_
      rw [ofNat_byte_of_lt ascii]
      simp [isDelimiter, first]

/-- The text is read as the tokens, whatever stands before it. -/
def Scans (text : List Char) (tokens : List Token) : Prop :=
  ∀ seen rest, Delimited rest →
    scanFrom .gap seen (Utf8.encode text ++ rest) = scanFrom .gap (tokens.reverse ++ seen) rest

theorem scanFrom_punctuation {c : Char} (token : Token) (seen : List Token) (rest : Bytes)
    (ascii : c.toNat < 0x80) (writes : gapStep c = some (.gap, [token])) :
    scanFrom .gap seen (String.utf8EncodeChar c ++ rest) = scanFrom .gap (token :: seen) rest := by
  have stepped : step .gap (UInt8.ofNat c.toNat) = some (.gap, [token]) := by
    simp only [step, ofNat_byte_of_lt ascii, writes]
  rw [Utf8.utf8EncodeChar_of_lt ascii]
  exact scanFrom_step seen rest stepped

/-- White space around tokens is skipped. -/
theorem scanFrom_spaces {spaces : List Char} (areSpaces : ∀ c ∈ spaces, isSpace c = true)
    (seen : List Token) (rest : Bytes) :
    scanFrom .gap seen (Utf8.encode spaces ++ rest) = scanFrom .gap seen rest := by
  induction spaces with
  | nil => rfl
  | cons c spaces ih =>
      obtain ⟨first, others⟩ := List.forall_mem_cons.1 areSpaces
      have ascii := toNat_lt_of_isSpace first
      have stepped : step .gap (UInt8.ofNat c.toNat) = some (.gap, []) := by
        simp only [step, ofNat_byte_of_lt ascii, gapStep, first, if_true]
      rw [Utf8.encode_cons, Utf8.utf8EncodeChar_of_lt ascii, List.append_assoc,
        List.singleton_append, scanFrom_step _ _ stepped]
      exact ih others

private theorem next?_delimiter {c : Char} (delimits : isDelimiter c = true) (part : NumberPart) :
    part.next? c = none := by
  simp only [isDelimiter, isSpace, Bool.or_eq_true, decide_eq_true_eq] at delimits
  rcases delimits with (((((h | h) | h) | h) | h) | h) | h <;> subst h <;> cases part <;>
    rfl

theorem scanFrom_number_end {seen : List Char} {part : NumberPart} (tokens : List Token)
    {rest : Bytes} (isComplete : part.isComplete = true) (delimited : Delimited rest) :
    scanFrom (.number seen part) tokens rest =
      scanFrom .gap (.number seen.reverse :: tokens) rest := by
  cases rest with
  | nil => simp [scanFrom, finish?, isComplete]
  | cons b rest =>
      have ends := next?_delimiter (delimited b rfl) part
      simp only [scanFrom, step, ends, isComplete, if_true]
      cases gapStep (Char.ofNat b.toNat) with
      | none => rfl
      | some next => simp

private theorem gapStep_digit {c : Char} (isDigit : c.isDigit = true) (notZero : c ≠ '0') :
    gapStep c = some (.number [c] .integer, []) := by
  have range := Decimal.toNat_of_isDigit isDigit
  have other (d : Char) (outside : d.toNat < 48 ∨ 57 < d.toNat) : c ≠ d := by
    rintro rfl
    omega
  have notSpace : isSpace c = false := by
    simp [isSpace, other]
  have noPunctuation : punctuation? c = none := by
    simp [punctuation?, other]
  simp [gapStep, notSpace, noPunctuation, begin?, other, notZero, isDigit]

/-! ## Number literals -/

/-- A number without a sign and without needless zeros in front. -/
inductive IsWhole : List Char → Prop
  | zero : IsWhole ['0']
  | digits {c : Char} {cs : List Char} : c ≠ '0' → (∀ d ∈ c :: cs, d.isDigit = true) →
      IsWhole (c :: cs)

inductive IsFraction : List Char → Prop
  | none : IsFraction []
  | digits {cs : List Char} : cs ≠ [] → (∀ d ∈ cs, d.isDigit = true) → IsFraction ('.' :: cs)

inductive IsExponent : List Char → Prop
  | none : IsExponent []
  | digits {mark : Char} {sign cs : List Char} : mark = 'e' ∨ mark = 'E' →
      sign = [] ∨ sign = ['+'] ∨ sign = ['-'] → cs ≠ [] → (∀ d ∈ cs, d.isDigit = true) →
      IsExponent (mark :: (sign ++ cs))

/-- The text is the literal of a number. -/
inductive IsNumber : List Char → Prop
  | intro {sign whole fraction exponent : List Char} : sign = [] ∨ sign = ['-'] →
      IsWhole whole → IsFraction fraction → IsExponent exponent →
      IsNumber (sign ++ (whole ++ (fraction ++ exponent)))

/-- In a number, the text leads from one part to another. -/
def Leads (text : List Char) (part next : NumberPart) : Prop :=
  ∀ seen tokens rest, scanFrom (.number seen part) tokens (Utf8.encode text ++ rest) =
    scanFrom (.number (text.reverse ++ seen) next) tokens rest

variable {part middle next : NumberPart} {text more : List Char}

theorem Leads.nil : Leads [] part part :=
  fun _ _ _ => rfl

theorem Leads.append (first : Leads text part middle) (second : Leads more middle next) :
    Leads (text ++ more) part next := by
  intro seen tokens rest
  rw [Utf8.encode_append, List.append_assoc, first, second, List.reverse_append,
    List.append_assoc]

theorem Leads.single {c : Char} (ascii : c.toNat < 0x80) (isNext : part.next? c = some next) :
    Leads [c] part next := by
  intro seen tokens rest
  have stepped : step (.number seen part) (UInt8.ofNat c.toNat) =
      some (.number (c :: seen) next, []) := by
    simp only [step, ofNat_byte_of_lt ascii, isNext]
  rw [Utf8.encode_cons, Utf8.utf8EncodeChar_of_lt ascii]
  exact scanFrom_step tokens rest stepped

theorem Leads.digit {c : Char} (isDigit : c.isDigit = true) (isNext : part.next? c = some next) :
    Leads [c] part next := by
  have range := Decimal.toNat_of_isDigit isDigit
  exact .single (by omega) isNext

theorem Leads.digits (continues : ∀ c : Char, c.isDigit = true → part.next? c = some part)
    (areDigits : ∀ c ∈ text, c.isDigit = true) : Leads text part part := by
  induction text with
  | nil => exact .nil
  | cons c text ih =>
      obtain ⟨isDigit, others⟩ := List.forall_mem_cons.1 areDigits
      exact (Leads.digit isDigit (continues c isDigit)).append (ih others)

theorem Leads.someDigits (begins : ∀ c : Char, c.isDigit = true → part.next? c = some next)
    (continues : ∀ c : Char, c.isDigit = true → next.next? c = some next) (isSome : text ≠ [])
    (areDigits : ∀ c ∈ text, c.isDigit = true) : Leads text part next := by
  cases text with
  | nil => exact absurd rfl isSome
  | cons c text =>
      obtain ⟨isDigit, others⟩ := List.forall_mem_cons.1 areDigits
      exact (Leads.digit isDigit (begins c isDigit)).append (.digits continues others)

theorem IsWhole.leads (isWhole : IsWhole text) :
    ∃ next, (next = .zero ∨ next = .integer) ∧ Leads text .sign next := by
  cases isWhole with
  | zero => exact ⟨.zero, .inl rfl, .single (by decide) rfl⟩
  | @digits c cs notZero areDigits =>
      obtain ⟨isDigit, others⟩ := List.forall_mem_cons.1 areDigits
      have first : Leads [c] .sign .integer :=
        .digit isDigit (by rw [NumberPart.next?, if_neg notZero, if_pos isDigit])
      exact ⟨.integer, .inr rfl, first.append (.digits (fun _ isDigit => if_pos isDigit) others)⟩

theorem IsFraction.leads (isFraction : IsFraction text)
    (isWhole : part = .zero ∨ part = .integer) :
    ∃ next, (next = .zero ∨ next = .integer ∨ next = .fraction) ∧ Leads text part next := by
  cases isFraction with
  | none => exact ⟨part, isWhole.imp_right .inl, .nil⟩
  | digits isSome areDigits =>
      have point : part.next? '.' = some .point := by
        rcases isWhole with rfl | rfl <;> rfl
      exact ⟨.fraction, .inr (.inr rfl), (Leads.single (by decide) point).append
        (.someDigits (fun _ isDigit => if_pos isDigit) (fun _ isDigit => if_pos isDigit) isSome
          areDigits)⟩

theorem IsExponent.leads (isExponent : IsExponent text)
    (before : part = .zero ∨ part = .integer ∨ part = .fraction) :
    ∃ next : NumberPart, next.isComplete = true ∧ Leads text part next := by
  cases isExponent with
  | none => exact ⟨part, by rcases before with rfl | rfl | rfl <;> rfl, .nil⟩
  | @digits mark sign cs isMark isSign isSome areDigits =>
      have marks : Leads [mark] part .exponentMark := by
        rcases isMark with rfl | rfl <;> rcases before with rfl | rfl | rfl <;>
          exact .single (by decide) rfl
      have signed : Leads cs .exponentSign .exponent :=
        .someDigits (fun _ isDigit => if_pos isDigit) (fun _ isDigit => if_pos isDigit) isSome
          areDigits
      refine ⟨.exponent, rfl, marks.append ?_⟩
      rcases isSign with rfl | rfl | rfl
      · exact .someDigits (fun _ isDigit => if_pos isDigit) (fun _ isDigit => if_pos isDigit)
          isSome areDigits
      · have plus : Leads ['+'] .exponentMark .exponentSign := .single (by decide) rfl
        exact plus.append signed
      · have minus : Leads ['-'] .exponentMark .exponentSign := .single (by decide) rfl
        exact minus.append signed

/-- A whole number begins a literal as it would behind a sign. -/
theorem IsWhole.scanFrom_gap (isWhole : IsWhole text) (tokens : List Token) (rest : Bytes) :
    scanFrom .gap tokens (Utf8.encode text ++ rest) =
      scanFrom (.number [] .sign) tokens (Utf8.encode text ++ rest) := by
  cases isWhole with
  | zero => rfl
  | @digits c cs notZero areDigits =>
      have isDigit := areDigits c List.mem_cons_self
      have range := Decimal.toNat_of_isDigit isDigit
      have ascii : c.toNat < 0x80 := by omega
      have fromGap : step .gap (UInt8.ofNat c.toNat) = some (.number [c] .integer, []) := by
        simp only [step, ofNat_byte_of_lt ascii, gapStep_digit isDigit notZero]
      have fromSign : step (.number [] .sign) (UInt8.ofNat c.toNat) =
          some (.number [c] .integer, []) := by
        simp only [step, ofNat_byte_of_lt ascii, NumberPart.next?, if_neg notZero, if_pos isDigit]
      rw [Utf8.encode_cons, Utf8.utf8EncodeChar_of_lt ascii, List.singleton_append,
        List.cons_append, scanFrom_step _ _ fromGap, scanFrom_step _ _ fromSign]

theorem IsNumber.scans (isNumber : IsNumber text) : Scans text [.number text] := by
  intro seen rest delimited
  cases isNumber with
  | @intro sign whole fraction exponent isSign isWhole isFraction isExponent =>
      obtain ⟨first, isFirst, leadsWhole⟩ := isWhole.leads
      obtain ⟨second, isSecond, leadsFraction⟩ := isFraction.leads isFirst
      obtain ⟨third, isComplete, leadsExponent⟩ := isExponent.leads isSecond
      have leads := leadsWhole.append (leadsFraction.append leadsExponent)
      rcases isSign with rfl | rfl
      · rw [List.nil_append, Utf8.encode_append, List.append_assoc, isWhole.scanFrom_gap,
          ← List.append_assoc, ← Utf8.encode_append, leads,
          scanFrom_number_end _ isComplete delimited, List.append_nil, List.reverse_reverse]
        rfl
      · have begins : step .gap 0x2D = some (.number ['-'] .sign, []) := rfl
        have minus : Utf8.encode ['-'] = [0x2D] := rfl
        rw [Utf8.encode_append, minus, List.append_assoc, List.singleton_append,
          scanFrom_step _ _ begins, leads, scanFrom_number_end _ isComplete delimited,
          List.reverse_append, List.reverse_reverse]
        rfl

private theorem isWhole_digits (n : Nat) : IsWhole (Decimal.digits n) := by
  cases shape : Decimal.digits n with
  | nil => exact absurd shape (Decimal.digits_ne_nil n)
  | cons c digits =>
      have areDigits : ∀ d ∈ c :: digits, d.isDigit = true :=
        fun d member => Decimal.isDigit_of_mem_digits (shape ▸ member)
      rcases Nat.eq_zero_or_pos n with rfl | positive
      · cases shape
        exact .zero
      · refine .digits ?_ areDigits
        rintro rfl
        exact Decimal.head?_digits_ne positive (by rw [shape, List.head?_cons])

theorem isNumber_digits (n : Nat) : IsNumber (Decimal.digits n) := by
  have isNumber := IsNumber.intro (.inl rfl) (isWhole_digits n) .none .none
  simpa using isNumber

end Token

end UptimeIntake.Json
