import Mathlib.Algebra.Group.Nat.Defs
import Mathlib.Data.List.Induction
import UptimeIntake.Text.Decimal

/-!
# Decimal text reads back

Digits and fixed-width fields write numbers that reading gives back, with the text behind them
left over.
-/

set_option autoImplicit false

namespace UptimeIntake.Text.Decimal

/-! ## What is written -/

theorem isDigit_of_mem_digits {n : Nat} {c : Char} (member : c ∈ digits n) : c.isDigit = true :=
  Nat.isDigit_of_mem_toDigits (by decide) (by decide) member

theorem digits_ne_nil (n : Nat) : digits n ≠ [] :=
  Nat.toDigits_ne_nil

theorem toNat_of_isDigit {c : Char} (isDigit : c.isDigit = true) : 48 ≤ c.toNat ∧ c.toNat ≤ 57 := by
  simp only [Char.isDigit, Bool.and_eq_true, decide_eq_true_eq] at isDigit
  exact ⟨UInt32.le_iff_toNat_le.1 isDigit.1, UInt32.le_iff_toNat_le.1 isDigit.2⟩

/-- Only zero is written with a leading zero. -/
theorem head?_digits_ne {n : Nat} (positive : 0 < n) : (digits n).head? ≠ some '0' := by
  rw [digits, Nat.toDigits_eq_if (by decide)]
  split
  · intro zero
    rw [List.head?_cons, Option.some.injEq, Nat.digitChar_eq_zero] at zero
    exact absurd zero (Nat.ne_of_gt positive)
  · have front := head?_digits_ne (n := n / 10) (by omega)
    cases shape : Nat.toDigits 10 (n / 10) with
    | nil => exact absurd shape Nat.toDigits_ne_nil
    | cons c rest =>
        rw [digits, shape] at front
        exact front
termination_by n
decreasing_by omega

@[simp] theorem value_digits (n : Nat) : value (digits n) = n :=
  Nat.ofDigitChars_ten_toDigits

@[simp] theorem length_field (width n : Nat) : (field width n).length = width := by
  induction width generalizing n with
  | zero => rfl
  | succ width ih => simp [field, ih]

theorem isDigit_of_mem_field {width n : Nat} {c : Char} (member : c ∈ field width n) :
    c.isDigit = true := by
  induction width generalizing n with
  | zero => cases member
  | succ width ih =>
      rcases List.mem_append.1 member with earlier | last
      · exact ih earlier
      · rw [List.mem_singleton.1 last, Nat.isDigit_digitChar]
        exact decide_eq_true (Nat.mod_lt n (by decide))

theorem value_field {width n : Nat} (fits : n < 10 ^ width) : value (field width n) = n := by
  induction width generalizing n with
  | zero => exact (Nat.lt_one_iff.1 fits).symm
  | succ width ih =>
      have front : value (field width (n / 10)) = n / 10 := by
        refine ih ?_
        rw [Nat.pow_succ] at fits
        omega
      rw [value] at front
      rw [value, field, Nat.ofDigitChars_append, front,
        Nat.ofDigitChars_cons_digitChar_of_lt_ten (Nat.mod_lt n (by decide)), Nat.ofDigitChars_nil]
      omega

/-! ## Fields of a fixed width -/

/-- The text is the number in a field of digits. -/
structure IsField (width number : Nat) (text : List Char) : Prop where
  length : text.length = width
  digits : ∀ c ∈ text, c.isDigit = true
  value : value text = number

theorem isField_field {width number : Nat} (fits : number < 10 ^ width) :
    IsField width number (field width number) where
  length := length_field width number
  digits _ := isDigit_of_mem_field
  value := value_field fits

theorem value_concat (run : List Char) (c : Char) :
    value (run ++ [c]) = 10 * value run + (c.toNat - 48) := by
  rw [value, Nat.ofDigitChars_append, Nat.ofDigitChars_cons, Nat.ofDigitChars_nil, value]
  rfl

theorem value_lt {run : List Char} (isRun : ∀ c ∈ run, c.isDigit = true) :
    value run < 10 ^ run.length := by
  induction run using List.reverseRecOn with
  | nil => exact Nat.one_pos
  | append_singleton run c ih =>
      obtain ⟨others, last⟩ := List.forall_mem_append.1 isRun
      have isDigit := toNat_of_isDigit (last c List.mem_cons_self)
      have front := ih others
      rw [value_concat, List.length_append, List.length_singleton, Nat.pow_succ]
      omega

private theorem digitChar_of_isDigit {c : Char} (isDigit : c.isDigit = true) :
    Nat.digitChar (c.toNat - 48) = c := by
  have range := toNat_of_isDigit isDigit
  have all : ∀ n < 58, 48 ≤ n → Nat.digitChar (n - 48) = Char.ofNat n := by decide
  rw [all c.toNat (Nat.lt_succ_of_le range.2) range.1, Char.ofNat_toNat]

theorem IsField.eq_field {width number : Nat} {text : List Char}
    (isField : IsField width number text) : text = field width number := by
  obtain ⟨length, digits, value⟩ := isField
  subst length value
  induction text using List.reverseRecOn with
  | nil => rfl
  | append_singleton run c ih =>
      obtain ⟨others, last⟩ := List.forall_mem_append.1 digits
      have isDigit := last c List.mem_cons_self
      have range := toNat_of_isDigit isDigit
      rw [List.length_append, List.length_singleton, field, value_concat,
        show (10 * Decimal.value run + (c.toNat - 48)) / 10 = Decimal.value run by omega,
        show (10 * Decimal.value run + (c.toNat - 48)) % 10 = c.toNat - 48 by omega,
        ← ih others, digitChar_of_isDigit isDigit]

/-! ## What is read -/

/-- No digit stands at the start. -/
def EndsRun (cs : List Char) : Prop :=
  ∀ c ∈ cs.head?, c.isDigit = false

theorem endsRun_cons {c : Char} (cs : List Char) (other : c.isDigit = false) : EndsRun (c :: cs) := by
  intro d first
  rw [List.head?_cons, Option.mem_some_iff] at first
  rwa [← first]

/-- A run is split off whole if it exhausts the limit or no digit follows. -/
theorem split_append {run rest : List Char} {limit : Nat} (isRun : ∀ c ∈ run, c.isDigit = true)
    (within : run.length ≤ limit) (ends : run.length = limit ∨ EndsRun rest) :
    split limit (run ++ rest) = (run, rest) := by
  induction run generalizing limit with
  | nil =>
      cases limit with
      | zero => rfl
      | succ limit =>
          cases rest with
          | nil => rfl
          | cons c rest =>
              have other : c.isDigit = false := (ends.resolve_left (by simp)) c rfl
              simp [split, other]
  | cons c run ih =>
      cases limit with
      | zero => cases within
      | succ limit =>
          have digit := isRun c List.mem_cons_self
          have tail : split limit (run ++ rest) = (run, rest) := by
            refine ih (fun d member => isRun d (List.mem_cons_of_mem c member)) ?_ ?_
            · exact Nat.le_of_succ_le_succ within
            · exact ends.imp_left Nat.succ.inj
          simp [split, digit, tail]

theorem read?_append {run rest : List Char} {limit : Nat} (isRun : ∀ c ∈ run, c.isDigit = true)
    (nonempty : run ≠ []) (within : run.length ≤ limit)
    (ends : run.length = limit ∨ EndsRun rest) :
    read? limit (run ++ rest) = some (value run, rest) := by
  rw [read?, split_append isRun within ends]
  cases run with
  | nil => exact absurd rfl nonempty
  | cons c run => rfl

/-- A field of the width that reading takes at most. -/
theorem read?_field {width n : Nat} (positive : width ≠ 0) (fits : n < 10 ^ width)
    (rest : List Char) : read? width (field width n ++ rest) = some (n, rest) := by
  have nonempty : field width n ≠ [] := by
    intro empty
    exact positive (by rw [← length_field width n, empty, List.length_nil])
  rw [read?_append (fun _ => isDigit_of_mem_field) nonempty (by simp) (.inl (by simp)),
    value_field fits]

/-! ## Unsigned numbers -/

/-- The text writes the number in one or more digits behind an optional `+`. -/
def IsUnsigned (cs : List Char) (n : Nat) : Prop :=
  ∃ sign run, cs = sign ++ run ∧ (sign = [] ∨ sign = ['+']) ∧ run ≠ [] ∧
    (∀ c ∈ run, c.isDigit = true) ∧ value run = n

variable {bound n : Nat} {run : List Char}

theorem ite_value_eq_some_iff :
    (if run ≠ [] ∧ run.all Char.isDigit ∧ value run ≤ bound then some (value run) else none) =
        some n ↔
      run ≠ [] ∧ (∀ c ∈ run, c.isDigit = true) ∧ value run = n ∧ n ≤ bound := by
  rw [Option.ite_none_right_eq_some, Option.some.injEq, List.all_eq_true]
  constructor
  · rintro ⟨⟨nonempty, digits, fits⟩, rfl⟩
    exact ⟨nonempty, digits, rfl, fits⟩
  · rintro ⟨nonempty, digits, rfl, fits⟩
    exact ⟨⟨nonempty, digits, fits⟩, rfl⟩

theorem unsigned?_plus (bound : Nat) (run : List Char) :
    unsigned? bound ('+' :: run) =
      if run ≠ [] ∧ run.all Char.isDigit ∧ value run ≤ bound then some (value run) else none := rfl

theorem unsigned?_of_head?_ne (bound : Nat) (noSign : run.head? ≠ some '+') :
    unsigned? bound run =
      if run ≠ [] ∧ run.all Char.isDigit ∧ value run ≤ bound then some (value run) else none := by
  unfold unsigned?
  dsimp only
  split
  · exact absurd rfl noSign
  · rfl

theorem unsigned?_eq_some_iff {cs : List Char} :
    unsigned? bound cs = some n ↔ IsUnsigned cs n ∧ n ≤ bound := by
  constructor
  · intro read
    by_cases signed : cs.head? = some '+'
    · obtain ⟨run, rfl⟩ := List.head?_eq_some_iff.1 signed
      rw [unsigned?_plus, ite_value_eq_some_iff] at read
      obtain ⟨nonempty, digits, value_eq, fits⟩ := read
      exact ⟨⟨['+'], run, rfl, .inr rfl, nonempty, digits, value_eq⟩, fits⟩
    · rw [unsigned?_of_head?_ne bound signed, ite_value_eq_some_iff] at read
      obtain ⟨nonempty, digits, value_eq, fits⟩ := read
      exact ⟨⟨[], cs, rfl, .inl rfl, nonempty, digits, value_eq⟩, fits⟩
  · rintro ⟨⟨sign, run, rfl, rfl | rfl, nonempty, digits, value_eq⟩, fits⟩
    · have noSign : run.head? ≠ some '+' := by
        intro signed
        have isDigit := digits '+' (List.mem_of_mem_head? signed)
        cases isDigit
      rw [List.nil_append, unsigned?_of_head?_ne bound noSign, ite_value_eq_some_iff]
      exact ⟨nonempty, digits, value_eq, fits⟩
    · rw [List.singleton_append, unsigned?_plus, ite_value_eq_some_iff]
      exact ⟨nonempty, digits, value_eq, fits⟩

end UptimeIntake.Text.Decimal
