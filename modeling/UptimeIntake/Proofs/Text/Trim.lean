import Mathlib.Data.List.DropRight
import UptimeIntake.Text.Blank

/-!
# Trimmed texts

What trimming leaves of a text, said without the function that trims: the longest part in the
middle that neither begins nor ends with a character of the kind that is dropped.
-/

set_option autoImplicit false

namespace UptimeIntake.Text

/-- No character of the kind stands at either end. -/
structure IsBare (p : Char → Bool) (inner : List Char) : Prop where
  first : ∀ c ∈ inner.head?, p c = false
  last : ∀ c ∈ inner.getLast?, p c = false

/-- Without the characters of the kind at both ends the text is `inner`. -/
def Trims (p : Char → Bool) (text inner : List Char) : Prop :=
  ∃ front back, text = front ++ (inner ++ back) ∧ (∀ c ∈ front, p c = true) ∧
    (∀ c ∈ back, p c = true) ∧ IsBare p inner

variable {p : Char → Bool} {text inner : List Char}

theorem isBare_of_forall (outside : ∀ c ∈ inner, p c = false) : IsBare p inner :=
  ⟨fun c first => outside c (List.mem_of_mem_head? first),
    fun c last => outside c (List.mem_of_getLast? last)⟩

theorem dropWhile_append_of_head? {front rest : List Char} (dropped : ∀ c ∈ front, p c = true)
    (stops : ∀ c ∈ rest.head?, p c = false) : (front ++ rest).dropWhile p = rest := by
  rw [List.dropWhile_append_of_pos dropped]
  cases rest with
  | nil => rfl
  | cons c rest => rw [List.dropWhile_cons_of_neg (by simp [stops c rfl])]

private theorem dropEndWhile_append_of_getLast? {front back : List Char}
    (dropped : ∀ c ∈ back, p c = true)
    (stops : ∀ c ∈ front.getLast?, p c = false) : dropEndWhile p (front ++ back) = front := by
  have reversed : (back.reverse ++ front.reverse).dropWhile p = front.reverse := by
    apply dropWhile_append_of_head?
    · exact fun c member => dropped c (List.mem_reverse.1 member)
    · rwa [List.head?_reverse]
  rw [dropEndWhile, List.reverse_append, reversed, List.reverse_reverse]

theorem Trims.eq (trims : Trims p text inner) : dropEndWhile p (text.dropWhile p) = inner := by
  obtain ⟨front, back, rfl, leading, trailing, bare⟩ := trims
  cases inner with
  | nil =>
      have all : ∀ c ∈ front ++ back, p c = true := by
        intro c member
        cases List.mem_append.1 member with
        | inl inFront => exact leading c inFront
        | inr inBack => exact trailing c inBack
      rw [List.nil_append, List.dropWhile_eq_nil_iff.2 all]
      rfl
  | cons c inner =>
      have stops : ∀ d ∈ (c :: inner ++ back).head?, p d = false := bare.first
      rw [dropWhile_append_of_head? leading stops]
      exact dropEndWhile_append_of_getLast? trailing bare.last

theorem trims_dropWhile (p : Char → Bool) (text : List Char) :
    Trims p text (dropEndWhile p (text.dropWhile p)) := by
  have split : text.dropWhile p =
      dropEndWhile p (text.dropWhile p) ++ (text.dropWhile p).rtakeWhile p :=
    List.rdropWhile_append_rtakeWhile.symm
  refine ⟨text.takeWhile p, (text.dropWhile p).rtakeWhile p, ?_, ?_, ?_, ?_, ?_⟩
  · rw [← split, List.takeWhile_append_dropWhile]
  · exact fun c member => List.mem_takeWhile_imp member
  · exact fun c member => List.mem_rtakeWhile_imp member
  · intro c first
    have atFront : (text.dropWhile p).head? = some c := by
      rw [split, List.head?_append, Option.mem_def.1 first]
      rfl
    have stopped := List.head?_dropWhile_not p text
    rwa [atFront] at stopped
  · intro c last
    rw [dropEndWhile, List.getLast?_reverse] at last
    have stopped := List.head?_dropWhile_not p (text.dropWhile p).reverse
    rwa [Option.mem_def.1 last] at stopped

theorem trims_iff : Trims p text inner ↔ dropEndWhile p (text.dropWhile p) = inner := by
  constructor
  · exact Trims.eq
  · rintro rfl
    exact trims_dropWhile p text

theorem trim_eq_iff : trim text = inner ↔ Trims isBlank text inner :=
  trims_iff.symm

/-- White space behind a text makes no difference to what trimming leaves. -/
theorem trims_append_iff {back : List Char} (trailing : ∀ c ∈ back, p c = true) :
    Trims p (text ++ back) inner ↔ Trims p text inner := by
  have extend {left : List Char} (trims : Trims p text left) : Trims p (text ++ back) left := by
    obtain ⟨front, after, rfl, leading, others, bare⟩ := trims
    refine ⟨front, after ++ back, by simp only [List.append_assoc], leading, ?_, bare⟩
    intro c member
    cases List.mem_append.1 member with
    | inl inAfter => exact others c inAfter
    | inr inBack => exact trailing c inBack
  constructor
  · intro trims
    have same := (extend (trims_dropWhile p text)).eq
    rw [← trims.eq, same]
    exact trims_dropWhile p text
  · exact extend

end UptimeIntake.Text
