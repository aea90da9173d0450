import Mathlib.Data.List.TakeWhile
import UptimeIntake.Text.Split

/-!
# Pieces of a text

Splitting is the library's, and its pieces are the parts of the text that a separator or an end of
the text bounds on either side.
-/

set_option autoImplicit false

namespace UptimeIntake.Text

theorem split_eq_splitOn (separator : Char) (cs : List Char) :
    split separator cs = cs.splitOn separator := by
  induction cs with
  | nil => rfl
  | cons c cs ih =>
      rw [split, List.splitOn, List.splitOnP_cons_eq_if_modifyHead, ← List.splitOn, ih]
      by_cases same : c = separator
      · rw [if_pos same, if_pos (beq_iff_eq.2 same)]
      · rw [if_neg same, if_neg (by simpa using same)]
        cases pieces : cs.splitOn separator with
        | nil => exact absurd pieces (List.splitOn_ne_nil separator cs)
        | cons first rest => rfl

theorem split_append_cons (separator : Char) (before after : List Char) :
    split separator (before ++ separator :: after) =
      split separator before ++ split separator after := by
  simp only [split_eq_splitOn, List.splitOn_append_cons_self]

theorem split_of_not_mem {separator : Char} {piece : List Char} (free : separator ∉ piece) :
    split separator piece = [piece] := by
  rw [split_eq_splitOn, List.splitOn_eq_singleton free]

/-! ## The first piece -/

theorem takeWhile_ne_eq_iff {separator : Char} {text first : List Char} :
    text.takeWhile (· ≠ separator) = first ↔ separator ∉ first ∧
      ∃ rest, text = first ++ rest ∧ (rest = [] ∨ ∃ others, rest = separator :: others) := by
  constructor
  · rintro rfl
    refine ⟨fun member => ?_, text.dropWhile (· ≠ separator),
      List.takeWhile_append_dropWhile.symm, ?_⟩
    · simpa using List.mem_takeWhile_imp member
    · cases left : text.dropWhile (· ≠ separator) with
      | nil => exact .inl rfl
      | cons c others =>
          have stopped := List.head?_dropWhile_not (· ≠ separator) text
          rw [left] at stopped
          obtain rfl : c = separator := by simpa using stopped
          exact .inr ⟨others, rfl⟩
  · rintro ⟨free, rest, rfl, bounded⟩
    have within : ∀ c ∈ first, decide (c ≠ separator) = true := by
      intro c member
      exact decide_eq_true fun same => free (same ▸ member)
    rw [List.takeWhile_append_of_pos within]
    rcases bounded with rfl | ⟨others, rfl⟩
    · simp
    · simp

theorem head?_split (separator : Char) (text : List Char) :
    (split separator text).head? = some (text.takeWhile (· ≠ separator)) := by
  induction text with
  | nil => rfl
  | cons c text ih =>
      rw [split]
      by_cases same : c = separator
      · rw [if_pos same, List.takeWhile_cons_of_neg (by simp [same])]
        rfl
      · rw [if_neg same, List.takeWhile_cons_of_pos (by simp [same])]
        cases pieces : split separator text with
        | nil =>
            rw [pieces] at ih
            cases ih
        | cons first rest =>
            rw [pieces, List.head?_cons, Option.some.injEq] at ih
            rw [List.head?_cons, ih]

/-! ## All pieces -/

/-- A part of the text without the separator, which the separator or an end of the text bounds on
either side. -/
structure IsPiece (separator : Char) (text piece : List Char) : Prop where
  free : separator ∉ piece
  bounded : ∃ before after, text = before ++ (piece ++ after) ∧
    (before = [] ∨ ∃ earlier, before = earlier ++ [separator]) ∧
    (after = [] ∨ ∃ later, after = separator :: later)

variable {separator : Char} {text piece : List Char}

theorem IsPiece.mem_split (isPiece : IsPiece separator text piece) :
    piece ∈ split separator text := by
  obtain ⟨free, before, after, rfl, left, right⟩ := isPiece
  have inRest : piece ∈ split separator (piece ++ after) := by
    rcases right with rfl | ⟨later, rfl⟩
    · rw [List.append_nil, split_of_not_mem free]
      exact List.mem_singleton_self piece
    · rw [split_append_cons, split_of_not_mem free]
      exact List.mem_cons_self
  rcases left with rfl | ⟨earlier, rfl⟩
  · exact inRest
  · rw [List.append_assoc, List.singleton_append, split_append_cons]
    exact List.mem_append_right _ inRest

theorem IsPiece.behind (isPiece : IsPiece separator text piece) (earlier : List Char) :
    IsPiece separator (earlier ++ separator :: text) piece := by
  obtain ⟨free, before, after, rfl, left, right⟩ := isPiece
  refine ⟨free, earlier ++ separator :: before, after, by simp, .inr ?_, right⟩
  rcases left with rfl | ⟨first, rfl⟩
  · exact ⟨earlier, rfl⟩
  · exact ⟨earlier ++ separator :: first, by simp⟩

private theorem isPiece_of_mem_split (member : piece ∈ split separator text) :
    IsPiece separator text piece := by
  induction size : text.length using Nat.strongRecOn generalizing text with
  | _ n ih =>
      by_cases inText : separator ∈ text
      · obtain ⟨first, rest, rfl, free⟩ := List.eq_append_cons_of_mem inText
        have shorter : rest.length < n := by
          simp only [List.length_append, List.length_cons] at size
          omega
        rw [split_append_cons, split_of_not_mem free] at member
        cases member with
        | head => exact ⟨free, [], separator :: rest, rfl, .inl rfl, .inr ⟨rest, rfl⟩⟩
        | tail _ inRest => exact (ih rest.length shorter inRest rfl).behind first
      · rw [split_of_not_mem inText, List.mem_singleton] at member
        subst member
        exact ⟨inText, [], [], (List.append_nil _).symm, .inl rfl, .inl rfl⟩

theorem mem_split_iff : piece ∈ split separator text ↔ IsPiece separator text piece :=
  ⟨isPiece_of_mem_split, IsPiece.mem_split⟩

end UptimeIntake.Text
