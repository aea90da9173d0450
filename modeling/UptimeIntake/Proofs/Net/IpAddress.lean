import Mathlib.Data.List.TakeWhile
import UptimeIntake.Net.IpAddress
import UptimeIntake.Proofs.Text.Decimal
import UptimeIntake.Proofs.Text.Hex

/-!
# Addresses read back

Every IPv4 and IPv6 address is read back from its text. An IPv6 text is told from dotted decimals
by the colon that comes first in it, and a run of zeros that was left out by its two colons.
-/

set_option autoImplicit false

namespace UptimeIntake.IpAddress

open Text

/-! ## Dotted decimals -/

private theorem length_digits_byte (a : UInt8) : (Decimal.digits a.toNat).length ≤ 3 :=
  (Nat.length_toDigits_le_iff (by decide) (by decide)).2 (Nat.lt_trans a.toNat_lt (by decide))

private theorem length_digits_of_leading_zero {n : Nat}
    (zero : (Decimal.digits n).head? = some '0') :
    (Decimal.digits n).length = 1 := by
  cases n with
  | zero => rfl
  | succ n => exact absurd zero (Decimal.head?_digits_ne (Nat.succ_pos n))

theorem byte?_digits (a : UInt8) {rest : List Char} (ends : Decimal.EndsRun rest) :
    byte? (Decimal.digits a.toNat ++ rest) = some (a, rest) := by
  have short := length_digits_byte a
  have areDigits : ∀ c ∈ Decimal.digits a.toNat, c.isDigit = true :=
    fun _ => Decimal.isDigit_of_mem_digits
  have positive : 1 ≤ (Decimal.digits a.toNat).length :=
    List.length_pos_iff.2 (Decimal.digits_ne_nil a.toNat)
  have noZero : ¬ ((Decimal.digits a.toNat).head? = some '0' ∧
      1 < (Decimal.digits a.toNat).length) := by
    rintro ⟨zero, long⟩
    rw [length_digits_of_leading_zero zero] at long
    exact Nat.lt_irrefl 1 long
  have fits : a.toNat ≤ 255 := Nat.le_of_lt_succ a.toNat_lt
  rw [byte?, Decimal.split_append areDigits (Nat.le_succ_of_le short) (.inr ends)]
  simp only [Decimal.value_digits]
  rw [if_pos ⟨positive, short, noZero, fits⟩, UInt8.ofNat_toNat]

private theorem dotted?_dotted_append (a b c d : UInt8) {rest : List Char}
    (ends : Decimal.EndsRun rest) :
    dotted? (dotted a b c d ++ rest) = some ((a, b, c, d), rest) := by
  have dot (more : List Char) : Decimal.EndsRun ('.' :: more) := Decimal.endsRun_cons more rfl
  simp only [dotted, List.append_assoc, List.cons_append]
  rw [dotted?, byte?_digits a (dot _)]
  simp only [bind, Option.bind, dotByte?, byte?_digits b (dot _), byte?_digits c (dot _),
    byte?_digits d ends]
  rfl

theorem dotted?_dotted (a b c d : UInt8) : dotted? (dotted a b c d) = some ((a, b, c, d), []) := by
  have ends : Decimal.EndsRun [] := fun _ none => by cases none
  have read := dotted?_dotted_append a b c d ends
  rwa [List.append_nil] at read

/-! ## Groups -/

def isHex (c : Char) : Bool := (hexValue? c).isSome

/-- The text neither continues a group nor makes it the first of dotted decimals. -/
def EndsGroup (rest : List Char) : Prop :=
  ∀ c ∈ rest.head?, c = ':'

theorem endsGroup_nil : EndsGroup [] := fun _ first => by cases first

theorem endsGroup_colon (rest : List Char) : EndsGroup (':' :: rest) :=
  fun _ first => (Option.some.inj first).symm

theorem hexValue?_digitChar {n : Nat} (small : n < 16) :
    hexValue? (Nat.digitChar n) = some n := by
  have all : ∀ m < 16, hexValue? (Nat.digitChar m) = some m := by decide
  exact all n small

theorem isHex_of_mem_toDigits {n : Nat} : ∀ c ∈ Nat.toDigits 16 n, isHex c = true := by
  have digit {m : Nat} (small : m < 16) : isHex (Nat.digitChar m) = true := by
    rw [isHex, hexValue?_digitChar small]
    rfl
  rw [Nat.toDigits_eq_if (by decide)]
  split
  · next small =>
      exact List.forall_mem_singleton.2 (digit small)
  · exact List.forall_mem_append.2 ⟨isHex_of_mem_toDigits,
      List.forall_mem_singleton.2 (digit (Nat.mod_lt n (by decide)))⟩
termination_by n
decreasing_by omega

theorem foldl_toDigits (n : Nat) :
    (Nat.toDigits 16 n).foldl (fun n c => n * 16 + (hexValue? c).getD 0) 0 = n := by
  rw [Nat.toDigits_eq_if (by decide)]
  split
  · next small =>
      rw [List.foldl_cons, List.foldl_nil, hexValue?_digitChar small, Option.getD_some]
      omega
  · rw [List.foldl_append, foldl_toDigits (n / 16), List.foldl_cons, List.foldl_nil,
      hexValue?_digitChar (Nat.mod_lt n (by decide)), Option.getD_some]
    omega
termination_by n
decreasing_by omega

private theorem takeWhile_isHex {front rest : List Char} (areHex : ∀ c ∈ front, isHex c = true)
    (ends : EndsGroup rest) : (front ++ rest).takeWhile isHex = front := by
  rw [List.takeWhile_append_of_pos areHex]
  cases rest with
  | nil => exact List.append_nil front
  | cons c rest =>
      rw [ends c rfl, List.takeWhile_cons_of_neg (by decide), List.append_nil]

private theorem group?_group (g : UInt16) {rest : List Char} (ends : EndsGroup rest) :
    group? (group g ++ rest) = some (g, rest) := by
  have run : ((group g ++ rest).takeWhile fun c => (hexValue? c).isSome) = group g :=
    takeWhile_isHex isHex_of_mem_toDigits ends
  have short : (group g).length ≤ 4 :=
    (Nat.length_toDigits_le_iff (by decide) (by decide)).2 (Nat.lt_of_lt_of_eq g.toNat_lt rfl)
  have positive : 1 ≤ (group g).length := Nat.length_toDigits_pos
  simp only [group?, run]
  rw [if_pos ⟨positive, short⟩, List.drop_left, group, foldl_toDigits, UInt16.ofNat_toNat]

/-! ## Colons before dots -/

/-- The first dot or colon of a text. -/
def firstMark? (cs : List Char) : Option Char :=
  cs.find? fun c => c = '.' || c = ':'

theorem firstMark?_append {p : Char → Bool} {front : List Char} (rest : List Char)
    (noMark : p '.' = false ∧ p ':' = false) (all : ∀ c ∈ front, p c = true) :
    firstMark? (front ++ rest) = firstMark? rest := by
  have none : front.find? (fun c => c = '.' || c = ':') = none := by
    refine List.find?_eq_none.2 fun c member isMark => ?_
    have holds := all c member
    rcases Bool.or_eq_true_iff.1 isMark with dot | colon
    · rw [of_decide_eq_true dot, noMark.1] at holds
      cases holds
    · rw [of_decide_eq_true colon, noMark.2] at holds
      cases holds
  rw [firstMark?, List.find?_append, none, Option.none_or, firstMark?]

private theorem split_eq_append (limit : Nat) (cs : List Char) :
    (Decimal.split limit cs).1 ++ (Decimal.split limit cs).2 = cs ∧
      ∀ c ∈ (Decimal.split limit cs).1, c.isDigit = true := by
  fun_induction Decimal.split limit cs with
  | case1 cs => exact ⟨rfl, List.forall_mem_nil _⟩
  | case2 limit => exact ⟨rfl, List.forall_mem_nil _⟩
  | case3 limit c cs isDigit run rest shape ih =>
      rw [shape] at ih
      exact ⟨by rw [List.cons_append, ih.1], List.forall_mem_cons.2 ⟨isDigit, ih.2⟩⟩
  | case4 limit c cs other => exact ⟨rfl, List.forall_mem_nil _⟩

/-- Dotted decimals have a dot before any colon. -/
theorem firstMark?_of_dotted? {cs : List Char} {found : (UInt8 × UInt8 × UInt8 × UInt8) × List Char}
    (isDotted : dotted? cs = some found) : firstMark? cs = some '.' := by
  obtain ⟨⟨a, behind⟩, isByte, later⟩ := Option.bind_eq_some_iff.1 isDotted
  obtain ⟨⟨b, _⟩, isDot, _⟩ := Option.bind_eq_some_iff.1 later
  obtain ⟨whole, areDigits⟩ := split_eq_append 4 cs
  have isRest : (Decimal.split 4 cs).2 = behind := by
    rw [byte?, Option.ite_none_right_eq_some] at isByte
    exact (Prod.mk.inj (Option.some.inj isByte.2)).2
  rw [← whole, firstMark?_append _ (by decide) areDigits, isRest]
  cases behind with
  | nil => cases isDot
  | cons c rest =>
      by_cases dot : c = '.'
      · rw [dot]
        rfl
      · simp [dotByte?, dot] at isDot

theorem dotted?_eq_none {front rest : List Char} (areHex : ∀ c ∈ front, isHex c = true)
    (ends : EndsGroup rest) : dotted? (front ++ rest) = none := by
  cases isDotted : dotted? (front ++ rest) with
  | none => rfl
  | some found =>
      have mark := firstMark?_of_dotted? isDotted
      rw [firstMark?_append rest (by decide) areHex] at mark
      cases rest with
      | nil => cases mark
      | cons c rest =>
          rw [ends c rfl] at mark
          cases mark

/-! ## Sequences of groups -/

/-- Groups behind the first, each behind a colon. -/
def further (list : List UInt16) : List Char :=
  list.flatMap fun g => ':' :: group g

theorem joinGroups_cons (g : UInt16) (list : List UInt16) :
    joinGroups (g :: list) = group g ++ further list := by
  induction list generalizing g with
  | nil => exact (List.append_nil _).symm
  | cons h list ih =>
      rw [joinGroups, ih h, further, further, List.flatMap_cons, List.cons_append]
      exact List.cons_ne_nil h list

theorem endsGroup_further (list : List UInt16) {rest : List Char} (ends : EndsGroup rest) :
    EndsGroup (further list ++ rest) := by
  cases list with
  | nil => exact ends
  | cons g list => exact endsGroup_colon _

theorem groups_step {isFirst : Bool} {cs rest : List Char} {g : UInt16} (limit : Nat)
    (leads : lead? isFirst cs = some (group g ++ rest)) (ends : EndsGroup rest) :
    groups isFirst (limit + 1) cs =
      (g :: (groups false limit rest).1, (groups false limit rest).2) := by
  have noDots : dotted? (group g ++ rest) = none := dotted?_eq_none isHex_of_mem_toDigits ends
  rw [groups, leads]
  simp only [noDots, ite_self, group?_group g ends]

private theorem groups_further (list : List UInt16) (more : Nat) {rest : List Char}
    (ends : EndsGroup rest) :
    groups false (list.length + more) (further list ++ rest) =
      (list ++ (groups false more rest).1, (groups false more rest).2) := by
  induction list with
  | nil => rw [List.length_nil, Nat.zero_add]; rfl
  | cons g list ih =>
      have leads : lead? false (further (g :: list) ++ rest) =
          some (group g ++ (further list ++ rest)) := by
        rw [further, List.flatMap_cons, List.cons_append, List.cons_append, List.append_assoc]
        rfl
      rw [List.length_cons, Nat.add_right_comm, groups_step _ leads (endsGroup_further list ends), ih]
      rfl

/-- Nothing is read where no group can begin: at the end of a text or before two colons. -/
def StopsGroups (rest : List Char) : Prop :=
  rest = [] ∨ ∃ behind, rest = ':' :: ':' :: behind

theorem StopsGroups.endsGroup {rest : List Char} (stops : StopsGroups rest) : EndsGroup rest := by
  rcases stops with rfl | ⟨behind, rfl⟩
  · exact endsGroup_nil
  · exact endsGroup_colon _

theorem groups_of_stops (isFirst : Bool) (limit : Nat) {rest : List Char}
    (stops : StopsGroups rest) : groups isFirst limit rest = ([], false, rest) := by
  have noGroup (text : List Char) : group? (':' :: text) = none := rfl
  have noDots (text : List Char) : dotted? (':' :: text) = none :=
    dotted?_eq_none (List.forall_mem_nil _) (endsGroup_colon text)
  cases limit with
  | zero => rfl
  | succ limit =>
      rcases stops with rfl | ⟨behind, rfl⟩
      · cases isFirst <;> simp [groups, lead?, dotted?, byte?, group?, Decimal.split]
      · cases isFirst <;> simp [groups, lead?, noGroup, noDots]

theorem groups_joinGroups (list : List UInt16) {limit : Nat} (within : list.length ≤ limit)
    {rest : List Char} (stops : StopsGroups rest) :
    groups true limit (joinGroups list ++ rest) = (list, false, rest) := by
  obtain ⟨more, rfl⟩ := Nat.exists_eq_add_of_le within
  cases list with
  | nil => exact groups_of_stops true _ stops
  | cons g list =>
      have leads : lead? true (joinGroups (g :: list) ++ rest) =
          some (group g ++ (further list ++ rest)) := by
        rw [joinGroups_cons, List.append_assoc]
        rfl
      rw [List.length_cons, Nat.add_right_comm,
        groups_step _ leads (endsGroup_further list stops.endsGroup),
        groups_further list more stops.endsGroup, groups_of_stops false more stops, List.append_nil]

/-! ## Runs of zeros -/

private theorem exists_zeros (list : List UInt16) :
    ∃ back, list = List.replicate (zeroRun list) 0 ++ back := by
  have zeros : list.takeWhile (· = 0) = List.replicate (zeroRun list) 0 := by
    refine List.eq_replicate_iff.2 ⟨rfl, fun g member => ?_⟩
    have isZero := List.mem_takeWhile_imp member
    exact of_decide_eq_true isZero
  exact ⟨list.dropWhile (· = 0), by rw [← zeros, List.takeWhile_append_dropWhile]⟩

private theorem exists_run (index : Nat) (list : List UInt16) :
    ∃ front back, list = front ++ (List.replicate (longestRun index list).2 0 ++ back) ∧
      (longestRun index list).1 = index + front.length := by
  induction list generalizing index with
  | nil => exact ⟨[], [], rfl, rfl⟩
  | cons g list ih =>
      rw [longestRun]
      split
      · obtain ⟨back, whole⟩ := exists_zeros (g :: list)
        exact ⟨[], back, whole, rfl⟩
      · obtain ⟨front, back, whole, start⟩ := ih (index + 1)
        refine ⟨g :: front, back, ?_, ?_⟩
        · rw [List.cons_append, ← whole]
        · rw [start, List.length_cons]
          omega

/-! ## Addresses -/

theorem ofGroups?_toList (list : Vector UInt16 8) : ofGroups? list.toList = some (v6 list) := by
  rw [ofGroups?, dif_pos (Vector.length_toList)]
  rfl

private theorem readV6?_whole {list : List UInt16} (eight : list.length = 8) :
    readV6? (joinGroups list) = (ofGroups? list).map fun address => (address, []) := by
  have read := groups_joinGroups list (Nat.le_of_eq eight) (.inl rfl)
  rw [List.append_nil] at read
  rw [readV6?, read]
  simp only [eight, if_true]

private theorem readV6?_cut {head tail : List UInt16} (short : head.length + tail.length < 8) :
    readV6? (joinGroups head ++ ':' :: ':' :: joinGroups tail) =
      (ofGroups? (head ++ List.replicate (8 - head.length - tail.length) 0 ++ tail)).map
        fun address => (address, []) := by
  have headFits : head.length ≤ 8 := by omega
  have tailFits : tail.length ≤ 7 - head.length := by omega
  have stops : StopsGroups (':' :: ':' :: joinGroups tail) := .inr ⟨joinGroups tail, rfl⟩
  have readHead := groups_joinGroups head headFits stops
  have readTail := groups_joinGroups tail tailFits (.inl rfl)
  rw [List.append_nil] at readTail
  have notAll : ¬ head.length = 8 := by omega
  rw [readV6?, readHead]
  simp only [notAll, if_false, Bool.false_eq_true, readTail]

private theorem readV6?_writeGroups {list : List UInt16} (eight : list.length = 8) :
    readV6? (writeGroups list) = (ofGroups? list).map fun address => (address, []) := by
  obtain ⟨front, back, whole, start⟩ := exists_run 0 list
  generalize run : longestRun 0 list = found at whole start
  obtain ⟨index, size⟩ := found
  rw [Nat.zero_add] at start
  dsimp only at whole start
  subst start
  rw [writeGroups, run]
  dsimp only
  split
  · next several =>
      have sizes := congrArg List.length whole
      simp only [List.length_append, List.length_replicate, eight] at sizes
      have left : 8 - front.length - back.length = size := by omega
      have head : list.take front.length = front := by rw [whole, List.take_left]
      have tail : list.drop (front.length + size) = back := by
        rw [whole, ← List.append_assoc]
        exact List.drop_left' (by rw [List.length_append, List.length_replicate])
      rw [head, tail, readV6?_cut (by omega), left, List.append_assoc, ← whole]
  · exact readV6?_whole eight

/-! ## Mapped addresses -/

theorem pair_halves (g : UInt16) : pair (g >>> 8).toUInt8 g.toUInt8 = g := by
  have small := g.toNat_lt
  have high : (g >>> 8).toUInt8.toNat = g.toNat / 256 := by
    rw [UInt16.toNat_toUInt8, UInt16.toNat_shiftRight]
    have eight : (8 : UInt16).toNat % 16 = 8 := rfl
    rw [eight, Nat.shiftRight_eq_div_pow]
    omega
  have low : g.toUInt8.toNat = g.toNat % 256 := UInt16.toNat_toUInt8 g
  have whole : g.toNat / 256 * 256 + g.toNat % 256 = g.toNat := by omega
  rw [pair, high, low, whole, UInt16.ofNat_toNat]

/-- What stands before the dotted decimals of a mapped address. -/
theorem mapped_eq : "::ffff:".toList = ':' :: ':' :: (group 0xFFFF ++ [':']) := by decide

private theorem groups_mapped (a b c d : UInt8) :
    groups true 7 (group 0xFFFF ++ ':' :: dotted a b c d) =
      ([0xFFFF, pair a b, pair c d], true, []) := by
  rw [groups_step 6 rfl (endsGroup_colon _), groups, lead?]
  simp [dotted?_dotted a b c d]

private theorem readV6?_mapped (a b c d : UInt8) :
    readV6? ("::ffff:".toList ++ dotted a b c d) =
      (ofGroups? [0, 0, 0, 0, 0, 0xFFFF, pair a b, pair c d]).map fun address => (address, []) := by
  have readHead := groups_of_stops true 8 (.inr ⟨group 0xFFFF ++ ':' :: dotted a b c d, rfl⟩)
  rw [mapped_eq]
  simp only [List.cons_append, List.append_assoc, List.nil_append]
  rw [readV6?, readHead]
  simp [groups_mapped, List.replicate_succ]

private theorem readV6?_write (list : Vector UInt16 8) :
    readV6? (write (v6 list)) = some (v6 list, []) := by
  rw [write]
  split
  · next high low shape =>
      rw [readV6?_mapped, pair_halves, pair_halves, ← shape, ofGroups?_toList]
      rfl
  · rw [readV6?_writeGroups Vector.length_toList, ofGroups?_toList]
    rfl

/-! ## Round trips -/

theorem dotted?_joinGroups (list : List UInt16) {rest : List Char} (ends : EndsGroup rest) :
    dotted? (joinGroups list ++ rest) = none := by
  cases list with
  | nil => exact dotted?_eq_none (List.forall_mem_nil _) ends
  | cons g list =>
      rw [joinGroups_cons, List.append_assoc]
      exact dotted?_eq_none isHex_of_mem_toDigits (endsGroup_further list ends)

private theorem dotted?_write (list : Vector UInt16 8) : dotted? (write (v6 list)) = none := by
  rw [write]
  split
  · rw [mapped_eq]
    exact dotted?_joinGroups [] (endsGroup_colon _)
  · rw [writeGroups]
    dsimp only
    split
    · exact dotted?_joinGroups _ (endsGroup_colon _)
    · have noDots := dotted?_joinGroups list.toList endsGroup_nil
      rwa [List.append_nil] at noDots

theorem parse?_write (a : IpAddress) : parse? a.write = some a := by
  cases a with
  | v4 a b c d =>
      rw [write, parse?, dotted?_dotted]
      rfl
  | v6 list =>
      rw [parse?, dotted?_write, readV6?_write]
      rfl

end UptimeIntake.IpAddress
