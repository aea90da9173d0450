import Mathlib.Data.List.Forall2
import UptimeIntake.Json.Record
import UptimeIntake.Proofs.Json.Grammar
import UptimeIntake.Proofs.Json.Records
import UptimeIntake.Submission.Payload

/-!
# Compact documents read back

The texts that are written here, without white space: quoted strings, numbers and objects. An object
of members with different names is a record, and holds what its members are.
-/

set_option autoImplicit false

namespace UptimeIntake.Json

open UptimeIntake.Text

/-! ## Values -/

namespace Value

open Reader Token

/-- The value of a quoted text. -/
def ofText (cs : List Char) : Value :=
  .text (Text.quotedBytes cs)

theorem written_quote (cs : List Char) : Written (Text.quote cs) (ofText cs) :=
  .text (Text.spells_escaped cs).isQuotable

theorem written_digits (n : Nat) : Written (Decimal.digits n) (.number (Decimal.digits n)) :=
  .number (isNumber_digits n)

/-! ## Objects -/

def MemberWritten (m : Member) (named : String × Value) : Prop :=
  m.1 = named.1 ∧ Written m.2 named.2

/-- A member as it stands in a value, with its name as written. -/
def unnamed (named : String × Value) : Bytes × Value :=
  (Text.quotedBytes named.1.toList, named.2)

/-- A member written without white space. -/
def compact (m : Member) : MemberText :=
  ⟨[], m.1.toList.flatMap Text.escapeChar, [], m.2⟩

private theorem isFormed_compact (m : Member) : (compact m).IsFormed where
  before := List.forall_mem_nil _
  name := (Text.spells_escaped m.1.toList).isQuotable
  between := List.forall_mem_nil _

private theorem exists_parts {members : List Member} {named : List (String × Value)}
    (each : List.Forall₂ MemberWritten members named) :
    ∃ parts : List (MemberText × Value),
      (parts.map fun part => part.1.write) = members.map Member.write ∧
      (parts.map fun part => (Utf8.encode part.1.name, part.2)) = named.map unnamed ∧
      ∀ part ∈ parts, part.1.IsFormed ∧ Written part.1.value part.2 := by
  induction each with
  | nil => exact ⟨[], rfl, rfl, fun _ member => by cases member⟩
  | @cons m named members more written _ ih =>
      obtain ⟨parts, texts, values, formed⟩ := ih
      obtain ⟨sameName, written⟩ := written
      refine ⟨(compact m, named.2) :: parts, ?_, ?_, ?_⟩
      · rw [List.map_cons, List.map_cons, texts]
        rfl
      · rw [List.map_cons, List.map_cons, values, unnamed, ← sameName]
        rfl
      · exact List.forall_mem_cons.2 ⟨⟨isFormed_compact m, written⟩, formed⟩

private theorem writeObject_eq {members : List Member} (isSome : members ≠ []) :
    Member.writeObject members =
      '\x7b' :: (separated (members.map Member.write) ++ ['\x7d']) := by
  cases members with
  | nil => exact absurd rfl isSome
  | cons m members =>
      rw [Member.writeObject, Member.writeFurther, List.map_cons, separated, List.flatMap_map]
      rfl

theorem written_writeObject {members : List Member} {named : List (String × Value)}
    (each : List.Forall₂ MemberWritten members named) :
    Written (Member.writeObject members) (.object (named.map unnamed)) := by
  obtain ⟨parts, texts, values, formed⟩ := exists_parts each
  by_cases isSome : members = []
  · subst isSome
    cases each
    exact .emptyObject (List.forall_mem_nil _)
  · have someParts : parts ≠ [] := by
      rintro rfl
      exact isSome (List.map_eq_nil_iff.1 texts.symm)
    rw [writeObject_eq isSome, ← texts, ← values]
    exact .object someParts (fun part member => (formed part member).1)
      fun part member => (formed part member).2

/-! ## Numbers -/

theorem natural?_digits {n bound : Nat} (within : n ≤ bound) :
    natural? bound (.number (Decimal.digits n)) = some n := by
  have areDigits : (Decimal.digits n).all Char.isDigit = true :=
    List.all_eq_true.2 fun c member => Decimal.isDigit_of_mem_digits member
  rw [natural?, Decimal.value_digits, if_pos ⟨areDigits, within⟩]

theorem uint16?_digits (n : UInt16) :
    uint16? (.number (Decimal.digits n.toNat)) = some n := by
  have within : n.toNat ≤ UInt16.size - 1 := Nat.le_sub_one_of_lt n.toNat_lt
  rw [uint16?, natural?_digits within, Option.map_some, UInt16.ofNat_toNat]

theorem uint32?_digits (n : UInt32) :
    uint32? (.number (Decimal.digits n.toNat)) = some n := by
  have within : n.toNat ≤ UInt32.size - 1 := Nat.le_sub_one_of_lt n.toNat_lt
  rw [uint32?, natural?_digits within, Option.map_some, UInt32.ofNat_toNat]

theorem uint64?_digits (n : UInt64) :
    uint64? (.number (Decimal.digits n.toNat)) = some n := by
  have within : n.toNat ≤ UInt64.size - 1 := Nat.le_sub_one_of_lt n.toNat_lt
  rw [uint64?, natural?_digits within, Option.map_some, UInt64.ofNat_toNat]

/-! ## Records of named members -/

variable {names : List String} {named : List (String × Value)} {name : String} {w : Value}

/-- A member that is present if there is something to write. -/
def optionalMember {α : Type} (name : String) (value : α → Value) (field : Option α) :
    List (String × Value) :=
  field.toList.map fun x => (name, value x)

theorem map_fst_optionalMember {α : Type} (name : String) (value : α → Value) (field : Option α) :
    ((optionalMember name value field).map Prod.fst).Sublist [name] := by
  cases field with
  | none => exact List.nil_sublist _
  | some x => exact List.Sublist.refl _

theorem isNamed_unnamed_iff {n : String × Value} : IsNamed (unnamed n) name ↔ n.1 = name := by
  constructor
  · intro isNamed
    have reads := isNamed.read?
    rw [unnamed, Text.read?_quotedBytes] at reads
    exact Option.some.inj reads
  · rintro rfl
    exact ⟨_, rfl, Text.spells_escaped n.1.toList⟩

theorem holds_object_iff : Holds names (.object (named.map unnamed)) name w ↔ (name, w) ∈ named := by
  constructor
  · rintro ⟨⟩
    next m member isNamed =>
      obtain ⟨n, isMember, rfl⟩ := List.mem_map.1 member
      obtain rfl := isNamed_unnamed_iff.1 isNamed
      exact isMember
  · intro member
    exact Holds.member (m := unnamed (name, w)) (List.mem_map.2 ⟨_, member, rfl⟩)
      (isNamed_unnamed_iff.2 rfl)

theorem isRecord_object (nodup : (named.map Prod.fst).Nodup) :
    IsRecord names (.object (named.map unnamed)) := by
  refine .object ?_ ?_
  · rw [List.forall_mem_map]
    exact fun n _ => ⟨n.1, isNamed_unnamed_iff.2 rfl⟩
  · intro repeats
    cases repeats with
    | twice _ within isFirst isSecond =>
        obtain ⟨kept, areMembers, shape⟩ := List.sublist_map_iff.1 within
        obtain ⟨n, behind, rfl, rfl, more⟩ := List.map_eq_cons_iff.1 shape.symm
        obtain ⟨m, _, rfl, rfl, _⟩ := List.map_eq_cons_iff.1 more
        have sameName : n.1 = m.1 :=
          (isNamed_unnamed_iff.1 isFirst).trans (isNamed_unnamed_iff.1 isSecond).symm
        have differ := (areMembers.map Prod.fst).nodup nodup
        simp [sameName] at differ

@[simp] theorem mem_optionalMember {α : Type} {other : String} {value : α → Value} {field : Option α} :
    (name, w) ∈ optionalMember other value field ↔
      other = name ∧ ∃ x, field = some x ∧ value x = w := by
  cases field with
  | none => simp [optionalMember]
  | some x => simp [optionalMember, eq_comm]

variable {α : Type} {IsValue : α → Value → Prop}

theorem tells_set {x : α} (member : (name, w) ∈ named) (isValue : IsValue x w) :
    Tells names (.object (named.map unnamed)) name IsValue (some x) :=
  ⟨w, holds_object_iff.2 member, isValue⟩

theorem tells_unset (nowhere : ∀ w, (name, w) ∉ named) :
    Tells names (.object (named.map unnamed)) name IsValue none := by
  intro w holds
  exact absurd (holds_object_iff.1 holds) (nowhere w)

theorem tells_optional {value : α → Value} {field : Option α}
    (exactly : ∀ w, (name, w) ∈ named ↔ ∃ x, field = some x ∧ value x = w)
    (isValue : ∀ x, field = some x → IsValue x (value x)) :
    Tells names (.object (named.map unnamed)) name IsValue field := by
  cases field with
  | some x => exact tells_set ((exactly _).2 ⟨x, rfl, rfl⟩) (isValue x rfl)
  | none =>
      refine tells_unset fun w member => ?_
      obtain ⟨x, unset, _⟩ := (exactly w).1 member
      cases unset

theorem exists_written_object (each : ∀ n ∈ named, ∃ text, Written text n.2) :
    ∃ text, Written text (.object (named.map unnamed)) := by
  have members : ∃ members, List.Forall₂ MemberWritten members named := by
    induction named with
    | nil => exact ⟨[], .nil⟩
    | cons n named ih =>
        obtain ⟨⟨text, written⟩, others⟩ := List.forall_mem_cons.1 each
        obtain ⟨members, writtenOthers⟩ := ih others
        exact ⟨(n.1, text) :: members, .cons ⟨rfl, written⟩ writtenOthers⟩
  obtain ⟨members, written⟩ := members
  exact ⟨_, written_writeObject written⟩

theorem exists_text_optionalMember {value : α → Value} {field : Option α}
    (each : ∀ x, ∃ text, Written text (value x)) :
    ∀ n ∈ optionalMember name value field, ∃ text, Written text n.2 := by
  rintro ⟨other, w⟩ member
  obtain ⟨_, x, _, rfl⟩ := mem_optionalMember.1 member
  exact each x

/-! ## Objects of entries -/

/-- The member writes something that satisfies the entry. -/
def Meets (m : Member) (e : Entry) : Prop :=
  m.1 = e.1 ∧ ∃ w, Written m.2 w ∧ e.2 w

/-- Members that meet the entries write an object of them. -/
theorem exists_isObjectOf {members : List Member} {entries : List Entry}
    (each : List.Forall₂ Meets members entries) :
    ∃ v, Written (Member.writeObject members) v ∧ IsObjectOf entries v := by
  have parts : ∃ parts : List ((String × Value) × Entry),
      List.Forall₂ MemberWritten members (parts.map Prod.fst) ∧ parts.map Prod.snd = entries ∧
      ∀ part ∈ parts, part.1.1 = part.2.1 ∧ part.2.2 part.1.2 := by
    induction each with
    | nil => exact ⟨[], .nil, rfl, List.forall_mem_nil _⟩
    | @cons m e members entries meets _ ih =>
        obtain ⟨sameName, w, written, satisfied⟩ := meets
        obtain ⟨parts, writtenOthers, others, satisfiedOthers⟩ := ih
        exact ⟨((m.1, w), e) :: parts, .cons ⟨rfl, written⟩ writtenOthers, congrArg _ others,
          List.forall_mem_cons.2 ⟨⟨sameName, satisfied⟩, satisfiedOthers⟩⟩
  obtain ⟨parts, written, rfl, satisfied⟩ := parts
  refine ⟨_, written_writeObject written, parts.map fun part => (unnamed part.1, part.2), ?_, ?_, ?_⟩
  · rw [List.map_map, List.map_map]
    rfl
  · rw [List.map_map]
    exact .refl _
  · rw [List.forall_mem_map]
    intro part member
    obtain ⟨sameName, holds⟩ := satisfied part member
    exact ⟨isNamed_unnamed_iff.2 sameName, holds⟩

/-! ## Records by place -/

/-- What stands in the place of an optional field. -/
def slot (value : α → Value) : Option α → Value
  | some x => value x
  | none => .null

theorem tells_slot {items : List Value} {i : Nat} {value : α → Value} {field : Option α}
    (nodup : names.Nodup) (isPlace : names[i]? = some name)
    (isItem : items[i]? = some (slot value field))
    (isValue : ∀ x, field = some x → IsValue x (value x)) :
    Tells names (.array items) name IsValue field := by
  cases field with
  | some x => exact ⟨value x, .item isPlace isItem, isValue x rfl⟩
  | none =>
      intro w holds
      cases holds with
      | @item _ j _ _ isPlaceToo found =>
          obtain ⟨inRange, _⟩ := List.getElem?_eq_some_iff.1 isPlace
          obtain rfl := (List.getElem?_inj inRange nodup).1 (isPlace.trans isPlaceToo.symm)
          rw [isItem] at found
          exact (Option.some.inj found).symm

theorem exists_written_slot {value : α → Value} (each : ∀ x, ∃ text, Written text (value x))
    (field : Option α) : ∃ text, Written text (slot value field) := by
  cases field with
  | some x => exact each x
  | none => exact ⟨_, .null⟩

theorem exists_written_array {items : List Value} (each : ∀ v ∈ items, ∃ text, Written text v) :
    ∃ text, Written text (.array items) := by
  have parts : ∃ parts : List (List Char × Value), parts.map Prod.snd = items ∧
      ∀ part ∈ parts, Written part.1 part.2 := by
    induction items with
    | nil => exact ⟨[], rfl, List.forall_mem_nil _⟩
    | cons v items ih =>
        obtain ⟨⟨text, written⟩, others⟩ := List.forall_mem_cons.1 each
        obtain ⟨parts, rfl, writtenOthers⟩ := ih others
        exact ⟨(text, v) :: parts, rfl, List.forall_mem_cons.2 ⟨written, writtenOthers⟩⟩
  obtain ⟨parts, rfl, written⟩ := parts
  by_cases isEmpty : parts = []
  · subst isEmpty
    exact ⟨_, .emptyArray (List.forall_mem_nil _)⟩
  · exact ⟨_, .array isEmpty written⟩

end Value

end UptimeIntake.Json
