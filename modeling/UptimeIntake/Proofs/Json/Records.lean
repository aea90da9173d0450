import Mathlib.Data.List.Forall2
import UptimeIntake.Json.Record
import UptimeIntake.Proofs.Json.Quoting

/-!
# Records

What it takes to be read as a record of named fields, and what the record then holds. In an object
the order of the members, the spelling of their names and further members make no difference, and
no field may stand there twice; in an array a field is known by its place.
-/

set_option autoImplicit false

namespace UptimeIntake.Json.Value

open UptimeIntake.Text

/-! ## Names -/

/-- Between the quotes of the member's name stands a spelling of this name. -/
def IsNamed (m : Bytes × Value) (name : String) : Prop :=
  ∃ raw, m.1 = Utf8.encode raw ∧ Text.Spells raw name.toList

variable {names : List String} {name : String} {m : Bytes × Value} {v w : Value}
  {members : List (Bytes × Value)} {named : List (String × Value)}

theorem IsNamed.read? (isNamed : IsNamed m name) : Text.read? m.1 = some name := by
  obtain ⟨raw, bytes, spells⟩ := isNamed
  rw [bytes, spells.read?]

theorem IsNamed.of_read? {other : String} (isNamed : IsNamed m other)
    (reads : Text.read? m.1 = some name) : IsNamed m name := by
  rw [isNamed.read?] at reads
  obtain rfl := Option.some.inj reads
  exact isNamed

/-- The members with their names resolved. -/
def Resolves (members : List (Bytes × Value)) (named : List (String × Value)) : Prop :=
  List.Forall₂ (fun m n => Text.read? m.1 = some n.1 ∧ m.2 = n.2) members named

theorem named?_cons (m : Bytes × Value) (members : List (Bytes × Value)) :
    named? (m :: members) =
      (Text.read? m.1).bind fun name => (named? members).map fun named => (name, m.2) :: named := by
  obtain ⟨raw, v⟩ := m
  rw [named?, List.mapM_cons, ← named?]
  dsimp only
  cases Text.read? raw with
  | none => rfl
  | some name => cases named? members <;> rfl

theorem Resolves.of_named? (resolved : named? members = some named) : Resolves members named := by
  induction members generalizing named with
  | nil =>
      cases resolved
      exact .nil
  | cons m members ih =>
      rw [named?_cons, Option.bind_eq_some_iff] at resolved
      obtain ⟨name, reads, rest⟩ := resolved
      obtain ⟨others, resolvesOthers, rfl⟩ := Option.map_eq_some_iff.1 rest
      exact .cons ⟨reads, rfl⟩ (ih resolvesOthers)

private theorem exists_named? (areNamed : ∀ m ∈ members, ∃ name, IsNamed m name) :
    ∃ named, named? members = some named := by
  induction members with
  | nil => exact ⟨[], rfl⟩
  | cons m members ih =>
      obtain ⟨⟨name, isNamed⟩, others⟩ := List.forall_mem_cons.1 areNamed
      obtain ⟨named, resolved⟩ := ih others
      exact ⟨_, by rw [named?_cons, isNamed.read?, resolved]; rfl⟩

theorem Resolves.countP (resolves : Resolves members named) (name : String) :
    named.countP (fun n => decide (n.1 = name)) =
      members.countP fun m => decide (Text.read? m.1 = some name) := by
  induction resolves with
  | nil => rfl
  | cons first _ ih => simp only [List.countP_cons, ih, first.1, Option.some.injEq]

theorem Resolves.mem_iff (resolves : Resolves members named) :
    (name, w) ∈ named ↔ ∃ m ∈ members, Text.read? m.1 = some name ∧ m.2 = w := by
  induction resolves with
  | nil => simp
  | @cons m n members named first _ ih =>
      obtain ⟨reads, sameValue⟩ := first
      rw [List.mem_cons, ih]
      constructor
      · rintro (rfl | ⟨other, member, found⟩)
        · exact ⟨m, List.mem_cons_self, reads, sameValue⟩
        · exact ⟨other, List.mem_cons_of_mem _ member, found⟩
      · rintro ⟨other, member, readsOther, rfl⟩
        cases member with
        | head =>
            rw [reads] at readsOther
            exact .inl (Prod.ext (Option.some.inj readsOther).symm sameValue)
        | tail _ later => exact .inr ⟨other, later, readsOther, rfl⟩

theorem lookup_eq_some_iff (once : named.countP (fun n => decide (n.1 = name)) ≤ 1) :
    named.lookup name = some w ↔ (name, w) ∈ named := by
  induction named with
  | nil => simp
  | cons n named ih =>
      obtain ⟨other, x⟩ := n
      rw [List.countP_cons] at once
      by_cases same : other = name
      · subst same
        have nowhereElse : ∀ y, (other, y) ∉ named := by
          intro y member
          have counted : 0 < named.countP fun n => decide (n.1 = other) :=
            List.countP_pos_iff.2 ⟨(other, y), member, decide_eq_true rfl⟩
          simp only [decide_true, if_true] at once
          omega
        rw [List.lookup_cons_self, List.mem_cons]
        constructor
        · rintro ⟨⟩
          exact .inl rfl
        · rintro (first | later)
          · rw [(Prod.mk.inj first).2]
          · exact absurd later (nowhereElse w)
      · have different : (name == other) = false := beq_false_of_ne (Ne.symm same)
        rw [List.lookup_cons, different, ih (by omega), List.mem_cons]
        constructor
        · exact .inr
        · rintro (first | later)
          · exact absurd (Prod.mk.inj first).1.symm same
          · exact later

/-! ## Repeated fields -/

/-- One of the names stands twice in an object. -/
inductive Repeats (names : List String) : Value → Prop
  | twice {members : List (Bytes × Value)} {first second : Bytes × Value} {name : String} :
      name ∈ names → [first, second].Sublist members → IsNamed first name →
      IsNamed second name → Repeats names (.object members)

private theorem exists_sublist_of_countP {α : Type} {p : α → Bool} {l : List α}
    (several : 1 < l.countP p) :
    ∃ first second, [first, second].Sublist l ∧ p first = true ∧ p second = true := by
  rw [List.countP_eq_length_filter] at several
  have holds : ∀ a ∈ l.filter p, p a = true := fun a member => (List.mem_filter.1 member).2
  have within := List.filter_sublist (p := p) (l := l)
  generalize l.filter p = kept at several holds within
  match kept with
  | [] => cases several
  | [_] => exact absurd several (Nat.lt_irrefl 1)
  | first :: second :: rest =>
      obtain ⟨ofFirst, ofSecond, _⟩ :=
        (List.forall_mem_cons.1 holds).imp_right List.forall_mem_cons.1
      have front : [first, second].Sublist (first :: second :: rest) :=
        ((List.nil_sublist rest).cons_cons second).cons_cons first
      exact ⟨first, second, front.trans within, ofFirst, ofSecond⟩

theorem fields?_of_repeats (repeats : Repeats names v) : fields? names v = none := by
  cases repeats with
  | @twice members first second name isField within isFirst isSecond =>
      rw [fields?]
      cases resolved : named? members with
      | none => rfl
      | some named =>
          have counted := within.countP_le (p := fun m => decide (Text.read? m.1 = some name))
          simp only [List.countP_cons, isFirst.read?, isSecond.read?, decide_true, if_true,
            List.countP_nil] at counted
          rw [← (Resolves.of_named? resolved).countP] at counted
          have notDistinct : distinct names named = false := by
            rw [distinct, List.all_eq_false]
            exact ⟨name, isField, by rw [decide_eq_true_eq]; omega⟩
          rw [Option.bind_some, notDistinct]
          rfl

/-! ## What a record holds -/

/-- The value can be read as a record with these fields: it is an object whose names are strings
and in which no field stands twice, or an array with no more items than there are fields. -/
inductive IsRecord (names : List String) : Value → Prop
  | object {members : List (Bytes × Value)} : (∀ m ∈ members, ∃ name, IsNamed m name) →
      ¬ Repeats names (.object members) → IsRecord names (.object members)
  | array {items : List Value} : items.length ≤ names.length → IsRecord names (.array items)

/-- The record has the value in the field: an object in a member of that name, an array in the
place of the field. -/
inductive Holds (names : List String) : Value → String → Value → Prop
  | member {members : List (Bytes × Value)} {m : Bytes × Value} {name : String} :
      m ∈ members → IsNamed m name → Holds names (.object members) name m.2
  | item {items : List Value} {i : Nat} {name : String} {w : Value} :
      names[i]? = some name → items[i]? = some w → Holds names (.array items) name w

private theorem distinct_of_not_repeats (areNamed : ∀ m ∈ members, ∃ name, IsNamed m name)
    (resolves : Resolves members named) (once : ¬ Repeats names (.object members)) :
    distinct names named = true := by
  refine List.all_eq_true.2 fun name isField => decide_eq_true ?_
  refine Nat.le_of_not_lt fun several => once ?_
  rw [resolves.countP] at several
  obtain ⟨first, second, within, readsFirst, readsSecond⟩ := exists_sublist_of_countP several
  obtain ⟨_, isFirst⟩ := areNamed first (within.subset List.mem_cons_self)
  obtain ⟨_, isSecond⟩ := areNamed second (within.subset (by simp))
  exact .twice isField within (isFirst.of_read? (of_decide_eq_true readsFirst))
    (isSecond.of_read? (of_decide_eq_true readsSecond))

variable {field : String → Option Value}

theorem fields?_object_iff (reads : fields? names (.object members) = some field)
    (isField : name ∈ names) :
    field name = some w ↔ ∃ m ∈ members, Text.read? m.1 = some name ∧ m.2 = w := by
  rw [fields?, Option.bind_eq_some_iff] at reads
  obtain ⟨named, resolved, chosen⟩ := reads
  obtain ⟨areDistinct, found⟩ := Option.ite_none_right_eq_some.1 chosen
  have isOnce := of_decide_eq_true (List.all_eq_true.1 areDistinct name isField)
  rw [← Option.some.inj found, lookup_eq_some_iff isOnce, (Resolves.of_named? resolved).mem_iff]

theorem fields?_array_iff {items : List Value} (nodup : names.Nodup)
    (reads : fields? names (.array items) = some field) (isField : name ∈ names) :
    field name = some w ↔ ∃ i : Nat, names[i]? = some name ∧ items[i]? = some w := by
  rw [fields?, Option.ite_none_right_eq_some] at reads
  rw [← Option.some.inj reads.2]
  constructor
  · intro found
    have isPlace : names[names.idxOf name]? = some name := by
      rw [List.getElem?_eq_getElem (List.idxOf_lt_length_of_mem isField), List.getElem_idxOf]
    exact ⟨_, isPlace, found⟩
  · rintro ⟨i, isPlace, found⟩
    obtain ⟨inRange, rfl⟩ := List.getElem?_eq_some_iff.1 isPlace
    change items[names.idxOf names[i]]? = some w
    rwa [nodup.idxOf_getElem i inRange]

/-- Whatever stands in a field is read there. -/
theorem Holds.read (holds : Holds names v name w) (nodup : names.Nodup) (isField : name ∈ names)
    (reads : fields? names v = some field) : field name = some w := by
  cases holds with
  | member member isNamed =>
      exact (fields?_object_iff reads isField).2 ⟨_, member, isNamed.read?, rfl⟩
  | item isPlace found => exact (fields?_array_iff nodup reads isField).2 ⟨_, isPlace, found⟩

theorem IsRecord.exists_fields? (isRecord : IsRecord names v) :
    ∃ field, fields? names v = some field := by
  cases isRecord with
  | @object members areNamed once =>
      obtain ⟨named, resolved⟩ := exists_named? areNamed
      have areDistinct := distinct_of_not_repeats areNamed (Resolves.of_named? resolved) once
      exact ⟨_, by rw [fields?, resolved, Option.bind_some, if_pos areDistinct]⟩
  | array short => exact ⟨_, if_pos short⟩

theorem IsRecord.holds (isRecord : IsRecord names v) (nodup : names.Nodup)
    (isField : name ∈ names) (reads : fields? names v = some field) (found : field name = some w) :
    Holds names v name w := by
  cases isRecord with
  | object areNamed _ =>
      obtain ⟨m, member, isRead, rfl⟩ := (fields?_object_iff reads isField).1 found
      obtain ⟨_, isNamed⟩ := areNamed m member
      exact .member member (isNamed.of_read? isRead)
  | array _ =>
      obtain ⟨i, isPlace, isItem⟩ := (fields?_array_iff nodup reads isField).1 found
      exact .item isPlace isItem

/-! ## Optional fields -/

/-- The record tells of an optional field what it is: a value that is set stands there, and nothing
but null stands in a field that is unset. -/
def Tells {α : Type} (names : List String) (v : Value) (name : String) (IsValue : α → Value → Prop) :
    Option α → Prop
  | some x => ∃ w, Holds names v name w ∧ IsValue x w
  | none => ∀ w, Holds names v name w → w = .null

theorem Tells.optional {α : Type} {IsValue : α → Value → Prop} {read? : Value → Option α}
    {x : Option α} (tells : Tells names v name IsValue x) (isRecord : IsRecord names v)
    (nodup : names.Nodup) (isField : name ∈ names) (reads : fields? names v = some field)
    (refusesNull : read? .null = none) (readsValue : ∀ x w, IsValue x w → read? w = some x) :
    optional read? (field name) = some x := by
  cases x with
  | some x =>
      obtain ⟨w, holds, isValue⟩ := tells
      have isRead := readsValue x w isValue
      rw [holds.read nodup isField reads]
      cases w with
      | null =>
          rw [refusesNull] at isRead
          cases isRead
      | _ => simp [Value.optional, isRead]
  | none =>
      cases found : field name with
      | none => rfl
      | some w =>
          rw [tells w (isRecord.holds nodup isField reads found)]
          rfl

/-! ## Objects member by member -/

/-- What a member of an object must be: its name, and what its value is to satisfy. -/
abbrev Entry := String × (Value → Prop)

/-- The value is an object with one member for each entry, in any order and with the names spelled
in any way. -/
def IsObjectOf (entries : List Entry) (v : Value) : Prop :=
  ∃ parts : List ((Bytes × Value) × Entry), v = .object (parts.map Prod.fst) ∧
    (parts.map Prod.snd).Perm entries ∧
    ∀ part ∈ parts, IsNamed part.1 part.2.1 ∧ part.2.2 part.1.2

variable {entries : List Entry}

theorem IsObjectOf.perm {others : List Entry} (isObject : IsObjectOf entries v)
    (same : entries.Perm others) : IsObjectOf others v := by
  obtain ⟨parts, shape, order, each⟩ := isObject
  exact ⟨parts, shape, order.trans same, each⟩

theorem IsObjectOf.isRecord (isObject : IsObjectOf entries v)
    (nodup : (entries.map Prod.fst).Nodup) : IsRecord names v := by
  obtain ⟨parts, rfl, order, each⟩ := isObject
  refine .object ?_ ?_
  · rw [List.forall_mem_map]
    exact fun part member => ⟨part.2.1, (each part member).1⟩
  · intro repeats
    cases repeats with
    | @twice _ _ _ name _ within isFirst isSecond =>
        obtain ⟨kept, areParts, shape⟩ := List.sublist_map_iff.1 within
        obtain ⟨p, behind, rfl, rfl, more⟩ := List.map_eq_cons_iff.1 shape.symm
        obtain ⟨q, _, rfl, rfl, _⟩ := List.map_eq_cons_iff.1 more
        have named {part : (Bytes × Value) × Entry} (member : part ∈ parts)
            (isNamed : IsNamed part.1 name) : part.2.1 = name := by
          have reads := (each part member).1.read?
          rw [isNamed.read?] at reads
          exact (Option.some.inj reads).symm
        have sameName := (named (areParts.subset (by simp)) isFirst).trans
          (named (areParts.subset (by simp)) isSecond).symm
        have differ : ((parts.map Prod.snd).map Prod.fst).Nodup :=
          (order.map Prod.fst).nodup_iff.2 nodup
        have differHere := ((areParts.map Prod.snd).map Prod.fst).nodup differ
        simp [sameName] at differHere

private theorem IsObjectOf.exists_holds (isObject : IsObjectOf entries v) {P : Value → Prop}
    (isEntry : (name, P) ∈ entries) : ∃ w, Holds names v name w ∧ P w := by
  obtain ⟨parts, rfl, order, each⟩ := isObject
  obtain ⟨⟨m, e⟩, member, rfl⟩ := List.mem_map.1 (order.mem_iff.2 isEntry)
  obtain ⟨isNamed, holds⟩ := each _ member
  exact ⟨m.2, .member (List.mem_map.2 ⟨_, member, rfl⟩) isNamed, holds⟩

private theorem IsObjectOf.exists_entry (isObject : IsObjectOf entries v)
    (holds : Holds names v name w) :
    ∃ P, (name, P) ∈ entries := by
  obtain ⟨parts, rfl, order, each⟩ := isObject
  cases holds with
  | member member isNamed =>
      obtain ⟨⟨m, other, P⟩, isPart, rfl⟩ := List.mem_map.1 member
      have reads := (each _ isPart).1.read?
      rw [isNamed.read?] at reads
      obtain rfl := Option.some.inj reads
      exact ⟨P, order.mem_iff.1 (List.mem_map.2 ⟨_, isPart, rfl⟩)⟩

/-- An object that is read as a record has in each field what the entry of that name says, and
nothing where there is no entry. -/
theorem IsObjectOf.fields (isObject : IsObjectOf entries v) (nodup : names.Nodup)
    (once : (entries.map Prod.fst).Nodup) :
    ∃ field, fields? names v = some field ∧
      (∀ name ∈ names, ∀ P, (name, P) ∈ entries → ∃ w, field name = some w ∧ P w) ∧
      ∀ name ∈ names, name ∉ entries.map Prod.fst → field name = none := by
  have isRecord : IsRecord names v := isObject.isRecord once
  obtain ⟨field, reads⟩ := isRecord.exists_fields?
  refine ⟨field, reads, ?_, ?_⟩
  · intro name isField P isEntry
    have stands : ∃ w, Holds names v name w ∧ P w := isObject.exists_holds isEntry
    obtain ⟨w, holds, satisfied⟩ := stands
    exact ⟨w, holds.read nodup isField reads, satisfied⟩
  · intro name isField noEntry
    cases found : field name with
    | none => rfl
    | some w =>
        obtain ⟨P, isEntry⟩ := isObject.exists_entry (isRecord.holds nodup isField reads found)
        exact absurd (List.mem_map.2 ⟨_, isEntry, rfl⟩) noEntry

end UptimeIntake.Json.Value
