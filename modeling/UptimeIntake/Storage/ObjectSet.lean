import UptimeIntake.Text.Blank

/-!
# Object sets

Objects by path, at most one for each path, in the order of the paths. Strings are ordered by
code points, which is the order of their UTF-8 bytes; so `blocks/` comes before `submissions/`.
-/

set_option autoImplicit false

namespace UptimeIntake

/-- Puts an object in its place; an object with the same path is replaced. -/
def insertSorted (path : String) (bytes : Bytes) : List (String × Bytes) → List (String × Bytes)
  | [] => [(path, bytes)]
  | (other, otherBytes) :: rest =>
    if path < other then (path, bytes) :: (other, otherBytes) :: rest
    else if path = other then (path, bytes) :: rest
    else (other, otherBytes) :: insertSorted path bytes rest

/-- The paths of a list of objects are strictly increasing. -/
abbrev SortedByPath (objects : List (String × Bytes)) : Prop :=
  objects.Pairwise fun a b => a.1 < b.1

theorem fst_of_mem_insertSorted {path : String} {bytes : Bytes} {object : String × Bytes} :
    ∀ {objects : List (String × Bytes)}, object ∈ insertSorted path bytes objects →
      object.1 = path ∨ object ∈ objects
  | [], h => by
    simp only [insertSorted, List.mem_singleton] at h
    exact .inl (by rw [h])
  | (other, otherBytes) :: rest, h => by
    unfold insertSorted at h
    split at h
    · rcases List.mem_cons.1 h with rfl | h
      · exact .inl rfl
      · exact .inr h
    · split at h
      · rcases List.mem_cons.1 h with rfl | h
        · exact .inl rfl
        · exact .inr (List.mem_cons_of_mem _ h)
      · rcases List.mem_cons.1 h with rfl | h
        · exact .inr List.mem_cons_self
        · exact (fst_of_mem_insertSorted h).imp_right (List.mem_cons_of_mem _)

theorem sortedByPath_insertSorted {path : String} {bytes : Bytes} :
    ∀ {objects : List (String × Bytes)}, SortedByPath objects →
      SortedByPath (insertSorted path bytes objects)
  | [], _ => by simp [insertSorted]
  | (other, otherBytes) :: rest, h => by
    obtain ⟨least, sorted⟩ := List.pairwise_cons.1 h
    unfold insertSorted
    split
    · next earlier =>
      refine List.pairwise_cons.2 ⟨fun object member => ?_, h⟩
      rcases List.mem_cons.1 member with rfl | member
      · exact earlier
      · exact String.lt_trans earlier (least object member)
    · next notEarlier =>
      split
      · next same =>
        subst same
        exact List.pairwise_cons.2 ⟨least, sorted⟩
      · next different =>
        have later : other < path := by
          apply Decidable.byContradiction
          intro notLater
          exact different
            (String.le_antisymm (String.not_lt.1 notLater) (String.not_lt.1 notEarlier))
        refine List.pairwise_cons.2 ⟨fun object member => ?_, sortedByPath_insertSorted sorted⟩
        rcases fst_of_mem_insertSorted member with samePath | member
        · rw [samePath]
          exact later
        · exact least object member

theorem lookup_cons_object (path other : String) (bytes : Bytes) (rest : List (String × Bytes)) :
    ((path, bytes) :: rest).lookup other =
      if other = path then some bytes else rest.lookup other := by
  by_cases same : other = path
  · simp [same]
  · simp [List.lookup_cons, same, beq_false_of_ne same]

theorem lookup_insertSorted (path other : String) (bytes : Bytes)
    (objects : List (String × Bytes)) :
    (insertSorted path bytes objects).lookup other =
      if other = path then some bytes else objects.lookup other := by
  induction objects with
  | nil => exact lookup_cons_object path other bytes []
  | cons object rest ih =>
      obtain ⟨first, firstBytes⟩ := object
      simp only [insertSorted]
      split
      · exact lookup_cons_object path other bytes _
      · split
        · next isFirst =>
            subst isFirst
            simp only [lookup_cons_object]
            split <;> rfl
        · next notFirst =>
            simp only [lookup_cons_object, ih]
            by_cases isFirst : other = first
            · simp [isFirst, Ne.symm notFirst]
            · simp [isFirst]

structure ObjectSet where
  objects : List (String × Bytes)
  sorted : SortedByPath objects

namespace ObjectSet

def empty : ObjectSet := ⟨[], List.Pairwise.nil⟩

/-- Adds an object; an object with the same path is replaced. -/
def insert (path : String) (bytes : Bytes) (s : ObjectSet) : ObjectSet :=
  ⟨insertSorted path bytes s.objects, sortedByPath_insertSorted s.sorted⟩

/-- The set of the objects of a list; of several with one path the last counts. -/
def ofList (objects : List (String × Bytes)) : ObjectSet :=
  objects.foldl (fun s object => s.insert object.1 object.2) empty

def get? (s : ObjectSet) (path : String) : Option Bytes :=
  s.objects.lookup path

theorem get?_insert (path other : String) (bytes : Bytes) (s : ObjectSet) :
    (s.insert path bytes).get? other = if other = path then some bytes else s.get? other :=
  lookup_insertSorted path other bytes s.objects

def paths (s : ObjectSet) : List String :=
  s.objects.map (·.1)

def size (s : ObjectSet) : Nat :=
  s.objects.length

end ObjectSet

end UptimeIntake
