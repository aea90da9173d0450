import UptimeIntake.Octets

/-!
# The attempt table

How many submissions of each submitter were let through in a trailing window of time. Moments
are counted in nanoseconds of a monotonic clock; a moment before an earlier reading counts as no
time passed. A submitter has a queue of the moments let through, oldest first, which is pruned
when it is used.
-/

set_option autoImplicit false

namespace UptimeIntake

/-- A reading of the monotonic clock, in nanoseconds. -/
abbrev Moment := Nat

structure Quota where
  /-- Attempts let through in a window. -/
  maxAttempts : Nat
  /-- The length of the window in nanoseconds. -/
  window : Nat
  deriving DecidableEq, Repr

/-- The queues of the submitters, at most one for each. -/
structure AttemptTable where
  /-- The submitters with their queues. -/
  records : List (SubmitterKey × List Moment)
  /-- No submitter has two queues. -/
  nodup : (records.map (·.1)).Nodup
  deriving DecidableEq

namespace AttemptTable

def empty : AttemptTable := ⟨[], List.nodup_nil⟩

/-- The moment is out of the window at `now`. -/
def isExpired (window : Nat) (now t : Moment) : Bool :=
  window ≤ now - t

/-- Drops expired moments from the front, up to the first that is not expired. -/
def prune (window : Nat) (now : Moment) (queue : List Moment) : List Moment :=
  queue.dropWhile (isExpired window now)

/-- The queue of a submitter, empty if there is none. -/
def queue (table : AttemptTable) (key : SubmitterKey) : List Moment :=
  (table.records.lookup key).getD []

/-- Replaces the queue of a submitter, or adds it. -/
def setIn (key : SubmitterKey) (queue : List Moment) :
    List (SubmitterKey × List Moment) → List (SubmitterKey × List Moment)
  | [] => [(key, queue)]
  | (other, otherQueue) :: rest =>
    if other = key then (key, queue) :: rest else (other, otherQueue) :: setIn key queue rest

theorem map_fst_setIn (key : SubmitterKey) (queue : List Moment)
    (records : List (SubmitterKey × List Moment)) :
    (setIn key queue records).map (·.1) =
      if key ∈ records.map (·.1) then records.map (·.1) else records.map (·.1) ++ [key] := by
  induction records with
  | nil => simp [setIn]
  | cons record rest ih =>
      obtain ⟨other, otherQueue⟩ := record
      by_cases same : other = key
      · simp [setIn, same]
      · have later : key ∈ other :: rest.map (·.1) ↔ key ∈ rest.map (·.1) := by
          simp [Ne.symm same]
        simp only [setIn, if_neg same, List.map_cons, ih, later]
        split <;> rfl

theorem nodup_setIn {key : SubmitterKey} {queue : List Moment}
    {records : List (SubmitterKey × List Moment)} (nodup : (records.map (·.1)).Nodup) :
    ((setIn key queue records).map (·.1)).Nodup := by
  rw [map_fst_setIn]
  split
  · exact nodup
  · next fresh =>
      rw [List.nodup_append]
      refine ⟨nodup, by simp, ?_⟩
      intro other member added isAdded same
      rw [List.mem_singleton] at isAdded
      exact fresh (isAdded ▸ same ▸ member)

/-- Replaces the queue of a submitter, or adds it. -/
def set (table : AttemptTable) (key : SubmitterKey) (queue : List Moment) : AttemptTable :=
  ⟨setIn key queue table.records, nodup_setIn table.nodup⟩

/-- Asks to let an attempt through. It is let through, and recorded, if the pruned queue of the
submitter is shorter than the quota; a refused attempt still leaves the pruned queue behind. -/
def record (quota : Quota) (key : SubmitterKey) (now : Moment) (table : AttemptTable) :
    Bool × AttemptTable :=
  let queue := prune quota.window now (table.queue key)
  if queue.length < quota.maxAttempts then (true, table.set key (queue ++ [now]))
  else (false, table.set key queue)

/-- The number of moments held for a submitter, pruned or not. -/
def recorded (table : AttemptTable) (key : SubmitterKey) : Nat :=
  (table.queue key).length

/-- The records with their queues pruned, without those whose queue is then empty. -/
def pruneAll (window : Nat) (now : Moment) (records : List (SubmitterKey × List Moment)) :
    List (SubmitterKey × List Moment) :=
  (records.map fun record => (record.1, prune window now record.2)).filter fun record =>
    !record.2.isEmpty

theorem nodup_pruneAll {window : Nat} {now : Moment}
    {records : List (SubmitterKey × List Moment)} (nodup : (records.map (·.1)).Nodup) :
    ((pruneAll window now records).map (·.1)).Nodup := by
  have sublist := (List.filter_sublist (p := fun record => !record.2.isEmpty)
    (l := records.map fun record => (record.1, prune window now record.2))).map (·.1)
  rw [List.map_map] at sublist
  exact List.Pairwise.sublist sublist nodup

/-- Prunes every queue and drops the empty ones. -/
def cleanup (window : Nat) (now : Moment) (table : AttemptTable) : AttemptTable :=
  ⟨pruneAll window now table.records, nodup_pruneAll table.nodup⟩

def tracked (table : AttemptTable) : Nat :=
  table.records.length

/-! ## Pruning -/

theorem isExpired_mono {window : Nat} {earlier later t : Moment} (ordered : earlier ≤ later)
    (expired : isExpired window earlier t = true) : isExpired window later t = true := by
  simp only [isExpired, decide_eq_true_eq] at expired ⊢
  exact Nat.le_trans expired (Nat.sub_le_sub_right ordered t)

/-- What was expired stays expired, so a later pruning forgets an earlier one. The queue need not
be sorted. -/
theorem prune_prune {window : Nat} {earlier later : Moment} (ordered : earlier ≤ later)
    (queue : List Moment) :
    prune window later (prune window earlier queue) = prune window later queue := by
  induction queue with
  | nil => rfl
  | cons t rest ih =>
      by_cases expired : isExpired window earlier t = true
      · have stays := isExpired_mono ordered expired
        simpa [prune, expired, stays] using ih
      · simp [prune, expired]

/-! ## Queues after a call -/

@[simp] theorem queue_empty (key : SubmitterKey) : empty.queue key = [] := rfl

theorem lookup_cons_eq (first other : SubmitterKey) (queue : List Moment)
    (rest : List (SubmitterKey × List Moment)) :
    ((first, queue) :: rest).lookup other =
      if other = first then some queue else rest.lookup other := by
  by_cases same : other = first
  · simp [same]
  · simp [List.lookup_cons, same, beq_false_of_ne same]

theorem lookup_setIn (key other : SubmitterKey) (queue : List Moment)
    (records : List (SubmitterKey × List Moment)) :
    (setIn key queue records).lookup other =
      if other = key then some queue else records.lookup other := by
  induction records with
  | nil => exact lookup_cons_eq key other queue []
  | cons record rest ih =>
      obtain ⟨first, firstQueue⟩ := record
      by_cases isFirst : first = key
      · subst isFirst
        simp only [setIn, reduceIte, lookup_cons_eq]
        split <;> rfl
      · simp only [setIn, if_neg isFirst, lookup_cons_eq, ih]
        by_cases same : other = first
        · simp [same, isFirst]
        · simp [same]

theorem queue_set (table : AttemptTable) (key other : SubmitterKey) (queue : List Moment) :
    (table.set key queue).queue other = if other = key then queue else table.queue other := by
  simp only [AttemptTable.queue, set, lookup_setIn]
  split <;> rfl

theorem lookup_eq_none {key : SubmitterKey} {records : List (SubmitterKey × List Moment)}
    (absent : key ∉ records.map (·.1)) : records.lookup key = none := by
  rw [List.lookup_eq_none_iff]
  intro record member
  rw [bne_iff_ne]
  rintro rfl
  exact absent (List.mem_map_of_mem member)

/-- Dropping empty queues is seen by nobody: a missing queue is an empty one. That no submitter
has two queues matters here, for a second one would show where the first was dropped. -/
theorem getD_lookup_pruneAll {window : Nat} {now : Moment} {key : SubmitterKey}
    {records : List (SubmitterKey × List Moment)} (nodup : (records.map (·.1)).Nodup) :
    ((pruneAll window now records).lookup key).getD [] =
      prune window now ((records.lookup key).getD []) := by
  induction records with
  | nil => rfl
  | cons record rest ih =>
      obtain ⟨first, queue⟩ := record
      obtain ⟨fresh, nodup⟩ := List.nodup_cons.1 nodup
      have fresh : first ∉ (pruneAll window now rest).map (·.1) := by
        intro member
        simp only [pruneAll, List.mem_map, List.mem_filter] at member
        obtain ⟨_, ⟨⟨kept, isKept, rfl⟩, _⟩, rfl⟩ := member
        exact fresh (List.mem_map.2 ⟨kept, isKept, rfl⟩)
      have ih := ih nodup
      by_cases dropped : (prune window now queue).isEmpty
      · have shape : pruneAll window now ((first, queue) :: rest) = pruneAll window now rest := by
          simp [pruneAll, dropped]
        rw [shape, lookup_cons_eq]
        split
        · next same =>
            subst same
            simp [lookup_eq_none fresh, List.isEmpty_iff.1 dropped]
        · exact ih
      · have shape : pruneAll window now ((first, queue) :: rest) =
            (first, prune window now queue) :: pruneAll window now rest := by
          simp [pruneAll, dropped]
        rw [shape, lookup_cons_eq, lookup_cons_eq]
        split
        · rfl
        · exact ih

theorem queue_cleanup (window : Nat) (now : Moment) (table : AttemptTable) (key : SubmitterKey) :
    (table.cleanup window now).queue key = prune window now (table.queue key) :=
  getD_lookup_pruneAll table.nodup

/-- Whether an attempt is let through hangs on the pruned queue of its submitter alone. -/
theorem record_fst (quota : Quota) (key : SubmitterKey) (now : Moment) (table : AttemptTable) :
    (table.record quota key now).1 =
      decide ((prune quota.window now (table.queue key)).length < quota.maxAttempts) := by
  simp only [record]
  split <;> simp [*]

theorem queue_record (quota : Quota) (key other : SubmitterKey) (now : Moment)
    (table : AttemptTable) :
    (table.record quota key now).2.queue other =
      if other = key then
        prune quota.window now (table.queue key) ++
          if (table.record quota key now).1 then [now] else []
      else table.queue other := by
  simp only [record]
  split <;> simp [queue_set]

end AttemptTable

end UptimeIntake
