import UptimeIntake.Proofs.Attempts.OutOfOrder
import UptimeIntake.Proofs.Attempts.TrailingWindow

/-!
# What the table holds

With a quota and a window that are not zero, and a clock that does not go back, a submitter is in the
table only for the sake of moments in its queue, and these lie less than a window apart. A cleanup
leaves exactly what still counts: no submitter without a live moment, and every live moment of the
others.
-/

set_option autoImplicit false

namespace UptimeIntake

open AttemptStep

namespace AttemptTable

/-- The submitters with a record. -/
def keys (table : AttemptTable) : List SubmitterKey :=
  table.records.map (·.1)

/-- A queue as a table with this quota holds it: its moments stand in order, lie less than a window
apart, and are no more than the quota and no fewer than one. -/
structure IsLive (quota : Quota) (queue : List Moment) : Prop where
  nonempty : queue ≠ []
  oldestFirst : queue.Pairwise (· ≤ ·)
  within : queue.length ≤ quota.maxAttempts
  close : ∀ s ∈ queue, ∀ t ∈ queue, t < s + quota.window

/-- The moments less than a window back, in order. -/
def live (window : Nat) (now : Moment) (moments : List Moment) : List Moment :=
  moments.filter fun t => now - t < window

/-! ## Records and queues -/

private theorem lookup_eq_some_of_mem {key : SubmitterKey} {queue : List Moment}
    {records : List (SubmitterKey × List Moment)} (nodup : (records.map (·.1)).Nodup)
    (member : (key, queue) ∈ records) : records.lookup key = some queue := by
  induction records with
  | nil => cases member
  | cons record rest ih =>
      obtain ⟨first, firstQueue⟩ := record
      obtain ⟨fresh, nodup⟩ := List.nodup_cons.1 nodup
      rw [lookup_cons_eq]
      rcases List.mem_cons.1 member with isFirst | later
      · obtain ⟨rfl, rfl⟩ := Prod.mk.inj isFirst
        rw [if_pos rfl]
      · have different : key ≠ first := by
          rintro rfl
          exact fresh (List.mem_map.2 ⟨_, later, rfl⟩)
        rw [if_neg different, ih nodup later]

theorem queue_of_mem {table : AttemptTable} {key : SubmitterKey} {queue : List Moment}
    (member : (key, queue) ∈ table.records) : table.queue key = queue := by
  rw [AttemptTable.queue, lookup_eq_some_of_mem table.nodup member]
  rfl

private theorem mem_keys_of_queue_ne_nil {table : AttemptTable} {key : SubmitterKey}
    (held : table.queue key ≠ []) : key ∈ table.keys := by
  apply Decidable.byContradiction
  intro absent
  rw [AttemptTable.queue, lookup_eq_none absent] at held
  exact held rfl

/-! ## No record is empty -/

/-- No submitter is in the table with an empty queue. -/
def NoneIdle (table : AttemptTable) : Prop :=
  ∀ key ∈ table.keys, table.queue key ≠ []

theorem NoneIdle.mem_keys_iff {table : AttemptTable} {key : SubmitterKey}
    (noneIdle : table.NoneIdle) : key ∈ table.keys ↔ table.queue key ≠ [] :=
  ⟨noneIdle key, mem_keys_of_queue_ne_nil⟩

/-- An attempt never leaves its submitter without a moment: it is recorded itself, or the queue was
full. -/
theorem queue_record_self_ne_nil {quota : Quota} (allows : 1 ≤ quota.maxAttempts)
    (key : SubmitterKey) (now : Moment) (table : AttemptTable) :
    (table.record quota key now).2.queue key ≠ [] := by
  rw [queue_record, if_pos rfl]
  cases verdict : (table.record quota key now).1 with
  | true => simp
  | false =>
      rw [record_fst, decide_eq_false_iff_not, Nat.not_lt] at verdict
      have full : 0 < (prune quota.window now (table.queue key)).length :=
        Nat.lt_of_lt_of_le allows verdict
      simpa using List.ne_nil_of_length_pos full

private theorem keys_record (quota : Quota) (key : SubmitterKey) (now : Moment)
    (table : AttemptTable) :
    (table.record quota key now).2.keys =
      if key ∈ table.keys then table.keys else table.keys ++ [key] := by
  rw [record]
  split
  · exact map_fst_setIn _ _ _
  · exact map_fst_setIn _ _ _

theorem NoneIdle.make {quota : Quota} {table : AttemptTable} (allows : 1 ≤ quota.maxAttempts)
    (noneIdle : table.NoneIdle) (call : AttemptCall) : (table.make quota call).2.NoneIdle := by
  cases call with
  | attempt key now =>
      intro other tracked
      change (table.record quota key now).2.queue other ≠ []
      by_cases same : other = key
      · subst same
        exact queue_record_self_ne_nil allows other now table
      · have before : other ∈ table.keys := by
          have tracked : other ∈ (table.record quota key now).2.keys := tracked
          rw [keys_record] at tracked
          split at tracked
          · exact tracked
          · simpa [same] using tracked
        rw [queue_record, if_neg same]
        exact noneIdle other before
  | cleanup now =>
      intro key tracked
      obtain ⟨⟨_, queue⟩, member, rfl⟩ := List.mem_map.1 tracked
      rw [queue_of_mem member]
      simpa using (List.mem_filter.1 member).2

private theorem noneIdle_run {quota : Quota} (allows : 1 ≤ quota.maxAttempts)
    (calls : List AttemptCall)
    {table : AttemptTable} (noneIdle : table.NoneIdle) : (run quota calls table).2.NoneIdle := by
  induction calls generalizing table with
  | nil => exact noneIdle
  | cons call calls ih => exact ih (noneIdle.make allows call)

private theorem noneIdle_empty : empty.NoneIdle := fun _ member => nomatch member

/-! ## No queue is longer than a window -/

/-- The moments stand in order, the first less than a window before the last. -/
def SpansLess (window : Nat) (queue : List Moment) : Prop :=
  queue.Pairwise fun s t => s ≤ t ∧ t < s + window

theorem SpansLess.close {window : Nat} {queue : List Moment} (opens : 0 < window)
    (spans : SpansLess window queue) : ∀ s ∈ queue, ∀ t ∈ queue, t < s + window := by
  induction queue with
  | nil => exact fun _ member => nomatch member
  | cons first rest ih =>
      obtain ⟨behind, spans⟩ := List.pairwise_cons.1 spans
      intro s isIn t isIn'
      unfold Moment at *
      rcases List.mem_cons.1 isIn with rfl | later <;> rcases List.mem_cons.1 isIn' with rfl | later'
      · omega
      · exact (behind t later').2
      · have ordered := (behind s later).1
        omega
      · exact ih spans s later t later'

namespace Tracks

variable {window now : Nat} {granted queue : List Nat}

/-- What a call leaves in a queue that it prunes lies in the window that ends with the call. -/
theorem mem_prune (tracks : Tracks window now granted queue) {t : Nat}
    (member : t ∈ AttemptTable.prune window now queue) : t ≤ now ∧ now < t + window := by
  rw [tracks.prune_eq_filter, List.mem_filter] at member
  obtain ⟨isGranted, notExpired⟩ := member
  have le_now := tracks.le_last t isGranted
  simp only [isExpired, Bool.not_eq_true', decide_eq_false_iff_not, Nat.not_le] at notExpired
  exact ⟨le_now, (Nat.sub_lt_iff_lt_add' le_now).1 notExpired⟩

theorem spansLess_prune (tracks : Tracks window now granted queue) :
    SpansLess window (AttemptTable.prune window now queue) := by
  obtain ⟨expired, split, _⟩ := tracks.prune.suffix
  have sorted := tracks.sorted
  rw [split, List.pairwise_append] at sorted
  refine sorted.2.1.imp_of_mem fun {s t} isIn isIn' ordered => ⟨ordered, ?_⟩
  exact Nat.lt_of_le_of_lt (tracks.mem_prune isIn').1 (tracks.mem_prune isIn).2

private theorem spansLess_push (tracks : Tracks window now granted queue) :
    SpansLess window (AttemptTable.prune window now queue ++ [now]) := by
  refine List.pairwise_append.2 ⟨tracks.spansLess_prune, List.pairwise_singleton _ _, ?_⟩
  intro s isIn t isNow
  rw [List.mem_singleton.1 isNow]
  exact tracks.mem_prune isIn

end Tracks

private theorem spansLess_make {quota : Quota} {key : SubmitterKey} {call : AttemptCall}
    {table : AttemptTable} {past : List Moment}
    (tracks : Tracks quota.window call.moment past (table.queue key))
    (spans : SpansLess quota.window (table.queue key)) :
    SpansLess quota.window ((table.make quota call).2.queue key) := by
  rw [queue_make]
  split
  · cases passed : (table.make quota call).1.granted? key with
    | none =>
        rw [Option.toList_none, List.append_nil]
        exact tracks.spansLess_prune
    | some t =>
        have atNow : t = call.moment := by
          rw [eq_moment_of_granted? passed, call_make]
        rw [atNow]
        exact tracks.spansLess_push
  · exact spans

private theorem spansLess_run {quota : Quota} {calls : List AttemptCall}
    (chronological : (calls.map AttemptCall.moment).Pairwise (· ≤ ·)) (key : SubmitterKey) :
    SpansLess quota.window ((run quota calls .empty).2.queue key) := by
  induction calls using List.reverseRecOn with
  | nil => exact List.Pairwise.nil
  | append_singleton calls call ih =>
      rw [List.map_append, List.pairwise_append] at chronological
      have le_call : ∀ earlier ∈ calls, earlier.moment ≤ call.moment := fun earlier member =>
        chronological.2.2 _ (List.mem_map_of_mem member) _ (by simp)
      rw [run_append, run_cons, run_nil]
      exact spansLess_make (tracks_run chronological.1 le_call key) (ih chronological.1)

/-! ## After a cleanup -/

private theorem queue_run_cleanup (quota : Quota) {before : List AttemptCall} {now : Moment}
    (chronological : ((before ++ [AttemptCall.cleanup now]).map AttemptCall.moment).Pairwise (· ≤ ·))
    (key : SubmitterKey) :
    (run quota (before ++ [.cleanup now]) .empty).2.queue key =
      live quota.window now (granted key (run quota (before ++ [.cleanup now]) .empty).1) := by
  rw [List.map_append, List.pairwise_append] at chronological
  have le_now : ∀ earlier ∈ before, earlier.moment ≤ now := fun earlier member =>
    chronological.2.2 _ (List.mem_map_of_mem member) now (List.mem_singleton.2 rfl)
  have tracks : Tracks quota.window now _ ((run quota before .empty).2.queue key) :=
    tracks_run chronological.1 le_now key
  have nothing : granted key [AttemptStep.cleanup now] = [] := rfl
  rw [run_append, run_cons, run_nil, granted_append]
  change ((run quota before .empty).2.cleanup quota.window now).queue key =
    live quota.window now (granted key (run quota before .empty).1 ++ granted key [AttemptStep.cleanup now])
  rw [queue_cleanup, tracks.prune_eq_filter, nothing, List.append_nil, live]
  refine List.filter_congr fun t _ => ?_
  rw [isExpired, ← decide_not, decide_eq_decide, Nat.not_le]

theorem live_ne_nil_iff {window : Nat} {now : Moment} {moments : List Moment} :
    live window now moments ≠ [] ↔ ∃ t ∈ moments, now - t < window := by
  simp [live, List.filter_eq_nil_iff]

/-- In every state that a forward clock can reach, every queue in the table is in order, not empty,
no longer than the quota and spans less than a window. Right after a cleanup the submitters in the
table are exactly those with a moment that was let through less than a window ago, each with all such
moments and no others, and their number is the size of the table. -/
theorem records_are_live (quota : Quota) (calls : List AttemptCall)
    (allows : 1 ≤ quota.maxAttempts) (opens : 0 < quota.window)
    (chronological : (calls.map AttemptCall.moment).Pairwise (· ≤ ·)) :
    let steps := (run quota calls .empty).1
    let table := (run quota calls .empty).2
    (∀ key queue, (key, queue) ∈ table.records → IsLive quota queue) ∧
    ∀ before now, calls = before ++ [AttemptCall.cleanup now] →
      (∀ key, key ∈ table.keys ↔ ∃ t ∈ granted key steps, now - t < quota.window) ∧
      (∀ key, table.queue key = live quota.window now (granted key steps)) ∧
      ∀ keys : List SubmitterKey, keys.Nodup →
        (∀ key, key ∈ keys ↔ ∃ t ∈ granted key steps, now - t < quota.window) →
        table.tracked = keys.length := by
  have noneIdle := noneIdle_run allows calls noneIdle_empty
  intro steps table
  refine ⟨fun key queue member => ?_, ?_⟩
  · have held := queue_of_mem member
    have spans : SpansLess quota.window (table.queue key) := spansLess_run chronological key
    have within := length_queue_le quota key calls
    rw [held] at spans within
    refine ⟨?_, spans.imp And.left, within, spans.close opens⟩
    rw [← held]
    exact noneIdle key (List.mem_map_of_mem member)
  · rintro before now rfl
    have held (key : SubmitterKey) :
        table.queue key = live quota.window now (granted key steps) :=
      queue_run_cleanup quota chronological key
    have tracked (key : SubmitterKey) :
        key ∈ table.keys ↔ ∃ t ∈ granted key steps, now - t < quota.window := by
      rw [noneIdle.mem_keys_iff, held key, live_ne_nil_iff]
    refine ⟨tracked, held, fun keys nodup isLive => ?_⟩
    have same := (List.perm_ext_iff_of_nodup (AttemptTable.nodup _) nodup).2 fun key =>
      (tracked key).trans (isLive key).symm
    exact (List.length_map _).symm.trans same.length_eq

/-- With a quota of two in a window of ten, the cleanup at 10 drops the submitter whose one moment is
exactly a window old, and keeps both moments of the other, who was refused at 9. -/
theorem records_are_live_at_expiry :
    let idle := Octets.zero 32
    let busy : SubmitterKey := Octets.ofFn fun _ => 1
    let quota : Quota := ⟨2, 10⟩
    let calls : List AttemptCall :=
      [.attempt idle 0, .attempt busy 2, .attempt busy 6, .attempt busy 9, .cleanup 10]
    let steps : List AttemptStep := [.attempt idle 0 true, .attempt busy 2 true,
      .attempt busy 6 true, .attempt busy 9 false, .cleanup 10]
    let table := (run quota calls .empty).2
    (1 ≤ quota.maxAttempts ∧ 0 < quota.window ∧
      (calls.map AttemptCall.moment).Pairwise (· ≤ ·) ∧ (run quota calls .empty).1 = steps) ∧
    IsLive quota (table.queue busy) ∧ idle ∉ table.keys ∧ table.queue busy = [2, 6] ∧
      table.tracked = 1 := by
  intro idle busy quota calls steps table
  have chronological : (calls.map AttemptCall.moment).Pairwise (· ≤ ·) := by decide
  have made : (run quota calls .empty).1 = steps := by decide +kernel
  obtain ⟨areLive, cleaned⟩ := records_are_live quota calls (by decide) (by decide) chronological
  obtain ⟨tracked, held, counted⟩ := cleaned [.attempt idle 0, .attempt busy 2, .attempt busy 6,
    .attempt busy 9] 10 rfl
  rw [made] at tracked held counted
  have moments : live 10 10 (granted busy steps) = [2, 6] := by decide +kernel
  have others : ∀ key, key ∈ [busy] ↔ ∃ t ∈ granted key steps, 10 - t < 10 := by
    intro key
    by_cases isBusy : key = busy
    · subst isBusy
      decide +kernel
    · by_cases isIdle : key = idle
      · subst isIdle
        decide +kernel
      · simp [steps, granted, granted?, isBusy, Ne.symm isBusy, Ne.symm isIdle]
  refine ⟨⟨by decide, by decide, chronological, made⟩, ?_, ?_, (held busy).trans moments, ?_⟩
  · exact areLive busy _ (by decide +kernel)
  · rw [tracked idle]
    decide +kernel
  · exact counted [busy] (by simp) others

end AttemptTable

end UptimeIntake
