import UptimeIntake.Proofs.Attempts.Run

/-!
# Moments out of order

Callers read the clock before their turn comes, so moments may go back. Queues are not sorted then
and pruning stops at the first moment that has not expired; still a moment leaves its queue only
at a call that is a window later. With a window of zero every call is a window later.
-/

set_option autoImplicit false

namespace UptimeIntake

open AttemptStep

namespace AttemptTable

/-- No step that prunes the queue of the submitter comes a window after the moment. -/
def Spares (window : Nat) (key : SubmitterKey) (steps : List AttemptStep) (t : Moment) : Prop :=
  ∀ step ∈ steps, step.call.Concerns key → ¬ isExpired window step.call.moment t = true

instance (window : Nat) (key : SubmitterKey) (steps : List AttemptStep) (t : Moment) :
    Decidable (Spares window key steps t) :=
  inferInstanceAs (Decidable (∀ step ∈ steps, _ → _))

/-- The moments let through for the submitter that no later step may have pruned, in order. -/
def lasting (window : Nat) (key : SubmitterKey) : List AttemptStep → List Moment
  | [] => []
  | step :: later =>
    ((step.granted? key).toList.filter fun t => Spares window key later t) ++
      lasting window key later

theorem spares_cons {window : Nat} {key : SubmitterKey} {step : AttemptStep}
    {later : List AttemptStep} {t : Moment} :
    Spares window key (step :: later) t ↔
      (step.call.Concerns key → ¬ isExpired window step.call.moment t = true) ∧
        Spares window key later t :=
  List.forall_mem_cons

/-! ## What a call leaves -/

private theorem filter_sublist_prune {window : Nat} {now : Moment} {kept : Moment → Bool}
    {queue : List Moment} (live : ∀ t, kept t = true → ¬ isExpired window now t = true) :
    (queue.filter kept).Sublist (prune window now queue) := by
  induction queue with
  | nil => exact List.Sublist.slnil
  | cons t rest ih =>
      by_cases expired : isExpired window now t = true
      · have dropped : ¬ kept t = true := fun isKept => live t isKept expired
        simpa [prune, expired, dropped] using ih
      · have whole : prune window now (t :: rest) = t :: rest := by simp [prune, expired]
        rw [whole]
        exact List.filter_sublist

/-- What a later step may still prune does not get lost at this one. -/
theorem filter_spares_sublist_make (quota : Quota) (key : SubmitterKey) (call : AttemptCall)
    (table : AttemptTable) (later : List AttemptStep) :
    List.Sublist
      (((table.queue key).filter fun t =>
          Spares quota.window key ((table.make quota call).1 :: later) t) ++
        (((table.make quota call).1.granted? key).toList.filter fun t =>
          Spares quota.window key later t))
      (((table.make quota call).2.queue key).filter fun t =>
        Spares quota.window key later t) := by
  have still : ((table.queue key).filter fun t =>
        Spares quota.window key ((table.make quota call).1 :: later) t).filter
          (fun t => Spares quota.window key later t) =
      (table.queue key).filter fun t =>
        Spares quota.window key ((table.make quota call).1 :: later) t := by
    rw [List.filter_eq_self]
    intro t member
    have spared := of_decide_eq_true (List.mem_filter.1 member).2
    exact decide_eq_true (spares_cons.1 spared).2
  rw [← still, queue_make]
  by_cases concerned : call.Concerns key
  · rw [if_pos concerned, List.filter_append]
    refine List.Sublist.append (List.Sublist.filter _ (filter_sublist_prune ?_)) (.refl _)
    intro t spared
    have live := (spares_cons.1 (of_decide_eq_true spared)).1
    rw [call_make] at live
    exact live concerned
  · have nothing : (table.make quota call).1.granted? key = none :=
      granted?_eq_none (by rwa [call_make])
    rw [if_neg concerned, nothing, Option.toList_none, List.filter_nil, List.append_nil]
    exact List.Sublist.filter _ List.filter_sublist

private theorem length_queue_make_le {quota : Quota} {key : SubmitterKey} {call : AttemptCall}
    {table : AttemptTable} (within : (table.queue key).length ≤ quota.maxAttempts) :
    ((table.make quota call).2.queue key).length ≤ quota.maxAttempts := by
  have shorter : ∀ now, (prune quota.window now (table.queue key)).length ≤ quota.maxAttempts :=
    fun now => Nat.le_trans (List.dropWhile_sublist _).length_le within
  rw [queue_make]
  by_cases concerned : call.Concerns key
  · rw [if_pos concerned, List.length_append]
    cases passed : (table.make quota call).1.granted? key with
    | none => exact shorter call.moment
    | some t =>
        have made := granted?_eq_some_iff.1 passed
        have atNow : t = call.moment := by
          rw [eq_moment_of_granted? passed, call_make]
        have room := make_eq_attempt made
        rw [atNow] at room
        exact of_decide_eq_true room.symm
  · rw [if_neg concerned]
    exact within

/-! ## Runs -/

/-- From any state on: what no step may have pruned is still there, with what was there before. -/
theorem lasting_sublist_run (quota : Quota) (key : SubmitterKey) (calls : List AttemptCall)
    (table : AttemptTable) :
    List.Sublist
      (((table.queue key).filter fun t => Spares quota.window key (run quota calls table).1 t) ++
        lasting quota.window key (run quota calls table).1)
      ((run quota calls table).2.queue key) := by
  induction calls generalizing table with
  | nil => simp [lasting]
  | cons call calls ih =>
      rw [run_cons, lasting, ← List.append_assoc]
      have here := filter_spares_sublist_make quota key call table
        (run quota calls (table.make quota call).2).1
      exact (here.append_right _).trans (ih (table.make quota call).2)

theorem length_queue_run_le {quota : Quota} {key : SubmitterKey} (calls : List AttemptCall)
    {table : AttemptTable} (within : (table.queue key).length ≤ quota.maxAttempts) :
    ((run quota calls table).2.queue key).length ≤ quota.maxAttempts := by
  induction calls generalizing table with
  | nil => exact within
  | cons call calls ih => exact ih (length_queue_make_le within)

theorem length_queue_le (quota : Quota) (key : SubmitterKey) (calls : List AttemptCall) :
    ((run quota calls .empty).2.queue key).length ≤ quota.maxAttempts :=
  length_queue_run_le calls (Nat.zero_le _)

private theorem mem_lasting {window : Nat} {key : SubmitterKey} {earlier later : List AttemptStep}
    {t : Moment} (spared : Spares window key later t) :
    t ∈ lasting window key (earlier ++ .attempt key t true :: later) := by
  induction earlier with
  | nil => simp [lasting, granted?, spared]
  | cons step earlier ih => exact List.mem_append_right _ ih

/-- The calls that prune the queue of the submitter come within less than a window of each
other. -/
def WithinWindow (window : Nat) (key : SubmitterKey) (steps : List AttemptStep) : Prop :=
  ((steps.filter fun step => step.call.Concerns key).map fun step => step.call.moment).Pairwise
    fun s t => s < t + window ∧ t < s + window

private theorem WithinWindow.of_cons {window : Nat} {key : SubmitterKey} {step : AttemptStep}
    {later : List AttemptStep} (close : WithinWindow window key (step :: later)) :
    WithinWindow window key later :=
  close.sublist (((List.sublist_cons_self step later).filter _).map _)

private theorem WithinWindow.spares {window : Nat} {key : SubmitterKey} {t : Moment}
    {later : List AttemptStep} (close : WithinWindow window key (.attempt key t true :: later)) :
    Spares window key later t := by
  intro step member concerned
  have first : (AttemptStep.attempt key t true).call.Concerns key := rfl
  simp only [WithinWindow, List.filter_cons, first, decide_true, if_true, List.map_cons] at close
  have near : t < step.call.moment + window ∧ step.call.moment < t + window :=
    (List.pairwise_cons.1 close).1 step.call.moment
      (List.mem_map.2 ⟨step, List.mem_filter.2 ⟨member, decide_eq_true concerned⟩, rfl⟩)
  simp only [isExpired, decide_eq_true_eq, Nat.not_le]
  unfold Moment at *
  omega

/-- Within less than a window nothing that was let through can be pruned. -/
theorem WithinWindow.lasting_eq {window : Nat} {key : SubmitterKey} {steps : List AttemptStep}
    (close : WithinWindow window key steps) : lasting window key steps = granted key steps := by
  induction steps with
  | nil => rfl
  | cons step later ih =>
      rw [lasting, granted_cons, ih close.of_cons]
      cases passed : step.granted? key with
      | none => rfl
      | some t =>
          obtain rfl := granted?_eq_some_iff.1 passed
          simp [close.spares]

/-- The quota holds in whatever order the moments come. In a part of a run whose calls for a
submitter, cleanups included, lie less than a window from each other, at most the quota is let
through; no queue is ever longer than the quota; and a moment let through stays in its queue, as
often as it was let through, unless a later call for the submitter or cleanup comes a window
later, where with a window of zero every later one does. -/
theorem quota_without_order (quota : Quota) (calls : List AttemptCall) (key : SubmitterKey) :
    (∀ earlier segment later, (run quota calls .empty).1 = earlier ++ segment ++ later →
      WithinWindow quota.window key segment →
      (granted key segment).length ≤ quota.maxAttempts) ∧
    ((run quota calls .empty).2.queue key).length ≤ quota.maxAttempts ∧
    (∀ earlier t later, (run quota calls .empty).1 = earlier ++ .attempt key t true :: later →
      (∀ step ∈ later, step.call.Concerns key →
        0 < quota.window ∧ step.call.moment < t + quota.window) →
      t ∈ (run quota calls .empty).2.queue key) ∧
    List.Sublist (lasting quota.window key (run quota calls .empty).1)
      ((run quota calls .empty).2.queue key) := by
  have kept := lasting_sublist_run quota key calls .empty
  rw [queue_empty, List.filter_nil, List.nil_append] at kept
  refine ⟨?_, length_queue_le quota key calls, ?_, kept⟩
  · intro earlier segment later steps close
    rw [List.append_assoc] at steps
    obtain ⟨before, after, rfl, rfl, rest⟩ := run_eq_append steps
    obtain ⟨during, after, rfl, rfl, _⟩ := run_eq_append rest
    have within := length_queue_run_le during (length_queue_le quota key before)
    have all := lasting_sublist_run quota key during (run quota before .empty).2
    rw [close.lasting_eq] at all
    exact Nat.le_trans ((List.sublist_append_right _ _).trans all).length_le within
  · intro earlier t later steps spared
    refine kept.subset ?_
    rw [steps]
    refine mem_lasting ?_
    intro step member concerned
    obtain ⟨positive, early⟩ := spared step member concerned
    simp only [isExpired, decide_eq_true_eq, Nat.not_le]
    unfold Moment at *
    omega

/-- With a quota of two in a window of ten, an attempt at 3 that comes after one at 7 stands behind
it: at 16 it has expired and still fills the queue, for the first has not. -/
theorem quota_without_order_backwards :
    let key := Octets.zero 32
    let quota : Quota := ⟨2, 10⟩
    let calls : List AttemptCall :=
      [.attempt key 7, .attempt key 3, .cleanup 9, .attempt key 12, .attempt key 16]
    let segment : List AttemptStep :=
      [.attempt key 7 true, .attempt key 3 true, .cleanup 9, .attempt key 12 false]
    (run quota calls .empty).1 = [] ++ segment ++ [.attempt key 16 false] ∧
      WithinWindow quota.window key segment ∧
      (granted key segment).length ≤ 2 ∧
      ((run quota calls .empty).2.queue key).length ≤ 2 ∧
      7 ∈ (run quota calls .empty).2.queue key := by
  intro key quota calls segment
  have steps : (run quota calls .empty).1 = [] ++ segment ++ [.attempt key 16 false] := by decide
  have close : WithinWindow quota.window key segment := by
    unfold WithinWindow
    decide
  obtain ⟨atMost, short, stays, _⟩ := quota_without_order quota calls key
  exact ⟨steps, close, atMost _ _ _ steps close, short, stays [] 7 _ steps (by decide)⟩

/-- A window of zero forgets a moment at a call that comes before it: a moment let through at 5 is
not kept at a cleanup at 3. -/
theorem zero_window_forgets :
    ¬ ∀ (quota : Quota) (calls : List AttemptCall) (key : SubmitterKey) (earlier : List AttemptStep)
      (t : Moment) (later : List AttemptStep),
      (run quota calls .empty).1 = earlier ++ .attempt key t true :: later →
      (∀ step ∈ later, step.call.Concerns key → ¬ t + quota.window ≤ step.call.moment) →
      t ∈ (run quota calls .empty).2.queue key := by
  intro keeps
  have kept := keeps ⟨1, 0⟩ [.attempt (.zero 32) 5, .cleanup 3] (.zero 32) [] 5 [.cleanup 3]
    (by decide) (by decide)
  exact absurd kept (by decide)

end AttemptTable

end UptimeIntake
