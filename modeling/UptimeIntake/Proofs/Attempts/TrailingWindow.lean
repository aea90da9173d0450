import Mathlib.Data.List.Induction
import Mathlib.Data.List.TakeWhile
import UptimeIntake.Proofs.Attempts.Run

/-!
# The trailing window

As long as the clock does not go back, the table answers as if it kept every moment that it ever let
through: an attempt passes if fewer than the quota lie less than a window back. What a queue has
lost had expired, and cleanups and other submitters cannot be noticed.
-/

set_option autoImplicit false

namespace UptimeIntake

open AttemptStep

namespace AttemptTable

/-! ## What a queue keeps -/

/-- The queue is the end of what was let through, and all before it has expired. -/
structure Tracks (window : Nat) (last : Moment) (granted queue : List Moment) : Prop where
  sorted : granted.Pairwise (· ≤ ·)
  le_last : ∀ t ∈ granted, t ≤ last
  suffix : ∃ expired, granted = expired ++ queue ∧ ∀ t ∈ expired, isExpired window last t = true

/-- In a sorted queue no expired moment stands behind one that is not, so pruning misses none. -/
theorem prune_eq_filter_of_sorted {window now : Nat} {queue : List Nat}
    (sorted : queue.Pairwise (· ≤ ·)) :
    prune window now queue = queue.filter fun t => !isExpired window now t := by
  induction queue with
  | nil => rfl
  | cons t rest ih =>
      obtain ⟨least, sorted⟩ := List.pairwise_cons.1 sorted
      by_cases expired : isExpired window now t = true
      · simpa [prune, expired] using ih sorted
      · have live : ∀ u ∈ t :: rest, (!isExpired window now u) = true := by
          intro u member
          simp only [isExpired, decide_eq_true_eq, Nat.not_le] at expired
          simp only [isExpired, Bool.not_eq_true', decide_eq_false_iff_not, Nat.not_le]
          rcases List.mem_cons.1 member with rfl | member
          · exact expired
          · have later := least u member
            omega
        rw [List.filter_eq_self.2 live]
        simp [prune, expired]

namespace Tracks

variable {window last now : Nat} {granted queue : List Nat}

theorem nil : Tracks window last [] [] :=
  ⟨.nil, by simp, [], rfl, by simp⟩

theorem advance (tracks : Tracks window last granted queue) (ordered : last ≤ now) :
    Tracks window now granted queue := by
  obtain ⟨expired, split, allExpired⟩ := tracks.suffix
  refine ⟨tracks.sorted, ?_, expired, split, ?_⟩
  · intro t member
    exact Nat.le_trans (tracks.le_last t member) ordered
  · intro t member
    exact isExpired_mono ordered (allExpired t member)

/-- What pruning leaves is exactly what was let through less than a window ago. -/
theorem prune_eq_filter (tracks : Tracks window now granted queue) :
    AttemptTable.prune window now queue = granted.filter fun t => !isExpired window now t := by
  obtain ⟨expired, rfl, allExpired⟩ := tracks.suffix
  have nothing : (expired.filter fun t => !isExpired window now t) = [] := by
    rw [List.filter_eq_nil_iff]
    intro t member
    simp [allExpired t member]
  rw [List.filter_append, nothing, List.nil_append]
  exact prune_eq_filter_of_sorted (List.pairwise_append.1 tracks.sorted).2.1

theorem prune (tracks : Tracks window now granted queue) :
    Tracks window now granted (AttemptTable.prune window now queue) := by
  obtain ⟨expired, split, allExpired⟩ := tracks.suffix
  refine ⟨tracks.sorted, tracks.le_last, expired ++ queue.takeWhile (isExpired window now), ?_, ?_⟩
  · rw [List.append_assoc, AttemptTable.prune, List.takeWhile_append_dropWhile, ← split]
  · intro t member
    rcases List.mem_append.1 member with member | member
    · exact allExpired t member
    · exact List.mem_takeWhile_imp member

theorem push (tracks : Tracks window now granted queue) :
    Tracks window now (granted ++ [now]) (queue ++ [now]) := by
  obtain ⟨expired, split, allExpired⟩ := tracks.suffix
  refine ⟨?_, ?_, expired, by rw [split, List.append_assoc], allExpired⟩
  · rw [List.pairwise_append]
    refine ⟨tracks.sorted, by simp, ?_⟩
    intro t member last isLast
    rw [List.mem_singleton.1 isLast]
    exact tracks.le_last t member
  · intro t member
    rcases List.mem_append.1 member with member | isNow
    · exact tracks.le_last t member
    · exact Nat.le_of_eq (List.mem_singleton.1 isNow)

private theorem length_prune (tracks : Tracks window now granted queue) :
    (AttemptTable.prune window now queue).length = granted.countP fun t => now - t < window := by
  rw [tracks.prune_eq_filter, ← List.countP_eq_length_filter]
  refine List.countP_congr ?_
  intro t _
  simp [isExpired]

end Tracks

private theorem tracks_make {quota : Quota} {key : SubmitterKey} {call : AttemptCall}
    {table : AttemptTable} {past : List Moment}
    (tracks : Tracks quota.window call.moment past (table.queue key)) :
    Tracks quota.window call.moment (past ++ ((table.make quota call).1.granted? key).toList)
      ((table.make quota call).2.queue key) := by
  rw [queue_make]
  by_cases concerned : call.Concerns key
  · rw [if_pos concerned]
    cases passed : (table.make quota call).1.granted? key with
    | none => simpa using tracks.prune
    | some t =>
        have atNow : t = call.moment := by
          rw [eq_moment_of_granted? passed, call_make]
        subst atNow
        exact tracks.prune.push
  · have nothing : (table.make quota call).1.granted? key = none :=
      granted?_eq_none (by rwa [call_make])
    simpa [concerned, nothing] using tracks

/-- In every state that a forward clock can reach, each queue keeps all that still counts. -/
theorem tracks_run {quota : Quota} {calls : List AttemptCall} {last : Moment}
    (chronological : (calls.map AttemptCall.moment).Pairwise (· ≤ ·))
    (le_last : ∀ call ∈ calls, call.moment ≤ last) (key : SubmitterKey) :
    Tracks quota.window last (granted key (run quota calls .empty).1)
      ((run quota calls .empty).2.queue key) := by
  induction calls using List.reverseRecOn generalizing last with
  | nil => exact Tracks.nil
  | append_singleton calls call ih =>
      rw [List.map_append, List.pairwise_append] at chronological
      have le_call : ∀ earlier ∈ calls, earlier.moment ≤ call.moment := fun earlier member =>
        chronological.2.2 _ (List.mem_map_of_mem member) _ (by simp)
      have tracks := tracks_make (ih chronological.1 le_call)
      rw [run_append, run_cons, run_nil, granted_append, granted_cons, granted_nil,
        List.append_nil]
      exact tracks.advance (le_last call (by simp))

/-! ## Answers -/

/-- Every attempt is answered by the number of moments let through less than a window before. -/
def Exact (quota : Quota) (steps : List AttemptStep) : Prop :=
  ∀ earlier key now isGranted later, steps = earlier ++ .attempt key now isGranted :: later →
    (isGranted = true ↔
      ((granted key earlier).countP fun t => now - t < quota.window) < quota.maxAttempts)

theorem exact_run (quota : Quota) {calls : List AttemptCall}
    (chronological : (calls.map AttemptCall.moment).Pairwise (· ≤ ·)) :
    Exact quota (run quota calls .empty).1 := by
  intro earlier key now isGranted later steps
  obtain ⟨before, after, rfl, rfl, rest⟩ := run_eq_append steps
  cases after with
  | nil => simp at rest
  | cons call after =>
      rw [run_cons, List.cons.injEq] at rest
      rw [List.map_append, List.pairwise_append] at chronological
      have atNow : call.moment = now := by
        rw [← call_make quota call (run quota before .empty).2, rest.1]
        rfl
      have le_now : ∀ earlier ∈ before, earlier.moment ≤ now := fun earlier member =>
        atNow ▸ chronological.2.2 _ (List.mem_map_of_mem member) _ (by simp)
      rw [make_eq_attempt rest.1, decide_eq_true_eq,
        (tracks_run chronological.1 le_now key).length_prune]

private theorem Exact.of_append {quota : Quota} {earlier later : List AttemptStep}
    (answered : Exact quota (earlier ++ later)) : Exact quota earlier := by
  intro before key now isGranted after steps
  refine answered before key now isGranted (after ++ later) ?_
  rw [steps, List.append_assoc, List.cons_append]

/-- What the rule of the trailing window answers to one submitter who asks at the given moments,
with what was let through before. It knows neither queues nor other submitters. -/
def windowAnswers (quota : Quota) (past : List Moment) : List Moment → List (Moment × Bool)
  | [] => []
  | now :: rest =>
    if (past.countP fun t => now - t < quota.window) < quota.maxAttempts then
      (now, true) :: windowAnswers quota (past ++ [now]) rest
    else (now, false) :: windowAnswers quota past rest

private theorem windowAnswers_cons {quota : Quota} {past rest : List Moment} {now : Moment}
    {isGranted : Bool}
    (verdict : isGranted = true ↔
      (past.countP fun t => now - t < quota.window) < quota.maxAttempts) :
    windowAnswers quota past (now :: rest) =
      (now, isGranted) ::
        windowAnswers quota (past ++ (if isGranted = true then [now] else [])) rest := by
  cases isGranted with
  | true => simp only [windowAnswers, if_pos (verdict.1 rfl), if_true]
  | false =>
      have refused := mt verdict.2 Bool.false_ne_true
      simp only [windowAnswers, if_neg refused, Bool.false_eq_true, if_false, List.append_nil]

/-- Exact answers to one submitter are those of the rule. The induction is on what is still to
come, behind an arbitrary part of the run. -/
theorem Exact.answersTo_eq {quota : Quota} (key : SubmitterKey) {later : List AttemptStep} :
    ∀ earlier, Exact quota (earlier ++ later) →
      answersTo key later =
        windowAnswers quota (granted key earlier)
          ((later.map AttemptStep.call).filterMap (AttemptCall.attemptOf? key)) := by
  induction later with
  | nil => intros; rfl
  | cons step later ih =>
      intro earlier answered
      have rest := ih (earlier ++ [step]) (by simpa using answered)
      rw [granted_append, granted_cons, granted_nil, List.append_nil] at rest
      rw [answersTo_cons, List.map_cons, AttemptCall.filterMap_attemptOf?_cons, rest]
      cases step with
      | attempt other now isGranted =>
          by_cases same : other = key
          · subst same
            have verdict := answered earlier other now isGranted later rfl
            have now? : AttemptCall.attemptOf? other (.attempt other now) = some now := if_pos rfl
            simp only [AttemptStep.call, now?, Option.toList_some, List.singleton_append,
              windowAnswers_cons verdict]
            cases isGranted <;> simp [answerTo?, granted?]
          · simp [answerTo?, granted?, AttemptStep.call, AttemptCall.attemptOf?, same]
      | cleanup now => simp [answerTo?, granted?, AttemptStep.call, AttemptCall.attemptOf?]

/-- The last moment let through in a window was let through because there was room for it among
those before it in the window. -/
theorem Exact.countP_window_le {quota : Quota} {steps : List AttemptStep}
    (answered : Exact quota steps) (key : SubmitterKey) (T : Nat) :
    ((granted key steps).countP fun t => T < t + quota.window ∧ t ≤ T) ≤ quota.maxAttempts := by
  induction steps using List.reverseRecOn with
  | nil => simp
  | append_singleton steps step ih =>
      have before := ih answered.of_append
      rw [granted_append, granted_cons, granted_nil, List.append_nil, List.countP_append]
      cases passed : step.granted? key with
      | none => simpa using before
      | some now =>
          by_cases inWindow : T < now + quota.window ∧ now ≤ T
          · obtain rfl := granted?_eq_some_iff.1 passed
            have room := (answered steps key now true [] rfl).1 rfl
            have fewer : ((granted key steps).countP fun t => T < t + quota.window ∧ t ≤ T) ≤
                (granted key steps).countP fun t => now - t < quota.window := by
              refine List.countP_mono_left ?_
              intro t _ counted
              simp only [decide_eq_true_eq] at counted ⊢
              unfold Moment at *
              omega
            simp only [Option.toList_some, List.countP_singleton, inWindow, and_self,
              decide_true, if_true]
            exact Nat.lt_of_le_of_lt fewer room
          · simpa [List.countP_cons, inWindow] using before

/-- Run from the empty table with a clock that never goes back, the table lets an attempt through
exactly if fewer than the quota of the earlier attempts of the same submitter that were let
through lie less than a window back. So neither other submitters nor cleanups can be noticed in
the answers, and no window holds more than the quota. -/
theorem answers_in_trailing_window (quota : Quota) (calls : List AttemptCall)
    (chronological : (calls.map AttemptCall.moment).Pairwise (· ≤ ·)) :
    (∀ earlier key now isGranted later,
      (run quota calls .empty).1 = earlier ++ .attempt key now isGranted :: later →
      (isGranted = true ↔
        ((granted key earlier).countP fun t => now - t < quota.window) < quota.maxAttempts)) ∧
    (∀ key others, (others.map AttemptCall.moment).Pairwise (· ≤ ·) →
      others.filterMap (AttemptCall.attemptOf? key) =
        calls.filterMap (AttemptCall.attemptOf? key) →
      answersTo key (run quota others .empty).1 = answersTo key (run quota calls .empty).1) ∧
    (∀ key T, ((granted key (run quota calls .empty).1).countP
      fun t => T < t + quota.window ∧ t ≤ T) ≤ quota.maxAttempts) := by
  have answered := exact_run quota chronological
  refine ⟨answered, ?_, answered.countP_window_le⟩
  intro key others othersChronological sameAttempts
  have othersAnswered := exact_run quota othersChronological
  rw [answered.answersTo_eq key [], othersAnswered.answersTo_eq key [], map_call_run,
    map_call_run, sameAttempts]

/-- With a quota of two in a window of ten, the attempt one window after the first is let through
although the queue was full just before, and it is answered alike without the cleanup. -/
theorem answers_in_trailing_window_at_expiry :
    let key := Octets.zero 32
    let quota : Quota := ⟨2, 10⟩
    let calls : List AttemptCall :=
      [.attempt key 0, .attempt key 4, .attempt key 9, .cleanup 9, .attempt key 10]
    let others : List AttemptCall :=
      [.attempt key 0, .attempt key 4, .attempt key 9, .attempt key 10]
    (calls.map AttemptCall.moment).Pairwise (· ≤ ·) ∧
      (others.map AttemptCall.moment).Pairwise (· ≤ ·) ∧
      answersTo key (run quota calls .empty).1 =
        [(0, true), (4, true), (9, false), (10, true)] ∧
      ((granted key [.attempt key 0 true, .attempt key 4 true, .attempt key 9 false,
        .cleanup 9]).countP fun t => 10 - t < 10) < 2 ∧
      answersTo key (run quota others .empty).1 = answersTo key (run quota calls .empty).1 ∧
      (granted key (run quota calls .empty).1).countP (fun t => 12 < t + 10 ∧ t ≤ 12) ≤ 2 := by
  intro key quota calls others
  have chronological : (calls.map AttemptCall.moment).Pairwise (· ≤ ·) := by decide
  have othersChronological : (others.map AttemptCall.moment).Pairwise (· ≤ ·) := by decide
  obtain ⟨answers, alike, atMost⟩ := answers_in_trailing_window quota calls chronological
  refine ⟨chronological, othersChronological, by decide, ?_, ?_, atMost key 12⟩
  · exact (answers _ key 10 true [] (by decide)).1 rfl
  · exact alike key others othersChronological (by decide)

end AttemptTable

end UptimeIntake
