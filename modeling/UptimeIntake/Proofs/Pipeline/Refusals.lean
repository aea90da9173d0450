import UptimeIntake.Proofs.Pipeline.Run
import UptimeIntake.Proofs.Storage.Journal
import UptimeIntake.Storage.Memory

/-!
# Refused submissions leave no trace

Taking refused submissions out of a run changes nothing for what is left. A refusal for the quota
does change the attempt table, but only by pruning what no later call can count, and so the two
runs are compared by what pruning leaves of their queues.
-/

set_option autoImplicit false

namespace UptimeIntake

/-! ## Tables that prune alike -/

/-- Pruning at `last` leaves the same of every queue in both tables. -/
def AttemptTable.Alike (window : Nat) (last : Moment) (a b : AttemptTable) : Prop :=
  ∀ key, prune window last (a.queue key) = prune window last (b.queue key)

namespace AttemptTable

variable {window : Nat} {last now : Moment} {a b : AttemptTable}

theorem Alike.refl (window : Nat) (last : Moment) (a : AttemptTable) : Alike window last a a :=
  fun _ => rfl

theorem Alike.trans {c : AttemptTable} (first : Alike window last a b)
    (second : Alike window last b c) : Alike window last a c :=
  fun key => (first key).trans (second key)

theorem Alike.advance (alike : Alike window last a b) (ordered : last ≤ now) :
    Alike window now a b := by
  intro key
  rw [← prune_prune ordered (a.queue key), alike key, prune_prune ordered]

/-- Cleanups keep tables alike, at whatever moment they come. -/
theorem Alike.cleanup (alike : Alike window last a b) (now : Moment) :
    Alike window last (a.cleanup window now) (b.cleanup window now) := by
  intro key
  rw [queue_cleanup, queue_cleanup]
  rcases Nat.le_total now last with before | after
  · rw [prune_prune before, prune_prune before, alike key]
  · rw [alike.advance after key]

theorem Alike.record {quota : Quota} (alike : Alike quota.window now a b) (key : SubmitterKey) :
    (a.record quota key now).1 = (b.record quota key now).1 ∧
      Alike quota.window now (a.record quota key now).2 (b.record quota key now).2 := by
  have verdict : (a.record quota key now).1 = (b.record quota key now).1 := by
    rw [record_fst, record_fst, alike key]
  refine ⟨verdict, ?_⟩
  intro other
  rw [queue_record, queue_record, verdict, alike key]
  split
  · rfl
  · exact alike other

private theorem alike_record_of_refused {quota : Quota} {key : SubmitterKey}
    (refused : (a.record quota key now).1 = false) :
    Alike quota.window now (a.record quota key now).2 a := by
  intro other
  rw [queue_record, refused]
  split
  · next same =>
      simp only [Bool.false_eq_true, if_false, List.append_nil, same]
      exact prune_prune (Nat.le_refl now) (a.queue key)
  · rfl

end AttemptTable

namespace Pipeline

variable {σ : Type}

/-! ## One submission -/

/-- States that no call from `last` on can tell apart, and whose destinations are the same. -/
structure Alike (window : Nat) (last : Moment) (a b : PipelineState σ) : Prop where
  attempts : a.attempts.Alike window last b.attempts
  destinations : a.destinations = b.destinations

theorem Alike.process {p : Pipeline} {call : Call} {a b : PipelineState σ}
    (alike : Alike p.quota.window call.moment a b) :
    (p.process call a).1 = (p.process call b).1 ∧
      Alike p.quota.window call.moment (p.process call a).2 (p.process call b).2 := by
  cases checked : p.check call.now call.body with
  | error cause =>
      simp only [Pipeline.process, accept, checked]
      exact ⟨trivial, alike⟩
  | ok s =>
      obtain ⟨verdict, attempts⟩ := alike.attempts.record s.submitter
      simp only [Pipeline.process, accept, checked, ← verdict]
      cases (a.attempts.record p.quota s.submitter call.moment).1 with
      | false => exact ⟨rfl, attempts, alike.destinations⟩
      | true =>
          rw [alike.destinations]
          exact ⟨rfl, attempts, rfl⟩

theorem alike_process_of_refused {p : Pipeline} {call : Call} {a : PipelineState σ}
    {cause : Refusal} (refused : (p.process call a).1 = .refused cause) :
    Alike p.quota.window call.moment (p.process call a).2 a := by
  rcases process_cases p call a with ⟨_, failed, shape⟩ | ⟨s, checked, full, shape⟩ |
    ⟨s, checked, room, shape⟩
  · rw [shape]
    exact ⟨.refl _ _ _, rfl⟩
  · rw [shape]
    exact ⟨AttemptTable.alike_record_of_refused full, rfl⟩
  · rw [shape] at refused
    cases refused

theorem Alike.take {p : Pipeline} {last : Moment} {event : PipelineEvent} {a b : PipelineState σ}
    (alike : Alike p.quota.window last a b) (ordered : last ≤ event.latest last) :
    (p.take event a).1 = (p.take event b).1 ∧
      Alike p.quota.window (event.latest last) (p.take event a).2 (p.take event b).2 := by
  cases event with
  | submission call =>
      have reached : Alike p.quota.window call.moment a b :=
        ⟨alike.attempts.advance ordered, alike.destinations⟩
      obtain ⟨outcome, after⟩ := reached.process
      exact ⟨congrArg (PipelineStep.submission call) outcome, after⟩
  | cleanup now => exact ⟨rfl, alike.attempts.cleanup now, alike.destinations⟩
  | publication whitelist => exact ⟨rfl, alike⟩

/-! ## Runs -/

/-- The second list is the first with some refused submissions taken out. -/
inductive Thinning : List PipelineStep → List PipelineStep → Prop where
  | nil : Thinning [] []
  | keep {steps kept} (step : PipelineStep) :
      Thinning steps kept → Thinning (step :: steps) (step :: kept)
  | drop {steps kept} (call : Call) (cause : Refusal) :
      Thinning steps kept → Thinning (.submission call (.refused cause) :: steps) kept

/-- The induction is on the full run. At each point the two states are alike from the latest
submission on; a submission that is taken out leaves them so because it was refused. -/
theorem run_thinning {p : Pipeline} {last : Moment} {events : List PipelineEvent}
    {a b : PipelineState σ} {kept : List PipelineStep}
    (chronological : PipelineEvent.ChronologicalFrom last events)
    (alike : Alike p.quota.window last a b) (thinning : Thinning (p.run events a).1 kept) :
    (p.run (kept.map PipelineStep.event) b).1 = kept ∧
      (p.run (kept.map PipelineStep.event) b).2.destinations =
        (p.run events a).2.destinations := by
  induction events generalizing p last a b kept with
  | nil =>
      cases thinning
      exact ⟨rfl, alike.destinations.symm⟩
  | cons event events ih =>
      obtain ⟨ordered, later⟩ := chronological.cons
      obtain ⟨step, after⟩ := alike.take ordered
      rw [run_cons] at thinning ⊢
      generalize taken : (p.take event a).1 = first at thinning
      cases thinning with
      | @keep _ kept _ thinning =>
          have isEvent : first.event = event := by rw [← taken, event_take]
          obtain ⟨rest, contents⟩ := ih later (by rwa [quota_after]) thinning
          rw [List.map_cons, isEvent, run_cons]
          refine ⟨?_, contents⟩
          rw [← step, taken, rest]
      | drop call cause thinning =>
          have isEvent : PipelineEvent.submission call = event := by
            rw [← event_take p event a, taken]
            rfl
          subst isEvent
          have refused : (p.process call a).1 = .refused cause :=
            (PipelineStep.submission.inj taken).2
          have unchanged := alike_process_of_refused refused
          refine ih later ⟨?_, unchanged.destinations.trans alike.destinations⟩ thinning
          exact unchanged.attempts.trans (alike.attempts.advance ordered)

/-- Run with a clock that does not go back from one submission to the next, from any attempts and
any destinations, with cleanups and new whitelists at any time: taking any refused submissions
out changes no outcome and no report of what is left, and no destination. A submission that is
refused makes no call on a destination, whatever its store: with journals the journals stay
empty. -/
theorem refusals_leave_no_trace (p : Pipeline) (events : List PipelineEvent)
    (state : PipelineState σ) (chronological : PipelineEvent.Chronological events) :
    (∀ kept, Thinning (p.run events state).1 kept →
      (p.run (kept.map PipelineStep.event) state).1 = kept ∧
        (p.run (kept.map PipelineStep.event) state).2.destinations =
          (p.run events state).2.destinations) ∧
    (∀ call (reached : PipelineState σ) cause, (p.process call reached).1 = .refused cause →
      ∀ d ∈ (p.process call
          ⟨reached.attempts, reached.destinations.map .journaled⟩).2.destinations,
        d.state.2 = []) := by
  refine ⟨fun kept => run_thinning chronological.fromZero ⟨.refl _ _ _, rfl⟩, ?_⟩
  intro call reached cause refused d member
  have notAccepted := process_eq_refused_iff.1 refused
  have refusedToo : (p.process call
      ⟨reached.attempts, reached.destinations.map .journaled⟩).1 = .refused cause :=
    process_eq_refused_iff.2 notAccepted
  rw [(alike_process_of_refused refusedToo).destinations] at member
  obtain ⟨d, _, rfl⟩ := List.mem_map.1 member
  rfl

/-- A body that asks for nothing but to be let in: zeros for the key and the signature. -/
private def plainBody : Bytes :=
  Text.Utf8.encode <|
    "\x7b\"submitter\":\"".toList ++ (Octets.zero 32).toHex ++
      "\",\"sig\":\"".toList ++ (Octets.zero 64).toHex ++
      "\",\"data\":\x7b\"peer_id\":\"p\",\"block\":\"AQID\",".toList ++
      "\"created_at\":\"1970-01-01T00:00:00Z\"\x7d\x7d".toList

set_option maxRecDepth 100000 in
/-- With a quota of one in a window of ten: an empty body and an attempt over the quota are taken
out of a run. The submission at 10 is let through again, and finds the block that is kept. -/
theorem refusals_leave_no_trace_over_quota :
    let p : Pipeline :=
      ⟨{ whitelist := { disabled := true }, verifySignatureDisabled := true }, ⟨1, 10⟩, none, none⟩
    let state : PipelineState MemoryStore := ⟨.empty, [⟨MemoryStore.store "memory", .empty⟩]⟩
    let call := fun (body : Bytes) (moment : Moment) =>
      Call.mk body "" ⟨0, 0, by decide, by decide, by decide⟩ moment
    let events : List PipelineEvent :=
      [.submission (call plainBody 0), .submission (call [] 1), .submission (call plainBody 4),
        .cleanup 5, .submission (call plainBody 10)]
    let saved : Outcome := .accepted ⟨[{ destination := "memory", written := 2 }]⟩
    let again : Outcome := .accepted ⟨[{ destination := "memory", written := 1, skipped := 1 }]⟩
    let kept : List PipelineStep :=
      [.submission (call plainBody 0) saved, .cleanup 5, .submission (call plainBody 10) again]
    PipelineEvent.Chronological events ∧ Thinning (p.run events state).1 kept ∧
      (p.run (kept.map PipelineStep.event) state).1 = kept := by
  intro p state call events saved again kept
  have chronological : PipelineEvent.Chronological events := by
    unfold PipelineEvent.Chronological
    decide
  have steps : (p.run events state).1 =
      [.submission (call plainBody 0) saved,
        .submission (call [] 1) (.refused (.rejected .decode)),
        .submission (call plainBody 4) (.refused (.rejected .rateLimited)), .cleanup 5,
        .submission (call plainBody 10) again] := by
    decide +kernel
  have thinning : Thinning (p.run events state).1 kept := by
    rw [steps]
    exact .keep _ (.drop _ _ (.drop _ _ (.keep _ (.keep _ .nil))))
  have unchanged := refusals_leave_no_trace p events state chronological
  exact ⟨chronological, thinning, (unchanged.1 kept thinning).1⟩

end Pipeline

end UptimeIntake
