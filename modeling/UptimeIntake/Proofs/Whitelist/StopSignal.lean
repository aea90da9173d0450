import Mathlib.Data.List.Induction
import UptimeIntake.Whitelist.Refresher

/-!
# The refresher and its stop signal

Runs of the refresher over events in any order: ticks, ends of fetches and pauses, signals, the
loss of the sender, and wake-ups. A wake-up that finds a stop is the last one that does anything;
a signal that asks for no stop disturbs nothing.
-/

set_option autoImplicit false

namespace UptimeIntake

private theorem StopSignal.send_false {s : StopSignal} (noStop : s.isStop = false) :
    s.send false = s := by
  obtain ⟨requested, senderGone⟩ := s
  cases requested with
  | true => cases noStop
  | false => cases senderGone <;> rfl

private theorem StopSignal.isStop_send_false {s : StopSignal} (sender : s.senderGone = false) :
    (s.send false).isStop = false := by
  obtain ⟨requested, senderGone⟩ := s
  cases sender
  rfl

namespace Refresher

variable {limit : UInt32} {r : Refresher}

def run (limit : UInt32) (r : Refresher) (events : List RefreshEvent) : Refresher :=
  events.foldl (react limit) r

@[simp] theorem run_nil (limit : UInt32) (r : Refresher) : r.run limit [] = r := rfl

theorem run_cons (limit : UInt32) (r : Refresher) (event : RefreshEvent)
    (events : List RefreshEvent) :
    r.run limit (event :: events) = (r.react limit event).run limit events := rfl

theorem run_append (limit : UInt32) (r : Refresher) (first second : List RefreshEvent) :
    r.run limit (first ++ second) = (r.run limit first).run limit second :=
  List.foldl_append

/-! ## Wake-ups -/

/-- What the refresher waits for has not happened. -/
def IsWaiting (r : Refresher) : Prop :=
  match r.phase with
  | .idle => r.tickDue = false
  | .fetching _ => r.fetched = none
  | .pausing _ => r.pauseOver = false
  | .stopped => True

/-- All that a wake-up can do. -/
inductive Wakes (limit : UInt32) (r : Refresher) : Refresher → Prop where
  | stops (stop : r.stop.isStop = true) :
      Wakes limit r { r with phase := .stopped, fetched := none }
  | begins (noStop : r.stop.isStop = false) (idle : r.phase = .idle) (due : r.tickDue = true) :
      Wakes limit r
        { r with phase := .fetching 1, fetches := r.fetches + 1, fetched := none, tickDue := false }
  | succeeds {attempt : UInt32} {whitelist : Whitelist} (noStop : r.stop.isStop = false)
      (fetching : r.phase = .fetching attempt) (fetched : r.fetched = some (.ok whitelist)) :
      Wakes limit r { r with phase := .idle, whitelist, fetched := none, pauseOver := false }
  | fails {attempt : UInt32} {e : WhitelistError} (noStop : r.stop.isStop = false)
      (fetching : r.phase = .fetching attempt) (fetched : r.fetched = some (.error e)) :
      Wakes limit r
        { r with
          phase := if attempt < limit then .pausing attempt else .idle
          fetched := none
          pauseOver := false }
  | retries {attempt : UInt32} (noStop : r.stop.isStop = false)
      (pausing : r.phase = .pausing attempt) (isOver : r.pauseOver = true) :
      Wakes limit r
        { r with phase := .fetching (attempt + 1), fetches := r.fetches + 1, fetched := none }
  | waits (noStop : r.stop.isStop = false) (waiting : r.IsWaiting) : Wakes limit r r

theorem wake_of_isStop (limit : UInt32) (stop : r.stop.isStop = true) :
    r.wake limit = { r with phase := .stopped, fetched := none } :=
  if_pos stop

theorem wake_eq (limit : UInt32) (noStop : r.stop.isStop = false) :
    r.wake limit =
      match r.phase with
      | .idle => if r.tickDue then fetch 1 { r with tickDue := false } else r
      | .fetching attempt =>
        match r.fetched with
        | some result => afterFetch limit attempt result r
        | none => r
      | .pausing attempt => if r.pauseOver then fetch (attempt + 1) r else r
      | .stopped => r :=
  if_neg (Bool.eq_false_iff.1 noStop)

theorem wakes (limit : UInt32) (r : Refresher) : r.Wakes limit (r.wake limit) := by
  cases stop : r.stop.isStop with
  | true =>
      rw [wake_of_isStop limit stop]
      exact .stops stop
  | false =>
      rw [wake_eq limit stop]
      cases phase : r.phase with
      | idle =>
          cases due : r.tickDue with
          | true => exact .begins stop phase due
          | false => exact .waits stop (by simpa only [IsWaiting, phase] using due)
      | fetching attempt =>
          cases fetched : r.fetched with
          | none => exact .waits stop (by simpa only [IsWaiting, phase] using fetched)
          | some result =>
              cases result with
              | ok whitelist => exact .succeeds stop phase fetched
              | error e => exact .fails stop phase fetched
      | pausing attempt =>
          cases isOver : r.pauseOver with
          | true => exact .retries stop phase isOver
          | false => exact .waits stop (by simpa only [IsWaiting, phase] using isOver)
      | stopped => exact .waits stop (by simp only [IsWaiting, phase])

theorem wake_of_isWaiting (limit : UInt32) (noStop : r.stop.isStop = false)
    (waiting : r.IsWaiting) : r.wake limit = r := by
  rw [wake_eq limit noStop]
  unfold IsWaiting at waiting
  cases phase : r.phase with
  | idle => simp_all
  | fetching attempt => simp_all
  | pausing attempt => simp_all
  | stopped => rfl

/-! ## Other events -/

theorem react_of_ne_wake (limit : UInt32) {event : RefreshEvent} (other : event ≠ .wake) :
    (r.react limit event).phase = r.phase ∧ (r.react limit event).whitelist = r.whitelist ∧
      (r.react limit event).fetches = r.fetches := by
  cases event with
  | tick => exact ⟨rfl, rfl, rfl⟩
  | fetchEnds result => cases phase : r.phase <;> simp [react, phase]
  | pauseEnds => cases phase : r.phase <;> simp [react, phase]
  | signal value => exact ⟨rfl, rfl, rfl⟩
  | dropSender => exact ⟨rfl, rfl, rfl⟩
  | wake => exact absurd rfl other

private theorem tickDue_react {event : RefreshEvent} (other : event ≠ .wake)
    (due : r.tickDue = true) :
    (r.react limit event).tickDue = true := by
  cases event with
  | tick => rfl
  | fetchEnds result => cases phase : r.phase <;> simp [react, phase, due]
  | pauseEnds => cases phase : r.phase <;> simp [react, phase, due]
  | signal value => exact due
  | dropSender => exact due
  | wake => exact absurd rfl other

/-- A result that has come in is that of the fetch in flight. -/
theorem fetched_react {event : RefreshEvent} {result : FetchResult} (other : event ≠ .wake)
    (pending : (r.react limit event).fetched = some result) :
    r.fetched = some result ∨
      event = .fetchEnds result ∧ ∃ attempt, r.phase = .fetching attempt := by
  cases event with
  | tick => exact .inl pending
  | fetchEnds ended =>
      cases phase : r.phase with
      | fetching attempt =>
          simp only [react, phase, Option.some.injEq] at pending
          exact .inr ⟨congrArg RefreshEvent.fetchEnds pending, attempt, rfl⟩
      | idle => exact .inl (by simpa only [react, phase] using pending)
      | pausing attempt => exact .inl (by simpa only [react, phase] using pending)
      | stopped => exact .inl (by simpa only [react, phase] using pending)
  | pauseEnds => exact .inl (by cases phase : r.phase <;> simpa only [react, phase] using pending)
  | signal value => exact .inl pending
  | dropSender => exact .inl pending
  | wake => exact absurd rfl other

/-! ## Where the whitelist changes -/

private theorem whitelist_wake_ne (changed : (r.wake limit).whitelist ≠ r.whitelist) :
    r.stop.isStop = false ∧ ∃ attempt whitelist, r.phase = .fetching attempt ∧
      r.fetched = some (.ok whitelist) ∧ (r.wake limit).whitelist = whitelist := by
  have wakes := r.wakes limit
  generalize r.wake limit = woken at wakes changed ⊢
  cases wakes with
  | stops => exact absurd rfl changed
  | begins => exact absurd rfl changed
  | succeeds noStop fetching fetched => exact ⟨noStop, _, _, fetching, fetched, rfl⟩
  | fails => exact absurd rfl changed
  | retries => exact absurd rfl changed
  | waits => exact absurd rfl changed

/-- A result that waits for a wake-up came in for the fetch that is still in flight. -/
theorem exists_fetchEnds (empty : r.fetched = none) {events : List RefreshEvent}
    {result : FetchResult} (pending : (r.run limit events).fetched = some result) :
    ∃ attempt before between, events = before ++ .fetchEnds result :: between ∧
      (r.run limit before).phase = .fetching attempt ∧
      (r.run limit events).phase = .fetching attempt ∧
      (r.run limit before).fetches = (r.run limit events).fetches := by
  induction events using List.reverseRecOn with
  | nil =>
      rw [run_nil, empty] at pending
      cases pending
  | append_singleton events event ih =>
      rw [run_append, run_cons, run_nil] at pending ⊢
      have extend (still : (r.run limit events).fetched = some result)
          (samePhase : ((r.run limit events).react limit event).phase = (r.run limit events).phase)
          (sameCount :
            ((r.run limit events).react limit event).fetches = (r.run limit events).fetches) :
          ∃ attempt before between, events ++ [event] = before ++ .fetchEnds result :: between ∧
            (r.run limit before).phase = .fetching attempt ∧
            ((r.run limit events).react limit event).phase = .fetching attempt ∧
            (r.run limit before).fetches = ((r.run limit events).react limit event).fetches := by
        obtain ⟨attempt, before, between, split, started, inFlight, count⟩ := ih still
        refine ⟨attempt, before, between ++ [event], ?_, started, ?_, ?_⟩
        · rw [split, List.append_assoc, List.cons_append]
        · rw [samePhase, inFlight]
        · rw [sameCount, count]
      by_cases isWake : event = .wake
      · subst isWake
        have wakes := (r.run limit events).wakes limit
        simp only [react] at pending extend ⊢
        generalize (r.run limit events).wake limit = woken at wakes pending extend ⊢
        cases wakes with
        | stops => cases pending
        | begins => cases pending
        | succeeds => cases pending
        | fails => cases pending
        | retries => cases pending
        | waits => exact extend pending rfl rfl
      · obtain ⟨samePhase, -, sameCount⟩ :=
          react_of_ne_wake limit (r := r.run limit events) isWake
        rcases fetched_react isWake pending with still | ⟨rfl, attempt, started⟩
        · exact extend still samePhase sameCount
        · exact ⟨attempt, events, [], rfl, started, samePhase.trans started, sameCount.symm⟩

/-! ## Behind a stop -/

/-- The refresher has ended, with this whitelist in force and after this many fetches. -/
structure HasEnded (whitelist : Whitelist) (fetches : Nat) (r : Refresher) : Prop where
  phase : r.phase = .stopped
  fetched : r.fetched = none
  whitelist_eq : r.whitelist = whitelist
  fetches_eq : r.fetches = fetches

private theorem hasEnded_wake (limit : UInt32) (stop : r.stop.isStop = true) :
    (r.wake limit).HasEnded r.whitelist r.fetches := by
  rw [wake_of_isStop limit stop]
  exact ⟨rfl, rfl, rfl, rfl⟩

theorem HasEnded.react {whitelist : Whitelist} {fetches : Nat} (ended : r.HasEnded whitelist fetches)
    (event : RefreshEvent) : (r.react limit event).HasEnded whitelist fetches := by
  cases event with
  | tick => exact ⟨ended.phase, ended.fetched, ended.whitelist_eq, ended.fetches_eq⟩
  | fetchEnds result => simpa only [Refresher.react, ended.phase] using ended
  | pauseEnds => simpa only [Refresher.react, ended.phase] using ended
  | signal value => exact ⟨ended.phase, ended.fetched, ended.whitelist_eq, ended.fetches_eq⟩
  | dropSender => exact ⟨ended.phase, ended.fetched, ended.whitelist_eq, ended.fetches_eq⟩
  | wake =>
      cases stop : r.stop.isStop with
      | true =>
          rw [Refresher.react, wake_of_isStop limit stop]
          exact ⟨rfl, rfl, ended.whitelist_eq, ended.fetches_eq⟩
      | false =>
          have waiting : r.IsWaiting := by simp only [IsWaiting, ended.phase]
          rwa [Refresher.react, wake_of_isWaiting limit stop waiting]

theorem HasEnded.run {whitelist : Whitelist} {fetches : Nat} (ended : r.HasEnded whitelist fetches)
    (events : List RefreshEvent) : (r.run limit events).HasEnded whitelist fetches := by
  induction events generalizing r with
  | nil => exact ended
  | cons event events ih => exact ih (ended.react event)

private theorem phase_wake_ne_stopped (running : r.phase ≠ .stopped)
    (noStop : r.stop.isStop = false) :
    (r.wake limit).phase ≠ .stopped := by
  have wakes := r.wakes limit
  generalize r.wake limit = woken at wakes ⊢
  cases wakes with
  | stops stop => exact absurd (stop.symm.trans noStop) (by decide)
  | begins => exact nofun
  | succeeds => exact nofun
  | @fails attempt =>
      by_cases again : attempt < limit
      · simp only [again, if_true, ne_eq, reduceCtorEq, not_false_eq_true]
      · simp only [again, if_false, ne_eq, reduceCtorEq, not_false_eq_true]
  | retries => exact nofun
  | waits => exact running

/-! ## Ticks -/

/-- A wake-up takes the tick that is due and begins a refresh. -/
structure TakesTick (limit : UInt32) (r : Refresher) : Prop where
  idle : r.phase = .idle
  noStop : r.stop.isStop = false
  begins : (r.wake limit).phase = .fetching 1
  fetches : (r.wake limit).fetches = r.fetches + 1

theorem takesTick (idle : r.phase = .idle) (due : r.tickDue = true)
    (noStop : r.stop.isStop = false) : r.TakesTick limit := by
  have woken : r.wake limit = fetch 1 { r with tickDue := false } := by
    simp only [wake_eq limit noStop, idle, due, if_true]
  exact ⟨idle, noStop, by rw [woken, fetch], by rw [woken, fetch]⟩

private theorem tickDue_wake (due : r.tickDue = true) :
    (r.wake limit).tickDue = true ∨ r.TakesTick limit := by
  have wakes := r.wakes limit
  generalize r.wake limit = woken at wakes ⊢
  cases wakes with
  | stops => exact .inl due
  | begins noStop idle _ => exact .inr (takesTick idle due noStop)
  | succeeds => exact .inl due
  | fails => exact .inl due
  | retries => exact .inl due
  | waits => exact .inl due

/-- A tick that is due stays so until a wake-up takes it. -/
theorem tickDue_run (due : r.tickDue = true) (events : List RefreshEvent) :
    (r.run limit events).tickDue = true ∨
      ∃ before rest, events = before ++ .wake :: rest ∧ (r.run limit before).TakesTick limit := by
  induction events generalizing r with
  | nil => exact .inl due
  | cons event events ih =>
      have later (stillDue : (r.react limit event).tickDue = true) :
          (r.run limit (event :: events)).tickDue = true ∨
            ∃ before rest, event :: events = before ++ .wake :: rest ∧
              (r.run limit before).TakesTick limit := by
        rcases ih stillDue with kept | ⟨before, rest, split, takes⟩
        · exact .inl kept
        · exact .inr ⟨event :: before, rest, by rw [split, List.cons_append], takes⟩
      by_cases isWake : event = .wake
      · subst isWake
        have woken : (r.wake limit).tickDue = true ∨ r.TakesTick limit := tickDue_wake due
        rcases woken with kept | takes
        · exact later kept
        · exact .inr ⟨[], events, rfl, takes⟩
      · exact later (tickDue_react isWake due)

/-! ## Signals that ask for no stop -/

private theorem react_signal_false (noStop : r.stop.isStop = false) :
    r.react limit (.signal false) = r := by
  rw [react, StopSignal.send_false noStop]

private theorem isWaiting_signal_false (waiting : r.IsWaiting) :
    (r.react limit (.signal false)).IsWaiting := by
  unfold IsWaiting at waiting ⊢
  exact waiting

/-! ## Result -/

/-- From any start and over any events. The whitelist changes only at a wake-up that finds no stop
and the list that the fetch in flight has brought. A wake-up that finds a stop ends the refresher:
nothing is fetched any more, the whitelist stays and a result that has come in is dropped. A signal
that asks for no stop changes nothing but the signal, and nothing at all if no stop was asked for;
the wake-up that it causes neither ends the refresher nor touches what it waits for. And a tick
that is due stays due until a wake-up begins a refresh for it, which the next one that finds the
refresher idle and no stop does. -/
theorem only_a_stop_ends_refreshes (limit : UInt32) (whitelist : Whitelist) (fetches : Nat)
    (stop : StopSignal) :
    let after := (start whitelist fetches stop).run limit
    (∀ earlier event, (after (earlier ++ [event])).whitelist ≠ (after earlier).whitelist →
      event = .wake ∧ (after earlier).stop.isStop = false ∧
        ∃ attempt fetched before between, (after earlier).phase = .fetching attempt ∧
          earlier = before ++ .fetchEnds (.ok fetched) :: between ∧
          (after before).phase = .fetching attempt ∧
          (after before).fetches = (after earlier).fetches ∧
          (after (earlier ++ [event])).whitelist = fetched) ∧
    (∀ earlier, (after (earlier ++ [.signal true])).stop.isStop = true ∧
      (after (earlier ++ [.dropSender])).stop.isStop = true) ∧
    (∀ earlier later, (after earlier).stop.isStop = true →
      (after (earlier ++ .wake :: later)).HasEnded (after earlier).whitelist
        (after earlier).fetches) ∧
    (∀ earlier,
      after (earlier ++ [.signal false]) =
          { after earlier with stop := (after earlier).stop.send false } ∧
        ((after earlier).stop.isStop = false →
          ∀ later, after (earlier ++ .signal false :: later) = after (earlier ++ later)) ∧
        ((after earlier).stop.senderGone = false →
          ((after earlier).phase ≠ .stopped →
            (after (earlier ++ [.signal false, .wake])).phase ≠ .stopped) ∧
          ((after earlier).IsWaiting →
            after (earlier ++ [.signal false, .wake]) = after (earlier ++ [.signal false])))) ∧
    ∀ earlier, (after (earlier ++ [.tick])).tickDue = true ∧
      ((after earlier).tickDue = true →
        ((after earlier).phase = .idle → (after earlier).stop.isStop = false →
          (after earlier).TakesTick limit) ∧
        ∀ later, (after (earlier ++ later)).tickDue = true ∨
          ∃ before rest, later = before ++ .wake :: rest ∧
            (after (earlier ++ before)).TakesTick limit) := by
  intro after
  have step (earlier : List RefreshEvent) (event : RefreshEvent) :
      after (earlier ++ [event]) = (after earlier).react limit event :=
    run_append limit _ earlier [event]
  have split (earlier later : List RefreshEvent) :
      after (earlier ++ later) = (after earlier).run limit later :=
    run_append limit _ earlier later
  refine ⟨?_, ?_, ?_, ?_, ?_⟩
  · intro earlier event changed
    rw [step] at changed ⊢
    by_cases isWake : event = .wake
    · subst isWake
      obtain ⟨noStop, attempt, fetched, inFlight, pending, now⟩ := whitelist_wake_ne changed
      obtain ⟨started, before, between, ended, began, still, count⟩ := exists_fetchEnds rfl pending
      obtain rfl : attempt = started := RefreshPhase.fetching.inj (inFlight.symm.trans still)
      exact ⟨rfl, noStop, attempt, fetched, before, between, inFlight, ended, began, count, now⟩
    · exact absurd (react_of_ne_wake limit isWake).2.1 changed
  · intro earlier
    rw [step, step]
    refine ⟨?_, Bool.or_true _⟩
    simp only [react, StopSignal.send, StopSignal.isStop]
    cases gone : (after earlier).stop.senderGone with
    | true => simp only [if_true, gone, Bool.or_true]
    | false => rfl
  · intro earlier later isStop
    rw [split, run_cons]
    exact (hasEnded_wake limit isStop).run later
  · intro earlier
    refine ⟨step _ _, ?_, ?_⟩
    · intro noStop later
      rw [split, split, run_cons, react_signal_false noStop]
    · intro sender
      have noStop : ((after earlier).react limit (.signal false)).stop.isStop = false :=
        StopSignal.isStop_send_false sender
      rw [split, run_cons, run_cons, run_nil, step]
      refine ⟨?_, ?_⟩
      · intro running
        exact phase_wake_ne_stopped (r := (after earlier).react limit (.signal false)) running noStop
      · intro waiting
        exact wake_of_isWaiting limit noStop (isWaiting_signal_false waiting)
  · intro earlier
    refine ⟨?_, ?_⟩
    · rw [step]
      rfl
    · intro due
      refine ⟨fun idle noStop => takesTick idle due noStop, ?_⟩
      intro later
      rcases tickDue_run due later with kept | ⟨before, rest, cut, takes⟩
      · exact .inl ((split earlier later).symm ▸ kept)
      · exact .inr ⟨before, rest, cut, (split earlier before).symm ▸ takes⟩

/-- A stop that is asked for just when a fetch has brought a list: the list is dropped, and neither
taking the request back nor a further tick starts the refresher again. Before that, a wake-up for
no stop leaves the fetch in flight. -/
theorem only_a_stop_ends_refreshes_beside_fetched_list :
    let after := (start .empty 1 .clear).run 3
    let fetched := Whitelist.ofList [.zero 32]
    let begun : List RefreshEvent := [.tick, .wake]
    let brought := begun ++ [.signal false, .wake, .fetchEnds (.ok fetched), .signal true]
    (after begun).stop.senderGone = false ∧ (after begun).IsWaiting ∧
      after (begun ++ [.signal false, .wake]) = after (begun ++ [.signal false]) ∧
      (after brought).stop.isStop = true ∧ (after brought).fetched = some (.ok fetched) ∧
      (after (brought ++ .wake :: [.signal false, .tick, .wake])).HasEnded .empty 2 := by
  intro after fetched begun brought
  obtain ⟨_, _, behindStop, falseSignal, _⟩ := only_a_stop_ends_refreshes 3 .empty 1 .clear
  have isWaiting : (after begun).IsWaiting := rfl
  have isStop : (after brought).stop.isStop = true := rfl
  obtain ⟨_, _, undisturbed⟩ := falseSignal begun
  obtain ⟨_, wakesForNothing⟩ := undisturbed rfl
  exact ⟨rfl, isWaiting, wakesForNothing isWaiting, isStop, rfl, behindStop brought _ isStop⟩

end Refresher

end UptimeIntake
