import UptimeIntake.Proofs.Whitelist.Retries

/-!
# Refreshes beside the clock

The task that refreshes the whitelist makes its fetches and pauses one event at a time. Left alone,
a refresh does what a fetch with retries does: it has the same fetches, it lasts as long, with the
back-off for each pause, and it leaves the list that was brought, or the one before.
-/

set_option autoImplicit false

namespace UptimeIntake

namespace FetchRun

variable {plan : RefreshPlan} {number : Nat} {result : FetchResult}

private theorem duration_last :
    FetchRun.duration plan number ⟨result, [.fetch]⟩ = (plan.source number).duration := by
  simp [duration, fetches, pauses]

private theorem duration_retry (later : FetchRun) :
    FetchRun.duration plan number ⟨result, .fetch :: .pause :: later.trace⟩ =
      (plan.source number).duration + plan.backoff + later.duration plan (number + 1) := by
  have fetched : (⟨result, .fetch :: .pause :: later.trace⟩ : FetchRun).fetches =
      later.fetches + 1 := by
    simp [fetches]
  have paused : (⟨result, .fetch :: .pause :: later.trace⟩ : FetchRun).pauses =
      later.pauses + 1 := by
    simp [pauses]
  rw [duration, duration, fetched, paused, List.range_succ_eq_map, List.foldr_cons, List.foldr_map,
    foldr_add, foldr_add _ _ (later.pauses * plan.backoff), Nat.add_one_mul]
  simp only [Nat.succ_eq_add_one, Nat.add_zero, Nat.add_right_comm number 1, ← Nat.add_assoc]
  omega

end FetchRun

namespace RefreshTimeline

variable {plan : RefreshPlan} {t middle after : RefreshTimeline} {attempt : UInt32} {number : Nat}

/-! ## Events -/

/-- With `events` events, the timeline runs on to `after`. -/
def Reaches (plan : RefreshPlan) (events : Nat) (t after : RefreshTimeline) : Prop :=
  t.now ≤ after.now ∧ ∀ time fuel, after.now ≤ time →
    runUntil plan time (fuel + events) t = runUntil plan time fuel after

private theorem Reaches.trans {first second : Nat} (begins : t.Reaches plan first middle)
    (goesOn : middle.Reaches plan second after) : t.Reaches plan (first + second) after := by
  refine ⟨Nat.le_trans begins.1 goesOn.1, fun time fuel inTime => ?_⟩
  rw [Nat.add_comm first, ← Nat.add_assoc, begins.2 _ _ (Nat.le_trans goesOn.1 inTime),
    goesOn.2 _ _ inTime]

private theorem happen_now : (happen plan t).now = t.now := rfl

private theorem reaches_happen {due : Nat} (next : t.nextDue? = some due) (ahead : t.now ≤ due) :
    t.Reaches plan 1 (happen plan { t with now := due }) := by
  refine ⟨ahead, fun time fuel inTime => ?_⟩
  rw [happen_now] at inTime
  rw [runUntil, next]
  simp only [inTime, if_true]

/-! ## Refreshes -/

/-- The task makes fetch `number`, which ends at the timer, and was not told to stop. -/
structure IsFetching (plan : RefreshPlan) (attempt : UInt32) (number : Nat) (t : RefreshTimeline) :
    Prop where
  started : t.ticker.isSome = true
  running : t.refresher.stop.isStop = false
  phase : t.refresher.phase = .fetching attempt
  fetches : t.refresher.fetches = number + 1
  timer : t.timer = t.now + (plan.source number).duration

/-- What a run of fetches leaves behind that begins with fetch `number`. -/
structure Leaves (plan : RefreshPlan) (number : Nat) (run : FetchRun) (t after : RefreshTimeline) :
    Prop where
  now : after.now = t.now + run.duration plan number
  phase : after.refresher.phase = .idle
  whitelist : after.refresher.whitelist = run.result.toOption.getD t.refresher.whitelist
  fetches : after.refresher.fetches = number + run.fetches
  ticker : after.ticker = t.ticker
  stop : after.refresher.stop = t.refresher.stop

/-- The timeline behind the event that the timer was set for. -/
private def expire (plan : RefreshPlan) (t : RefreshTimeline) : RefreshTimeline :=
  happen plan { t with now := t.timer }

private theorem IsFetching.reaches_expire (fetching : t.IsFetching plan attempt number) :
    t.Reaches plan 1 (t.expire plan) := by
  obtain ⟨ticker, started⟩ := Option.isSome_iff_exists.1 fetching.started
  refine reaches_happen ?_ ?_
  · rw [nextDue?, started]
    simp only [fetching.phase]
  · rw [fetching.timer]
    exact Nat.le_add_right _ _

private theorem IsFetching.expire_ok (fetching : t.IsFetching plan attempt number)
    {whitelist : Whitelist} (fetched : (plan.source number).result = .ok whitelist) :
    t.expire plan = { t with
      now := t.timer
      refresher := { t.refresher with
        phase := .idle, whitelist, fetched := none, pauseOver := false } } := by
  simp [expire, happen, wake, Refresher.react, Refresher.wake, Refresher.afterFetch,
    fetching.phase, fetching.running, fetching.fetches, fetched]

private theorem IsFetching.expire_error (fetching : t.IsFetching plan attempt number)
    {e : WhitelistError} (failed : (plan.source number).result = .error e) :
    t.expire plan =
      if attempt < max plan.limit 1 then
        { t with
          now := t.timer
          timer := t.timer + plan.backoff
          refresher := { t.refresher with
            phase := .pausing attempt, fetched := none, pauseOver := false } }
      else
        { t with
          now := t.timer
          refresher := { t.refresher with
            phase := .idle, fetched := none, pauseOver := false } } := by
  by_cases again : attempt < max plan.limit 1 <;>
    simp [expire, happen, wake, Refresher.react, Refresher.wake, Refresher.afterFetch,
      fetching.phase, fetching.running, fetching.fetches, failed, again]

/-- A fetch that failed and is not the last one is followed by a pause and the next fetch. -/
private theorem IsFetching.retry (fetching : t.IsFetching plan attempt number) {e : WhitelistError}
    (failed : (plan.source number).result = .error e) (again : attempt < max plan.limit 1) :
    ∃ next, t.Reaches plan 2 next ∧ next.IsFetching plan (attempt + 1) (number + 1) ∧
      next.now = t.now + (plan.source number).duration + plan.backoff ∧
      next.refresher.whitelist = t.refresher.whitelist ∧ next.ticker = t.ticker ∧
      next.refresher.stop = t.refresher.stop := by
  obtain ⟨ticker, started⟩ := Option.isSome_iff_exists.1 fetching.started
  have paused := fetching.expire_error failed
  rw [if_pos again] at paused
  have pauses : (t.expire plan).Reaches plan 1 ((t.expire plan).expire plan) := by
    refine reaches_happen ?_ ?_
    · rw [paused, nextDue?]
      simp only [started]
    · rw [paused]
      exact Nat.le_add_right _ _
  have resumed : (t.expire plan).expire plan = { t with
      now := t.timer + plan.backoff
      timer := t.timer + plan.backoff + (plan.source (number + 1)).duration
      refresher := { t.refresher with
        phase := .fetching (attempt + 1), fetches := number + 2, fetched := none,
        pauseOver := true } } := by
    rw [paused]
    simp [expire, happen, wake, Refresher.react, Refresher.wake, Refresher.fetch,
      fetching.running, fetching.fetches]
  refine ⟨_, fetching.reaches_expire.trans pauses, ?_⟩
  rw [resumed]
  refine ⟨⟨fetching.started, fetching.running, rfl, rfl, rfl⟩, ?_, rfl, rfl, rfl⟩
  rw [← fetching.timer]

/-- The last fetch of a refresh, whatever it brought, is all that a run does from there. -/
private theorem IsFetching.last (fetching : t.IsFetching plan attempt number)
    (last : ∀ e, (plan.source number).result = .error e → ¬ attempt < max plan.limit 1) :
    t.Reaches plan 1 (t.expire plan) ∧
      Leaves plan number ⟨(plan.source number).result, [.fetch]⟩ t (t.expire plan) := by
  refine ⟨fetching.reaches_expire, ?_⟩
  cases brought : (plan.source number).result with
  | ok whitelist =>
      rw [fetching.expire_ok brought]
      refine ⟨?_, rfl, rfl, fetching.fetches, rfl, rfl⟩
      rw [FetchRun.duration_last, ← fetching.timer]
  | error e =>
      rw [fetching.expire_error brought, if_neg (last e brought)]
      refine ⟨?_, rfl, rfl, fetching.fetches, rfl, rfl⟩
      rw [FetchRun.duration_last, ← fetching.timer]

private theorem IsFetching.exists_leaves {made : Nat}
    (fetching : t.IsFetching plan attempt (number + made)) :
    ∃ after,
      t.Reaches plan (retryFrom (ahead plan number) (max plan.limit 1) attempt made).trace.length
        after ∧
      Leaves plan (number + made) (retryFrom (ahead plan number) (max plan.limit 1) attempt made) t
        after := by
  induction attempt, made using retryFrom.induct (ahead plan number) (max plan.limit 1)
      generalizing t with
  | case1 attempt made whitelist fetched =>
      rw [retryFrom, fetched]
      rw [ahead] at fetched
      have ended := fetching.last fun e failed => by rw [fetched] at failed; cases failed
      rw [fetched] at ended
      exact ⟨_, ended⟩
  | case2 attempt made e failed again ih =>
      rw [retryFrom, failed]
      simp only [again, dif_pos]
      obtain ⟨next, reached, fetchingNext, now, whitelist, ticker, stop⟩ :=
        fetching.retry failed again
      obtain ⟨after, reachedAfter, left⟩ := ih fetchingNext
      refine ⟨after, ?_, ?_, left.phase, ?_, ?_, ?_, ?_⟩
      · rw [List.length_cons, List.length_cons, Nat.add_assoc, Nat.add_comm]
        exact reached.trans reachedAfter
      · rw [left.now, now, FetchRun.duration_retry, ← Nat.add_assoc number]
        omega
      · rw [left.whitelist, whitelist]
      · rw [left.fetches, FetchRun.fetches, FetchRun.fetches, List.count_cons_self,
          List.count_cons_of_ne (by decide)]
        omega
      · rw [left.ticker, ticker]
      · rw [left.stop, stop]
  | case3 attempt made e failed last =>
      rw [retryFrom, failed]
      simp only [last, dif_neg, not_false_eq_true]
      rw [ahead] at failed
      have ended := fetching.last fun _ _ => last
      rw [failed] at ended
      exact ⟨_, ended⟩

/-- A refresh of the task does what a refresh outside it does that begins when the tick falls due,
or at once if it fell due before: it ends at the same time, with the same list in force and as many
fetches made, and the task waits for the next tick. -/
theorem exists_reaches_refresh {ticker : Ticker} (started : t.ticker = some ticker)
    (idle : t.refresher.phase = .idle) (running : t.refresher.stop.isStop = false) :
    let due := max t.now ticker.due
    let outside := (refresh plan { t with now := due }).2
    ∃ events after, t.Reaches plan events after ∧ after.now = outside.now ∧
      after.refresher.phase = .idle ∧
      after.refresher.whitelist = outside.refresher.whitelist ∧
      after.refresher.fetches = outside.refresher.fetches ∧
      after.refresher.stop = t.refresher.stop ∧ after.ticker = some (ticker.take due) := by
  intro due outside
  have next : t.nextDue? = some due := by
    rw [nextDue?, started]
    simp only [idle, due]
  have begun : happen plan { t with now := due } = { t with
      now := due
      timer := due + (plan.source t.refresher.fetches).duration
      ticker := some (ticker.take due)
      refresher := { t.refresher with
        phase := .fetching 1, fetches := t.refresher.fetches + 1, tickDue := false,
        fetched := none } } := by
    simp [happen, wake, Refresher.react, Refresher.wake, Refresher.fetch, idle, started, running]
  have begins : t.Reaches plan 1 _ := reaches_happen next (Nat.le_max_left _ _)
  have fetching : (happen plan { t with now := due }).IsFetching plan 1 (t.refresher.fetches + 0) := by
    rw [begun]
    exact ⟨rfl, running, rfl, rfl, rfl⟩
  obtain ⟨after, reached, left⟩ := fetching.exists_leaves
  rw [begun] at left
  refine ⟨_, after, begins.trans reached, left.now, left.phase, ?_, left.fetches, left.stop,
    left.ticker⟩
  rw [left.whitelist]
  simp only [outside, refresh, refreshOnce, fetchWithRetries]
  cases (retryFrom (ahead plan t.refresher.fetches) (max plan.limit 1) 1 0).result with
  | ok whitelist => rfl
  | error e => rfl

end RefreshTimeline

end UptimeIntake
