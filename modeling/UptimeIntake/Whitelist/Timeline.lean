import UptimeIntake.Whitelist.Refresher

/-!
# The refresher in time

A refresher beside a clock, with a source whose fetches take known times. Time passes in steps of
the caller, and whatever falls due in a step happens at its time and in order.
-/

set_option autoImplicit false

namespace UptimeIntake

/-- A fetch of known result and duration in milliseconds. -/
structure TimedFetch where
  duration : Nat
  result : FetchResult

structure RefreshPlan where
  /-- Milliseconds between ticks. -/
  interval : Nat
  /-- Attempts for each refresh, at least one. -/
  limit : UInt32
  /-- How long a pause between two fetches lasts, in milliseconds. -/
  backoff : Nat
  source : Nat → TimedFetch

/-- The duration of a run of fetches from number `made` on. -/
def FetchRun.duration (plan : RefreshPlan) (made : Nat) (r : FetchRun) : Nat :=
  (List.range r.fetches).foldr (fun i n => (plan.source (made + i)).duration + n)
    (r.pauses * plan.backoff)

/-- The clock, the refresher, and what runs on the clock. -/
structure RefreshTimeline where
  now : Nat
  refresher : Refresher
  /-- The ticker, once the task was started. -/
  ticker : Option Ticker
  /-- When the fetch or pause in flight ends. -/
  timer : Nat

namespace RefreshTimeline

/-- The fetches ahead, without their durations. -/
def ahead (plan : RefreshPlan) (made i : Nat) : FetchResult :=
  (plan.source (made + i)).result

/-- Loads the whitelist at the start: the first run of fetches, and the timeline behind it. -/
def load (plan : RefreshPlan) (attempts : UInt32) :
    FetchRun × Except WhitelistError RefreshTimeline :=
  let run := initialLoad (ahead plan 0) attempts
  let behind (whitelist : Whitelist) : RefreshTimeline :=
    ⟨run.duration plan 0, .start whitelist run.fetches .clear, none, 0⟩
  (run, run.result.map behind)

/-- One refresh outside the task. -/
def refresh (plan : RefreshPlan) (t : RefreshTimeline) :
    Except WhitelistError Nat × RefreshTimeline :=
  let made := t.refresher.fetches
  let run := fetchWithRetries (ahead plan made) plan.limit
  let (result, whitelist) := refreshOnce (ahead plan made) plan.limit t.refresher.whitelist
  (result,
    { t with
      now := t.now + run.duration plan made
      refresher := { t.refresher with whitelist, fetches := made + run.fetches } })

/-- The task was started and has not ended. -/
def isRunning (t : RefreshTimeline) : Bool :=
  t.ticker.isSome && t.refresher.phase != .stopped

/-- When the next event falls due. -/
def nextDue? (t : RefreshTimeline) : Option Nat :=
  match t.ticker with
  | none => none
  | some ticker =>
    match t.refresher.phase with
    | .idle => some (max t.now ticker.due)
    | .fetching _ | .pausing _ => some t.timer
    | .stopped => none

/-- Wakes the refresher and sets the timer of what it then waits for. -/
def wake (plan : RefreshPlan) (t : RefreshTimeline) : RefreshTimeline :=
  let refresher := t.refresher.wake (max plan.limit 1)
  let timer :=
    match refresher.phase with
    | .fetching _ => t.now + (plan.source (refresher.fetches - 1)).duration
    | .pausing _ => t.now + plan.backoff
    | .idle | .stopped => t.timer
  { t with refresher, timer }

/-- Lets the event happen that the refresher waits for, at the present time. -/
def happen (plan : RefreshPlan) (t : RefreshTimeline) : RefreshTimeline :=
  let event : RefreshEvent :=
    match t.refresher.phase with
    | .fetching _ => .fetchEnds (plan.source (t.refresher.fetches - 1)).result
    | .pausing _ => .pauseEnds
    | .idle | .stopped => .tick
  let ticker :=
    match t.refresher.phase with
    | .idle => t.ticker.map (·.take t.now)
    | .fetching _ | .pausing _ | .stopped => t.ticker
  wake plan { t with refresher := t.refresher.react (max plan.limit 1) event, ticker }

/-- Lets happen what falls due until `time`, `fuel` events at most. -/
def runUntil (plan : RefreshPlan) (time : Nat) : Nat → RefreshTimeline → RefreshTimeline
  | 0, t => t
  | fuel + 1, t =>
    match t.nextDue? with
    | some due =>
      if due ≤ time then runUntil plan time fuel (happen plan { t with now := due }) else t
    | none => t

/-- A bound on the events in `duration` milliseconds: in each period at most one refresh begins,
and it has a fetch and a pause for each attempt. -/
def eventBound (plan : RefreshPlan) (duration : Nat) : Nat :=
  (duration / max plan.interval 1 + 3) * (2 * plan.limit.toNat + 4)

def pass (plan : RefreshPlan) (duration : Nat) (t : RefreshTimeline) : RefreshTimeline :=
  let time := t.now + duration
  { runUntil plan time (eventBound plan duration) t with now := time }

/-- Starts the task. The tick that falls due at once is passed over, because the whitelist was
just loaded; without a period there is no task. -/
def run (plan : RefreshPlan) (t : RefreshTimeline) : RefreshTimeline :=
  wake plan { t with ticker := (Ticker.start? plan.interval t.now .delay).map (·.take t.now) }

def signal (plan : RefreshPlan) (value : Bool) (t : RefreshTimeline) : RefreshTimeline :=
  heed { t with refresher := t.refresher.react (max plan.limit 1) (.signal value) }
where
  /-- The task, if it was started, runs and looks at the signal. -/
  heed (t : RefreshTimeline) : RefreshTimeline :=
    if t.ticker.isSome && t.refresher.stop.isStop then wake plan t else t

def dropSender (plan : RefreshPlan) (t : RefreshTimeline) : RefreshTimeline :=
  signal.heed plan { t with refresher := t.refresher.react (max plan.limit 1) .dropSender }

end RefreshTimeline

end UptimeIntake
