import UptimeIntake.Time.Ticker
import UptimeIntake.Whitelist.Fetch

/-!
# The refresher

The task that keeps the whitelist in step with its source, as a machine that is woken by events.
What happened since it last ran is kept until it runs again; at each wake-up it looks at the stop
signal first. A refresh that fails leaves the whitelist in place.
-/

set_option autoImplicit false

namespace UptimeIntake

/-- What the refresher waits for. -/
inductive RefreshPhase where
  /-- For the next tick. -/
  | idle
  /-- For the end of a fetch, which is attempt number `attempt` of a refresh. -/
  | fetching (attempt : UInt32)
  /-- For the end of the pause behind attempt number `attempt`. -/
  | pausing (attempt : UInt32)
  /-- For nothing: it has ended. -/
  | stopped
  deriving DecidableEq, Repr

/-- The refresher with what reached it since it last ran. -/
structure Refresher where
  phase : RefreshPhase
  whitelist : Whitelist
  fetches : Nat
  /-- A tick fell due and was not taken. -/
  tickDue : Bool
  fetched : Option FetchResult
  pauseOver : Bool
  stop : StopSignal

inductive RefreshEvent where
  | tick
  | fetchEnds (result : FetchResult)
  | pauseEnds
  | signal (value : Bool)
  | dropSender
  | wake

namespace Refresher

def start (whitelist : Whitelist) (fetches : Nat) (stop : StopSignal) : Refresher :=
  ⟨.idle, whitelist, fetches, false, none, false, stop⟩

def fetch (attempt : UInt32) (r : Refresher) : Refresher :=
  { r with phase := .fetching attempt, fetches := r.fetches + 1, fetched := none }

/-- Goes on behind a fetch that ended, with `limit` attempts for each refresh. -/
def afterFetch (limit attempt : UInt32) (result : FetchResult) (r : Refresher) : Refresher :=
  let r := { r with fetched := none, pauseOver := false }
  match result with
  | .ok whitelist => { r with phase := .idle, whitelist }
  | .error _ =>
    { r with phase := if attempt < limit then .pausing attempt else .idle }

/-- Runs the task once: stops if told to, else takes what it waits for. -/
def wake (limit : UInt32) (r : Refresher) : Refresher :=
  if r.stop.isStop then { r with phase := .stopped, fetched := none }
  else
    match r.phase with
    | .idle => if r.tickDue then fetch 1 { r with tickDue := false } else r
    | .fetching attempt =>
      match r.fetched with
      | some result => afterFetch limit attempt result r
      | none => r
    | .pausing attempt => if r.pauseOver then fetch (attempt + 1) r else r
    | .stopped => r

/-- What an event does. The end of a fetch or a pause that is not in flight does nothing. -/
def react (limit : UInt32) (r : Refresher) : RefreshEvent → Refresher
  | .tick => { r with tickDue := true }
  | .fetchEnds result =>
    match r.phase with
    | .fetching _ => { r with fetched := some result }
    | _ => r
  | .pauseEnds =>
    match r.phase with
    | .pausing _ => { r with pauseOver := true }
    | _ => r
  | .signal value => { r with stop := r.stop.send value }
  | .dropSender => { r with stop := r.stop.drop }
  | .wake => wake limit r

end Refresher

/-! ## The whitelist between refreshes -/

/-- Loads the whitelist at the start; without one there is no service. -/
def initialLoad (source : Nat → FetchResult) (attempts : UInt32) : FetchRun :=
  fetchWithRetries source attempts

/-- One refresh: the size of the new whitelist or the error, and the whitelist then in force. -/
def refreshOnce (source : Nat → FetchResult) (attempts : UInt32) (current : Whitelist) :
    Except WhitelistError Nat × Whitelist :=
  match (fetchWithRetries source attempts).result with
  | .ok whitelist => (.ok whitelist.size, whitelist)
  | .error e => (.error e, current)

end UptimeIntake
