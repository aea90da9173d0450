import UptimeIntake.Attempts.Table
import UptimeIntake.Time.Ticker

/-!
# The cleanup task

Drops idle submitters from the attempt table, at once and then at a fixed interval, until it is
told to stop. Time passes in steps of the caller; the moment of the attempts is given with it.
-/

set_option autoImplicit false

namespace UptimeIntake

/-- The table with its cleanup task. -/
structure CleanupTask where
  table : AttemptTable
  /-- The ticker, while the task runs. -/
  ticker : Option Ticker
  now : Nat
  stop : StopSignal
  deriving DecidableEq

namespace CleanupTask

def idle (table : AttemptTable) : CleanupTask := ⟨table, none, 0, .clear⟩

def isRunning (t : CleanupTask) : Bool := t.ticker.isSome

/-- Takes the ticks that fall due until `time`, `fuel` at most. -/
def tickUntil (window : Nat) (moment : Moment) (time : Nat) : Nat → CleanupTask → CleanupTask
  | 0, t => t
  | fuel + 1, t =>
    match t.ticker with
    | none => t
    | some ticker =>
      if ticker.due ≤ time then
        let now := max t.now ticker.due
        tickUntil window moment time fuel
          { t with
            table := t.table.cleanup window moment
            ticker := some (ticker.take now)
            now }
      else t

def pass (window : Nat) (moment : Moment) (duration : Nat) (t : CleanupTask) : CleanupTask :=
  let time := t.now + duration
  { tickUntil window moment time (duration + 1) t with now := time }

/-- Starts the task. Its first tick comes at once. -/
def start (window : Nat) (moment : Moment) (interval : Nat) (t : CleanupTask) : CleanupTask :=
  pass window moment 0 { t with ticker := Ticker.start? interval t.now .skip }

def heed (t : CleanupTask) : CleanupTask :=
  if t.stop.isStop then { t with ticker := none } else t

def signal (value : Bool) (t : CleanupTask) : CleanupTask :=
  heed { t with stop := t.stop.send value }

def dropSender (t : CleanupTask) : CleanupTask :=
  heed { t with stop := t.stop.drop }

end CleanupTask

end UptimeIntake
