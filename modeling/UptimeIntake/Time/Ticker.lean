/-!
# Tickers

When a periodic task falls due. Times are milliseconds of a monotonic clock. A tick that is taken
more than the tolerance after it fell due was missed, and a policy says when the next one comes;
other ticks keep the schedule.
-/

set_option autoImplicit false

namespace UptimeIntake

/-- What follows a missed tick. -/
inductive MissedTick where
  /-- The next tick comes a full period after the late one was taken. -/
  | delay
  /-- The next tick is the next one of the schedule. -/
  | skip
  deriving DecidableEq, Repr

structure Ticker where
  period : Nat
  /-- When the next tick falls due. -/
  due : Nat
  /-- What follows a missed tick. -/
  policy : MissedTick
  deriving DecidableEq, Repr

namespace Ticker

/-- A tick taken at most this late was not missed. -/
def tolerance : Nat := 5

/-- A ticker whose first tick falls due at once; there is none with period zero. -/
def start? (period now : Nat) (policy : MissedTick) : Option Ticker :=
  if period = 0 then none else some ⟨period, now, policy⟩

/-- The ticker after its tick was taken at `now`. -/
def take (t : Ticker) (now : Nat) : Ticker :=
  if t.due + tolerance < now then
    match t.policy with
    | .delay => { t with due := now + t.period }
    | .skip => { t with due := now + t.period - (now - t.due) % t.period }
  else { t with due := t.due + t.period }

end Ticker

/-- The state of a stop signal as its receivers see it. -/
structure StopSignal where
  /-- The value sent last. -/
  requested : Bool
  senderGone : Bool
  deriving DecidableEq, Repr

namespace StopSignal

def clear : StopSignal := ⟨false, false⟩

/-- Sends a value, unless the sender is gone. -/
def send (s : StopSignal) (value : Bool) : StopSignal :=
  if s.senderGone then s else { s with requested := value }

def drop (s : StopSignal) : StopSignal :=
  { s with senderGone := true }

def isStop (s : StopSignal) : Bool :=
  s.requested || s.senderGone

end StopSignal

end UptimeIntake
