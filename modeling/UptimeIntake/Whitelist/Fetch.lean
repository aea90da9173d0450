import UptimeIntake.Whitelist.Document

/-!
# Fetching with retries

A whitelist is fetched until a fetch succeeds or the attempts are used up; there is always one
attempt. Between two attempts comes a pause.
-/

set_option autoImplicit false

namespace UptimeIntake

abbrev FetchResult := Except WhitelistError Whitelist

/-- What a fetch with retries does, in order. -/
inductive FetchAction where
  | fetch
  | pause
  deriving DecidableEq, Repr

structure FetchRun where
  result : FetchResult
  /-- What was done, in order. -/
  trace : List FetchAction

namespace FetchRun

def fetches (r : FetchRun) : Nat := r.trace.count .fetch

def pauses (r : FetchRun) : Nat := r.trace.count .pause

end FetchRun

theorem succ_toNat_of_lt {a b : UInt32} (h : a < b) : (a + 1).toNat = a.toNat + 1 := by
  have ha := UInt32.lt_iff_toNat_lt.1 h
  have hb := b.toNat_lt
  rw [UInt32.toNat_add]
  exact Nat.mod_eq_of_lt (by simpa using (by omega : a.toNat + 1 < 4294967296))

/-- Fetches from attempt number `attempt` on. Fetch number `i` of the source ends as `source i`,
and `made` fetches were made before. -/
def retryFrom (source : Nat → FetchResult) (limit attempt : UInt32) (made : Nat) : FetchRun :=
  match source made with
  | .ok whitelist => ⟨.ok whitelist, [.fetch]⟩
  | .error e =>
    if h : attempt < limit then
      let later := retryFrom source limit (attempt + 1) (made + 1)
      ⟨later.result, .fetch :: .pause :: later.trace⟩
    else ⟨.error e, [.fetch]⟩
termination_by limit.toNat - attempt.toNat
decreasing_by
  have := UInt32.lt_iff_toNat_lt.1 h
  rw [succ_toNat_of_lt h]
  omega

/-- Fetches with at most `attempts` attempts, at least one. -/
def fetchWithRetries (source : Nat → FetchResult) (attempts : UInt32) : FetchRun :=
  retryFrom source (max attempts 1) 1 0

end UptimeIntake
