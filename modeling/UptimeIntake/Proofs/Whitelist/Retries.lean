import UptimeIntake.Proofs.Whitelist.Fetch
import UptimeIntake.Whitelist.Timeline

/-!
# Fetches and pauses

What a fetch with retries does from the first fetch to the last. It stops behind the first fetch
that succeeds or behind the last one allowed, it pauses between two fetches and nowhere else, and
its counter is never increased past the largest word.
-/

set_option autoImplicit false

namespace UptimeIntake

/-- Fetches with pauses between them. -/
def fetchesWithPauses (fetches : Nat) : List FetchAction :=
  (List.replicate fetches .fetch).intersperse .pause

theorem fetchesWithPauses_succ (fetches : Nat) :
    fetchesWithPauses (fetches + 2) = .fetch :: .pause :: fetchesWithPauses (fetches + 1) := by
  simp only [fetchesWithPauses, List.replicate_succ, List.intersperse]

theorem count_fetchesWithPauses (fetches : Nat) :
    (fetchesWithPauses fetches).count .fetch = fetches ∧
      (fetchesWithPauses fetches).count .pause = fetches - 1 := by
  match fetches with
  | 0 => exact ⟨rfl, rfl⟩
  | 1 => exact ⟨rfl, rfl⟩
  | fetches + 2 =>
      obtain ⟨others, pauses⟩ := count_fetchesWithPauses (fetches + 1)
      rw [fetchesWithPauses_succ]
      simp only [List.count_cons, others, pauses]
      exact ⟨rfl, rfl⟩

/-! ## The loop -/

/-- The run ends with fetch number `last`, behind fetches that all failed. -/
structure FetchRun.EndsWith (source : Nat → FetchResult) (last : Nat) (run : FetchRun) : Prop where
  result : run.result = source last
  trace : run.trace = fetchesWithPauses (last + 1)
  failed : ∀ n < last, ∃ e, source n = .error e

private theorem FetchRun.EndsWith.retry {source : Nat → FetchResult} {last : Nat} {later : FetchRun}
    {e : WhitelistError} (ends : later.EndsWith (onward source 1) last)
    (failed : source 0 = .error e) :
    FetchRun.EndsWith source (last + 1) ⟨later.result, .fetch :: .pause :: later.trace⟩ where
  result := by rw [ends.result, onward_apply, Nat.add_comm]
  trace := by rw [ends.trace, fetchesWithPauses_succ]
  failed n before := by
    cases n with
    | zero => exact ⟨e, failed⟩
    | succ n =>
        obtain ⟨error, laterFailed⟩ := ends.failed n (Nat.lt_of_succ_lt_succ before)
        rw [onward_apply, Nat.add_comm] at laterFailed
        exact ⟨error, laterFailed⟩

private theorem retryFrom_endsWith (source : Nat → FetchResult) (limit : UInt32) (further : Nat)
    {attempt : UInt32} (left : limit.toNat = attempt.toNat + further) (made : Nat) :
    ∃ last ≤ further, (retryFrom source limit attempt made).EndsWith (onward source made) last ∧
      (last < further → ∃ whitelist, onward source made last = .ok whitelist) := by
  induction further generalizing attempt made with
  | zero =>
      have last : ¬ attempt < limit := by rw [UInt32.lt_iff_toNat_lt]; omega
      refine ⟨0, Nat.le_refl 0, ⟨?_, ?_, fun _ before => by cases before⟩, fun before => by cases before⟩
      · rw [retryFrom, onward_apply, Nat.add_zero]
        cases source made with
        | ok whitelist => rfl
        | error e => simp only [last, dif_neg, not_false_eq_true]
      · rw [retryFrom]
        cases source made with
        | ok whitelist => rfl
        | error e =>
            simp only [last, dif_neg, not_false_eq_true]
            rfl
  | succ further ih =>
      have again : attempt < limit := by rw [UInt32.lt_iff_toNat_lt]; omega
      have next : limit.toNat = (attempt + 1).toNat + further := by
        rw [succ_toNat_of_lt again]
        omega
      have first : onward source made 0 = source made := by rw [onward_apply, Nat.add_zero]
      cases fetched : source made with
      | ok whitelist =>
          refine ⟨0, Nat.zero_le _, ⟨?_, ?_, fun _ before => by cases before⟩, fun _ => ⟨whitelist, ?_⟩⟩
          · rw [retryFrom, fetched, first, fetched]
          · rw [retryFrom, fetched]
            rfl
          · rw [first, fetched]
      | error e =>
          obtain ⟨last, within, ends, succeeds⟩ := ih next (made + 1)
          rw [← onward_onward] at ends succeeds
          have whole := ends.retry (first.trans fetched)
          refine ⟨last + 1, Nat.succ_le_succ within, ?_, fun before => ?_⟩
          · rw [retryFrom, fetched]
            simp only [again, dif_pos]
            exact whole
          · obtain ⟨whitelist, fetchedLater⟩ := succeeds (Nat.lt_of_succ_lt_succ before)
            rw [onward_apply, Nat.add_comm] at fetchedLater
            exact ⟨whitelist, fetchedLater⟩

/-! ## The counter -/

/-- Fetches as `retryFrom` does, but only as long as the counter can be increased. -/
def retryChecked? (source : Nat → FetchResult) (limit attempt : UInt32) (made : Nat) :
    Option FetchRun :=
  match source made with
  | .ok whitelist => some ⟨.ok whitelist, [.fetch]⟩
  | .error e =>
    if attempt < limit then
      if attempt.toNat + 1 < UInt32.size then
        (retryChecked? source limit (attempt + 1) (made + 1)).map fun later =>
          ⟨later.result, .fetch :: .pause :: later.trace⟩
      else none
    else some ⟨.error e, [.fetch]⟩
termination_by UInt32.size - attempt.toNat
decreasing_by
  next again _ =>
    rw [succ_toNat_of_lt again]
    omega

private theorem retryChecked?_eq (source : Nat → FetchResult) (limit attempt : UInt32)
    (made : Nat) :
    retryChecked? source limit attempt made = some (retryFrom source limit attempt made) := by
  fun_induction retryFrom source limit attempt made with
  | case1 attempt made whitelist fetched => rw [retryChecked?, fetched]
  | case2 attempt made e failed again later ih =>
      have small : attempt.toNat + 1 < UInt32.size :=
        Nat.lt_of_le_of_lt (UInt32.lt_iff_toNat_lt.1 again) limit.toNat_lt
      rw [retryChecked?, failed]
      simp only [again, small, if_true, ih, Option.map_some, later]
  | case3 attempt made e failed last =>
      rw [retryChecked?, failed]
      simp only [last, if_false]

/-! ## Whole runs -/

/-- The run is one of at most `tries` fetches: it stops behind the first that succeeds, and behind
the last if none does. -/
structure FetchRun.Retries (source : Nat → FetchResult) (tries : Nat) (run : FetchRun) : Prop where
  fetches_le : run.fetches ≤ tries
  success : ∀ n < tries, ∀ whitelist, source n = .ok whitelist →
    (∀ i < n, ∃ e, source i = .error e) →
      run.result = .ok whitelist ∧ run.fetches = n + 1
  failure : (∀ n < tries, ∃ e, source n = .error e) →
    run.result = source (tries - 1) ∧ run.fetches = tries
  trace : run.trace = fetchesWithPauses run.fetches

theorem FetchRun.EndsWith.fetches {source : Nat → FetchResult} {last : Nat} {run : FetchRun}
    (ends : run.EndsWith source last) : run.fetches = last + 1 := by
  rw [FetchRun.fetches, ends.trace, (count_fetchesWithPauses (last + 1)).1]

private theorem fetchWithRetries_retries (source : Nat → FetchResult) (attempts : UInt32) :
    (fetchWithRetries source attempts).Retries source (attemptLimit attempts) := by
  have positive : 1 ≤ attemptLimit attempts := Nat.le_max_right _ _
  obtain ⟨last, within, ends, succeeds⟩ :=
    retryFrom_endsWith source (max attempts 1) _ (toNat_attempts_eq_add attempts) 0
  rw [onward_zero] at ends succeeds
  rw [← fetchWithRetries] at ends
  refine ⟨?_, ?_, ?_, ?_⟩
  · rw [ends.fetches]
    omega
  · intro n inRange whitelist fetched failedBefore
    have isLast : last = n := by
      rcases Nat.lt_trichotomy last n with before | same | behind
      · obtain ⟨found, fetchedEarlier⟩ := succeeds (by omega)
        obtain ⟨e, failed⟩ := failedBefore last before
        rw [failed] at fetchedEarlier
        cases fetchedEarlier
      · exact same
      · obtain ⟨e, failed⟩ := ends.failed n behind
        rw [failed] at fetched
        cases fetched
    rw [ends.result, ends.fetches, isLast]
    exact ⟨fetched, rfl⟩
  · intro failed
    have isLast : last = attemptLimit attempts - 1 := by
      refine Nat.le_antisymm within (Nat.le_of_not_lt fun before => ?_)
      obtain ⟨found, fetched⟩ := succeeds before
      obtain ⟨e, failedToo⟩ := failed last (by omega)
      rw [failedToo] at fetched
      cases fetched
    rw [ends.result, ends.fetches, isLast]
    exact ⟨rfl, Nat.sub_add_cancel positive⟩
  · rw [ends.fetches, ends.trace]

/-! ## In time -/

namespace FetchRun

/-- How long the fetches of a run take that begins with number `made`. -/
def fetchTime (plan : RefreshPlan) (made : Nat) (run : FetchRun) : Nat :=
  (List.range run.fetches).foldr (fun i n => (plan.source (made + i)).duration + n) 0

theorem foldr_add (time : Nat → Nat) (numbers : List Nat) (rest : Nat) :
    numbers.foldr (fun i n => time i + n) rest =
      numbers.foldr (fun i n => time i + n) 0 + rest := by
  induction numbers with
  | nil => rw [List.foldr_nil, List.foldr_nil, Nat.zero_add]
  | cons i numbers ih => rw [List.foldr_cons, List.foldr_cons, ih, Nat.add_assoc]

theorem Retries.duration {source : Nat → FetchResult} {tries : Nat} {run : FetchRun}
    (retries : run.Retries source tries) (plan : RefreshPlan) (made : Nat) :
    run.duration plan made = run.fetchTime plan made + (run.fetches - 1) * plan.backoff := by
  have pauses : run.pauses = run.fetches - 1 := by
    rw [FetchRun.pauses, retries.trace, (count_fetchesWithPauses run.fetches).2]
  rw [FetchRun.duration, foldr_add, fetchTime, pauses]

end FetchRun

/-- Whatever a source answers, there are at most as many fetches as attempts are allowed, where none
count as one. The first that succeeds is the last and gives the result; if none does, the last one
gives it. A pause of the planned length lies between every two fetches and nowhere else, and the
counter does not overflow, however many attempts are allowed. -/
theorem fetched_until_first_success (source : Nat → FetchResult) (attempts : UInt32) :
    (fetchWithRetries source attempts).Retries source (attemptLimit attempts) ∧
      (∀ (plan : RefreshPlan) (made : Nat),
        (fetchWithRetries source attempts).duration plan made =
          (fetchWithRetries source attempts).fetchTime plan made +
            ((fetchWithRetries source attempts).fetches - 1) * plan.backoff) ∧
      retryChecked? source (max attempts 1) 1 0 = some (fetchWithRetries source attempts) := by
  have retries := fetchWithRetries_retries source attempts
  exact ⟨retries, retries.duration, retryChecked?_eq source (max attempts 1) 1 0⟩

example :
    (fetchWithRetries (fun n => if n < 2 then .error .notConfigured else .ok (.ofList []))
      4294967295).trace = [.fetch, .pause, .fetch, .pause, .fetch] := by
  cbv

end UptimeIntake
