import Mathlib.Algebra.Ring.Nat
import UptimeIntake.Proofs.Pipeline.Stages
import UptimeIntake.Proofs.Whitelist.Fetch

/-!
# The whitelist in force

A service that answers calls while its whitelist is refreshed, one refresh after the other. In
force is always the list that the latest refresh to succeed brought, whole, and calls are let in
by it, those too that come while a refresh is under way.
-/

set_option autoImplicit false

namespace UptimeIntake

/-! ## Registration -/

/-- A complete submission is turned away as not registered exactly if it is not let in. -/
theorem Pipeline.process_eq_notRegistered_iff {σ : Type} (p : Pipeline) {call : Call}
    (state : PipelineState σ) {s : Submission} (writes : Writes call.body s) (key : SubmitterKey) :
    (p.process call state).1 = .refused (.rejected (.notRegistered key)) ↔
      key = s.submitter ∧ ¬ p.LetsIn s.submitter := by
  constructor
  · intro refused
    obtain ⟨stage, fails, _⟩ := exists_failsFirst_of_refused refused
    cases fails with
    | registration writes' isOut =>
        obtain rfl := writes.unique writes'
        exact ⟨rfl, isOut⟩
  · rintro ⟨rfl, isOut⟩
    have outFirst : p.FailsFirst call state.attempts .registration
        (.rejected (.notRegistered s.submitter)) := by
      refine ⟨.registration writes isOut, passes_before writes _ ?_ ?_ ?_⟩
      · exact fun before => absurd before (by decide)
      · exact fun before => absurd before (by decide)
      · exact fun before => absurd before (by decide)
    cases outcome : (p.process call state).1 with
    | accepted report =>
        obtain ⟨t, writes', isIn, _⟩ := passes_of_accepted outcome
        obtain rfl := writes.unique writes'
        exact absurd isIn isOut
    | refused cause =>
        obtain ⟨_, failsFirst⟩ := exists_failsFirst_of_refused outcome
        rw [failsFirst.unique outFirst]

/-! ## The service -/

inductive ServiceEvent where
  | refreshBegins
  /-- A fetch or pause of the refresh under way ends, or the refresh does. -/
  | refreshGoesOn
  | request (call : Call)

inductive ServiceStep where
  /-- A refresh ended whose first fetch was number `begun`. -/
  | refreshed (begun : Nat) (answer : Except WhitelistError Nat)
  | answered (call : Call) (outcome : Outcome)
  deriving DecidableEq

structure RefreshedService (σ : Type) where
  whitelist : Whitelist
  /-- The fetches made by the refreshes that ended and before them. -/
  fetches : Nat
  /-- What the refresh under way has yet to do. -/
  ongoing : Option (List FetchAction)
  state : PipelineState σ
  history : List ServiceStep

namespace Pipeline

def withWhitelist (p : Pipeline) (whitelist : Whitelist) : Pipeline :=
  { p with whitelist := some whitelist }

end Pipeline

namespace RefreshedService

variable {σ : Type}

section Run

variable (p : Pipeline) (source : Nat → FetchResult) (attempts : UInt32)

def start (load : FetchRun) (loaded : Whitelist) (state : PipelineState σ) : RefreshedService σ where
  whitelist := loaded
  fetches := load.fetches
  ongoing := none
  state
  history := []

def upcoming (s : RefreshedService σ) : FetchRun :=
  fetchWithRetries (onward source s.fetches) attempts

def endRefresh (s : RefreshedService σ) : RefreshedService σ :=
  let (answer, whitelist) := refreshOnce (onward source s.fetches) attempts s.whitelist
  { s with
    whitelist
    fetches := s.fetches + (s.upcoming source attempts).fetches
    ongoing := none
    history := s.history ++ [.refreshed s.fetches answer] }

def answer (call : Call) (s : RefreshedService σ) : RefreshedService σ :=
  let (outcome, state) := (p.withWhitelist s.whitelist).process call s.state
  { s with state, history := s.history ++ [.answered call outcome] }

/-- There is one refresh at a time; the next begins when it has ended. -/
def step (s : RefreshedService σ) : ServiceEvent → RefreshedService σ
  | .refreshBegins =>
    match s.ongoing with
    | none => { s with ongoing := some (s.upcoming source attempts).trace }
    | some _ => s
  | .refreshGoesOn =>
    match s.ongoing with
    | none => s
    | some [] => s.endRefresh source attempts
    | some (_ :: rest) => { s with ongoing := some rest }
  | .request call => s.answer p call

def run (events : List ServiceEvent) (s : RefreshedService σ) : RefreshedService σ :=
  events.foldl (step p source attempts) s

end Run

/-! ## What a history tells -/

section History

variable (p : Pipeline) (source : Nat → FetchResult) (attempts : UInt32)

/-- What a step brought: the first list that its fetches brought, if any did. -/
def published? : ServiceStep → Option Whitelist
  | .refreshed begun _ => firstSuccess? (onward source begun) (attemptLimit attempts)
  | .answered _ _ => none

/-- The list of the latest refresh that succeeded, or the one loaded before all of them. -/
def latest (loaded : Whitelist) (history : List ServiceStep) : Whitelist :=
  (history.filterMap (published? source attempts)).getLastD loaded

def fetchesOf : ServiceStep → Nat
  | .refreshed begun _ => fetchesNeeded (onward source begun) (attemptLimit attempts)
  | .answered _ _ => 0

/-- How many fetches were made by the end of a history, with so many made before it. -/
def fetchesBy (first : Nat) (history : List ServiceStep) : Nat :=
  first + (history.map (fetchesOf source attempts)).sum

def Follows (σ : Type) (loaded : Whitelist) (first : Nat) (earlier : List ServiceStep) :
    ServiceStep → Prop
  | .refreshed begun answer =>
    begun = fetchesBy source attempts first earlier ∧
      match firstSuccess? (onward source begun) (attemptLimit attempts) with
      | some whitelist => answer = .ok whitelist.size
      | none => ∃ e, answer = .error e
  | .answered call outcome =>
    ∃ state : PipelineState σ,
      outcome = ((p.withWhitelist (latest source attempts loaded earlier)).process call state).1

end History

theorem latest_concat (source : Nat → FetchResult) (attempts : UInt32) (loaded : Whitelist)
    (history : List ServiceStep) (step : ServiceStep) :
    latest source attempts loaded (history ++ [step]) =
      (published? source attempts step).getD (latest source attempts loaded history) := by
  rw [latest, List.filterMap_append, List.filterMap_cons, List.filterMap_nil]
  cases published? source attempts step with
  | none => simp only [List.append_nil, Option.getD_none, latest]
  | some whitelist => simp only [List.getLastD_concat, Option.getD_some]

theorem fetchesBy_concat (source : Nat → FetchResult) (attempts : UInt32) (first : Nat)
    (history : List ServiceStep) (step : ServiceStep) :
    fetchesBy source attempts first (history ++ [step]) =
      fetchesBy source attempts first history + fetchesOf source attempts step := by
  simp only [fetchesBy, List.map_append, List.map_cons, List.map_nil, List.sum_append,
    List.sum_cons, List.sum_nil, Nat.add_assoc, Nat.add_zero]

/-! ## What every run keeps -/

variable {p : Pipeline} {source : Nat → FetchResult} {attempts : UInt32} {loaded : Whitelist}
  {first : Nat}

/-- In force is what the history tells and a fetch brought, the fetches are counted, and every
step follows from those before it. -/
structure Kept (p : Pipeline) (source : Nat → FetchResult) (attempts : UInt32) (loaded : Whitelist)
    (first : Nat) (s : RefreshedService σ) : Prop where
  whitelist_eq : s.whitelist = latest source attempts loaded s.history
  fetches_eq : s.fetches = fetchesBy source attempts first s.history
  brought : ∃ n < s.fetches, source n = .ok s.whitelist
  follows : ∀ earlier step later, s.history = earlier ++ step :: later →
    Follows p source attempts σ loaded first earlier step

theorem follows_concat {history : List ServiceStep} {step : ServiceStep}
    (follows : ∀ earlier other later, history = earlier ++ other :: later →
      Follows p source attempts σ loaded first earlier other)
    (next : Follows p source attempts σ loaded first history step) :
    ∀ earlier other later, history ++ [step] = earlier ++ other :: later →
      Follows p source attempts σ loaded first earlier other := by
  intro earlier other later split
  rcases List.eq_nil_or_concat later with rfl | ⟨rest, last, rfl⟩
  · obtain ⟨rfl, same⟩ := List.append_inj' split rfl
    cases same
    exact next
  · rw [List.concat_eq_append, ← List.cons_append, ← List.append_assoc] at split
    obtain ⟨front, _⟩ := List.append_inj' split rfl
    exact follows earlier other rest front

theorem Kept.endRefresh {s : RefreshedService σ} (kept : Kept p source attempts loaded first s) :
    Kept p source attempts loaded first (s.endRefresh source attempts) := by
  have made : (s.upcoming source attempts).fetches =
      fetchesNeeded (onward source s.fetches) (attemptLimit attempts) :=
    (fetchWithRetries_eq _ attempts).2
  cases outcome : firstSuccess? (onward source s.fetches) (attemptLimit attempts) with
  | some whitelist =>
      have refreshed := refreshOnce_of_some outcome s.whitelist
      obtain ⟨n, early, fetched⟩ := exists_fetch_of_firstSuccess? outcome
      rw [RefreshedService.endRefresh, refreshed, made]
      constructor
      · rw [latest_concat, published?, outcome, Option.getD_some]
      · rw [fetchesBy_concat, fetchesOf, ← kept.fetches_eq]
      · exact ⟨s.fetches + n, Nat.add_lt_add_left early _, fetched⟩
      · exact follows_concat kept.follows ⟨kept.fetches_eq, by rw [outcome]⟩
  | none =>
      obtain ⟨e, refreshed⟩ := refreshOnce_of_none outcome s.whitelist
      obtain ⟨n, early, fetched⟩ := kept.brought
      rw [RefreshedService.endRefresh, refreshed, made]
      constructor
      · rw [latest_concat, published?, outcome, Option.getD_none, kept.whitelist_eq]
      · rw [fetchesBy_concat, fetchesOf, ← kept.fetches_eq]
      · exact ⟨n, Nat.lt_add_right _ early, fetched⟩
      · refine follows_concat kept.follows ⟨kept.fetches_eq, ?_⟩
        rw [outcome]
        exact ⟨e, rfl⟩

theorem Kept.answer {s : RefreshedService σ} (kept : Kept p source attempts loaded first s)
    (call : Call) : Kept p source attempts loaded first (s.answer p call) := by
  have answered : s.answer p call = { s with
      state := ((p.withWhitelist s.whitelist).process call s.state).2
      history := s.history ++
        [.answered call ((p.withWhitelist s.whitelist).process call s.state).1] } := rfl
  rw [answered]
  constructor
  · rw [latest_concat, published?, Option.getD_none, kept.whitelist_eq]
  · rw [fetchesBy_concat, fetchesOf, Nat.add_zero, kept.fetches_eq]
  · exact kept.brought
  · refine follows_concat kept.follows ⟨s.state, ?_⟩
    rw [kept.whitelist_eq]

theorem Kept.step {s : RefreshedService σ} (kept : Kept p source attempts loaded first s)
    (event : ServiceEvent) :
    Kept p source attempts loaded first (s.step p source attempts event) := by
  cases event with
  | refreshBegins =>
      rw [RefreshedService.step]
      cases s.ongoing with
      | none => exact ⟨kept.whitelist_eq, kept.fetches_eq, kept.brought, kept.follows⟩
      | some left => exact kept
  | refreshGoesOn =>
      rw [RefreshedService.step]
      rcases s.ongoing with _ | _ | ⟨_, rest⟩
      · exact kept
      · exact kept.endRefresh
      · exact ⟨kept.whitelist_eq, kept.fetches_eq, kept.brought, kept.follows⟩
  | request call => exact kept.answer call

theorem Kept.run {s : RefreshedService σ} (kept : Kept p source attempts loaded first s)
    (events : List ServiceEvent) :
    Kept p source attempts loaded first (s.run p source attempts events) := by
  induction events generalizing s with
  | nil => exact kept
  | cons event events ih => exact ih (kept.step event)

private theorem kept_start {initialAttempts : UInt32}
    (isLoaded : (initialLoad source initialAttempts).result = .ok loaded)
    (state : PipelineState σ) :
    Kept p source attempts loaded (fetchesNeeded source (attemptLimit initialAttempts))
      (start (initialLoad source initialAttempts) loaded state) := by
  have made := (fetchWithRetries_eq source initialAttempts).2
  obtain ⟨n, early, fetched⟩ := exists_fetch_of_firstSuccess? (initialLoad_eq_ok isLoaded)
  constructor
  · rfl
  · exact made
  · exact ⟨n, Nat.lt_of_lt_of_eq early made.symm, fetched⟩
  · intro earlier step later split
    cases earlier <;> cases split

private theorem letsIn_withWhitelist {key : SubmitterKey} {whitelist : Whitelist}
    (enabled : p.config.whitelist.disabled = false) :
    (p.withWhitelist whitelist).LetsIn key ↔ key ∈ whitelist := by
  simp only [Pipeline.LetsIn, Pipeline.withWhitelist, enabled, Bool.false_eq_true, false_or,
    Option.some.injEq, exists_eq_left']

/-! ## Result -/

/-- Once the list was loaded, and however refreshes and requests fall together. In force is what
the latest refresh to succeed brought, or the load, and a fetch made so far brought it. The
refreshes follow each other through the fetches of the source; one that brings a list answers its
size, and one that fails answers an error and publishes nothing. A complete submission is answered
that its submitter is not registered exactly if the submitter is not on the list then in force.
With a file for source, the list in force is that of a document that was read, and not empty. -/
theorem latest_fetched_list_in_force (p : Pipeline) (source : Nat → FetchResult)
    (initialAttempts attempts : UInt32) {loaded : Whitelist}
    (isLoaded : (initialLoad source initialAttempts).result = .ok loaded)
    (state : PipelineState σ) (events : List ServiceEvent) :
    let first := fetchesNeeded source (attemptLimit initialAttempts)
    let inForce := latest source attempts loaded
    let s := (start (initialLoad source initialAttempts) loaded state).run p source attempts events
    firstSuccess? source (attemptLimit initialAttempts) = some loaded ∧
    s.whitelist = inForce s.history ∧
    (∃ n < s.fetches, source n = .ok s.whitelist) ∧
    (∀ earlier begun answer later, s.history = earlier ++ .refreshed begun answer :: later →
      begun = fetchesBy source attempts first earlier ∧
      (∀ whitelist, firstSuccess? (onward source begun) (attemptLimit attempts) = some whitelist →
        answer = .ok whitelist.size ∧ inForce (earlier ++ [.refreshed begun answer]) = whitelist) ∧
      (firstSuccess? (onward source begun) (attemptLimit attempts) = none →
        (∃ e, answer = .error e) ∧
          inForce (earlier ++ [.refreshed begun answer]) = inForce earlier)) ∧
    (∀ earlier call outcome later, s.history = earlier ++ .answered call outcome :: later →
      inForce (earlier ++ [.answered call outcome]) = inForce earlier ∧
      ∀ submission, p.config.whitelist.disabled = false → Pipeline.Writes call.body submission →
        ∀ key, outcome = .refused (.rejected (.notRegistered key)) ↔
          key = submission.submitter ∧ submission.submitter ∉ inForce earlier) ∧
    ∀ (disk : Nat → String → Option Bytes) (download : Nat → String → Option String) path,
      (∀ n, source n = WhitelistSource.fetch (disk n) (download n) (.file path)) →
      ∃ n < s.fetches, ∃ document, textAt (disk n) path = some document ∧
        s.whitelist.IsListOf document := by
  intro first inForce s
  have kept : Kept p source attempts loaded first s := (kept_start isLoaded state).run events
  refine ⟨initialLoad_eq_ok isLoaded, kept.whitelist_eq, kept.brought, ?_, ?_, ?_⟩
  · intro earlier begun answer later split
    obtain ⟨chained, verdict⟩ := kept.follows _ _ _ split
    refine ⟨chained, ?_, ?_⟩
    · intro whitelist brought
      rw [brought] at verdict
      refine ⟨verdict, (latest_concat ..).trans ?_⟩
      rw [published?, brought, Option.getD_some]
    · intro failed
      rw [failed] at verdict
      refine ⟨verdict, (latest_concat ..).trans ?_⟩
      rw [published?, failed, Option.getD_none]
  · intro earlier call outcome later split
    refine ⟨latest_concat .., ?_⟩
    intro submission enabled writes key
    obtain ⟨before, rfl⟩ := kept.follows _ _ _ split
    rw [Pipeline.process_eq_notRegistered_iff _ before writes key, letsIn_withWhitelist enabled]
  · intro disk download path isFile
    obtain ⟨n, early, fetched⟩ := kept.brought
    rw [isFile n] at fetched
    obtain ⟨document, found, isListOf⟩ := WhitelistSource.exists_document_of_fetch fetched
    exact ⟨n, early, document, found, isListOf⟩

/-- A file that is missing at first, lists one key, holds a web page for three fetches, and then
lists another key. -/
private def listingFile (n : Nat) (_ : String) : Option Bytes :=
  match n with
  | 0 => none
  | 1 => some (Text.Utf8.encode (Octets.zero 32).toHex)
  | 5 => some (Text.Utf8.encode (Octets.ofFn (n := 32) fun _ => 255).toHex)
  | _ => some (Text.Utf8.encode "<html>".toList)

set_option maxRecDepth 100000 in
/-- Two attempts for each refresh. The first refresh fails, the second brings the other key with
its second fetch; until then, and while it is under way, the submitter of the first list is let
in. -/
theorem latest_fetched_list_in_force_after_failures :
    let p : Pipeline := ⟨{ verifySignatureDisabled := true }, ⟨9, 10⟩, none, none⟩
    let source := fun n => WhitelistSource.fetch (listingFile n) (fun _ => none) (.file "w")
    let loaded := Whitelist.ofList [.zero 32]
    let now : Instant := ⟨0, 0, by decide, by decide, by decide⟩
    let call : Call := ⟨Pipeline.bareBody "1970-01-01T00:00:00Z", "", now, 0⟩
    let nothing : PipelineState Unit := ⟨.empty, []⟩
    let failing : List ServiceEvent :=
      [.refreshBegins, .refreshGoesOn, .refreshGoesOn, .refreshGoesOn, .refreshGoesOn]
    let succeeding : List ServiceEvent :=
      [.refreshBegins, .refreshGoesOn, .request call, .refreshGoesOn, .refreshGoesOn,
        .refreshGoesOn, .request call]
    let s := (start (initialLoad source 2) loaded nothing).run p source 2
      (.request call :: failing ++ succeeding)
    let e := WhitelistError.parse "no submitter keys in 1 entries"
    let earlier : List ServiceStep :=
      [.answered call (.accepted ⟨[]⟩), .refreshed 2 (.error e),
        .answered call (.accepted ⟨[]⟩), .refreshed 4 (.ok 1)]
    (initialLoad source 2).result = .ok loaded ∧
      s.history = earlier ++
        [.answered call (.refused (.rejected (.notRegistered (.zero 32))))] ∧
      s.fetches = 6 ∧ s.whitelist = latest source 2 loaded s.history ∧
      Octets.zero 32 ∉ latest source 2 loaded earlier ∧
      ∃ n < 6, ∃ document, textAt (listingFile n) "w" = some document ∧
        s.whitelist.IsListOf document := by
  intro p source loaded now call nothing failing succeeding s e earlier
  have isLoaded : (initialLoad source 2).result = .ok loaded := by decide +kernel
  obtain ⟨history, fetches⟩ : s.history = earlier ++
        [.answered call (.refused (.rejected (.notRegistered (.zero 32))))] ∧ s.fetches = 6 := by
    decide +kernel
  have accepted : ((Pipeline.unguarded {} ⟨1, 10⟩).process call nothing).1 = .accepted ⟨[]⟩ := by
    decide +kernel
  obtain ⟨submission, writes, _⟩ := Pipeline.passes_of_accepted accepted
  obtain ⟨_, inForce, _, _, answers, ofFile⟩ :=
    latest_fetched_list_in_force p source 2 2 isLoaded nothing
      (.request call :: failing ++ succeeding)
  obtain ⟨_, notRegistered⟩ := answers earlier call _ [] history
  obtain ⟨isSubmitter, isOut⟩ := (notRegistered submission rfl writes (.zero 32)).1 rfl
  refine ⟨isLoaded, history, fetches, inForce, isSubmitter ▸ isOut, ?_⟩
  rw [← fetches]
  exact ofFile listingFile (fun _ _ => none) "w" (fun _ => rfl)

end RefreshedService

end UptimeIntake
