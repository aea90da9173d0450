import Mathlib.Data.List.Basic
import UptimeIntake.Whitelist.Refresher
import UptimeIntake.Whitelist.Source

/-!
# What fetches bring

A fetch with retries brings what the first of its attempts to succeed brings, and stops there.
From a file it brings the keys of a document that was read, and never an empty list.
-/

set_option autoImplicit false

namespace UptimeIntake

/-! ## Retries -/

def onward (source : Nat → FetchResult) (begun : Nat) : Nat → FetchResult :=
  fun n => source (begun + n)

/-- The list of the first fetch that succeeds, among so many. -/
def firstSuccess? (source : Nat → FetchResult) (tries : Nat) : Option Whitelist :=
  (List.range tries).findSome? fun n => (source n).toOption

/-- How many fetches it takes until one succeeds; all of them if none does. -/
def fetchesNeeded (source : Nat → FetchResult) (tries : Nat) : Nat :=
  min tries ((List.range tries).findIdx (fun n => (source n).toOption.isSome) + 1)

def attemptLimit (attempts : UInt32) : Nat :=
  max attempts.toNat 1

@[simp] theorem onward_apply (source : Nat → FetchResult) (begun n : Nat) :
    onward source begun n = source (begun + n) := rfl

theorem onward_zero (source : Nat → FetchResult) : onward source 0 = source := by
  funext n
  rw [onward_apply, Nat.zero_add]

theorem onward_onward (source : Nat → FetchResult) (begun further : Nat) :
    onward (onward source begun) further = onward source (begun + further) := by
  funext n
  simp only [onward_apply, Nat.add_assoc]

theorem firstSuccess?_succ (source : Nat → FetchResult) (tries : Nat) :
    firstSuccess? source (tries + 1) =
      (source 0).toOption.or (firstSuccess? (onward source 1) tries) := by
  rw [firstSuccess?, List.range_succ_eq_map, List.findSome?_cons, List.findSome?_map]
  have shifted : (fun n => (source n).toOption) ∘ Nat.succ =
      fun n => (onward source 1 n).toOption := by
    funext n
    rw [Function.comp_apply, onward_apply, Nat.add_comm]
  rw [shifted, firstSuccess?]
  cases (source 0).toOption <;> rfl

theorem fetchesNeeded_succ (source : Nat → FetchResult) (tries : Nat) :
    fetchesNeeded source (tries + 1) =
      if (source 0).toOption.isSome then 1 else fetchesNeeded (onward source 1) tries + 1 := by
  rw [fetchesNeeded, List.range_succ_eq_map, List.findIdx_cons, List.findIdx_map]
  have shifted : (fun n => (source n).toOption.isSome) ∘ Nat.succ =
      fun n => (onward source 1 n).toOption.isSome := by
    funext n
    rw [Function.comp_apply, onward_apply, Nat.add_comm]
  rw [shifted, fetchesNeeded]
  cases (source 0).toOption.isSome with
  | true => simp only [cond_true, if_true]; omega
  | false => simp only [cond_false, Bool.false_eq_true, if_false]; omega

private theorem retryFrom_eq (source : Nat → FetchResult) (limit : UInt32) (further : Nat)
    {attempt : UInt32} (left : limit.toNat = attempt.toNat + further) (made : Nat) :
    (retryFrom source limit attempt made).result.toOption =
        firstSuccess? (onward source made) (further + 1) ∧
      (retryFrom source limit attempt made).fetches =
        fetchesNeeded (onward source made) (further + 1) := by
  induction further generalizing attempt made with
  | zero =>
      have last : ¬ attempt < limit := by rw [UInt32.lt_iff_toNat_lt]; omega
      rw [retryFrom, firstSuccess?_succ, fetchesNeeded_succ, onward_apply, Nat.add_zero]
      cases source made with
      | ok whitelist => exact ⟨rfl, rfl⟩
      | error e =>
          simp only [last, dif_neg, not_false_eq_true]
          exact ⟨rfl, rfl⟩
  | succ further ih =>
      have again : attempt < limit := by rw [UInt32.lt_iff_toNat_lt]; omega
      have next : limit.toNat = (attempt + 1).toNat + further := by
        rw [succ_toNat_of_lt again]
        omega
      obtain ⟨result, fetches⟩ := ih next (made + 1)
      rw [retryFrom, firstSuccess?_succ, fetchesNeeded_succ, onward_apply, Nat.add_zero,
        onward_onward]
      cases source made with
      | ok whitelist => exact ⟨rfl, rfl⟩
      | error e =>
          simp only [again, dif_pos]
          refine ⟨result.trans (Option.none_or).symm, ?_⟩
          rw [FetchRun.fetches] at fetches ⊢
          simp only [List.count_cons, fetches]
          rfl

private theorem toNat_attempts (attempts : UInt32) :
    (max attempts 1).toNat = attemptLimit attempts := by
  have one : (1 : UInt32).toNat = 1 := rfl
  rw [attemptLimit, UInt32.toNat_max, one]

/-- Behind the first attempt there are so many more. -/
theorem toNat_attempts_eq_add (attempts : UInt32) :
    (max attempts 1).toNat = (1 : UInt32).toNat + (attemptLimit attempts - 1) := by
  rw [toNat_attempts]
  exact (Nat.add_sub_cancel' (Nat.le_max_right _ _)).symm

theorem fetchWithRetries_eq (source : Nat → FetchResult) (attempts : UInt32) :
    (fetchWithRetries source attempts).result.toOption =
        firstSuccess? source (attemptLimit attempts) ∧
      (fetchWithRetries source attempts).fetches =
        fetchesNeeded source (attemptLimit attempts) := by
  have positive : 1 ≤ attemptLimit attempts := Nat.le_max_right _ _
  have whole := retryFrom_eq source (max attempts 1) _ (toNat_attempts_eq_add attempts) 0
  rwa [onward_zero, Nat.sub_add_cancel positive] at whole

/-- A list that was brought was brought by one of the fetches made. -/
theorem exists_fetch_of_firstSuccess? {source : Nat → FetchResult} {tries : Nat}
    {whitelist : Whitelist} (brought : firstSuccess? source tries = some whitelist) :
    ∃ n < fetchesNeeded source tries, source n = .ok whitelist := by
  induction tries generalizing source with
  | zero => cases brought
  | succ tries ih =>
      rw [firstSuccess?_succ] at brought
      rw [fetchesNeeded_succ]
      cases first : source 0 with
      | ok found =>
          rw [first] at brought
          cases brought
          exact ⟨0, Nat.one_pos, first⟩
      | error e =>
          rw [first] at brought
          obtain ⟨n, made, fetched⟩ := ih brought
          refine ⟨1 + n, ?_, fetched⟩
          rw [Except.toOption, Option.isSome_none, if_neg Bool.false_ne_true, Nat.add_comm]
          exact Nat.succ_lt_succ made

theorem initialLoad_eq_ok {source : Nat → FetchResult} {attempts : UInt32} {whitelist : Whitelist}
    (isLoaded : (initialLoad source attempts).result = .ok whitelist) :
    firstSuccess? source (attemptLimit attempts) = some whitelist := by
  rw [← (fetchWithRetries_eq source attempts).1, ← initialLoad, isLoaded, Except.toOption]

/-- A refresh that brings a list answers its size and puts it in force. -/
theorem refreshOnce_of_some {source : Nat → FetchResult} {attempts : UInt32} {whitelist : Whitelist}
    (brought : firstSuccess? source (attemptLimit attempts) = some whitelist)
    (current : Whitelist) :
    refreshOnce source attempts current = (.ok whitelist.size, whitelist) := by
  rw [← (fetchWithRetries_eq source attempts).1] at brought
  unfold refreshOnce
  cases result : (fetchWithRetries source attempts).result with
  | ok found =>
      rw [result] at brought
      cases brought
      rfl
  | error e =>
      rw [result] at brought
      cases brought

theorem refreshOnce_of_none {source : Nat → FetchResult} {attempts : UInt32}
    (failed : firstSuccess? source (attemptLimit attempts) = none) (current : Whitelist) :
    ∃ e, refreshOnce source attempts current = (.error e, current) := by
  rw [← (fetchWithRetries_eq source attempts).1] at failed
  unfold refreshOnce
  cases result : (fetchWithRetries source attempts).result with
  | ok found =>
      rw [result] at failed
      cases failed
  | error e => exact ⟨e, rfl⟩

/-! ## Documents -/

namespace Whitelist

private theorem mem_insert {key other : SubmitterKey} {w : Whitelist} :
    key ∈ (w.insert other).keys ↔ key = other ∨ key ∈ w.keys := by
  unfold insert
  split
  · next isIn =>
      constructor
      · exact .inr
      · rintro (rfl | isOld)
        · exact isIn
        · exact isOld
  · exact List.mem_cons

theorem mem_ofList {key : SubmitterKey} {keys : List SubmitterKey} :
    key ∈ (ofList keys).keys ↔ key ∈ keys := by
  induction keys with
  | nil => exact Iff.rfl
  | cons other keys ih =>
      rw [List.mem_cons, ← ih]
      exact mem_insert

end Whitelist

/-- What a fetched list owes to the document it was read from. -/
structure Whitelist.IsListOf (whitelist : Whitelist) (document : String) : Prop where
  nonempty : whitelist.keys ≠ []
  mem_iff : ∀ key, key ∈ whitelist ↔ key ∈ WhitelistDocument.keys document.toList

theorem WhitelistDocument.isListOf_of_read {document : String} {whitelist : Whitelist}
    (accepted : read document = .ok whitelist) : whitelist.IsListOf document := by
  simp only [read] at accepted
  split at accepted
  · cases accepted
  · next found =>
      cases accepted
      have nonempty : WhitelistDocument.keys document.toList ≠ [] :=
        fun empty => found (List.isEmpty_iff.2 empty)
      obtain ⟨key, isIn⟩ := List.exists_mem_of_ne_nil _ nonempty
      refine ⟨?_, fun key => Whitelist.mem_ofList⟩
      exact List.ne_nil_of_mem (Whitelist.mem_ofList.2 isIn)

/-- What lies at a path, if it is text. -/
def textAt (contents : String → Option Bytes) (path : String) : Option String :=
  (contents path).bind Text.Utf8.decodeString

theorem WhitelistSource.exists_document_of_fetch {contents : String → Option Bytes}
    {download : String → Option String} {path : String} {whitelist : Whitelist}
    (fetched : fetch contents download (.file path) = .ok whitelist) :
    ∃ document, textAt contents path = some document ∧ whitelist.IsListOf document := by
  rw [fetch, ← textAt] at fetched
  cases found : textAt contents path with
  | none =>
      rw [found] at fetched
      cases fetched
  | some document =>
      rw [found] at fetched
      exact ⟨document, rfl, WhitelistDocument.isListOf_of_read fetched⟩

end UptimeIntake
