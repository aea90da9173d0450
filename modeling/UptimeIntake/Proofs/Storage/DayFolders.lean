import UptimeIntake.Proofs.Storage.ObjectPlaces
import UptimeIntake.Proofs.Time.Gregorian

/-!
# The day and the second of a metadata path

Written times tell apart the seconds that a clock shows, so metadata of two submissions share a path
only if one submitter sent both in one such second. In the years of four digits the folder of a path
is the date of the day.
-/

set_option autoImplicit false

namespace UptimeIntake

open Text

/-! ## Written times -/

namespace Rfc3339

private theorem noSlash_write (t : Instant) : '/' ∉ write t :=
  fun member => absurd (isPlain_of_mem_write '/' member) (by decide)

private theorem date_prefix_write {t : Instant} {d : Calendar.Date}
    (falls : d.FallsOn (t.secs / 86400)) :
    date d <+: write t := by
  rw [Calendar.Date.fallsOn_iff_eq_ofDay.1 falls, write, List.append_assoc]
  exact List.prefix_append _ _

end Rfc3339

/-! ## Metadata paths -/

namespace StoragePaths

theorem metadata_eq_iff {t₁ t₂ : Instant} {h₁ h₂ : String} {k₁ k₂ : SubmitterKey} :
    (build t₁ h₁ k₁).metadata = (build t₂ h₂ k₂).metadata ↔ k₁ = k₂ ∧ t₁.SameSecond t₂ := by
  rw [← String.toList_inj, toList_metadata, toList_metadata, metadataPath_eq_iff,
    Rfc3339.writeString, Rfc3339.writeString, String.toList_inj, String.ofList_inj,
    Rfc3339.write_eq_iff, and_comm]

private theorem day_write {t : Instant} {date : Calendar.Date}
    (falls : date.FallsOn (t.secs / 86400))
    (first : 0 ≤ date.year) (last : date.year ≤ 9999) :
    day (Rfc3339.write t) = Rfc3339.date date := by
  have written := Calendar.Date.isWritten_date falls.isValid_and_toDay.1 first last
  have isFront := Rfc3339.date_prefix_write falls
  have cut : takeBytes? 10 (Rfc3339.write t) = some ((Rfc3339.write t).take 10) :=
    takeBytes?_eq Rfc3339.isPlain_of_mem_write
      (Nat.le_trans (by decide) (Rfc3339.length_write t).1)
  rw [day, cut, Option.getD_some, ← written.length]
  exact (List.prefix_iff_eq_take.1 isFront).symm

private theorem noSlash_submitterSuffix (submitter : SubmitterKey) :
    '/' ∉ submitterSuffix submitter := by
  intro member
  rw [submitterSuffix, List.cons_append, List.mem_cons, List.mem_append] at member
  obtain isMark | inHex | inEnding := member
  · cases isMark
  · exact absurd (Hex.isPlain_of_mem_encode inHex) (by decide)
  · exact absurd inEnding (by decide)

/-- Metadata paths tell the submitter and the second that a clock showed when a submission was
received, a leap second `:60` being one of its own, and nothing else. Each day has one date, and if
this lies in the years 0 to 9999, the folder below that of the submissions is this date as
`YYYY-MM-DD`. -/
theorem metadata_path_tells_second_submitter_and_day :
    (∀ (t₁ t₂ : Instant) (h₁ h₂ : String) (k₁ k₂ : SubmitterKey),
      (build t₁ h₁ k₁).metadata = (build t₂ h₂ k₂).metadata ↔ k₁ = k₂ ∧ t₁.SameSecond t₂) ∧
    ∀ (t : Instant) (hash : String) (submitter : SubmitterKey), ∃ date : Calendar.Date,
      (∀ other : Calendar.Date, other.FallsOn (t.secs / 86400) ↔ other = date) ∧
      (0 ≤ date.year → date.year ≤ 9999 → ∃ folder file,
        (build t hash submitter).metadata.toList = "submissions/".toList ++ folder ++ '/' :: file ∧
        date.IsWritten folder ∧ '/' ∉ file) := by
  refine ⟨fun _ _ _ _ _ _ => metadata_eq_iff, fun t hash submitter => ?_⟩
  refine ⟨.ofDay (t.secs / 86400), fun other => Calendar.Date.fallsOn_iff_eq_ofDay, ?_⟩
  intro first last
  have falls := Calendar.Date.fallsOn_ofDay (t.secs / 86400)
  refine ⟨_, Rfc3339.write t ++ submitterSuffix submitter, ?_,
    Calendar.Date.isWritten_date falls.isValid_and_toDay.1 first last, ?_⟩
  · rw [toList_metadata, Rfc3339.writeString, String.toList_ofList, metadataPath_eq,
      day_write falls first last]
    simp only [submissionsFolder, List.append_assoc, List.cons_append]
  · intro member
    cases List.mem_append.1 member with
    | inl inTime => exact Rfc3339.noSlash_write t inTime
    | inr inSuffix => exact noSlash_submitterSuffix submitter inSuffix

/-- A leap second of the year 0, which is a leap year. -/
theorem metadata_path_tells_second_submitter_and_day_in_year_zero :
    let t : Instant := ⟨-62162035201, 1500000000, by decide, by decide, by decide⟩
    (⟨0, 2, 29⟩ : Calendar.Date).FallsOn (t.secs / 86400) ∧ ∃ folder file,
      (build t "" (Octets.zero 32)).metadata.toList =
        "submissions/".toList ++ folder ++ '/' :: file ∧
      (⟨0, 2, 29⟩ : Calendar.Date).IsWritten folder ∧ '/' ∉ file := by
  intro t
  have falls : (⟨0, 2, 29⟩ : Calendar.Date).FallsOn (t.secs / 86400) :=
    Calendar.Date.fallsOn_iff_eq_ofDay.2 (by decide)
  obtain ⟨date, oneDate, written⟩ :=
    metadata_path_tells_second_submitter_and_day.2 t "" (Octets.zero 32)
  obtain rfl := (oneDate _).1 falls
  exact ⟨falls, written (by decide) (by decide)⟩

/-- A leap second inside a minute shares its path with the second that follows. -/
theorem metadata_path_joins_leap_in_minute :
    let t : Instant := ⟨1709287205, 1000000000, by decide, by decide, by decide⟩
    let u : Instant := ⟨1709287206, 0, by decide, by decide, by decide⟩
    (build t "" (Octets.zero 32)).metadata = (build u "" (Octets.zero 32)).metadata ∧
      Rfc3339.write t = "2024-03-01T10:00:06Z".toList ∧
      t.secs ≠ u.secs ∧ t.isLeapSecond ≠ u.isLeapSecond := by
  intro t u
  refine ⟨metadata_eq_iff.2 ⟨rfl, by decide⟩, by decide +kernel, by decide, by decide⟩

end StoragePaths

end UptimeIntake
