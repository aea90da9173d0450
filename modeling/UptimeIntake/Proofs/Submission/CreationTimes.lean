import UptimeIntake.Proofs.Pipeline.Checks
import UptimeIntake.Proofs.Submission.SentTexts
import UptimeIntake.Proofs.Submission.Spellings
import UptimeIntake.Proofs.Time.LocalTimes

/-!
# Times of creation

However a client writes the instant at which a submission was created, the submission is signed and
kept with the UTC text of its second.
-/

set_option autoImplicit false

namespace UptimeIntake

open Json Text Json.Value

variable {r : Request} {data : RequestData} {d : SubmissionData} {t u : Instant} {body : Bytes}
  {s : String}

/-! ## Requests with a time of creation -/

namespace RequestData

/-- The members of the data with a text for the time of creation. -/
def valuesAt (data : RequestData) (s : String) : List (String × Value) :=
  { data with createdAt := none }.values ++ [("created_at", .ofText s.toList)]

private theorem nodup_valuesAt (data : RequestData) (s : String) :
    ((data.valuesAt s).map Prod.fst).Nodup := by
  have noTime : "created_at" ∉ ({ data with createdAt := none }.values).map Prod.fst := by
    simp [values, optionalMember]
  rw [valuesAt, List.map_append, List.nodup_append]
  refine ⟨nodup_values _, by simp, ?_⟩
  rintro name member _ isTime rfl
  rw [List.map_singleton, List.mem_singleton] at isTime
  rw [isTime] at member
  exact noTime member

private theorem exists_text_valuesAt (data : RequestData) (s : String) :
    ∀ n ∈ data.valuesAt s, ∃ text, Value.Written text n.2 := by
  rw [valuesAt, List.forall_mem_append, List.forall_mem_singleton]
  exact ⟨exists_text_values _, _, written_quote s.toList⟩

private theorem writtenAs_valuesAt (reads : Rfc3339.read? s.toList = some u) :
    { data with createdAt := some u }.WrittenAs (.object ((data.valuesAt s).map unnamed)) where
  isRecord := isRecord_object (data.nodup_valuesAt s)
  peerId := tells_optional (by simp [valuesAt, values]) fun s _ => isText_toList s
  block := tells_optional (by simp [valuesAt, values]) fun _ _ => isText_ofList _
  createdAt := tells_set (by simp [valuesAt]) ⟨s, isText_toList s, reads⟩
  snarkWork := tells_optional (by simp [valuesAt, values]) fun _ _ => isText_ofList _
  controlPort := tells_optional (by simp [valuesAt, values]) fun _ _ => rfl
  commitSha := tells_optional (by simp [valuesAt, values]) fun sha _ => isText_toList sha

end RequestData

/-- Whatever else a request holds, a text that is read as an instant can be sent for its time of
creation. -/
theorem Request.exists_sendsText (r : Request) (reads : Rfc3339.read? s.toList = some u) :
    ∃ body, SendsText body "created_at" s ∧
      decode? body = some { r with data := { r.data with createdAt := some u } } := by
  let sent : Request := { r with data := { r.data with createdAt := some u } }
  have isData : sent.data.WrittenAs (.object ((r.data.valuesAt s).map unnamed)) :=
    RequestData.writtenAs_valuesAt reads
  obtain ⟨_, dataWritten⟩ := exists_written_object (r.data.exists_text_valuesAt s)
  obtain ⟨text, written⟩ := sent.exists_written_valuesWith dataWritten
  have isSpelling : sent.IsSpelling text := ⟨_, written, writtenAs_valuesWith isData⟩
  refine ⟨Utf8.encode text, ⟨_, .object ((r.data.valuesAt s).map unnamed), written.read?, ?_, ?_⟩,
    isSpelling.decode?⟩
  · exact hasField_object_iff.2 (by simp [valuesWith])
  · exact textIn_object_iff.2 ⟨.ofText s.toList, by simp [RequestData.valuesAt],
      (isText_toList s).text?⟩

private theorem Request.createdAt_of_sendsText (decoded : decode? body = some r)
    (sends : SendsText body "created_at" s) (reads : Rfc3339.read? s.toList = some u) :
    r.data.createdAt = some u := by
  obtain ⟨field, isReadFrom, sendsIff⟩ := exists_fields_of_decode? decoded
  obtain ⟨w, isThere, isText⟩ := (sendsIff "created_at" (by decide) s).1 sends
  obtain ⟨y, isCreatedAt, isRead⟩ := exists_read_of_optional isReadFrom.createdAt isThere isText
  rw [isCreatedAt, ← isRead, reads]

/-! ## Documents -/

namespace SubmissionData

private theorem signPayload_of_sameSecond (same : d.createdAt.SameSecond t) :
    d.signPayload = { d with createdAt := t }.signPayload :=
  signPayload_eq_iff.2 ⟨rfl, rfl, same, rfl, rfl, rfl⟩

private theorem metadata_of_sameSecond (submitter : SubmitterKey) (remoteAddr blockHash : String)
    (same : d.createdAt.SameSecond t) :
    d.metadata submitter remoteAddr blockHash =
      { d with createdAt := t }.metadata submitter remoteAddr blockHash := by
  simp only [metadata, metaText, metaMembers, Rfc3339.write_eq_iff.2 same]
  rfl

theorem hasText_createdAt_iff :
    HasText d.signPayload "created_at" s ↔ s = Rfc3339.writeString d.createdAt := by
  rw [signPayload, hasText_iff d.written_signText]
  simp [signValues, snarkWorkValue, controlPortValue, commitValue, text?_ofText,
    Rfc3339.writeString, eq_comm]

end SubmissionData

/-- The body has a text for the second of the instant in the field for the time of creation. -/
def Request.SendsTime (body : Bytes) (t : Instant) : Prop :=
  ∃ stamp, Rfc3339.IsStamp t stamp ∧ SendsText body "created_at" (String.ofList stamp)

/-- Let an instant lie in the years 0 to 9999. Each text for its second, whatever the offset, the
separator and the fraction, is read as an instant in that second, and can be sent with any request.
All submissions that are sent with such a text have the sign payload and the metadata that the
instant itself would give, and the time in both is its UTC text `YYYY-MM-DDTHH:MM:SSZ`. -/
theorem created_at_is_signed_in_utc {t : Instant} {date : Calendar.Date}
    (falls : date.FallsOn (t.secs / 86400)) (first : 0 ≤ date.year) (last : date.year ≤ 9999) :
    Rfc3339.IsUtc t (Rfc3339.write t) ∧
    (∀ stamp, Rfc3339.IsStamp t stamp → ∃ u : Instant, u.SameSecond t ∧
      Rfc3339.read? stamp = some u ∧
      ∀ r : Request, ∃ body, Request.SendsText body "created_at" (String.ofList stamp) ∧
        Request.decode? body = some { r with data := { r.data with createdAt := some u } }) ∧
    ∀ body r, Request.SendsTime body t → Request.decode? body = some r →
      ∃ u : Instant, r.data.createdAt = some u ∧ u.SameSecond t ∧
        ∀ sub, r.submission? = some sub →
          sub.data.signPayload = { sub.data with createdAt := t }.signPayload ∧
          (∀ s, HasText sub.data.signPayload "created_at" s ↔ s = Rfc3339.writeString t) ∧
          ∀ submitter remoteAddr blockHash,
            sub.data.metadata submitter remoteAddr blockHash =
              { sub.data with createdAt := t }.metadata submitter remoteAddr blockHash ∧
            ∀ s, HasText (sub.data.metadata submitter remoteAddr blockHash) "created_at" s ↔
              s = Rfc3339.writeString t := by
  refine ⟨Rfc3339.isUtc_write falls first last, ?_, ?_⟩
  · intro stamp isStamp
    obtain ⟨u, sameSecond, reads⟩ := isStamp.exists_read?
    refine ⟨u, sameSecond, reads, fun r => r.exists_sendsText ?_⟩
    rwa [String.toList_ofList]
  · rintro body r ⟨stamp, isStamp, sends⟩ decoded
    obtain ⟨u, sameSecond, reads⟩ := isStamp.exists_read?
    rw [← String.toList_ofList (l := stamp)] at reads
    have isCreatedAt := Request.createdAt_of_sendsText decoded sends reads
    refine ⟨u, isCreatedAt, sameSecond, fun sub completed => ?_⟩
    have completes := Request.completes_of_submission? completed
    obtain rfl := Option.some.inj (isCreatedAt.symm.trans completes.createdAt)
    have signed := SubmissionData.signPayload_of_sameSecond sameSecond
    refine ⟨signed, fun s => ?_, fun submitter remoteAddr blockHash => ?_⟩
    · rw [signed]
      exact SubmissionData.hasText_createdAt_iff
    · have kept :=
        SubmissionData.metadata_of_sameSecond submitter remoteAddr blockHash sameSecond
      refine ⟨kept, fun s => ?_⟩
      rw [kept]
      exact SubmissionData.hasText_metadata_createdAt_iff

/-- A leap second that has a date of the year after it on the clock of the client. -/
theorem created_at_is_signed_in_utc_across_years :
    let t : Instant := ⟨1483228799, 1500000000, by decide, by decide, by decide⟩
    let stamp := "2017-01-01 08:59:60.1234567891+09:00".toList
    (⟨2016, 12, 31⟩ : Calendar.Date).FallsOn (t.secs / 86400) ∧ Rfc3339.IsStamp t stamp ∧
      ∃ body r sub, Request.SendsText body "created_at" (String.ofList stamp) ∧
        Request.decode? body = some r ∧ r.submission? = some sub ∧
        HasText sub.data.signPayload "created_at" "2016-12-31T23:59:60Z" := by
  intro t stamp
  have falls : (⟨2016, 12, 31⟩ : Calendar.Date).FallsOn (t.secs / 86400) :=
    Calendar.Date.fallsOn_iff_eq_ofDay.2 (by decide)
  have isField {width number : Nat} {text : List Char} (length : text.length = width)
      (digits : text.all Char.isDigit = true) (value : Decimal.value text = number) :
      Decimal.IsField width number text := ⟨length, List.all_eq_true.1 digits, value⟩
  have isTime : Rfc3339.IsClockTime t 32400 ' ' "2017-01-01 08:59:60".toList := by
    refine ⟨⟨2017, 1, 1⟩, "2017-01-01".toList, "08:59:60".toList, rfl,
      Calendar.Date.fallsOn_iff_eq_ofDay.2 (by decide), by decide, ?_, ?_⟩
    · exact Calendar.Date.isWritten_date (by decide) (by decide) (by decide)
    · exact ⟨"08".toList, "59".toList, "60".toList, rfl, isField rfl (by decide) (by decide),
        isField rfl (by decide) (by decide), isField rfl (by decide) (by decide)⟩
  have isFraction : Rfc3339.IsFraction ".1234567891".toList :=
    .inr ⟨"1234567891".toList, rfl, by decide, List.all_eq_true.1 (by decide)⟩
  have isOffset : Rfc3339.IsOffset 32400 ('+' :: ("09".toList ++ ':' :: "00".toList)) :=
    .signed (.inl ⟨rfl, by decide⟩) (by decide) (by decide) (isField rfl (by decide) (by decide))
      (isField rfl (by decide) (by decide))
  have isStamp : Rfc3339.IsStamp t stamp :=
    ⟨32400, ' ', _, _, _, rfl, by decide, isTime, isFraction, isOffset⟩
  obtain ⟨_, isSent, isSigned⟩ := created_at_is_signed_in_utc falls (by decide) (by decide)
  obtain ⟨u, _, _, exists_body⟩ := isSent stamp isStamp
  obtain ⟨body, sends, decoded⟩ := exists_body
    ⟨some (Octets.zero 32), some (Octets.zero 64), { RequestData.unset with
      peerId := some "peer", block := some [1] }⟩
  obtain ⟨_, _, _, signed⟩ := isSigned body _ ⟨stamp, isStamp, sends⟩ decoded
  obtain ⟨_, hasText, _⟩ := signed _ rfl
  exact ⟨falls, isStamp, body, _, _, sends, decoded, rfl, (hasText _).2 (by decide)⟩

end UptimeIntake
