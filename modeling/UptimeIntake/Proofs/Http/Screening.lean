import Mathlib.Algebra.Ring.Nat
import Mathlib.Data.List.Basic
import UptimeIntake.Http.Service
import UptimeIntake.Proofs.Json.Quoting
import UptimeIntake.Proofs.Pipeline.Checks
import UptimeIntake.Proofs.Text.Decimal

/-!
# What reaches the pipeline

A posted submission goes through the pipeline if it declares a length that is allowed and its body
has that length, arrives whole and in time. Otherwise the first of these conditions that fails
decides the response, and nothing else happens.
-/

set_option autoImplicit false

namespace UptimeIntake

open Text

/-! ## Headers -/

namespace HttpRequest

variable {r : HttpRequest} {name : String} {value : Bytes}

/-- No header has that name, in any case of its letters. -/
def LacksHeader (r : HttpRequest) (name : String) : Prop :=
  ∀ header ∈ r.headers, lowerName header.1 ≠ name.toList

/-- The first header of that name has this value. -/
def HasFirst (r : HttpRequest) (name : String) (value : Bytes) : Prop :=
  ∃ before header after, r.headers = before ++ header :: after ∧
    (∀ earlier ∈ before, lowerName earlier.1 ≠ name.toList) ∧
    lowerName header.1 = name.toList ∧ header.2 = value

theorem header?_eq_none_iff : r.header? name = none ↔ r.LacksHeader name := by
  rw [header?, Option.map_eq_none_iff, List.find?_eq_none]
  simp only [LacksHeader, decide_eq_true_eq, ne_eq]

theorem header?_eq_some_iff : r.header? name = some value ↔ r.HasFirst name value := by
  simp only [header?, HasFirst, Option.map_eq_some_iff, List.find?_eq_some_iff_append,
    decide_eq_true_eq, Bool.not_eq_true', decide_eq_false_iff_not, ne_eq]
  constructor
  · rintro ⟨header, ⟨named, before, after, split, others⟩, isValue⟩
    exact ⟨before, header, after, split, others, named, isValue⟩
  · rintro ⟨before, header, after, split, others, named, isValue⟩
    exact ⟨header, ⟨named, before, after, split, others⟩, isValue⟩

end HttpRequest

/-- The header value is visible text that, between white space, writes the length as an unsigned
number of one word. -/
structure DeclaresLength (value : Bytes) (n : Nat) : Prop where
  isVisible : ∀ b ∈ value, HttpRequest.isVisible b = true
  isUnsigned : Decimal.IsUnsigned (trim (value.map fun b => Char.ofNat b.toNat)) n
  fits : n < UInt64.size

theorem readLength?_eq_some_iff {value : Bytes} {n : Nat} :
    ((HttpRequest.visible? value).bind fun cs => Decimal.unsigned? maxLength (trim cs)) = some n ↔
      DeclaresLength value n := by
  have bound : n ≤ maxLength ↔ n < UInt64.size := Nat.lt_succ_iff.symm
  rw [Option.bind_eq_some_iff]
  simp only [HttpRequest.visible?, Option.ite_none_right_eq_some, Option.some.injEq,
    List.all_eq_true, Decimal.unsigned?_eq_some_iff, bound]
  constructor
  · rintro ⟨_, ⟨visible, rfl⟩, isUnsigned, fits⟩
    exact ⟨visible, isUnsigned, fits⟩
  · rintro ⟨visible, isUnsigned, fits⟩
    exact ⟨_, ⟨visible, rfl⟩, isUnsigned, fits⟩

/-! ## Bodies -/

namespace BodyPart

def delay : BodyPart → Nat
  | chunk delay _ => delay
  | broken => 0

def bytes : BodyPart → Bytes
  | chunk _ bytes => bytes
  | broken => []

end BodyPart

/-- The parts make up this body, whole and in time. -/
structure Arrives (timeout : Nat) (parts : List BodyPart) (body : Bytes) : Prop where
  unbroken : BodyPart.broken ∉ parts
  inTime : (parts.map BodyPart.delay).sum ≤ timeout
  whole : parts.flatMap BodyPart.bytes = body

theorem readParts_eq_some_iff {length timeout passed : Nat} (isEarly : passed ≤ timeout)
    (seen : Bytes) (parts : List BodyPart) (body : Bytes) :
    readParts length timeout passed seen parts = some body ↔
      BodyPart.broken ∉ parts ∧ passed + (parts.map BodyPart.delay).sum ≤ timeout ∧
        seen ++ parts.flatMap BodyPart.bytes = body ∧ body.length = length := by
  induction parts generalizing passed seen with
  | nil =>
      simp only [readParts, Option.ite_none_right_eq_some, Option.some.injEq, List.not_mem_nil,
        not_false_eq_true, List.map_nil, List.sum_nil, Nat.add_zero, isEarly, List.flatMap_nil,
        List.append_nil, true_and]
      constructor
      · rintro ⟨isLength, rfl⟩
        exact ⟨rfl, isLength⟩
      · rintro ⟨rfl, isLength⟩
        exact ⟨isLength, rfl⟩
  | cons part rest ih =>
      cases part with
      | broken => simp [readParts]
      | chunk delay bytes =>
          simp only [readParts, List.mem_cons, reduceCtorEq, false_or, List.map_cons, List.sum_cons,
            BodyPart.delay, List.flatMap_cons, BodyPart.bytes]
          split
          · next late =>
              simp only [reduceCtorEq, false_iff, not_and]
              intro _ inTime
              omega
          · next inTime =>
              split
              · next long =>
                  simp only [reduceCtorEq, false_iff, not_and]
                  rintro _ _ rfl
                  simp only [List.length_append]
                  omega
              · rw [ih (Nat.not_lt.1 inTime), Nat.add_assoc, List.append_assoc]

theorem readBody?_eq_some_iff {length timeout : Nat} {parts : List BodyPart} {body : Bytes} :
    readBody? length timeout parts = some body ↔
      Arrives timeout parts body ∧ body.length = length := by
  rw [readBody?, readParts_eq_some_iff (Nat.zero_le timeout), Nat.zero_add, List.nil_append]
  constructor
  · rintro ⟨unbroken, inTime, whole, isLength⟩
    exact ⟨⟨unbroken, inTime, whole⟩, isLength⟩
  · rintro ⟨⟨unbroken, inTime, whole⟩, isLength⟩
    exact ⟨unbroken, inTime, whole, isLength⟩

/-! ## The order of the conditions -/

/-- What becomes of a posted submission before the pipeline: the body that passes, or the error of
the first condition that fails. -/
inductive Screened (limits : LimitsConfig) (r : HttpRequest) : Except SubmitError Bytes → Prop
  | undeclared (lacks : r.LacksHeader "content-length") :
      Screened limits r (.error .lengthRequired)
  | unreadable {value : Bytes} (first : r.HasFirst "content-length" value)
      (noLength : ∀ n, ¬ DeclaresLength value n) :
      Screened limits r (.error .invalidContentLength)
  | tooLarge {value : Bytes} {n : Nat} (first : r.HasFirst "content-length" value)
      (declares : DeclaresLength value n) (large : limits.maxPayloadSize.toNat < n) :
      Screened limits r (.error (.payloadTooLarge n limits.maxPayloadSize.toNat))
  | unread {value : Bytes} {n : Nat} (first : r.HasFirst "content-length" value)
      (declares : DeclaresLength value n) (allowed : n ≤ limits.maxPayloadSize.toNat)
      (noBody : ∀ body, Arrives limits.bodyReadTimeout r.body body → body.length ≠ n) :
      Screened limits r (.error .bodyRead)
  | passes {value : Bytes} {n : Nat} {body : Bytes} (first : r.HasFirst "content-length" value)
      (declares : DeclaresLength value n) (allowed : n ≤ limits.maxPayloadSize.toNat)
      (arrives : Arrives limits.bodyReadTimeout r.body body) (isLength : body.length = n) :
      Screened limits r (.ok body)

variable {limits : LimitsConfig} {r : HttpRequest} {verdict : Except SubmitError Bytes}

private theorem declaredLength_of_lacks (max : Nat) (lacks : r.LacksHeader "content-length") :
    declaredLength max r = .error .lengthRequired := by
  rw [declaredLength, HttpRequest.header?_eq_none_iff.2 lacks]

private theorem declaredLength_of_unreadable {value : Bytes} (max : Nat)
    (first : r.HasFirst "content-length" value) (noLength : ∀ n, ¬ DeclaresLength value n) :
    declaredLength max r = .error .invalidContentLength := by
  have unread : ((HttpRequest.visible? value).bind fun cs =>
      Decimal.unsigned? maxLength (trim cs)) = none :=
    Option.eq_none_iff_forall_ne_some.2 fun n read => noLength n (readLength?_eq_some_iff.1 read)
  simp only [declaredLength, HttpRequest.header?_eq_some_iff.2 first, unread]

theorem declaredLength_of_declares {value : Bytes} {n : Nat} (max : Nat)
    (first : r.HasFirst "content-length" value) (declares : DeclaresLength value n) :
    declaredLength max r = if max < n then .error (.payloadTooLarge n max) else .ok n := by
  simp only [declaredLength, HttpRequest.header?_eq_some_iff.2 first,
    readLength?_eq_some_iff.2 declares]

theorem Screened.bodyOf_eq (screened : Screened limits r verdict) : bodyOf limits r = verdict := by
  unfold bodyOf
  cases screened with
  | undeclared lacks => rw [declaredLength_of_lacks _ lacks]
  | unreadable first noLength => rw [declaredLength_of_unreadable _ first noLength]
  | tooLarge first declares large => rw [declaredLength_of_declares _ first declares, if_pos large]
  | unread first declares allowed noBody =>
      rw [declaredLength_of_declares _ first declares, if_neg (Nat.not_lt.2 allowed)]
      dsimp only
      cases read : readBody? _ limits.bodyReadTimeout r.body with
      | none => rfl
      | some body =>
          obtain ⟨arrives, isLength⟩ := readBody?_eq_some_iff.1 read
          exact absurd isLength (noBody body arrives)
  | passes first declares allowed arrives isLength =>
      rw [declaredLength_of_declares _ first declares, if_neg (Nat.not_lt.2 allowed)]
      dsimp only
      rw [readBody?_eq_some_iff.2 ⟨arrives, isLength⟩]

private theorem screened_bodyOf (limits : LimitsConfig) (r : HttpRequest) :
    Screened limits r (bodyOf limits r) := by
  cases found : r.header? "content-length" with
  | none =>
      have screened : Screened limits r _ := .undeclared (HttpRequest.header?_eq_none_iff.1 found)
      rwa [screened.bodyOf_eq]
  | some value =>
      have first := HttpRequest.header?_eq_some_iff.1 found
      by_cases readable : ∃ n, DeclaresLength value n
      · obtain ⟨n, declares⟩ := readable
        rcases Nat.lt_or_ge limits.maxPayloadSize.toNat n with large | allowed
        · have screened : Screened limits r _ := .tooLarge first declares large
          rwa [screened.bodyOf_eq]
        · by_cases complete : ∃ body, Arrives limits.bodyReadTimeout r.body body ∧ body.length = n
          · obtain ⟨body, arrives, isLength⟩ := complete
            have screened : Screened limits r _ := .passes first declares allowed arrives isLength
            rwa [screened.bodyOf_eq]
          · have screened : Screened limits r _ := .unread first declares allowed
              fun body arrives isLength => complete ⟨body, arrives, isLength⟩
            rwa [screened.bodyOf_eq]
      · have screened : Screened limits r _ := .unreadable first fun n declares =>
          readable ⟨n, declares⟩
        rwa [screened.bodyOf_eq]

theorem bodyOf_eq_iff : bodyOf limits r = verdict ↔ Screened limits r verdict :=
  ⟨fun isVerdict => isVerdict ▸ screened_bodyOf limits r, Screened.bodyOf_eq⟩

/-! ## What a caller is told -/

namespace SubmitError

/-- The status and the text that tell a caller of an error. -/
inductive Told : SubmitError → Nat → String → Prop
  | lengthRequired : Told .lengthRequired 411 "Content-Length required"
  | invalidContentLength : Told .invalidContentLength 400 "Invalid Content-Length"
  | payloadTooLarge (size max : Nat) : Told (.payloadTooLarge size max) 413
      ("Payload too large: " ++ toString size ++ " bytes (max: " ++ toString max ++ ")")
  | bodyRead : Told .bodyRead 400 "Error reading the body"
  | decode : Told .decode 400 "Error decoding payload"
  | missingFields : Told .missingFields 400 "One of required fields wasn't provided"
  | notRegistered (key : SubmitterKey) : Told (.notRegistered key) 401
      ("Submitter is not registered: " ++ key.toHexString)
  | futureTimestamp : Told .futureTimestamp 400 "Field created_at is a timestamp in future"
  | invalidSignature : Told .invalidSignature 401 "Invalid signature"
  | rateLimited : Told .rateLimited 429 "Too many requests per hour"
  | internal (detail : String) : Told (.internal detail) 500 "Unexpected server error"

theorem told_iff {e : SubmitError} {status : Nat} {message : String} :
    e.Told status message ↔ status = e.status ∧ message = e.publicMessage := by
  constructor
  · intro told
    cases told <;> exact ⟨rfl, rfl⟩
  · rintro ⟨rfl, rfl⟩
    cases e <;> constructor

theorem told (e : SubmitError) : e.Told e.status e.publicMessage :=
  told_iff.2 ⟨rfl, rfl⟩

/-- No character of a message needs an escape in JSON. -/
theorem Told.escapeChar_eq {e : SubmitError} {status : Nat} {message : String}
    (told : e.Told status message) : ∀ c ∈ message.toList, Json.Text.escapeChar c = [c] := by
  cases told with
  | payloadTooLarge size max =>
      have digits (n : Nat) : ∀ c ∈ (toString n).toList, Json.Text.escapeChar c = [c] := by
        intro c member
        have isText : (toString n).toList = Decimal.digits n := String.toList_ofList
        rw [isText] at member
        exact Json.Text.escapeChar_of_isDigit (Decimal.isDigit_of_mem_digits member)
      simp only [String.toList_append, List.forall_mem_append]
      refine ⟨⟨⟨⟨?_, digits size⟩, ?_⟩, digits max⟩, ?_⟩ <;>
        exact Json.Text.escapeChar_of_all (by decide)
  | notRegistered key =>
      simp only [String.toList_append, List.forall_mem_append]
      refine ⟨Json.Text.escapeChar_of_all (by decide), fun c member => ?_⟩
      rw [Octets.toHexString, Text.Hex.encodeString, String.toList_ofList] at member
      exact Json.Text.escapeChar_of_mem_hex member
  | lengthRequired | invalidContentLength | bodyRead | decode | missingFields | futureTimestamp
  | invalidSignature | rateLimited | internal => exact Json.Text.escapeChar_of_all (by decide)

end SubmitError

/-- A refusal as it is sent, with the text in a JSON object. -/
theorem HttpResponse.ofError_eq (e : SubmitError) :
    ofError e = ⟨e.status, some "application/json", none,
      "\x7b\"error\":\"" ++ e.publicMessage ++ "\"\x7d"⟩ := by
  have body : memberText "error" e.publicMessage =
      "\x7b\"error\":\"" ++ e.publicMessage ++ "\"\x7d" := by
    rw [memberText, Json.Text.quoteString_eq e.told.escapeChar_eq,
      Json.Text.quoteString_eq (Json.Text.escapeChar_of_all (by decide)), ← String.toList_inj]
    simp only [String.toList_ofList, String.toList_append]
    simp
  rw [ofError, member, body]
  rfl

/-! ## The response -/

structure HttpRequest.IsSubmission (r : HttpRequest) : Prop where
  method : r.method = "POST"
  path : r.path = "/v1/submit".toList

theorem Reception.ofRequest_submission (isReady : Bool) (posted : r.IsSubmission) :
    ofRequest limits isReady r =
      match bodyOf limits r with
      | .error e => .answered (.ofError e)
      | .ok body => .submitted body r.remoteAddr := by
  have route : Route.ofPath? "/v1/submit".toList = some .submission := by decide
  have allowed : Route.submission.methods.contains "POST" = true := by decide
  simp only [ofRequest, posted.path, route, posted.method, allowed, if_true, onRoute]
  cases bodyOf limits r with
  | error e => rfl
  | ok body => rfl

theorem Reception.ofRequest_eq_submitted_iff {isReady : Bool} (posted : r.IsSubmission)
    {body : Bytes} {remoteAddr : String} :
    ofRequest limits isReady r = .submitted body remoteAddr ↔
      Screened limits r (.ok body) ∧ remoteAddr = r.remoteAddr := by
  rw [ofRequest_submission isReady posted, ← bodyOf_eq_iff]
  cases bodyOf limits r with
  | error e => simp
  | ok found => simp [eq_comm]

private theorem Pipeline.handle_of_error {σ : Type} {p : Pipeline} {e : SubmitError}
    (isReady : Bool)
    (now : Instant) (moment : Moment) (posted : r.IsSubmission)
    (screened : Screened p.config.limits r (.error e)) (state : PipelineState σ) :
    p.handle isReady now moment r state = (some (.ofError e), state) := by
  rw [handle, Reception.ofRequest_submission isReady posted, screened.bodyOf_eq]

private theorem Pipeline.handle_of_passes {σ : Type} {p : Pipeline} {body : Bytes} (isReady : Bool)
    (now : Instant) (moment : Moment) (posted : r.IsSubmission)
    (screened : Screened p.config.limits r (.ok body)) (state : PipelineState σ) :
    let processed := p.process ⟨body, r.remoteAddr, now, moment⟩ state
    p.handle isReady now moment r state = (processed.1.response?, processed.2) := by
  rw [handle, Reception.ofRequest_submission isReady posted, screened.bodyOf_eq]

/-- The pipeline gets the body of a posted submission exactly if its length is declared, allowed
and kept to and it arrives whole and in time. The caller is told what came of it: that it was
accepted, or the error. Otherwise it is told the first condition that failed, and neither the
attempts nor the destinations change. -/
theorem screening_decides_what_reaches_pipeline {σ : Type} (p : Pipeline) (isReady : Bool)
    (now : Instant) (moment : Moment) {r : HttpRequest} (posted : r.IsSubmission)
    (state : PipelineState σ) :
    let limits := p.config.limits
    let max := limits.maxPayloadSize.toNat
    let answer := p.handle isReady now moment r state
    let refusal := fun (status : Nat) (message : String) =>
      HttpResponse.mk status (some "application/json") none
        ("\x7b\"error\":\"" ++ message ++ "\"\x7d")
    (∃ verdict, ∀ other, Screened limits r other ↔ other = verdict) ∧
    (∀ body remoteAddr, Reception.ofRequest limits isReady r = .submitted body remoteAddr ↔
      Screened limits r (.ok body) ∧ remoteAddr = r.remoteAddr) ∧
    (∀ body, Screened limits r (.ok body) →
      let processed := p.process ⟨body, r.remoteAddr, now, moment⟩ state
      body.length ≤ max ∧ answer.2 = processed.2 ∧
        (∀ report, processed.1 = .accepted report →
          answer.1 = some ⟨200, some "application/json", none, "\x7b\"status\":\"ok\"\x7d"⟩) ∧
        (∀ e, processed.1 = .refused (.rejected e) →
          ∃ status message, e.Told status message ∧ answer.1 = some (refusal status message)) ∧
        (processed.1 = .refused .outOfRange → answer.1 = none)) ∧
    ∀ e, Screened limits r (.error e) →
      ∃ status message, e.Told status message ∧ answer = (some (refusal status message), state) ∧
        (e = .lengthRequired ∧ status = 411 ∨ e = .invalidContentLength ∧ status = 400 ∨
          (∃ n, e = .payloadTooLarge n max ∧ status = 413) ∨ e = .bodyRead ∧ status = 400) := by
  intro limits max answer refusal
  refine ⟨?_, ?_, ?_, ?_⟩
  · refine ⟨bodyOf limits r, fun other => ?_⟩
    rw [← bodyOf_eq_iff, eq_comm]
  · intro body remoteAddr
    exact Reception.ofRequest_eq_submitted_iff posted
  · intro body screened processed
    have handled : answer = (processed.1.response?, processed.2) :=
      p.handle_of_passes isReady now moment posted screened state
    refine ⟨?_, congrArg Prod.snd handled, ?_, ?_, ?_⟩
    · cases screened with
      | passes first declares allowed arrives isLength => exact isLength ▸ allowed
    · intro report accepted
      rw [handled, accepted]
      rfl
    · intro e refused
      refine ⟨e.status, e.publicMessage, e.told, ?_⟩
      rw [handled, refused]
      exact congrArg some (HttpResponse.ofError_eq e)
    · intro overflowed
      rw [handled, overflowed]
      rfl
  · intro e screened
    have handled : answer = (some (refusal e.status e.publicMessage), state) :=
      (p.handle_of_error isReady now moment posted screened state).trans
        (congrArg (some · , state) (HttpResponse.ofError_eq e))
    refine ⟨e.status, e.publicMessage, e.told, handled, ?_⟩
    cases screened with
    | undeclared lacks => exact .inl ⟨rfl, rfl⟩
    | unreadable first noLength => exact .inr (.inl ⟨rfl, rfl⟩)
    | tooLarge first declares large => exact .inr (.inr (.inl ⟨_, rfl, rfl⟩))
    | unread first declares allowed noBody => exact .inr (.inr (.inr ⟨rfl, rfl⟩))

private def posting (length body : String) : HttpRequest :=
  ⟨"POST", "/v1/submit", [("Content-Length", Utf8.encodeString length)],
    [.chunk 0 (Utf8.encodeString body)], none⟩

private theorem isSubmission_posting (length body : String) :
    (posting length body).IsSubmission := by
  have path : HttpRequest.pathOf ("/v1/submit".toList.takeWhile fun c => c ≠ '?' && c ≠ '#') =
      "/v1/submit".toList := by decide
  exact ⟨rfl, path⟩

/-- A sign and white space around the length are allowed, and more bytes than declared are not. The
largest word is too long, and the number behind it is no length at all. -/
theorem screening_decides_what_reaches_pipeline_at_edges :
    let p := Pipeline.unguarded {} ⟨1, 10⟩
    let limits := p.config.limits
    let now : Instant := ⟨0, 0, by decide, by decide, by decide⟩
    let state : PipelineState Unit := ⟨.empty, []⟩
    let answerTo := fun length body => p.handle true now 0 (posting length body) state
    let told := fun (status : Nat) (body : String) =>
      HttpResponse.mk status (some "application/json") none body
    (posting " +2\t" "\x7b\x7d").IsSubmission ∧
      Screened limits (posting " +2\t" "\x7b\x7d") (.ok [0x7b, 0x7d]) ∧
      (answerTo " +2\t" "\x7b\x7d").1 =
        some (told 400 "\x7b\"error\":\"One of required fields wasn't provided\"\x7d") ∧
      answerTo "1" "\x7b\x7d" =
        (some (told 400 "\x7b\"error\":\"Error reading the body\"\x7d"), state) ∧
      answerTo "18446744073709551615" "" =
        (some (told 413 ("\x7b\"error\":\"Payload too large: 18446744073709551615 bytes" ++
          " (max: 50000000)\"\x7d")), state) ∧
      answerTo "18446744073709551616" "" =
        (some (told 400 "\x7b\"error\":\"Invalid Content-Length\"\x7d"), state) := by
  intro p limits now state answerTo told
  have refused (length body : String) (e : SubmitError) (text : String)
      (screened : bodyOf limits (posting length body) = .error e)
      (isBody : "\x7b\"error\":\"" ++ e.publicMessage ++ "\"\x7d" = text) :
      answerTo length body = (some (told e.status text), state) := by
    obtain ⟨_, _, _, fails⟩ := screening_decides_what_reaches_pipeline p true now 0
      (isSubmission_posting length body) state
    obtain ⟨status, message, isTold, answered, _⟩ := fails e (bodyOf_eq_iff.1 screened)
    obtain ⟨rfl, rfl⟩ := SubmitError.told_iff.1 isTold
    rw [← isBody]
    exact answered
  have passes : Screened limits (posting " +2\t" "\x7b\x7d") (.ok [0x7b, 0x7d]) :=
    bodyOf_eq_iff.1 (by decide +kernel)
  have incomplete : (p.process ⟨[0x7b, 0x7d], "unknown", now, 0⟩ state).1 =
      .refused (.rejected .missingFields) := by decide +kernel
  obtain ⟨_, _, processed, _⟩ := screening_decides_what_reaches_pipeline p true now 0
    (isSubmission_posting " +2\t" "\x7b\x7d") state
  obtain ⟨_, _, _, rejected, _⟩ := processed _ passes
  obtain ⟨status, message, isTold, answered⟩ := rejected _ incomplete
  cases isTold
  refine ⟨isSubmission_posting _ _, passes, answered, ?_, ?_, ?_⟩
  · exact refused "1" "\x7b\x7d" .bodyRead _ (by decide +kernel) (by decide +kernel)
  · exact refused "18446744073709551615" "" (.payloadTooLarge 18446744073709551615 50000000) _
      (by decide +kernel) (by decide +kernel)
  · exact refused "18446744073709551616" "" .invalidContentLength _ (by decide +kernel)
      (by decide +kernel)

end UptimeIntake
