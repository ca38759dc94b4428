import BucketAccess.Proofs.Storage.Sending

/-!
# What an answer of object storage means

The reply to a call by the status, the id in the headers and the body of the answer. An answer
outside 200 to 299 is read as the report of one failure, and only the code of that report decides
whether it is an absence that the call tolerates.
-/

namespace BucketAccess.Storage

/-! ## Calls -/

namespace Call

def operation : Call → String
  | createBucket .. => "CreateBucket"
  | deleteBucket _ => "DeleteBucket"
  | headBucket _ => "HeadBucket"
  | getPolicy .. => "GetBucketPolicy"
  | putPolicy .. => "PutBucketPolicy"
  | deletePolicy .. => "DeleteBucketPolicy"

/-- The absences that are results of a call. -/
def tolerance : Call → Tolerance
  | createBucket .. | headBucket _ => .nothing
  | deleteBucket _ => .missingBucket
  | getPolicy _ t | putPolicy _ _ t | deletePolicy _ t => t

/-- The reply to a call that is a success: only a look-up reads what it is answered. -/
def met : (c : Call) → Bytes → c.Reply
  | getPolicy bucket _, body =>
    match Policy.Document.ofText (Client.bodyText body) with
    | .ok policy => .ok (some policy)
    | .error fault => .error (.policy bucket fault)
  | createBucket .., _ | deleteBucket _, _ | headBucket _, _ | putPolicy .., _
  | deletePolicy .., _ => .ok ()

def tolerated : (c : Call) → c.Reply
  | getPolicy .. => .ok none
  | createBucket .. | deleteBucket _ | headBucket _ | putPolicy .. | deletePolicy .. => .ok ()

def failed : (c : Call) → Error → c.Reply
  | createBucket .., e | deleteBucket _, e | headBucket _, e | getPolicy .., e | putPolicy .., e
  | deletePolicy .., e => .error e

end Call

/-! ## Failures -/

/-- The code that a status stands for. -/
inductive StatusCode : Nat → String → Prop where
  | notFound : StatusCode 404 "NoSuchBucket"
  | forbidden : StatusCode 403 "AccessDenied"
  | moved : StatusCode 301 "PermanentRedirect"
  | named {status : Nat} {phrase : String} : status ∉ [404, 403, 301] →
      Web.reason? status = some phrase → StatusCode status phrase
  | unnamed {status : Nat} : status ∉ [404, 403, 301] → Web.reason? status = none →
      StatusCode status "UnknownError"

theorem statusCode_iff {status : Nat} {code : String} :
    StatusCode status code ↔ code = Client.codeOfStatus status := by
  unfold Client.codeOfStatus
  constructor
  · intro h
    cases h with
    | notFound | forbidden | moved => rfl
    | named hother hphrase | unnamed hother hphrase =>
      simp only [List.mem_cons, List.not_mem_nil, or_false, not_or] at hother
      rw [if_neg hother.1, if_neg hother.2.1, if_neg hother.2.2, hphrase]
      rfl
  · rintro rfl
    by_cases hother : status ∈ [404, 403, 301]
    · simp only [List.mem_cons, List.not_mem_nil, or_false] at hother
      rcases hother with rfl | rfl | rfl
      · exact .notFound
      · exact .forbidden
      · exact .moved
    · have hne := hother
      simp only [List.mem_cons, List.not_mem_nil, or_false, not_or] at hne
      rw [if_neg hne.1, if_neg hne.2.1, if_neg hne.2.2]
      cases hphrase : Web.reason? status with
      | some phrase => exact .named hother hphrase
      | none => exact .unnamed hother hphrase

/-- The failure that an answer to a call reports, where `id` is the id in its headers. -/
inductive Reports (c : Call) (status : Nat) (id : String) (body : Bytes) :
    BackendFailure → Prop where
  | identified {f : Failure} : readFailure body = .ok f → f.requestId ≠ "" →
      Reports c status id body ⟨c.operation, c.bucket, status, f.code, f.message, f.requestId⟩
  | unidentified {f : Failure} : readFailure body = .ok f → f.requestId = "" →
      Reports c status id body ⟨c.operation, c.bucket, status, f.code, f.message, id⟩
  | unread {e : Markup.Error} {code : String} : readFailure body = .error e →
      StatusCode status code →
      Reports c status id body ⟨c.operation, c.bucket, status, code, Utf8.lossy body, id⟩

/-- The code says that something is missing, and that is tolerated. -/
def Tolerance.Covers (t : Tolerance) (code : String) : Prop :=
  code = "NoSuchBucket" ∧ t.bucket = true ∨ code = "NoSuchBucketPolicy" ∧ t.policy = true

/-- The reply to a call that an answer amounts to. -/
inductive Verdict (c : Call) (status : Nat) (id : String) (body : Bytes) : c.Reply → Prop where
  | met : 200 ≤ status → status < 300 → Verdict c status id body (c.met body)
  | tolerated {f : BackendFailure} : ¬ (200 ≤ status ∧ status < 300) →
      Reports c status id body f → c.tolerance.Covers f.code →
      Verdict c status id body c.tolerated
  | refused {f : BackendFailure} : ¬ (200 ≤ status ∧ status < 300) →
      Reports c status id body f → ¬ c.tolerance.Covers f.code →
      Verdict c status id body (c.failed (.backend f))

theorem Missing.ofCode?_eq_some {code : String} {m : Missing} :
    Missing.ofCode? code = some m ↔ code = m.code := by
  constructor
  · intro h
    unfold ofCode? at h
    split at h
    · cases h; rfl
    · cases h; rfl
    · cases h
  · rintro rfl
    cases m <;> rfl

/-- What is tolerated is decided by the code alone. -/
theorem isSome_tolerated?_backend (t : Tolerance) (f : BackendFailure) :
    ((Error.backend f).tolerated? t).isSome = true ↔ t.Covers f.code := by
  show ((Missing.ofCode? f.code).filter t.allows).isSome = true ↔ _
  simp only [Option.isSome_filter, Option.any_eq_true, Missing.ofCode?_eq_some]
  constructor
  · rintro ⟨m, hcode, hm⟩
    cases m with
    | bucket => exact .inl ⟨hcode, hm⟩
    | policy => exact .inr ⟨hcode, hm⟩
  · rintro (⟨hcode, ht⟩ | ⟨hcode, ht⟩)
    · exact ⟨.bucket, hcode, ht⟩
    · exact ⟨.policy, hcode, ht⟩

/-! ## Answers -/

section

variable {c : Call} {response : Web.Response} {body : Bytes}

theorem reports_iff {f : BackendFailure} :
    Reports c response.status (Client.requestId response) body f ↔
      f = Client.failureOf c.operation c.bucket response body := by
  unfold Client.failureOf
  constructor
  · intro h
    cases h with
    | identified hread hid =>
      rw [hread]
      simp [String.isEmpty_iff, hid]
    | unidentified hread hid =>
      rw [hread]
      simp [String.isEmpty_iff, hid]
    | unread hread hcode =>
      rw [hread, statusCode_iff.1 hcode]
  · rintro rfl
    cases hread : readFailure body with
    | ok f =>
      by_cases hid : f.requestId = ""
      · simp only [String.isEmpty_iff, if_pos hid]
        exact .unidentified hread hid
      · simp only [String.isEmpty_iff, if_neg hid]
        exact .identified hread hid
    | error e => exact .unread hread (statusCode_iff.2 rfl)

theorem tolerated?_nothing (e : Error) : e.tolerated? .nothing = none := by
  have hnone : Tolerance.nothing.allows = fun _ => false := by
    funext m
    cases m <;> rfl
  unfold Error.tolerated?
  rw [hnone]
  cases e.missing? <;> rfl

theorem settle_success (c : Call) (hbody : response.body = .ok body) :
    settle c (Client.said c (.ok response)) = c.met body := by
  cases c with
  | getPolicy bucket t =>
    show (orTolerated t (Client.policyIn bucket response)).map id = _
    rw [Client.policyIn, hbody]
    simp only [Call.met]
    cases Policy.Document.ofText (Client.bodyText body) with
    | ok policy => rfl
    | error fault => rfl
  | createBucket _ _ _ | deleteBucket _ | headBucket _ | putPolicy _ _ _ | deletePolicy _ _ => rfl

theorem orTolerated_error_map {α β : Type} (t : Tolerance) (g : Option α → β) (e : Error) :
    (orTolerated t (.error e : Except Error α)).map g =
      if (e.tolerated? t).isSome then .ok (g none) else .error e := by
  rw [Client.orTolerated_error]
  split
  · rfl
  · rfl

theorem settle_error (c : Call) (e : Error) :
    settle c (Client.said c (.error e)) =
      if (e.tolerated? c.tolerance).isSome then c.tolerated else c.failed e := by
  cases c with
  | createBucket bucket acl location =>
    rw [show (Call.createBucket bucket acl location).tolerance = .nothing from rfl,
      tolerated?_nothing]
    rfl
  | headBucket bucket =>
    rw [show (Call.headBucket bucket).tolerance = .nothing from rfl, tolerated?_nothing]
    rfl
  | deleteBucket _ | getPolicy _ _ | putPolicy _ _ _ | deletePolicy _ _ =>
    exact orTolerated_error_map _ _ e

theorem outcome_of_failure (c : Call) (hbody : response.body = .ok body)
    (hstatus : ¬ (200 ≤ response.status ∧ response.status < 300)) :
    Client.outcome c.operation c.bucket (.ok response) =
      .error (.backend (Client.failureOf c.operation c.bucket response body)) := by
  have hfailure : response.isSuccess = false := by
    simpa [Web.Response.isSuccess] using hstatus
  simp only [Client.outcome, hfailure, hbody]
  rfl

theorem Verdict.eq_settle {r : c.Reply} (hbody : response.body = .ok body)
    (h : Verdict c response.status (Client.requestId response) body r) :
    r = settle c (Client.said c (Client.outcome c.operation c.bucket (.ok response))) := by
  cases h with
  | met hlow hhigh =>
    have hsuccess : response.isSuccess = true := by
      simp [Web.Response.isSuccess, hlow, hhigh]
    simp only [Client.outcome, if_pos hsuccess, settle_success c hbody]
  | tolerated hstatus hreports hcovers =>
    obtain rfl := reports_iff.1 hreports
    rw [outcome_of_failure c hbody hstatus, settle_error,
      if_pos ((isSome_tolerated?_backend _ _).2 hcovers)]
  | refused hstatus hreports hcovers =>
    obtain rfl := reports_iff.1 hreports
    rw [outcome_of_failure c hbody hstatus, settle_error,
      if_neg (mt (isSome_tolerated?_backend _ _).1 hcovers)]

theorem exists_verdict (c : Call) (response : Web.Response) (body : Bytes) :
    ∃ r, Verdict c response.status (Client.requestId response) body r := by
  by_cases hstatus : 200 ≤ response.status ∧ response.status < 300
  · exact ⟨_, .met hstatus.1 hstatus.2⟩
  · by_cases hcovers : c.tolerance.Covers
        (Client.failureOf c.operation c.bucket response body).code
    · exact ⟨_, .tolerated hstatus (reports_iff.2 rfl) hcovers⟩
    · exact ⟨_, .refused hstatus (reports_iff.2 rfl) hcovers⟩

theorem failed_ne_tolerated (c : Call) (e : Error) : c.failed e ≠ c.tolerated := by
  cases c <;> exact fun h => nomatch h

theorem verdict_tolerated_iff {status : Nat} {id : String} :
    Verdict c status id body c.tolerated ↔
      200 ≤ status ∧ status < 300 ∧ c.met body = c.tolerated ∨
        ¬ (200 ≤ status ∧ status < 300) ∧
          ∃ f, Reports c status id body f ∧ c.tolerance.Covers f.code := by
  constructor
  · intro h
    generalize hr : c.tolerated = r at h
    cases h with
    | met hlow hhigh => exact .inl ⟨hlow, hhigh, rfl⟩
    | tolerated hstatus hreports hcovers => exact .inr ⟨hstatus, _, hreports, hcovers⟩
    | refused _ _ _ => exact absurd hr.symm (failed_ne_tolerated c _)
  · rintro (⟨hlow, hhigh, hmet⟩ | ⟨hstatus, f, hreports, hcovers⟩)
    · rw [← hmet]
      exact .met hlow hhigh
    · exact .tolerated hstatus hreports hcovers

end

namespace Client

variable {k : Client}

theorem sent_eq (c : Call) :
    k.sent c = k.send c.operation c.method c.bucket c.query c.headers c.body := by
  cases c <;> rfl

/-- The calls of a client that is given this answer to the request of a call. -/
def answered (k : Client) (c : Call) (time : Instant) (response : Web.Response) :
    List (Turn Web.http) :=
  [⟨.now, time⟩, ⟨.send (k.requestOf c time), .ok response⟩]

theorem ends_sent {c : Call} {time : Instant} {response : Web.Response}
    {r : Except Error Web.Response} :
    (k.sent c).run.Ends (k.answered c time response) r ↔
      r = outcome c.operation c.bucket (.ok response) := by
  rw [sent_eq, run_send]
  constructor
  · intro h
    obtain ⟨_, t, ht, hnote⟩ := Program.ends_call.1 h
    obtain ⟨answer, t, rfl, hdone⟩ := Program.ends_call.1 (Program.ends_note.1 hnote)
    obtain ⟨rfl, rfl⟩ := Program.ends_done.1 hdone
    cases ht
    rfl
  · rintro rfl
    exact .call (.note (.call (.done _)))

theorem ends_answered {c : Call} {time : Instant} {response : Web.Response} {body : Bytes}
    (hbody : response.body = .ok body) {r : c.Reply} :
    (k.perform c).Ends (k.answered c time response) r ↔
      Verdict c response.status (requestId response) body r := by
  rw [ends_perform, ← ends_exchange c fun _ => rfl]
  constructor
  · rintro ⟨x, hx, rfl⟩
    obtain rfl := ends_sent.1 hx
    obtain ⟨r, h⟩ := exists_verdict c response body
    rwa [← h.eq_settle hbody]
  · intro h
    exact ⟨_, ends_sent.2 rfl, h.eq_settle hbody⟩

end Client

end BucketAccess.Storage
