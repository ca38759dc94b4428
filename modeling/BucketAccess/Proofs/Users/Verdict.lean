import BucketAccess.Proofs.Users.Absence
import BucketAccess.Proofs.Users.Exchange

/-!
# What an answer of user management means

The reply to a call by the status and the body of the answer alone. `Verdict` has a constructor for
each thing that an answer can mean; an absence is one of them, and none of the others is taken for
it.
-/

namespace BucketAccess.Users

/-! ## Calls -/

def Call.action : Call → String
  | .createUser _ => "CreateUser"
  | .getUser _ => "GetUser"
  | .deleteUser _ => "DeleteUser"
  | .createKey _ => "CreateAccessKey"
  | .deleteKey _ _ => "DeleteAccessKey"
  | .listKeys _ => "ListAccessKeys"

def Call.params : Call → List (String × String)
  | .createUser user | .getUser user | .deleteUser user | .createKey user | .listKeys user =>
    [("UserName", user)]
  | .deleteKey user id => [("UserName", user), ("AccessKeyId", id)]

/-- What the document holds that a call asks for. -/
def Call.Value : Call → Type
  | .createUser _ | .getUser _ => User
  | .deleteUser _ | .deleteKey _ _ => Unit
  | .createKey _ => AccessKey
  | .listKeys _ => List KeyEntry

def Call.read : (c : Call) → Bytes → Except Markup.Error (Answer c.Value)
  | .createUser _ => readCreateUser
  | .getUser _ => readGetUser
  | .deleteUser _ => readDeleteUser
  | .createKey _ => readCreateAccessKey
  | .deleteKey _ _ => readDeleteAccessKey
  | .listKeys _ => readListAccessKeys

/-! ## Replies -/

def Call.found : (c : Call) → c.Value → c.Reply
  | .createUser _, user => .ok user
  | .getUser _, user => .ok (some user)
  | .deleteUser _, _ | .deleteKey _ _, _ => .ok ()
  | .createKey _, key => .ok key
  | .listKeys _, entries => .ok entries

/-- The reply to a call that takes an absence for a result. -/
def Call.absent? : (c : Call) → Option c.Reply
  | .createUser _ | .createKey _ => none
  | .getUser _ => some (.ok none)
  | .deleteUser _ | .deleteKey _ _ => some (.ok ())
  | .listKeys _ => some (.ok [])

def Call.failed : (c : Call) → Error → c.Reply
  | .createUser _, e | .getUser _, e | .deleteUser _, e | .createKey _, e | .deleteKey _ _, e
  | .listKeys _, e => .error e

/-- The answer says that what the call is about does not exist. -/
def SaysAbsent (status : Nat) (body : Bytes) (f : Failure) : Prop :=
  status ≠ 200 ∧ readFailure body = .ok f ∧ f.code = "NoSuchEntity"

/-- The reply to a call that an answer with this status and this body amounts to. -/
inductive Verdict (c : Call) (status : Nat) (body : Bytes) : c.Reply → Prop where
  | met {a : Answer c.Value} : status = 200 → c.read body = .ok a →
      Verdict c status body (c.found a.value)
  | unread {e : Markup.Error} : status = 200 → c.read body = .error e →
      Verdict c status body (c.failed (.markup c.action e))
  | absent {f : Failure} {r : c.Reply} : SaysAbsent status body f → c.absent? = some r →
      Verdict c status body r
  | unmet {f : Failure} : SaysAbsent status body f → c.absent? = none →
      Verdict c status body (c.failed (.backend c.action status f))
  | refused {f : Failure} : status ≠ 200 → readFailure body = .ok f → f.code ≠ "NoSuchEntity" →
      Verdict c status body (c.failed (.backend c.action status f))
  | undecodable {e : Markup.Error} : status ≠ 200 → readFailure body = .error e →
      Verdict c status body (c.failed (.undecodable c.action status (Utf8.lossy body) e))

/-- What an answer holds: the document that was asked for, or a failure. -/
def Call.heard (c : Call) (status : Nat) (body : Bytes) : Except Error (Answer c.Value) :=
  if status = 200 then (c.read body).mapError (.markup c.action)
  else .error (Client.failureOf c.action status body)

/-- The reply, by what the answer holds. -/
def Call.replyTo (c : Call) : Except Error (Answer c.Value) → c.Reply
  | .ok a => c.found a.value
  | .error e =>
    match c.absent? with
    | some r => if e.isAbsence then r else c.failed e
    | none => c.failed e

section

variable {c : Call} {status : Nat} {body : Bytes} {r : c.Reply}

theorem replyTo_absent {e : Error} (he : e.isAbsence = true) (hr : c.absent? = some r) :
    c.replyTo (.error e) = r := by
  simp only [Call.replyTo, hr, if_pos he]

theorem replyTo_unmet {e : Error} (hr : c.absent? = none) : c.replyTo (.error e) = c.failed e := by
  simp only [Call.replyTo, hr]

theorem replyTo_failed {e : Error} (he : e.isAbsence = false) :
    c.replyTo (.error e) = c.failed e := by
  cases hr : c.absent? with
  | none => exact replyTo_unmet hr
  | some r =>
    simp only [Call.replyTo, hr, he]
    rfl

theorem Error.isAbsence_backend {action : String} {f : Failure} :
    (Error.backend action status f).isAbsence = decide (f.code = "NoSuchEntity") := by
  simp [isAbsence, code?, absence]

theorem SaysAbsent.heard {f : Failure} (h : SaysAbsent status body f) :
    c.heard status body = .error (.backend c.action status f) ∧
      (Error.backend c.action status f).isAbsence = true := by
  obtain ⟨hstatus, hread, hcode⟩ := h
  refine ⟨?_, Error.isAbsence_backend.trans (decide_eq_true hcode)⟩
  rw [Call.heard, if_neg hstatus, Client.failureOf, hread]

theorem Verdict.eq_replyTo (h : Verdict c status body r) :
    r = c.replyTo (c.heard status body) := by
  cases h with
  | met hstatus hread =>
    rw [Call.heard, if_pos hstatus, hread]
    rfl
  | unread hstatus hread =>
    rw [Call.heard, if_pos hstatus, hread]
    exact (replyTo_failed rfl).symm
  | absent htold hr =>
    rw [htold.heard.1, replyTo_absent htold.heard.2 hr]
  | unmet htold hr =>
    rw [htold.heard.1, replyTo_unmet hr]
  | refused hstatus hread hcode =>
    rw [Call.heard, if_neg hstatus, Client.failureOf, hread]
    exact (replyTo_failed (Error.isAbsence_backend.trans (decide_eq_false hcode))).symm
  | undecodable hstatus hread =>
    rw [Call.heard, if_neg hstatus, Client.failureOf, hread]
    exact (replyTo_failed rfl).symm

/-- There is no answer that means nothing. -/
theorem exists_verdict (c : Call) (status : Nat) (body : Bytes) :
    ∃ r, Verdict c status body r := by
  by_cases hstatus : status = 200
  · cases hread : c.read body with
    | ok a => exact ⟨_, .met hstatus hread⟩
    | error e => exact ⟨_, .unread hstatus hread⟩
  · cases hread : readFailure body with
    | error e => exact ⟨_, .undecodable hstatus hread⟩
    | ok f =>
      by_cases hcode : f.code = "NoSuchEntity"
      · cases hr : c.absent? with
        | none => exact ⟨_, .unmet ⟨hstatus, hread, hcode⟩ hr⟩
        | some r => exact ⟨r, .absent ⟨hstatus, hread, hcode⟩ hr⟩
      · exact ⟨_, .refused hstatus hread hcode⟩

theorem verdict_iff : Verdict c status body r ↔ r = c.replyTo (c.heard status body) := by
  refine ⟨Verdict.eq_replyTo, ?_⟩
  rintro rfl
  obtain ⟨r, h⟩ := exists_verdict c status body
  rwa [← h.eq_replyTo]

theorem absent?_ne_failed (hr : c.absent? = some r) (e : Error) : r ≠ c.failed e := by
  cases c <;> cases hr <;> exact fun h => nomatch h

/-- The reply for an absence comes from an absence, or from a document that holds the same. -/
theorem verdict_absent_iff (hr : c.absent? = some r) :
    Verdict c status body r ↔ (∃ f, SaysAbsent status body f) ∨
      status = 200 ∧ ∃ a, c.read body = .ok a ∧ c.found a.value = r := by
  constructor
  · intro h
    generalize hr' : r = r' at h
    cases h with
    | met hstatus hread => exact .inr ⟨hstatus, _, hread, rfl⟩
    | absent htold _ => exact .inl ⟨_, htold⟩
    | unread _ _ | unmet _ _ | refused _ _ _ | undecodable _ _ =>
      exact absurd hr' (absent?_ne_failed hr _)
  · rintro (⟨f, htold⟩ | ⟨hstatus, a, hread, rfl⟩)
    · exact .absent htold hr
    · exact .met hstatus hread

end

namespace Client

variable {k : Client} {t : List (Turn Web.http)}

/-- The calls of a client that is given this answer to the request of a call. -/
def answered (k : Client) (c : Call) (time : Instant) (response : Web.Response) :
    List (Turn Web.http) :=
  [⟨.now, time⟩, ⟨.send (k.request (.ofList (("Action", c.action) :: c.params)) time),
    .ok response⟩]

/-- What the client does with an answer's value, done to the answer. -/
theorem exists_said {α β : Type} {p : Attempt Web.http Error (Answer α)} {f : Except Error α → β}
    {g : Except Error (Answer α) → β} (h : ∀ x, f (x.map Answer.value) = g x) {r : β} :
    (∃ said, (exchange.value p).Ends t said ∧ r = f said) ↔ ∃ x, p.run.Ends t x ∧ r = g x := by
  constructor
  · rintro ⟨said, hsaid, rfl⟩
    obtain ⟨x, hx, rfl⟩ := ends_value.1 hsaid
    exact ⟨x, hx, h x⟩
  · rintro ⟨x, hx, rfl⟩
    exact ⟨_, ends_value.2 ⟨x, hx, rfl⟩, (h x).symm⟩

theorem orAbsent_error_map {α β : Type} (g : Option α → β) (e : Error) :
    (orAbsent (.error e : Except Error α)).map g =
      if e.isAbsence then .ok (g none) else .error e := by
  rw [orAbsent_error]
  split
  · rfl
  · rfl

theorem ends_perform_replyTo {c : Call} {r : c.Reply} :
    (k.perform c).Ends t r ↔
      ∃ x, (k.invoke c.action c.params c.read).run.Ends t x ∧ r = c.replyTo x := by
  cases c with
  | createUser _ | createKey _ => exact ends_perform.trans (exists_said fun x => by cases x <;> rfl)
  | getUser _ | deleteUser _ | deleteKey _ _ | listKeys _ =>
    refine ends_perform.trans (exists_said fun x => ?_)
    cases x with
    | ok a => rfl
    | error e => exact orAbsent_error_map _ e

theorem heard_eq (c : Call) (status : Nat) (headers : List (String × Bytes)) (body : Bytes) :
    c.heard status body = (obtained c.action (.ok ⟨status, headers, .ok body⟩)).bind
      fun body => (c.read body).mapError (.markup c.action) := by
  unfold Call.heard obtained
  by_cases hstatus : status = 200
  · simp only [if_pos hstatus]
    rfl
  · simp only [if_neg hstatus]
    rfl

/-- The answer is the only reply to the client that can make a difference. -/
theorem ends_answered {c : Call} {time : Instant} {status : Nat}
    {headers : List (String × Bytes)} {body : Bytes} {r : c.Reply} :
    (k.perform c).Ends (k.answered c time ⟨status, headers, .ok body⟩) r ↔
      Verdict c status body r := by
  have hparams : ∀ e ∈ c.params, e.1 ≠ "Action" := by
    cases c <;> simp [Call.params]
  rw [ends_perform_replyTo, verdict_iff, heard_eq c status headers body]
  constructor
  · rintro ⟨x, hx, rfl⟩
    obtain ⟨time', reply, ht, rfl⟩ := (k.ends_invoke_iff hparams).1 hx
    cases ht
    rfl
  · rintro rfl
    exact ⟨_, (k.ends_invoke_iff hparams).2 ⟨time, _, rfl, rfl⟩, rfl⟩

end Client

/-- What a call comes to is decided by the status and the body of the answer. Where an absence is a
result, an answer comes to it only if it says that there is one, or if it is a success whose document
holds the same. -/
theorem absence_only_if_told (k : Client) (c : Call) (time : Instant) (status : Nat)
    (headers : List (String × Bytes)) (body : Bytes) :
    (∃! r, Verdict c status body r) ∧
    (∀ r, (k.perform c).Ends (k.answered c time ⟨status, headers, .ok body⟩) r ↔
      Verdict c status body r) ∧
    (∀ r, c.absent? = some r →
      ((k.perform c).Ends (k.answered c time ⟨status, headers, .ok body⟩) r ↔
        (∃ f, SaysAbsent status body f) ∨
          status = 200 ∧ ∃ a, c.read body = .ok a ∧ c.found a.value = r)) ∧
    ∀ user, (k.perform (.getUser user)).Ends
        (k.answered (.getUser user) time ⟨status, headers, .ok body⟩) (.ok none) ↔
      ∃ f, SaysAbsent status body f := by
  refine ⟨⟨_, verdict_iff.2 rfl, fun _ h => h.eq_replyTo⟩, fun _ => Client.ends_answered,
    fun r hr => Client.ends_answered.trans (verdict_absent_iff hr), fun user => ?_⟩
  have habsent : (Call.getUser user).absent? = some (.ok none) := rfl
  refine (Client.ends_answered.trans (verdict_absent_iff habsent)).trans ?_
  constructor
  · rintro (htold | ⟨-, a, -, hfound⟩)
    · exact htold
    · cases hfound
  · exact .inl

end BucketAccess.Users
