import BucketAccess.Proofs.Program.Attempt
import BucketAccess.Proofs.SortedMap
import BucketAccess.Users.Client

/-!
# Exchanges with user management

A call asks for the time and sends one request, and what it ends with depends on the answer alone
(`ends_invoke_iff`): the status decides whether the body is read as the document that was asked for
or as the report of a failure.
-/

namespace BucketAccess.Users.Client

variable (k : Client)

/-! ## Requests -/

theorem get?_action (action : String) {params : List (String × String)}
    (h : ∀ e ∈ params, e.1 ≠ "Action") :
    (SortedMap.ofList (("Action", action) :: params)).get? "Action" = some action := by
  have hfold : ∀ m : SortedMap String, m.get? "Action" = some action →
      (params.foldl (fun m e => m.insert e.1 e.2) m).get? "Action" = some action := by
    induction params with
    | nil => exact fun _ hm => hm
    | cons e r ih =>
      obtain ⟨he, hr⟩ := List.forall_mem_cons.1 h
      intro m hm
      refine ih hr _ ?_
      rw [SortedMap.get?_insert_of_ne he.symm, hm]
  exact hfold _ (SortedMap.get?_insert_self _ _ _)

/-- What the client makes of the reply to a request. -/
def received (action : String) :
    Except Web.TransportError Web.Response → Attempt Web.http Error Bytes
  | .error cause => throw (.transport action cause)
  | .ok response =>
    match response.body with
    | .error cause => throw (.transport action cause)
    | .ok body =>
      if response.status = 200 then pure body
      else do
        Attempt.log .error "user-management call not success"
          (Log.texts [("action", action)] ++ [("status", .count response.status)])
        throw (failureOf action response.status body)

theorem call_eq (params : SortedMap String) :
    k.call params = if params.isEmpty then throw .noParams else
      Attempt.ask (σ := Web.http) .now >>= fun time =>
        Attempt.log .debug "sending user-management request"
          (Log.texts [("action", (params.get? "Action").getD ""), ("endpoint", k.endpoint)]) >>=
            fun _ => Attempt.ask (σ := Web.http) (.send (k.request params time)) >>=
              received ((params.get? "Action").getD "") := by
  unfold call
  dsimp only
  split
  · rfl
  · refine congrArg _ (funext fun time => congrArg _ (funext fun _ => congrArg _ (funext ?_)))
    rintro (cause | response)
    · rfl
    · rfl

/-- The body of an answer, or the failure that the answer is. -/
def obtained (action : String) :
    Except Web.TransportError Web.Response → Except Error Bytes
  | .error cause => .error (.transport action cause)
  | .ok response =>
    match response.body with
    | .error cause => .error (.transport action cause)
    | .ok body =>
      if response.status = 200 then .ok body else .error (failureOf action response.status body)

theorem ends_received (action : String) (reply : Except Web.TransportError Web.Response) :
    (received action reply).run.Ends [] (obtained action reply) := by
  cases reply with
  | error cause => exact .done _
  | ok response =>
    unfold received obtained
    simp only
    cases response.body with
    | error cause => exact .done _
    | ok body =>
      by_cases hstatus : response.status = 200
      · simp only [if_pos hstatus]
        exact .done _
      · simp only [if_neg hstatus]
        exact .note (.done _)

/-- A call with parameters, whatever it is answered. -/
theorem ends_call_iff {params : SortedMap String} (h : params.isEmpty = false)
    {t : List (Turn Web.http)} {r : Except Error Bytes} :
    (k.call params).run.Ends t r ↔ ∃ time reply,
      t = [⟨.now, time⟩, ⟨.send (k.request params time), reply⟩] ∧
        r = obtained ((params.get? "Action").getD "") reply := by
  rw [call_eq, if_neg (by simp [h])]
  constructor
  · intro hcall
    obtain ⟨time, _, rfl, hnote⟩ := Program.ends_call.1 hcall
    obtain ⟨reply, _, rfl, hreply⟩ := Program.ends_call.1 (Program.ends_note.1 hnote)
    obtain ⟨rfl, rfl⟩ := (ends_received _ reply).eq_of_nil hreply
    exact ⟨time, reply, rfl, rfl⟩
  · rintro ⟨time, reply, rfl, rfl⟩
    exact .call (.note (.call (ends_received _ reply)))

/-- A call with parameters that name an action. -/
theorem ends_call {params : SortedMap String} {action : String}
    (h : params.get? "Action" = some action) {t : List (Turn Web.http)} {r : Except Error Bytes} :
    (k.call params).run.Ends t r ↔ ∃ time reply,
      t = [⟨.now, time⟩, ⟨.send (k.request params time), reply⟩] ∧ r = obtained action reply := by
  have hfull : params.isEmpty = false := by
    refine Bool.eq_false_iff.2 fun hempty => ?_
    rw [SortedMap.get?, List.isEmpty_iff.1 hempty] at h
    cases h
  rw [k.ends_call_iff hfull, h, Option.getD_some]

theorem ends_invoke_iff {α : Type} {action : String} {params : List (String × String)}
    (hparams : ∀ e ∈ params, e.1 ≠ "Action") {read : Bytes → Except Markup.Error α}
    {t : List (Turn Web.http)} {r : Except Error α} :
    (k.invoke action params read).run.Ends t r ↔ ∃ time reply,
      t = [⟨.now, time⟩, ⟨.send (k.request (.ofList (("Action", action) :: params)) time), reply⟩] ∧
        r = (obtained action reply).bind fun body => (read body).mapError (.markup action) := by
  unfold invoke
  rw [Attempt.run_bind]
  refine (Program.ends_bind_silent
    (g := fun x => x.bind fun body => (read body).mapError (.markup action)) fun x => ?_).trans ?_
  · cases x with
    | ok body => exact .done _
    | error e => exact .done _
  · constructor
    · rintro ⟨x, hx, rfl⟩
      obtain ⟨time, reply, rfl, rfl⟩ := (k.ends_call (get?_action action hparams)).1 hx
      exact ⟨time, reply, rfl, rfl⟩
    · rintro ⟨time, reply, rfl, rfl⟩
      exact ⟨_, (k.ends_call (get?_action action hparams)).2 ⟨time, reply, rfl, rfl⟩, rfl⟩

/-- A request whose answer has a body. -/
theorem ends_invoke {α : Type} (action : String) {params : List (String × String)}
    (hparams : ∀ e ∈ params, e.1 ≠ "Action") (read : Bytes → Except Markup.Error α)
    (time : Instant) (status : Nat) (headers : List (String × Bytes)) (body : Bytes) :
    (k.invoke action params read).run.Ends [⟨.now, time⟩,
        ⟨.send (k.request (.ofList (("Action", action) :: params)) time),
          .ok ⟨status, headers, .ok body⟩⟩]
      (if status = 200 then (read body).mapError (.markup action)
        else .error (failureOf action status body)) := by
  refine (k.ends_invoke_iff hparams).2 ⟨time, _, rfl, ?_⟩
  unfold obtained
  by_cases hstatus : status = 200
  · simp only [if_pos hstatus]
    rfl
  · simp only [if_neg hstatus]
    rfl

end BucketAccess.Users.Client
