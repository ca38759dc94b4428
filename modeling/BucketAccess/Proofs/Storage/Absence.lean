import BucketAccess.Proofs.Program.Attempt
import BucketAccess.Storage.Client

/-!
# Absences in object storage

What the client makes of what the backend says: a call names the absences that are results, and all
others are failures.
-/

namespace BucketAccess.Storage

variable {α : Type}

/-- What the backend says to a call. -/
def Call.Said : Call → Type
  | .getPolicy _ _ => Except Error Policy.Document
  | _ => Except Error Unit

/-- Nothing is the result if the backend reports an absence that is tolerated. -/
def orTolerated (t : Tolerance) (r : Except Error α) : Except Error (Option α) :=
  (r.map some).tryCatch fun e => if (e.tolerated? t).isSome then .ok none else .error e

/-- The reply to a call, by what the backend says. -/
def settle : (c : Call) → c.Said → c.Reply
  | .createBucket .., r | .headBucket _, r => r.map id
  | .deleteBucket _, r => (orTolerated .missingBucket r).map fun _ => ()
  | .getPolicy _ t, r => (orTolerated t r).map id
  | .putPolicy _ _ t, r | .deletePolicy _ t, r => (orTolerated t r).map fun _ => ()

namespace Client

/-- The policy in an answer. -/
def policyIn (bucket : String) (response : Web.Response) : Except Error Policy.Document :=
  match response.body with
  | .error cause => .error (.transport "GetBucketPolicy" bucket cause)
  | .ok body =>
    match Policy.Document.ofText (bodyText body) with
    | .error fault => .error (.policy bucket fault)
    | .ok policy => .ok policy

/-- The request of a call. -/
def sent (k : Client) : Call → Attempt Web.http Error Web.Response
  | .createBucket bucket acl location =>
    k.send "CreateBucket" "PUT" bucket "" (creationHeaders acl) (creationBody location)
  | .deleteBucket bucket => k.send "DeleteBucket" "DELETE" bucket "" [] []
  | .headBucket bucket => k.send "HeadBucket" "HEAD" bucket "" [] []
  | .getPolicy bucket _ => k.send "GetBucketPolicy" "GET" bucket "policy" [] []
  | .putPolicy bucket policy _ => k.send "PutBucketPolicy" "PUT" bucket "policy"
      [("content-type", "application/json")] (Utf8.bytes policy.toText)
  | .deletePolicy bucket _ => k.send "DeleteBucketPolicy" "DELETE" bucket "policy" [] []

/-- What the answer to a call says. -/
def said : (c : Call) → Except Error Web.Response → c.Said
  | .getPolicy bucket _, r => r.bind (policyIn bucket)
  | .createBucket .., r | .deleteBucket _, r | .headBucket _, r | .putPolicy .., r
  | .deletePolicy .., r => r.map fun _ => ()

def exchange (k : Client) (c : Call) : Program Web.http c.Said :=
  (k.sent c).run.bind fun r => .done (said c r)

variable {k : Client} {t : List (Turn Web.http)}

theorem ends_tolerate {tolerance : Tolerance} {bucket : String} {p : Attempt Web.http Error α}
    {r : Except Error (Option α)} :
    (tolerate tolerance bucket p).run.Ends t r ↔
      ∃ x, p.run.Ends t x ∧ r = orTolerated tolerance x := by
  unfold tolerate
  refine Attempt.ends_recover fun e => ?_
  cases e.tolerated? tolerance with
  | some missing => exact .note (.done _)
  | none => exact .done _

theorem ends_exchange (c : Call) {r : c.Reply} {f : Except Error Web.Response → c.Reply}
    (hf : ∀ x, f x = settle c (said c x)) :
    (∃ x, (k.sent c).run.Ends t x ∧ r = f x) ↔ ∃ y, (k.exchange c).Ends t y ∧ r = settle c y := by
  have hexchange : ∀ y, (k.exchange c).Ends t y ↔ ∃ x, (k.sent c).run.Ends t x ∧ y = said c x :=
    fun y => Program.ends_bind_silent fun _ => .done _
  constructor
  · rintro ⟨x, hx, rfl⟩
    exact ⟨_, (hexchange _).2 ⟨x, hx, rfl⟩, hf x⟩
  · rintro ⟨y, hy, rfl⟩
    obtain ⟨x, hx, rfl⟩ := (hexchange y).1 hy
    exact ⟨x, hx, (hf x).symm⟩

theorem ends_tolerant {β : Type} {tolerance : Tolerance} {bucket : String}
    {p : Attempt Web.http Error α} {level : Log.Level} {message : String}
    {fields : List (String × Log.Value)} {f : Option α → Attempt Web.http Error β}
    {g : Option α → Except Error β} (hf : ∀ a, (f a).run.Ends [] (g a)) {r : Except Error β} :
    (Attempt.log level message fields >>= fun _ =>
      tolerate tolerance bucket p >>= f).run.Ends t r ↔
      ∃ x, p.run.Ends t x ∧ r = (orTolerated tolerance x).bind g := by
  rw [Attempt.ends_log_bind hf]
  constructor
  · rintro ⟨y, hy, rfl⟩
    obtain ⟨x, hx, rfl⟩ := ends_tolerate.1 hy
    exact ⟨x, hx, rfl⟩
  · rintro ⟨x, hx, rfl⟩
    exact ⟨_, ends_tolerate.2 ⟨x, hx, rfl⟩, rfl⟩

theorem orTolerated_error (tolerance : Tolerance) (e : Error) :
    orTolerated tolerance (.error e : Except Error α) =
      if (e.tolerated? tolerance).isSome then .ok none else .error e := rfl

theorem orTolerated_map (tolerance : Tolerance) (x : Except Error Web.Response) :
    (orTolerated tolerance x).bind (fun _ => .ok ()) =
      (orTolerated tolerance (x.map fun _ => ())).map fun _ => () := by
  cases x with
  | ok a => rfl
  | error e =>
    rw [Except.map, orTolerated_error, orTolerated_error]
    by_cases he : (e.tolerated? tolerance).isSome
    · rw [if_pos he, if_pos he]; rfl
    · rw [if_neg he, if_neg he]; rfl

/-- What is wrong with a policy is no absence. -/
theorem tolerated?_of_policyIn {bucket : String} {response : Web.Response} {e : Error}
    (h : policyIn bucket response = .error e) (tolerance : Tolerance) :
    e.tolerated? tolerance = none := by
  unfold policyIn at h
  split at h
  · cases h; rfl
  · split at h
    · cases h; rfl
    · cases h

theorem orTolerated_policyIn (tolerance : Tolerance) (bucket : String)
    (x : Except Error Web.Response) :
    ((orTolerated tolerance x).bind fun
      | none => .ok none
      | some response => (policyIn bucket response).map some) =
      (orTolerated tolerance (x.bind (policyIn bucket))).map id := by
  cases x with
  | error e =>
    rw [Except.bind, orTolerated_error, orTolerated_error]
    by_cases he : (e.tolerated? tolerance).isSome
    · rw [if_pos he, if_pos he]; rfl
    · rw [if_neg he, if_neg he]; rfl
  | ok response =>
    show (policyIn bucket response).map some =
      (orTolerated tolerance (policyIn bucket response)).map id
    cases hp : policyIn bucket response with
    | ok d => rfl
    | error e =>
      rw [orTolerated_error, tolerated?_of_policyIn hp]
      rfl

/-- The reply of a client is what it makes of what the backend says. -/
theorem ends_perform {c : Call} {r : c.Reply} :
    (k.perform c).Ends t r ↔ ∃ x, (k.exchange c).Ends t x ∧ r = settle c x := by
  have hdone : ∀ x : Except Error Web.Response,
      x.bind (fun _ => .ok ()) = (x.map fun _ => ()).map id := by
    intro x
    cases x <;> rfl
  cases c with
  | createBucket bucket acl location =>
    refine Iff.trans (Attempt.ends_log_bind fun _ => ?_) (ends_exchange (.createBucket ..) hdone)
    exact .note (.done _)
  | headBucket bucket =>
    refine Iff.trans (Attempt.ends_log_bind fun _ => ?_) (ends_exchange (.headBucket _) hdone)
    exact .note (.done _)
  | deleteBucket bucket =>
    refine Iff.trans (ends_tolerant fun a => ?_)
      (ends_exchange (.deleteBucket _) (orTolerated_map _))
    cases a with
    | none => exact .done _
    | some response => exact .note (.done _)
  | putPolicy bucket policy tolerance =>
    refine Iff.trans (ends_tolerant fun a => ?_)
      (ends_exchange (.putPolicy ..) (orTolerated_map _))
    cases a with
    | none => exact .done _
    | some response => exact .note (.done _)
  | deletePolicy bucket tolerance =>
    refine Iff.trans (ends_tolerant fun a => ?_)
      (ends_exchange (.deletePolicy ..) (orTolerated_map _))
    cases a with
    | none => exact .done _
    | some response => exact .note (.done _)
  | getPolicy bucket tolerance =>
    refine Iff.trans (ends_tolerant fun a => ?_)
      (ends_exchange (.getPolicy ..) (orTolerated_policyIn _ _))
    cases a with
    | none => exact .done _
    | some response =>
      unfold policyIn
      simp only
      cases response.body with
      | error cause => exact .done _
      | ok body =>
        simp only
        cases Policy.Document.ofText (bodyText body) with
        | error fault => exact .done _
        | ok policy => exact .note (.done _)

end Client

end BucketAccess.Storage
