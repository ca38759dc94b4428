import BucketAccess.Proofs.Markup.Masked
import BucketAccess.Proofs.Program.Twin
import BucketAccess.Proofs.Signing.Query
import BucketAccess.Proofs.Text.Pieces
import BucketAccess.Proofs.Users.Absence
import BucketAccess.Proofs.Users.Exchange
import BucketAccess.Users.Registration

/-!
# Secrets of new keys

The answer to a request for a key brings the key's secret. Two clients that are answered the same
but for the secret get keys that are the same but for the secret, and all that they send, log and
report is the same, unless the answer is a failure that cannot be read, which is reported whole, or
the secret stands inside a field of the document, whose text is taken with it.
-/

namespace BucketAccess.Users

open Markup

/-! ## Requests for keys -/

/-- What stands behind the last question mark of a URL. -/
def queryOf (url : String) : List Char := (url.toList.reverse.takeWhile (· ≠ '?')).reverse

/-- The action that a request to user management names. -/
def action? (r : Web.Request) : Option String :=
  match Signing.readQuery (queryOf r.url) with
  | .ok params => params.lookup "Action"
  | .error _ => none

def AsksForKey (r : Web.Request) : Prop := r.headers = [] ∧ action? r = some "CreateAccessKey"

instance : DecidablePred AsksForKey := fun _ => inferInstanceAs (Decidable (_ ∧ _))

/-- A call that is no request for a key. -/
def IsOther : Web.Call → Prop
  | .now => True
  | .send r => ¬ AsksForKey r

/-- No request is answered. -/
def unanswered : (c : Web.Call) → c.Reply
  | .now => (Instant.ofUnix? 0 0).get rfl
  | .send _ => .error .badHeader

theorem queryOf_append {query : List Char} (h : '?' ∉ query) (before : String) :
    queryOf (before ++ "?" ++ String.ofList query) = query := by
  have hreverse : (before ++ "?" ++ String.ofList query).toList.reverse =
      query.reverse ++ '?' :: before.toList.reverse := by
    simp [List.reverse_append]
  unfold queryOf
  rw [hreverse, Text.takeWhile_ne_append (mt List.mem_reverse.1 h), List.reverse_reverse]

theorem question_not_mem_sortedQuery (params : SortedMap String) :
    '?' ∉ Signing.sortedQuery params := by
  have hform : ∀ s, '?' ∉ Signing.escapeForm s :=
    Signing.not_mem_escapeForm (by decide) (by decide)
  intro h
  rcases Text.of_mem_intercalate h with h | ⟨pair, hpair, h⟩
  · cases h
  · obtain ⟨e, -, rfl⟩ := List.mem_map.1 hpair
    rcases List.mem_append.1 h with h | h
    · exact hform _ h
    · rcases List.mem_cons.1 h with h | h
      · cases h
      · exact hform _ h

/-- The action of a request is the one that its parameters name. -/
theorem action?_request (k : Client) (params : SortedMap String) (time : Instant) :
    action? (k.request params time) = params.get? "Action" := by
  have hread := (k.signer.signed_query_verified "GET" k.host Client.path params time).1
  have hkept := (k.signer.signed_query_verified "GET" k.host Client.path params time).2.2
  unfold action? Client.request Client.url
  rw [queryOf_append (question_not_mem_sortedQuery _), hread]
  exact hkept "Action" (by decide)

theorem Client.isOther_request (k : Client) {params : SortedMap String} (time : Instant)
    (h : params.get? "Action" ≠ some "CreateAccessKey") :
    IsOther (.send (k.request params time)) := by
  rintro ⟨-, haction⟩
  rw [action?_request] at haction
  exact h haction

/-! ## Answers that differ in the secret -/

/-- A document with a place for the secret of a key. -/
abbrev SecretSlot := Slot "SecretAccessKey"

/-- Replies are the same, up to the secret in what answers a request for a key with a status and a
document that are allowed. -/
def Alike (Allowed : Nat → SecretSlot → String → Prop) : Likeness Web.http
  | .now, t, t' => t = t'
  | .send request, x, x' => x = x' ∨ AsksForKey request ∧
      ∃ status headers place secret secret', IsPlainText secret ∧ IsPlainText secret' ∧
        Allowed status place secret ∧
          x = .ok ⟨status, headers, .ok (place.fill secret)⟩ ∧
            x' = .ok ⟨status, headers, .ok (place.fill secret')⟩

/-- The secret is not part of another field, and a failure can be read. -/
def Kept (status : Nat) (place : SecretSlot) (secret : String) : Prop :=
  if status = 200 then place.IsClear .createdAccessKey
  else place.IsClear .failure ∧ ∃ f, readFailure (place.fill secret) = .ok f

variable {Allowed : Nat → SecretSlot → String → Prop}

theorem Alike.isExact {c : Web.Call} (h : IsOther c) : (Alike Allowed).IsExact c := by
  cases c with
  | now => exact fun _ _ => id
  | send r => exact fun _ _ hr => hr.resolve_right fun hkey => h hkey.1

/-! ## Reading -/

/-- All of a key but its secret. -/
def AccessKey.withoutSecret (k : AccessKey) : AccessKey := { k with secret := "" }

def Answer.withoutSecret (a : Answer AccessKey) : Answer AccessKey :=
  { a with value := a.value.withoutSecret }

theorem AccessKey.ofParts_maskAll (p : List Part) :
    AccessKey.ofParts (maskAll "SecretAccessKey" p) = (AccessKey.ofParts p).withoutSecret := by
  have hother : ∀ name ≠ "SecretAccessKey",
      lastText name (maskAll "SecretAccessKey" p) = lastText name p := fun _ => lastText_maskAll
  unfold AccessKey.ofParts AccessKey.withoutSecret
  simp [hother, lastText_maskAll_self]

theorem requestId_maskAll (p : List Part) :
    requestId (maskAll "SecretAccessKey" p) = requestId p := by
  unfold requestId
  rw [lastGroup?_maskAll]
  cases lastGroup? "ResponseMetadata" p with
  | none => rfl
  | some found => exact lastText_maskAll (by decide)

/-- What is read from parts may be read without the contents of a field. -/
theorem map_bind_masked {α : Type} {field : String} {f : List Part → Except Markup.Error α}
    {g : α → α} (h : ∀ p, f (maskAll field p) = (f p).map g) (x : Except Markup.Error (List Part)) :
    (x >>= f).map g = x.map (maskAll field) >>= f := by
  cases x with
  | error e => rfl
  | ok p => exact (h p).symm

theorem readCreateAccessKey_fill {place : SecretSlot}
    (hclear : place.IsClear .createdAccessKey) {s s' : String} (hs : IsPlainText s)
    (hs' : IsPlainText s') :
    (readCreateAccessKey (place.fill s)).map Answer.withoutSecret =
      (readCreateAccessKey (place.fill s')).map Answer.withoutSecret := by
  have hparts : ∀ p, DocumentType.createdAccessKey.ofParts (maskAll "SecretAccessKey" p) =
      (DocumentType.createdAccessKey.ofParts p).map Answer.withoutSecret := by
    intro p
    show DocumentType.itemOfParts _ _ AccessKey.ofParts _ =
      (DocumentType.itemOfParts _ _ AccessKey.ofParts p).map _
    unfold DocumentType.itemOfParts
    rw [allGroups_maskAll, lastGroup?_maskAll]
    cases lastGroup? "AccessKey" (allGroups "CreateAccessKeyResult" p) with
    | none => rfl
    | some found =>
      simp only [Option.map_some]
      rw [AccessKey.ofParts_maskAll, requestId_maskAll]
      rfl
  have hread : ∀ document, (readCreateAccessKey document).map Answer.withoutSecret = _ :=
    fun document => (congrArg _ (DocumentType.createdAccessKey.read_eq document)).trans
      (map_bind_masked hparts _)
  rw [hread, hread, readDocument_fill hclear hs hs']

theorem readFailure_fill {place : SecretSlot} (hclear : place.IsClear .failure) {s s' : String}
    (hs : IsPlainText s) (hs' : IsPlainText s') :
    readFailure (place.fill s) = readFailure (place.fill s') := by
  have hparts : ∀ p, DocumentType.failure.ofParts (maskAll "SecretAccessKey" p) =
      (DocumentType.failure.ofParts p).map id := by
    intro p
    show Except.ok (Failure.mk _ _ _) = Except.ok (Failure.mk _ _ _)
    rw [allGroups_maskAll, lastText_maskAll (by decide), lastText_maskAll (by decide),
      lastText_maskAll (by decide)]
  have hread : ∀ document, (readFailure document).map id = _ :=
    fun document => (congrArg _ (DocumentType.failure.read_eq document)).trans
      (map_bind_masked hparts _)
  have hid : ∀ x : Except Markup.Error Failure, x.map id = x := fun x => by cases x <;> rfl
  rw [← hid (readFailure _), ← hid (readFailure (place.fill s')), hread, hread,
    readDocument_fill hclear hs hs']

/-- A failure that can be read is reported the same. -/
theorem failureOf_fill {place : SecretSlot} (hclear : place.IsClear .failure) {s s' : String}
    (hs : IsPlainText s) (hs' : IsPlainText s') {f : Failure}
    (hread : readFailure (place.fill s) = .ok f) (action : String) (status : Nat) :
    Client.failureOf action status (place.fill s) =
      Client.failureOf action status (place.fill s') := by
  unfold Client.failureOf
  rw [← readFailure_fill hclear hs hs', hread]

/-! ## The client -/

namespace Client

variable (k : Client)

open Attempt (OnlyCalls)

theorem onlyCalls_received {P : Web.Call → Prop} (action : String)
    (reply : Except Web.TransportError Web.Response) : OnlyCalls P (received action reply) := by
  cases reply with
  | error cause => exact .throw _
  | ok response =>
    unfold received
    dsimp only
    cases response.body with
    | error cause => exact .throw _
    | ok body =>
      dsimp only
      split
      · exact .pure _
      · exact .bind (.log ..) fun _ => .throw _

theorem onlyCalls_call {params : SortedMap String}
    (h : params.get? "Action" ≠ some "CreateAccessKey") : OnlyCalls IsOther (k.call params) := by
  rw [call_eq]
  split
  · exact .throw _
  · have hnow : IsOther .now := trivial
    exact .bind (.ask hnow) fun time => .bind (.log ..) fun _ =>
      .bind (.ask (k.isOther_request time h)) fun reply => onlyCalls_received _ reply

theorem onlyCalls_invoke {α : Type} {action : String} {params : List (String × String)}
    {read : Bytes → Except Markup.Error α} (haction : action ≠ "CreateAccessKey")
    (hparams : ∀ e ∈ params, e.1 ≠ "Action") :
    OnlyCalls IsOther (k.invoke action params read) := by
  have hget : (SortedMap.ofList (("Action", action) :: params)).get? "Action" ≠
      some "CreateAccessKey" := by
    rw [get?_action action hparams]
    exact fun h => haction (Option.some.inj h)
  exact .bind (k.onlyCalls_call hget) fun _ => .ofExcept _

/-- All calls but the one for a key. -/
theorem onlyCalls_perform {c : Call} (h : ∀ user, c ≠ .createKey user) :
    (k.perform c).OnlyCalls IsOther := by
  refine (Program.onlyCalls_iff unanswered).2 fun t r hends => ?_
  obtain ⟨said, hsaid, -⟩ := ends_perform.1 hends
  cases c with
  | createKey user => exact absurd rfl (h user)
  | createUser user | getUser user | deleteUser user | deleteKey user id | listKeys user =>
    obtain ⟨x, hx, -⟩ := ends_value.1 hsaid
    exact (Program.onlyCalls_iff unanswered).1 (k.onlyCalls_invoke (by decide) (by simp)) t x hx

/-! ## New keys -/

/-- Documents from which the same key is read, up to its secret. -/
def SameKey (document document' : Bytes) : Prop :=
  (readCreateAccessKey document).map Answer.withoutSecret =
    (readCreateAccessKey document').map Answer.withoutSecret

theorem twin_received (action : String) {request : Web.Request}
    {x x' : Except Web.TransportError Web.Response} (h : Alike Kept (.send request) x x') :
    Attempt.Twin (Alike Kept) SameKey (received action x) (received action x') := by
  rcases h with rfl | ⟨-, status, headers, place, secret, secret', hs, hs', hkept, rfl, rfl⟩
  · exact .refl (onlyCalls_received action _) fun _ => rfl
  · unfold received
    by_cases hstatus : status = 200
    · rw [Kept, if_pos hstatus] at hkept
      simp only [if_pos hstatus]
      exact .pure (readCreateAccessKey_fill hkept hs hs')
    · rw [Kept, if_neg hstatus] at hkept
      obtain ⟨hclear, f, hf⟩ := hkept
      simp only [if_neg hstatus]
      rw [failureOf_fill hclear hs hs' hf]
      exact .bind_same (.log ..) fun _ => .throw _

theorem twin_call (params : SortedMap String) :
    Attempt.Twin (Alike Kept) SameKey (k.call params) (k.call params) := by
  rw [call_eq]
  split
  · exact .throw _
  · have hnow : (Alike Kept).IsExact .now := fun _ _ => id
    refine .bind_same (.ask hnow) fun time => .bind_same (.log ..) fun _ => ?_
    exact .bind (.ask _) fun x x' hx => twin_received _ hx

theorem twin_invoke (user : String) :
    Attempt.Twin (Alike Kept) (fun a b => a.withoutSecret = b.withoutSecret)
      (k.invoke "CreateAccessKey" [("UserName", user)] readCreateAccessKey)
      (k.invoke "CreateAccessKey" [("UserName", user)] readCreateAccessKey) :=
  .bind (k.twin_call _) fun _ _ h => .ofExcept ((outcomes_of_map_eq h).mapError _)

/-- A new key is the same but for its secret, and so is all that is done about it. -/
theorem twin_createKey (user : String) :
    Attempt.Twin (Alike Kept) (fun a b => a.withoutSecret = b.withoutSecret) (k.createKey user)
      (k.createKey user) := by
  refine .bind_same (.log ..) fun _ => .bind (k.twin_invoke user) fun a b hab => ?_
  have hid : a.value.id = b.value.id := congrArg (fun x => x.value.id) hab
  have hrequest : a.requestId = b.requestId := congrArg (fun x => x.requestId) hab
  rw [hid, hrequest]
  exact .bind_same (.log ..) fun _ => .pure (congrArg Answer.value hab)

end Client

/-! ## Registrations -/

/-- Replies are the same, up to the secret of a new key. -/
def SameReplies : Likeness api
  | .createKey _, x, x' => Outcomes (fun a b => AccessKey.withoutSecret a = b.withoutSecret) x x'
  | _, x, x' => x = x'

theorem Client.twin_perform (k : Client) (c : Call) :
    Program.Twin (Alike Kept) (SameReplies c) (k.perform c) (k.perform c) := by
  have hother : (∀ user, c ≠ .createKey user) → (k.perform c).OnlyCalls (Alike Kept).IsExact :=
    fun h => (k.onlyCalls_perform h).mono fun _ => Alike.isExact
  cases c with
  | createKey user => exact k.twin_createKey user
  | createUser user | getUser user | deleteUser user | deleteKey user id | listKeys user =>
    exact .refl (hother nofun) fun _ => rfl

/-- All of a registration but the secret. -/
def Registration.withoutSecret (r : Registration) : Registration := { r with secret := "" }

theorem onlyCalls_ensureUser (user : String) :
    Attempt.OnlyCalls SameReplies.IsExact (ensureUser user) := by
  refine .bind ⟨fun _ _ => id, fun _ => trivial⟩ fun found => ?_
  cases found with
  | some found => exact .bind (.log ..) fun _ => .pure _
  | none => exact .bind ⟨fun _ _ => id, fun _ => trivial⟩ fun _ => .pure _

theorem twin_register (user : String) :
    Attempt.Twin SameReplies (fun a b => a.withoutSecret = b.withoutSecret) (register user)
      (register user) := by
  refine .bind_same (onlyCalls_ensureUser user) fun locator => ?_
  refine .bind (.call fun _ _ h => .done h) fun a b hab => .pure ?_
  have hid : a.withoutSecret.id = b.withoutSecret.id := by rw [hab]
  exact congrArg (fun id => Registration.mk locator id "") hid

end BucketAccess.Users
