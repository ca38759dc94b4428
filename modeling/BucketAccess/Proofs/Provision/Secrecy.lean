import BucketAccess.Proofs.Provision.Retry
import BucketAccess.Proofs.Storage.Sending
import BucketAccess.Proofs.Users.Secret
import BucketAccess.Provision.Provisioner

/-!
# Secrets of grants

Two runs of a grant that are answered the same but for the secret of the new key send the same
requests, log the same events and fail for the same reason, if they fail; what they succeed with
differs in the entry for the secret alone. So it is unless the backend's answer is a failure that
cannot be read or has the secret inside another field.
-/

namespace BucketAccess

open Attempt (OnlyCalls)

/-! ## Calls that ask for no key -/

namespace Account

theorem onlyCalls_connect {σ : Signature} {P : σ.Call → Prop}
    (endpoint accessKey secretKey : String) (trust : Trust) :
    OnlyCalls P (connect endpoint accessKey secretKey trust) := by
  unfold connect
  refine .bind (.ofExcept _) fun (url, host) => ?_
  dsimp only
  split
  · exact .throw_bind ..
  split
  · exact .throw_bind ..
  split
  · refine .bind (.log ..) fun _ => ?_
    split
    · exact .throw_bind ..
    · exact .pure _
  · split
    · exact .throw_bind ..
    · exact .pure _

end Account

theorem Storage.onlyCalls_connect {σ : Signature} {P : σ.Call → Prop} (c : Config) :
    OnlyCalls P (connect c) :=
  .bind (.mapError _ (Account.onlyCalls_connect ..)) fun _ => .pure _

theorem Users.onlyCalls_connect {σ : Signature} {P : σ.Call → Prop} (c : Config) :
    OnlyCalls P (connect c) :=
  .bind (.mapError _ (Account.onlyCalls_connect ..)) fun _ => .pure _

namespace Storage.Client

variable (k : Client)

theorem isOther_request (method bucket query : String) (headers : List (String × String))
    (body : Bytes) (time : Instant) :
    Users.IsOther (.send (k.request method bucket query headers body time)) := by
  rintro ⟨hheaders, -⟩
  cases hheaders

theorem onlyCalls_perform (c : Call) : (k.perform c).OnlyCalls Users.IsOther := by
  refine (Program.onlyCalls_iff Users.unanswered).2 fun t r h => ?_
  obtain ⟨time, answer, rfl⟩ := turns_perform h
  have hother := k.isOther_request c.method c.bucket c.query c.headers c.body time
  exact List.forall_mem_cons.2 ⟨trivial, List.forall_mem_singleton.2 hother⟩

end Storage.Client

namespace Provision

/-! ## Grants -/

/-- Replies are the same, up to the secret of a new key. -/
def SameReplies (S U : Type) : Likeness (api S U)
  | .users _ c, x, x' => Users.SameReplies c x x'
  | _, x, x' => x = x'

/-- All of the details but the entry for the secret. -/
def AccessDetails.withoutSecret (d : AccessDetails) : AccessDetails :=
  ⟨d.secrets.erase "accessSecretKey"⟩

def Granted.withoutSecret (g : Granted) : Granted := { g with details := g.details.withoutSecret }

section
variable {S U α : Type} {R : α → α → Prop}

theorem onlyCalls_credentials (name : SecretName) :
    OnlyCalls (SameReplies S U).IsExact (credentials name) :=
  .mapError _ ⟨fun _ _ => id, fun _ => trivial⟩

theorem onlyCalls_connectStorage (account : Credentials) :
    OnlyCalls (SameReplies S U).IsExact (connectStorage account) :=
  .mapError _ ⟨fun _ _ => id, fun _ => trivial⟩

theorem onlyCalls_connectUsers (account : Credentials) :
    OnlyCalls (SameReplies S U).IsExact (connectUsers account) :=
  .mapError _ ⟨fun _ _ => id, fun _ => trivial⟩

theorem onlyCalls_onStorage (client : S) (step : StorageStep)
    (p : Attempt Storage.api Storage.Error α) :
    OnlyCalls (SameReplies S U).IsExact (onStorage client step p) := by
  refine .mapError _ (Program.OnlyCalls.via (fun c => ?_) p.run)
  exact ⟨fun _ _ => id, fun _ => trivial⟩

theorem twin_onUsers {ε : Type} (client : U) (wrap : ε → Error) {p q : Attempt Users.api ε α}
    (h : Attempt.Twin Users.SameReplies R p q) :
    Attempt.Twin (SameReplies S U) R (onUsers client wrap p) (onUsers client wrap q) :=
  .mapError (h.via fun _ => .call fun _ _ hr => .done hr)

theorem twin_withLock (key : String) {p q : Attempt (api S U) Error α}
    (h : Attempt.Twin (SameReplies S U) R p q) :
    Attempt.Twin (SameReplies S U) R (withLock key p) (withLock key q) := by
  refine .call fun _ _ _ => Program.Twin.bind h fun x y hxy => ?_
  exact .call fun _ _ _ => .done hxy

theorem onlyCalls_addStatement (client : S) (bucket principal locator : String)
    (model : Policy.AccessModel) :
    OnlyCalls (SameReplies S U).IsExact (addStatement client bucket principal locator model) :=
  .bind (onlyCalls_onStorage ..) fun _ => onlyCalls_onStorage ..

theorem AccessDetails.entries_of (r : Users.Registration) (endpoint : String) :
    (AccessDetails.of r endpoint).secrets.entries =
      [("accessKeyID", r.keyId), ("accessSecretKey", r.secret), ("endpoint", endpoint)] := by
  have hascending : Ascending [("accessKeyID", r.keyId), ("accessSecretKey", r.secret),
      ("endpoint", endpoint)] := by
    refine .cons ?_ (.cons ?_ (.cons nofun .nil))
    · simp only [List.forall_mem_cons]
      exact ⟨by decide, by decide, nofun⟩
    · simp only [List.forall_mem_cons]
      exact ⟨by decide, nofun⟩
  exact congrArg SortedMap.entries (SortedMap.ofList_eq (m := ⟨_, hascending⟩) (.refl _))

theorem AccessDetails.of_withoutSecret {a b : Users.Registration}
    (h : a.withoutSecret = b.withoutSecret) (endpoint : String) :
    (AccessDetails.of a endpoint).withoutSecret = (AccessDetails.of b endpoint).withoutSecret := by
  have hid : a.withoutSecret.keyId = b.withoutSecret.keyId := by rw [h]
  unfold AccessDetails.withoutSecret
  refine congrArg AccessDetails.mk (SortedMap.ext ?_)
  unfold SortedMap.erase
  dsimp only
  rw [AccessDetails.entries_of, AccessDetails.entries_of]
  exact congrArg (fun id => [("accessKeyID", id), ("endpoint", endpoint)]) hid

theorem twin_grantOn (id : ResourceId) (principal : String) (grantee : SecretName)
    (model : Policy.AccessModel) :
    Attempt.Twin (SameReplies S U) (fun a b => a.withoutSecret = b.withoutSecret)
      (grantOn id principal grantee model) (grantOn id principal grantee model) := by
  refine .bind_same (onlyCalls_credentials _) fun owner => ?_
  refine .bind_same (onlyCalls_connectStorage _) fun storage => ?_
  refine .bind_same (onlyCalls_onStorage ..) fun _ => ?_
  refine .bind_same (onlyCalls_credentials _) fun account => ?_
  refine .bind_same (onlyCalls_connectUsers _) fun users => ?_
  refine .bind (twin_onUsers _ _ (Users.twin_register principal)) fun a b hab => ?_
  have hlocator : a.withoutSecret.locator = b.withoutSecret.locator := by rw [hab]
  rw [show a.locator = b.locator from hlocator]
  refine .bind_same (onlyCalls_addStatement ..) fun _ => .bind_same (.log ..) fun _ => .pure ?_
  unfold Granted.withoutSecret
  rw [AccessDetails.of_withoutSecret hab]

theorem twin_grant (r : Grant) :
    Attempt.Twin (SameReplies S U) (fun a b => a.withoutSecret = b.withoutSecret) (grant r)
      (grant r) := by
  refine .bind_same (.ofExcept _) fun (grantee, model) => twin_withLock _ ?_
  exact .bind_same (.ofExcept _) fun id => twin_grantOn id _ grantee model

theorem twin_reporting (operation : Operation) {p q : Attempt (api S U) Error α}
    (h : Attempt.Twin (SameReplies S U) R p q) :
    Program.Twin (SameReplies S U) (Outcomes R) (reporting operation p)
      (reporting operation q) := by
  refine Program.Twin.bind h fun x y hxy => ?_
  cases hxy with
  | ok hab => exact .note (.done (.ok hab))
  | error e => exact .note (.done (.error e))

end

namespace Provisioner

variable (p : Provisioner)

theorem twin_perform (c : Call Storage.Client Users.Client) :
    Program.Twin (Users.Alike Users.Kept) (SameReplies _ _ c) (p.perform c) (p.perform c) := by
  cases c with
  | secret name => exact .done rfl
  | lock key | unlock key => exact .done rfl
  | connectStorage account => exact .refl (Storage.onlyCalls_connect _) fun _ => rfl
  | connectUsers account => exact .refl (Users.onlyCalls_connect _) fun _ => rfl
  | storage client c =>
    exact .refl ((client.onlyCalls_perform c).mono fun _ => Users.Alike.isExact) fun _ => rfl
  | users client c => exact client.twin_perform c

/-! ## A host that answers -/

open Storage.Client (atRoot epoch)

set_option maxRecDepth 8000 in
/-- The answer to the creation of a key. -/
def inKey : Users.SecretSlot where
  before := Utf8.bytes
    "<CreateAccessKeyResponse><CreateAccessKeyResult><AccessKey><SecretAccessKey>"
  after := Utf8.bytes
    "/SecretAccessKey></AccessKey></CreateAccessKeyResult></CreateAccessKeyResponse>"
  tokens := ["CreateAccessKeyResponse", "CreateAccessKeyResult", "AccessKey", "SecretAccessKey"].map
    fun name => .opening (Utf8.bytes name)
  around := ["AccessKey", "CreateAccessKeyResult", "CreateAccessKeyResponse"].map Utf8.bytes
  scanned := fun _ => rfl
  opened := by decide +kernel

set_option maxRecDepth 8000 in
/-- A failure with the secret inside its message. -/
def inMessage : Users.SecretSlot where
  before := Utf8.bytes
    "<ErrorResponse><Error><Code>InternalError</Code><Message>key <SecretAccessKey>"
  after := Utf8.bytes
    "/SecretAccessKey> not stored</Message></Error><RequestId>r-1</RequestId></ErrorResponse>"
  tokens := [.opening (Utf8.bytes "ErrorResponse"), .opening (Utf8.bytes "Error"),
    .opening (Utf8.bytes "Code"), .text (Utf8.bytes "InternalError"), .closing (Utf8.bytes "Code"),
    .opening (Utf8.bytes "Message"), .text (Utf8.bytes "key"),
    .opening (Utf8.bytes "SecretAccessKey")]
  around := ["Message", "Error", "ErrorResponse"].map Utf8.bytes
  scanned := fun _ => rfl
  opened := by decide +kernel

def foundUser : Bytes :=
  Utf8.bytes "<GetUserResponse><GetUserResult><User></User></GetUserResult></GetUserResponse>"

def foundPolicy : Bytes := Utf8.bytes "\x7b\"Version\":\"2012-10-17\",\"Statement\":[]\x7d"

/-- Requests for keys are answered with this status and the secret at this place, others about users
with a user and those about buckets with a policy. -/
def answering (status : Nat) (place : Users.SecretSlot) (secret : String) : Script Web.http
  | _, .now => epoch
  | _, .send request =>
    .ok (if Users.AsksForKey request then ⟨status, [], .ok (place.fill secret)⟩
      else ⟨200, [], .ok (if request.headers = [] then foundUser else foundPolicy)⟩)

section
variable {status n : Nat} {place : Users.SecretSlot} {secret secret' : String}
  {request : Web.Request}

theorem answering_key (h : Users.AsksForKey request) :
    answering status place secret n (.send request) = .ok ⟨status, [], .ok (place.fill secret)⟩ :=
  congrArg Except.ok (if_pos h)

theorem answering_other (h : ¬ Users.AsksForKey request) :
    answering status place secret n (.send request) =
      .ok ⟨200, [], .ok (if request.headers = [] then foundUser else foundPolicy)⟩ :=
  congrArg Except.ok (if_neg h)

theorem answering_user (h : ¬ Users.AsksForKey request) (hheaders : request.headers = []) :
    answering status place secret n (.send request) = .ok ⟨200, [], .ok foundUser⟩ := by
  rw [answering_other h, if_pos hheaders]

theorem answering_bucket (h : request.headers ≠ []) :
    answering status place secret n (.send request) = .ok ⟨200, [], .ok foundPolicy⟩ := by
  rw [answering_other fun hkey => h hkey.1, if_neg h]

theorem alike_answering {Allowed : Nat → Users.SecretSlot → String → Prop}
    (hs : Markup.IsPlainText secret) (hs' : Markup.IsPlainText secret')
    (hallowed : Allowed status place secret) (n : Nat) (c : Web.Call) :
    Users.Alike Allowed c (answering status place secret n c)
      (answering status place secret' n c) := by
  cases c with
  | now => exact rfl
  | send request =>
    by_cases hkey : Users.AsksForKey request
    · exact .inr ⟨hkey, status, [], place, secret, secret', hs, hs', hallowed,
        answering_key hkey, answering_key hkey⟩
    · exact .inl ((answering_other hkey).trans (answering_other hkey).symm)

end

def rootAccount : Credentials := ⟨"AK", "SK", "http://h", none⟩

/-- Both accounts have the same keys. -/
def atHost : Provisioner where
  secrets := ⟨[(("owners", "owner"), rootAccount.toSecret),
    (("grantees", "grantee"), rootAccount.toSecret)]⟩
  settings := .standard

def usersAtHost : Users.Client := ⟨"http", "h:9443", ⟨"AK", "SK"⟩⟩

theorem credentials_atHost (name : SecretName)
    (h : name = .ofId ofOwner ∨ name = ⟨"grantees", "grantee"⟩) :
    (atHost.perform (.secret name)).Ends [] (.ok rootAccount) := by
  have hfound : atHost.secrets.credentials name.scope name.name = .ok rootAccount := by
    rcases h with rfl | rfl <;> decide +kernel
  rw [← hfound]
  exact .done _

theorem returns_usersAtHost :
    Attempt.Returns (Users.connect (σ := Web.http) (.ofCredentials rootAccount .standard)) []
      usersAtHost := by
  have hread : Account.readEndpoint (Users.Config.ofCredentials rootAccount .standard).endpoint =
      .ok (⟨"http", some "h", none, "/", none⟩, "h") := by decide +kernel
  unfold Users.connect Account.connect
  rw [hread]
  exact .note (.done _)

/-! ## Exchanges with the host -/

/-- The parameters of a request about the reader. -/
def aboutReader (action : String) : SortedMap String :=
  .ofList [("Action", action), ("UserName", "reader")]

theorem name_reader : ∀ e ∈ [("UserName", "reader")], e.1 ≠ "Action" := by decide

theorem get?_aboutReader (action : String) : (aboutReader action).get? "Action" = some action :=
  Users.Client.get?_action action name_reader

def exchangeAboutReader (action : String) (status : Nat) (document : Bytes) :
    List (Turn Web.http) :=
  [⟨.now, epoch⟩, ⟨.send (usersAtHost.request (aboutReader action) epoch),
    .ok ⟨status, [], .ok document⟩⟩]

def exchangeAboutBucket (c : Storage.Call) : List (Turn Web.http) :=
  [⟨.now, epoch⟩, ⟨.send (atRoot.requestOf c epoch), .ok ⟨200, [], .ok foundPolicy⟩⟩]

theorem ends_aboutBucket (c : Storage.Call) : (atRoot.perform c).Ends (exchangeAboutBucket c)
    (Storage.settle c (Storage.Client.said c (.ok ⟨200, [], .ok foundPolicy⟩))) := by
  refine Storage.Client.ends_perform.2 ⟨_, ?_, rfl⟩
  unfold Storage.Client.exchange
  cases c <;>
    exact (Storage.Client.run_send ..) ▸ .call (.note (.call (.done _)))

theorem ends_headBucket : (atRoot.perform (.headBucket "bucket")).Ends
    (exchangeAboutBucket (.headBucket "bucket")) (.ok ()) :=
  ends_aboutBucket (.headBucket "bucket")

theorem ends_putPolicy (policy : Policy.Document) :
    (atRoot.perform (.putPolicy "bucket" policy .nothing)).Ends
      (exchangeAboutBucket (.putPolicy "bucket" policy .nothing)) (.ok ()) :=
  ends_aboutBucket (.putPolicy "bucket" policy .nothing)

theorem ends_getPolicy : ∃ policy, (atRoot.perform (.getPolicy "bucket" .missingPolicy)).Ends
    (exchangeAboutBucket (.getPolicy "bucket" .missingPolicy)) (.ok (some policy)) := by
  have hread : (Policy.Document.ofText (Storage.Client.bodyText foundPolicy)).isOk = true := by
    decide +kernel
  cases hpolicy : Policy.Document.ofText (Storage.Client.bodyText foundPolicy) with
  | error fault =>
    rw [hpolicy] at hread
    cases hread
  | ok policy =>
    have hin : Storage.Client.policyIn "bucket" ⟨200, [], .ok foundPolicy⟩ = .ok policy := by
      simp only [Storage.Client.policyIn, hpolicy]
    have hends := ends_aboutBucket (.getPolicy "bucket" .missingPolicy)
    simp only [Storage.Client.said, Except.bind, hin] at hends
    exact ⟨policy, hends⟩

theorem ends_getUser : (usersAtHost.perform (.getUser "reader")).Ends
    (exchangeAboutReader "GetUser" 200 foundUser) (.ok (some ⟨"", "", "", "", ""⟩)) := by
  have hread : Users.readGetUser foundUser = .ok ⟨⟨"", "", "", "", ""⟩, ""⟩ := by
    decide +kernel
  have hinvoke := usersAtHost.ends_invoke "GetUser" name_reader Users.readGetUser epoch 200 []
    foundUser
  rw [if_pos rfl, hread] at hinvoke
  have hsaid : (usersAtHost.exchange (.getUser "reader")).Ends
      (exchangeAboutReader "GetUser" 200 foundUser) (.ok ⟨"", "", "", "", ""⟩) :=
    Users.Client.ends_value.2 ⟨_, hinvoke, rfl⟩
  exact Users.Client.ends_perform.2 ⟨_, hsaid, rfl⟩

/-- What becomes of the request for a key. -/
def keyOf (status : Nat) (document : Bytes) : Except Users.Error Users.AccessKey :=
  if status = 200 then
    ((Users.readCreateAccessKey document).mapError (.markup "CreateAccessKey")).map
      Users.Answer.value
  else .error (Users.Client.failureOf "CreateAccessKey" status document)

theorem ends_createKey (status : Nat) (document : Bytes) :
    (usersAtHost.perform (.createKey "reader")).Ends
      (exchangeAboutReader "CreateAccessKey" status document) (keyOf status document) := by
  have hinvoke := usersAtHost.ends_invoke "CreateAccessKey" name_reader Users.readCreateAccessKey
    epoch status [] document
  have hsaid : (usersAtHost.exchange (.createKey "reader")).Ends
      (exchangeAboutReader "CreateAccessKey" status document) (keyOf status document) := by
    refine Users.Client.ends_value.2 ⟨_, hinvoke, ?_⟩
    unfold keyOf
    split <;> rfl
  have hsettled : keyOf status document = Users.settle (.createKey "reader")
      (keyOf status document) := by
    cases keyOf status document <;> rfl
  exact Users.Client.ends_perform.2 ⟨_, hsaid, hsettled⟩

/-! ## Grants at the host -/

/-- The calls of a grant up to the key. -/
def turnsTo (key : Except Users.Error Users.AccessKey)
    (rest : List (Turn (api Storage.Client Users.Client))) :
    List (Turn (api Storage.Client Users.Client)) :=
  locked "owners/owner/bucket" (⟨.secret (.ofId ofOwner), .ok rootAccount⟩ ::
    ⟨.connectStorage rootAccount, .ok atRoot⟩ ::
    ⟨.storage atRoot (.headBucket "bucket"), .ok ()⟩ ::
    ⟨.secret ⟨"grantees", "grantee"⟩, .ok rootAccount⟩ ::
    ⟨.connectUsers rootAccount, .ok usersAtHost⟩ ::
    ⟨.users usersAtHost (.getUser "reader"), .ok (some ⟨"", "", "", "", ""⟩)⟩ ::
    ⟨.users usersAtHost (.createKey "reader"), key⟩ :: rest)

/-- The policy with the statement of the reader. -/
def withReader (policy : Policy.Document) : Policy.Document :=
  withStatement (some policy) (.grant "reader" "" .readWrite "bucket")

/-- The calls after the key. -/
def turnsOnPolicy (policy : Policy.Document) : List (Turn (api Storage.Client Users.Client)) :=
  [⟨.storage atRoot (.getPolicy "bucket" .missingPolicy), .ok (some policy)⟩,
    ⟨.storage atRoot (.putPolicy "bucket" (withReader policy) .nothing), .ok ()⟩]

/-- What the reader gets with a key. -/
def grantedWith (key : Users.AccessKey) : Granted :=
  ⟨ofReader.encode, .of ⟨"", key.id, key.secret⟩ "http://h"⟩

theorem ends_turnsTo_error (e : Users.Error) :
    (handleGrant grantToReader).Ends (turnsTo (.error e) [])
      (.error (.users (.register "reader") e)) := by
  have hdecode : ResourceId.decode grantToReader.bucketId = .ok ofOwner := rfl
  unfold handleGrant turnsTo
  rw [ends_handle, run_grant rfl hdecode, ends_withLock]
  exact ⟨_, rfl, .call (.call (.call (.call (.call (.call (.note (.call (.done _))))))))⟩

theorem ends_turnsTo_ok (key : Users.AccessKey) (policy : Policy.Document) :
    (handleGrant grantToReader).Ends (turnsTo (.ok key) (turnsOnPolicy policy))
      (.ok (grantedWith key)) := by
  have hdecode : ResourceId.decode grantToReader.bucketId = .ok ofOwner := rfl
  unfold handleGrant turnsTo
  rw [ends_handle, run_grant rfl hdecode, ends_withLock]
  exact ⟨_, rfl, .call (.call (.call (.call (.call (.call (.note (.call
    (.call (.call (.note (.done _)))))))))))⟩

/-- The exchanges of these calls: those of `head`, `user` and `key` and what comes after them. -/
def between (head user key : List (Turn Web.http)) (rest : List (List (Turn Web.http))) :
    List (List (Turn Web.http)) :=
  [] :: [] :: [] :: head :: [] :: [] :: user :: key :: (rest ++ [[]])

theorem flatten_between (head user key : List (Turn Web.http))
    (rest : List (List (Turn Web.http))) :
    (between head user key rest).flatten = head ++ (user ++ (key ++ rest.flatten)) := by
  simp [between]

/-- The exchanges of a grant up to the key. -/
def exchangesTo (status : Nat) (document : Bytes) (rest : List (List (Turn Web.http))) :
    List (List (Turn Web.http)) :=
  between (exchangeAboutBucket (.headBucket "bucket")) (exchangeAboutReader "GetUser" 200 foundUser)
    (exchangeAboutReader "CreateAccessKey" status document) rest

theorem ends_exchangesTo (status : Nat) (document : Bytes)
    {rest : List (Turn (api Storage.Client Users.Client))} {parts : List (List (Turn Web.http))}
    (h : List.Forall₂ (fun u part => (atHost.perform u.call).Ends part u.reply) rest parts) :
    List.Forall₂ (fun u part => (atHost.perform u.call).Ends part u.reply)
      (turnsTo (keyOf status document) rest) (exchangesTo status document parts) := by
  have hlock : ∀ key, (atHost.perform (.lock key)).Ends [] () := fun _ => .done _
  have hunlock : ∀ key, (atHost.perform (.unlock key)).Ends [] () := fun _ => .done _
  refine .cons (hlock _) (.cons (credentials_atHost _ (.inl rfl)) ?_)
  refine .cons Storage.Client.returns_rootConfig (.cons ends_headBucket ?_)
  refine .cons (credentials_atHost _ (.inr rfl)) (.cons returns_usersAtHost ?_)
  refine .cons ends_getUser (.cons (ends_createKey status document) ?_)
  exact List.rel_append h (.cons (hunlock _) .nil)

section
variable {place : Users.SecretSlot} {secret : String}

theorem gives_aboutBucket (status n : Nat) (c : Storage.Call) {t : List (Turn Web.http)}
    (h : (answering status place secret).Gives (n + 2) t) :
    (answering status place secret).Gives n (exchangeAboutBucket c ++ t) :=
  ⟨rfl, answering_bucket nofun, h⟩

theorem gives_getUser (status n : Nat) {t : List (Turn Web.http)}
    (h : (answering status place secret).Gives (n + 2) t) :
    (answering status place secret).Gives n
      (exchangeAboutReader "GetUser" 200 foundUser ++ t) := by
  have haction : (aboutReader "GetUser").get? "Action" ≠ some "CreateAccessKey" := by
    rw [get?_aboutReader]
    decide
  exact ⟨rfl, answering_user (usersAtHost.isOther_request epoch haction) rfl, h⟩

theorem gives_createKey (status n : Nat) {t : List (Turn Web.http)}
    (h : (answering status place secret).Gives (n + 2) t) :
    (answering status place secret).Gives n
      (exchangeAboutReader "CreateAccessKey" status (place.fill secret) ++ t) := by
  have hkey : Users.AsksForKey (usersAtHost.request (aboutReader "CreateAccessKey") epoch) :=
    ⟨rfl, (Users.action?_request ..).trans (get?_aboutReader _)⟩
  exact ⟨rfl, answering_key hkey, h⟩

/-- A grant that gets no key. -/
theorem run_failing {status : Nat} (hstatus : status ≠ 200) :
    ((atHost.grant grantToReader).run (answering status place secret).answer 0).1 =
      .error (.users (.register "reader")
        (Users.Client.failureOf "CreateAccessKey" status (place.fill secret))) := by
  have hkey : keyOf status (place.fill secret) =
      .error (Users.Client.failureOf "CreateAccessKey" status (place.fill secret)) :=
    if_neg hstatus
  have hparts := ends_exchangesTo status (place.fill secret) .nil
  rw [hkey] at hparts
  refine Program.run_of_ends ((ends_turnsTo_error _).flatten hparts) ?_
  rw [exchangesTo, flatten_between, List.flatten_nil]
  exact gives_aboutBucket _ _ _ (gives_getUser _ _ (gives_createKey _ _ trivial))

/-- A grant that gets a key. -/
theorem run_succeeding {key : Users.AccessKey} (hkey : keyOf 200 (place.fill secret) = .ok key) :
    ((atHost.grant grantToReader).run (answering 200 place secret).answer 0).1 =
      .ok (grantedWith key) := by
  obtain ⟨policy, hpolicy⟩ := ends_getPolicy
  have hrest : List.Forall₂ (fun u part => (atHost.perform u.call).Ends part u.reply)
      (turnsOnPolicy policy) [exchangeAboutBucket (.getPolicy "bucket" .missingPolicy),
        exchangeAboutBucket (.putPolicy "bucket" (withReader policy) .nothing)] :=
    .cons hpolicy (.cons (ends_putPolicy _) .nil)
  have hparts := ends_exchangesTo 200 (place.fill secret) hrest
  rw [hkey] at hparts
  refine Program.run_of_ends ((ends_turnsTo_ok key policy).flatten hparts) ?_
  rw [exchangesTo, flatten_between, List.flatten_cons, List.flatten_cons, List.flatten_nil]
  exact gives_aboutBucket _ _ _ (gives_getUser _ _ (gives_createKey _ _
    (gives_aboutBucket _ _ _ (gives_aboutBucket _ _ _ trivial))))

end

theorem isPlainText_samples : Markup.IsPlainText "SK" ∧ Markup.IsPlainText "TK" := by
  unfold Markup.IsPlainText
  decide

/-! ## Grants that keep the secret -/

/-- Two grants that are answered the same but for the secret of the new key fail for the same reason
or succeed with the same but for the secret, log the same events and send the same requests. -/
theorem secret_kept (r : Grant) (s s' : Script Web.http)
    (h : ∀ n c, Users.Alike Users.Kept c (s n c) (s' n c)) :
    Outcomes (fun a b => a.withoutSecret = b.withoutSecret) ((p.grant r).run s.answer 0).1
        ((p.grant r).run s'.answer 0).1 ∧
      ((p.grant r).run s'.answer 0).2.1 = ((p.grant r).run s.answer 0).2.1 ∧
        ((p.grant r).turns s'.answer 0).map Turn.call =
          ((p.grant r).turns s.answer 0).map Turn.call :=
  (Program.Twin.via p.twin_perform (.note (twin_reporting .grant (twin_grant r)))).run h 0

/-- Two grants that succeed with keys that differ in the secret. -/
theorem secret_kept_created :
    (∀ n c, Users.Alike Users.Kept c (answering 200 inKey "SK" n c)
      (answering 200 inKey "TK" n c)) ∧
    ((atHost.grant grantToReader).run (answering 200 inKey "SK").answer 0).1 =
      .ok (grantedWith ⟨"", "", "", "SK", "", ""⟩) ∧
    ((atHost.grant grantToReader).run (answering 200 inKey "TK").answer 0).1 =
      .ok (grantedWith ⟨"", "", "", "TK", "", ""⟩) ∧
    ((atHost.grant grantToReader).run (answering 200 inKey "TK").answer 0).2.1 =
      ((atHost.grant grantToReader).run (answering 200 inKey "SK").answer 0).2.1 := by
  have hkept : Users.Kept 200 inKey "SK" := by
    have haround : inKey.around =
        ["AccessKey", "CreateAccessKeyResult", "CreateAccessKeyResponse"].map Utf8.bytes := rfl
    rw [Users.Kept, if_pos rfl]
    exact Markup.Slot.isClear_of_names haround (by decide)
  have halike := alike_answering isPlainText_samples.1 isPlainText_samples.2 hkept
  have hgrants := atHost.secret_kept grantToReader (answering 200 inKey "SK")
    (answering 200 inKey "TK") halike
  exact ⟨halike, run_succeeding (by decide +kernel), run_succeeding (by decide +kernel),
    hgrants.2.1⟩

/-- Two grants that are answered with this status and the same but for a secret at this place fail
for reasons that are told apart. -/
def Tells (status : Nat) (place : Users.SecretSlot) : Prop :=
  (∀ n c, Users.Alike (fun _ _ _ => True) c (answering status place "SK" n c)
      (answering status place "TK" n c)) ∧
    ∃ e e', ((atHost.grant grantToReader).run (answering status place "SK").answer 0).1 = .error e ∧
      ((atHost.grant grantToReader).run (answering status place "TK").answer 0).1 = .error e' ∧
        e.statusText ≠ e'.statusText

theorem tells_of_failureOf {status : Nat} (hstatus : status ≠ 200) {place : Users.SecretSlot}
    (h : (Error.users (.register "reader")
        (Users.Client.failureOf "CreateAccessKey" status (place.fill "SK"))).statusText ≠
      (Error.users (.register "reader")
        (Users.Client.failureOf "CreateAccessKey" status (place.fill "TK"))).statusText) :
    Tells status place :=
  ⟨alike_answering isPlainText_samples.1 isPlainText_samples.2 trivial, _, _,
    run_failing hstatus, run_failing hstatus, h⟩

/-- The secret is told if the key comes with another status of success, and if a failure has it
inside its message. -/
theorem secret_told : Tells 201 inKey ∧ Tells 500 inMessage :=
  ⟨tells_of_failureOf (by decide) (by decide +kernel),
    tells_of_failureOf (by decide) (by decide +kernel)⟩

end Provisioner

end Provision

end BucketAccess
