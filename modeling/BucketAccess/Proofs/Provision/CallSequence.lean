import BucketAccess.Proofs.Policy.Document
import BucketAccess.Proofs.Provision.Failure

/-!
# Call sequences

Which calls an operation makes, and in which order, whatever it is replied: those of a run without
failures, up to the first call that fails. `grantTurns` and `revocationTurns` list the calls of a
run without failures by the replies to them.
-/

namespace BucketAccess

open Attempt

variable {S U α ε W : Type}

/-! ## Users -/

namespace Users

/-- The registration of a user who is `found` or else `created`, and gets `key`. -/
def registerTurns (user : String) (found : Option User) (created : User) (key : AccessKey) :
    List (Turn api) :=
  ⟨.getUser user, .ok found⟩ ::
    ((if found.isNone then [⟨.createUser user, .ok created⟩] else []) ++
      [⟨.createKey user, .ok key⟩])

theorem returns_ensureUser {user locator : String} {t : List (Turn api)}
    (h : Returns (ensureUser user) t locator) : ∃ found created,
      t = ⟨.getUser user, .ok found⟩ ::
        (if found.isNone then [⟨.createUser user, .ok created⟩] else []) ∧
      locator = (found.getD created).arn := by
  obtain ⟨t₁, t₂, found, rfl, h₁, h₂⟩ := returns_bind.1 h
  obtain rfl := Program.ends_ask.1 h₁
  cases found with
  | some u =>
    obtain ⟨t₃, t₄, ⟨⟩, rfl, h₃, h₄⟩ := returns_bind.1 h₂
    obtain rfl := returns_log.1 h₃
    obtain ⟨rfl, rfl⟩ := returns_pure.1 h₄
    exact ⟨some u, u, rfl, rfl⟩
  | none =>
    obtain ⟨t₃, t₄, u, rfl, h₃, h₄⟩ := returns_bind.1 h₂
    obtain rfl := Program.ends_ask.1 h₃
    obtain ⟨rfl, rfl⟩ := returns_pure.1 h₄
    exact ⟨none, u, rfl, rfl⟩

theorem returns_register {user : String} {t : List (Turn api)} {r : Registration}
    (h : Returns (register user) t r) : ∃ found created key,
      t = registerTurns user found created key ∧
      r = ⟨(found.getD created).arn, key.id, key.secret⟩ := by
  obtain ⟨t₁, t₂, locator, rfl, h₁, h₂⟩ := returns_bind.1 h
  obtain ⟨found, created, rfl, rfl⟩ := returns_ensureUser h₁
  obtain ⟨t₃, t₄, key, rfl, h₃, h₄⟩ := returns_bind.1 h₂
  obtain rfl := Program.ends_ask.1 h₃
  obtain ⟨rfl, rfl⟩ := returns_pure.1 h₄
  exact ⟨found, created, key, by simp [registerTurns], rfl⟩

/-- The removal of a user with the keys of `entries`. -/
def removeTurns (user : String) (entries : List KeyEntry) : List (Turn api) :=
  ⟨.listKeys user, .ok entries⟩ ::
    (entries.map (fun e => ⟨.deleteKey user e.id, .ok ()⟩) ++ [⟨.deleteUser user, .ok ()⟩])

theorem returns_removeKeys {user : String} {deleted keys : List String} {t : List (Turn api)}
    (h : Returns (removeKeys user deleted keys) t ()) :
    t = keys.map fun key => ⟨.deleteKey user key, .ok ()⟩ := by
  induction keys generalizing deleted t with
  | nil => exact (returns_pure.1 h).1
  | cons key rest ih =>
    obtain ⟨t₁, t₂, ⟨⟩, rfl, h₁, h₂⟩ := returns_bind.1 h
    rw [ih h₂]
    obtain ⟨t₃, t₄, r, rfl, h₃, h₄⟩ := Program.ends_bind.1 h₁
    cases r with
    | ok a =>
      obtain ⟨rfl, -⟩ := Program.ends_done.1 h₄
      obtain rfl := Program.ends_ask.1 (returns_mapError.1 h₃)
      rfl
    | error e =>
      obtain ⟨-, he⟩ := Program.ends_done.1 (Program.ends_note.1 h₄)
      cases he

theorem returns_remove {user : String} {t : List (Turn api)} (h : Returns (remove user) t ()) :
    ∃ entries, t = removeTurns user entries := by
  obtain ⟨t₁, t₂, entries, rfl, h₁, h₂⟩ := returns_bind.1 h
  obtain rfl := Program.ends_ask.1 (returns_mapError.1 h₁)
  obtain ⟨t₃, t₄, ⟨⟩, rfl, h₃, h₄⟩ := returns_bind.1 h₂
  obtain rfl := returns_removeKeys h₃
  obtain ⟨t₅, t₆, ⟨⟩, rfl, h₅, h₆⟩ := returns_bind.1 h₄
  obtain rfl := Program.ends_ask.1 (returns_mapError.1 h₅)
  obtain rfl := returns_log.1 h₆
  exact ⟨entries, by simp [removeTurns]⟩

end Users

namespace Provision

/-! ## Parts of operations -/

/-- What a client of object storage does, as a turn of the operation. -/
def atStorage (client : S) (u : Turn Storage.api) : Turn (api S U) :=
  ⟨.storage client u.call, u.reply⟩

def atUsers (client : U) (u : Turn Users.api) : Turn (api S U) := ⟨.users client u.call, u.reply⟩

theorem returns_credentials {name : SecretName} {t : List (Turn (api S U))} {c : Credentials} :
    Returns (credentials name) t c ↔ t = [⟨.secret name, .ok c⟩] :=
  returns_mapError.trans Program.ends_ask

theorem returns_connectStorage {account : Credentials} {t : List (Turn (api S U))} {client : S} :
    Returns (connectStorage account) t client ↔ t = [⟨.connectStorage account, .ok client⟩] :=
  returns_mapError.trans Program.ends_ask

theorem returns_connectUsers {account : Credentials} {t : List (Turn (api S U))} {client : U} :
    Returns (connectUsers account) t client ↔ t = [⟨.connectUsers account, .ok client⟩] :=
  returns_mapError.trans Program.ends_ask

theorem returns_onStorage {client : S} {step : StorageStep}
    {p : Attempt Storage.api Storage.Error α} {t : List (Turn (api S U))} {a : α} :
    Returns (onStorage client step p) t a ↔ ∃ t', t = t'.map (atStorage client) ∧ Returns p t' a :=
  returns_mapError.trans (Program.ends_via fun _ _ _ => Program.ends_ask)

theorem returns_onUsers {client : U} {wrap : ε → Error} {p : Attempt Users.api ε α}
    {t : List (Turn (api S U))} {a : α} :
    Returns (onUsers client wrap p) t a ↔ ∃ t', t = t'.map (atUsers client) ∧ Returns p t' a :=
  returns_mapError.trans (Program.ends_via fun _ _ _ => Program.ends_ask)

theorem returns_addStatement {client : S} {bucket principal locator : String}
    {model : Policy.AccessModel} {t : List (Turn (api S U))}
    (h : Returns (addStatement client bucket principal locator model) t ()) : ∃ policy,
      t = [⟨.storage client (.getPolicy bucket .missingPolicy), .ok policy⟩,
        ⟨.storage client (.putPolicy bucket
          (withStatement policy (.grant principal locator model bucket)) .nothing), .ok ()⟩] := by
  obtain ⟨t₁, t₂, policy, rfl, h₁, h₂⟩ := returns_bind.1 h
  obtain ⟨t₃, rfl, h₃⟩ := returns_onStorage.1 h₁
  obtain rfl := Program.ends_ask.1 h₃
  obtain ⟨t₄, rfl, h₄⟩ := returns_onStorage.1 h₂
  obtain rfl := Program.ends_ask.1 h₄
  exact ⟨policy, rfl⟩

/-- How the statements of a user are taken out of this policy: not at all if there are none, with
the policy if there are no others. -/
def editTurns (client : S) (bucket user : String) (policy : Option Policy.Document) :
    List (Turn (api S U)) :=
  match policy with
  | none => []
  | some d =>
    if ∀ s ∈ d.statements, s.sid ≠ user then []
    else if ∀ s ∈ d.statements, s.sid = user then
      [⟨.storage client (.deletePolicy bucket .missingBucketOrPolicy), .ok ()⟩]
    else
      [⟨.storage client (.putPolicy bucket (d.remove user) .missingBucketOrPolicy), .ok ()⟩]

theorem returns_removeStatement {client : S} {bucket user : String} {t : List (Turn (api S U))}
    (h : Returns (removeStatement client bucket user) t ()) : ∃ policy,
      t = ⟨.storage client (.getPolicy bucket .missingBucketOrPolicy), .ok policy⟩ ::
        editTurns client bucket user policy := by
  obtain ⟨t₁, t₂, policy, rfl, h₁, h₂⟩ := returns_bind.1 h
  obtain ⟨t₃, rfl, h₃⟩ := returns_onStorage.1 h₁
  obtain rfl := Program.ends_ask.1 h₃
  refine ⟨policy, congrArg _ ?_⟩
  cases policy with
  | none => exact returns_log.1 h₂
  | some d =>
    simp only [← Policy.Document.remove_alike_iff, ← Policy.Document.remove_isEmpty_iff]
    simp only at h₂
    split at h₂
    · next ha =>
      rw [if_pos ha]
      exact returns_log.1 h₂
    · next ha =>
      rw [if_neg ha]
      split at h₂
      · next he =>
        rw [if_pos he]
        obtain ⟨t₄, t₅, ⟨⟩, rfl, h₄, h₅⟩ := returns_bind.1 h₂
        obtain rfl := returns_log.1 h₄
        obtain ⟨t₆, rfl, h₆⟩ := returns_onStorage.1 h₅
        obtain rfl := Program.ends_ask.1 h₆
        rfl
      · next he =>
        rw [if_neg he]
        obtain ⟨t₄, rfl, h₄⟩ := returns_onStorage.1 h₂
        obtain rfl := Program.ends_ask.1 h₄
        rfl

/-! ## Runs without failures -/

/-- The replies to a grant; it creates a user only if none is `found`. -/
structure GrantReplies (S U : Type) where
  owner : Credentials
  storage : S
  grantee : Credentials
  users : U
  found : Option Users.User
  created : Users.User
  key : Users.AccessKey
  policy : Option Policy.Document

namespace GrantReplies

variable (a : GrantReplies S U)

def locator : String := (a.found.getD a.created).arn

/-- The policy that is put. -/
def document (bucket principal : String) (model : Policy.AccessModel) : Policy.Document :=
  withStatement a.policy (.grant principal a.locator model bucket)

def granted (principal : String) (grantee : SecretName) : Granted where
  accountId := (ResourceId.mk grantee.scope grantee.name principal).encode
  details := .of ⟨a.locator, a.key.id, a.key.secret⟩ a.owner.endpoint

end GrantReplies

def grantTurns (id : ResourceId) (principal : String) (grantee : SecretName)
    (model : Policy.AccessModel) (a : GrantReplies S U) : List (Turn (api S U)) :=
  [⟨.secret (.ofId id), .ok a.owner⟩,
    ⟨.connectStorage a.owner, .ok a.storage⟩,
    ⟨.storage a.storage (.headBucket id.resource), .ok ()⟩,
    ⟨.secret grantee, .ok a.grantee⟩,
    ⟨.connectUsers a.grantee, .ok a.users⟩,
    ⟨.users a.users (.getUser principal), .ok a.found⟩] ++
  (if a.found.isNone then [⟨.users a.users (.createUser principal), .ok a.created⟩] else []) ++
  [⟨.users a.users (.createKey principal), .ok a.key⟩,
    ⟨.storage a.storage (.getPolicy id.resource .missingPolicy), .ok a.policy⟩,
    ⟨.storage a.storage (.putPolicy id.resource (a.document id.resource principal model) .nothing),
      .ok ()⟩]

theorem returns_grantOn {id : ResourceId} {principal : String} {grantee : SecretName}
    {model : Policy.AccessModel} {t : List (Turn (api S U))} {g : Granted}
    (h : Returns (grantOn id principal grantee model) t g) : ∃ a : GrantReplies S U,
      t = grantTurns id principal grantee model a ∧ g = a.granted principal grantee := by
  obtain ⟨_, _, owner, rfl, c₁, h₁⟩ := returns_bind.1 h
  obtain rfl := returns_credentials.1 c₁
  obtain ⟨_, _, storage, rfl, c₂, h₂⟩ := returns_bind.1 h₁
  obtain rfl := returns_connectStorage.1 c₂
  obtain ⟨_, _, ⟨⟩, rfl, c₃, h₃⟩ := returns_bind.1 h₂
  obtain ⟨_, rfl, c₃'⟩ := returns_onStorage.1 c₃
  obtain rfl := Program.ends_ask.1 c₃'
  obtain ⟨_, _, grantee', rfl, c₄, h₄⟩ := returns_bind.1 h₃
  obtain rfl := returns_credentials.1 c₄
  obtain ⟨_, _, users, rfl, c₅, h₅⟩ := returns_bind.1 h₄
  obtain rfl := returns_connectUsers.1 c₅
  obtain ⟨_, _, registration, rfl, c₆, h₆⟩ := returns_bind.1 h₅
  obtain ⟨_, rfl, c₆'⟩ := returns_onUsers.1 c₆
  obtain ⟨found, created, key, rfl, rfl⟩ := Users.returns_register c₆'
  obtain ⟨_, _, ⟨⟩, rfl, c₇, h₇⟩ := returns_bind.1 h₆
  obtain ⟨policy, rfl⟩ := returns_addStatement c₇
  obtain ⟨_, _, ⟨⟩, rfl, c₈, h₈⟩ := returns_bind.1 h₇
  obtain rfl := returns_log.1 c₈
  obtain ⟨rfl, rfl⟩ := returns_pure.1 h₈
  refine ⟨⟨owner, storage, grantee', users, found, created, key, policy⟩, ?_, rfl⟩
  cases found <;> rfl

/-- The replies to a revocation. -/
structure RevocationReplies (S U : Type) where
  account : Credentials
  users : U
  entries : List Users.KeyEntry
  owner : Credentials
  storage : S
  policy : Option Policy.Document

def revocationTurns (id account : ResourceId) (a : RevocationReplies S U) :
    List (Turn (api S U)) :=
  [⟨.secret (.ofId account), .ok a.account⟩,
    ⟨.connectUsers a.account, .ok a.users⟩,
    ⟨.users a.users (.listKeys account.resource), .ok a.entries⟩] ++
  a.entries.map (fun e => ⟨.users a.users (.deleteKey account.resource e.id), .ok ()⟩) ++
  [⟨.users a.users (.deleteUser account.resource), .ok ()⟩,
    ⟨.secret (.ofId id), .ok a.owner⟩,
    ⟨.connectStorage a.owner, .ok a.storage⟩,
    ⟨.storage a.storage (.getPolicy id.resource .missingBucketOrPolicy), .ok a.policy⟩] ++
  editTurns a.storage id.resource account.resource a.policy

theorem returns_revokeOn {id account : ResourceId} {t : List (Turn (api S U))}
    (h : Returns (revokeOn id account) t ()) : ∃ a : RevocationReplies S U,
      t = revocationTurns id account a := by
  obtain ⟨_, _, credentials', rfl, c₁, h₁⟩ := returns_bind.1 h
  obtain rfl := returns_credentials.1 c₁
  obtain ⟨_, _, users, rfl, c₂, h₂⟩ := returns_bind.1 h₁
  obtain rfl := returns_connectUsers.1 c₂
  obtain ⟨_, _, ⟨⟩, rfl, c₃, h₃⟩ := returns_bind.1 h₂
  obtain ⟨_, rfl, c₃'⟩ := returns_onUsers.1 c₃
  obtain ⟨entries, rfl⟩ := Users.returns_remove c₃'
  obtain ⟨_, _, owner, rfl, c₄, h₄⟩ := returns_bind.1 h₃
  obtain rfl := returns_credentials.1 c₄
  obtain ⟨_, _, storage, rfl, c₅, h₅⟩ := returns_bind.1 h₄
  obtain rfl := returns_connectStorage.1 c₅
  obtain ⟨policy, rfl⟩ := returns_removeStatement h₅
  refine ⟨⟨credentials', users, entries, owner, storage, policy⟩, ?_⟩
  simp [revocationTurns, Users.removeTurns, atUsers, Function.comp_def]

/-! ## Promptness -/

theorem prompt_addStatement (client : S) (bucket principal locator : String)
    (model : Policy.AccessModel) :
    Prompt (U := U) (addStatement client bucket principal locator model) := by
  refine .bind (prompt_onStorage client _ ?_) fun policy => ?_
  · exact .reply (fun r => r) (fun _ => rfl) fun _ => rfl
  exact prompt_onStorage client _ (.reply (fun r => r) (fun _ => rfl) fun _ => rfl)

theorem prompt_grantOn (id : ResourceId) (principal : String) (grantee : SecretName)
    (model : Policy.AccessModel) :
    Prompt (S := S) (U := U) (grantOn id principal grantee model) := by
  refine .bind (prompt_credentials _) fun owner => ?_
  refine .bind (prompt_connectStorage _) fun storage => ?_
  refine .bind (prompt_onStorage _ _ ?_) fun _ => ?_
  · exact .reply (fun r => r) (fun _ => rfl) fun _ => rfl
  refine .bind (prompt_credentials _) fun account => ?_
  refine .bind (prompt_connectUsers _) fun users => ?_
  refine .bind (prompt_onUsers _ (fun _ => rfl) (Users.failsFast_register _)) fun registration => ?_
  refine .bind (prompt_addStatement _ _ _ _ _) fun _ => ?_
  exact .bind (prompt_info _ _) fun _ => .pure _

theorem prompt_removeStatement (client : S) (bucket user : String) :
    Prompt (U := U) (removeStatement client bucket user) := by
  refine .bind (prompt_onStorage client _ ?_) fun policy => ?_
  · exact .reply (fun r => r) (fun _ => rfl) fun _ => rfl
  cases policy with
  | none => exact prompt_info _ _
  | some d =>
    simp only
    split
    · exact prompt_info _ _
    · split
      · refine .bind (prompt_info _ _) fun _ => ?_
        exact prompt_onStorage client _ (.reply (fun r => r) (fun _ => rfl) fun _ => rfl)
      · exact prompt_onStorage client _ (.reply (fun r => r) (fun _ => rfl) fun _ => rfl)

theorem prompt_revokeOn (id account : ResourceId) :
    Prompt (S := S) (U := U) (revokeOn id account) := by
  refine .bind (prompt_credentials _) fun _ => ?_
  refine .bind (prompt_connectUsers _) fun users => ?_
  refine .bind (prompt_onUsers _ (fun _ => rfl) (Users.failsFast_remove _)) fun _ => ?_
  refine .bind (prompt_credentials _) fun _ => ?_
  refine .bind (prompt_connectStorage _) fun storage => ?_
  exact prompt_removeStatement _ _ _

/-! ## Whole operations -/

theorem ends_handle {operation : Operation} {fields : List (String × String)}
    {p : Attempt (api S U) Error α} {t : List (Turn (api S U))} {r : Except Error α} :
    (handle operation fields p).Ends t r ↔ p.run.Ends t r := by
  have hr : ∀ x,
      (reporting operation (Attempt.ofExcept x : Attempt (api S U) Error α)).Ends [] x := by
    intro x
    cases x <;> exact .note (.done _)
  show Program.Ends
    (.note _ (p.run.bind fun x => reporting operation (Attempt.ofExcept x))) t r ↔ _
  rw [Program.ends_note, Program.ends_bind]
  constructor
  · rintro ⟨t₁, t₂, x, rfl, h₁, h₂⟩
    obtain ⟨rfl, rfl⟩ := (hr x).eq_of_nil h₂
    simpa using h₁
  · intro h; exact ⟨t, [], r, by simp, h, hr r⟩

/-- The calls of `body`, with the lock of `key` held around them. -/
def locked (key : String) (body : List (Turn (api S U))) : List (Turn (api S U)) :=
  ⟨.lock key, ()⟩ :: (body ++ [⟨.unlock key, ()⟩])

theorem ends_withLock {key : String} {p : Attempt (api S U) Error α} {t : List (Turn (api S U))}
    {r : Except Error α} :
    (withLock key p).run.Ends t r ↔ ∃ body, t = locked key body ∧ p.run.Ends body r := by
  show Program.Ends (.call (Call.lock key) _) t r ↔ _
  rw [Program.ends_call]
  constructor
  · rintro ⟨⟨⟩, t', rfl, h⟩
    obtain ⟨body, t₂, x, rfl, h₁, h₂⟩ := Program.ends_bind.1 h
    obtain ⟨⟨⟩, t₃, rfl, h₃⟩ := Program.ends_call.1 h₂
    obtain ⟨rfl, rfl⟩ := Program.ends_done.1 h₃
    exact ⟨body, rfl, h₁⟩
  · rintro ⟨body, rfl, h⟩
    exact ⟨(), _, rfl, Program.ends_bind.2 ⟨body, _, r, rfl, h, .call (.done r)⟩⟩

theorem run_grant_of_error {r : Grant} {flaw : Flaw} (h : r.check = .error flaw) :
    (grant r : Attempt (api S U) Error Granted).run = .done (.error (.invalid .grant flaw)) := by
  unfold grant; rw [h]; rfl

theorem run_grant_of_ok {r : Grant} {grantee : SecretName} {model : Policy.AccessModel}
    (h : r.check = .ok (grantee, model)) : (grant r : Attempt (api S U) Error Granted).run =
      (withLock r.bucketId (decodeId r.bucketId >>= fun id =>
        grantOn id r.principal grantee model)).run := by
  unfold grant; rw [h]; rfl

theorem run_revoke_of_error {r : Revocation} {flaw : Flaw} (h : r.check = .error flaw) :
    (revoke r : Attempt (api S U) Error Unit).run = .done (.error (.invalid .revoke flaw)) := by
  unfold revoke; rw [h]; rfl

theorem run_revoke_of_ok {r : Revocation} (h : r.check = .ok ()) :
    (revoke r : Attempt (api S U) Error Unit).run =
      (withLock r.bucketId (decodeId r.accountId >>= fun account =>
        decodeId r.bucketId >>= fun id => revokeOn id account)).run := by
  unfold revoke; rw [h]; rfl

theorem run_decodeId_bind_of_error {id : String} {e : ResourceId.Error}
    (h : ResourceId.decode id = .error e) (f : ResourceId → Attempt (api S U) Error α) :
    (decodeId id >>= f).run = .done (.error (.badId id e)) := by
  unfold decodeId; rw [h]; rfl

theorem run_decodeId_bind_of_ok {id : String} {i : ResourceId}
    (h : ResourceId.decode id = .ok i) (f : ResourceId → Attempt (api S U) Error α) :
    (decodeId id >>= f).run = (f i).run := by
  unfold decodeId; rw [h]; rfl

/-- The calls `t` and the result of a grant, by what becomes of the request: one that is flawed or
whose id is none makes no calls to collaborators. -/
def GrantConforms (r : Grant) (t : List (Turn (api S U))) (result : Except Error Granted) : Prop :=
  match r.check with
  | .error flaw => t = [] ∧ result = .error (.invalid .grant flaw)
  | .ok (grantee, model) => ∃ body, t = locked r.bucketId body ∧
    match ResourceId.decode r.bucketId with
    | .error e => body = [] ∧ result = .error (.badId r.bucketId e)
    | .ok id => ∃ a : GrantReplies S U,
      FailStop cause? Error.cause? (grantTurns id r.principal grantee model a)
        (a.granted r.principal grantee) body result

/-- The calls `t` and the result of a revocation; the account's id is decoded first. -/
def RevocationConforms (r : Revocation) (t : List (Turn (api S U))) (result : Except Error Unit) :
    Prop :=
  match r.check with
  | .error flaw => t = [] ∧ result = .error (.invalid .revoke flaw)
  | .ok () => ∃ body, t = locked r.bucketId body ∧
    match ResourceId.decode r.accountId, ResourceId.decode r.bucketId with
    | .error e, _ => body = [] ∧ result = .error (.badId r.accountId e)
    | .ok _, .error e => body = [] ∧ result = .error (.badId r.bucketId e)
    | .ok account, .ok id => ∃ a : RevocationReplies S U,
      FailStop cause? Error.cause? (revocationTurns id account a) () body result

section

variable [Inhabited S] [Inhabited U]

theorem grant_conforms {r : Grant} {t : List (Turn (api S U))} {result : Except Error Granted}
    (h : (handleGrant r).Ends t result) : GrantConforms r t result := by
  have hg := ends_handle.1 h
  unfold GrantConforms
  split
  · next flaw hc =>
    rw [run_grant_of_error hc] at hg
    obtain ⟨rfl, rfl⟩ := Program.ends_done.1 hg
    exact ⟨rfl, rfl⟩
  · next grantee model hc =>
    rw [run_grant_of_ok hc] at hg
    obtain ⟨body, rfl, hb⟩ := ends_withLock.1 hg
    refine ⟨body, rfl, ?_⟩
    split
    · next e hd =>
      rw [run_decodeId_bind_of_error hd] at hb
      obtain ⟨rfl, rfl⟩ := Program.ends_done.1 hb
      exact ⟨rfl, rfl⟩
    · next id hd =>
      rw [run_decodeId_bind_of_ok hd] at hb
      obtain ⟨full, g, hfull, hstop⟩ := FailsFast.failStop cause?_good (prompt_grantOn _ _ _ _) hb
      obtain ⟨a, rfl, rfl⟩ := returns_grantOn hfull
      exact ⟨a, hstop⟩

theorem revocation_conforms {r : Revocation} {t : List (Turn (api S U))}
    {result : Except Error Unit} (h : (handleRevocation r).Ends t result) :
    RevocationConforms r t result := by
  have hg := ends_handle.1 h
  unfold RevocationConforms
  split
  · next flaw hc =>
    rw [run_revoke_of_error hc] at hg
    obtain ⟨rfl, rfl⟩ := Program.ends_done.1 hg
    exact ⟨rfl, rfl⟩
  · next hc =>
    rw [run_revoke_of_ok hc] at hg
    obtain ⟨body, rfl, hb⟩ := ends_withLock.1 hg
    refine ⟨body, rfl, ?_⟩
    split
    · next e hd =>
      rw [run_decodeId_bind_of_error hd] at hb
      obtain ⟨rfl, rfl⟩ := Program.ends_done.1 hb
      exact ⟨rfl, rfl⟩
    · next account e ha hd =>
      rw [run_decodeId_bind_of_ok ha, run_decodeId_bind_of_error hd] at hb
      obtain ⟨rfl, rfl⟩ := Program.ends_done.1 hb
      exact ⟨rfl, rfl⟩
    · next account id ha hd =>
      rw [run_decodeId_bind_of_ok ha, run_decodeId_bind_of_ok hd] at hb
      obtain ⟨full, g, hfull, hstop⟩ := FailsFast.failStop cause?_good (prompt_revokeOn _ _) hb
      obtain ⟨a, rfl⟩ := returns_revokeOn hfull
      exact ⟨a, hstop⟩

/-- Whatever the collaborators reply, an operation makes the calls of a run without failures, in
their order, up to the first that fails; it succeeds exactly if none fails. -/
theorem calls_conform (answer : (c : Call S U) → W → c.Reply × W) (w : W) :
    (∀ r : Grant, GrantConforms r ((handleGrant r).turns answer w)
      ((handleGrant r).run answer w).1) ∧
    ∀ r : Revocation, RevocationConforms r ((handleRevocation r).turns answer w)
      ((handleRevocation r).run answer w).1 :=
  ⟨fun r => grant_conforms ((handleGrant r).ends_turns answer w),
    fun r => revocation_conforms ((handleRevocation r).ends_turns answer w)⟩

end

end Provision

end BucketAccess
