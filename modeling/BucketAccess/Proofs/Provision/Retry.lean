import BucketAccess.Proofs.Provision.Effect

/-!
# Retries

An operation that broke off at a failure may be made again. Wherever it stopped, and whether or not
the call that failed took effect, the next run without failures leaves what a single one would have
left.
-/

namespace BucketAccess.Provision

open Program (Follows)
open Policy (statementsOf)
open Backend (Step)

variable {S U α : Type} {locatorOf : String → String} {mid : Backend → Prop} {P : Prop}
  {s m : Backend} {operation : Operation} {fields : List (String × String)} {key : String}
  {p q : Attempt (api S U) Error α}

/-! ## Around the lock -/

/-- One call failed, with or without effect, and the run ended with the state `m`. -/
def BrokenOff (locatorOf : String → String) (p : Program (api S U) α) (s m : Backend) : Prop :=
  Interrupted (Step locatorOf) (fun u => (cause? u).isSome) p s m

theorem follows_locked_step {body : List (Turn (api S U))} :
    Follows (Step locatorOf) s (locked key body) m ↔ Follows (Step locatorOf) s body m := by
  constructor
  · rintro ⟨_, rfl, h⟩
    obtain ⟨v, hbody, _, rfl, rfl⟩ := Program.follows_append.1 h
    exact hbody
  · intro h
    exact ⟨s, rfl, Program.follows_append.2 ⟨m, h, m, rfl, rfl⟩⟩

/-- A turn that fails is one of the operation itself. -/
theorem eq_of_append_eq_locked {before after body : List (Turn (api S U))} {v : Turn (api S U)}
    (h : before ++ v :: after = locked key body) (hv : (cause? v).isSome) :
    ∃ first last, before = ⟨.lock key, ()⟩ :: first ∧ after = last ++ [⟨.unlock key, ()⟩] ∧
      body = first ++ v :: last := by
  cases before with
  | nil =>
    obtain ⟨rfl, -⟩ := List.cons.inj h
    cases hv
  | cons u first =>
    have hrest : first ++ v :: after = body ++ [⟨.unlock key, ()⟩] := (List.cons.inj h).2
    obtain rfl := (List.cons.inj h).1
    rcases List.eq_nil_or_concat after with rfl | ⟨last, w, rfl⟩
    · obtain ⟨-, hv'⟩ := List.append_inj' hrest rfl
      obtain rfl := List.singleton_inj.1 hv'
      cases hv
    · rw [List.concat_eq_append, ← List.cons_append, ← List.append_assoc] at hrest
      obtain ⟨rfl, hw⟩ := List.append_inj' hrest rfl
      exact ⟨first, last, rfl, by rw [List.concat_eq_append, hw], rfl⟩

theorem brokenOff_handle (hq : q.run = (withLock key p).run) :
    BrokenOff locatorOf (handle operation fields q) s m ↔ BrokenOff locatorOf p.run s m := by
  constructor
  · rintro ⟨before, v, after, r, s₁, s₂, ht, hbefore, hv, heffect, hafter⟩
    rw [ends_handle, hq, ends_withLock] at ht
    obtain ⟨body, hturns, hbody⟩ := ht
    obtain ⟨first, last, rfl, rfl, rfl⟩ := eq_of_append_eq_locked hturns hv
    obtain ⟨_, rfl, hfirst⟩ := hbefore
    obtain ⟨_, hlast, _, rfl, rfl⟩ := Program.follows_append.1 hafter
    exact ⟨first, v, last, r, s₁, s₂, hbody, hfirst, hv, heffect, hlast⟩
  · rintro ⟨first, v, last, r, s₁, s₂, hbody, hfirst, hv, heffect, hlast⟩
    refine ⟨⟨.lock key, ()⟩ :: first, v, last ++ [⟨.unlock key, ()⟩], r, s₁, s₂, ?_,
      ⟨s, rfl, hfirst⟩, hv, heffect, Program.follows_append.2 ⟨m, hlast, ?_⟩⟩
    · rw [ends_handle, hq, ends_withLock]
      exact ⟨first ++ v :: last, by simp [locked], hbody⟩
    · exact ⟨m, rfl, rfl⟩

theorem ensures_handle [Inhabited S] [Inhabited U] {post : α → Backend → Prop}
    (hq : q.run = (withLock key p).run) (hp : Succeeds (Step locatorOf) (WritesIf P) mid post p s) :
    Ensures (Step locatorOf) (handle operation fields q) s fun t r m =>
      (∃ a, r = .ok a ∧ post a m) ∧ ∀ u ∈ t, WritesIf P u.call := by
  refine ⟨exists_completes Backend.exists_step _ s, ?_⟩
  rintro t r m ⟨ht, hf⟩
  rw [ends_handle, hq, ends_withLock] at ht
  obtain ⟨body, rfl, hbody⟩ := ht
  obtain ⟨hpost, hmay⟩ := Holds.completes hp ⟨hbody, follows_locked_step.1 hf⟩
  refine ⟨hpost, List.forall_mem_cons.2 ⟨nofun, List.forall_mem_append.2 ⟨hmay, ?_⟩⟩⟩
  exact List.forall_mem_singleton.2 nofun

theorem run_revoke {r : Revocation} {account id : ResourceId} (hc : r.check = .ok ())
    (ha : ResourceId.decode r.accountId = .ok account)
    (hd : ResourceId.decode r.bucketId = .ok id) :
    (revoke r : Attempt (api S U) Error Unit).run =
      (withLock r.bucketId (revokeOn id account)).run := by
  have hbody : (decodeId r.accountId >>= fun account => decodeId r.bucketId >>= fun id =>
      revokeOn id account : Attempt (api S U) Error Unit) = revokeOn id account :=
    (run_decodeId_bind_of_ok ha _).trans (run_decodeId_bind_of_ok hd _)
  rw [run_revoke_of_ok hc, hbody]

theorem run_grant {r : Grant} {grantee : SecretName} {model : Policy.AccessModel} {id : ResourceId}
    (hc : r.check = .ok (grantee, model)) (hd : ResourceId.decode r.bucketId = .ok id) :
    (grant r : Attempt (api S U) Error Granted).run =
      (withLock r.bucketId (grantOn id r.principal grantee model)).run := by
  have hbody : (decodeId r.bucketId >>= fun id => grantOn id r.principal grantee model :
      Attempt (api S U) Error Granted) = grantOn id r.principal grantee model :=
    run_decodeId_bind_of_ok hd _
  rw [run_grant_of_ok hc, hbody]

/-! ## Revocations -/

/-- A single revocation from `s` and one from `m` leave the same, in which there is no trace of the
user; one more finds nothing to do. -/
def RevocationConverges (S U : Type) (locatorOf : String → String) (r : Revocation)
    (user bucket : String) (s m : Backend) : Prop :=
  ∃ s' : Backend, s'.users user = none ∧ (∀ t ∈ statementsOf (s'.policy bucket), t.sid ≠ user) ∧
    (∀ v ∈ [s, m], Ensures (Step (S := S) (U := U) locatorOf) (handleRevocation r) v
      fun _ result x => result = .ok () ∧ x = s') ∧
    Ensures (Step (S := S) (U := U) locatorOf) (handleRevocation r) s'
      fun t result x => result = .ok () ∧ x = s' ∧ ∀ u ∈ t, u.call.writesPolicy = false

section

variable [Inhabited S] [Inhabited U]

theorem ensures_revocation {r : Revocation} {account id : ResourceId} (hc : r.check = .ok ())
    (ha : ResourceId.decode r.accountId = .ok account)
    (hd : ResourceId.decode r.bucketId = .ok id) (v : Backend) :
    Ensures (Step (S := S) (U := U) locatorOf) (handleRevocation r) v fun t result x =>
      result = .ok () ∧ x = revoked account.resource id.resource v ∧
        ∀ u ∈ t, WritesIf (∃ t ∈ statementsOf (v.policy id.resource), t.sid = account.resource)
          u.call := by
  refine (ensures_handle (run_revoke hc ha hd) (succeeds_revokeOn id account v)).mono ?_
  rintro t _ x ⟨⟨_, rfl, rfl⟩, hmay⟩
  exact ⟨rfl, rfl, hmay⟩

theorem revocation_converges {r : Revocation} {account id : ResourceId} (hc : r.check = .ok ())
    (ha : ResourceId.decode r.accountId = .ok account)
    (hd : ResourceId.decode r.bucketId = .ok id)
    (h : BrokenOff (S := S) (U := U) locatorOf (handleRevocation r) s m) :
    RevocationConverges S U locatorOf r account.resource id.resource s m := by
  have hpartly : Partly account.resource id.resource (.take account.resource) s m :=
    Holds.interrupted (prompt_revokeOn id account) (succeeds_revokeOn id account s)
      ((brokenOff_handle (run_revoke hc ha hd)).1 h)
  have hnone : ∀ t ∈ statementsOf ((revoked account.resource id.resource s).policy id.resource),
      t.sid ≠ account.resource := by
    intro t ht
    rw [statementsOf_taken rfl] at ht
    exact of_decide_eq_true (List.mem_filter.1 ht).2
  refine ⟨revoked account.resource id.resource s, revoked_users_self, hnone, ?_, ?_⟩
  · have hsame : ∀ v ∈ [s, m], revoked account.resource id.resource v =
        revoked account.resource id.resource s :=
      List.forall_mem_cons.2 ⟨rfl, List.forall_mem_singleton.2 (revoked_of_partly hpartly)⟩
    intro v hv
    refine (ensures_revocation hc ha hd v).mono fun t result x hx => ?_
    exact ⟨hx.1, hx.2.1.trans (hsame v hv)⟩
  · refine (ensures_revocation hc ha hd _).mono fun t result x hx => ?_
    refine ⟨hx.1, hx.2.1.trans (revoked_of_partly partly_revoked), fun u hu => ?_⟩
    refine Bool.eq_false_iff.2 fun hw => ?_
    obtain ⟨t, ht, hsid⟩ := hx.2.2 u hu hw
    exact hnone t ht hsid

end

/-! ## Grants -/

/-- Nothing but the keys of the user, which both states have, differs. -/
structure SameButKeys (user : String) (s m : Backend) : Prop where
  users : ∀ x, x ≠ user → m.users x = s.users x
  user : ∃ locator keys keys', s.users user = some ⟨locator, keys⟩ ∧
    m.users user = some ⟨locator, keys'⟩
  buckets : m.buckets = s.buckets

/-- A single grant from `s` and one from `m` leave the same but for the keys of the user. -/
def GrantConverges (S U : Type) (locatorOf : String → String) (r : Grant) (s m : Backend) : Prop :=
  ∃ s' : Backend, ∀ v ∈ [s, m], Ensures (Step (S := S) (U := U) locatorOf) (handleGrant r) v
    fun _ result x => (∃ granted, result = .ok granted) ∧ SameButKeys r.principal s' x

section

variable [Inhabited S] [Inhabited U]

theorem ensures_grant {r : Grant} {grantee : SecretName} {model : Policy.AccessModel}
    {id : ResourceId} (hc : r.check = .ok (grantee, model))
    (hd : ResourceId.decode r.bucketId = .ok id) {v : Backend}
    (hbucket : (v.buckets id.resource).isSome) :
    Ensures (Step (S := S) (U := U) locatorOf) (handleGrant r) v fun _ result x =>
      (∃ granted, result = .ok granted) ∧
        AfterGrant locatorOf r.principal id.resource model v x := by
  refine (ensures_handle (run_grant hc hd) (succeeds_grantOn id _ grantee model hbucket)).mono ?_
  rintro t _ x ⟨⟨granted, rfl, hafter⟩, -⟩
  exact ⟨⟨granted, rfl⟩, hafter⟩

theorem grant_converges {r : Grant} {grantee : SecretName} {model : Policy.AccessModel}
    {id : ResourceId} (hc : r.check = .ok (grantee, model))
    (hd : ResourceId.decode r.bucketId = .ok id) (hbucket : (s.buckets id.resource).isSome)
    (h : BrokenOff (S := S) (U := U) locatorOf (handleGrant r) s m) :
    GrantConverges S U locatorOf r s m := by
  have hduring : DuringGrant locatorOf r.principal id.resource model s m :=
    Holds.interrupted (prompt_grantOn id r.principal grantee model)
      (succeeds_grantOn id r.principal grantee model hbucket)
      ((brokenOff_handle (run_grant hc hd)).1 h)
  have hs : DuringGrant locatorOf r.principal id.resource model s s :=
    ⟨.of_onlyUser (.refl _ s), rfl⟩
  have hall : ∀ v ∈ [s, m], DuringGrant locatorOf r.principal id.resource model s v :=
    List.forall_mem_cons.2 ⟨hs, List.forall_mem_singleton.2 hduring⟩
  refine ⟨⟨Function.update s.users r.principal (some ⟨locatorAt locatorOf s r.principal, []⟩),
    edited id.resource (granting locatorOf r.principal id.resource model s) s.buckets⟩, ?_⟩
  intro v hv
  have hv := hall v hv
  refine (ensures_grant hc hd (hv.partly.isSome_bucket ▸ hbucket)).mono fun t result x hx => ?_
  have hx' := AfterGrant.of_during hv hx.2
  obtain ⟨keys, hkeys⟩ := hx'.user
  refine ⟨hx.1, fun y hy => ?_, ⟨_, [], keys, Function.update_self _ _ _, hkeys⟩, hx'.buckets⟩
  exact (hx'.users y hy).trans (Function.update_of_ne hy _ _).symm

/-! ## Both -/

/-- An operation that broke off at any call, made again without failures, leaves what a single one
without failures leaves. -/
theorem retry_converges (locatorOf : String → String) (s m : Backend) :
    (∀ (r : Revocation) (account id : ResourceId), r.check = .ok () →
      ResourceId.decode r.accountId = .ok account → ResourceId.decode r.bucketId = .ok id →
      BrokenOff (S := S) (U := U) locatorOf (handleRevocation r) s m →
      RevocationConverges S U locatorOf r account.resource id.resource s m) ∧
    ∀ (r : Grant) (grantee : SecretName) (model : Policy.AccessModel) (id : ResourceId),
      r.check = .ok (grantee, model) → ResourceId.decode r.bucketId = .ok id →
      (s.buckets id.resource).isSome →
      BrokenOff (S := S) (U := U) locatorOf (handleGrant r) s m →
      GrantConverges S U locatorOf r s m :=
  ⟨fun _ _ _ hc ha hd h => revocation_converges hc ha hd h,
    fun _ _ _ _ hc hd hbucket h => grant_converges hc hd hbucket h⟩

end

/-! ## Runs that break off -/

def ofOwner : ResourceId := ⟨"owners", "owner", "bucket"⟩

def ofReader : ResourceId := ⟨"grantees", "grantee", "reader"⟩

def revocationOfReader : Revocation := ⟨"owners/owner/bucket", "grantees/grantee/reader"⟩

def grantToReader : Grant :=
  ⟨"owners/owner/bucket", "reader", .key,
    .ofList [("accountSecretName", "grantee"), ("accountSecretNamespace", "grantees")]⟩

def someAccount : Credentials := ⟨"", "", "", none⟩

/-- The reader has these keys, and all buckets are without a policy. -/
def readerWith (keys : List String) : Backend :=
  ⟨Function.update (fun _ => none) "reader" (some ⟨"locator", keys⟩), fun _ => some none⟩

theorem readerWith_self (keys : List String) :
    (readerWith keys).users "reader" = some ⟨"locator", keys⟩ :=
  Function.update_self "reader" _ fun _ => none

theorem update_readerWith (keys keys' : List String) :
    Function.update (readerWith keys).users "reader" (some ⟨"locator", keys'⟩) =
      (readerWith keys').users := Function.update_idem _ _ _

/-- The key is deleted, but the reply is an error. -/
theorem brokenOff_revocation : BrokenOff (S := Unit) (U := Unit) id
    (revokeOn ofOwner ofReader).run (readerWith ["key"]) (readerWith []) := by
  refine ⟨[⟨.secret (.ofId ofReader), .ok someAccount⟩, ⟨.connectUsers someAccount, .ok ()⟩,
      ⟨.users () (.listKeys "reader"), .ok [⟨"", "key", "", "", ""⟩]⟩],
    ⟨.users () (.deleteKey "reader" "key"), .error .noParams⟩, [],
    .error (.removal ⟨"reader", .deleteKey, [], ["key"], .noParams⟩),
    readerWith ["key"], readerWith [], ?_, ?_, rfl, .inr ⟨.ok (), .ok (), ?_, rfl, rfl⟩, rfl⟩
  · exact .call (.call (.call (.call (.note (.done _)))))
  · refine ⟨_, ⟨⟨_, rfl⟩, rfl⟩, _, ⟨⟨_, rfl⟩, rfl⟩, _, ⟨.ok _, ?_, rfl, rfl⟩, rfl⟩
    simp only [Users.Serves, readerWith_self]
    exact ⟨⟨_, rfl, rfl⟩, trivial⟩
  · simp only [Users.Serves, readerWith_self]
    exact ⟨rfl, (update_readerWith _ _).symm⟩

/-- There is a new key, but the reply is an error. -/
theorem brokenOff_grant : BrokenOff (S := Unit) (U := Unit) id
    (grantOn ofOwner "reader" ⟨"grantees", "grantee"⟩ .readWrite).run (readerWith [])
    (readerWith ["key"]) := by
  refine ⟨[⟨.secret (.ofId ofOwner), .ok someAccount⟩, ⟨.connectStorage someAccount, .ok ()⟩,
      ⟨.storage () (.headBucket "bucket"), .ok ()⟩,
      ⟨.secret ⟨"grantees", "grantee"⟩, .ok someAccount⟩, ⟨.connectUsers someAccount, .ok ()⟩,
      ⟨.users () (.getUser "reader"), .ok (some ⟨"", "", "", "locator", ""⟩)⟩],
    ⟨.users () (.createKey "reader"), .error .noParams⟩, [],
    .error (.users (.register "reader") .noParams),
    readerWith [], readerWith ["key"], ?_, ?_, rfl,
    .inr ⟨.ok ⟨"", "key", "", "", "", ""⟩, .ok ⟨"", "key", "", "", "", ""⟩, ?_, rfl, rfl⟩, rfl⟩
  · exact .call (.call (.call (.call (.call (.call (.note (.call (.done _))))))))
  · refine ⟨_, ⟨⟨_, rfl⟩, rfl⟩, _, ⟨⟨_, rfl⟩, rfl⟩, _, ⟨.ok _, ⟨rfl, rfl⟩, rfl, rfl⟩,
      _, ⟨⟨_, rfl⟩, rfl⟩, _, ⟨⟨_, rfl⟩, rfl⟩, _, ⟨.ok _, ?_, rfl, rfl⟩, rfl⟩
    simp only [Users.Serves, readerWith_self]
    exact ⟨⟨_, rfl, rfl⟩, trivial⟩
  · simp only [Users.Serves, readerWith_self]
    exact ⟨_, rfl, (update_readerWith _ _).symm⟩

theorem retry_converges_reader :
    RevocationConverges Unit Unit id revocationOfReader "reader" "bucket" (readerWith ["key"])
      (readerWith []) ∧
    GrantConverges Unit Unit id grantToReader (readerWith []) (readerWith ["key"]) :=
  ⟨(retry_converges _ _ _).1 _ ofReader ofOwner rfl rfl rfl
      ((brokenOff_handle (run_revoke rfl rfl rfl)).2 brokenOff_revocation),
    (retry_converges _ _ _).2 _ _ .readWrite ofOwner rfl rfl rfl
      ((brokenOff_handle (run_grant rfl rfl)).2 brokenOff_grant)⟩

end BucketAccess.Provision
