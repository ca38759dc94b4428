import BucketAccess.Proofs.Provision.Backend
import BucketAccess.Proofs.Provision.CallSequence

/-!
# Effects

What operations do to a backend when no call fails, part by part, and which states they go through
meanwhile: every call succeeds, users and buckets other than those of the operation stay as they
are, and the policy is edited at once or not at all.
-/

namespace BucketAccess.Provision

open Policy (Document Statement Edit statementsOf)
open Backend (Step OnlyUser UsersServe StorageServe)

variable {S U α ε : Type} {locatorOf : String → String} {mid : Backend → Prop} {P : Prop}
  {s v : Backend} {user bucket : String}

def Call.writesPolicy : Call S U → Bool
  | .storage _ (.putPolicy ..) | .storage _ (.deletePolicy ..) => true
  | _ => false

/-- Policies are written only if `P`. -/
def WritesIf (P : Prop) (c : Call S U) : Prop := c.writesPolicy = true → P

/-! ## Look-ups -/

theorem succeeds_credentials (hmid : mid s) (name : SecretName) :
    Succeeds (Step (S := S) (U := U) locatorOf) (WritesIf P) mid (fun _ m => m = s)
      (credentials name) s := by
  refine .mapError (.ask (fun r => r) (fun _ => rfl) nofun hmid ?_)
  rintro r _ ⟨⟨c, rfl⟩, rfl⟩
  exact ⟨hmid, c, rfl, rfl⟩

theorem succeeds_connectStorage (hmid : mid s) (account : Credentials) :
    Succeeds (Step (S := S) (U := U) locatorOf) (WritesIf P) mid (fun _ m => m = s)
      (connectStorage account) s := by
  refine .mapError (.ask (fun r => r) (fun _ => rfl) nofun hmid ?_)
  rintro r _ ⟨⟨c, rfl⟩, rfl⟩
  exact ⟨hmid, c, rfl, rfl⟩

theorem succeeds_connectUsers (hmid : mid s) (account : Credentials) :
    Succeeds (Step (S := S) (U := U) locatorOf) (WritesIf P) mid (fun _ m => m = s)
      (connectUsers account) s := by
  refine .mapError (.ask (fun r => r) (fun _ => rfl) nofun hmid ?_)
  rintro r _ ⟨⟨c, rfl⟩, rfl⟩
  exact ⟨hmid, c, rfl, rfl⟩

theorem succeeds_onUsers {post : α → Backend → Prop} {p : Attempt Users.api ε α} {client : U}
    {wrap : ε → Error}
    (hp : Succeeds (UsersServe locatorOf) (fun _ => True) mid post p s) :
    Succeeds (Step (S := S) locatorOf) (WritesIf P) mid post (onUsers client wrap p) s := by
  have hp' : Holds (UsersServe locatorOf) (fun c => WritesIf (S := S) P (.users client c)) mid
      (fun r m => ∃ a, r = .ok a ∧ post a m) p.run s :=
    hp.mono (fun _ _ => nofun) fun _ _ h => h
  have hvia : Holds (Step (S := S) locatorOf) (WritesIf P) mid
      (fun r m => ∃ a, r = .ok a ∧ post a m)
      (p.run.via fun c => .call (Call.users client c) .done) s :=
    Holds.via (σ := Users.api) (τ := api S U) (f := Call.users client) (g := fun _ r => r)
      (fun _ _ _ _ h => h) hp'
  exact .mapError hvia

theorem succeeds_onStorage {post : α → Backend → Prop} {client : S}
    {step : StorageStep} {p : Attempt Storage.api Storage.Error α}
    (hp : Succeeds StorageServe (fun c => WritesIf (U := U) P (.storage client c)) mid post p s) :
    Succeeds (Step (U := U) locatorOf) (WritesIf P) mid post (onStorage client step p) s := by
  have hvia : Holds (Step (U := U) locatorOf) (WritesIf P) mid
      (fun r m => ∃ a, r = .ok a ∧ post a m)
      (p.run.via fun c => .call (Call.storage client c) .done) s :=
    Holds.via (σ := Storage.api) (τ := api S U) (f := Call.storage client) (g := fun _ r => r)
      (fun _ _ _ _ h => h) hp
  exact .mapError hvia

/-! ## Users -/

/-- Nothing but the user changes, and in the end it has no keys. -/
theorem succeeds_removeKeys {deleted keys : List String} (hmid : ∀ m, OnlyUser user s m → mid m)
    (hv : OnlyUser user s v) (hkeys : ∀ x ∈ v.users user, ∀ k ∈ x.keys, k ∈ keys) :
    Succeeds (UsersServe locatorOf) (fun _ => True) mid
      (fun _ m => OnlyUser user s m ∧ ∀ x ∈ m.users user, x.keys = [])
      (Users.removeKeys user deleted keys) v := by
  induction keys generalizing deleted v with
  | nil =>
    refine .pure ⟨hv, fun x hx => List.eq_nil_iff_forall_not_mem.2 fun k hk => ?_⟩
    cases hkeys x hx k hk
  | cons key rest ih =>
    have hdelete : Succeeds (UsersServe locatorOf) (fun _ => True) mid
        (fun _ m => OnlyUser user s m ∧ ∀ x ∈ m.users user, ∀ k ∈ x.keys, k ∈ rest)
        ((Users.deleteKey user key).mapError
          (Users.RemovalError.mk user .deleteKey deleted (key :: rest))) v := by
      refine .mapError (.ask (fun r => r) (fun _ => rfl) trivial (hmid v hv) fun r m hm => ?_)
      obtain ⟨rfl, honly, hleft⟩ := Backend.serves_deleteKey hm
      refine ⟨hmid m (hv.trans honly), (), rfl, hv.trans honly, fun x hx k hk => ?_⟩
      obtain ⟨y, hy, hin⟩ := hleft x hx
      obtain ⟨hky, hne⟩ := hin k hk
      exact (List.mem_cons.1 (hkeys y hy k hky)).resolve_left hne
    exact .bind (.tryCatch hdelete) fun _ m hm => ih hm.1 hm.2

theorem succeeds_remove (hmid : ∀ m, OnlyUser user s m → mid m) :
    Succeeds (UsersServe locatorOf) (fun _ => True) mid
      (fun _ m => OnlyUser user s m ∧ m.users user = none) (Users.remove user) s := by
  have hs := hmid s (.refl user s)
  have hlist : Succeeds (UsersServe locatorOf) (fun _ => True) mid
      (fun entries m => m = s ∧
        ∀ x ∈ s.users user, ∀ k ∈ x.keys, k ∈ entries.map Users.KeyEntry.id)
      ((Users.listKeys user).mapError (Users.RemovalError.mk user .listKeys [] [])) s := by
    refine .mapError (.ask (fun r => r) (fun _ => rfl) trivial hs fun r m hm => ?_)
    obtain ⟨rfl, entries, rfl, hkeys⟩ := Backend.serves_listKeys hm
    exact ⟨hs, entries, rfl, rfl, hkeys⟩
  refine .bind hlist fun entries m hm => ?_
  obtain ⟨rfl, hkeys⟩ := hm
  refine .bind (succeeds_removeKeys hmid (.refl user m) hkeys) fun _ v hv => ?_
  have hdelete : Succeeds (UsersServe locatorOf) (fun _ => True) mid
      (fun _ w => OnlyUser user m w ∧ w.users user = none)
      ((Users.deleteUser user).mapError
        (Users.RemovalError.mk user .deleteUser (entries.map Users.KeyEntry.id) [])) v := by
    refine .mapError (.ask (fun r => r) (fun _ => rfl) trivial (hmid v hv.1) fun r w hw => ?_)
    obtain ⟨rfl, honly, hgone⟩ := Backend.serves_deleteUser hw hv.2
    exact ⟨hmid w (hv.1.trans honly), (), rfl, hv.1.trans honly, hgone⟩
  exact .bind hdelete fun _ w hw => .log hw

/-- The locator that the user has, or gets when it is created. -/
def locatorAt (locatorOf : String → String) (s : Backend) (user : String) : String :=
  ((s.users user).map Users.Holder.locator).getD (locatorOf user)

theorem locatorAt_of_some {x : Users.Holder} (h : v.users user = some x) :
    locatorAt locatorOf v user = x.locator := by
  rw [locatorAt, h]
  rfl

theorem locatorAt_of_none (h : v.users user = none) :
    locatorAt locatorOf v user = locatorOf user := by
  rw [locatorAt, h]
  rfl

theorem succeeds_ensureUser (hmid : ∀ m, OnlyUser user s m →
    locatorAt locatorOf m user = locatorAt locatorOf s user → mid m) :
    Succeeds (UsersServe locatorOf) (fun _ => True) mid
      (fun locator m => OnlyUser user s m ∧ locator = locatorAt locatorOf s user ∧
        ∃ keys, m.users user = some ⟨locator, keys⟩) (Users.ensureUser user) s := by
  have hs := hmid s (.refl user s) rfl
  have hget : Succeeds (UsersServe locatorOf) (fun _ => True) mid
      (fun found m => m = s ∧
        found.map Users.User.arn = (s.users user).map Users.Holder.locator)
      (Users.getUser user) s := by
    refine .ask (fun r => r) (fun _ => rfl) trivial hs fun r m hm => ?_
    obtain ⟨rfl, found, rfl, hfound⟩ := Backend.serves_getUser hm
    exact ⟨hs, found, rfl, rfl, hfound⟩
  refine .bind hget fun found m hm => ?_
  obtain ⟨rfl, hfound⟩ := hm
  cases found with
  | some u =>
    obtain ⟨x, hx, hlocator⟩ := Option.map_eq_some_iff.1 hfound.symm
    refine .log_bind (.pure ⟨.refl user m, ?_, x.keys, ?_⟩)
    · rw [locatorAt_of_some hx, hlocator]
    · rw [hx, ← hlocator]
  | none =>
    have hx : m.users user = none := Option.map_eq_none_iff.1 hfound.symm
    have hcreate : Succeeds (UsersServe locatorOf) (fun _ => True) mid
        (fun u w => OnlyUser user m w ∧ u.arn = locatorAt locatorOf m user ∧
          ∃ keys, w.users user = some ⟨u.arn, keys⟩) (Users.createUser user) m := by
      refine .ask (fun r => r) (fun _ => rfl) trivial hs fun r w hw => ?_
      obtain ⟨⟨u, rfl, harn⟩, honly, hnew⟩ := Backend.serves_createUser hw hx
      rw [locatorAt_of_none hx] at hmid ⊢
      exact ⟨hmid w honly (locatorAt_of_some hnew), u, rfl, honly, harn, [], by rw [harn, hnew]⟩
    exact .bind hcreate fun u w hw => .pure hw

theorem succeeds_register (hmid : ∀ m, OnlyUser user s m →
    locatorAt locatorOf m user = locatorAt locatorOf s user → mid m) :
    Succeeds (UsersServe locatorOf) (fun _ => True) mid
      (fun r m => OnlyUser user s m ∧ r.locator = locatorAt locatorOf s user ∧
        ∃ keys, m.users user = some ⟨r.locator, keys⟩) (Users.register user) s := by
  refine .bind (succeeds_ensureUser hmid) fun locator m hm => ?_
  obtain ⟨honly, rfl, keys, hx⟩ := hm
  have hkey : Succeeds (UsersServe locatorOf) (fun _ => True) mid
      (fun _ w => OnlyUser user s w ∧
        ∃ keys, w.users user = some ⟨locatorAt locatorOf s user, keys⟩)
      (Users.createKey user) m := by
    have hm := hmid m honly (locatorAt_of_some hx)
    refine .ask (fun r => r) (fun _ => rfl) trivial hm fun r w hw => ?_
    obtain ⟨⟨key, rfl⟩, honly', keys', hnew⟩ := Backend.serves_createKey hw hx
    have hw := honly.trans honly'
    exact ⟨hmid w hw (locatorAt_of_some hnew), key, rfl, hw, keys', hnew⟩
  exact .bind hkey fun key w hw => .pure ⟨hw.1, rfl, hw.2⟩

/-! ## Policies -/

/-- The buckets after an edit of the policy of one, if there is that bucket. -/
def edited (bucket : String) (e : Edit) (b : Storage.Buckets) : Storage.Buckets :=
  Function.update b bucket ((b bucket).map e.apply)

variable {e : Edit} {b : Storage.Buckets}

theorem edited_edited (bucket : String) (e : Edit) (b : Storage.Buckets) :
    edited bucket e (edited bucket e b) = edited bucket e b := by
  unfold edited
  rw [Function.update_idem, Function.update_self, Option.map_map]
  congr 2
  exact funext (Policy.apply_apply e)

theorem edited_eq_self (h : (b bucket).map e.apply = b bucket) : edited bucket e b = b := by
  rw [edited, h, Function.update_eq_self]

theorem edited_of_some {p : Option Document} (h : b bucket = some p) :
    edited bucket e b = Function.update b bucket (some (e.apply p)) := by
  rw [edited, h, Option.map_some]

theorem isSome_edited : (edited bucket e b bucket).isSome = (b bucket).isSome := by
  rw [edited, Function.update_self, Option.isSome_map]

theorem statementsOf_taken (hv : v.buckets = edited bucket (.take user) b) :
    statementsOf (v.policy bucket) = (statementsOf (b bucket).join).filter (·.sid ≠ user) := by
  rw [Backend.policy, hv, edited, Function.update_self, ← Policy.statementsOf_take]
  cases b bucket with
  | none => rfl
  | some p => rfl

theorem succeeds_getPolicy {client : S} {t : Storage.Tolerance} (hv : mid v)
    (hpolicy : t.policy = true) (hbucket : t.bucket = true ∨ (v.buckets bucket).isSome) :
    Succeeds (Step (U := U) locatorOf) (WritesIf P) mid
      (fun policy m => m = v ∧ policy = v.policy bucket)
      (onStorage client (.getPolicy bucket) (Storage.getPolicy bucket t)) v := by
  refine succeeds_onStorage (.ask (fun r => r) (fun _ => rfl) nofun hv fun r m hm => ?_)
  obtain ⟨rfl, rfl⟩ := Backend.serves_getPolicy hm hpolicy hbucket
  exact ⟨hv, _, rfl, rfl, rfl⟩

theorem succeeds_addStatement {client : S} {principal locator : String}
    {model : Policy.AccessModel} (hv : mid v) (hbucket : (v.buckets bucket).isSome)
    (hedited : ∀ m, m.users = v.users →
      m.buckets = edited bucket (.put (.grant principal locator model bucket)) v.buckets → mid m) :
    Succeeds (Step (U := U) locatorOf) (WritesIf True) mid
      (fun _ m => m.users = v.users ∧
        m.buckets = edited bucket (.put (.grant principal locator model bucket)) v.buckets)
      (addStatement client bucket principal locator model) v := by
  refine .bind (succeeds_getPolicy hv rfl (.inr hbucket)) fun policy m hm => ?_
  obtain ⟨rfl, rfl⟩ := hm
  refine succeeds_onStorage
    (.ask (fun r => r) (fun _ => rfl) (fun _ => trivial) hv fun r w hw => ?_)
  obtain ⟨p, hp⟩ := Option.isSome_iff_exists.1 hbucket
  obtain ⟨rfl, hu, hb⟩ := Backend.serves_putPolicy hw hbucket
  rw [Backend.policy, hp] at hb
  have hb' := hb.trans (edited_of_some (e := .put _) hp).symm
  exact ⟨hedited w hu hb', (), rfl, hu, hb'⟩

/-- Policies are written only if there is a statement to take. -/
theorem succeeds_removeStatement {client : S} (hv : mid v)
    (hedited : ∀ m, m.users = v.users → m.buckets = edited bucket (.take user) v.buckets → mid m) :
    Succeeds (Step (U := U) locatorOf)
      (WritesIf (∃ t ∈ statementsOf (v.policy bucket), t.sid = user)) mid
      (fun _ m => m.users = v.users ∧ m.buckets = edited bucket (.take user) v.buckets)
      (removeStatement client bucket user) v := by
  refine .bind (succeeds_getPolicy hv rfl (.inl rfl)) fun policy m hm => ?_
  obtain ⟨rfl, rfl⟩ := hm
  cases hp : m.policy bucket with
  | none =>
    have hsame : edited bucket (.take user) m.buckets = m.buckets := by
      refine edited_eq_self ?_
      rcases Option.join_eq_none_iff.1 hp with h | h <;> rw [h] <;> rfl
    exact .log ⟨rfl, hsame.symm⟩
  | some d =>
    have hbucket : m.buckets bucket = some (some d) := Option.join_eq_some_iff.1 hp
    by_cases hnone : ∀ t ∈ d.statements, t.sid ≠ user
    · have hsame : edited bucket (.take user) m.buckets = m.buckets := by
        rw [edited_of_some hbucket, Policy.take_eq_self hnone, ← hbucket, Function.update_eq_self]
      simp only [if_pos (Document.remove_alike_iff.2 hnone)]
      exact .log ⟨rfl, hsame.symm⟩
    · have hwrites : ∃ t ∈ statementsOf (some d), t.sid = user := by
        simpa [statementsOf] using hnone
      simp only [if_neg (mt Document.remove_alike_iff.1 hnone)]
      by_cases hall : ∀ t ∈ d.statements, t.sid = user
      · have hnew : edited bucket (.take user) m.buckets =
            Function.update m.buckets bucket (some none) := by
          rw [edited_of_some hbucket, Edit.apply, if_neg hnone, if_pos hall]
        simp only [if_pos (Document.remove_isEmpty_iff.2 hall)]
        refine .log_bind (succeeds_onStorage
          (.ask (fun r => r) (fun _ => rfl) (fun _ => hwrites) hv fun r w hw => ?_))
        obtain ⟨rfl, hu, hb⟩ := Backend.serves_deletePolicy hw (by rw [hbucket]; rfl)
        have hb' := hb.trans hnew.symm
        exact ⟨hedited w hu hb', (), rfl, hu, hb'⟩
      · have hnew : edited bucket (.take user) m.buckets =
            Function.update m.buckets bucket (some (some (d.remove user))) := by
          rw [edited_of_some hbucket, Edit.apply, if_neg hnone, if_neg hall]
        simp only [if_neg (mt Document.remove_isEmpty_iff.1 hall)]
        refine succeeds_onStorage
          (.ask (fun r => r) (fun _ => rfl) (fun _ => hwrites) hv fun r w hw => ?_)
        obtain ⟨rfl, hu, hb⟩ := Backend.serves_putPolicy hw (by rw [hbucket]; rfl)
        have hb' := hb.trans hnew.symm
        exact ⟨hedited w hu hb', (), rfl, hu, hb'⟩

/-! ## Operations -/

/-- What an operation for a user on a bucket leaves of the state `s` at any time. -/
structure Partly (user bucket : String) (e : Edit) (s m : Backend) : Prop where
  users : ∀ x, x ≠ user → m.users x = s.users x
  buckets : m.buckets = s.buckets ∨ m.buckets = edited bucket e s.buckets

theorem Partly.of_onlyUser (h : OnlyUser user s v) : Partly user bucket e s v := ⟨h.2, .inl h.1⟩

/-- The edit of what is there partly is that of what was there. -/
theorem Partly.edited_eq (h : Partly user bucket e s v) :
    edited bucket e v.buckets = edited bucket e s.buckets := by
  rcases h.buckets with hb | hb
  · rw [hb]
  · rw [hb, edited_edited]

theorem Partly.isSome_bucket (h : Partly user bucket e s v) :
    (v.buckets bucket).isSome = (s.buckets bucket).isSome := by
  rcases h.buckets with hb | hb
  · rw [hb]
  · rw [hb, isSome_edited]

/-- The state after a revocation: the user is gone with all keys, its statements are taken. -/
def revoked (user bucket : String) (s : Backend) : Backend :=
  ⟨Function.update s.users user none, edited bucket (.take user) s.buckets⟩

@[simp]
theorem revoked_users_self : (revoked user bucket s).users user = none :=
  Function.update_self _ _ _

theorem revoked_users_of_ne {x : String} (hx : x ≠ user) :
    (revoked user bucket s).users x = s.users x :=
  Function.update_of_ne hx _ _

theorem partly_revoked : Partly user bucket (.take user) s (revoked user bucket s) :=
  ⟨fun _ => revoked_users_of_ne, .inr rfl⟩

/-- A revocation from where another left off leaves what the other was to leave. -/
theorem revoked_of_partly (h : Partly user bucket (.take user) s v) :
    revoked user bucket v = revoked user bucket s := by
  refine Backend.eq_of_fields h.edited_eq (funext fun x => ?_)
  by_cases hx : x = user
  · simp [hx]
  · rw [revoked_users_of_ne hx, revoked_users_of_ne hx, h.users x hx]

theorem succeeds_revokeOn (id account : ResourceId) (s : Backend) :
    Succeeds (Step (S := S) (U := U) locatorOf)
      (WritesIf (∃ t ∈ statementsOf (s.policy id.resource), t.sid = account.resource))
      (Partly account.resource id.resource (.take account.resource) s)
      (fun _ m => m = revoked account.resource id.resource s) (revokeOn id account) s := by
  have hpartly : ∀ m, OnlyUser account.resource s m →
      Partly account.resource id.resource (.take account.resource) s m :=
    fun _ honly => .of_onlyUser honly
  have hs := hpartly s (.refl _ s)
  refine .bind_same (succeeds_credentials hs _) fun _ => ?_
  refine .bind_same (succeeds_connectUsers hs _) fun users => ?_
  refine .bind (succeeds_onUsers (succeeds_remove hpartly)) fun _ v hv => ?_
  obtain ⟨honly, hgone⟩ := hv
  have hv := hpartly v honly
  refine .bind_same (succeeds_credentials hv _) fun _ => ?_
  refine .bind_same (succeeds_connectStorage hv _) fun storage => ?_
  have hpolicy : v.policy id.resource = s.policy id.resource := by
    unfold Backend.policy
    rw [honly.1]
  have hall : ∀ m, m.users = v.users →
      m.buckets = edited id.resource (.take account.resource) v.buckets →
      m = revoked account.resource id.resource s := by
    intro m hu hb
    refine Backend.eq_of_fields (hb.trans hv.edited_eq) (hu.trans (funext fun x => ?_))
    by_cases hx : x = account.resource
    · rw [hx, hgone, revoked_users_self]
    · rw [honly.2 x hx, revoked_users_of_ne hx]
  rw [← hpolicy]
  refine (succeeds_removeStatement hv fun m hu hb => ?_).weaken fun _ m hm => hall m hm.1 hm.2
  rw [hall m hu hb]
  exact partly_revoked

/-- The edit of a grant. -/
def granting (locatorOf : String → String) (principal bucket : String) (model : Policy.AccessModel)
    (s : Backend) : Edit :=
  .put (.grant principal (locatorAt locatorOf s principal) model bucket)

/-- What a grant leaves of the state `s` at any time. -/
structure DuringGrant (locatorOf : String → String) (principal bucket : String)
    (model : Policy.AccessModel) (s m : Backend) : Prop where
  partly : Partly principal bucket (granting locatorOf principal bucket model s) s m
  locator : locatorAt locatorOf m principal = locatorAt locatorOf s principal

/-- The state after a grant, but for the keys of the user. -/
structure AfterGrant (locatorOf : String → String) (principal bucket : String)
    (model : Policy.AccessModel) (s m : Backend) : Prop where
  users : ∀ x, x ≠ principal → m.users x = s.users x
  user : ∃ keys, m.users principal = some ⟨locatorAt locatorOf s principal, keys⟩
  buckets : m.buckets = edited bucket (granting locatorOf principal bucket model s) s.buckets

variable {principal : String} {model : Policy.AccessModel}

theorem AfterGrant.during (h : AfterGrant locatorOf principal bucket model s v) :
    DuringGrant locatorOf principal bucket model s v := by
  obtain ⟨keys, hkeys⟩ := h.user
  exact ⟨⟨h.users, .inr h.buckets⟩, locatorAt_of_some hkeys⟩

/-- A grant from where another left off leaves what the other was to leave. -/
theorem AfterGrant.of_during {m : Backend} (h : DuringGrant locatorOf principal bucket model s v)
    (hm : AfterGrant locatorOf principal bucket model v m) :
    AfterGrant locatorOf principal bucket model s m := by
  have hedit : granting locatorOf principal bucket model v =
      granting locatorOf principal bucket model s := by
    rw [granting, h.locator, granting]
  refine ⟨fun x hx => (hm.users x hx).trans (h.partly.users x hx), ?_, ?_⟩
  · rw [← h.locator]
    exact hm.user
  · rw [hm.buckets, hedit, h.partly.edited_eq]

theorem succeeds_grantOn (id : ResourceId) (principal : String) (grantee : SecretName)
    (model : Policy.AccessModel) {s : Backend} (hbucket : (s.buckets id.resource).isSome) :
    Succeeds (Step (S := S) (U := U) locatorOf) (WritesIf True)
      (DuringGrant locatorOf principal id.resource model s)
      (fun _ m => AfterGrant locatorOf principal id.resource model s m)
      (grantOn id principal grantee model) s := by
  have hduring : ∀ m, OnlyUser principal s m →
      locatorAt locatorOf m principal = locatorAt locatorOf s principal →
      DuringGrant locatorOf principal id.resource model s m :=
    fun _ honly hl => ⟨.of_onlyUser honly, hl⟩
  have hs := hduring s (.refl principal s) rfl
  refine .bind_same (succeeds_credentials hs _) fun owner => ?_
  refine .bind_same (succeeds_connectStorage hs _) fun storage => ?_
  have hhead : Succeeds (Step (U := U) locatorOf) (WritesIf True)
      (DuringGrant locatorOf principal id.resource model s) (fun _ m => m = s)
      (onStorage storage (.headBucket id.resource) (Storage.headBucket id.resource)) s := by
    refine succeeds_onStorage (.ask (fun r => r) (fun _ => rfl) nofun hs fun r m hm => ?_)
    obtain ⟨rfl, rfl⟩ := Backend.serves_headBucket hm hbucket
    exact ⟨hs, (), rfl, rfl⟩
  refine .bind_same hhead fun _ => ?_
  refine .bind_same (succeeds_credentials hs _) fun account => ?_
  refine .bind_same (succeeds_connectUsers hs _) fun users => ?_
  refine .bind (succeeds_onUsers (succeeds_register hduring)) fun registration v hv => ?_
  obtain ⟨honly, hlocator, keys, huser⟩ := hv
  rw [hlocator] at huser ⊢
  have hv := hduring v honly (locatorAt_of_some huser)
  have hafter : ∀ m, m.users = v.users →
      m.buckets = edited id.resource (granting locatorOf principal id.resource model s) v.buckets →
      AfterGrant locatorOf principal id.resource model s m := by
    intro m hu hb
    refine ⟨fun x hx => ?_, ⟨keys, hu ▸ huser⟩, hb.trans hv.partly.edited_eq⟩
    rw [hu, honly.2 x hx]
  refine .bind (succeeds_addStatement hv (hv.partly.isSome_bucket ▸ hbucket) ?_) fun _ m hm => ?_
  · exact fun m hu hb => (hafter m hu hb).during
  · exact .log_bind (.pure (hafter m hm.1 hm.2))

end BucketAccess.Provision
