import BucketAccess.Proofs.Provision.Access
import BucketAccess.Proofs.Provision.Realm
import BucketAccess.Proofs.ResourceId

/-!
# Revocations undo grants

A grant to a principal without a user and without statements in the bucket's policy, and then the
revocation of the account that it answered with, leave everything behind all clients as it was
before. If there was no policy, the revocation deletes the one that the grant has put.
-/

namespace BucketAccess.Provision

open Program (Follows)
open Policy (Document Edit)
open Realm (Through Step)

variable {S U : Type} {net : Wiring S U} {locatorOf : U → String → String} {w w' : Realm S U}
  {k : S} {u : U} {bucket : String} {d : Document} {t : List (Turn (api S U))}

/-! ## Requests -/

theorem secretName_ne_empty {parameters : SortedMap String} {name : SecretName}
    (h : secretName parameters = .ok name) : name.scope ≠ "" ∧ name.name ≠ "" := by
  have hne : ∀ {key value}, required parameters key = .ok value → value ≠ "" := by
    intro key value hv
    unfold required at hv
    split at hv
    · next x hx =>
      cases hv
      simpa using (Option.filter_eq_some_iff.1 hx).2
    · cases hv
  unfold secretName at h
  cases hn : required parameters "accountSecretName" with
  | error e => rw [hn] at h; cases h
  | ok x =>
    cases hs : required parameters "accountSecretNamespace" with
    | error e => rw [hn, hs] at h; cases h
    | ok y =>
      rw [hn, hs] at h
      cases h
      exact ⟨hne hs, hne hn⟩

/-- What a grant without flaws says of its grantee, its principal and its bucket. -/
structure Grant.Named (r : Grant) (grantee : SecretName) : Prop where
  scope : grantee.scope ≠ ""
  name : grantee.name ≠ ""
  principal : r.principal ≠ ""
  bucketId : r.bucketId ≠ ""

theorem Grant.named_of_check {r : Grant} {grantee : SecretName} {model : Policy.AccessModel}
    (h : r.check = .ok (grantee, model)) : r.Named grantee := by
  have hprincipal := principal_ne_empty_of_check h
  have hempty : r.principal.isEmpty = false := by simpa using hprincipal
  unfold Grant.check at h
  cases hb : checkBucketId r.bucketId with
  | error e => rw [hb] at h; cases h
  | ok =>
    have hbucket : r.bucketId ≠ "" := by
      rintro he
      rw [he] at hb
      cases hb
    cases ha : checkAuthentication r.authentication with
    | error e => rw [hb, hempty, ha] at h; cases h
    | ok =>
      cases hs : secretName r.parameters with
      | error e => rw [hb, hempty, ha, hs] at h; cases h
      | ok name =>
        cases hm : accessModel r.parameters with
        | error e => rw [hb, hempty, ha, hs, hm] at h; cases h
        | ok m =>
          rw [hb, hempty, ha, hs, hm] at h
          cases h
          obtain ⟨hscope, hname⟩ := secretName_ne_empty hs
          exact ⟨hscope, hname, hprincipal, hbucket⟩

theorem Revocation.check_eq_ok {r : Revocation} (hb : r.bucketId ≠ "") (ha : r.accountId ≠ "") :
    r.check = .ok () := by
  have hb' : r.bucketId.isEmpty = false := by simpa using hb
  have ha' : r.accountId.isEmpty = false := by simpa using ha
  unfold Revocation.check checkBucketId
  rw [hb', ha']
  rfl

theorem encode_ne_empty (id : ResourceId) : id.encode ≠ "" := by
  intro h
  have := congrArg String.toList h
  simp [ResourceId.encode] at this

/-- The account id that a grant answers with. -/
theorem accountId_of_grant [Inhabited S] [Inhabited U] {r : Grant} {grantee : SecretName}
    {model : Policy.AccessModel} {id : ResourceId} {granted : Granted}
    (hc : r.check = .ok (grantee, model)) (hd : ResourceId.decode r.bucketId = .ok id)
    (h : (handleGrant r).Ends t (.ok granted)) :
    granted.accountId = (ResourceId.mk grantee.scope grantee.name r.principal).encode := by
  have hg := grant_conforms h
  simp only [GrantConforms, hc, hd] at hg
  obtain ⟨body, -, a, hstop⟩ := hg
  cases hstop with
  | whole => rfl

/-! ## Deletions of policies -/

/-- A policy is replaced or stays, unless it is deleted. -/
theorem step_policy {x : Turn (api S U)} (h : Step net locatorOf w x w')
    (hx : Through k u x.call) (hd : w.buckets k bucket = some (some d)) :
    (∃ d', w'.buckets k bucket = some (some d')) ∨
      ∃ tolerance, x = ⟨.storage k (.deletePolicy bucket tolerance), .ok ()⟩ := by
  obtain ⟨c, r⟩ := x
  cases c with
  | secret | connectStorage | connectUsers =>
    obtain rfl := h.2
    exact .inl ⟨d, hd⟩
  | lock | unlock =>
    obtain rfl := h
    exact .inl ⟨d, hd⟩
  | users x c => exact .inl ⟨d, h.2.1 ▸ hd⟩
  | storage x c =>
    obtain rfl := hx.client_eq
    obtain ⟨⟨said, hserves, rfl⟩, -, -⟩ := h
    cases c with
    | createBucket | deleteBucket => exact hx.elim
    | headBucket b =>
      simp only [Storage.Serves] at hserves
      split at hserves <;> exact .inl ⟨d, hserves.2 ▸ hd⟩
    | getPolicy b tolerance =>
      simp only [Storage.Serves] at hserves
      split at hserves <;> exact .inl ⟨d, hserves.2 ▸ hd⟩
    | putPolicy b new tolerance =>
      simp only [Storage.Serves] at hserves
      split at hserves
      · exact .inl ⟨d, hserves.2 ▸ hd⟩
      · left
        rw [hserves.2]
        by_cases hb : bucket = b
        · exact ⟨new, by rw [hb, Function.update_self]⟩
        · exact ⟨d, by rw [Function.update_of_ne hb, hd]⟩
    | deletePolicy b tolerance =>
      simp only [Storage.Serves] at hserves
      split at hserves
      · exact .inl ⟨d, hserves.2 ▸ hd⟩
      · by_cases hb : bucket = b
        · obtain ⟨rfl, -⟩ := hserves
          exact .inr ⟨tolerance, by rw [hb]; rfl⟩
        · exact .inl ⟨d, by rw [hserves.2, Function.update_of_ne hb, hd]⟩

theorem exists_deletePolicy (h : Follows (Step net locatorOf) w t w')
    (ht : ∀ x ∈ t, Through k u x.call) (hd : w.buckets k bucket = some (some d))
    (hnone : w'.buckets k bucket = some none) :
    ∃ tolerance, ⟨.storage k (.deletePolicy bucket tolerance), .ok ()⟩ ∈ t := by
  induction t generalizing w d with
  | nil =>
    obtain rfl := h
    rw [hd] at hnone
    cases hnone
  | cons x t ih =>
    obtain ⟨m, hm, hrest⟩ := h
    rcases step_policy hm (ht x (.head _)) hd with ⟨d', hd'⟩ | ⟨tolerance, rfl⟩
    · obtain ⟨tolerance, hmem⟩ := ih hrest (fun y hy => ht y (.tail _ hy)) hd'
      exact ⟨tolerance, .tail _ hmem⟩
    · exact ⟨tolerance, .head _⟩

/-! ## Operations through two clients -/

theorem through_locked {key : String} {body : List (Turn (api S U))}
    (h : ∀ x ∈ body, Through k u x.call) : ∀ x ∈ locked key body, Through k u x.call :=
  List.forall_mem_cons.2 ⟨trivial, List.forall_mem_append.2
    ⟨h, List.forall_mem_singleton.2 trivial⟩⟩

theorem follows_body {key : String} {body : List (Turn (api S U))}
    (h : Follows (Step net locatorOf) w (locked key body) w') :
    Follows (Step net locatorOf) w body w' := by
  obtain ⟨_, rfl, h⟩ := h
  obtain ⟨v, hbody, _, rfl, rfl⟩ := Program.follows_append.1 h
  exact hbody

theorem through_handle {α : Type} {operation : Operation} {fields : List (String × String)}
    {key : String} {p q : Attempt (api S U) Error α} {result : Except Error α}
    (hq : q.run = (withLock key p).run) (hp : Realm.Uses net locatorOf k u p fun _ => True)
    (h : Completes (Step net locatorOf) (handle operation fields q) w t result w') :
    ∀ x ∈ t, Through k u x.call := by
  obtain ⟨ht, hf⟩ := h
  rw [ends_handle, hq, ends_withLock] at ht
  obtain ⟨body, rfl, hbody⟩ := ht
  exact through_locked (Holds.completes (hp w) ⟨hbody, follows_body hf⟩).2

theorem completes_grant {r : Grant} {grantee : SecretName} {model : Policy.AccessModel}
    {id : ResourceId} {result : Except Error Granted} (hc : r.check = .ok (grantee, model))
    (hd : ResourceId.decode r.bucketId = .ok id)
    (hbucket : (w.buckets (net.storageOf (.ofId id)) id.resource).isSome)
    (h : Completes (Step net locatorOf) (handleGrant r) w t result w') :
    ∃ granted, result = .ok granted ∧
      granted.accountId = (ResourceId.mk grantee.scope grantee.name r.principal).encode ∧
      AfterGrant (locatorOf (net.usersOf grantee)) r.principal id.resource model
        (w.view (net.storageOf (.ofId id)) (net.usersOf grantee))
        (w'.view (net.storageOf (.ofId id)) (net.usersOf grantee)) ∧
      Realm.SameElsewhere (net.storageOf (.ofId id)) (net.usersOf grantee) w w' := by
  have : Inhabited S := ⟨net.storageOf grantee⟩
  have : Inhabited U := ⟨net.usersOf grantee⟩
  have hthrough := through_handle (run_grant hc hd) (Realm.uses_grantOn id _ grantee model) h
  obtain ⟨hview, helsewhere⟩ := Realm.follows_view h.2 hthrough
  obtain ⟨⟨granted, rfl⟩, hafter⟩ := (ensures_grant hc hd hbucket).2 _ _ _ ⟨h.1, hview⟩
  exact ⟨granted, rfl, accountId_of_grant hc hd h.1, hafter, helsewhere⟩

theorem completes_revocation {r : Revocation} {account id : ResourceId} {result : Except Error Unit}
    (hc : r.check = .ok ()) (ha : ResourceId.decode r.accountId = .ok account)
    (hd : ResourceId.decode r.bucketId = .ok id)
    (h : Completes (Step net locatorOf) (handleRevocation r) w t result w') :
    result = .ok () ∧
      w'.view (net.storageOf (.ofId id)) (net.usersOf (.ofId account)) =
        revoked account.resource id.resource
          (w.view (net.storageOf (.ofId id)) (net.usersOf (.ofId account))) ∧
      Realm.SameElsewhere (net.storageOf (.ofId id)) (net.usersOf (.ofId account)) w w' ∧
      ∀ x ∈ t, Through (net.storageOf (.ofId id)) (net.usersOf (.ofId account)) x.call := by
  have : Inhabited S := ⟨net.storageOf (.ofId id)⟩
  have : Inhabited U := ⟨net.usersOf (.ofId account)⟩
  have hthrough := through_handle (run_revoke hc ha hd) (Realm.uses_revokeOn id account) h
  obtain ⟨hview, helsewhere⟩ := Realm.follows_view h.2 hthrough
  obtain ⟨rfl, hrevoked, -⟩ := (ensures_revocation hc ha hd _).2 _ _ _ ⟨h.1, hview⟩
  exact ⟨rfl, hrevoked, helsewhere, hthrough⟩

/-! ## The round -/

/-- A policy that says nothing of the principal, and not nothing at all. -/
def Unconcerned (principal : String) (p : Option Document) : Prop :=
  ∀ d ∈ p, d.statements ≠ [] ∧ ∀ x ∈ d.statements, x.sid ≠ principal

section

variable {locatorOf : String → String} {principal : String} {model : Policy.AccessModel}
  {s m : Backend} {p : Option Document}

theorem policy_of_afterGrant (h : AfterGrant locatorOf principal bucket model s m)
    (hbucket : s.buckets bucket = some p) : ∃ d, m.buckets bucket = some (some d) := by
  rw [h.buckets, edited_of_some hbucket, Function.update_self]
  exact ⟨_, rfl⟩

theorem revoked_of_afterGrant (h : AfterGrant locatorOf principal bucket model s m)
    (huser : s.users principal = none) (hbucket : s.buckets bucket = some p)
    (hp : Unconcerned principal p) : revoked principal bucket m = s := by
  have hundone : (Edit.take principal).apply
      ((granting locatorOf principal bucket model s).apply p) = p :=
    Policy.take_put (s := .grant principal (locatorAt locatorOf s principal) model bucket) hp
  refine Backend.eq_of_fields ?_ (funext fun x => ?_)
  · show edited bucket (.take principal) m.buckets = s.buckets
    rw [h.buckets, edited_of_some hbucket, edited, Function.update_self, Function.update_idem,
      Option.map_some, hundone, ← hbucket, Function.update_eq_self]
  · by_cases hx : x = principal
    · rw [hx, revoked_users_self, huser]
    · rw [revoked_users_of_ne hx, h.users x hx]

end

/-- The grant succeeds, and so does the revocation of the account id that it answers with; after
them everything is as it was. If there was no policy, there is none because it is deleted. -/
def Undone (net : Wiring S U) (locatorOf : U → String → String) (w : Realm S U) (r : Grant)
    (id : ResourceId) (p : Option Document) : Prop :=
  Ensures (Step net locatorOf) (handleGrant r) w fun _ result m =>
    ∃ granted, result = .ok granted ∧
      Ensures (Step net locatorOf) (handleRevocation ⟨r.bucketId, granted.accountId⟩) m
        fun t result' w' => result' = .ok () ∧ w' = w ∧
          (p = none → ∃ tolerance, ⟨.storage (net.storageOf (.ofId id))
            (.deletePolicy id.resource tolerance), .ok ()⟩ ∈ t)

/-- A principal that has no user in the grantee's account, and of which the policy of the bucket
says nothing, is granted access and then loses it with its user and all keys. -/
theorem revocation_undoes_grant (net : Wiring S U) (locatorOf : U → String → String)
    (w : Realm S U) {r : Grant} {grantee : SecretName} {model : Policy.AccessModel}
    {id : ResourceId} {p : Option Document} (hc : r.check = .ok (grantee, model))
    (hd : ResourceId.decode r.bucketId = .ok id)
    (hplain : (ResourceId.mk grantee.scope grantee.name r.principal).Plain)
    (hbucket : w.buckets (net.storageOf (.ofId id)) id.resource = some p)
    (hp : Unconcerned r.principal p)
    (huser : w.users (net.usersOf grantee) r.principal = none) : Undone net locatorOf w r id p := by
  refine ⟨exists_completes Realm.exists_step _ w, fun t result m hgrant => ?_⟩
  obtain ⟨granted, rfl, hid, hafter, helsewhere⟩ :=
    completes_grant hc hd (by rw [hbucket]; rfl) hgrant
  refine ⟨granted, rfl, exists_completes Realm.exists_step _ m, fun t' result' w' hrevoke => ?_⟩
  -- the account id leads back to the grantee's secret and the principal
  obtain ⟨hscope, hname, hprincipal, hbucketId⟩ := Grant.named_of_check hc
  have ha : ResourceId.decode granted.accountId = .ok ⟨grantee.scope, grantee.name, r.principal⟩ :=
    hid ▸ ResourceId.decode_encode hplain ⟨hscope, hname, hprincipal⟩
  have hcheck := Revocation.check_eq_ok (r := ⟨r.bucketId, granted.accountId⟩) hbucketId
    (hid ▸ encode_ne_empty _)
  obtain ⟨rfl, hview, helsewhere', hthrough⟩ := completes_revocation hcheck ha hd hrevoke
  have hundone := hview.trans (revoked_of_afterGrant hafter huser hbucket hp)
  have hsame := Realm.eq_of_view (helsewhere.trans helsewhere') hundone
  refine ⟨rfl, hsame, fun hnone => ?_⟩
  obtain ⟨d, hput⟩ := policy_of_afterGrant hafter hbucket
  exact exists_deletePolicy hrevoke.2 hthrough hput (by rw [hsame, hbucket, hnone])

/-! ## A reader who comes and goes -/

/-- Each secret leads to clients of its own. -/
def bySecret : Wiring SecretName SecretName where
  account name := ⟨name.scope, name.name, "", none⟩
  storage account := ⟨account.accessKey, account.secretKey⟩
  users account := ⟨account.accessKey, account.secretKey⟩

/-- No users, and this policy on all buckets. -/
def vacant (p : Option Document) : Realm SecretName SecretName := ⟨fun _ _ => none, fun _ _ => some p⟩

def writersPolicy : Document := ⟨none, "2012-10-17", [.grant "writer" "arn" .readWrite "bucket"]⟩

theorem revocation_undoes_grant_to_reader :
    Undone bySecret (fun _ => id) (vacant none) grantToReader ofOwner none ∧
    Undone bySecret (fun _ => id) (vacant (some writersPolicy)) grantToReader ofOwner
      (some writersPolicy) := by
  have hplain : (ResourceId.mk "grantees" "grantee" "reader").Plain :=
    ⟨by decide, by decide, by decide⟩
  have hwriter : Unconcerned "reader" (some writersPolicy) := by
    rintro _ ⟨⟩
    exact ⟨nofun, by decide⟩
  exact ⟨revocation_undoes_grant _ _ _ rfl rfl hplain rfl nofun rfl,
    revocation_undoes_grant _ _ _ rfl rfl hplain rfl hwriter rfl⟩

end BucketAccess.Provision
