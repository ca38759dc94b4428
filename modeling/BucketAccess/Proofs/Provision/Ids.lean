import BucketAccess.Proofs.Provision.Undo

/-!
# Ids that are handed out

The creation of a bucket and a grant answer with ids. Such an id leads the operations that it is
given to later to the secret and the bucket, or the user, that it was made from, as long as there is
no slash in the three names. If there is one, these operations refuse the id, and nothing is called
but the lock.
-/

namespace BucketAccess.Provision

variable {S U : Type} {t : List (Turn (api S U))} {text key : String} {id : ResourceId}

/-! ## Deletions -/

/-- What a deletion does once the id of the bucket is read. -/
def deleteOn (id : ResourceId) : Attempt (api S U) Error Unit := do
  let client ← connectStorage (← credentials (.ofId id))
  onStorage client (.deleteBucket id.resource) (Storage.deleteBucket id.resource)

theorem run_deleteBucket (h : text ≠ "") : (deleteBucket text : Attempt (api S U) Error Unit).run =
    (decodeId text >>= deleteOn).run := by
  have hempty : text.isEmpty = false := by simpa using h
  unfold deleteBucket checkBucketId
  rw [hempty]
  rfl

/-! ## What becomes of an id -/

/-- All operations that take the id of a bucket take this one for the id of `bucket`. -/
structure LeadsTo (S U : Type) (text : String) (bucket : ResourceId) : Prop where
  decoded : ResourceId.decode text = .ok bucket
  deletion : ∀ (t : List (Turn (api S U))) (result : Except Error Unit),
    (handleDeleteBucket text).Ends t result ↔ (deleteOn bucket).run.Ends t result
  grant : ∀ (r : Grant) (grantee : SecretName) (model : Policy.AccessModel), r.bucketId = text →
    r.check = .ok (grantee, model) → ∀ (t : List (Turn (api S U))) (result : Except Error Granted),
      (handleGrant r).Ends t result ↔ ∃ body, t = locked text body ∧
        (grantOn bucket r.principal grantee model).run.Ends body result
  revocation : ∀ (r : Revocation) (account : ResourceId), r.bucketId = text → r.check = .ok () →
    ResourceId.decode r.accountId = .ok account →
      ∀ (t : List (Turn (api S U))) (result : Except Error Unit),
        (handleRevocation r).Ends t result ↔ ∃ body, t = locked text body ∧
          (revokeOn bucket account).run.Ends body result

/-- A revocation takes this account id for that of `account`. -/
structure LeadsToAccount (S U : Type) (text : String) (account : ResourceId) : Prop where
  decoded : ResourceId.decode text = .ok account
  revocation : ∀ (r : Revocation) (bucket : ResourceId), r.accountId = text → r.check = .ok () →
    ResourceId.decode r.bucketId = .ok bucket →
      ∀ (t : List (Turn (api S U))) (result : Except Error Unit),
        (handleRevocation r).Ends t result ↔ ∃ body, t = locked r.bucketId body ∧
          (revokeOn bucket account).run.Ends body result

/-- No operation takes this for the id of a bucket, and none calls a collaborator for it. -/
structure Refused (S U : Type) (text : String) : Prop where
  decoded : ResourceId.decode text = .error (.invalidFormat text)
  deletion : ∀ (t : List (Turn (api S U))) (result : Except Error Unit),
    (handleDeleteBucket text).Ends t result ↔
      t = [] ∧ result = .error (.badId text (.invalidFormat text))
  grant : ∀ (r : Grant) (grantee : SecretName) (model : Policy.AccessModel), r.bucketId = text →
    r.check = .ok (grantee, model) → ∀ (t : List (Turn (api S U))) (result : Except Error Granted),
      (handleGrant r).Ends t result ↔
        t = locked text [] ∧ result = .error (.badId text (.invalidFormat text))
  revocation : ∀ (r : Revocation) (account : ResourceId), r.bucketId = text → r.check = .ok () →
    ResourceId.decode r.accountId = .ok account →
      ∀ (t : List (Turn (api S U))) (result : Except Error Unit),
        (handleRevocation r).Ends t result ↔
          t = locked text [] ∧ result = .error (.badId text (.invalidFormat text))

/-- No revocation takes this for an account id, and none calls a collaborator for it. -/
structure RefusedAccount (S U : Type) (text : String) : Prop where
  decoded : ResourceId.decode text = .error (.invalidFormat text)
  revocation : ∀ r : Revocation, r.accountId = text → r.check = .ok () →
    ∀ (t : List (Turn (api S U))) (result : Except Error Unit),
      (handleRevocation r).Ends t result ↔
        t = locked r.bucketId [] ∧ result = .error (.badId text (.invalidFormat text))

theorem ends_withLock_of_error {α : Type} {e : Error} {result : Except Error α}
    {p : Attempt (api S U) Error α} (h : p.run = .done (.error e)) :
    (withLock key p).run.Ends t result ↔ t = locked key [] ∧ result = .error e := by
  rw [ends_withLock, h]
  constructor
  · rintro ⟨body, rfl, hbody⟩
    obtain ⟨rfl, rfl⟩ := Program.ends_done.1 hbody
    exact ⟨rfl, rfl⟩
  · rintro ⟨rfl, rfl⟩
    exact ⟨[], rfl, .done _⟩

theorem leadsTo_of_decode (hne : text ≠ "") (h : ResourceId.decode text = .ok id) :
    LeadsTo S U text id where
  decoded := h
  deletion t result := by
    unfold handleDeleteBucket
    rw [ends_handle, run_deleteBucket hne, run_decodeId_bind_of_ok h]
  grant := by
    rintro r grantee model rfl hc t result
    unfold handleGrant
    rw [ends_handle, run_grant hc h, ends_withLock]
  revocation := by
    rintro r account rfl hc ha t result
    unfold handleRevocation
    rw [ends_handle, run_revoke hc ha h, ends_withLock]

theorem leadsToAccount_of_decode (h : ResourceId.decode text = .ok id) :
    LeadsToAccount S U text id where
  decoded := h
  revocation := by
    rintro r bucket rfl hc hd t result
    unfold handleRevocation
    rw [ends_handle, run_revoke hc h hd, ends_withLock]

theorem refused_of_decode (hne : text ≠ "")
    (h : ResourceId.decode text = .error (.invalidFormat text)) : Refused S U text where
  decoded := h
  deletion t result := by
    unfold handleDeleteBucket
    rw [ends_handle, run_deleteBucket hne, run_decodeId_bind_of_error h, Program.ends_done]
    exact and_congr_right fun _ => eq_comm
  grant := by
    rintro r grantee model rfl hc t result
    unfold handleGrant
    rw [ends_handle, run_grant_of_ok hc, ends_withLock_of_error (run_decodeId_bind_of_error h _)]
  revocation := by
    rintro r account rfl hc ha t result
    unfold handleRevocation
    rw [ends_handle, run_revoke_of_ok hc, ends_withLock_of_error]
    rw [run_decodeId_bind_of_ok ha, run_decodeId_bind_of_error h]

theorem refusedAccount_of_decode (h : ResourceId.decode text = .error (.invalidFormat text)) :
    RefusedAccount S U text where
  decoded := h
  revocation := by
    rintro r rfl hc t result
    unfold handleRevocation
    rw [ends_handle, run_revoke_of_ok hc, ends_withLock_of_error (run_decodeId_bind_of_error h _)]

/-! ## What the operations answer -/

/-- What the creation of a bucket without flaws says of it. -/
theorem NewBucket.full_of_check {r : NewBucket} {owner : SecretName} (h : r.check = .ok owner) :
    (ResourceId.mk owner.scope owner.name r.name).Full := by
  unfold NewBucket.check at h
  by_cases hname : r.name = ""
  · rw [hname] at h
    cases h
  · have hname' : r.name.isEmpty = false := by simpa using hname
    cases hparameters : r.parameters.isEmpty with
    | true =>
      rw [hname', hparameters] at h
      cases h
    | false =>
      rw [hname', hparameters] at h
      obtain ⟨hscope, howner⟩ := secretName_ne_empty h
      exact ⟨hscope, howner, hname⟩

theorem returns_createBucket {r : NewBucket} (h : (handleCreateBucket r).Ends t (.ok text)) :
    ∃ owner, r.check = .ok owner ∧ text = (ResourceId.mk owner.scope owner.name r.name).encode := by
  have hrun : Attempt.Returns (createBucket r) t text := ends_handle.1 h
  unfold createBucket at hrun
  obtain ⟨_, _, owner, rfl, h₁, h₂⟩ := Attempt.returns_bind.1 hrun
  obtain ⟨_, _, _, rfl, -, h₃⟩ := Attempt.returns_bind.1 h₂
  obtain ⟨_, _, _, rfl, -, h₄⟩ := Attempt.returns_bind.1 h₃
  obtain ⟨_, _, _, rfl, -, h₅⟩ := Attempt.returns_bind.1 h₄
  obtain ⟨-, rfl⟩ := Attempt.returns_pure.1 h₅
  refine ⟨owner, ?_, rfl⟩
  cases hc : r.check with
  | error flaw =>
    rw [hc] at h₁
    obtain ⟨-, he⟩ := Program.ends_done.1 h₁
    cases he
  | ok x =>
    rw [hc] at h₁
    obtain ⟨-, he⟩ := Program.ends_done.1 h₁
    cases he
    rfl

theorem returns_grant {r : Grant} {granted : Granted}
    (h : (handleGrant r).Ends t (.ok granted)) : ∃ grantee model, r.check = .ok (grantee, model) ∧
      granted.accountId = (ResourceId.mk grantee.scope grantee.name r.principal).encode := by
  have hrun := ends_handle.1 h
  cases hc : r.check with
  | error flaw =>
    rw [run_grant_of_error hc] at hrun
    obtain ⟨-, he⟩ := Program.ends_done.1 hrun
    cases he
  | ok x =>
    obtain ⟨grantee, model⟩ := x
    rw [run_grant_of_ok hc] at hrun
    cases hd : ResourceId.decode r.bucketId with
    | error e =>
      obtain ⟨-, he⟩ := (ends_withLock_of_error (run_decodeId_bind_of_error hd _)).1 hrun
      cases he
    | ok bucket =>
      obtain ⟨body, -, hbody⟩ := ends_withLock.1 hrun
      rw [run_decodeId_bind_of_ok hd] at hbody
      obtain ⟨a, -, rfl⟩ := returns_grantOn hbody
      exact ⟨grantee, model, rfl, rfl⟩

/-- The id that the creation of a bucket answers with leads to this bucket in its owner's account,
and the one that a grant answers with to the principal in the grantee's, exactly if there is no
slash in the names; otherwise both are refused. -/
theorem ids_given_back (t : List (Turn (api S U))) :
    (∀ (r : NewBucket) (text : String), (handleCreateBucket r).Ends t (.ok text) →
      ∃ owner, r.check = .ok owner ∧
        ((ResourceId.mk owner.scope owner.name r.name).Plain →
          LeadsTo S U text ⟨owner.scope, owner.name, r.name⟩) ∧
        (¬ (ResourceId.mk owner.scope owner.name r.name).Plain → Refused S U text)) ∧
    ∀ (r : Grant) (granted : Granted), (handleGrant r).Ends t (.ok granted) →
      ∃ grantee model, r.check = .ok (grantee, model) ∧
        ((ResourceId.mk grantee.scope grantee.name r.principal).Plain →
          LeadsToAccount S U granted.accountId ⟨grantee.scope, grantee.name, r.principal⟩) ∧
        (¬ (ResourceId.mk grantee.scope grantee.name r.principal).Plain →
          RefusedAccount S U granted.accountId) := by
  refine ⟨fun r text h => ?_, fun r granted h => ?_⟩
  · obtain ⟨owner, hc, rfl⟩ := returns_createBucket h
    have hfull := NewBucket.full_of_check hc
    refine ⟨owner, hc, fun hplain => ?_, fun hplain => ?_⟩
    · exact leadsTo_of_decode (encode_ne_empty _) (ResourceId.decode_encode hplain hfull)
    · exact refused_of_decode (encode_ne_empty _) (ResourceId.decode_encode_of_not_plain hplain)
  · obtain ⟨grantee, model, hc, hid⟩ := returns_grant h
    obtain ⟨hscope, hname, hprincipal, -⟩ := Grant.named_of_check hc
    refine ⟨grantee, model, hc, fun hplain => ?_, fun hplain => ?_⟩
    · exact leadsToAccount_of_decode
        (hid ▸ ResourceId.decode_encode hplain ⟨hscope, hname, hprincipal⟩)
    · rw [hid]
      exact refusedAccount_of_decode (ResourceId.decode_encode_of_not_plain hplain)

/-! ## Two buckets -/

/-- A bucket of this name in the owner's account. -/
def newBucket (name : String) : NewBucket :=
  ⟨name, .ofList [("accountSecretName", "owner"), ("accountSecretNamespace", "owners")]⟩

/-- The calls of its creation. -/
def creation (name : String) : List (Turn (api Unit Unit)) :=
  [⟨.secret ⟨"owners", "owner"⟩, .ok someAccount⟩, ⟨.connectStorage someAccount, .ok ()⟩,
    ⟨.storage () (.createBucket name none none), .ok ()⟩]

theorem ends_creation (name : String) (h : name ≠ "") :
    (handleCreateBucket (newBucket name)).Ends (creation name)
      (.ok (ResourceId.mk "owners" "owner" name).encode) := by
  have hempty : name.isEmpty = false := by simpa using h
  have hcheck : (newBucket name).check = .ok ⟨"owners", "owner"⟩ := by
    unfold newBucket NewBucket.check
    rw [hempty]
    rfl
  unfold handleCreateBucket
  rw [ends_handle]
  unfold createBucket
  rw [hcheck]
  exact .call (.call (.call (.done _)))

/-- The replies to a grant to a reader who is no user yet. -/
def repliesToReader : GrantReplies Unit Unit where
  owner := someAccount
  storage := ()
  grantee := someAccount
  users := ()
  found := none
  created := ⟨"", "", "", "locator", ""⟩
  key := ⟨"", "key", "", "", "", ""⟩
  policy := none

def turnsOfReader : List (Turn (api Unit Unit)) :=
  locked "owners/owner/bucket"
    (grantTurns ofOwner "reader" ⟨"grantees", "grantee"⟩ .readWrite repliesToReader)

theorem ends_grantToReader : (handleGrant grantToReader).Ends turnsOfReader
    (.ok (repliesToReader.granted "reader" ⟨"grantees", "grantee"⟩)) := by
  have hdecode : ResourceId.decode grantToReader.bucketId = .ok ofOwner := rfl
  unfold handleGrant turnsOfReader
  rw [ends_handle, run_grant rfl hdecode, ends_withLock]
  refine ⟨_, rfl, ?_⟩
  exact .call (.call (.call (.call (.call
    (.call (.call (.call (.call (.call (.note (.done _)))))))))))

theorem ids_given_back_reader :
    LeadsTo Unit Unit "owners/owner/first" ⟨"owners", "owner", "first"⟩ ∧
    LeadsToAccount Unit Unit "grantees/grantee/reader" ofReader := by
  refine ⟨?_, ?_⟩
  · obtain ⟨owner, hc, hleads, -⟩ :=
      (ids_given_back (creation "first")).1 _ _ (ends_creation "first" (by decide))
    cases hc
    exact hleads ⟨by decide, by decide, by decide⟩
  · obtain ⟨grantee, model, hc, hleads, -⟩ :=
      (ids_given_back turnsOfReader).2 _ _ ends_grantToReader
    cases hc
    exact hleads ⟨by decide, by decide, by decide⟩

/-- A bucket is created, and its id is refused. -/
theorem creation_refused :
    (handleCreateBucket (newBucket "a/b")).Ends (creation "a/b") (.ok "owners/owner/a/b") ∧
    Refused Unit Unit "owners/owner/a/b" := by
  have hdecode : ResourceId.decode "owners/owner/a/b" =
      .error (.invalidFormat "owners/owner/a/b") :=
    ResourceId.decode_encode_of_not_plain (r := ⟨"owners", "owner", "a/b"⟩)
      fun h => h.resource (by decide)
  exact ⟨ends_creation "a/b" (by decide), refused_of_decode (by decide) hdecode⟩

end BucketAccess.Provision
