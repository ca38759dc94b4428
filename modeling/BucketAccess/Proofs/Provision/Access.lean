import BucketAccess.Proofs.Policy.Edit
import BucketAccess.Proofs.Provision.CallSequence

/-!
# Access and policies

What an operation does to the policies of buckets, when policies change by successful calls only: if
it succeeds, it makes one edit of the policy of its bucket, and if it fails, it leaves all policies
as they were.
-/

namespace BucketAccess.Provision

open Policy (Document Edit)

variable {S U α : Type}

/-! ## Operations -/

/-- An operation on the access to a bucket. -/
inductive Access where
  | grant (r : Grant)
  | revoke (r : Revocation)

namespace Access

/-- The key whose lock is held. -/
def bucketId : Access → String
  | grant r => r.bucketId
  | revoke r => r.bucketId

/-- Ends with what the principal gets, which is nothing from a revocation. -/
def program : Access → Program (api S U) (Except Error (Option Granted))
  | grant r => (handleGrant r).bind fun result => .done (result.map some)
  | revoke r => (handleRevocation r).bind fun result => .done (result.map fun _ => none)

/-- The bucket and the principal that a valid request is about. -/
def target? : Access → Option (String × String)
  | grant r =>
    match r.check, ResourceId.decode r.bucketId with
    | .ok _, .ok id => some (id.resource, r.principal)
    | _, _ => none
  | revoke r =>
    match r.check, ResourceId.decode r.accountId, ResourceId.decode r.bucketId with
    | .ok _, .ok account, .ok id => some (id.resource, account.resource)
    | _, _, _ => none

end Access

/-- The locator of a user who was found or created. -/
def locatorIn? : Turn (api S U) → Option String
  | ⟨.users _ (.getUser _), r⟩ => (Except.toOption r).join.map Users.User.arn
  | ⟨.users _ (.createUser _), r⟩ => (Except.toOption r).map Users.User.arn
  | _ => none

/-- The locator that user management reported. -/
def locator? (t : List (Turn (api S U))) : Option String := t.findSome? locatorIn?

/-- The bucket and the edit of its policy that the operation is to make, by the calls so far. -/
def Access.edit? : Access → List (Turn (api S U)) → Option (String × Edit)
  | grant r, t =>
    match r.check, ResourceId.decode r.bucketId, locator? t with
    | .ok (_, model), .ok id, some locator =>
      some (id.resource, .put (.grant r.principal locator model id.resource))
    | _, _, _ => none
  | revoke r, _ => (revoke r).target?.map fun target => (target.1, .take target.2)

/-! ## Targets -/

section

variable {access : Access} {t : List (Turn (api S U))} {bucket principal : String}

theorem resource_ne_empty {text : String} {id : ResourceId} (h : ResourceId.decode text = .ok id) :
    id.resource ≠ "" := by
  unfold ResourceId.decode at h
  split at h
  · next a b c _ =>
    split at h
    · cases h
    · next hne =>
      cases h
      intro hc
      exact hne (by simp [String.ofList_eq_empty_iff.1 hc])
  · cases h

theorem principal_ne_empty_of_check {r : Grant} {x : SecretName × Policy.AccessModel}
    (h : r.check = .ok x) : r.principal ≠ "" := by
  intro hp
  unfold Grant.check at h
  rw [hp] at h
  cases hb : checkBucketId r.bucketId with
  | error => rw [hb] at h; cases h
  | ok => rw [hb] at h; cases h

/-- Statements without a sid are nobody's. -/
theorem Access.principal_ne_empty (h : access.target? = some (bucket, principal)) :
    principal ≠ "" := by
  cases access with
  | grant r =>
    simp only [target?] at h
    split at h
    · next hc _ =>
      cases h
      exact principal_ne_empty_of_check hc
    · cases h
  | revoke r =>
    simp only [target?] at h
    split at h
    · next ha _ =>
      cases h
      exact resource_ne_empty ha
    · cases h

theorem Access.edit?_grant {r : Grant} {edit : String × Edit}
    (h : (Access.grant r).edit? t = some edit) : ∃ grantee model id locator,
      r.check = .ok (grantee, model) ∧ ResourceId.decode r.bucketId = .ok id ∧
      locator? t = some locator ∧
      edit = (id.resource, .put (.grant r.principal locator model id.resource)) := by
  simp only [edit?] at h
  split at h
  · next grantee model id locator hc hd hl =>
    exact ⟨grantee, model, id, locator, hc, hd, hl, (Option.some.inj h).symm⟩
  · cases h

theorem Access.target?_of_edit? {edit : String × Edit} (h : access.edit? t = some edit) :
    access.target? = some (edit.1, edit.2.sid) := by
  cases access with
  | grant r =>
    obtain ⟨grantee, model, id, locator, hc, hd, -, rfl⟩ := edit?_grant h
    simp only [target?, hc, hd]
    rfl
  | revoke r =>
    obtain ⟨target, ht, rfl⟩ := Option.map_eq_some_iff.1 h
    exact ht

end

/-! ## Policies -/

/-- The bucket whose policy was read, and the policy. -/
def read? : Turn (api S U) → Option (String × Option Document)
  | ⟨.storage _ (.getPolicy bucket _), r⟩ => (Except.toOption r).map fun p => (bucket, p)
  | _ => none

/-- The bucket whose policy was put or deleted, and what it has now. -/
def written? : Turn (api S U) → Option (String × Option Document)
  | ⟨.storage _ (.putPolicy bucket d _), r⟩ => (Except.toOption r).map fun _ => (bucket, some d)
  | ⟨.storage _ (.deletePolicy bucket _), r⟩ => (Except.toOption r).map fun _ => (bucket, none)
  | _ => none

/-- The policy of a bucket after a turn. -/
def policyAfter (bucket : String) (p : Option Document) (u : Turn (api S U)) : Option Document :=
  match written? u with
  | some (b, q) => if b = bucket then q else p
  | none => p

/-- The policy of a bucket from before a turn to after it: what is read is what is there, and only
a write that succeeds changes it. -/
structure PolicyStep (bucket : String) (p : Option Document) (u : Turn (api S U))
    (p' : Option Document) : Prop where
  read : ∀ q, read? u = some (bucket, q) → q = p
  after : p' = policyAfter bucket p u

/-- The policy that a call is to put. -/
def Call.put? : Call S U → Option Document
  | .storage _ (.putPolicy _ d _) => some d
  | _ => none

variable {bucket : String} {p p' : Option Document}

theorem written?_of_cause {u : Turn (api S U)} {k : Cause} (h : cause? u = some k) :
    written? u = none := by
  obtain ⟨c, r⟩ := u
  match c with
  | .secret _ | .connectStorage _ | .connectUsers _ | .users .. | .lock _ | .unlock _ => rfl
  | .storage _ (.putPolicy ..) | .storage _ (.deletePolicy ..) =>
    cases r with
    | ok => cases h
    | error => rfl
  | .storage _ (.createBucket ..) | .storage _ (.deleteBucket _) | .storage _ (.headBucket _)
  | .storage _ (.getPolicy ..) => rfl

/-- A turn that writes to no bucket but others. -/
theorem PolicyStep.eq_of_elsewhere {u : Turn (api S U)} (h : PolicyStep bucket p u p')
    (hu : ∀ w, written? u = some w → w.1 ≠ bucket) : p' = p := by
  rw [h.after, policyAfter]
  cases hw : written? u with
  | none => rfl
  | some w => exact if_neg (hu w hw)

theorem eq_of_follows_elsewhere {t : List (Turn (api S U))}
    (ht : ∀ u ∈ t, ∀ w, written? u = some w → w.1 ≠ bucket)
    (h : Program.Follows (PolicyStep bucket) p t p') : p' = p := by
  induction t generalizing p with
  | nil => exact h
  | cons u t ih =>
    obtain ⟨m, hm, hrest⟩ := h
    rw [ih (fun w hw => ht w (.tail _ hw)) hrest]
    exact hm.eq_of_elsewhere (ht u (.head _))

theorem eq_of_follows_unwritten {t : List (Turn (api S U))} (ht : ∀ u ∈ t, written? u = none)
    (h : Program.Follows (PolicyStep bucket) p t p') : p' = p :=
  eq_of_follows_elsewhere (fun u hu w hw => by rw [ht u hu] at hw; cases hw) h

/-! ## Effects of operations -/

/-- Calls that write at their end only, cut off by a failure, write nothing. -/
theorem FailStop.unwritten {full body : List (Turn (api S U))} {a : α} {r : Except Error α}
    (h : FailStop cause? Error.cause? full a body r)
    (hfull : ∀ u ∈ full.dropLast, written? u = none)
    (hf : Program.Follows (PolicyStep bucket) p body p') :
    (∃ e, r = .error e ∧ p' = p) ∨ r = .ok a ∧ body = full := by
  cases h with
  | whole => exact .inr ⟨rfl, rfl⟩
  | cut he hbefore hcall hcause hwhy =>
    left
    refine ⟨_, rfl, eq_of_follows_unwritten ?_ hf⟩
    rw [he, List.dropLast_append_of_ne_nil (by simp)] at hfull
    intro w hw
    rcases List.mem_append.1 hw with hw | hw
    · exact hfull w (List.mem_append_left _ hw)
    · rw [List.mem_singleton.1 hw]
      exact written?_of_cause hcause

theorem unwritten_grantTurns (id : ResourceId) (principal : String) (grantee : SecretName)
    (model : Policy.AccessModel) (a : GrantReplies S U) :
    ∀ u ∈ (grantTurns id principal grantee model a).dropLast, written? u = none := by
  rw [grantTurns, List.dropLast_append_of_ne_nil (by simp)]
  refine List.forall_mem_append.2 ⟨List.forall_mem_append.2 ⟨?_, ?_⟩, ?_⟩
  · simp only [List.forall_mem_cons]
    exact ⟨rfl, rfl, rfl, rfl, rfl, rfl, by simp⟩
  · split
    · simp only [List.forall_mem_cons]
      exact ⟨rfl, by simp⟩
    · simp
  · simp only [List.dropLast, List.forall_mem_cons]
    exact ⟨rfl, rfl, by simp⟩

theorem follows_grantTurns {id : ResourceId} {principal : String} {grantee : SecretName}
    {model : Policy.AccessModel} {a : GrantReplies S U}
    (h : Program.Follows (PolicyStep bucket) p (grantTurns id principal grantee model a) p') :
    p' = if id.resource = bucket then
      (Edit.put (.grant principal a.locator model id.resource)).apply p else p := by
  have hq := unwritten_grantTurns id principal grantee model a
  rw [grantTurns, List.dropLast_append_of_ne_nil (by simp)] at hq
  rw [grantTurns, Program.follows_append] at h
  obtain ⟨m, hm, h⟩ := h
  obtain rfl := eq_of_follows_unwritten (fun u hu => hq u (List.mem_append_left _ hu)) hm
  obtain ⟨_, hkey, _, hget, _, hput, rfl⟩ := h
  obtain rfl := hkey.after
  obtain rfl := hget.after
  rw [hput.after]
  by_cases hb : id.resource = bucket
  · have hp : a.policy = _ := hget.read _ (congrArg (fun b => some (b, a.policy)) hb)
    simp [policyAfter, written?, Except.toOption, GrantReplies.document, Edit.apply, hp]
  · simp [policyAfter, written?, Except.toOption, hb]

/-- At most one call is made of an edit. -/
theorem mem_of_mem_dropLast {β : Type} {l r : List β} (hr : r.length ≤ 1) {x : β}
    (h : x ∈ (l ++ r).dropLast) : x ∈ l := by
  match r, hr with
  | [], _ => exact List.dropLast_subset _ (by simpa using h)
  | [y], _ => simpa [List.dropLast_append_of_ne_nil] using h

theorem length_editTurns_le (client : S) (bucket user : String) (policy : Option Document) :
    (editTurns (U := U) client bucket user policy).length ≤ 1 := by
  unfold editTurns
  split
  · simp
  · split
    · simp
    · split <;> simp

theorem written_editTurns {client : S} {b user : String} {policy : Option Document}
    {u : Turn (api S U)} {w : String × Option Document}
    (hu : u ∈ editTurns client b user policy) (hw : written? u = some w) : w.1 = b := by
  unfold editTurns at hu
  split at hu
  · cases hu
  · split at hu
    · cases hu
    · split at hu
      · rw [List.mem_singleton.1 hu] at hw
        cases hw
        rfl
      · rw [List.mem_singleton.1 hu] at hw
        cases hw
        rfl

theorem put_editTurns {client : S} {b user : String} {policy : Option Document} {d : Document}
    {u : Turn (api S U)} (hu : u ∈ editTurns client b user policy) (hd : u.call.put? = some d) :
    d.statements ≠ [] := by
  unfold editTurns at hu
  split at hu
  · cases hu
  · next policy =>
    split at hu
    · cases hu
    · split at hu
      · rw [List.mem_singleton.1 hu] at hd
        cases hd
      · next hall =>
        rw [List.mem_singleton.1 hu] at hd
        cases hd
        intro hn
        exact hall (by simpa [Document.remove] using hn)

theorem follows_editTurns {client : S} {b user : String} {policy : Option Document}
    (hp : b = bucket → policy = p)
    (h : Program.Follows (PolicyStep (U := U) bucket) p (editTurns client b user policy) p') :
    p' = if b = bucket then (Edit.take user).apply p else p := by
  by_cases hb : b = bucket
  · rw [← hp hb] at h ⊢
    rw [if_pos hb]
    cases policy with
    | none => exact h
    | some d =>
      simp only [editTurns] at h
      simp only [Edit.apply]
      split at h
      · next hn => rw [if_pos hn]; exact h
      · next hn =>
        rw [if_neg hn]
        split at h
        · next hall =>
          obtain ⟨_, hdelete, rfl⟩ := h
          rw [hdelete.after, if_pos hall]
          simp [policyAfter, written?, Except.toOption, hb]
        · next hall =>
          obtain ⟨_, hput, rfl⟩ := h
          rw [hput.after, if_neg hall]
          simp [policyAfter, written?, Except.toOption, hb]
  · rw [if_neg hb]
    refine eq_of_follows_elsewhere (fun u hu w hw => ?_) h
    rw [written_editTurns hu hw]
    exact hb

/-- Before its edit a revocation writes nothing. -/
theorem unwritten_of_mem_front {id account : ResourceId} {a : RevocationReplies S U}
    {front : List (Turn (api S U))}
    (h : revocationTurns id account a =
      front ++ editTurns a.storage id.resource account.resource a.policy) :
    ∀ u ∈ front, written? u = none := by
  rw [← List.append_cancel_right h]
  refine List.forall_mem_append.2 ⟨List.forall_mem_append.2 ⟨?_, ?_⟩, ?_⟩
  · simp only [List.forall_mem_cons]
    exact ⟨rfl, rfl, rfl, by simp⟩
  · intro u hu
    obtain ⟨e, -, rfl⟩ := List.mem_map.1 hu
    rfl
  · simp only [List.forall_mem_cons]
    exact ⟨rfl, rfl, rfl, rfl, by simp⟩

theorem unwritten_revocationTurns (id account : ResourceId) (a : RevocationReplies S U) :
    ∀ u ∈ (revocationTurns id account a).dropLast, written? u = none :=
  fun u hu => unwritten_of_mem_front rfl u (mem_of_mem_dropLast (length_editTurns_le _ _ _ _) hu)

theorem follows_revocationTurns {id account : ResourceId} {a : RevocationReplies S U}
    (h : Program.Follows (PolicyStep bucket) p (revocationTurns id account a) p') :
    p' = if id.resource = bucket then (Edit.take account.resource).apply p else p := by
  have hq := unwritten_of_mem_front (a := a) (rfl : revocationTurns id account a = _)
  rw [revocationTurns, Program.follows_append] at h
  obtain ⟨m, hm, h⟩ := h
  obtain rfl := eq_of_follows_unwritten hq hm
  refine follows_editTurns (fun hb => ?_) h
  rw [Program.follows_append] at hm
  obtain ⟨_, -, _, -, _, -, _, -, _, hget, rfl⟩ := hm
  have hread := hget.read a.policy (congrArg (fun b => some (b, a.policy)) hb)
  exact hread.trans hget.after.symm

theorem locator?_grantTurns {id : ResourceId} {principal : String} {grantee : SecretName}
    {model : Policy.AccessModel} (a : GrantReplies S U) (key : String) :
    locator? (locked key (grantTurns id principal grantee model a)) = some a.locator := by
  unfold grantTurns GrantReplies.locator
  cases a.found <;> rfl

theorem follows_locked {key : String} {body : List (Turn (api S U))}
    (h : Program.Follows (PolicyStep bucket) p (locked key body) p') :
    Program.Follows (PolicyStep bucket) p body p' := by
  obtain ⟨m, hlock, h⟩ := h
  obtain rfl := hlock.after
  obtain ⟨m', hbody, m'', hunlock, rfl⟩ := Program.follows_append.1 h
  obtain rfl := hunlock.after
  exact hbody

theorem mem_of_mem_locked {key : String} {body : List (Turn (api S U))} {u : Turn (api S U)}
    (hu : u ∈ locked key body) {d : Document} (hd : u.call.put? = some d) : u ∈ body := by
  rcases List.mem_cons.1 hu with rfl | hu
  · cases hd
  · rcases List.mem_append.1 hu with hu | hu
    · exact hu
    · rw [List.mem_singleton.1 hu] at hd
      cases hd

/-! ## Whole operations -/

/-- The calls to collaborators in a run without failures, and what the principal gets from it. -/
inductive Access.Whole : Access → List (Turn (api S U)) → Option Granted → Prop
  | grant {r : Grant} {grantee : SecretName} {model : Policy.AccessModel} {id : ResourceId}
      (a : GrantReplies S U) : r.check = .ok (grantee, model) →
      ResourceId.decode r.bucketId = .ok id →
      Whole (.grant r) (grantTurns id r.principal grantee model a)
        (some (a.granted r.principal grantee))
  | revoke {r : Revocation} {account id : ResourceId} (a : RevocationReplies S U) :
      r.check = .ok () → ResourceId.decode r.accountId = .ok account →
      ResourceId.decode r.bucketId = .ok id →
      Whole (.revoke r) (revocationTurns id account a) none

namespace Access

variable {access : Access} {t full : List (Turn (api S U))} {got : Option Granted}
  {outcome : Except Error (Option Granted)}

theorem Whole.unwritten (h : Whole access full got) : ∀ u ∈ full.dropLast, written? u = none := by
  cases h with
  | grant a _ _ => exact unwritten_grantTurns _ _ _ _ a
  | revoke a _ _ _ => exact unwritten_revocationTurns _ _ a

theorem Whole.edit (h : Whole access full got)
    (hf : Program.Follows (PolicyStep bucket) p full p') (key : String) :
    ∃ edit, access.edit? (locked key full) = some edit ∧
      p' = if edit.1 = bucket then edit.2.apply p else p := by
  cases h with
  | @grant r grantee model id a hc hd =>
    refine ⟨(id.resource, .put (.grant r.principal a.locator model id.resource)), ?_,
      follows_grantTurns hf⟩
    simp only [edit?, hc, hd, locator?_grantTurns]
  | @revoke r account id a hc ha hd =>
    refine ⟨(id.resource, .take account.resource), ?_, follows_revocationTurns hf⟩
    simp only [edit?, target?, hc, ha, hd]
    rfl

/-- No policy without statements is put. -/
theorem Whole.put_ne_nil (h : Whole access full got) {u : Turn (api S U)} (hu : u ∈ full)
    {d : Document} (hd : u.call.put? = some d) : d.statements ≠ [] := by
  suffices hall : ∀ u ∈ full, ∀ d, u.call.put? = some d → d.statements ≠ [] from hall u hu d hd
  cases h with
  | grant a _ _ =>
    refine List.forall_mem_append.2 ⟨List.forall_mem_append.2 ⟨?_, ?_⟩, ?_⟩
    · simp [Call.put?]
    · split <;> simp [Call.put?]
    · simp only [List.forall_mem_cons]
      refine ⟨nofun, nofun, ?_, by simp⟩
      rintro _ ⟨⟩
      exact Policy.withStatement_ne_nil _ _
  | revoke a _ _ _ =>
    refine List.forall_mem_append.2 ⟨List.forall_mem_append.2 ⟨List.forall_mem_append.2
      ⟨?_, ?_⟩, ?_⟩, ?_⟩
    · simp [Call.put?]
    · intro u hu d hd
      obtain ⟨e, -, rfl⟩ := List.mem_map.1 hu
      cases hd
    · simp [Call.put?]
    · exact fun u hu d hd => put_editTurns hu hd

variable [Inhabited S] [Inhabited U]

/-- The calls of an operation are none, or those of a run without failures up to the first failure,
with the lock held around them. -/
theorem conforms (h : access.program.Ends t outcome) :
    (∃ e, outcome = .error e ∧ (t = [] ∨ t = locked access.bucketId [])) ∨
    ∃ body full got, t = locked access.bucketId body ∧ Whole access full got ∧
      FailStop cause? Error.cause? full got body outcome := by
  cases access with
  | grant r =>
    obtain ⟨t, t', result, rfl, hr, hdone⟩ := Program.ends_bind.1 h
    obtain ⟨rfl, rfl⟩ := Program.ends_done.1 hdone
    rw [List.append_nil]
    have hg := grant_conforms hr
    unfold GrantConforms at hg
    split at hg
    · obtain ⟨rfl, rfl⟩ := hg
      exact .inl ⟨_, rfl, .inl rfl⟩
    · next grantee model hc =>
      obtain ⟨body, rfl, hg⟩ := hg
      split at hg
      · obtain ⟨rfl, rfl⟩ := hg
        exact .inl ⟨_, rfl, .inr rfl⟩
      · next id hd =>
        obtain ⟨a, hstop⟩ := hg
        exact .inr ⟨body, _, _, rfl, .grant a hc hd, hstop.map some⟩
  | revoke r =>
    obtain ⟨t, t', result, rfl, hr, hdone⟩ := Program.ends_bind.1 h
    obtain ⟨rfl, rfl⟩ := Program.ends_done.1 hdone
    rw [List.append_nil]
    have hg := revocation_conforms hr
    unfold RevocationConforms at hg
    split at hg
    · obtain ⟨rfl, rfl⟩ := hg
      exact .inl ⟨_, rfl, .inl rfl⟩
    · next hc =>
      obtain ⟨body, rfl, hg⟩ := hg
      split at hg
      · obtain ⟨rfl, rfl⟩ := hg
        exact .inl ⟨_, rfl, .inr rfl⟩
      · obtain ⟨rfl, rfl⟩ := hg
        exact .inl ⟨_, rfl, .inr rfl⟩
      · next account id ha hd =>
        obtain ⟨a, hstop⟩ := hg
        exact .inr ⟨body, _, _, rfl, .revoke a hc ha hd, hstop.map fun _ => none⟩

/-- The policy of any bucket before and after an operation with these calls. -/
theorem effect (h : access.program.Ends t outcome)
    (hf : Program.Follows (PolicyStep bucket) p t p') :
    (∃ e, outcome = .error e ∧ p' = p) ∨ ∃ got edit, outcome = .ok got ∧
      access.edit? t = some edit ∧ p' = if edit.1 = bucket then edit.2.apply p else p := by
  rcases conforms h with ⟨e, rfl, rfl | rfl⟩ | ⟨body, full, got, rfl, hwhole, hstop⟩
  · exact .inl ⟨e, rfl, hf⟩
  · exact .inl ⟨e, rfl, follows_locked hf⟩
  · have hbody := follows_locked hf
    rcases FailStop.unwritten hstop hwhole.unwritten hbody with ⟨e, rfl, rfl⟩ | ⟨rfl, rfl⟩
    · exact .inl ⟨e, rfl, rfl⟩
    · obtain ⟨edit, he, hp⟩ := hwhole.edit hbody access.bucketId
      exact .inr ⟨got, edit, rfl, he, hp⟩

/-- Only the statements of the principal on the bucket may change. -/
theorem filter_eq (h : access.program.Ends t outcome)
    (hf : Program.Follows (PolicyStep bucket) p t p') {q : String → Bool}
    (hq : ∀ principal, access.target? = some (bucket, principal) → q principal = false) :
    (Policy.statementsOf p').filter (fun x => q x.sid) =
      (Policy.statementsOf p).filter fun x => q x.sid := by
  rcases effect h hf with ⟨e, rfl, rfl⟩ | ⟨got, edit, rfl, he, rfl⟩
  · rfl
  · split
    · next hb =>
      have ht := target?_of_edit? he
      rw [hb] at ht
      exact Policy.filter_apply (hq _ ht)
    · rfl

theorem put_ne_nil (h : access.program.Ends t outcome) {u : Turn (api S U)} (hu : u ∈ t)
    {d : Document} (hd : u.call.put? = some d) : d.statements ≠ [] := by
  rcases conforms h with ⟨e, rfl, rfl | rfl⟩ | ⟨body, full, got, rfl, hwhole, hstop⟩
  · cases hu
  · cases mem_of_mem_locked hu hd
  · obtain ⟨w, hw, hcall⟩ := hstop.exists_call (mem_of_mem_locked hu hd)
    exact hwhole.put_ne_nil hw (hcall ▸ hd)

end Access

end BucketAccess.Provision
