import BucketAccess.Proofs.Provision.Access

/-!
# Histories

Operations one after the other against stored policies, on any buckets and for any principals, each
of which may fail at any of its calls. Whatever has been done, and also in the middle of an
operation, the policies are sound, they say of each principal what the last operation that succeeded
left, and everything else in them is as it was.
-/

namespace BucketAccess.Provision

open Policy (Document Statement Edit Sound statementsOf)

variable {S U α : Type}

/-- The policies of all buckets. -/
abbrev Policies := String → Option Document

def PoliciesStep (s : Policies) (u : Turn (api S U)) (s' : Policies) : Prop :=
  ∀ bucket, PolicyStep bucket (s bucket) u (s' bucket)

/-- An operation that is over: the calls that it made, and whether it succeeded. -/
structure Performed (S U : Type) where
  access : Access
  turns : List (Turn (api S U))
  succeeded : Bool

/-- The operations of `done` lead from the policies `s` to others. -/
inductive History (s : Policies) : List (Performed S U) → Policies → Prop
  | start : History s [] s
  | operation {done : List (Performed S U)} {m m' : Policies} {access : Access}
      {t : List (Turn (api S U))} {outcome : Except Error (Option Granted)} :
      History s done m → access.program.Ends t outcome → Program.Follows PoliciesStep m t m' →
      History s (done ++ [⟨access, t, outcome.isOk⟩]) m'

/-- The policies after the operations of `done`, and after the calls of one more that is not over,
if there is one. -/
inductive Reached (s : Policies) :
    List (Performed S U) → Option (Access × List (Turn (api S U))) → Policies → Prop
  | between {done : List (Performed S U)} {m : Policies} :
      History s done m → Reached s done none m
  | within {done : List (Performed S U)} {m m' : Policies} {access : Access}
      {t : List (Turn (api S U))} {rest : Program (api S U) (Except Error (Option Granted))} :
      History s done m → access.program.Reaches t rest → Program.Follows PoliciesStep m t m' →
      Reached s done (some (access, t)) m'

/-! ## What holds -/

/-- The last operation that succeeded for the principal on the bucket. -/
def lastOn (bucket principal : String) (done : List (Performed S U)) : Option (Performed S U) :=
  (done.filter fun o => o.succeeded ∧ o.access.target? = some (bucket, principal)).getLast?

/-- What an operation that succeeded leaves of the principal's statements on the bucket: the one
that it granted, for the locator that was reported to it, or none. -/
def Performed.Leaves (o : Performed S U) (bucket principal : String) (l : List Statement) : Prop :=
  match o.access with
  | .grant r => ∃ grantee model locator, r.check = .ok (grantee, model) ∧
      locator? o.turns = some locator ∧ l = [.grant principal locator model bucket]
  | .revoke _ => l = []

/-- The buckets and principals that operations are about. -/
def targets (accesses : List Access) : List (String × String) := accesses.filterMap Access.target?

/-- What holds of the policies `m` that were reached from `s`, with one operation maybe not over. -/
structure Kept (s : Policies) (done : List (Performed S U))
    (now : Option (Access × List (Turn (api S U)))) (m : Policies) : Prop where
  /-- No policy without statements is stored. -/
  stored : ∀ bucket, ∀ d ∈ m bucket, d.statements ≠ []
  /-- No policy without statements was ever put. -/
  put : ∀ u ∈ done.flatMap Performed.turns ++ now.toList.flatMap Prod.snd, ∀ d,
    u.call.put? = some d → d.statements ≠ []
  nodup : ∀ bucket, ∀ d ∈ m bucket, ((d.statements.map Statement.sid).filter (· ≠ "")).Nodup
  /-- The operation that is not over may have made its edit, which is then what counts. -/
  last : ∀ bucket principal o, lastOn bucket principal done = some o →
    o.Leaves bucket principal ((statementsOf (m bucket)).filter (·.sid = principal)) ∨
    ∃ access t, now = some (access, t) ∧ access.target? = some (bucket, principal) ∧
      Performed.Leaves ⟨access, t, true⟩ bucket principal
        ((statementsOf (m bucket)).filter (·.sid = principal))
  others : ∀ bucket,
    let named := targets (done.map Performed.access ++ now.toList.map Prod.fst)
    (statementsOf (m bucket)).filter (fun t => t.sid = "" ∨ (bucket, t.sid) ∉ named) =
      (statementsOf (s bucket)).filter fun t => t.sid = "" ∨ (bucket, t.sid) ∉ named

variable {s m m' : Policies} {done : List (Performed S U)} {access : Access}
  {t : List (Turn (api S U))} {bucket principal : String}

theorem follows_bucket (h : Program.Follows PoliciesStep m t m') (bucket : String) :
    Program.Follows (PolicyStep bucket) (m bucket) t (m' bucket) :=
  h.map (f := fun s => s bucket) fun _ _ _ hs => hs bucket

theorem Access.leaves {edit : String × Edit} (h : access.edit? t = some edit) {p : Option Document}
    (hp : Sound p) (succeeded : Bool) : Performed.Leaves ⟨access, t, succeeded⟩ edit.1 edit.2.sid
      ((statementsOf (edit.2.apply p)).filter (·.sid = edit.2.sid)) := by
  have hne := access.principal_ne_empty (target?_of_edit? h)
  cases access with
  | grant r =>
    obtain ⟨grantee, model, id, locator, hc, -, hl, rfl⟩ := edit?_grant h
    exact ⟨grantee, model, locator, hc, hl, hp.filter_put hne⟩
  | revoke r =>
    obtain ⟨target, ht, rfl⟩ := Option.map_eq_some_iff.1 h
    exact Policy.filter_take p target.2

theorem lastOn_concat (o : Performed S U) : lastOn bucket principal (done ++ [o]) =
    if o.succeeded ∧ o.access.target? = some (bucket, principal) then some o
    else lastOn bucket principal done := by
  unfold lastOn
  rw [List.filter_append]
  split
  · next h => simp [h]
  · next h => simp [h]

/-! ## Failing replies -/

theorem policiesStep_bad (c : Call S U) (s : Policies) : PoliciesStep s ⟨c, c.bad⟩ s := by
  intro bucket
  match c with
  | .secret _ | .connectStorage _ | .connectUsers _ | .lock _ | .unlock _ => exact ⟨nofun, rfl⟩
  | .storage _ c => cases c <;> exact ⟨nofun, rfl⟩
  | .users _ c => cases c <;> exact ⟨nofun, rfl⟩

theorem locatorIn?_bad (c : Call S U) : locatorIn? (⟨c, c.bad⟩ : Turn (api S U)) = none := by
  match c with
  | .secret _ | .connectStorage _ | .connectUsers _ | .lock _ | .unlock _ => rfl
  | .storage _ c => cases c <;> rfl
  | .users _ c => cases c <;> rfl

theorem follows_bad {t : List (Turn (api S U))} (ht : ∀ u ∈ t, u = ⟨u.call, u.call.bad⟩) :
    Program.Follows PoliciesStep s t s := by
  induction t with
  | nil => rfl
  | cons u t ih =>
    refine ⟨s, ?_, ih fun w hw => ht w (.tail _ hw)⟩
    rw [ht u (.head _)]
    exact policiesStep_bad u.call s

theorem locator?_append_bad {t t' : List (Turn (api S U))}
    (ht : ∀ u ∈ t', u = ⟨u.call, u.call.bad⟩) : locator? (t ++ t') = locator? t := by
  have hnone : t'.findSome? locatorIn? = none := by
    rw [List.findSome?_eq_none_iff]
    intro u hu
    rw [ht u hu]
    exact locatorIn?_bad u.call
  rw [locator?, List.findSome?_append, hnone, Option.or_none]
  rfl

/-! ## One operation -/

section

variable [Inhabited S] [Inhabited U] {outcome : Except Error (Option Granted)}

theorem Access.effects (h : access.program.Ends t outcome)
    (hf : Program.Follows PoliciesStep m t m') :
    (∃ e, outcome = .error e ∧ m' = m) ∨ ∃ got edit, outcome = .ok got ∧
      access.edit? t = some edit ∧
      ∀ b, m' b = if edit.1 = b then edit.2.apply (m b) else m b := by
  have heffect : ∀ b, _ := fun b =>
    effect h (follows_bucket hf b)
  cases outcome with
  | error e =>
    refine .inl ⟨e, rfl, funext fun b => ?_⟩
    rcases heffect b with ⟨_, -, hb⟩ | ⟨_, _, ⟨⟩, -⟩
    exact hb
  | ok got =>
    rcases heffect "" with ⟨_, ⟨⟩, -⟩ | ⟨_, edit, -, he, -⟩
    refine .inr ⟨got, edit, rfl, he, fun b => ?_⟩
    rcases heffect b with ⟨_, ⟨⟩, -⟩ | ⟨_, edit', -, he', hb⟩
    obtain rfl : edit = edit' := Option.some.inj (he.symm.trans he')
    exact hb

theorem Access.sound (h : access.program.Ends t outcome)
    (hf : Program.Follows PoliciesStep m t m') (hm : Sound (m bucket)) : Sound (m' bucket) := by
  rcases effects h hf with ⟨e, rfl, rfl⟩ | ⟨got, edit, rfl, he, hm'⟩
  · exact hm
  · rw [hm' bucket]
    split
    · exact hm.apply
    · exact hm

/-! ## Many operations -/

namespace History

theorem sound (h : History s done m) (hs : ∀ b, Sound (s b)) : ∀ b, Sound (m b) := by
  induction h with
  | start => exact hs
  | operation _ hends hf ih => exact fun b => Access.sound hends hf (ih b)

theorem put_ne_nil (h : History s done m) {o : Performed S U} (ho : o ∈ done)
    {u : Turn (api S U)} (hu : u ∈ o.turns) {d : Document} (hd : u.call.put? = some d) :
    d.statements ≠ [] := by
  induction h with
  | start => cases ho
  | operation _ hends _ ih =>
    rcases List.mem_append.1 ho with ho | ho
    · exact ih ho
    · obtain rfl := List.mem_singleton.1 ho
      exact Access.put_ne_nil hends hu hd

theorem filter_eq (h : History s done m) {q : String → Bool}
    (hq : ∀ o ∈ done, ∀ principal, o.access.target? = some (bucket, principal) →
      q principal = false) :
    (statementsOf (m bucket)).filter (fun x => q x.sid) =
      (statementsOf (s bucket)).filter fun x => q x.sid := by
  induction h with
  | start => rfl
  | operation _ hends hf ih =>
    have hlast := hq _ (List.mem_append_right _ (.head _))
    rw [Access.filter_eq hends (follows_bucket hf bucket) hlast]
    exact ih fun o ho => hq o (List.mem_append_left _ ho)

theorem leaves (h : History s done m) (hs : ∀ b, Sound (s b)) {o : Performed S U}
    (ho : lastOn bucket principal done = some o) :
    o.Leaves bucket principal ((statementsOf (m bucket)).filter (·.sid = principal)) := by
  induction h with
  | start => cases ho
  | @operation done m m' access t outcome hm hends hf ih =>
    rw [lastOn_concat] at ho
    rcases Access.effects hends hf with ⟨e, rfl, rfl⟩ | ⟨got, edit, rfl, he, hm'⟩
    · rw [if_neg (fun hn => nomatch hn.1)] at ho
      exact ih ho
    · have htarget := Access.target?_of_edit? he
      split at ho
      · next hn =>
        obtain ⟨rfl, rfl⟩ := Prod.mk.inj (Option.some.inj (htarget.symm.trans hn.2))
        obtain rfl := Option.some.inj ho
        rw [hm', if_pos rfl]
        exact Access.leaves he (hm.sound hs _) true
      · next hn =>
        have hq : ∀ pr, access.target? = some (bucket, pr) → decide (pr = principal) = false := by
          rintro pr ht
          refine decide_eq_false ?_
          rintro rfl
          exact hn ⟨rfl, ht⟩
        rw [Access.filter_eq (q := fun sid => decide (sid = principal)) hends
          (follows_bucket hf bucket) hq]
        exact ih ho

end History

/-! ## All states -/

theorem kept_of_history (h : History s done m) (hs : ∀ b, Sound (s b)) : Kept s done none m where
  stored bucket d hd := (h.sound hs bucket d hd).1
  put u hu d hd := by
    rw [Option.toList_none, List.flatMap_nil, List.append_nil] at hu
    obtain ⟨o, ho, hu⟩ := List.mem_flatMap.1 hu
    exact h.put_ne_nil ho hu hd
  nodup bucket d hd := (h.sound hs bucket d hd).2
  last _ _ _ ho := .inl (h.leaves hs ho)
  others bucket := by
    intro named
    refine h.filter_eq (q := fun sid => sid = "" ∨ (bucket, sid) ∉ named) fun o ho pr ht => ?_
    have hmem : (bucket, pr) ∈ named :=
      List.mem_filterMap.2 ⟨o.access, List.mem_append_left _ (List.mem_map_of_mem ho), ht⟩
    simpa [hmem] using Access.principal_ne_empty ht

/-- Whatever operations there were, however each of them went, and wherever the last one is. -/
theorem policies_kept {now : Option (Access × List (Turn (api S U)))} (hs : ∀ b, Sound (s b))
    (h : Reached s done now m) : Kept s done now m := by
  cases h with
  | between h => exact kept_of_history h hs
  | @within m₀ _ access t rest h hreach hf =>
    -- the operation fails at its next call: it is over then, and no policy is another
    obtain ⟨t', outcome, hrest, hbad⟩ := Program.exists_ends Call.bad rest
    have hends := hreach.ends hrest
    have hover := h.operation hends (Program.follows_append.2 ⟨m, hf, follows_bad hbad⟩)
    have hkept := kept_of_history hover hs
    refine ⟨hkept.stored, ?_, hkept.nodup, ?_, ?_⟩
    · intro u hu
      refine hkept.put u ?_
      rw [List.flatMap_append, List.append_assoc]
      rcases List.mem_append.1 hu with hu | hu
      · exact List.mem_append_left _ hu
      · refine List.mem_append_right _ (List.mem_append_left _ ?_)
        have hu : u ∈ t := by simpa using hu
        simp [hu]
    · intro bucket principal o ho
      by_cases hn : outcome.isOk ∧ access.target? = some (bucket, principal)
      · have hnew := hover.leaves hs (lastOn_concat _ |>.trans (if_pos hn))
        refine .inr ⟨access, t, rfl, hn.2, ?_⟩
        unfold Performed.Leaves at hnew ⊢
        rw [locator?_append_bad hbad] at hnew
        exact hnew
      · exact .inl (hover.leaves hs (((lastOn_concat _).trans (if_neg hn)).trans ho))
    · intro bucket
      simpa using hkept.others bucket

end

/-! ## A run -/

/-- Object storage without failures, and user management that finds nobody. -/
def obliging [Inhabited S] [Inhabited U] : (c : Call S U) → Policies → c.Reply × Policies
  | .storage _ (.getPolicy bucket _), s => (.ok (s bucket), s)
  | .storage _ (.putPolicy bucket d _), s =>
    (.ok (), fun b => if bucket = b then some d else s b)
  | .storage _ (.deletePolicy bucket _), s => (.ok (), fun b => if bucket = b then none else s b)
  | c, s => (c.good, s)

theorem policiesStep_obliging [Inhabited S] [Inhabited U] (c : Call S U) (s : Policies) :
    PoliciesStep s ⟨c, (obliging c s).1⟩ (obliging c s).2 := by
  intro bucket
  match c with
  | .secret _ | .connectStorage _ | .connectUsers _ | .lock _ | .unlock _ => exact ⟨nofun, rfl⟩
  | .users _ c => cases c <;> exact ⟨nofun, rfl⟩
  | .storage _ (.getPolicy b _) =>
    refine ⟨?_, rfl⟩
    rintro q ⟨⟩
    rfl
  | .storage _ (.createBucket ..) | .storage _ (.deleteBucket _) | .storage _ (.headBucket _)
  | .storage _ (.putPolicy ..) | .storage _ (.deletePolicy ..) => exact ⟨nofun, rfl⟩

/-- A grant to a principal. -/
def grantTo (principal : String) : Access :=
  .grant ⟨"owners/owner/bucket", principal, .key,
    .ofList [("accountSecretName", "grantee"), ("accountSecretNamespace", "grantees")]⟩

def grantedOnce : Performed Unit Unit where
  access := grantTo "reader"
  turns := (grantTo "reader").program.turns obliging fun _ => none
  succeeded :=
    ((grantTo "reader").program.run (obliging (S := Unit) (U := Unit)) fun _ => none).1.isOk

/-- From no policies at all, after one grant. -/
theorem policies_kept_granted : ∃ m : Policies, Reached (fun _ => none) [grantedOnce] none m ∧
    Kept (fun _ => none) [grantedOnce] none m ∧
    (m "bucket").map (fun d => d.statements.map Statement.sid) = some ["reader"] := by
  have hends := Program.ends_turns (obliging (S := Unit) (U := Unit)) (grantTo "reader").program
    (fun _ => none)
  have hfollows := Program.follows_turns (policiesStep_obliging (S := Unit) (U := Unit))
    (grantTo "reader").program (fun _ => none)
  have hreached : Reached (fun _ => none) [grantedOnce] none _ :=
    .between (.operation .start hends hfollows)
  refine ⟨_, hreached, policies_kept (fun _ => nofun) hreached, ?_⟩
  decide +kernel

end BucketAccess.Provision
