import BucketAccess.Proofs.Provision.Retry

/-!
# Realms

Backends behind many clients. Each client of user management has a directory of its own, and each
client of object storage buckets of its own; secrets say which clients an operation gets. What goes
through one client of each kind is what happens to the one backend that the two make up, and what
is behind the others stays as it is.
-/

namespace BucketAccess.Provision

open Program (Follows)

variable {S U α ε : Type}

/-- The clients that secrets lead to. -/
structure Wiring (S U : Type) where
  account : SecretName → Credentials
  storage : Credentials → S
  users : Credentials → U

namespace Wiring

def storageOf (net : Wiring S U) (name : SecretName) : S := net.storage (net.account name)

def usersOf (net : Wiring S U) (name : SecretName) : U := net.users (net.account name)

end Wiring

structure Realm (S U : Type) where
  users : U → Users.Directory
  buckets : S → Storage.Buckets

namespace Realm

/-- What is behind two clients. -/
def view (w : Realm S U) (k : S) (u : U) : Backend := ⟨w.users u, w.buckets k⟩

/-- What is behind all other clients is the same. -/
structure SameElsewhere (k : S) (u : U) (w w' : Realm S U) : Prop where
  users : ∀ x, x ≠ u → w'.users x = w.users x
  buckets : ∀ x, x ≠ k → w'.buckets x = w.buckets x

/-- A call is answered by the backend behind its client, by that and nothing else. -/
def Step (net : Wiring S U) (locatorOf : U → String → String) (w : Realm S U) :
    Turn (api S U) → Realm S U → Prop
  | ⟨.secret name, r⟩, w' => r = .ok (net.account name) ∧ w' = w
  | ⟨.connectStorage account, r⟩, w' => r = .ok (net.storage account) ∧ w' = w
  | ⟨.connectUsers account, r⟩, w' => r = .ok (net.users account) ∧ w' = w
  | ⟨.storage k c, r⟩, w' =>
    (∃ said, Storage.Serves (w.buckets k) c said (w'.buckets k) ∧ r = Storage.settle c said) ∧
      w'.users = w.users ∧ ∀ x, x ≠ k → w'.buckets x = w.buckets x
  | ⟨.users u c, r⟩, w' =>
    (∃ said, Users.Serves (locatorOf u) (w.users u) c said (w'.users u) ∧
      r = Users.settle c said) ∧
      w'.buckets = w.buckets ∧ ∀ x, x ≠ u → w'.users x = w.users x
  | ⟨.lock _, _⟩, w' | ⟨.unlock _, _⟩, w' => w' = w

variable {net : Wiring S U} {locatorOf : U → String → String} {w w' : Realm S U} {k : S} {u : U}

theorem SameElsewhere.refl (k : S) (u : U) (w : Realm S U) : SameElsewhere k u w w :=
  ⟨fun _ _ => rfl, fun _ _ => rfl⟩

theorem SameElsewhere.trans {w₁ w₂ w₃ : Realm S U} (h₁ : SameElsewhere k u w₁ w₂)
    (h₂ : SameElsewhere k u w₂ w₃) : SameElsewhere k u w₁ w₃ :=
  ⟨fun x hx => (h₂.users x hx).trans (h₁.users x hx),
    fun x hx => (h₂.buckets x hx).trans (h₁.buckets x hx)⟩

theorem eq_of_view (h : SameElsewhere k u w w') (hview : w'.view k u = w.view k u) : w' = w := by
  obtain ⟨users, buckets⟩ := w
  obtain ⟨users', buckets'⟩ := w'
  obtain ⟨hu, hb⟩ := Backend.mk.inj hview
  have husers : users' = users := funext fun x => by
    by_cases hx : x = u
    · rw [hx]; exact hu
    · exact h.users x hx
  have hbuckets : buckets' = buckets := funext fun x => by
    by_cases hx : x = k
    · rw [hx]; exact hb
    · exact h.buckets x hx
  rw [husers, hbuckets]

theorem exists_step (c : Call S U) (w : Realm S U) : ∃ r w', Step net locatorOf w ⟨c, r⟩ w' := by
  classical
  match c with
  | .secret _ => exact ⟨_, w, rfl, rfl⟩
  | .connectStorage _ => exact ⟨_, w, rfl, rfl⟩
  | .connectUsers _ => exact ⟨_, w, rfl, rfl⟩
  | .storage k c =>
    obtain ⟨r, m, said, hserves, hr, -⟩ :=
      Backend.exists_storageServe c ⟨fun _ => none, w.buckets k⟩
    refine ⟨r, ⟨w.users, Function.update w.buckets k m.buckets⟩, ⟨said, ?_, hr⟩, rfl, ?_⟩
    · simpa using hserves
    · exact fun x hx => Function.update_of_ne hx _ _
  | .users u c =>
    obtain ⟨r, m, h⟩ : ∃ r m, Backend.UsersServe (locatorOf u) ⟨w.users u, fun _ => none⟩ ⟨c, r⟩ m :=
      Backend.exists_usersServe c _
    obtain ⟨said, hserves, hr, -⟩ := h
    refine ⟨r, ⟨Function.update w.users u m.users, w.buckets⟩, ⟨said, ?_, hr⟩, rfl, ?_⟩
    · simpa using hserves
    · exact fun x hx => Function.update_of_ne hx _ _
  | .lock _ | .unlock _ => exact ⟨(), w, rfl⟩

/-! ## Two clients alone -/

/-- A call through one of two clients, or through none, that is not about buckets as such. -/
def Through (k : S) (u : U) : Call S U → Prop
  | .storage _ (.createBucket ..) | .storage _ (.deleteBucket _) => False
  | .storage x _ => x = k
  | .users x _ => x = u
  | .secret _ | .connectStorage _ | .connectUsers _ | .lock _ | .unlock _ => True

theorem Through.client_eq {x : S} {c : Storage.Call} (h : Through k u (.storage x c)) : x = k := by
  cases c with
  | createBucket | deleteBucket => exact h.elim
  | headBucket | getPolicy | putPolicy | deletePolicy => exact h

theorem step_view {c : Call S U} {r : c.Reply} (h : Step net locatorOf w ⟨c, r⟩ w')
    (hc : Through k u c) :
    Backend.Step (locatorOf u) (w.view k u) ⟨c, r⟩ (w'.view k u) ∧ SameElsewhere k u w w' := by
  cases c with
  | secret name | connectStorage account | connectUsers account =>
    obtain ⟨hr, rfl⟩ := h
    exact ⟨⟨⟨_, hr⟩, rfl⟩, .refl k u _⟩
  | lock key | unlock key =>
    obtain rfl := h
    exact ⟨rfl, .refl k u _⟩
  | users x c =>
    obtain rfl : x = u := hc
    obtain ⟨⟨said, hserves, hr⟩, hbuckets, husers⟩ := h
    exact ⟨⟨said, hserves, hr, congrFun hbuckets k⟩, husers, fun x _ => congrFun hbuckets x⟩
  | storage x c =>
    obtain rfl := hc.client_eq
    obtain ⟨⟨said, hserves, hr⟩, husers, hbuckets⟩ := h
    exact ⟨⟨said, hserves, hr, congrFun husers u⟩, fun x _ => congrFun husers x, hbuckets⟩

theorem follows_view {t : List (Turn (api S U))} (h : Follows (Step net locatorOf) w t w')
    (ht : ∀ x ∈ t, Through k u x.call) :
    Follows (Backend.Step (locatorOf u)) (w.view k u) t (w'.view k u) ∧ SameElsewhere k u w w' := by
  induction t generalizing w with
  | nil =>
    obtain rfl := h
    exact ⟨rfl, .refl k u _⟩
  | cons x t ih =>
    obtain ⟨m, hm, hrest⟩ := h
    obtain ⟨hstep, hsame⟩ := step_view hm (ht x (.head _))
    obtain ⟨hfollows, hsame'⟩ := ih hrest fun y hy => ht y (.tail _ hy)
    exact ⟨⟨_, hstep, hfollows⟩, hsame.trans hsame'⟩

/-! ## Which clients an operation uses -/

/-- All calls of an attempt go through these clients, and what it succeeds with is in `P`. -/
def Uses (net : Wiring S U) (locatorOf : U → String → String) (k : S) (u : U)
    (p : Attempt (api S U) ε α) (P : α → Prop) : Prop :=
  ∀ w, Holds (Step net locatorOf) (Through k u) (fun _ => True)
    (fun r _ => ∀ a, r = .ok a → P a) p.run w

namespace Uses

variable {β δ : Type} {P : α → Prop}

theorem pure {a : α} (h : P a) :
    Uses net locatorOf k u (Pure.pure a : Attempt (api S U) ε α) P := by
  rintro w _ ⟨⟩
  exact h

theorem bind {Q : β → Prop} {p : Attempt (api S U) ε α} {f : α → Attempt (api S U) ε β}
    (hp : Uses net locatorOf k u p P) (hf : ∀ a, P a → Uses net locatorOf k u (f a) Q) :
    Uses net locatorOf k u (p >>= f) Q := by
  intro w
  rw [Attempt.run_bind]
  refine Holds.bind (hp w) fun r m hr => ?_
  cases r with
  | ok a => exact hf a (hr a rfl) m
  | error e => exact fun _ => nofun

theorem log {level : Log.Level} {message : String} {fields : List (String × Log.Value)} :
    Uses net locatorOf k u (Attempt.log level message fields : Attempt (api S U) ε Unit)
      fun _ => True := fun _ _ _ => trivial

theorem mapError {p : Attempt (api S U) ε α} {g : ε → δ} (hp : Uses net locatorOf k u p P) :
    Uses net locatorOf k u (p.mapError g) P := by
  intro w
  rw [Attempt.run_mapError]
  refine Holds.bind (hp w) fun r m hr => ?_
  cases r with
  | ok a =>
    rintro _ ⟨⟩
    exact hr a rfl
  | error e => exact fun _ => nofun

/-- One call, whose reply is the outcome. -/
theorem ask {c : Call S U} {next : c.Reply → Program (api S U) (Except ε α)}
    (outcome : c.Reply → Except ε α) (hn : ∀ r, next r = .done (outcome r)) (hc : Through k u c)
    (hstep : ∀ w r w', Step net locatorOf w ⟨c, r⟩ w' → ∀ a, outcome r = .ok a → P a) :
    Uses net locatorOf k u (.ofProgram (.call c next)) P := by
  refine fun w => ⟨hc, trivial, fun r w' hs => ⟨trivial, ?_⟩⟩
  rw [hn r]
  exact hstep w r w' hs

end Uses

theorem uses_credentials (name : SecretName) :
    Uses net locatorOf k u (credentials name) (· = net.account name) := by
  refine .mapError (.ask (fun r => r) (fun _ => rfl) trivial ?_)
  rintro w r w' ⟨rfl, -⟩ a ⟨⟩
  rfl

theorem uses_connectStorage (account : Credentials) :
    Uses net locatorOf k u (connectStorage account) (· = net.storage account) := by
  refine .mapError (.ask (fun r => r) (fun _ => rfl) trivial ?_)
  rintro w r w' ⟨rfl, -⟩ a ⟨⟩
  rfl

theorem uses_connectUsers (account : Credentials) :
    Uses net locatorOf k u (connectUsers account) (· = net.users account) := by
  refine .mapError (.ask (fun r => r) (fun _ => rfl) trivial ?_)
  rintro w r w' ⟨rfl, -⟩ a ⟨⟩
  rfl

theorem uses_onUsers (wrap : ε → Error) (p : Attempt Users.api ε α) :
    Uses net locatorOf k u (onUsers u wrap p) fun _ => True := by
  refine .mapError fun w => ?_
  show Holds _ _ _ _ (p.run.via (τ := api S U) fun c => .call (Call.users u c) .done) w
  induction p.run generalizing w with
  | done r => exact fun _ _ => trivial
  | note e rest ih => exact ih w
  | call c next ih => exact ⟨rfl, trivial, fun r w' _ => ⟨trivial, ih r w'⟩⟩

theorem uses_addStatement (bucket principal locator : String) (model : Policy.AccessModel) :
    Uses net locatorOf k u (addStatement k bucket principal locator model) fun _ => True := by
  refine .bind (P := fun _ => True) (.mapError ?_) fun policy _ => .mapError ?_
  · exact .ask (fun r => r) (fun _ => rfl) rfl fun _ _ _ _ _ _ => trivial
  · exact .ask (fun r => r) (fun _ => rfl) rfl fun _ _ _ _ _ _ => trivial

theorem uses_removeStatement (bucket principal : String) :
    Uses net locatorOf k u (removeStatement k bucket principal) fun _ => True := by
  refine .bind (P := fun _ => True) (.mapError ?_) fun policy _ => ?_
  · exact .ask (fun r => r) (fun _ => rfl) rfl fun _ _ _ _ _ _ => trivial
  cases policy with
  | none => exact .log
  | some d =>
    simp only
    split
    · exact .log
    · split
      · refine .bind .log fun _ _ => .mapError ?_
        exact .ask (fun r => r) (fun _ => rfl) rfl fun _ _ _ _ _ _ => trivial
      · refine .mapError ?_
        exact .ask (fun r => r) (fun _ => rfl) rfl fun _ _ _ _ _ _ => trivial

theorem uses_grantOn (id : ResourceId) (principal : String) (grantee : SecretName)
    (model : Policy.AccessModel) :
    Uses net locatorOf (net.storageOf (.ofId id)) (net.usersOf grantee)
      (grantOn id principal grantee model) fun _ => True := by
  refine .bind (uses_credentials _) fun owner howner => ?_
  refine .bind (uses_connectStorage _) fun storage hstorage => ?_
  obtain rfl : storage = net.storageOf (.ofId id) := by rw [hstorage, howner]; rfl
  refine .bind (P := fun _ => True) (.mapError ?_) fun _ _ => ?_
  · exact .ask (fun r => r) (fun _ => rfl) rfl fun _ _ _ _ _ _ => trivial
  refine .bind (uses_credentials _) fun account haccount => ?_
  refine .bind (uses_connectUsers _) fun users husers => ?_
  obtain rfl : users = net.usersOf grantee := by rw [husers, haccount]; rfl
  refine .bind (uses_onUsers _ _) fun registration _ => ?_
  refine .bind (uses_addStatement _ _ _ _) fun _ _ => ?_
  exact .bind .log fun _ _ => .pure trivial

theorem uses_revokeOn (id account : ResourceId) :
    Uses net locatorOf (net.storageOf (.ofId id)) (net.usersOf (.ofId account))
      (revokeOn id account) fun _ => True := by
  refine .bind (uses_credentials _) fun credentials hcredentials => ?_
  refine .bind (uses_connectUsers _) fun users husers => ?_
  obtain rfl : users = net.usersOf (.ofId account) := by rw [husers, hcredentials]; rfl
  refine .bind (uses_onUsers _ _) fun _ _ => ?_
  refine .bind (uses_credentials _) fun owner howner => ?_
  refine .bind (uses_connectStorage _) fun storage hstorage => ?_
  obtain rfl : storage = net.storageOf (.ofId id) := by rw [hstorage, howner]; rfl
  exact uses_removeStatement _ _

end Realm

end BucketAccess.Provision
