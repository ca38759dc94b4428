import BucketAccess.Proofs.Program.FailFast
import BucketAccess.Provision.Operations

/-!
# Failures of collaborators

What counts as a failure of a call, and that all work with collaborators fails fast: look-ups of
secrets, calls of clients, the registration and the removal of a user.
-/

namespace BucketAccess

variable {S U α ε : Type}

/-! ## User management -/

namespace Users

def cause? : Turn api → Option Error
  | ⟨.createUser _, r⟩ => failure? r
  | ⟨.getUser _, r⟩ => failure? r
  | ⟨.deleteUser _, r⟩ | ⟨.deleteKey _ _, r⟩ => failure? r
  | ⟨.createKey _, r⟩ => failure? r
  | ⟨.listKeys _, r⟩ => failure? r

def RemovalError.why (e : RemovalError) : Option Error := some e.cause

theorem failsFast_ensureUser (user : String) : FailsFast cause? some (ensureUser user).run := by
  refine .bind (.reply (fun r => r) (fun _ => rfl) fun _ => rfl) fun found => ?_
  cases found with
  | some u => exact .bind (.log ..) fun _ => .pure _
  | none => exact .bind (.reply (fun r => r) (fun _ => rfl) fun _ => rfl) fun _ => .pure _

theorem failsFast_register (user : String) : FailsFast cause? some (register user).run :=
  .bind (failsFast_ensureUser user) fun _ =>
    .bind (.reply (fun r => r) (fun _ => rfl) fun _ => rfl) fun _ => .pure _

/-- A failure is logged on its way, which changes nothing about it. -/
theorem failsFast_removeKeys (user : String) (deleted keys : List String) :
    FailsFast cause? RemovalError.why (removeKeys user deleted keys).run := by
  induction keys generalizing deleted with
  | nil => exact .pure ()
  | cons key rest ih =>
    refine .bind ?_ fun _ => ih (deleted ++ [key])
    have hdelete : FailsFast cause? RemovalError.why
        ((deleteKey user key).mapError (.mk user .deleteKey deleted (key :: rest))).run :=
      .mapError (.reply (fun r => r) (fun _ => rfl) fun _ => rfl) fun _ => rfl
    exact .bind_program hdelete (fun a => ⟨a, rfl⟩) fun e => ⟨e, rfl, .note (.done _)⟩

theorem failsFast_remove (user : String) : FailsFast cause? RemovalError.why (remove user).run := by
  refine .bind (.mapError (.reply (fun r => r) (fun _ => rfl) fun _ => rfl) fun _ => rfl) ?_
  intro entries
  refine .bind (failsFast_removeKeys user [] _) fun _ => ?_
  refine .bind (.mapError (.reply (fun r => r) (fun _ => rfl) fun _ => rfl) fun _ => rfl) ?_
  exact fun _ => .log ..

end Users

/-! ## Object storage -/

def Storage.cause? : Turn Storage.api → Option Storage.Error
  | ⟨.createBucket .., r⟩ | ⟨.deleteBucket _, r⟩ | ⟨.headBucket _, r⟩ | ⟨.putPolicy .., r⟩
  | ⟨.deletePolicy .., r⟩ => failure? r
  | ⟨.getPolicy .., r⟩ => failure? r

/-! ## Operations -/

namespace Provision

/-- A failure of a collaborator, in the terms of the collaborator. -/
inductive Cause where
  | account (e : Account.Error)
  | storage (e : Storage.Error)
  | users (e : Users.Error)

def Error.cause? : Error → Option Cause
  | .invalid _ _ | .badId _ _ => none
  | .secret _ e => some (.account e)
  | .storage _ e => some (.storage e)
  | .users _ e => some (.users e)
  | .removal e => some (.users e.cause)

/-- How the call of a turn failed, if it did. -/
def cause? : Turn (api S U) → Option Cause
  | ⟨.secret _, r⟩ => (failure? r).map .account
  | ⟨.connectStorage _, r⟩ => (failure? r).map .storage
  | ⟨.connectUsers _, r⟩ => (failure? r).map .users
  | ⟨.storage _ c, r⟩ => (Storage.cause? ⟨c, r⟩).map .storage
  | ⟨.users _ c, r⟩ => (Users.cause? ⟨c, r⟩).map .users
  | ⟨.lock _, _⟩ | ⟨.unlock _, _⟩ => none

abbrev Prompt (p : Attempt (api S U) Error α) : Prop := FailsFast cause? Error.cause? p.run

theorem prompt_credentials (name : SecretName) : Prompt (S := S) (U := U) (credentials name) :=
  .mapError (.ask id (fun _ => rfl) fun _ => rfl) fun _ => rfl

theorem prompt_connectStorage (account : Credentials) :
    Prompt (S := S) (U := U) (connectStorage account) :=
  .mapError (.ask id (fun _ => rfl) fun _ => rfl) fun _ => rfl

theorem prompt_connectUsers (account : Credentials) :
    Prompt (S := S) (U := U) (connectUsers account) :=
  .mapError (.ask id (fun _ => rfl) fun _ => rfl) fun _ => rfl

theorem prompt_onStorage (client : S) (step : StorageStep) {p : Attempt Storage.api Storage.Error α}
    (hp : FailsFast Storage.cause? some p.run) : Prompt (U := U) (onStorage client step p) := by
  have hc : ∀ c r, cause? (⟨.storage client c, r⟩ : Turn (api S U)) =
      (Storage.cause? ⟨c, r⟩).map .storage := fun _ _ => rfl
  have hv := FailsFast.via (τ := api S U) (f := Call.storage client) (g := fun _ r => r) hc hp
  exact .mapError hv fun _ => rfl

theorem prompt_onUsers (client : U) {wrap : ε → Error} {why : ε → Option Users.Error}
    (hw : ∀ e, (wrap e).cause? = (why e).map .users) {p : Attempt Users.api ε α}
    (hp : FailsFast Users.cause? why p.run) : Prompt (S := S) (onUsers client wrap p) := by
  have hc : ∀ c r, cause? (⟨.users client c, r⟩ : Turn (api S U)) =
      (Users.cause? ⟨c, r⟩).map .users := fun _ _ => rfl
  have hv := FailsFast.via (τ := api S U) (f := Call.users client) (g := fun _ r => r) hc hp
  exact .mapError hv hw

theorem prompt_info (message : String) (fields : List (String × String)) :
    Prompt (S := S) (U := U) (info message fields) := .log ..

/-! ## Replies -/

/-- A reply that is a failure. -/
def Call.bad : (c : Call S U) → c.Reply
  | .secret _ => .error .badCertificate
  | .connectStorage _ => .error (.connect .emptyEndpoint)
  | .connectUsers _ => .error .noParams
  | .storage _ (.createBucket ..) | .storage _ (.deleteBucket _) | .storage _ (.headBucket _)
  | .storage _ (.putPolicy ..) | .storage _ (.deletePolicy ..) => .error (.connect .emptyEndpoint)
  | .storage _ (.getPolicy ..) => .error (.connect .emptyEndpoint)
  | .users _ (.createUser _) => .error .noParams
  | .users _ (.getUser _) => .error .noParams
  | .users _ (.deleteUser _) | .users _ (.deleteKey ..) => .error .noParams
  | .users _ (.createKey _) => .error .noParams
  | .users _ (.listKeys _) => .error .noParams
  | .lock _ | .unlock _ => ()

section

variable [Inhabited S] [Inhabited U]

/-- A reply that is no failure. -/
def Call.good : (c : Call S U) → c.Reply
  | .secret _ => .ok ⟨"", "", "", none⟩
  | .connectStorage _ => .ok default
  | .connectUsers _ => .ok default
  | .storage _ (.createBucket ..) | .storage _ (.deleteBucket _) | .storage _ (.headBucket _)
  | .storage _ (.putPolicy ..) | .storage _ (.deletePolicy ..) => .ok ()
  | .storage _ (.getPolicy ..) => .ok none
  | .users _ (.createUser _) => .ok ⟨"", "", "", "", ""⟩
  | .users _ (.getUser _) => .ok none
  | .users _ (.deleteUser _) | .users _ (.deleteKey ..) => .ok ()
  | .users _ (.createKey _) => .ok ⟨"", "", "", "", "", ""⟩
  | .users _ (.listKeys _) => .ok []
  | .lock _ | .unlock _ => ()

theorem cause?_good (c : Call S U) : cause? (⟨c, c.good⟩ : Turn (api S U)) = none := by
  match c with
  | .secret _ | .connectStorage _ | .connectUsers _ | .lock _ | .unlock _ => rfl
  | .storage _ c => cases c <;> rfl
  | .users _ c => cases c <;> rfl

end

end Provision

end BucketAccess
