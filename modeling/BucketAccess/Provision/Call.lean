import BucketAccess.Provision.Request
import BucketAccess.ResourceId
import BucketAccess.Storage.Call
import BucketAccess.Users.Registration

/-!
# Calls of the provisioner

What the operations need from outside, and how they fail. Clients are made anew for each operation
from the credentials in a secret; `S` and `U` are whatever stands for a client of object storage and
of user management. The lock of a key is held by one operation at a time.
-/

namespace BucketAccess.Provision

/-! ## Failures -/

/-- A step that object storage is needed for. -/
inductive StorageStep where
  | connect
  | createBucket (bucket : String)
  | deleteBucket (bucket : String)
  | headBucket (bucket : String)
  | getPolicy (bucket : String)
  | addStatement (bucket principal : String)
  | removeStatement (bucket principal : String)
  | deletePolicy (bucket : String)
  deriving DecidableEq, Repr

def StorageStep.text : StorageStep → String
  | .connect => "new s3 client"
  | .createBucket bucket => s!"create bucket [{bucket}]"
  | .deleteBucket bucket => s!"delete bucket [{bucket}]"
  | .headBucket bucket => s!"check bucket [{bucket}] existence"
  | .getPolicy bucket => s!"get bucket [{bucket}] policy"
  | .addStatement bucket principal => s!"put bucket [{bucket}] policy about user [{principal}]"
  | .removeStatement bucket principal =>
    s!"remove bucket [{bucket}] policy about user [{principal}]"
  | .deletePolicy bucket => s!"delete bucket [{bucket}] entire policy"

/-- A step that user management is needed for. -/
inductive UsersStep where
  | connect
  | register (principal : String)
  deriving DecidableEq, Repr

def UsersStep.text : UsersStep → String
  | .connect => "new user client"
  | .register principal => s!"register user [{principal}]"

inductive Error where
  | invalid (operation : Operation) (flaw : Flaw)
  | badId (id : String) (e : ResourceId.Error)
  | secret (name : SecretName) (e : Account.Error)
  | storage (step : StorageStep) (e : Storage.Error)
  | users (step : UsersStep) (e : Users.Error)
  | removal (e : Users.RemovalError)
  deriving DecidableEq, Repr

namespace Error

def text : Error → String
  | .invalid operation flaw => s!"check {operation.name} request failed: {flaw.text}"
  | .badId id e => s!"fetch data from resource id [{id}] failed: {e.message}"
  | .secret name e => s!"get account secret [{name.text}] failed: {e.text}"
  | .storage step e => s!"{step.text} failed: {e.text}"
  | .users step e => s!"{step.text} failed: {e.text}"
  | .removal e => e.text

/-- Whether the text is this program's alone. -/
def isOwn : Error → Bool
  | .invalid .. | .badId .. => true
  | .secret _ e => e.message?.isSome
  | .storage _ e => e.isOwn
  | .users _ e => e.isOwn
  | .removal e => e.cause.isOwn

/-- The status that the control plane is told: all failures are internal. -/
def statusCode (_ : Error) : String := "Internal"

def statusText (e : Error) : String := e.statusCode ++ ": " ++ e.text

end Error

/-! ## Calls -/

inductive Call (S U : Type) where
  | secret (name : SecretName)
  | connectStorage (account : Credentials)
  | connectUsers (account : Credentials)
  | storage (client : S) (c : Storage.Call)
  | users (client : U) (c : Users.Call)
  | lock (key : String)
  | unlock (key : String)

def Call.Reply {S U : Type} : Call S U → Type
  | .secret _ => Except Account.Error Credentials
  | .connectStorage _ => Except Storage.Error S
  | .connectUsers _ => Except Users.Error U
  | .storage _ c => c.Reply
  | .users _ c => c.Reply
  | .lock _ | .unlock _ => Unit

abbrev api (S U : Type) : Signature := ⟨Call S U, Call.Reply⟩

variable {S U α : Type}

def credentials (name : SecretName) : Attempt (api S U) Error Credentials :=
  Attempt.mapError (Error.secret name) (.ofProgram (.call (Call.secret name) .done))

def connectStorage (account : Credentials) : Attempt (api S U) Error S :=
  Attempt.mapError (Error.storage .connect) (.ofProgram (.call (Call.connectStorage account) .done))

def connectUsers (account : Credentials) : Attempt (api S U) Error U :=
  Attempt.mapError (Error.users .connect) (.ofProgram (.call (Call.connectUsers account) .done))

/-- Work with a client of object storage, for this step. -/
def onStorage (client : S) (step : StorageStep) (p : Attempt Storage.api Storage.Error α) :
    Attempt (api S U) Error α :=
  Attempt.mapError (Error.storage step)
    (.ofProgram (p.run.via fun c => .call (Call.storage client c) .done))

/-- Work with a client of user management. -/
def onUsers {ε : Type} (client : U) (wrap : ε → Error) (p : Attempt Users.api ε α) :
    Attempt (api S U) Error α :=
  Attempt.mapError wrap (.ofProgram (p.run.via fun c => .call (Call.users client c) .done))

/-- Holds the lock of the key, whatever becomes of the work. -/
def withLock (key : String) (p : Attempt (api S U) Error α) : Attempt (api S U) Error α :=
  .ofProgram (.call (Call.lock key) fun _ =>
    p.run.bind fun result => .call (Call.unlock key) fun _ => .done result)

end BucketAccess.Provision
