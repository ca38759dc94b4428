import BucketAccess.Users.Call

/-!
# Registration of principals

A principal with access has a user of its own at the backend. Registering makes sure of the user and
gets it a new key; removing deletes all its keys and then the user, and stops at the first failure.
Each step may be repeated, so a removal that failed is taken up where it stopped.
-/

namespace BucketAccess.Users

/-- What a policy and a principal need to know of the principal's user. -/
structure Registration where
  locator : String
  keyId : String
  secret : String
  deriving DecidableEq, Repr

/-- A registration in a log: its secret stays out. -/
def Registration.shown (r : Registration) : String :=
  "UserInfo \x7b principal_arn: " ++ Text.quoted r.locator ++
    ", access_key_id: " ++ Text.quoted r.keyId ++ ", access_secret_key: \"<redacted>\" \x7d"

/-- The locator of the user, who is created if there is none. -/
def ensureUser (user : String) : Attempt api Error String := do
  match ← getUser user with
  | some found =>
    Attempt.log .info "reuse existing user" (Log.texts [("user", user), ("arn", found.arn)])
    return found.arn
  | none => return (← createUser user).arn

def register (user : String) : Attempt api Error Registration := do
  let locator ← ensureUser user
  let key ← createKey user
  return ⟨locator, key.id, key.secret⟩

/-! ## Removal -/

inductive RemovalStep where
  | listKeys
  | deleteKey
  | deleteUser
  deriving DecidableEq, Repr

def RemovalStep.name : RemovalStep → String
  | .listKeys => "list access keys"
  | .deleteKey => "delete access key"
  | .deleteUser => "delete user"

/-- A failure on the way: the keys that are gone, and those that are left, the one that could not be
deleted first. -/
structure RemovalError where
  user : String
  step : RemovalStep
  deleted : List String
  remaining : List String
  cause : Error
  deriving DecidableEq, Repr

def RemovalError.text (e : RemovalError) : String :=
  s!"remove user [{e.user}] failed at step [{e.step.name}], deleted keys " ++
    Text.quotedList e.deleted ++ ", remaining keys " ++ Text.quotedList e.remaining ++
    s!": {e.cause.text}"

/-- Deletes keys in order; `deleted` are gone already. -/
def removeKeys (user : String) (deleted : List String) :
    List String → Attempt api RemovalError Unit
  | [] => return
  | key :: rest => do
    tryCatch ((deleteKey user key).mapError (RemovalError.mk user .deleteKey deleted (key :: rest)))
      fun e => do
        Attempt.log .warn "delete access key failed"
          (Log.texts [("user", user), ("access_key_id", key), ("error", e.cause.text)])
        throw e
    removeKeys user (deleted ++ [key]) rest

def remove (user : String) : Attempt api RemovalError Unit := do
  let entries ← (listKeys user).mapError (RemovalError.mk user .listKeys [] [])
  let keys := entries.map KeyEntry.id
  removeKeys user [] keys
  (deleteUser user).mapError (RemovalError.mk user .deleteUser keys [])
  Attempt.log .info "remove user success"
    (Log.texts [("user", user)] ++ [("deleted_keys", .count keys.length)])

end BucketAccess.Users
