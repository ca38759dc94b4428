import BucketAccess.Provision.Call

/-!
# Operations

Creating and deleting buckets, granting and revoking access. A grant registers the principal as a
user of the grantee's account and puts its statement into the bucket's policy; a revocation removes
the user and takes the statement out. Both hold the lock of the bucket id from the first call of a
backend to the last. No policy without statements is ever written: it is deleted instead.
-/

namespace BucketAccess.Provision

variable {S U α : Type}

def info (message : String) (fields : List (String × String)) : Attempt (api S U) Error Unit :=
  Attempt.log .info message (Log.texts fields)

def check (operation : Operation) (r : Except Flaw α) : Attempt (api S U) Error α :=
  .ofExcept (r.mapError (Error.invalid operation))

def decodeId (id : String) : Attempt (api S U) Error ResourceId :=
  .ofExcept ((ResourceId.decode id).mapError (Error.badId id))

/-- The secret of the account that an id belongs to. -/
def SecretName.ofId (id : ResourceId) : SecretName := ⟨id.secretNamespace, id.secretName⟩

/-! ## Buckets -/

/-- Creates a bucket and answers with its id. -/
def createBucket (r : NewBucket) : Attempt (api S U) Error String := do
  let owner ← check .createBucket r.check
  let client ← connectStorage (← credentials owner)
  onStorage client (.createBucket r.name) (Storage.createBucket r.name
    (parameter? r.parameters "bucketACL") (parameter? r.parameters "bucketLocation"))
  return (ResourceId.mk owner.scope owner.name r.name).encode

def deleteBucket (bucketId : String) : Attempt (api S U) Error Unit := do
  check .deleteBucket (checkBucketId bucketId)
  let id ← decodeId bucketId
  let client ← connectStorage (← credentials (.ofId id))
  onStorage client (.deleteBucket id.resource) (Storage.deleteBucket id.resource)

/-! ## Grants -/

/-- The policy of a bucket once the statement is in it. -/
def withStatement (policy : Option Policy.Document) (s : Policy.Statement) : Policy.Document :=
  match policy with
  | some policy => policy.merge s
  | none => { Policy.Document.empty with statements := [s] }

/-- Puts the statement of a principal into the policy of a bucket. -/
def addStatement (client : S) (bucket principal locator : String) (model : Policy.AccessModel) :
    Attempt (api S U) Error Unit := do
  let policy ← onStorage client (.getPolicy bucket) (Storage.getPolicy bucket .missingPolicy)
  onStorage client (.addStatement bucket principal) (Storage.putPolicy bucket
    (withStatement policy (.grant principal locator model bucket)) .nothing)

/-- What a principal needs to use a bucket at this endpoint. -/
def AccessDetails.of (r : Users.Registration) (endpoint : String) : AccessDetails :=
  ⟨.ofList [("accessKeyID", r.keyId), ("accessSecretKey", r.secret), ("endpoint", endpoint)]⟩

/-- Grants access to the bucket of an id, whose lock is held. -/
def grantOn (id : ResourceId) (principal : String) (grantee : SecretName)
    (model : Policy.AccessModel) : Attempt (api S U) Error Granted := do
  let owner ← credentials (.ofId id)
  let storage ← connectStorage owner
  onStorage storage (.headBucket id.resource) (Storage.headBucket id.resource)
  let users ← connectUsers (← credentials grantee)
  let registration ← onUsers users (.users (.register principal)) (Users.register principal)
  addStatement storage id.resource principal registration.locator model
  info "granted bucket access"
    [("bucket", id.resource), ("user", principal), ("model", model.name)]
  return {
    accountId := (ResourceId.mk grantee.scope grantee.name principal).encode
    details := .of registration owner.endpoint }

def grant (r : Grant) : Attempt (api S U) Error Granted := do
  let (grantee, model) ← check .grant r.check
  withLock r.bucketId do
    grantOn (← decodeId r.bucketId) r.principal grantee model

/-! ## Revocations -/

/-- Takes the statements of a principal out of the policy of a bucket, if there are any. -/
def removeStatement (client : S) (bucket principal : String) : Attempt (api S U) Error Unit := do
  match ← onStorage client (.getPolicy bucket)
    (Storage.getPolicy bucket .missingBucketOrPolicy) with
  | none => info "bucket has no policy, skip remove policy operation" [("bucket", bucket)]
  | some policy =>
    let rest := policy.remove principal
    if rest.alike policy then
      info "bucket policy has no statement about user, skip remove policy operation"
        [("bucket", bucket), ("user", principal)]
    else if rest.isEmpty then
      info "bucket policy statement is empty, delete bucket policy directly" [("bucket", bucket)]
      onStorage client (.deletePolicy bucket) (Storage.deletePolicy bucket .missingBucketOrPolicy)
    else
      onStorage client (.removeStatement bucket principal)
        (Storage.putPolicy bucket rest .missingBucketOrPolicy)

/-- Revokes the access of an account to the bucket of an id, whose lock is held. -/
def revokeOn (id account : ResourceId) : Attempt (api S U) Error Unit := do
  let users ← connectUsers (← credentials (.ofId account))
  onUsers users .removal (Users.remove account.resource)
  let storage ← connectStorage (← credentials (.ofId id))
  removeStatement storage id.resource account.resource

def revoke (r : Revocation) : Attempt (api S U) Error Unit := do
  check .revoke r.check
  withLock r.bucketId do
    let account ← decodeId r.accountId
    let id ← decodeId r.bucketId
    revokeOn id account

/-! ## Requests -/

/-- Reports the outcome of an operation. -/
def reporting (operation : Operation) (p : Attempt (api S U) Error α) :
    Program (api S U) (Except Error α) := do
  let result ← p.run
  match result with
  | .ok _ =>
    Program.log .info "handle request successfully" (Log.texts [("operation", operation.name)])
  | .error e =>
    Program.log .error "handle request failed"
      (Log.texts [("operation", operation.name), ("error", e.text)])
  return result

/-- Announces an operation, carries it out and reports its outcome. -/
def handle (operation : Operation) (fields : List (String × String))
    (p : Attempt (api S U) Error α) : Program (api S U) (Except Error α) := do
  Program.log .info s!"handle {operation.name} request" (Log.texts fields)
  reporting operation p

def handleCreateBucket (r : NewBucket) : Program (api S U) (Except Error String) :=
  handle .createBucket [("bucket", r.name)] (createBucket r)

def handleDeleteBucket (bucketId : String) : Program (api S U) (Except Error Unit) :=
  handle .deleteBucket [("bucket_id", bucketId)] (deleteBucket bucketId)

def handleGrant (r : Grant) : Program (api S U) (Except Error Granted) :=
  handle .grant [("bucket_id", r.bucketId), ("user", r.principal),
    ("authentication_type", r.authentication.name)] (grant r)

def handleRevocation (r : Revocation) : Program (api S U) (Except Error Unit) :=
  handle .revoke [("bucket_id", r.bucketId), ("account_id", r.accountId)] (revoke r)

end BucketAccess.Provision
