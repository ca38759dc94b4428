import BucketAccess.Policy.AccessModel
import BucketAccess.SortedMap
import BucketAccess.Text.Quoted

/-!
# Requests

What the control plane asks for: a bucket to be created or deleted, access to a bucket to be granted
or revoked. A request is checked before anything else is done; of several flaws the first counts.
-/

namespace BucketAccess.Provision

inductive Operation where
  | createBucket
  | deleteBucket
  | grant
  | revoke
  deriving DecidableEq, Repr

def Operation.name : Operation → String
  | .createBucket => "DriverCreateBucket"
  | .deleteBucket => "DriverDeleteBucket"
  | .grant => "DriverGrantBucketAccess"
  | .revoke => "DriverRevokeBucketAccess"

/-! ## Requests and responses -/

/-- How a principal proves who it is. -/
inductive Authentication where
  | unknown
  | key
  | identity
  deriving DecidableEq, Repr

def Authentication.name : Authentication → String
  | .unknown => "Unknown"
  | .key => "Key"
  | .identity => "Iam"

structure NewBucket where
  name : String
  parameters : SortedMap String
  deriving DecidableEq

/-- A grant for a principal, whose name is also that of its user and the sid of its statement. -/
structure Grant where
  bucketId : String
  principal : String
  authentication : Authentication
  parameters : SortedMap String
  deriving DecidableEq

structure Revocation where
  bucketId : String
  accountId : String
  deriving DecidableEq, Repr

/-- What a principal gets for one protocol, by entry. -/
structure AccessDetails where
  secrets : SortedMap String
  deriving DecidableEq

/-- Details in a log: only the names of the entries are shown. -/
def AccessDetails.shown (d : AccessDetails) : String :=
  "CredentialDetails \x7b secrets: " ++ Text.quotedList (d.secrets.entries.map (·.1)) ++ " \x7d"

structure Granted where
  accountId : String
  details : AccessDetails
  deriving DecidableEq

/-- The protocol that the details of a grant are for. -/
def Granted.protocol : String := "s3"

/-! ## Checks -/

inductive Flaw where
  | noBucketName
  | noParameters
  | noParameter (key : String)
  | noBucketId
  | noPrincipal
  | noAccountId
  | identityAuthentication
  | unknownAuthentication
  | unknownModel (text : String)
  deriving DecidableEq, Repr

def Flaw.text : Flaw → String
  | .noBucketName => "empty bucket name"
  | .noParameters => "empty bucket parameters"
  | .noParameter key => s!"{key} value is empty"
  | .noBucketId => "empty bucket id"
  | .noPrincipal => "empty user name"
  | .noAccountId => "empty account id"
  | .identityAuthentication => "IAM authentication type not implemented"
  | .unknownAuthentication => "unknown authentication type"
  | .unknownModel text => Policy.AccessModel.invalidMessage text

/-- The secret with the keys of an account. -/
structure SecretName where
  scope : String
  name : String
  deriving DecidableEq, Repr

def SecretName.text (s : SecretName) : String := s.scope ++ "/" ++ s.name

/-- The value of a parameter; an empty one is as good as none. -/
def parameter? (parameters : SortedMap String) (key : String) : Option String :=
  (parameters.get? key).filter (!·.isEmpty)

def required (parameters : SortedMap String) (key : String) : Except Flaw String :=
  match parameter? parameters key with
  | some value => .ok value
  | none => .error (.noParameter key)

def secretName (parameters : SortedMap String) : Except Flaw SecretName := do
  let name ← required parameters "accountSecretName"
  let scope ← required parameters "accountSecretNamespace"
  return ⟨scope, name⟩

/-- The owner's secret. -/
def NewBucket.check (r : NewBucket) : Except Flaw SecretName := do
  if r.name.isEmpty then throw .noBucketName
  if r.parameters.isEmpty then throw .noParameters
  secretName r.parameters

def checkBucketId (bucketId : String) : Except Flaw Unit :=
  if bucketId.isEmpty then .error .noBucketId else .ok ()

def checkAuthentication : Authentication → Except Flaw Unit
  | .key => .ok ()
  | .identity => .error .identityAuthentication
  | .unknown => .error .unknownAuthentication

/-- The model that the parameters name. -/
def accessModel (parameters : SortedMap String) : Except Flaw Policy.AccessModel :=
  match parameters.get? "bucketPolicyModel" with
  | none => .ok .standard
  | some text =>
    match Policy.AccessModel.ofName? text with
    | some model => .ok model
    | none => .error (.unknownModel text)

/-- The grantee's secret and the model. -/
def Grant.check (r : Grant) : Except Flaw (SecretName × Policy.AccessModel) := do
  checkBucketId r.bucketId
  if r.principal.isEmpty then throw .noPrincipal
  checkAuthentication r.authentication
  let grantee ← secretName r.parameters
  return (grantee, ← accessModel r.parameters)

def Revocation.check (r : Revocation) : Except Flaw Unit := do
  checkBucketId r.bucketId
  if r.accountId.isEmpty then throw .noAccountId

end BucketAccess.Provision
