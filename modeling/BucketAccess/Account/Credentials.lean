import BucketAccess.Account.Trust
import BucketAccess.SortedMap
import BucketAccess.Text.Quoted

/-!
# Accounts

What a secret says about a backend account: its keys, the endpoint to call, and a bundle of
certificates to trust. Secrets are looked up by namespace and name.
-/

namespace BucketAccess

abbrev Secret := SortedMap Bytes

namespace Account

inductive Error where
  | missingEntry (secret : String) (key : String)
  | unavailable (secret : String) (reason : String)
  | badCertificate
  deriving DecidableEq, Repr

/-- The complaint, if its text does not depend on the library that reads certificates. -/
def Error.message? : Error → Option String
  | .missingEntry secret key => some s!"credential secret [{secret}] has no [{key}] entry"
  | .unavailable secret reason => some s!"failed to get account secret [{secret}]: {reason}"
  | .badCertificate => none

end Account

structure Credentials where
  accessKey : String
  secretKey : String
  endpoint : String
  bundle : Option Bytes
  deriving DecidableEq, Repr

namespace Credentials

def textEntry (label : String) (secret : Secret) (key : String) : Except Account.Error String :=
  match secret.get? key with
  | some bytes => .ok (Utf8.lossy bytes)
  | none => .error (.missingEntry label key)

/-- The credentials in a secret that is known under this label; an empty bundle counts as absent. -/
def ofSecret (label : String) (secret : Secret) : Except Account.Error Credentials := do
  let accessKey ← textEntry label secret "accessKey"
  let secretKey ← textEntry label secret "secretKey"
  let endpoint ← textEntry label secret "endpoint"
  return ⟨accessKey, secretKey, endpoint, (secret.get? "rootCA").filter (!·.isEmpty)⟩

/-- The secret that holds these credentials. -/
def toSecret (c : Credentials) : Secret :=
  let secret := SortedMap.ofList [("accessKey", Utf8.bytes c.accessKey),
    ("secretKey", Utf8.bytes c.secretKey), ("endpoint", Utf8.bytes c.endpoint)]
  match c.bundle with
  | some bundle => secret.insert "rootCA" bundle
  | none => secret

def trust (c : Credentials) : Trust := .ofBundle c.bundle

/-- Credentials in a log: neither the secret key nor the bundle is shown. -/
def shown (c : Credentials) : String :=
  "BackendCredentials \x7b access_key: " ++ Text.quoted c.accessKey ++
    ", secret_key: \"<redacted>\", endpoint: " ++ Text.quoted c.endpoint ++
    ", root_ca: " ++ (if c.bundle.isSome then "Some(\"<pem>\")" else "None") ++ " \x7d"

end Credentials

/-! ## Secrets by name -/

/-- Each pair of namespace and name has one secret. -/
structure SecretStore where
  secrets : List ((String × String) × Secret)

namespace SecretStore

def empty : SecretStore := ⟨[]⟩

def insert (s : SecretStore) (scope name : String) (secret : Secret) : SecretStore :=
  ⟨((scope, name), secret) :: s.secrets.filter (·.1 ≠ (scope, name))⟩

def size (s : SecretStore) : Nat := s.secrets.length

def get (s : SecretStore) (scope name : String) : Except Account.Error Secret :=
  match s.secrets.lookup (scope, name) with
  | some secret => .ok secret
  | none => .error (.unavailable (scope ++ "/" ++ name) "not found")

def credentials (s : SecretStore) (scope name : String) : Except Account.Error Credentials := do
  Credentials.ofSecret (scope ++ "/" ++ name) (← s.get scope name)

end SecretStore

end BucketAccess
