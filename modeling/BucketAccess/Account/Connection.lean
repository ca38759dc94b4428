import BucketAccess.Account.Credentials
import BucketAccess.Program
import BucketAccess.Web.Url

/-!
# Connections

What a client needs before its first call: an endpoint with a host, both keys, and trust in the
server that can be built on. The first that is missing is reported.
-/

namespace BucketAccess.Account

inductive ConnectError where
  | emptyEndpoint
  | invalidEndpoint (endpoint reason : String)
  | emptyAccessKey
  | emptySecretKey
  | account (e : Error)
  deriving DecidableEq, Repr

/-- What is wrong with the certificates of a server's bundle is for the library that reads them to
say. -/
def Error.text (e : Error) : String := (e.message?).getD "build tls config failed"

def ConnectError.text : ConnectError → String
  | .emptyEndpoint => "endpoint is empty"
  | .invalidEndpoint endpoint reason => s!"url parse endpoint [{endpoint}] failed: {reason}"
  | .emptyAccessKey => "access key is empty"
  | .emptySecretKey => "secret key is empty"
  | .account e => e.text

/-- Whether the text is this program's alone. -/
def ConnectError.isOwn : ConnectError → Bool
  | .account e => e.message?.isSome
  | _ => true

structure Connection where
  scheme : String
  host : String
  /-- Absent if it is the scheme's own. -/
  port : Option Nat
  path : String
  accessKey : String
  secretKey : String
  deriving DecidableEq, Repr

/-- The endpoint as a URL, and its host. -/
def readEndpoint (endpoint : String) : Except ConnectError (Web.Url × String) :=
  if endpoint.isEmpty then .error .emptyEndpoint
  else
    match Web.Url.parse endpoint with
    | .error f => .error (.invalidEndpoint endpoint f.message)
    | .ok url =>
      match url.host with
      | none => .error (.invalidEndpoint endpoint "missing host")
      | some host => .ok (url, host)

def connect {σ : Signature} (endpoint accessKey secretKey : String) (trust : Trust) :
    Attempt σ ConnectError Connection := do
  let (url, host) ← Attempt.ofExcept (readEndpoint endpoint)
  if accessKey.isEmpty then throw .emptyAccessKey
  if secretKey.isEmpty then throw .emptySecretKey
  if trust = .anyone then
    Attempt.log .warn
      "no root CA configured, backend server certificates will not be verified" []
  if !trust.isUsable then throw (.account .badCertificate)
  return ⟨url.scheme, host, url.port, url.path, accessKey, secretKey⟩

end BucketAccess.Account
