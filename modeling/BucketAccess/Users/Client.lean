import BucketAccess.Settings.Basic
import BucketAccess.Signing.Query
import BucketAccess.Time.Duration
import BucketAccess.Users.Call

/-!
# The client of user management

Calls as signed queries to one path on the administrative port, whatever port the endpoint has. Only
an answer with status 200 is a success; any other is a failure that the document in it explains.
-/

namespace BucketAccess.Users

structure Config where
  endpoint : String
  accessKey : String
  secretKey : String
  trust : Trust
  adminPort : UInt16
  timeout : Duration

def Config.ofCredentials (c : Credentials) (s : Settings) : Config :=
  ⟨c.endpoint, c.accessKey, c.secretKey, c.trust, s.adminPort, .ofSecs s.usersTimeout.toNat⟩

/-- A configuration in a log: its secret stays out. -/
def Config.shown (c : Config) : String :=
  "SignedClientConfig \x7b endpoint: " ++ Text.quoted c.endpoint ++
    ", access_key: " ++ Text.quoted c.accessKey ++
    ", secret_key: \"<redacted>\", tls: " ++ (if c.trust = .anyone then "false" else "true") ++
    s!", admin_port: {c.adminPort}, timeout: " ++ c.timeout.text ++ " \x7d"

structure Client where
  scheme : String
  /-- With the administrative port, also if that is the scheme's own. -/
  host : String
  signer : Signing.QuerySigner

def Client.ofConnection (c : Account.Connection) (adminPort : UInt16) : Client where
  scheme := c.scheme
  host := c.host ++ ":" ++ String.ofList (Numeral.decimal adminPort.toNat)
  signer := ⟨c.accessKey, c.secretKey⟩

def connect {σ : Signature} (c : Config) : Attempt σ Error Client := do
  let connection ←
    (Account.connect c.endpoint c.accessKey c.secretKey c.trust).mapError Error.connect
  return .ofConnection connection c.adminPort

namespace Client

/-! ## Requests -/

def path : String := "/poe/rest"

def endpoint (k : Client) : String := k.scheme ++ "://" ++ k.host

def url (k : Client) (params : SortedMap String) (time : Instant) : String :=
  k.endpoint ++ path ++ "?" ++
    String.ofList (Signing.sortedQuery (k.signer.sign "GET" k.host path params time))

def request (k : Client) (params : SortedMap String) (time : Instant) : Web.Request :=
  ⟨"GET", k.url params time, [], []⟩

/-! ## Answers -/

/-- What an answer reports that is no success, given its body. -/
def failureOf (action : String) (status : Nat) (body : Bytes) : Error :=
  match readFailure body with
  | .ok f => .backend action status f
  | .error e => .undecodable action status (Utf8.lossy body) e

/-- The body of the answer to a call with these parameters, which name the action. -/
def call (k : Client) (params : SortedMap String) : Attempt Web.http Error Bytes := do
  if params.isEmpty then throw .noParams
  let action := (params.get? "Action").getD ""
  let time ← Attempt.ask (σ := Web.http) .now
  Attempt.log .debug "sending user-management request"
    (Log.texts [("action", action), ("endpoint", k.endpoint)])
  match ← Attempt.ask (σ := Web.http) (.send (k.request params time)) with
  | .error cause => throw (.transport action cause)
  | .ok response =>
    match response.body with
    | .error cause => throw (.transport action cause)
    | .ok body =>
      if response.status = 200 then return body
      Attempt.log .error "user-management call not success"
        (Log.texts [("action", action)] ++ [("status", .count response.status)])
      throw (failureOf action response.status body)

/-- What `read` finds in the answer to an action. -/
def invoke {α : Type} (k : Client) (action : String) (params : List (String × String))
    (read : Bytes → Except Markup.Error α) : Attempt Web.http Error α := do
  let body ← k.call (.ofList (("Action", action) :: params))
  Attempt.ofExcept ((read body).mapError (.markup action))

/-- The result, or nothing if the backend reports an absence. -/
def unlessAbsent {α : Type} (p : Attempt Web.http Error α) : Attempt Web.http Error (Option α) :=
  tryCatch (some <$> p) fun e => if e.isAbsence then return none else throw e

/-! ## Calls -/

def info (message : String) (fields : List (String × String)) : Attempt Web.http Error Unit :=
  Attempt.log .info message (Log.texts fields)

def createUser (k : Client) (user : String) : Attempt Web.http Error User := do
  info "start to create user" [("user", user)]
  let answer ← k.invoke "CreateUser" [("UserName", user)] readCreateUser
  info "create user success" [("user", user), ("request_id", answer.requestId)]
  return answer.value

def getUser (k : Client) (user : String) : Attempt Web.http Error (Option User) := do
  info "start to get user" [("user", user)]
  match ← unlessAbsent (k.invoke "GetUser" [("UserName", user)] readGetUser) with
  | some answer =>
    info "get user success" [("user", user), ("request_id", answer.requestId)]
    return some answer.value
  | none =>
    info "user not exist" [("user", user)]
    return none

def deleteUser (k : Client) (user : String) : Attempt Web.http Error Unit := do
  info "start to delete user" [("user", user)]
  match ← unlessAbsent (k.invoke "DeleteUser" [("UserName", user)] readDeleteUser) with
  | some answer => info "delete user success" [("user", user), ("request_id", answer.requestId)]
  | none => info "user is not exist" [("user", user)]

def createKey (k : Client) (user : String) : Attempt Web.http Error AccessKey := do
  info "start to create user access key" [("user", user)]
  let answer ← k.invoke "CreateAccessKey" [("UserName", user)] readCreateAccessKey
  info "create user access key success" [("user", user), ("access_key_id", answer.value.id),
    ("request_id", answer.requestId)]
  return answer.value

def deleteKey (k : Client) (user id : String) : Attempt Web.http Error Unit := do
  let fields := [("user", user), ("access_key_id", id)]
  info "start to delete user access key" fields
  match ← unlessAbsent (k.invoke "DeleteAccessKey" [("UserName", user), ("AccessKeyId", id)]
    readDeleteAccessKey) with
  | some answer =>
    info "delete user access key success" (fields ++ [("request_id", answer.requestId)])
  | none => info "user access key is not exist" fields

def listKeys (k : Client) (user : String) : Attempt Web.http Error (List KeyEntry) := do
  info "start to list user access keys" [("user", user)]
  match ← unlessAbsent (k.invoke "ListAccessKeys" [("UserName", user)] readListAccessKeys) with
  | some answer =>
    Attempt.log .info "list user access keys success" (Log.texts [("user", user)] ++
      [("count", .count answer.value.length)] ++ Log.texts [("request_id", answer.requestId)])
    return answer.value
  | none =>
    info "user is not exist, no access keys" [("user", user)]
    return []

def perform (k : Client) : (c : Call) → Program Web.http c.Reply
  | .createUser user => (k.createUser user).run
  | .getUser user => (k.getUser user).run
  | .deleteUser user => (k.deleteUser user).run
  | .createKey user => (k.createKey user).run
  | .deleteKey user id => (k.deleteKey user id).run
  | .listKeys user => (k.listKeys user).run

end Client

end BucketAccess.Users
