import BucketAccess.Settings.Basic
import BucketAccess.Signing.Header
import BucketAccess.Storage.Call
import BucketAccess.Storage.Document
import BucketAccess.Time.Duration

/-!
# The client of object storage

Calls as signed requests. A bucket is addressed by a segment of the path. An answer with a status
outside 200 to 299 is a failure, whose code is that of its document, or else goes by the status.
-/

namespace BucketAccess.Storage

structure Config where
  endpoint : String
  accessKey : String
  secretKey : String
  trust : Trust
  region : String
  timeout : Duration

def Config.ofCredentials (c : Credentials) (s : Settings) : Config :=
  ⟨c.endpoint, c.accessKey, c.secretKey, c.trust, s.region, .ofSecs s.storageTimeout.toNat⟩

/-- A configuration in a log: its secret stays out. -/
def Config.shown (c : Config) : String :=
  "S3ClientConfig \x7b endpoint: " ++ Text.quoted c.endpoint ++
    ", access_key: " ++ Text.quoted c.accessKey ++
    ", secret_key: \"<redacted>\", tls: " ++ (if c.trust = .anyone then "false" else "true") ++
    ", region: " ++ Text.quoted c.region ++ ", timeout: " ++ c.timeout.text ++ " \x7d"

structure Client where
  scheme : String
  host : String
  basePath : List Char
  signer : Signing.HeaderSigner

def dropSlashes (path : List Char) : List Char := (path.reverse.dropWhile (· = '/')).reverse

/-- The client of a connection: its host carries the port if that is not the scheme's own. -/
def Client.ofConnection (c : Account.Connection) (region : String) : Client where
  scheme := c.scheme
  host :=
    match c.port with
    | some port => c.host ++ ":" ++ String.ofList (Numeral.decimal port)
    | none => c.host
  basePath := dropSlashes c.path.toList
  signer := ⟨c.accessKey, c.secretKey, region, "s3"⟩

def connect {σ : Signature} (c : Config) : Attempt σ Error Client := do
  let connection ←
    (Account.connect c.endpoint c.accessKey c.secretKey c.trust).mapError Error.connect
  return .ofConnection connection c.region

namespace Client

/-! ## Requests -/

/-- The path at which a bucket is addressed. -/
def path (k : Client) (bucket : String) : List Char :=
  Signing.canonicalPath (k.basePath ++ '/' :: bucket.toList)

def url (k : Client) (bucket query : String) : String :=
  k.scheme ++ "://" ++ k.host ++ String.ofList (k.path bucket) ++
    (if query.isEmpty then "" else "?" ++ query)

def request (k : Client) (method bucket query : String) (headers : List (String × String))
    (body : Bytes) (time : Instant) : Web.Request :=
  let signed := k.signer.sign method k.host (String.ofList (k.path bucket)) query headers body time
  { method := method
    url := k.url bucket query
    headers := [("x-amz-date", signed.date), ("x-amz-content-sha256", signed.contentHash),
      ("authorization", signed.authorization)] ++ headers
    body := body }

/-! ## Answers -/

def requestId (r : Web.Response) : String := (r.header? "x-amz-request-id").getD ""

def codeOfStatus (status : Nat) : String :=
  if status = 404 then "NoSuchBucket"
  else if status = 403 then "AccessDenied"
  else if status = 301 then "PermanentRedirect"
  else (Web.reason? status).getD "UnknownError"

/-- What an answer reports that is no success, given its body. -/
def failureOf (operation bucket : String) (r : Web.Response) (body : Bytes) : BackendFailure :=
  match readFailure body with
  | .ok f =>
    { operation := operation
      bucket := bucket
      status := r.status
      code := f.code
      message := f.message
      requestId := if f.requestId.isEmpty then requestId r else f.requestId }
  | .error _ =>
    { operation := operation
      bucket := bucket
      status := r.status
      code := codeOfStatus r.status
      message := Utf8.lossy body
      requestId := requestId r }

/-- Sends a signed request; the answer is a success. -/
def send (k : Client) (operation method bucket query : String) (headers : List (String × String))
    (body : Bytes) : Attempt Web.http Error Web.Response := do
  let time ← Attempt.ask (σ := Web.http) .now
  Attempt.log .debug "sending object-storage request" (Log.texts [("operation", operation),
    ("bucket", bucket), ("method", method), ("url", k.url bucket query)])
  match ← Attempt.ask (σ := Web.http) (.send (k.request method bucket query headers body time)) with
  | .error cause => throw (.transport operation bucket cause)
  | .ok response =>
    if response.isSuccess then return response
    match response.body with
    | .error cause => throw (.transport operation bucket cause)
    | .ok body => throw (.backend (failureOf operation bucket response body))

/-- The result, or nothing if it is an absence that is tolerated. -/
def tolerate {α : Type} (t : Tolerance) (bucket : String) (p : Attempt Web.http Error α) :
    Attempt Web.http Error (Option α) :=
  tryCatch (some <$> p) fun e =>
    match e.tolerated? t with
    | some missing => do
      Attempt.log .info "tolerated missing resource"
        (Log.texts [("bucket", bucket), ("code", missing.code), ("error", e.text)])
      return none
    | none => throw e

/-! ## Calls -/

def start (bucket message : String) : Attempt Web.http Error Unit :=
  Attempt.log .info message (Log.texts [("bucket", bucket)])

def finish (bucket message : String) (r : Web.Response) : Attempt Web.http Error Unit :=
  Attempt.log .info message (Log.texts [("bucket", bucket), ("request_id", requestId r)])

def creationHeaders (acl : Option String) : List (String × String) :=
  ((acl.filter (!·.isEmpty)).map fun a => ("x-amz-acl", a)).toList

def creationBody (location : Option String) : Bytes :=
  match location.filter (!·.isEmpty) with
  | some place => Utf8.encode (bucketConfiguration "CreateBucketConfiguration" (some place))
  | none => []

def createBucket (k : Client) (bucket : String) (acl location : Option String) :
    Attempt Web.http Error Unit := do
  Attempt.log .info "start to create bucket" (Log.texts [("bucket", bucket),
    ("acl", Text.quotedOption acl), ("location", Text.quotedOption location)])
  finish bucket "create bucket successfully" (← k.send "CreateBucket" "PUT" bucket ""
    (creationHeaders acl) (creationBody location))

def deleteBucket (k : Client) (bucket : String) : Attempt Web.http Error Unit := do
  start bucket "start to delete bucket"
  let response? ← tolerate .missingBucket bucket (k.send "DeleteBucket" "DELETE" bucket "" [] [])
  if let some response := response? then
    finish bucket "delete bucket successfully" response

def headBucket (k : Client) (bucket : String) : Attempt Web.http Error Unit := do
  start bucket "start to check bucket existence"
  finish bucket "check bucket existence successfully"
    (← k.send "HeadBucket" "HEAD" bucket "" [] [])

/-- A body as text in UTF-8: one byte order mark at its beginning does not count. The charset that a
content type may name, and byte order marks of UTF-16, are left out. -/
def bodyText : Bytes → String
  | 0xEF :: 0xBB :: 0xBF :: r => Utf8.lossy r
  | body => Utf8.lossy body

def getPolicy (k : Client) (bucket : String) (t : Tolerance) :
    Attempt Web.http Error (Option Policy.Document) := do
  start bucket "start to get bucket policy"
  match ← tolerate t bucket (k.send "GetBucketPolicy" "GET" bucket "policy" [] []) with
  | none => return none
  | some response =>
    match response.body with
    | .error cause => throw (.transport "GetBucketPolicy" bucket cause)
    | .ok body =>
      match Policy.Document.ofText (bodyText body) with
      | .error fault => throw (.policy bucket fault)
      | .ok policy =>
        Attempt.log .info "get bucket policy successfully" (
          Log.texts [("bucket", bucket), ("request_id", requestId response)] ++
          [("statements", .count policy.statements.length)])
        return some policy

def putPolicy (k : Client) (bucket : String) (policy : Policy.Document) (t : Tolerance) :
    Attempt Web.http Error Unit := do
  Attempt.log .info "start to put bucket policy"
    (Log.texts [("bucket", bucket), ("policy", policy.toText)])
  let response? ← tolerate t bucket (k.send "PutBucketPolicy" "PUT" bucket "policy"
    [("content-type", "application/json")] (Utf8.bytes policy.toText))
  if let some response := response? then
    finish bucket "put bucket policy successfully" response

def deletePolicy (k : Client) (bucket : String) (t : Tolerance) :
    Attempt Web.http Error Unit := do
  start bucket "start to delete bucket policy"
  let response? ← tolerate t bucket
    (k.send "DeleteBucketPolicy" "DELETE" bucket "policy" [] [])
  if let some response := response? then
    finish bucket "delete bucket policy successfully" response

def perform (k : Client) : (c : Call) → Program Web.http c.Reply
  | .createBucket bucket acl location => (k.createBucket bucket acl location).run
  | .deleteBucket bucket => (k.deleteBucket bucket).run
  | .headBucket bucket => (k.headBucket bucket).run
  | .getPolicy bucket t => (k.getPolicy bucket t).run
  | .putPolicy bucket policy t => (k.putPolicy bucket policy t).run
  | .deletePolicy bucket t => (k.deletePolicy bucket t).run

end Client

end BucketAccess.Storage
