import BucketAccess.Account.Connection
import BucketAccess.Markup.Record
import BucketAccess.Policy.Text
import BucketAccess.Storage.Tolerance
import BucketAccess.Web.Exchange

/-!
# Calls on object storage

What can be asked of object storage, and how it can fail. An absence that a call tolerates is no
failure.
-/

namespace BucketAccess.Storage

structure BackendFailure where
  operation : String
  bucket : String
  status : Nat
  code : String
  message : String
  requestId : String
  deriving DecidableEq, Repr

inductive Error where
  | connect (e : Account.ConnectError)
  | transport (operation bucket : String) (cause : Web.TransportError)
  | backend (f : BackendFailure)
  | policy (bucket : String) (fault : Json.Fault)
  | markup (e : Markup.Error)
  deriving DecidableEq, Repr

namespace Error

/-- The fault of a policy text, in a word. -/
def faultText : Json.Fault → String
  | .ended => "text ends too early"
  | .syntactic => "text is no JSON"
  | .shape => "value is no policy"

def text : Error → String
  | .connect e => e.text
  | .transport operation bucket cause => s!"{operation} on bucket [{bucket}] failed: {cause.text}"
  | .backend f => s!"{f.operation} on bucket [{f.bucket}] failed: code is [{f.code}], " ++
      s!"msg is [{f.message}], requestId is [{f.requestId}]"
  | .policy bucket fault => s!"bucket [{bucket}] policy json error: {faultText fault}"
  | .markup e => s!"xml error: {e.message}"

/-- Whether the text is this program's alone. -/
def isOwn : Error → Bool
  | .connect e => e.isOwn
  | .transport .. | .policy .. => false
  | .backend _ | .markup _ => true

def code? : Error → Option String
  | .backend f => some f.code
  | _ => none

/-- What the error says is missing. -/
def missing? (e : Error) : Option Missing := e.code?.bind Missing.ofCode?

/-- The absence that the error reports, if it is tolerated. -/
def tolerated? (e : Error) (t : Tolerance) : Option Missing := e.missing?.filter t.allows

end Error

inductive Call where
  | createBucket (bucket : String) (acl location : Option String)
  | deleteBucket (bucket : String)
  | headBucket (bucket : String)
  | getPolicy (bucket : String) (t : Tolerance)
  | putPolicy (bucket : String) (policy : Policy.Document) (t : Tolerance)
  | deletePolicy (bucket : String) (t : Tolerance)

def Call.Reply : Call → Type
  | .getPolicy _ _ => Except Error (Option Policy.Document)
  | _ => Except Error Unit

abbrev api : Signature := ⟨Call, Call.Reply⟩

/-! ## Single calls -/

def createBucket (bucket : String) (acl location : Option String) : Attempt api Error Unit :=
  .ofProgram (.call (Call.createBucket bucket acl location) .done)

def deleteBucket (bucket : String) : Attempt api Error Unit :=
  .ofProgram (.call (Call.deleteBucket bucket) .done)

def headBucket (bucket : String) : Attempt api Error Unit :=
  .ofProgram (.call (Call.headBucket bucket) .done)

def getPolicy (bucket : String) (t : Tolerance) : Attempt api Error (Option Policy.Document) :=
  .ofProgram (.call (Call.getPolicy bucket t) .done)

def putPolicy (bucket : String) (policy : Policy.Document) (t : Tolerance) :
    Attempt api Error Unit :=
  .ofProgram (.call (Call.putPolicy bucket policy t) .done)

def deletePolicy (bucket : String) (t : Tolerance) : Attempt api Error Unit :=
  .ofProgram (.call (Call.deletePolicy bucket t) .done)

end BucketAccess.Storage
