import BucketAccess.Markup.Record

/-!
# Documents of object storage

The report of a failure, which the backend answers with, and the body of a request for a new bucket,
which may name the bucket's place.
-/

namespace BucketAccess.Storage

open Markup

structure Failure where
  code : String
  message : String
  resource : Option String
  requestId : String
  deriving DecidableEq, Repr

def readFailure (document : Bytes) : Except Error Failure := do
  let p ← readDocument "Error" (texts ["Code", "Message", "Resource", "RequestId"]) document
  return ⟨lastText "Code" p, lastText "Message" p, lastText? "Resource" p, lastText "RequestId" p⟩

/-- The body of a request for a bucket at this place, as an element of this name. -/
def bucketConfiguration (root : String) (location : Option String) : List Char :=
  let content : List Char :=
    match location with
    | some place => "<LocationConstraint>".toList ++ escape place.toList ++
        "</LocationConstraint>".toList
    | none => []
  "<?xml version=\"1.0\" encoding=\"UTF-8\"?><".toList ++ root.toList ++
    " xmlns=\"http://s3.amazonaws.com/doc/2006-03-01/\">".toList ++ content ++
    "</".toList ++ root.toList ++ ">".toList

end BucketAccess.Storage
