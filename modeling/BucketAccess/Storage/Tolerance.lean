/-!
# Tolerated absences

The backend reports a missing bucket and a missing policy by their own error codes. A call names
those that it takes for success.
-/

namespace BucketAccess.Storage

inductive Missing where
  | bucket
  | policy
  deriving DecidableEq, Repr

namespace Missing

def code : Missing → String
  | .bucket => "NoSuchBucket"
  | .policy => "NoSuchBucketPolicy"

def ofCode? : String → Option Missing
  | "NoSuchBucket" => some .bucket
  | "NoSuchBucketPolicy" => some .policy
  | _ => none

end Missing

structure Tolerance where
  bucket : Bool
  policy : Bool
  deriving DecidableEq, Repr

namespace Tolerance

def nothing : Tolerance := ⟨false, false⟩

def missingPolicy : Tolerance := ⟨false, true⟩

def missingBucket : Tolerance := ⟨true, false⟩

def missingBucketOrPolicy : Tolerance := ⟨true, true⟩

def allows (t : Tolerance) : Missing → Bool
  | .bucket => t.bucket
  | .policy => t.policy

/-- The absence that the code reports, if it is tolerated. -/
def allowed? (t : Tolerance) (code : String) : Option Missing :=
  (Missing.ofCode? code).filter t.allows

end Tolerance

end BucketAccess.Storage
