/-!
# Access models

What a grant lets its principal do with a bucket and the objects in it, and the locators by which
policies name the two.
-/

namespace BucketAccess.Policy

inductive AccessModel where
  | readWrite
  | readOnly
  deriving DecidableEq, Repr

namespace AccessModel

def name : AccessModel → String
  | .readWrite => "rw"
  | .readOnly => "ro"

/-- The model of a grant that names none. -/
def standard : AccessModel := .readWrite

def ofName? : String → Option AccessModel
  | "rw" => some .readWrite
  | "ro" => some .readOnly
  | _ => none

/-- The complaint about a text that names no model. -/
def invalidMessage (text : String) : String :=
  s!"invalid bucket policy model [{text}], must be one of [rw, ro]"

def readActions : List String :=
  ["s3:GetObject", "s3:GetObjectVersion", "s3:ListMultipartUploadParts", "s3:GetObjectAcl",
    "s3:GetObjectVersionAcl", "s3:ListBucketVersions", "s3:ListBucket",
    "s3:ListBucketMultiPartUploads"]

def writeActions : List String :=
  ["s3:AbortMultipartUpload", "s3:PutObjectAcl", "s3:DeleteObjectVersion", "s3:PutObjectVersionAcl",
    "s3:PutObject", "s3:DeleteObject"]

def actions : AccessModel → List String
  | .readWrite => readActions ++ writeActions
  | .readOnly => readActions

end AccessModel

def bucketLocator (bucket : String) : String := "arn:aws:s3:::" ++ bucket

def objectsLocator (bucket : String) : String := "arn:aws:s3:::" ++ bucket ++ "/*"

end BucketAccess.Policy
