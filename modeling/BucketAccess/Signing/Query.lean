import BucketAccess.Encoding.Base64
import BucketAccess.Signing.Canonical
import BucketAccess.Text.Quoted
import BucketAccess.Time.Instant

/-!
# Signed queries

Calls for user management carry their signature as a parameter. The signer sets the parameters that
name the key, the method and the time, signs the sorted query without a signature, and adds it.
-/

namespace BucketAccess.Signing

structure QuerySigner where
  accessKey : String
  secretKey : String

namespace QuerySigner

/-- The signer in a log: its secret stays out. -/
def shown (s : QuerySigner) : String :=
  "QuerySigner \x7b access_key: " ++ Text.quoted s.accessKey ++
    ", secret_key: \"<redacted>\" \x7d"

end QuerySigner

def querySignature (secretKey : String) (text : List Char) : String :=
  String.ofList (Base64.encode (Hmac.sha256 (Utf8.bytes secretKey) (Utf8.encode text)))

namespace QuerySigner

/-- The parameters that the signature covers. -/
def covered (s : QuerySigner) (params : SortedMap String) (time : Instant) : SortedMap String :=
  ((((params.insert "AWSAccessKeyId" s.accessKey).insert "SignatureMethod" "HmacSHA256").insert
    "SignatureVersion" "4").insert "Timestamp" (String.ofList time.timestamp)).erase "Signature"

/-- The parameters with their signature. -/
def sign (s : QuerySigner) (method host path : String) (params : SortedMap String)
    (time : Instant) : SortedMap String :=
  let params := s.covered params time
  params.insert "Signature" (querySignature s.secretKey
    (queryText method.toList host.toList path.toList (sortedQuery params)))

end QuerySigner

end BucketAccess.Signing
