import BucketAccess.Signing.Canonical
import BucketAccess.Text.Quoted
import BucketAccess.Time.Instant

/-!
# Signed headers

Requests to object storage carry their signature in a header. It covers the canonical request, by
its digest, and is made with a key derived from the secret, the date, the region and the service.
-/

namespace BucketAccess.Signing

def algorithm : List Char := "AWS4-HMAC-SHA256".toList

def hashText (bytes : Bytes) : List Char := Hex.encode (Sha256.hash bytes)

def textToSign (time scope requestHash : List Char) : List Char :=
  algorithm ++ '\n' :: time ++ '\n' :: scope ++ '\n' :: requestHash

def signingKey (secretKey date region service : List Char) : Bytes :=
  let dateKey := Hmac.sha256 (Utf8.encode ("AWS4".toList ++ secretKey)) (Utf8.encode date)
  let regionKey := Hmac.sha256 dateKey (Utf8.encode region)
  let serviceKey := Hmac.sha256 regionKey (Utf8.encode service)
  Hmac.sha256 serviceKey (Utf8.encode "aws4_request".toList)

def headerSignature (key : Bytes) (text : List Char) : List Char :=
  Hex.encode (Hmac.sha256 key (Utf8.encode text))

structure HeaderSigner where
  accessKey : String
  secretKey : String
  region : String
  service : String

/-- What a signed request carries. -/
structure SignedHeaders where
  date : String
  contentHash : String
  authorization : String
  deriving DecidableEq, Repr

namespace HeaderSigner

def shown (s : HeaderSigner) : String :=
  "SigV4Signer \x7b access_key: " ++ Text.quoted s.accessKey ++
    ", secret_key: \"<redacted>\", region: " ++ Text.quoted s.region ++
    ", service: " ++ Text.quoted s.service ++ " \x7d"

/-- The headers that every signature covers, and those of the caller. -/
def allHeaders (host : String) (contentHash time : List Char) (extra : List (String × String)) :
    List Header :=
  [("host".toList, host.toList), ("x-amz-content-sha256".toList, contentHash),
    ("x-amz-date".toList, time)] ++
    extra.map fun h => (Text.lowerCase h.1.toList, h.2.toList)

/-- Every name once, in ascending order. -/
def signedNames (headers : List Header) : List (List Char) :=
  (sortedNames (headers.map (·.1))).eraseReps

def sign (s : HeaderSigner) (method host path query : String) (extra : List (String × String))
    (payload : Bytes) (time : Instant) : SignedHeaders :=
  let contentHash := hashText payload
  let headers := allHeaders host contentHash time.basicTime extra
  let names := signedNames headers
  let request :=
    canonicalRequest method.toList path.toList query.toList headers names contentHash
  let scope := time.basicDate ++ '/' :: s.region.toList ++ '/' :: s.service.toList ++
    "/aws4_request".toList
  let text := textToSign time.basicTime scope (hashText (Utf8.encode request))
  let key := signingKey s.secretKey.toList time.basicDate s.region.toList s.service.toList
  { date := String.ofList time.basicTime
    contentHash := String.ofList contentHash
    authorization := String.ofList (algorithm ++ " Credential=".toList ++ s.accessKey.toList ++
      '/' :: scope ++ ", SignedHeaders=".toList ++ nameList names ++
      ", Signature=".toList ++ headerSignature key text) }

end HeaderSigner

end BucketAccess.Signing
