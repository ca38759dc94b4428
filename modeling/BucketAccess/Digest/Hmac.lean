import BucketAccess.Digest.Sha256

/-!
# Keyed digests

HMAC over SHA-256. A key longer than a block is digested first.
-/

namespace BucketAccess.Hmac

def blockKey (key : Bytes) : Bytes :=
  let short := if key.length > 64 then Sha256.hash key else key
  short ++ List.replicate (64 - short.length) 0

def sha256 (key message : Bytes) : Bytes :=
  let k := blockKey key
  Sha256.hash (k.map (· ^^^ 0x5c) ++ Sha256.hash (k.map (· ^^^ 0x36) ++ message))

end BucketAccess.Hmac
