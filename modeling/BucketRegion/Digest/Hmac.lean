import BucketRegion.Digest.Sha1
import BucketRegion.Digest.Sha256

/-!
# Keyed digests

A digest that only the holder of a key can compute.
-/

set_option autoImplicit false

namespace BucketRegion.Digest

/-- A key as one block: a longer one is replaced by its digest, and zeros fill it up. -/
def keyBlock (digest : Bytes → Bytes) (key : Bytes) : Bytes :=
  let short := if 64 < key.length then digest key else key
  short ++ List.replicate (64 - short.length) 0

/-- The keyed digest of a message. -/
def hmac (digest : Bytes → Bytes) (key message : Bytes) : Bytes :=
  let block := keyBlock digest key
  let inner := digest (block.map (· ^^^ 0x36) ++ message)
  digest (block.map (· ^^^ 0x5c) ++ inner)

def hmacSha256 (key message : Bytes) : Bytes := hmac Sha256.digest key message

def hmacSha1 (key message : Bytes) : Bytes := hmac Sha1.digest key message

end BucketRegion.Digest
