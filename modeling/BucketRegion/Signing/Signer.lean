import BucketRegion.Signing.V2
import BucketRegion.Signing.V4
import BucketRegion.Signing.Version

/-!
# Signers

A signer of either version: it holds the keys, and is asked to sign a request for a region at a
reading of the clock.
-/

set_option autoImplicit false

namespace BucketRegion.Signing

structure Signer where
  version : SignatureVersion
  credentials : Credentials
  deriving Repr, DecidableEq

/-- Signs a request. Signatures of version 2 are good for every region. -/
def Signer.sign (signer : Signer) (clock : Calendar.Reading) (region : String)
    (request : Http.Request) : Outcome :=
  match signer.version with
  | .v4 => V4.sign signer.credentials clock region request
  | .v2 => V2.sign signer.credentials clock request

end BucketRegion.Signing
