import BucketRegion.Toml.Reader
import BucketRegion.Value.Number

/-!
# Settings

What a client needs to know: the table `client` of a settings document, and the keys of the
account, which come from the environment only. A secret key is read loosely: octets that are no
character come as surrogates, with which nothing can be signed. All other text has none, the values
of the environment that settings are read from included.
-/

set_option autoImplicit false

namespace BucketRegion

/-- The settings of a client. Only the timeout is checked here. -/
structure Settings where
  endpoint : Value
  accessKey : String
  secretKey : Text.Loose
  signatureVersion : Value
  userAgent : Value
  timeoutSeconds : Float

namespace Settings

def defaultEndpoint : String := "https://s3.amazonaws.com"

def defaultUserAgent : String := "bucketloc/0.1.0"

def accessKeyVariable : String := "BUCKETLOC_ACCESS_KEY"

def secretKeyVariable : String := "BUCKETLOC_SECRET_KEY"

/-- Without both keys a client is anonymous. -/
def anonymous (s : Settings) : Bool := s.accessKey == "" || s.secretKey.isEmpty

/-- Why values are no settings. -/
inductive Problem where
  | notTable (value : Value)
  | number (error : NumberError)

def Problem.message : Problem → String
  | .notTable value => "'" ++ value.kind ++ "' object has no attribute 'get'"
  | .number error => error.message

/-- The field of a table; a value that is no table has none, and cannot be asked. -/
def field? (name : String) : Value → Except Problem (Option Value)
  | .table fields => .ok (Fields.get? name fields)
  | value => .error (.notTable value)

/-- The settings of a document, with the keys from the environment. -/
def ofValue (document : Value) (environment : List (String × String)) :
    Except Problem Settings := do
  let client := (← field? "client" document).getD (.table [])
  let endpoint := (← field? "endpoint" client).getD (.text defaultEndpoint)
  let version := (← field? "signature_version" client).getD (.text "v4")
  let userAgent := (← field? "user_agent" client).getD (.text defaultUserAgent)
  let timeout := (← field? "timeout_seconds" client).getD (.float 30)
  match timeout.toFloat with
  | .error error => throw (.number error)
  | .ok seconds =>
      return {
        endpoint := endpoint
        accessKey := (environment.lookup accessKeyVariable).getD ""
        secretKey := (environment.lookup secretKeyVariable).getD ""
        signatureVersion := version
        userAgent := userAgent
        timeoutSeconds := seconds }

end Settings

end BucketRegion
