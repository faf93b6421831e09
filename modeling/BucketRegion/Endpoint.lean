import BucketRegion.Url.Basic
import BucketRegion.Value.Display

/-!
# Endpoints

The URL of a storage service, and the URL that asks it for the location of a bucket. Location
queries name the bucket in the path, because a host name for the bucket would need its region.
-/

set_option autoImplicit false

namespace BucketRegion.Endpoint

/-- Why a value is no endpoint. -/
inductive Problem where
  | notText (value : Value)
  | url (error : UrlError)
  | scheme (endpoint : String)
  | host (fault : Idna.Fault)
  | noHost (endpoint : String)

def Problem.message : Problem → String
  | .notText value =>
      "Invalid type for url.  Expected str or httpx.URL, got <class '" ++ value.kind ++ "'>: " ++
        value.display
  | .url error => error.message
  | .scheme endpoint => "Endpoint must use http or https: " ++ Text.quoted endpoint
  | .host fault => fault.message
  | .noHost endpoint => "Endpoint is missing a host: " ++ Text.quoted endpoint

/-- Reads an endpoint: a URL with a host, of one of the two schemes of the web. -/
def parse : Value → Except Problem Url
  | .text endpoint =>
      match Url.parse endpoint with
      | .error error => .error (.url error)
      | .ok url =>
          if url.scheme != "http" && url.scheme != "https" then .error (.scheme endpoint)
          else
            match url.hostName with
            | .error fault => .error (.host fault)
            | .ok "" => .error (.noHost endpoint)
            | .ok _ => .ok url
  | value => .error (.notText value)

/-- The path of a bucket: one segment with the bucket's name. -/
def bucketPath (bucket : String) : String := "/" ++ Url.encodeSegment bucket

/-- The URL of a location query. The path and query of the endpoint are replaced. -/
def locationUrl (endpoint : Url) (bucket : String) : Except UrlError Url :=
  endpoint.change { path := some (bucketPath bucket), query := some "location=" }

end BucketRegion.Endpoint
