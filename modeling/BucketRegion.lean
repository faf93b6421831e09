import BucketRegion.Batch
import BucketRegion.Bytes.Base64
import BucketRegion.Bytes.Utf8
import BucketRegion.Calendar.Clock
import BucketRegion.Calendar.Date
import BucketRegion.Client.Basic
import BucketRegion.Client.Journal
import BucketRegion.Client.Lookup
import BucketRegion.CommandLine.Arguments
import BucketRegion.CommandLine.Grammar
import BucketRegion.CommandLine.Run
import BucketRegion.Compression.Checksum
import BucketRegion.Compression.Container
import BucketRegion.Compression.Huffman
import BucketRegion.Compression.Inflate
import BucketRegion.Counters
import BucketRegion.Decimal.Binary64
import BucketRegion.Decimal.Natural
import BucketRegion.Decimal.Numeral
import BucketRegion.Decimal.Power
import BucketRegion.Decimal.Shortest
import BucketRegion.Digest.Block
import BucketRegion.Digest.Hmac
import BucketRegion.Digest.Sha1
import BucketRegion.Digest.Sha256
import BucketRegion.Endpoint
import BucketRegion.Event
import BucketRegion.Export
import BucketRegion.Http.Content
import BucketRegion.Http.Cookie
import BucketRegion.Http.CookieJar
import BucketRegion.Http.ExpiryDate
import BucketRegion.Http.HeaderWords
import BucketRegion.Http.Headers
import BucketRegion.Http.Redirect
import BucketRegion.Http.Request
import BucketRegion.Http.Response
import BucketRegion.Http.Session
import BucketRegion.Http.Status
import BucketRegion.Idna.Direction
import BucketRegion.Idna.Joining
import BucketRegion.Idna.Label
import BucketRegion.Idna.Permitted
import BucketRegion.Idna.Punycode
import BucketRegion.Json.Reader
import BucketRegion.Json.Writer
import BucketRegion.Location
import BucketRegion.LocationCache
import BucketRegion.Main
import BucketRegion.ReadWriteLock
import BucketRegion.Region
import BucketRegion.ServiceError
import BucketRegion.Settings
import BucketRegion.SharedCache
import BucketRegion.SharedCounters
import BucketRegion.Signing.Basic
import BucketRegion.Signing.Signer
import BucketRegion.Signing.V2
import BucketRegion.Signing.V4
import BucketRegion.Signing.Version
import BucketRegion.Text.Ascii
import BucketRegion.Text.Blank
import BucketRegion.Text.Case
import BucketRegion.Text.Composed
import BucketRegion.Text.Digit
import BucketRegion.Text.Hex
import BucketRegion.Text.Loose
import BucketRegion.Text.Printable
import BucketRegion.Text.Quoted
import BucketRegion.Text.Ranges
import BucketRegion.Text.Split
import BucketRegion.Toml.Fault
import BucketRegion.Toml.Names
import BucketRegion.Toml.Reader
import BucketRegion.Toml.Scalar
import BucketRegion.Trace
import BucketRegion.Url.Address
import BucketRegion.Url.Basic
import BucketRegion.Url.Join
import BucketRegion.Url.Percent
import BucketRegion.Url.Reference
import BucketRegion.Value.Basic
import BucketRegion.Value.Display
import BucketRegion.Value.Number
import BucketRegion.Xml.CodePage
import BucketRegion.Xml.Content
import BucketRegion.Xml.Declaration
import BucketRegion.Xml.Doctype
import BucketRegion.Xml.Document
import BucketRegion.Xml.Encoding
import BucketRegion.Xml.Entity
import BucketRegion.Xml.Fault
import BucketRegion.Xml.Markup
import BucketRegion.Xml.NameChar
import BucketRegion.Xml.Namespace
import BucketRegion.Xml.Scan
import BucketRegion.Xml.Symbol
import BucketRegion.Proofs.Batch.Accounts
import BucketRegion.Proofs.Batch.Completion
import BucketRegion.Proofs.Batch.Pool
import BucketRegion.Proofs.Batch.Report
import BucketRegion.Proofs.Bytes.Utf8
import BucketRegion.Proofs.Calendar.Clock
import BucketRegion.Proofs.Calendar.Date
import BucketRegion.Proofs.Client.Accounts
import BucketRegion.Proofs.Client.Atlas
import BucketRegion.Proofs.Client.Cookies
import BucketRegion.Proofs.Client.Course
import BucketRegion.Proofs.Client.Events
import BucketRegion.Proofs.Client.Exits
import BucketRegion.Proofs.Client.Failure
import BucketRegion.Proofs.Client.Fate
import BucketRegion.Proofs.Client.Forgetting
import BucketRegion.Proofs.Client.Interleaving
import BucketRegion.Proofs.Client.Log
import BucketRegion.Proofs.Client.Run
import BucketRegion.Proofs.Client.Secrecy
import BucketRegion.Proofs.Client.Sending
import BucketRegion.Proofs.Client.Soundness
import BucketRegion.Proofs.Client.Steps
import BucketRegion.Proofs.Counters
import BucketRegion.Proofs.Decimal
import BucketRegion.Proofs.Endpoint
import BucketRegion.Proofs.Except
import BucketRegion.Proofs.Export
import BucketRegion.Proofs.Http.Merging
import BucketRegion.Proofs.Idna.Names
import BucketRegion.Proofs.Json.Grammar
import BucketRegion.Proofs.Json.Written
import BucketRegion.Proofs.LocationCache
import BucketRegion.Proofs.LocationDocument
import BucketRegion.Proofs.LocationQuery
import BucketRegion.Proofs.Places
import BucketRegion.Proofs.ReadWriteLock.Holding
import BucketRegion.Proofs.ReadWriteLock.Moves
import BucketRegion.Proofs.ReadWriteLock.Preference
import BucketRegion.Proofs.ReadWriteLock.WakeOrder
import BucketRegion.Proofs.ReadWriteLock.Waking
import BucketRegion.Proofs.Region
import BucketRegion.Proofs.ServiceError
import BucketRegion.Proofs.SharedCache.Linear
import BucketRegion.Proofs.SharedCache.Order
import BucketRegion.Proofs.SharedCache.Sections
import BucketRegion.Proofs.SharedCounters
import BucketRegion.Proofs.Signing
import BucketRegion.Proofs.Signing.Authorization
import BucketRegion.Proofs.Signing.Dates
import BucketRegion.Proofs.Signing.Dependence
import BucketRegion.Proofs.Signing.Draft
import BucketRegion.Proofs.Signing.Headers
import BucketRegion.Proofs.Signing.Path
import BucketRegion.Proofs.Signing.Repeated
import BucketRegion.Proofs.Signing.Resigning
import BucketRegion.Proofs.Signing.Secrecy
import BucketRegion.Proofs.Signing.Subresources
import BucketRegion.Proofs.Signing.Verifier
import BucketRegion.Proofs.Text.Blank
import BucketRegion.Proofs.Text.Case
import BucketRegion.Proofs.Text.Split
import BucketRegion.Proofs.Url.Authority
import BucketRegion.Proofs.Url.Canonical
import BucketRegion.Proofs.Url.Hosts
import BucketRegion.Proofs.Url.Paths
import BucketRegion.Proofs.Url.Percent
import BucketRegion.Proofs.Url.Written
import BucketRegion.Proofs.Xml.Document
import BucketRegion.Proofs.Xml.Encoding
import BucketRegion.Proofs.Xml.Outline
import BucketRegion.Proofs.Xml.Spelling
import BucketRegion.Proofs.Xml.Tags
import BucketRegion.Proofs.Xml.Written
