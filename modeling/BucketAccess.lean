import BucketAccess.Account.Certificate
import BucketAccess.Account.Connection
import BucketAccess.Account.Credentials
import BucketAccess.Account.Trust
import BucketAccess.Digest.Hmac
import BucketAccess.Digest.Sha256
import BucketAccess.Encoding.Base64
import BucketAccess.Encoding.Der
import BucketAccess.Encoding.Hex
import BucketAccess.Encoding.Percent
import BucketAccess.Json.Draft
import BucketAccess.Json.Literal
import BucketAccess.Json.Reader
import BucketAccess.Json.Record
import BucketAccess.Json.Token
import BucketAccess.Json.Value
import BucketAccess.Json.Writer
import BucketAccess.LockPool
import BucketAccess.Log
import BucketAccess.Markup.Event
import BucketAccess.Markup.Fault
import BucketAccess.Markup.Record
import BucketAccess.Markup.Reference
import BucketAccess.Markup.Token
import BucketAccess.Number.Binary64
import BucketAccess.Number.Shortest
import BucketAccess.Policy.AccessModel
import BucketAccess.Policy.Document
import BucketAccess.Policy.Text
import BucketAccess.Program
import BucketAccess.Proofs.Account.Connection
import BucketAccess.Proofs.Json.Grammar
import BucketAccess.Proofs.Json.Lexing
import BucketAccess.Proofs.Json.Numbers
import BucketAccess.Proofs.Json.Records
import BucketAccess.Proofs.Json.Values
import BucketAccess.Proofs.Json.Writing
import BucketAccess.Proofs.LockPool
import BucketAccess.Proofs.Markup.DocumentType
import BucketAccess.Proofs.Markup.Documents
import BucketAccess.Proofs.Markup.Reading
import BucketAccess.Proofs.Markup.Scan
import BucketAccess.Proofs.Markup.Tree
import BucketAccess.Proofs.Markup.Truncation
import BucketAccess.Proofs.Policy.Document
import BucketAccess.Proofs.Policy.Edit
import BucketAccess.Proofs.Policy.Ordered
import BucketAccess.Proofs.Policy.Spelling
import BucketAccess.Proofs.Program.Attempt
import BucketAccess.Proofs.Program.FailFast
import BucketAccess.Proofs.Program.Interruption
import BucketAccess.Proofs.Program.Trace
import BucketAccess.Proofs.Provision.Access
import BucketAccess.Proofs.Provision.Backend
import BucketAccess.Proofs.Provision.CallSequence
import BucketAccess.Proofs.Provision.Effect
import BucketAccess.Proofs.Provision.Failure
import BucketAccess.Proofs.Provision.History
import BucketAccess.Proofs.Provision.Interleaving
import BucketAccess.Proofs.Provision.Locking
import BucketAccess.Proofs.Provision.Realm
import BucketAccess.Proofs.Provision.Retry
import BucketAccess.Proofs.Provision.Undo
import BucketAccess.Proofs.ResourceId
import BucketAccess.Proofs.SortedMap
import BucketAccess.Proofs.Storage.Absence
import BucketAccess.Proofs.Text.Scanner
import BucketAccess.Proofs.Text.Utf8
import BucketAccess.Proofs.Users.Absence
import BucketAccess.Provision.Call
import BucketAccess.Provision.Operations
import BucketAccess.Provision.Provisioner
import BucketAccess.Provision.Request
import BucketAccess.ResourceId
import BucketAccess.Settings.Basic
import BucketAccess.Settings.Text
import BucketAccess.Signing.Canonical
import BucketAccess.Signing.Header
import BucketAccess.Signing.Query
import BucketAccess.SortedMap
import BucketAccess.Storage.Call
import BucketAccess.Storage.Client
import BucketAccess.Storage.Document
import BucketAccess.Storage.Tolerance
import BucketAccess.Text.Blank
import BucketAccess.Text.CaseTable
import BucketAccess.Text.Composed
import BucketAccess.Text.CompositionTable
import BucketAccess.Text.Direction
import BucketAccess.Text.DirectionTable
import BucketAccess.Text.HiddenTable
import BucketAccess.Text.Joining
import BucketAccess.Text.JoiningTable
import BucketAccess.Text.LowerCase
import BucketAccess.Text.MarkTable
import BucketAccess.Text.Numeral
import BucketAccess.Text.Order
import BucketAccess.Text.Quoted
import BucketAccess.Text.Ranges
import BucketAccess.Text.Utf8
import BucketAccess.Time.Calendar
import BucketAccess.Time.Duration
import BucketAccess.Time.Instant
import BucketAccess.Users.Answer
import BucketAccess.Users.Call
import BucketAccess.Users.Client
import BucketAccess.Users.Registration
import BucketAccess.Web.Domain
import BucketAccess.Web.DomainForm
import BucketAccess.Web.DomainFormTable
import BucketAccess.Web.DomainTable
import BucketAccess.Web.Exchange
import BucketAccess.Web.Host
import BucketAccess.Web.Punycode
import BucketAccess.Web.Url
import BucketAccess.Proofs.Encoding.Percent
import BucketAccess.Proofs.Signing.Query
import BucketAccess.Proofs.Signing.Parameters
import BucketAccess.Proofs.Signing.Path
import BucketAccess.Proofs.Signing.CanonicalQuery
import BucketAccess.Proofs.Storage.Address
import BucketAccess.Proofs.Provision.Ids
import BucketAccess.Proofs.Text.Order
import BucketAccess.Proofs.Text.Digits
import BucketAccess.Proofs.Text.Composed
import BucketAccess.Proofs.Text.LowerCase
import BucketAccess.Proofs.Web.Address
import BucketAccess.Proofs.Web.Domain
import BucketAccess.Proofs.Web.Host
import BucketAccess.Proofs.Web.Path
import BucketAccess.Proofs.Web.Punycode
import BucketAccess.Proofs.Signing.Header
import BucketAccess.Proofs.Signing.Request
import BucketAccess.Proofs.Signing.Coverage
import BucketAccess.Proofs.Web.Url
import BucketAccess.Proofs.Storage.Sending
import BucketAccess.Proofs.Markup.Masked
import BucketAccess.Proofs.Program.Twin
import BucketAccess.Proofs.Users.Secret
import BucketAccess.Proofs.Provision.Secrecy
import BucketAccess.Proofs.Users.Exchange
import BucketAccess.Proofs.Users.Removal
import BucketAccess.Proofs.Users.Verdict
import BucketAccess.Proofs.Storage.Verdict
import BucketAccess.Proofs.Markup.Escaping
import BucketAccess.Proofs.Users.Sending
import BucketAccess.Proofs.Markup.Enclosed
import BucketAccess.Proofs.Storage.Place
import BucketAccess.Proofs.Time.Calendar
import BucketAccess.Proofs.Time.Timestamp
