import CloudClient.Body
import CloudClient.Calendar.Date
import CloudClient.Calendar.DateTime
import CloudClient.Calendar.EpochTime
import CloudClient.Calendar.IsoDate
import CloudClient.Calendar.MailDate
import CloudClient.Config
import CloudClient.Connection.Queue
import CloudClient.Connection.Storage
import CloudClient.Credentials
import CloudClient.Decode
import CloudClient.Decode.Document
import CloudClient.Decode.Header
import CloudClient.Decode.Queue
import CloudClient.Decode.Storage
import CloudClient.Dict
import CloudClient.Encoding.Binary
import CloudClient.Encoding.Percent
import CloudClient.Endpoint
import CloudClient.Factory
import CloudClient.Failure
import CloudClient.Fault
import CloudClient.Fault.Code
import CloudClient.Fault.Report
import CloudClient.Hash.Block
import CloudClient.Hash.Md5
import CloudClient.Hash.Sha1
import CloudClient.Hash.Sha256
import CloudClient.Json
import CloudClient.Listing.Cursor
import CloudClient.Listing.Page
import CloudClient.Log.Level
import CloudClient.Log.Line
import CloudClient.Log.Logger
import CloudClient.Log.Scope
import CloudClient.Log.Setup
import CloudClient.Log.Template
import CloudClient.Number.Binary64
import CloudClient.Number.Integer
import CloudClient.Number.Reading
import CloudClient.Number.Shortest
import CloudClient.Operation
import CloudClient.Outcome
import CloudClient.Proofs.Calendar.CompactText
import CloudClient.Proofs.Calendar.IsoDate
import CloudClient.Proofs.Connection.RetrySafety
import CloudClient.Proofs.Connection.StreamUpload
import CloudClient.Proofs.Decode
import CloudClient.Proofs.Decode.ErrorCode
import CloudClient.Proofs.Decode.ErrorDocument
import CloudClient.Proofs.Decode.Header
import CloudClient.Proofs.Decode.Listing
import CloudClient.Proofs.Decode.Lookup
import CloudClient.Proofs.Dict
import CloudClient.Proofs.Encoding.Percent
import CloudClient.Proofs.Endpoint
import CloudClient.Proofs.Listing.Circles
import CloudClient.Proofs.Listing.Page
import CloudClient.Proofs.Listing.Pagination
import CloudClient.Proofs.Listing.Truncation
import CloudClient.Proofs.Listing.Walk
import CloudClient.Proofs.Number.Integer
import CloudClient.Proofs.Request.Names
import CloudClient.Proofs.Request.Repetition
import CloudClient.Proofs.Retry.Attempts
import CloudClient.Proofs.Retry.Delay
import CloudClient.Proofs.Retry.Loop
import CloudClient.Proofs.Signature.Attached
import CloudClient.Proofs.Signature.Canonical
import CloudClient.Proofs.Signature.Covered
import CloudClient.Proofs.Signature.HeaderV2
import CloudClient.Proofs.Signature.Headers
import CloudClient.Proofs.Signature.QueryV2
import CloudClient.Proofs.Signature.Signed
import CloudClient.Proofs.Signature.Verification
import CloudClient.Proofs.Success
import CloudClient.Proofs.Text.Case
import CloudClient.Proofs.Text.Split
import CloudClient.Proofs.Text.Utf8
import CloudClient.Proofs.Transport.Chunks
import CloudClient.Proofs.Transport.Exchange
import CloudClient.Proofs.Transport.Rewind
import CloudClient.Proofs.Transport.Sending
import CloudClient.Proofs.Wire
import CloudClient.Proofs.Xml.Characters
import CloudClient.Proofs.Xml.Field
import CloudClient.Proofs.Xml.Reading
import CloudClient.Proofs.Xml.Written
import CloudClient.Record.Argument
import CloudClient.Record.Call
import CloudClient.Record.Config
import CloudClient.Record.Fault
import CloudClient.Record.Field
import CloudClient.Record.Kind
import CloudClient.Record.Result
import CloudClient.Record.Transport
import CloudClient.Request
import CloudClient.Request.Name
import CloudClient.Request.Queue
import CloudClient.Request.Storage
import CloudClient.Response
import CloudClient.Result
import CloudClient.Retry.Attempts
import CloudClient.Retry.Policy
import CloudClient.Signature
import CloudClient.Signature.Canonical
import CloudClient.Signature.HeaderV2
import CloudClient.Signature.QueryV2
import CloudClient.Signature.Signed
import CloudClient.Signature.V4
import CloudClient.Stream
import CloudClient.Text.Blank
import CloudClient.Text.Case
import CloudClient.Text.CharClass
import CloudClient.Text.Printable
import CloudClient.Text.Quoted
import CloudClient.Text.Split
import CloudClient.Text.Utf8
import CloudClient.Timestamp
import CloudClient.Transport.Execution
import CloudClient.Transport.Flight
import CloudClient.Transport.Metrics
import CloudClient.Transport.ObjectBody
import CloudClient.Transport.Session
import CloudClient.Transport.State
import CloudClient.Transport.Upload
import CloudClient.Uri
import CloudClient.Uri.Address
import CloudClient.Xml.Doctype.Mark
import CloudClient.Xml.Doctype.Reader
import CloudClient.Xml.Document
import CloudClient.Xml.Entity
import CloudClient.Xml.Name
import CloudClient.Xml.Namespace
import CloudClient.Xml.Nesting
import CloudClient.Xml.Node
import CloudClient.Xml.Reference
import CloudClient.Xml.Source
import CloudClient.Xml.Token
import CloudClient.Proofs.Decode.Checksum
import CloudClient.Proofs.Decode.Envelope
import CloudClient.Proofs.Connection.Integrity
import CloudClient.Proofs.Request.Refusal
import CloudClient.Proofs.Connection.Rejection
import CloudClient.Proofs.Signature.Unambiguous
import CloudClient.Proofs.Factory
import CloudClient.Proofs.Transport.Accounts
import CloudClient.Proofs.Connection.Accounting
import CloudClient.Proofs.Transport.Interleaving
import CloudClient.Proofs.Transport.Closed
import CloudClient.Proofs.Connection.Shutdown
import CloudClient.Proofs.Connection.Paging
import CloudClient.Proofs.Listing.Resumption
import CloudClient.Proofs.Decode.Namespace
import CloudClient.Proofs.Request.Address
import CloudClient.Proofs.Request.Metadata
import CloudClient.Proofs.Request.StreamPart
import CloudClient.Proofs.Text.Line
import CloudClient.Proofs.Request.HeaderLines
import CloudClient.Proofs.Signature.HeaderLines
import CloudClient.Proofs.Text.Blank
import CloudClient.Proofs.Signature.ServiceLines
import CloudClient.Proofs.Calendar.DayNumber
import CloudClient.Proofs.Calendar.Instant
import CloudClient.Proofs.Calendar.MailDate
import CloudClient.Proofs.Signature.Moments
import CloudClient.Proofs.Text.Recased
import CloudClient.Proofs.Signature.Presentation
import CloudClient.Proofs.Decode.Metadata
import CloudClient.Proofs.Request.QueueName
import CloudClient.Proofs.Request.Region
import CloudClient.Proofs.Uri.Reading
import CloudClient.Proofs.Request.QueueAddress
import CloudClient.Proofs.Uri.LoweredAddress
import CloudClient.Proofs.Uri.SentHost
import CloudClient.Proofs.Encoding.Faithful
import CloudClient.Proofs.Log.Fields
import CloudClient.Proofs.Log.Scoping
import CloudClient.Proofs.Number.Rounding
import CloudClient.Proofs.Number.Arithmetic
import CloudClient.Proofs.Transport.Drawing
import CloudClient.Proofs.Config
import CloudClient.Proofs.Retry.Backoff
import CloudClient.Proofs.Transport.AnySource
