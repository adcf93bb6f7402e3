import ClusterFramework.Binary64.Basic
import ClusterFramework.Binary64.Printed
import ClusterFramework.Binary64.Reading
import ClusterFramework.Binary64.Shortest
import ClusterFramework.Controller.Dispatch
import ClusterFramework.Controller.Matching
import ClusterFramework.Controller.Report
import ClusterFramework.Controller.Session
import ClusterFramework.Definition.Basic
import ClusterFramework.Definition.Ports
import ClusterFramework.Definition.Reading
import ClusterFramework.Definition.Validation
import ClusterFramework.Dictionary
import ClusterFramework.Duration
import ClusterFramework.Executor.Encryption
import ClusterFramework.Executor.Pem
import ClusterFramework.Executor.Server
import ClusterFramework.FrameworkError
import ClusterFramework.Json.Shape
import ClusterFramework.Json.Token
import ClusterFramework.Json.Value
import ClusterFramework.Log.Context
import ClusterFramework.Log.Entry
import ClusterFramework.Log.Severity
import ClusterFramework.Master.Connection
import ClusterFramework.Master.Order
import ClusterFramework.Master.Scheduler
import ClusterFramework.Master.Status
import ClusterFramework.Message.Call
import ClusterFramework.Message.Catalog
import ClusterFramework.Message.Event
import ClusterFramework.Message.Identity
import ClusterFramework.Message.Launch
import ClusterFramework.Message.Offer
import ClusterFramework.Message.Resource
import ClusterFramework.Network.Address
import ClusterFramework.Network.Header
import ClusterFramework.Network.SocketAddress
import ClusterFramework.OfferPool
import ClusterFramework.PriorityQueue
import ClusterFramework.Proofs.Binary64
import ClusterFramework.Proofs.Controller.Actions
import ClusterFramework.Proofs.Controller.Answering
import ClusterFramework.Proofs.Controller.Confirmation
import ClusterFramework.Proofs.Controller.Course
import ClusterFramework.Proofs.Controller.Launching
import ClusterFramework.Proofs.Controller.Matching
import ClusterFramework.Proofs.Controller.Report
import ClusterFramework.Proofs.Controller.Retrying
import ClusterFramework.Proofs.Controller.Steps
import ClusterFramework.Proofs.Controller.Suppression
import ClusterFramework.Proofs.Definition.RoundTrip
import ClusterFramework.Proofs.Dictionary
import ClusterFramework.Proofs.Json.RoundTrip
import ClusterFramework.Proofs.Json.Shape
import ClusterFramework.Proofs.Master.Posting
import ClusterFramework.Proofs.Message.Foreign
import ClusterFramework.Proofs.Message.Orders
import ClusterFramework.Proofs.Message.RoundTrip
import ClusterFramework.Proofs.OfferPool
import ClusterFramework.Proofs.PriorityQueue.Contents
import ClusterFramework.Proofs.PriorityQueue.Order
import ClusterFramework.Proofs.Store.Expiry
import ClusterFramework.Proofs.Store.Leases
import ClusterFramework.Proofs.Store.Links
import ClusterFramework.Proofs.Store.Reference
import ClusterFramework.Proofs.Store.Scan
import ClusterFramework.Proofs.Store.View
import ClusterFramework.Proofs.Stream.Decoding
import ClusterFramework.Proofs.Stream.Grammar
import ClusterFramework.Proofs.Stream.Notice
import ClusterFramework.Proofs.Stream.Records
import ClusterFramework.Proofs.Stream.Truncation
import ClusterFramework.Proofs.TaskTable
import ClusterFramework.Proofs.TaskTable.Listing
import ClusterFramework.Proofs.Wire.Foreign
import ClusterFramework.Proofs.Wire.RoundTrip
import ClusterFramework.Proofs.Wire.Scalars
import ClusterFramework.Proofs.Wire.Tokens
import ClusterFramework.Retry.Policy
import ClusterFramework.Retry.Registry
import ClusterFramework.Rounding
import ClusterFramework.Settings.EnvironmentVariables
import ClusterFramework.Settings.Executor
import ClusterFramework.Settings.Framework
import ClusterFramework.Store.KeyValue
import ClusterFramework.Store.Lease
import ClusterFramework.Stream.Events
import ClusterFramework.Stream.Notice
import ClusterFramework.Stream.Record
import ClusterFramework.Stream.Source
import ClusterFramework.Task
import ClusterFramework.TaskTable
import ClusterFramework.Text.Blank
import ClusterFramework.Text.Composition
import ClusterFramework.Text.Decimal
import ClusterFramework.Text.Direction
import ClusterFramework.Text.Hexadecimal
import ClusterFramework.Text.Joining
import ClusterFramework.Text.Mark
import ClusterFramework.Text.Numeral
import ClusterFramework.Text.Quoted
import ClusterFramework.Text.Split
import ClusterFramework.Text.Table
import ClusterFramework.Text.Unprintable
import ClusterFramework.Text.Utf8
import ClusterFramework.Url.Basic
import ClusterFramework.Url.Escape
import ClusterFramework.Url.Folding
import ClusterFramework.Url.Host
import ClusterFramework.Url.Name
import ClusterFramework.Url.Path
import ClusterFramework.Url.Punycode
import ClusterFramework.Url.Reading
import ClusterFramework.Wire.Codec
import ClusterFramework.Wire.Form
import ClusterFramework.Wire.Schema
import ClusterFramework.Wire.Token
import ClusterFramework.Wire.Varint
import ClusterFramework.Proofs.Controller.Acknowledgement
import ClusterFramework.Proofs.Controller.Remainder
import ClusterFramework.Proofs.OfferPool.Whereabouts
import ClusterFramework.Proofs.Definition.Validation
import ClusterFramework.Proofs.Definition.Ports
import ClusterFramework.Proofs.Retry.Rounds
import ClusterFramework.Proofs.Master.Backoff
import ClusterFramework.Proofs.PriorityQueue.Capacity
import ClusterFramework.Proofs.Store.Listing
import ClusterFramework.Proofs.Stream.Unpacking
import ClusterFramework.Proofs.Json.Grammar
import ClusterFramework.Proofs.Json.Acceptance
import ClusterFramework.Proofs.Definition.Arrays
import ClusterFramework.Proofs.Stream.Progress
import ClusterFramework.Proofs.Dictionary.Moving
import ClusterFramework.Proofs.Store.Putting
import ClusterFramework.Proofs.Log.Lines
