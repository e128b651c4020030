import CheckGateway.Binary64.Basic
import CheckGateway.Binary64.Layout
import CheckGateway.Binary64.Shortest
import CheckGateway.Cache
import CheckGateway.Check
import CheckGateway.Config
import CheckGateway.Credentials
import CheckGateway.Digest.Parts
import CheckGateway.Digest.Sha256
import CheckGateway.Error
import CheckGateway.Gate
import CheckGateway.Gateway.Checks
import CheckGateway.Gateway.Handler
import CheckGateway.Gateway.Job
import CheckGateway.Gateway.Reaper
import CheckGateway.Gateway.Registry
import CheckGateway.Gateway.Run
import CheckGateway.Gateway.State
import CheckGateway.InFlight
import CheckGateway.Json.Decode
import CheckGateway.Json.Number
import CheckGateway.Json.Parser
import CheckGateway.Json.Printer
import CheckGateway.Json.Problem
import CheckGateway.Json.Shown
import CheckGateway.Json.Token
import CheckGateway.Json.Value
import CheckGateway.Message.Basic
import CheckGateway.Message.Filter
import CheckGateway.Overflow
import CheckGateway.Pattern.CharSet
import CheckGateway.Pattern.Encoding
import CheckGateway.Pattern.Footprint
import CheckGateway.Pattern.Parser
import CheckGateway.Pattern.Plan
import CheckGateway.Pattern.Regex
import CheckGateway.Pool.Basic
import CheckGateway.Pool.Bench
import CheckGateway.Proofs.Cache.History
import CheckGateway.Proofs.Cache.Pace
import CheckGateway.Proofs.Digest.Joined
import CheckGateway.Proofs.Dispatch.Answers
import CheckGateway.Proofs.Dispatch.Exact
import CheckGateway.Proofs.Dispatch.Ledger
import CheckGateway.Proofs.Dispatch.Progress
import CheckGateway.Proofs.Dispatch.Steps
import CheckGateway.Proofs.Fallible
import CheckGateway.Proofs.Gateway.Accounts
import CheckGateway.Proofs.Gateway.Alike
import CheckGateway.Proofs.Gateway.Arguments
import CheckGateway.Proofs.Gateway.Books
import CheckGateway.Proofs.Gateway.Calls
import CheckGateway.Proofs.Gateway.Checks
import CheckGateway.Proofs.Gateway.Deaths
import CheckGateway.Proofs.Gateway.Disks
import CheckGateway.Proofs.Gateway.Eviction
import CheckGateway.Proofs.Gateway.Grip
import CheckGateway.Proofs.Gateway.Handlers
import CheckGateway.Proofs.Gateway.Holdings
import CheckGateway.Proofs.Gateway.Idle
import CheckGateway.Proofs.Gateway.Items
import CheckGateway.Proofs.Gateway.Listing
import CheckGateway.Proofs.Gateway.Load
import CheckGateway.Proofs.Gateway.Lookups
import CheckGateway.Proofs.Gateway.Making
import CheckGateway.Proofs.Gateway.Noninterference
import CheckGateway.Proofs.Gateway.Obtaining
import CheckGateway.Proofs.Gateway.Operations
import CheckGateway.Proofs.Gateway.Outlook
import CheckGateway.Proofs.Gateway.Panics
import CheckGateway.Proofs.Gateway.Poisoning
import CheckGateway.Proofs.Gateway.Reading
import CheckGateway.Proofs.Gateway.Reconnection
import CheckGateway.Proofs.Gateway.Repertoire
import CheckGateway.Proofs.Gateway.Requests
import CheckGateway.Proofs.Gateway.Rest
import CheckGateway.Proofs.Gateway.Serving
import CheckGateway.Proofs.Gateway.Sessions
import CheckGateway.Proofs.Gateway.Severity
import CheckGateway.Proofs.Gateway.Shelves
import CheckGateway.Proofs.Gateway.Slots
import CheckGateway.Proofs.Gateway.Staff
import CheckGateway.Proofs.Gateway.Steps
import CheckGateway.Proofs.Gateway.Stock
import CheckGateway.Proofs.Gateway.Successors
import CheckGateway.Proofs.Gateway.Sweeps
import CheckGateway.Proofs.Gateway.Systems
import CheckGateway.Proofs.Gateway.Tenants
import CheckGateway.Proofs.Gateway.Turnover
import CheckGateway.Proofs.Gateway.Twins
import CheckGateway.Proofs.Gateway.Watch
import CheckGateway.Proofs.Json.Encoded
import CheckGateway.Proofs.Json.Streamed
import CheckGateway.Proofs.Pattern.Bounds
import CheckGateway.Proofs.Pattern.Brackets
import CheckGateway.Proofs.Pattern.Groups
import CheckGateway.Proofs.Pattern.Local
import CheckGateway.Proofs.Pattern.Matching
import CheckGateway.Proofs.Pattern.Parts
import CheckGateway.Proofs.Pattern.Ranges
import CheckGateway.Proofs.Pattern.Whole
import CheckGateway.Proofs.Pool.Account
import CheckGateway.Proofs.Pool.Lives
import CheckGateway.Proofs.Pool.Served
import CheckGateway.Proofs.Pool.Steps
import CheckGateway.Proofs.Remote.RoundTrip
import CheckGateway.Proofs.Remote.Rows
import CheckGateway.Proofs.Request.Arguments
import CheckGateway.Proofs.Request.Decoding
import CheckGateway.Proofs.Request.Numbers
import CheckGateway.Proofs.Request.Queues
import CheckGateway.Proofs.Routine
import CheckGateway.Proofs.Slot.History
import CheckGateway.Proofs.Tail.Concurrent
import CheckGateway.Proofs.Tail.ExactlyOnce
import CheckGateway.Proofs.Tail.Growing
import CheckGateway.Proofs.Tail.Keys
import CheckGateway.Proofs.Tail.Lossless
import CheckGateway.Proofs.Tail.Paging
import CheckGateway.Proofs.Tail.Purge
import CheckGateway.Proofs.Tail.Reader
import CheckGateway.Proofs.Tail.Scan
import CheckGateway.Proofs.Text.Decimal
import CheckGateway.Proofs.Time.Calendar
import CheckGateway.Proofs.Time.Text
import CheckGateway.Remote.Query
import CheckGateway.Remote.Recorded
import CheckGateway.Remote.Row
import CheckGateway.Remote.Scripted
import CheckGateway.Request.Basic
import CheckGateway.Request.Wire
import CheckGateway.Response
import CheckGateway.Routine
import CheckGateway.Slot
import CheckGateway.Table
import CheckGateway.Tail.Bench
import CheckGateway.Tail.Key
import CheckGateway.Tail.Poll
import CheckGateway.Text.Ascii
import CheckGateway.Text.Blank
import CheckGateway.Text.Decimal
import CheckGateway.Text.Quoted
import CheckGateway.Time.Civil
import CheckGateway.Time.Reader
import CheckGateway.Time.Timestamp
import CheckGateway.Unicode.Age
import CheckGateway.Unicode.Break
import CheckGateway.Unicode.Category
import CheckGateway.Unicode.CodePointSet
import CheckGateway.Unicode.Derived
import CheckGateway.Unicode.Extensions
import CheckGateway.Unicode.Fold
import CheckGateway.Unicode.Listed
import CheckGateway.Unicode.Property
import CheckGateway.Unicode.Recent
import CheckGateway.Unicode.RunTable
import CheckGateway.Unicode.Script
