import ScatterSearch.Assoc
import ScatterSearch.Call.Call
import ScatterSearch.Call.Network
import ScatterSearch.Call.Outbound
import ScatterSearch.Call.Reconnect
import ScatterSearch.Call.Remote
import ScatterSearch.Call.Workers
import ScatterSearch.Client.Client
import ScatterSearch.Client.Pool
import ScatterSearch.Client.Web
import ScatterSearch.Cluster.Error
import ScatterSearch.Cluster.Failure
import ScatterSearch.Cluster.Layout
import ScatterSearch.Cluster.Server
import ScatterSearch.Cluster.Shard
import ScatterSearch.Cluster.SocketAddress
import ScatterSearch.Command.Kind
import ScatterSearch.Command.Limits
import ScatterSearch.Command.Message
import ScatterSearch.Command.Parts
import ScatterSearch.Command.Response
import ScatterSearch.CommandLine
import ScatterSearch.Decode.Decoder
import ScatterSearch.Decode.Error
import ScatterSearch.Decode.Field
import ScatterSearch.Decode.Record
import ScatterSearch.Decode.Union
import ScatterSearch.Execution.Builtin
import ScatterSearch.Execution.Handler
import ScatterSearch.Execution.Host
import ScatterSearch.Execution.Manager
import ScatterSearch.Formats
import ScatterSearch.Http.MediaType
import ScatterSearch.Http.Path
import ScatterSearch.Http.Status
import ScatterSearch.Ids
import ScatterSearch.Json.Binary64
import ScatterSearch.Json.Document
import ScatterSearch.Json.Printer
import ScatterSearch.Json.Reader
import ScatterSearch.Json.Value
import ScatterSearch.Main
import ScatterSearch.Merge.Accumulator
import ScatterSearch.Merge.Merge
import ScatterSearch.Merge.Timeline
import ScatterSearch.Metrics
import ScatterSearch.Node.Config
import ScatterSearch.Node.Endpoint
import ScatterSearch.Node.Node
import ScatterSearch.Query.Descriptor
import ScatterSearch.Query.Monitor
import ScatterSearch.Query.Pressure
import ScatterSearch.Query.Registry
import ScatterSearch.Query.State
import ScatterSearch.Query.Waiter
import ScatterSearch.Rehearsal.Script
import ScatterSearch.Scatter.Executor
import ScatterSearch.Scatter.Gathered
import ScatterSearch.Scatter.Plan
import ScatterSearch.Scatter.Report
import ScatterSearch.Search.Arguments
import ScatterSearch.Search.Coordinator
import ScatterSearch.Search.Hits
import ScatterSearch.Search.Index
import ScatterSearch.Search.Message
import ScatterSearch.Text.Case
import ScatterSearch.Text.Letters
import ScatterSearch.Text.Quoted
import ScatterSearch.Text.Words
import ScatterSearch.Time.Clock
import ScatterSearch.Time.Periodic
import ScatterSearch.Proofs.Execution.Firing
import ScatterSearch.Proofs.Ids
import ScatterSearch.Proofs.Time.Run
import ScatterSearch.Proofs.Execution.Retention
import ScatterSearch.Proofs.Execution.Errand
import ScatterSearch.Proofs.Call.Lone
import ScatterSearch.Proofs.Call.Dialogue
import ScatterSearch.Proofs.Call.WaitLoop
import ScatterSearch.Proofs.Lists
import ScatterSearch.Proofs.Merge.Course
import ScatterSearch.Proofs.Search.Index
import ScatterSearch.Proofs.Execution.Answers
import ScatterSearch.Proofs.Search.Hits
import ScatterSearch.Proofs.Call.Answers
import ScatterSearch.Proofs.Scatter.Handles
import ScatterSearch.Proofs.Search.Parts
import ScatterSearch.Proofs.Search.Cluster
import ScatterSearch.Proofs.Search.Central
import ScatterSearch.Proofs.Execution.OneRun
import ScatterSearch.Proofs.Execution.Sharing
import ScatterSearch.Proofs.Execution.Turns
import ScatterSearch.Proofs.Execution.Table
import ScatterSearch.Proofs.Cluster.Layout
import ScatterSearch.Proofs.Scatter.Plan
import ScatterSearch.Proofs.Scatter.Submission
import ScatterSearch.Proofs.Scatter.FanOut
import ScatterSearch.Proofs.Call.Progress
import ScatterSearch.Proofs.Scatter.Reads
import ScatterSearch.Proofs.Scatter.Ownership
import ScatterSearch.Proofs.Scatter.Outcomes
import ScatterSearch.Proofs.Call.Locality
import ScatterSearch.Proofs.Call.Talk
import ScatterSearch.Proofs.Scatter.Isolation
import ScatterSearch.Proofs.Query.Lifecycle
import ScatterSearch.Proofs.Call.Steps
import ScatterSearch.Proofs.Call.Retrieval
import ScatterSearch.Proofs.Call.Interview
import ScatterSearch.Proofs.Search.Moves
import ScatterSearch.Proofs.Search.Agreement
import ScatterSearch.Proofs.Query.Accounting
import ScatterSearch.Proofs.Query.Visibility
import ScatterSearch.Proofs.Search.Completion
import ScatterSearch.Proofs.Call.Leases
import ScatterSearch.Proofs.Scatter.Leases
import ScatterSearch.Proofs.Search.Scan
import ScatterSearch.Proofs.Json.Documents
import ScatterSearch.Proofs.Decode.Reads
import ScatterSearch.Proofs.Decode.RoundTrip
import ScatterSearch.Proofs.Scatter.Halting
import ScatterSearch.Proofs.Merge.Harvest
import ScatterSearch.Proofs.Search.Dropping
import ScatterSearch.Proofs.Search.Totals
import ScatterSearch.Proofs.Query.Waking
import ScatterSearch.Proofs.Time.Flow
import ScatterSearch.Proofs.Call.Line
import ScatterSearch.Proofs.Scatter.Cancellation
import ScatterSearch.Proofs.Search.Executor
import ScatterSearch.Proofs.Search.Report
import ScatterSearch.Proofs.Client.Pool
import ScatterSearch.Proofs.Execution.Eviction
import ScatterSearch.Proofs.Query.Views
import ScatterSearch.Proofs.Search.Arrival
import ScatterSearch.Proofs.Cluster.Server
import ScatterSearch.Proofs.Scatter.Narrowing
import ScatterSearch.Proofs.Text.Case
import ScatterSearch.Proofs.Text.Words
import ScatterSearch.Proofs.Search.Stability
import ScatterSearch.Proofs.Cluster.SocketAddress
import ScatterSearch.Proofs.Decode.Omissions
import ScatterSearch.Proofs.Node.Config
import ScatterSearch.Proofs.Time.Periodic
