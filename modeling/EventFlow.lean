import EventFlow.Backoff
import EventFlow.Binary64
import EventFlow.Binary64.Shortest
import EventFlow.CommandLine.Arguments
import EventFlow.CommandLine.Help
import EventFlow.CommandLine.Run
import EventFlow.Config
import EventFlow.Config.Environment
import EventFlow.Config.File
import EventFlow.Config.File.Reader
import EventFlow.Config.Home
import EventFlow.Endpoint
import EventFlow.Json.Number
import EventFlow.Json.Record
import EventFlow.Json.Token
import EventFlow.Json.Tree
import EventFlow.Json.Value
import EventFlow.Log
import EventFlow.Log.Filter
import EventFlow.Main
import EventFlow.Message
import EventFlow.Message.Codec
import EventFlow.Session
import EventFlow.Session.Error
import EventFlow.Session.Http
import EventFlow.Session.Http.Recorded
import EventFlow.Session.Http.Wire
import EventFlow.Signal
import EventFlow.Signal.Wait
import EventFlow.Span
import EventFlow.Span.Reader
import EventFlow.Span.Text
import EventFlow.Text.Blank
import EventFlow.Text.CodeTable
import EventFlow.Text.Composition
import EventFlow.Text.Composition.Tables
import EventFlow.Text.Quoted
import EventFlow.Text.Unprintable
import EventFlow.Text.Utf8
import EventFlow.Toml
import EventFlow.Toml.Number
import EventFlow.Toml.Reader
import EventFlow.Toml.Text
import EventFlow.Url
import EventFlow.Url.Address
import EventFlow.Url.Domain
import EventFlow.Url.Domain.Direction
import EventFlow.Url.Domain.Joining
import EventFlow.Url.Domain.Mapping
import EventFlow.Url.Domain.Mapping.Table
import EventFlow.Url.Domain.Punycode
import EventFlow.Url.Percent
import EventFlow.Url.Reader
import EventFlow.Worker
import EventFlow.Worker.Error
import EventFlow.Worker.Operations
import EventFlow.Worker.Retry
import EventFlow.Proofs.Backoff.Answers
import EventFlow.Proofs.Endpoint.Coverage
import EventFlow.Proofs.Endpoint.Rotation
import EventFlow.Proofs.Http.Effects
import EventFlow.Proofs.Http.Failover
import EventFlow.Proofs.Http.FirstHealthy
import EventFlow.Proofs.Signal.Delivery
import EventFlow.Proofs.Signal.History
import EventFlow.Proofs.Signal.Sections
import EventFlow.Proofs.Signal.Spread
import EventFlow.Proofs.Signal.Traffic
import EventFlow.Proofs.Signal.Waiting
import EventFlow.Proofs.Worker.Accounting
import EventFlow.Proofs.Worker.Attempts
import EventFlow.Proofs.Worker.Calls
import EventFlow.Proofs.Worker.Cancellation
import EventFlow.Proofs.Worker.Course
import EventFlow.Proofs.Worker.Crowd
import EventFlow.Proofs.Worker.Deadline
import EventFlow.Proofs.Worker.Intake
import EventFlow.Proofs.Worker.Retries
import EventFlow.Proofs.Worker.Run
import EventFlow.Proofs.Worker.Sessions
import EventFlow.Proofs.Worker.Team
import EventFlow.Proofs.Text.Encoding
import EventFlow.Proofs.Json.Strings
import EventFlow.Proofs.Json.Writing
import EventFlow.Proofs.Http.Bodies
import EventFlow.Proofs.Url.Escapes
import EventFlow.Proofs.Url.Segments
import EventFlow.Proofs.Url.Extension
import EventFlow.Proofs.Http.Routes
import EventFlow.Proofs.Http.Turns
import EventFlow.Proofs.CommandLine.Arguments
import EventFlow.Proofs.Http.Storage
import EventFlow.Proofs.CommandLine.Roundtrip
import EventFlow.Proofs.Config.Layers
import EventFlow.Proofs.Worker.Conversation
import EventFlow.Proofs.Worker.Publishing
import EventFlow.Proofs.Worker.Settling
import EventFlow.Proofs.Http.Polling
import EventFlow.Proofs.Http.Rollover
import EventFlow.Proofs.Http.Hanging
import EventFlow.Proofs.Message.Acknowledgments
import EventFlow.Proofs.Http.Settlements
import EventFlow.Proofs.CommandLine.Replacement
import EventFlow.Proofs.Span.Written
import EventFlow.Proofs.Http.Reservations
import EventFlow.Proofs.Config.Validation
import EventFlow.Proofs.Config.FileEndpoints
import EventFlow.Proofs.Backoff.Limits
import EventFlow.Proofs.Binary64.Rounding
import EventFlow.Proofs.Span.Seconds
import EventFlow.Proofs.Backoff.Growth
import EventFlow.Proofs.Signal.Newcomers
import EventFlow.Proofs.Worker.Unlinking
import EventFlow.Proofs.Json.Grammar
import EventFlow.Proofs.Json.Values
import EventFlow.Proofs.Json.Records
import EventFlow.Proofs.Message.References
import EventFlow.Proofs.Http.Series
import EventFlow.Proofs.CommandLine.Flags
import EventFlow.Proofs.CommandLine.Processing
import EventFlow.Proofs.Worker.Horizon
import EventFlow.Proofs.Config.Reach
