import QueryClient.Connection
import QueryClient.Json.Reader
import QueryClient.Stream.Feed
import QueryClient.Proofs.Stream.Moves
import QueryClient.Proofs.Stream.Lifecycle
import QueryClient.Proofs.Stream.History
import QueryClient.Proofs.Stream.Cancellation
import QueryClient.Proofs.Stream.Fetches
import QueryClient.Proofs.Stream.Delivery
import QueryClient.Proofs.Stream.Announcement
import QueryClient.Proofs.Value.Typing
import QueryClient.Proofs.Stream.Schema
import QueryClient.Proofs.Session.State
import QueryClient.Proofs.Session.Execution
import QueryClient.Proofs.Session.Alike
import QueryClient.Proofs.Load.Chunks
import QueryClient.Proofs.Config.Dsn
import QueryClient.Proofs.Http.Fields
import QueryClient.Proofs.Load.Reading
import QueryClient.Proofs.Session.Upload
import QueryClient.Proofs.Calendar.Offset
import QueryClient.Proofs.Session.Failures
import QueryClient.Proofs.Session.Origin
import QueryClient.Proofs.Text.Numerals
import QueryClient.Proofs.Value.Domain
import QueryClient.Proofs.Value.RoundTrip
import QueryClient.Proofs.Text.Trim
import QueryClient.Proofs.Value.Tags
import QueryClient.Proofs.Load.Rejection
import QueryClient.Proofs.Load.Width
import QueryClient.Proofs.Value.LoadField
import QueryClient.Proofs.Value.Reading
import QueryClient.Proofs.Row.Access
import QueryClient.Proofs.Config.Queries
import QueryClient.Proofs.Config.Occurrences
import QueryClient.Proofs.Config.Service
import QueryClient.Proofs.Session.FirstRow
import QueryClient.Proofs.Session.Body
import QueryClient.Proofs.Envelope.Answers
import QueryClient.Proofs.Load.Extension
import QueryClient.Proofs.Load.FileOptions
import QueryClient.Proofs.Session.FileLoad
