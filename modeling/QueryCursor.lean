import QueryCursor.Discovery
import QueryCursor.Failure
import QueryCursor.LookAhead.Operation
import QueryCursor.LoopPolicy
import QueryCursor.Registry
import QueryCursor.RowStream.Operation
import QueryCursor.Session
import QueryCursor.Source.Script
import QueryCursor.Proofs.Advance
import QueryCursor.Proofs.Course
import QueryCursor.Proofs.Trail
import QueryCursor.Proofs.Simulation
import QueryCursor.Proofs.Shown
import QueryCursor.Proofs.Accord
import QueryCursor.Proofs.Alike
import QueryCursor.Proofs.Foresight
import QueryCursor.Proofs.Course.RowStream
import QueryCursor.Proofs.Course.Script
import QueryCursor.Proofs.Draining
import QueryCursor.Proofs.Reader
import QueryCursor.Proofs.Refinement
import QueryCursor.Proofs.Watched
import QueryCursor.Proofs.Delivery
import QueryCursor.Proofs.Wrapping
import QueryCursor.Proofs.Bounds
import QueryCursor.Proofs.Progress
import QueryCursor.Proofs.Custody
import QueryCursor.Proofs.Overheard
import QueryCursor.Proofs.Rationed
import QueryCursor.Proofs.Release
import QueryCursor.Proofs.Limit
import QueryCursor.Proofs.Exhaustion
import QueryCursor.Proofs.Closing
import QueryCursor.Proofs.Attempts
import QueryCursor.Proofs.Setup
import QueryCursor.Proofs.Refusal
import QueryCursor.Proofs.Counterparts
import QueryCursor.Proofs.Interchange
import QueryCursor.Proofs.Line
import QueryCursor.Proofs.Connecting
import QueryCursor.Proofs.Steps
import QueryCursor.Proofs.Lifecycle
import QueryCursor.Proofs.Disconnection
import QueryCursor.Proofs.Search
import QueryCursor.Proofs.Upholding
import QueryCursor.Proofs.Timing
import QueryCursor.Proofs.Tables
import QueryCursor.Proofs.Results
import QueryCursor.Proofs.Company
import QueryCursor.Proofs.InMemory
import QueryCursor.Proofs.Skipping
import QueryCursor.Proofs.Mapping
import QueryCursor.Proofs.Streaming
import QueryCursor.Proofs.Casing
import QueryCursor.Proofs.Location
import QueryCursor.Proofs.Address
import QueryCursor.Proofs.FirstRecord
import QueryCursor.Proofs.LookingAhead
import QueryCursor.Proofs.Entries
import QueryCursor.Proofs.Spelling
import QueryCursor.Proofs.Access
import QueryCursor.Proofs.Equality
import QueryCursor.Proofs.PlainMapping
import QueryCursor.Proofs.Distinct
