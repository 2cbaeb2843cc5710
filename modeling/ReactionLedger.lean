import ReactionLedger.Attribute
import ReactionLedger.Complaint
import ReactionLedger.Connection.Address
import ReactionLedger.Connection.Dialect
import ReactionLedger.Connection.Engine
import ReactionLedger.Connection.FileParameters
import ReactionLedger.Connection.HostParameters
import ReactionLedger.Decimal.Literal
import ReactionLedger.Decimal.Numeral
import ReactionLedger.Decimal.Power
import ReactionLedger.Decimal.Rounding
import ReactionLedger.Decimal.Shortest
import ReactionLedger.Failure
import ReactionLedger.Failure.Family
import ReactionLedger.Grouping
import ReactionLedger.Journal
import ReactionLedger.Label
import ReactionLedger.Logging.Level
import ReactionLedger.Logging.Root
import ReactionLedger.Proofs.Concurrency.Acknowledged
import ReactionLedger.Proofs.Concurrency.Additions
import ReactionLedger.Proofs.Concurrency.FailedWrites
import ReactionLedger.Proofs.Concurrency.LostRace
import ReactionLedger.Proofs.Concurrency.Orderly
import ReactionLedger.Proofs.Concurrency.Padding
import ReactionLedger.Proofs.Concurrency.Quiet
import ReactionLedger.Proofs.Concurrency.Serving
import ReactionLedger.Proofs.Concurrency.Sound
import ReactionLedger.Proofs.Concurrency.Watching
import ReactionLedger.Proofs.Grouping
import ReactionLedger.Proofs.Grouping.Partition
import ReactionLedger.Proofs.Grouping.Rearrangement
import ReactionLedger.Proofs.Journal.Chronicle
import ReactionLedger.Proofs.Journal.Deeds
import ReactionLedger.Proofs.Journal.Faithful
import ReactionLedger.Proofs.Journal.Holdings
import ReactionLedger.Proofs.Journal.Honesty
import ReactionLedger.Proofs.Journal.Recounting
import ReactionLedger.Proofs.Label
import ReactionLedger.Proofs.Listing.Agreement
import ReactionLedger.Proofs.Listing.Answers
import ReactionLedger.Proofs.Listing.Computation
import ReactionLedger.Proofs.Listing.Effects
import ReactionLedger.Proofs.Listing.Merging
import ReactionLedger.Proofs.Listing.Restriction
import ReactionLedger.Proofs.Listing.Specification
import ReactionLedger.Proofs.Listing.Writes
import ReactionLedger.Proofs.Logging
import ReactionLedger.Proofs.Reference.Listings
import ReactionLedger.Proofs.Reference.Machine
import ReactionLedger.Proofs.Reference.Records
import ReactionLedger.Proofs.Reference.Refinement
import ReactionLedger.Proofs.Row
import ReactionLedger.Proofs.Service.Causes
import ReactionLedger.Proofs.Service.Completeness
import ReactionLedger.Proofs.Service.Conduct
import ReactionLedger.Proofs.Service.Decoding
import ReactionLedger.Proofs.Service.Failing
import ReactionLedger.Proofs.Service.Instants
import ReactionLedger.Proofs.Service.Protocol
import ReactionLedger.Proofs.Service.Reading
import ReactionLedger.Proofs.Service.Reordering
import ReactionLedger.Proofs.Service.Rollbacks
import ReactionLedger.Proofs.Service.Rollups
import ReactionLedger.Proofs.Service.Unhindered
import ReactionLedger.Proofs.Session.Paths
import ReactionLedger.Proofs.Session.Results
import ReactionLedger.Proofs.Store.Changes
import ReactionLedger.Proofs.Store.Clock
import ReactionLedger.Proofs.Store.Contention
import ReactionLedger.Proofs.Store.Faults
import ReactionLedger.Proofs.Store.Filling
import ReactionLedger.Proofs.Store.Flushing
import ReactionLedger.Proofs.Store.Invariants
import ReactionLedger.Proofs.Store.Order
import ReactionLedger.Proofs.Store.Rivals
import ReactionLedger.Proofs.Store.Tables
import ReactionLedger.Proofs.Text.Trimming
import ReactionLedger.Proofs.Summary.Documents
import ReactionLedger.Proofs.Summary.Exchange
import ReactionLedger.Proofs.UnitOfWork
import ReactionLedger.Proofs.Uuid
import ReactionLedger.Reaction
import ReactionLedger.Row
import ReactionLedger.Service.Job
import ReactionLedger.Service.Listing
import ReactionLedger.Service.Request
import ReactionLedger.Service.Writing
import ReactionLedger.Session.Call
import ReactionLedger.Session.Program
import ReactionLedger.Session.Script
import ReactionLedger.Settings
import ReactionLedger.Settings.EnvFile
import ReactionLedger.Settings.Reading
import ReactionLedger.Store.Cell
import ReactionLedger.Store.Contention
import ReactionLedger.Store.Declaration
import ReactionLedger.Store.Directory
import ReactionLedger.Store.Interleaving
import ReactionLedger.Store.Maintenance
import ReactionLedger.Store.Scenario
import ReactionLedger.Store.Tables
import ReactionLedger.Store.World
import ReactionLedger.Summary
import ReactionLedger.Summary.Document
import ReactionLedger.Summary.Rollup
import ReactionLedger.Summary.Validation
import ReactionLedger.Text.Blank
import ReactionLedger.Text.Bounds
import ReactionLedger.Text.Digits
import ReactionLedger.Text.Lowercase
import ReactionLedger.Text.Numeral
import ReactionLedger.Text.Percent
import ReactionLedger.Text.Printable
import ReactionLedger.Text.Quoted
import ReactionLedger.Text.Utf8
import ReactionLedger.Text.Word
import ReactionLedger.Time.Calendar
import ReactionLedger.Time.Epoch
import ReactionLedger.Time.Exchange
import ReactionLedger.Time.Literal
import ReactionLedger.Time.Reading
import ReactionLedger.Time.Stamp
import ReactionLedger.UnitOfWork
import ReactionLedger.Uuid
import ReactionLedger.Uuid.Reading
import ReactionLedger.Value
import ReactionLedger.Value.Identity
import ReactionLedger.Value.Text
