import RunArchive.CommandLine.Inspect
import RunArchive.CommandLine.Overview
import RunArchive.Database.Repository
import RunArchive.Database.Snapshot
import RunArchive.Envelope.Reader
import RunArchive.Main
import RunArchive.Proofs.CommandLine.ExitCode
import RunArchive.Proofs.Database.Interchange
import RunArchive.Proofs.Envelope.RoundTrip
import RunArchive.Proofs.Envelope.Tampering
import RunArchive.Proofs.Query.Artifact
import RunArchive.Query.Service
import RunArchive.Store.Memory
import RunArchive.Proofs.Files.Path
import RunArchive.Proofs.Query.Resolution
import RunArchive.Proofs.Database.Retry
import RunArchive.Proofs.Database.Outage
import RunArchive.Proofs.Store.History
import RunArchive.Proofs.Run.Id
import RunArchive.Proofs.Time.Calendar
import RunArchive.Proofs.Time.Timestamp
import RunArchive.Proofs.Json.Pretty
import RunArchive.Proofs.Json.Record
import RunArchive.Proofs.Run.Summary
import RunArchive.Proofs.CommandLine.MissingValue
import RunArchive.Proofs.Database.Conversion
import RunArchive.Proofs.Query.Limit
import RunArchive.Proofs.CommandLine.Verbatim
import RunArchive.Proofs.Database.Course
import RunArchive.Proofs.Query.Batch
import RunArchive.Proofs.Run.Canonical
import RunArchive.Proofs.Decimal.Unsigned
import RunArchive.Proofs.CommandLine.Settings
import RunArchive.Proofs.Envelope.SealedText
import RunArchive.Proofs.Envelope.PassedOver
