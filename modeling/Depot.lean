import Depot.Blobs.Bucket
import Depot.Dispatch.Bundled
import Depot.KeyValue
import Depot.Log.Session
import Depot.Messenger.Listed
import Depot.Offload.Exchange
import Depot.Outcome.Arithmetic
import Depot.Proofs.Blobs.Batches
import Depot.Proofs.Blobs.Refinement
import Depot.Proofs.Clients.Listed
import Depot.Proofs.Connection.Alignment
import Depot.Proofs.Connection.EscapePlaces
import Depot.Proofs.Connection.RoundTrip
import Depot.Proofs.Connection.Writers
import Depot.Proofs.ConnectionString.Builders
import Depot.Proofs.ConnectionString.Congruence
import Depot.Proofs.ConnectionString.Disclosure
import Depot.Proofs.ConnectionString.Folding
import Depot.Proofs.ConnectionString.Reparse
import Depot.Proofs.ConnectionString.Secrets
import Depot.Proofs.Dispatch.Decision
import Depot.Proofs.Dispatch.Default
import Depot.Proofs.Dispatch.Registration
import Depot.Proofs.Dispatch.Secrecy
import Depot.Proofs.Message.Envelope.Language
import Depot.Proofs.Message.Envelope.Reading
import Depot.Proofs.Message.Envelope.Truncation
import Depot.Proofs.Messenger.Coherence
import Depot.Proofs.Messenger.DeadLetters
import Depot.Proofs.Messenger.Deletion
import Depot.Proofs.Messenger.Foretelling
import Depot.Proofs.Messenger.InFlight
import Depot.Proofs.Messenger.Listed.Answering
import Depot.Proofs.Messenger.Listed.Namespaces
import Depot.Proofs.Messenger.Postings
import Depot.Proofs.Messenger.Refinement
import Depot.Proofs.Messenger.Unknown
import Depot.Proofs.Offload.Batching
import Depot.Proofs.Offload.Containment
import Depot.Proofs.Offload.Headers
import Depot.Proofs.Offload.Processing
import Depot.Proofs.Offload.Provenance
import Depot.Proofs.Offload.Publishing
import Depot.Proofs.Offload.Safety
import Depot.Proofs.Offload.Spoiling
import Depot.Proofs.Offload.Transports
import Depot.Proofs.Settings.Blame
import Depot.Proofs.Settings.Rules
import Depot.Proofs.Stores
import Depot.Settings.Root
import Depot.TrialServer
