import SealedSession.Client.Connect
import SealedSession.IdentityStore.Scripted
import SealedSession.Lifecycle
import SealedSession.Service.Trusting
import SealedSession.Switchboard.Recorded
import SealedSession.Verification
import SealedSession.Proofs.Handshake.Steps
import SealedSession.Proofs.Connection.Agreement
import SealedSession.Proofs.Connection.Client
import SealedSession.Proofs.Connection.Modes
import SealedSession.Proofs.Handshake.Phases
import SealedSession.Proofs.Handshake.Posting
import SealedSession.Proofs.Handshake.Modes
import SealedSession.Proofs.Client.Run
import SealedSession.Proofs.Client.Connections
import SealedSession.Proofs.Client.Verification
import SealedSession.Proofs.Handshake.Order
import SealedSession.Proofs.Handshake.Events
import SealedSession.Proofs.Directory.Errands
import SealedSession.Proofs.Directory.Ledger
import SealedSession.Proofs.Directory.Conservation
import SealedSession.Proofs.Directory.Stopping
import SealedSession.Proofs.Directory.Sending
import SealedSession.Proofs.Directory.Lookups
import SealedSession.Proofs.Service.Run
import SealedSession.Proofs.Service.Removals
import SealedSession.Proofs.Service.Noted
import SealedSession.Proofs.Service.Ending
import SealedSession.Proofs.Service.Tenure
import SealedSession.Proofs.Connection.Clear
import SealedSession.Proofs.Handshake.Lineage
import SealedSession.Proofs.Handshake.Reset
import SealedSession.Proofs.Envelope.Attribution
import SealedSession.Proofs.Handshake.Secret
import SealedSession.Proofs.Handshake.Teardown
import SealedSession.Proofs.Household.Exclusion
import SealedSession.Proofs.Handshake.Course
import SealedSession.Proofs.Handshake.Failing
import SealedSession.Proofs.Handshake.Answering
import SealedSession.Proofs.Handshake.Mending
import SealedSession.Proofs.Client.Pending
import SealedSession.Proofs.Handshake.Custody
import SealedSession.Proofs.Client.Approval
import SealedSession.Proofs.Envelope.Framing
import SealedSession.Proofs.Decimal.Rounding
import SealedSession.Proofs.Json.Defects
import SealedSession.Proofs.Json.Range
import SealedSession.Proofs.Message.Format
import SealedSession.Proofs.Keepalive
import SealedSession.Proofs.Lifecycle
import SealedSession.Proofs.Discovery
import SealedSession.Proofs.Pipeline.Delivery
