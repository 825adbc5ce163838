import Courier.Json.Reader
import Courier.Main
import Courier.Proofs.QueueManager.Calls
import Courier.Proofs.QueueManager.Run
import Courier.Proofs.QueueManager.History
import Courier.Proofs.QueueManager.Limits
import Courier.Proofs.QueueManager.Put
import Courier.Proofs.QueueManager.Identifiers
import Courier.Proofs.Producer.Send
import Courier.Proofs.QueueManager.Settled
import Courier.Proofs.Producer.Transacted
import Courier.Proofs.Producer.Lifetime
import Courier.Proofs.Producer.Accepted
import Courier.Proofs.Producer.Refused
import Courier.Proofs.Producer.Headers
import Courier.Proofs.Send.Copies
import Courier.Proofs.Send.UnitOfWork
import Courier.Proofs.Producer.Outcome
import Courier.Proofs.MessageId
import Courier.Proofs.Producer.Identity
import Courier.Proofs.Send.Progress
import Courier.Proofs.Send.Report
import Courier.Proofs.Send.NewManager
import Courier.Proofs.QueueManager.Balance
import Courier.Proofs.Transport.Custody
import Courier.Proofs.Queue
import Courier.Proofs.Configuration.Valid
import Courier.Proofs.Configuration.Layers
import Courier.Proofs.Configuration.Variables
import Courier.Proofs.Text.Utf8
import Courier.Proofs.Yaml.Cursor
import Courier.Proofs.Configuration.Reload
import Courier.Proofs.Producer.Quiesced
import Courier.Proofs.Producer.Order
import Courier.Proofs.Producer.Retry
import Courier.Proofs.Failure
import Courier.Proofs.Producer.TimeToLive
import Courier.Proofs.Instant
import Courier.Proofs.Instant.Rfc3339
import Courier.Proofs.Expiration
import Courier.Proofs.Json
import Courier.Proofs.Descriptor.Json
import Courier.Proofs.Configuration.Json
import Courier.Proofs.ReplyTo
import Courier.Proofs.CommandLine.BodySource
