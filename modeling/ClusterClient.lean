import ClusterClient.Payload.Record
import ClusterClient.Rehearsal.Calls
import ClusterClient.Rehearsal.Runs
import ClusterClient.Settings.Environment
import ClusterClient.Proofs.Calls.Fields
import ClusterClient.Proofs.Client.Attribution
import ClusterClient.Proofs.Client.Closing
import ClusterClient.Proofs.Client.Gathering
import ClusterClient.Proofs.Client.Refusal
import ClusterClient.Proofs.Client.Requests
import ClusterClient.Proofs.Endpoint.Collections
import ClusterClient.Proofs.Failover.Hearing
import ClusterClient.Proofs.Failover.Order
import ClusterClient.Proofs.Failover.Recalled
import ClusterClient.Proofs.Failover.Unheard
import ClusterClient.Proofs.Client.Listening
import ClusterClient.Proofs.Exchange.Tracing
import ClusterClient.Proofs.Exchange.Masking
import ClusterClient.Proofs.Failover.Withdrawing
import ClusterClient.Proofs.Exchange.Hiding
import ClusterClient.Proofs.Exchange.Classifying
import ClusterClient.Proofs.Exchange.ClusterState
import ClusterClient.Proofs.Endpoint.KeyAddresses
import ClusterClient.Proofs.Endpoint.NormalForm
import ClusterClient.Proofs.Exchange.Merging
import ClusterClient.Proofs.Payload.EmptyCollections
import ClusterClient.Proofs.Exchange.Carrying
import ClusterClient.Proofs.Console.BodyText
import ClusterClient.Proofs.Calls.Access
import ClusterClient.Proofs.Failover.Cursor
import ClusterClient.Proofs.Settings.Timeouts
