import Tassis.Foundation.Text
import Tassis.Foundation.Transition
import Tassis.Foundation.Record
import Tassis.Foundation.Component
import Tassis.Foundation.Selection
import Tassis.Foundation.Keyspace
import Tassis.Foundation.Writes
import Tassis.Foundation.Precedence
import Tassis.Foundation.Relay
import Tassis.Foundation.Program
import Tassis.Foundation.Codec
import Tassis.Foundation.Custody
import Tassis.Foundation.AckTable
import Tassis.Model.Messages
import Tassis.RedisBroker.Offset
import Tassis.RedisBroker.Comparators
import Tassis.RedisBroker.Broker
import Tassis.RedisBroker.Steps
import Tassis.RedisBroker.Wellformed
import Tassis.RedisBroker.Answers
import Tassis.RedisBroker.Delivery
import Tassis.RedisBroker.Acks
import Tassis.RedisBroker.Connections
import Tassis.RedisBroker.Ordering
import Tassis.RedisBroker.Trimmer
import Tassis.RedisBroker.TrimErrors
import Tassis.RedisBroker.SoleReader
import Tassis.RedisBroker.Serving
import Tassis.RedisBroker.Completion
import Tassis.RedisBroker.ReadRequests
import Tassis.RedisBroker.Retention
import Tassis.Database.ChatNumbers
import Tassis.Database.Permanence
import Tassis.Database.RateLimit
import Tassis.Database.Epoch
import Tassis.Database.Devices
import Tassis.Database.PreKeys
import Tassis.Database.MemDevices
import Tassis.Database.DeviceIndex
import Tassis.Database.Transaction
import Tassis.Database.Registered
import Tassis.Database.Directories
import Tassis.Database.Candidates
import Tassis.Database.Charges
import Tassis.Database.Requests
import Tassis.Database.KeyNames
import Tassis.Database.SharedKeyspace
import Tassis.Forwarder.Forwarder
import Tassis.Forwarder.Callbacks
import Tassis.Forwarder.Endings
import Tassis.Service.Operations
import Tassis.Service.Handlers
import Tassis.Service.Numbers
import Tassis.Service.Forwarding
import Tassis.Service.Rules
import Tassis.Service.Crashes
import Tassis.Service.System
import Tassis.Service.Dispatch
import Tassis.Service.Handling
import Tassis.Service.Logins
import Tassis.Service.Answers
import Tassis.Service.Registration
import Tassis.Service.Steps
import Tassis.Service.Soundness
import Tassis.Service.AckStages
import Tassis.Web.Session
import Tassis.Web.Gateway
import Tassis.Service.Watch
import Tassis.Service.Acknowledgements
import Tassis.Service.Trials
import Tassis.Service.Rejections
import Tassis.Service.Identity
import Tassis.Service.Conservation
import Tassis.Service.Federation
import Tassis.Service.Transcripts
import Tassis.Service.Loops
import Tassis.Service.Receipts
import Tassis.Service.Drafts
import Tassis.Service.Network
import Tassis.Forwarder.Refinement
import Tassis.Service.Movements
import Tassis.Service.Handovers
import Tassis.Service.Deployment
import Tassis.RedisBroker.Contract
import Tassis.RedisBroker.Hosted
import Tassis.Web.Order
import Tassis.Web.Endings
import Tassis.Service.Errands
import Tassis.Service.Locality
import Tassis.Service.World
import Tassis.Service.Returns
import Tassis.Service.Stranding
