import ServiceBroker.Address
import ServiceBroker.Ascii
import ServiceBroker.Binary64
import ServiceBroker.Binary64.Shortest
import ServiceBroker.Bytes
import ServiceBroker.Cluster
import ServiceBroker.Config.Broker
import ServiceBroker.Config.Gateway
import ServiceBroker.Delivery.Dispatch
import ServiceBroker.Delivery.LiveChannels
import ServiceBroker.Descriptor
import ServiceBroker.Duration
import ServiceBroker.Gateway.ApiError
import ServiceBroker.Gateway.Identity
import ServiceBroker.Gateway.Route
import ServiceBroker.Gateway.Server
import ServiceBroker.Gateway.Upgrade
import ServiceBroker.Http.Message
import ServiceBroker.Http.Path
import ServiceBroker.Json.Error
import ServiceBroker.Json.Number
import ServiceBroker.Json.Printer
import ServiceBroker.Json.Reader
import ServiceBroker.Json.Record
import ServiceBroker.Json.Skip
import ServiceBroker.Json.Token
import ServiceBroker.Json.Value
import ServiceBroker.LogFilter
import ServiceBroker.Main
import ServiceBroker.MessageBus.Broadcast
import ServiceBroker.MessageBus.InMemory
import ServiceBroker.MessageBus.Transport
import ServiceBroker.Metrics
import ServiceBroker.Notification
import ServiceBroker.Proofs.Cluster.Lifetimes
import ServiceBroker.Proofs.Cluster.LiveGauge
import ServiceBroker.Proofs.Cluster.Nodes
import ServiceBroker.Proofs.Cluster.Operations
import ServiceBroker.Proofs.Cluster.Ownership
import ServiceBroker.Proofs.Cluster.Process
import ServiceBroker.Proofs.Cluster.Reachable
import ServiceBroker.Proofs.Cluster.ReachableTraffic
import ServiceBroker.Proofs.Cluster.Readers
import ServiceBroker.Proofs.Cluster.ReplicaTraffic
import ServiceBroker.Proofs.Cluster.RequestTimeouts
import ServiceBroker.Proofs.Cluster.Settling
import ServiceBroker.Proofs.Cluster.Starting
import ServiceBroker.Proofs.Cluster.Startup
import ServiceBroker.Proofs.Config.Sections
import ServiceBroker.Proofs.Config.Validation
import ServiceBroker.Proofs.Delivery.Aims
import ServiceBroker.Proofs.Delivery.Bookkeeping.Actions
import ServiceBroker.Proofs.Delivery.Bookkeeping.Pushes
import ServiceBroker.Proofs.Delivery.Bookkeeping.Readers
import ServiceBroker.Proofs.Delivery.Calls
import ServiceBroker.Proofs.Delivery.Channels.Histories
import ServiceBroker.Proofs.Delivery.Channels.Operations
import ServiceBroker.Proofs.Delivery.Channels.Queue
import ServiceBroker.Proofs.Delivery.Conservation
import ServiceBroker.Proofs.Delivery.Deadlines
import ServiceBroker.Proofs.Delivery.Deliveries
import ServiceBroker.Proofs.Delivery.Exactness
import ServiceBroker.Proofs.Delivery.Failures
import ServiceBroker.Proofs.Delivery.Independence.Pushes
import ServiceBroker.Proofs.Delivery.Independence.Renumbering
import ServiceBroker.Proofs.Delivery.Independence.Runs
import ServiceBroker.Proofs.Delivery.Ledger
import ServiceBroker.Proofs.Delivery.Provenance
import ServiceBroker.Proofs.Delivery.PushSteps
import ServiceBroker.Proofs.Delivery.Reports
import ServiceBroker.Proofs.Delivery.Superseding
import ServiceBroker.Proofs.Delivery.Traffic
import ServiceBroker.Proofs.Delivery.Uninterrupted
import ServiceBroker.Proofs.Delivery.Waiting.Booked
import ServiceBroker.Proofs.Delivery.Waiting.Lines
import ServiceBroker.Proofs.Delivery.Waiting.Traffic
import ServiceBroker.Proofs.Duration
import ServiceBroker.Proofs.Gateway.Confinement
import ServiceBroker.Proofs.Gateway.Frames
import ServiceBroker.Proofs.Gateway.Identity
import ServiceBroker.Proofs.Gateway.PushAnswers
import ServiceBroker.Proofs.Gateway.Registration
import ServiceBroker.Proofs.Gateway.Requests
import ServiceBroker.Proofs.Gateway.SubscriptionAnswers
import ServiceBroker.Proofs.Json.Canonical
import ServiceBroker.Proofs.Json.Objects
import ServiceBroker.Proofs.Json.RealNumbers
import ServiceBroker.Proofs.Json.Records
import ServiceBroker.Proofs.Json.Reread
import ServiceBroker.Proofs.Json.Text
import ServiceBroker.Proofs.Json.Utf8
import ServiceBroker.Proofs.Json.WholeNumbers
import ServiceBroker.Proofs.MessageBus.Broadcast
import ServiceBroker.Proofs.MessageBus.History
import ServiceBroker.Proofs.MessageBus.InMemory
import ServiceBroker.Proofs.MessageBus.Subscriptions
import ServiceBroker.Proofs.MessageBus.Unread
import ServiceBroker.Proofs.Metrics
import ServiceBroker.Proofs.Notification
import ServiceBroker.Proofs.Registry
import ServiceBroker.Proofs.Registry.Histories
import ServiceBroker.Proofs.Registry.Mutations
import ServiceBroker.Proofs.RegistryEvent
import ServiceBroker.Proofs.Replication.Convergence
import ServiceBroker.Proofs.Replication.Counts
import ServiceBroker.Proofs.Replication.Digested
import ServiceBroker.Proofs.Replication.Journal
import ServiceBroker.Proofs.Replication.LoopSteps
import ServiceBroker.Proofs.Replication.OneLoop.Advance
import ServiceBroker.Proofs.Replication.OneLoop.BusSteps
import ServiceBroker.Proofs.Replication.OneLoop.Invariant
import ServiceBroker.Proofs.Replication.OneLoop.Passing
import ServiceBroker.Proofs.Replication.OneLoop.Raised
import ServiceBroker.Proofs.Replication.Run
import ServiceBroker.Proofs.Replication.Synchronizer
import ServiceBroker.Proofs.Replication.Writers
import ServiceBroker.Proofs.SearchKey
import ServiceBroker.Proofs.Service
import ServiceBroker.Proofs.Subscription
import ServiceBroker.Proofs.SubscriptionIndex.Admission
import ServiceBroker.Proofs.SubscriptionIndex.Batches
import ServiceBroker.Proofs.SubscriptionIndex.Changes
import ServiceBroker.Proofs.SubscriptionIndex.Entries
import ServiceBroker.Proofs.SubscriptionIndex.Invariant
import ServiceBroker.Proofs.SubscriptionIndex.Operations
import ServiceBroker.Proofs.SubscriptionIndex.Privacy
import ServiceBroker.Proofs.SubscriptionIndex.ReadBack
import ServiceBroker.Proofs.SubscriptionIndex.Refinement
import ServiceBroker.Proofs.SubscriptionIndex.Writes
import ServiceBroker.Proofs.Telemetry
import ServiceBroker.Proofs.Text.Order
import ServiceBroker.Proofs.Urn
import ServiceBroker.Proofs.WebSocket.Protocol
import ServiceBroker.Proofs.WebSocket.SessionSteps
import ServiceBroker.Proofs.WebSocket.Sessions
import ServiceBroker.Proofs.WebSocket.Sockets
import ServiceBroker.Proofs.WebSocket.World
import ServiceBroker.Registry
import ServiceBroker.RegistryEvent
import ServiceBroker.Replication.ConsumeLoop
import ServiceBroker.Replication.Group
import ServiceBroker.Replication.Synchronizer
import ServiceBroker.SearchKey
import ServiceBroker.Service
import ServiceBroker.Startup
import ServiceBroker.Subscription
import ServiceBroker.SubscriptionIndex
import ServiceBroker.Telemetry
import ServiceBroker.Text
import ServiceBroker.Text.Alphanumeric
import ServiceBroker.Urn
import ServiceBroker.WebSocket.Frame
import ServiceBroker.WebSocket.Inbox
import ServiceBroker.WebSocket.Session
