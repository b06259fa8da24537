import Kesharon.Framework.Machine
import Kesharon.Framework.Fifo
import Kesharon.Framework.SyncChannel
import Kesharon.Framework.Sql
import Kesharon.Domain.Project
import Kesharon.Domain.Task
import Kesharon.Protocol.Message
import Kesharon.Application.OpenProject
import Kesharon.Daemon.SessionMachine
import Kesharon.Daemon.Operations
import Kesharon.Daemon.Idempotency
import Kesharon.Daemon.Replica
import Kesharon.Daemon.Lifecycle
import Kesharon.Daemon.Delivery
import Kesharon.Daemon.Cancellation
import Kesharon.Daemon.CancelOrigin
import Kesharon.Daemon.TaskStorage
import Kesharon.Daemon.StoreHistory
import Kesharon.Daemon.ReadFailures
import Kesharon.Daemon.ActiveTask
import Kesharon.Framework.BigEndian
import Kesharon.Framework.Blocks
import Kesharon.Ipc.Stream
import Kesharon.Protocol.Frame
import Kesharon.Host.Client
import Kesharon.Host.Channel
import Kesharon.Server.Authentication
import Kesharon.Host.Transport
import Kesharon.Host.FrameRead
import Kesharon.Host.Alignment
import Kesharon.Server.Subscription
import Kesharon.Server.Silence
import Kesharon.Host.Attempt
import Kesharon.EventStream.Parties
import Kesharon.EventStream.Closed
import Kesharon.EventStream.Supersedence
import Kesharon.Protocol.Codec
import Kesharon.Bridge.Agreement
import Kesharon.Server.Oversize
import Kesharon.Framework.Hex
import Kesharon.Protocol.TokenText
import Kesharon.Host.Launch
import Kesharon.Domain.Approval
import Kesharon.Daemon.CheckpointStorage
import Kesharon.Daemon.SaveAtomicity
import Kesharon.Daemon.Visible
import Kesharon.Workspace.Reducer
import Kesharon.Workspace.Tracking
import Kesharon.Workspace.Window
import Kesharon.Workspace.LateReplies
import Kesharon.Workspace.CancelOpening
import Kesharon.EventStream.Silenced
import Kesharon.Server.Subscribers
import Kesharon.Server.Exchange
import Kesharon.Framework.Retention
import Kesharon.Framework.Shuffle
import Kesharon.Daemon.Books
import Kesharon.Daemon.FinishedRequests
import Kesharon.Daemon.FailedOpen
import Kesharon.Daemon.BudgetStorage
import Kesharon.Workspace.ReplyOrder
import Kesharon.Host.Backoff
import Kesharon.Host.StreamIdentity
import Kesharon.Host.NextSequence
import Kesharon.Host.Misread
import Kesharon.Host.Supervision
import Kesharon.EventStream.Window
import Kesharon.Daemon.Sources
import Kesharon.Daemon.OpenOutcomes
import Kesharon.Server.Deadlines
import Kesharon.Workspace.Simulation
import Kesharon.Daemon.Progress
