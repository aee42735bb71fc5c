import Ctl.Base.Word
import Ctl.Base.Fill
import Ctl.Base.Chunks
import Ctl.Bundles.Changes
import Ctl.Proto.Layout
import Ctl.Proto.Extents
import Ctl.Proto.Tiling
import Ctl.Proto.Dividers
import Ctl.Daemon.BufferFlag
import Ctl.Daemon.LayoutEdit
import Ctl.Daemon.LayoutLaws
import Ctl.Core.Journal
import Ctl.Proto.History
import Ctl.Daemon.HistorySnapshot
import Ctl.Client.HistorySync
import Ctl.Avt.Line
import Ctl.Core.History
import Ctl.Base.Utf8
import Ctl.Daemon.TerminalState
import Ctl.Daemon.Checkpoint
import Ctl.Base.System
import Ctl.Base.Versioned
import Ctl.Base.Table
import Ctl.Core.Lease
import Ctl.Daemon.Registry
import Ctl.Daemon.Topology
import Ctl.Daemon.RegistryChange
import Ctl.Daemon.Delivery
import Ctl.Daemon.Attachments
import Ctl.Daemon.Manager
import Ctl.Daemon.Transitions
import Ctl.Daemon.Ownership
import Ctl.Daemon.Canvas
import Ctl.Daemon.Names
import Ctl.Task.Logs
import Ctl.Task.Follow
import Ctl.Task.Lifecycle
import Ctl.Daemon.Leases
import Ctl.Approval.Windows
import Ctl.Approval.Deadline
import Ctl.Approval.Revocation
import Ctl.Forward.Relay
import Ctl.Forward.Separation
import Ctl.Base.Guards
import Ctl.Store.Repository
import Ctl.Store.Snapshot
import Ctl.Store.Consistency
import Ctl.Base.Effects
import Ctl.Task.Interactive
import Ctl.Task.Requests
import Ctl.Task.Durability
import Ctl.Task.AtMostOnce
import Ctl.Forward.Ownership
import Ctl.Vpn.Leases
import Ctl.Keychain.Unchanged
import Ctl.Client.Agreement
import Ctl.Client.ChunkInvariance
import Ctl.Identity.Attempt
import Ctl.Proto.Framing
import Ctl.Proto.ResizeDivider
import Ctl.Presence.Liveness
import Ctl.Core.ObserverState
import Ctl.Daemon.FlowControl
import Ctl.Daemon.Generations
import Ctl.Daemon.Revisions
import Ctl.Daemon.Unrestored
import Ctl.Target.Lifecycle
import Ctl.Proto.LogicalLines
import Ctl.Daemon.HistoryText
import Ctl.Daemon.HistoryRevisions
import Ctl.Core.StyleText
import Ctl.Core.RowAnsi
import Ctl.Daemon.ShellReport
import Ctl.Daemon.RecordParser
import Ctl.Observability.Record
import Ctl.Observability.LogLine
import Ctl.Observability.RoundTrip
import Ctl.Observability.Storage
import Ctl.Observability.Retrieval
import Ctl.Observability.Appending
import Ctl.Base.Parts
import Ctl.Approval.SshTarget
import Ctl.Base.Spans
import Ctl.Approval.KnownHosts
import Ctl.Approval.Scope
import Ctl.Base.Trailing
import Ctl.Base.RecordFile
import Ctl.Base.StableSort
import Ctl.Base.Lines
import Ctl.Client.HistoryProjection
import Ctl.Client.CachedRows
import Ctl.Client.RowWindow
import Ctl.Client.Cache
import Ctl.Client.Replay
import Ctl.Client.Retention
import Ctl.Client.RowCodec
import Ctl.Client.Driver
import Ctl.Client.Cursor
import Ctl.Client.Transfer
import Ctl.Base.Utf16
import Ctl.Desktop.HistoryRows
import Ctl.Base.Shell
import Ctl.Ipc.ProxyCommand
import Ctl.Hosts.Target
import Ctl.Hosts.Route
import Ctl.Hosts.Expansion
import Ctl.Hosts.Resolution
import Ctl.Hosts.Resolver
import Ctl.Desktop.CacheWriter
import Ctl.Ipc.DaemonStartup
import Ctl.Desktop.DividerDrag
import Ctl.Desktop.ResizePump
import Ctl.Hosts.Catalog
import Ctl.Desktop.CommandLine
import Ctl.Desktop.ViewDividers
import Ctl.Hosts.DesktopRoute
import Ctl.Hosts.HostPattern
import Ctl.Proto.WaterFilling
