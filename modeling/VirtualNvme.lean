import VirtualNvme.RingBuffer.Index
import VirtualNvme.RingBuffer.Fifo
import VirtualNvme.RingBuffer.Walk
import VirtualNvme.RingBuffer.Phase
import VirtualNvme.RingBuffer.Trace
import VirtualNvme.RingBuffer.Tickets
import VirtualNvme.RingBuffer.Window
import VirtualNvme.RingBuffer.Producers
import VirtualNvme.Runs
import VirtualNvme.AdaptiveInterval
import VirtualNvme.References
import VirtualNvme.Scatter
import VirtualNvme.ShiftQueue
import VirtualNvme.WordBytes
import VirtualNvme.ByteSpace
import VirtualNvme.Ledger
import VirtualNvme.Tallies
import VirtualNvme.CasLoop
import VirtualNvme.Assignments
import VirtualNvme.Spec
import VirtualNvme.Driver.Context
import VirtualNvme.Driver.Queue
import VirtualNvme.Driver.UserForward
import VirtualNvme.Driver.Storage
import VirtualNvme.Driver.Prp
import VirtualNvme.Driver.IoCmd
import VirtualNvme.Driver.AdminCmd
import VirtualNvme.Driver.Doorbell
import VirtualNvme.Driver.Namespace
import VirtualNvme.Driver.Bar0
import VirtualNvme.Driver.CtrlDev
import VirtualNvme.Driver.Config
import VirtualNvme.Driver.Polling
import VirtualNvme.Driver.PcieConfig
import VirtualNvme.Driver.RegisterAccess
import VirtualNvme.Driver.Bus
import VirtualNvme.Driver.NamespaceIoctl
import VirtualNvme.Driver.Pdo
import VirtualNvme.Driver.BusDevice
import VirtualNvme.Driver.IoDeviceControl
import VirtualNvme.Driver.StorageObjects
import VirtualNvme.Driver.Debug
import VirtualNvme.Server.Context
import VirtualNvme.Server.AdminCommands
import VirtualNvme.Server.IoCommands
import VirtualNvme.Server.CommandEngine
import VirtualNvme.Server.MainLoop
import VirtualNvme.Server.DriverComm
import VirtualNvme.Server.Config
import VirtualNvme.Server.Backend
import VirtualNvme.Vnvmectl
import VirtualNvme.Verification.QueueChecks
import VirtualNvme.Verification.CompletionQueue
import VirtualNvme.Verification.SubmissionQueue
import VirtualNvme.Verification.CommandFrame
import VirtualNvme.Verification.ServerFrame
import VirtualNvme.Verification.NotifyRing
import VirtualNvme.Verification.Forwarding
import VirtualNvme.Verification.Abort
import VirtualNvme.Verification.Termination
import VirtualNvme.Verification.AdminPhase
import VirtualNvme.Verification.Batch
import VirtualNvme.Verification.IoCompletion
import VirtualNvme.Verification.StorageBounds
import VirtualNvme.Verification.MediaBounds
import VirtualNvme.Verification.MediaAccess
import VirtualNvme.Verification.QueueTables
import VirtualNvme.Verification.PollFrame
import VirtualNvme.Verification.QueueCalls
import VirtualNvme.Verification.QueueCreation
import VirtualNvme.Verification.QueueLayout
import VirtualNvme.Verification.EnableBit
import VirtualNvme.Verification.Isolation
import VirtualNvme.Verification.Reenable
import VirtualNvme.Verification.AdminSizes
import VirtualNvme.Verification.KernelLoops
import VirtualNvme.Verification.KernelMode
import VirtualNvme.Verification.Drain
import VirtualNvme.Verification.Heartbeat
import VirtualNvme.Verification.ServerConnect
import VirtualNvme.Verification.CrashRestart
import VirtualNvme.Verification.AdminPoll
import VirtualNvme.Verification.ServerIoQueues
import VirtualNvme.Verification.CompletionOverrun
import VirtualNvme.Verification.TwoHandlers
import VirtualNvme.Verification.Acceptance
import VirtualNvme.Verification.PrpTransfer
import VirtualNvme.Verification.ReferenceStore
import VirtualNvme.Verification.Configuration
import VirtualNvme.Verification.ReadOnlyRegisters
import VirtualNvme.Verification.ConfigSpace
import VirtualNvme.Verification.NamespaceTables
import VirtualNvme.Verification.ControllerList
import VirtualNvme.Verification.NamespaceLifecycle
import VirtualNvme.Verification.SharedBackend
import VirtualNvme.Verification.StorageOutcome
import VirtualNvme.Verification.StorageBackends
import VirtualNvme.Verification.ReadOnlyNamespace
import VirtualNvme.Verification.ServerBounds
import VirtualNvme.Verification.ServerTransfers
import VirtualNvme.Verification.ServerAnswers
import VirtualNvme.Verification.SqHead
import VirtualNvme.Verification.BackedNamespaces
import VirtualNvme.Verification.ZeroRange
import VirtualNvme.Verification.Deallocate
import VirtualNvme.Verification.PrpEntries
import VirtualNvme.Verification.PrpWindow
import VirtualNvme.Verification.PrpFaults
import VirtualNvme.Verification.ExactTransfers
import VirtualNvme.Verification.AsyncEvents
import VirtualNvme.Verification.ActiveNsList
import VirtualNvme.Verification.NamespaceScan
import VirtualNvme.Verification.QueueGrants
import VirtualNvme.Verification.LogPages
import VirtualNvme.Verification.RegisterBounds
import VirtualNvme.Verification.UserCompletions
import VirtualNvme.Verification.CommandCount
import VirtualNvme.Verification.PendingCommands
import VirtualNvme.Verification.PollingInterval
import VirtualNvme.Verification.SizeStrings
import VirtualNvme.Verification.KernelObjects
import VirtualNvme.Verification.BusRequests
import VirtualNvme.Verification.BusReports
import VirtualNvme.Verification.RefusedRequests
import VirtualNvme.Verification.WakeUp
import VirtualNvme.Verification.RingProducers
import VirtualNvme.Verification.PdoHardware
import VirtualNvme.Verification.StorageLeaks
import VirtualNvme.Verification.LatencyStats
import VirtualNvme.Verification.CommandLine
import VirtualNvme.Verification.ConfigFile
import VirtualNvme.Verification.StoredFile
