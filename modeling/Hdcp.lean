import Hdcp.Packet.Format
import Hdcp.Packet.Codec
import Hdcp.Packet.RoundTrip
import Hdcp.Packet.Resync
import Hdcp.Base.Runs
import Hdcp.Transport.TcpReader
import Hdcp.Base.Stateful
import Hdcp.Transport.Framing
import Hdcp.Transport.ReaderSafety
import Hdcp.Base.TimeoutQueue
import Hdcp.Base.TwoIndex
import Hdcp.Master.Effects
import Hdcp.Master.Identifiers
import Hdcp.Master.SendFailure
import Hdcp.Master.TimerTable
import Hdcp.Master.Untouched
import Hdcp.Master.Lifecycle
import Hdcp.Master.ThreadSafety
import Hdcp.Base.EventSet
import Hdcp.Base.Statemachine
import Hdcp.Master.Uninterrupted
import Hdcp.Appli.Link
import Hdcp.Appli.Delivery
import Hdcp.Base.Memory
import Hdcp.Packet.Reads
import Hdcp.Packet.Acceptance
import Hdcp.Base.Checksum
import Hdcp.Packet.ErrorDetection
import Hdcp.Master.Changes
import Hdcp.Master.Settlement
import Hdcp.Master.Answers
import Hdcp.Slave.Changes
import Hdcp.Appli.SlaveEntries
import Hdcp.Appli.SlaveLife
import Hdcp.Appli.SlaveWatch
import Hdcp.Appli.SlaveEvents
import Hdcp.Appli.MasterEntries
import Hdcp.Appli.MasterLife
import Hdcp.Appli.MasterWatch
import Hdcp.Appli.MasterEvents
import Hdcp.Master.Ownership
import Hdcp.Appli.MasterSessions
import Hdcp.Appli.SlaveSessions
import Hdcp.Master.Transmissions
import Hdcp.Appli.Executions
import Hdcp.Base.Cuts
import Hdcp.Packet.Canonical
import Hdcp.Packet.Oversize
import Hdcp.Slave.DataBatches
import Hdcp.Master.KeepaliveTimers
import Hdcp.Master.KeepaliveTimeouts
import Hdcp.Master.DeadPeer
import Hdcp.Slave.KeepaliveTimeouts
import Hdcp.Appli.MasterAttempts
import Hdcp.Appli.SlaveIdentity
import Hdcp.Appli.MasterIdentity
import Hdcp.Appli.MasterErrors
import Hdcp.Appli.MasterCalls
import Hdcp.Appli.MasterConnect
import Hdcp.Appli.MasterSleep
import Hdcp.Master.Acks
import Hdcp.Base.Ledger
import Hdcp.Transport.UsbDevice
import Hdcp.Transport.UsbBuffers
import Hdcp.Transport.UsbErrors
import Hdcp.Transport.UsbWriter
import Hdcp.Transport.TcpWriter
import Hdcp.Transport.WriterSafety
import Hdcp.Transport.WriterLiveness
import Hdcp.Packet.Blocks
import Hdcp.Transport.Discards
import Hdcp.Transport.ServerSurvival
import Hdcp.Master.Statements
import Hdcp.Base.Renewal
import Hdcp.Master.KeepaliveRenewal
import Hdcp.Master.Undisturbed
import Hdcp.Master.CallbackLocks
import Hdcp.Appli.MasterThreads
import Hdcp.Base.Streams
import Hdcp.Appli.SlaveThreads
import Hdcp.Appli.Weave
import Hdcp.Appli.MasterActs
import Hdcp.Appli.MasterScripts
import Hdcp.Appli.MasterRests
import Hdcp.Master.Commandless
import Hdcp.Appli.MasterGreeting
import Hdcp.Master.Carried
import Hdcp.Appli.MasterSends
import Hdcp.Appli.MasterGreets
import Hdcp.Appli.SlaveScripts
import Hdcp.Appli.SlaveRests
import Hdcp.Appli.SlaveListens
import Hdcp.Appli.SlaveHears
import Hdcp.Appli.Greeting
import Hdcp.Appli.SlaveRefined
import Hdcp.Appli.MasterUndisturbed
import Hdcp.Appli.MasterRefined
import Hdcp.Appli.Refinement
import Hdcp.Appli.Flow
import Hdcp.Appli.SlaveCounts
import Hdcp.Appli.MasterCounts
import Hdcp.Appli.MasterRounds
import Hdcp.Appli.Agreement
import Hdcp.Transport.TcpConnection
import Hdcp.Appli.MasterDelivers
