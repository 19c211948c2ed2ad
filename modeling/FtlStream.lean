import FtlStream.Packet
import FtlStream.Queue
import FtlStream.QueueHistory
import FtlStream.QueueRuns
import FtlStream.QueueAccounting
import FtlStream.Nalu
import FtlStream.Send
import FtlStream.NaluFraming
import FtlStream.NaluBounds
import FtlStream.SendPath
import FtlStream.Lifecycle
import FtlStream.LifecycleStop
import FtlStream.LifecycleSessions
import FtlStream.LifecycleTokens
import FtlStream.LifecycleSolo
import FtlStream.LifecycleOrder
