import GraphX.TcpReceive
import GraphX.ObservationTcp
import GraphX.Replay
import GraphX.Vita.Emission
import GraphX.Vita.HostStream
import GraphX.HistoryStore
import GraphX.Config.Laboratory
import GraphX.Config.Listeners
import GraphX.Config.Admitted
import GraphX.ControlReplay
import GraphX.Operations
import GraphX.InProcessChannel
import GraphX.Wireshark.Dissector
import GraphX.ControlNonces
import GraphX.NodeConsole
import GraphX.CredentialReader
import GraphX.TlsRotation
import GraphX.CleanupSafety
import GraphX.ScenarioRouteSafety
import GraphX.ConsoleSessions
import GraphX.UdpSequence
import GraphX.Vita.Positions
import GraphX.CredentialOverlap
import GraphX.HistoryPages
import GraphX.SharedMemoryProgress
import GraphX.Vita.RecorderFilter
