import Microps.Lib.Buffer
import Microps.Lib.ByteOrder
import Microps.Lib.OnesComplement
import Microps.Lib.SerialArith
import Microps.Lib.Transition
import Microps.Lib.CString
import Microps.Lib.FirstMax
import Microps.Spec.Rfc793
import Microps.Model.Util
import Microps.Model.Queue
import Microps.Model.Sched
import Microps.Model.Ip
import Microps.Model.Tcp.Pcb
import Microps.Model.Tcp.Retransmit
import Microps.Model.Tcp.Segment
import Microps.Model.Tcp.User
import Microps.Model.Tcp.System
import Microps.Model.Tcp.Wire
import Microps.Model.Udp
import Microps.Model.Udp.Wire
import Microps.Model.Udp.System
import Microps.Model.Arp
import Microps.Model.Sock
import Microps.Model.Text
import Microps.Model.Route
import Microps.Model.Net
import Microps.Model.Icmp
import Microps.Model.Ether
import Microps.Model.IpOutput
import Microps.Model.Driver
import Microps.Model.Intr
import Microps.Model.Stack
import Microps.Analysis.IpRoundTrip
import Microps.Analysis.SeqCompare
import Microps.Analysis.Retransmit
import Microps.Analysis.ReceiveStream
import Microps.Analysis.Lifecycle
import Microps.Analysis.Frame
import Microps.Analysis.StateDiagram
import Microps.Analysis.Sockets
import Microps.Analysis.SendSequence
import Microps.Analysis.Checksum
import Microps.Analysis.TcpWire
import Microps.Analysis.Demux
import Microps.Analysis.UdpDelivery
import Microps.Analysis.ArpCache
import Microps.Analysis.InternetChecksum
import Microps.Analysis.Queue
import Microps.Analysis.TextRoundTrip
import Microps.Analysis.Route
import Microps.Analysis.NetInput
import Microps.Analysis.Icmp
import Microps.Analysis.Link
import Microps.Analysis.IpOutput
import Microps.Analysis.Timers
import Microps.Analysis.Intr
import Microps.Analysis.Stack
import Microps.Analysis.TapLink
