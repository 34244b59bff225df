import SipGateway.App.Alone
import SipGateway.App.Config
import SipGateway.App.Cutting
import SipGateway.App.Gateway
import SipGateway.App.Locking
import SipGateway.App.Polling
import SipGateway.App.Steps
import SipGateway.App.Threads
import SipGateway.App.World
import SipGateway.Call.Ledger
import SipGateway.Call.Registry
import SipGateway.Call.RtpThreads
import SipGateway.Call.Session
import SipGateway.Call.Starting
import SipGateway.Infra.Conveyor
import SipGateway.Infra.Handoff
import SipGateway.Infra.Locks
import SipGateway.Infra.Machine
import SipGateway.Infra.Paths
import SipGateway.Infra.Pipe
import SipGateway.Infra.Ranks
import SipGateway.Infra.Riff
import SipGateway.Infra.Team
import SipGateway.Infra.Text
import SipGateway.Media.Clients
import SipGateway.Media.Frames
import SipGateway.Media.Framing
import SipGateway.Media.Reader
import SipGateway.Media.Recording
import SipGateway.Media.Sending
import SipGateway.Media.Shutdown
import SipGateway.Media.Stage
import SipGateway.Media.Wave
import SipGateway.Media.Wire
import SipGateway.Peers.AudioSocket
import SipGateway.Properties.Allocation
import SipGateway.Properties.Answers
import SipGateway.Properties.AudioSocket
import SipGateway.Properties.Bot
import SipGateway.Properties.Bridge
import SipGateway.Properties.CallRecording
import SipGateway.Properties.Callbacks
import SipGateway.Properties.Calls
import SipGateway.Properties.Capacity
import SipGateway.Properties.Codec
import SipGateway.Properties.Datagrams
import SipGateway.Properties.Deadlock
import SipGateway.Properties.Destination
import SipGateway.Properties.Downlink
import SipGateway.Properties.Echo
import SipGateway.Properties.EndToEnd
import SipGateway.Properties.Fidelity
import SipGateway.Properties.FinalResponses
import SipGateway.Properties.Folding
import SipGateway.Properties.Intruders
import SipGateway.Properties.Isolation
import SipGateway.Properties.LiveCalls
import SipGateway.Properties.Matching
import SipGateway.Properties.Mixer
import SipGateway.Properties.Negotiation
import SipGateway.Properties.OneCall
import SipGateway.Properties.OneStream
import SipGateway.Properties.Packets
import SipGateway.Properties.Playout
import SipGateway.Properties.Polling
import SipGateway.Properties.Pool
import SipGateway.Properties.Ports
import SipGateway.Properties.Readback
import SipGateway.Properties.Recording
import SipGateway.Properties.RecordingPaths
import SipGateway.Properties.Reordering
import SipGateway.Properties.Responses
import SipGateway.Properties.Routes
import SipGateway.Properties.RtpThreads
import SipGateway.Properties.Shutdown
import SipGateway.Properties.SocketLoop
import SipGateway.Properties.Sockets
import SipGateway.Properties.Stream
import SipGateway.Properties.Sweep
import SipGateway.Properties.Target
import SipGateway.Properties.Transactions
import SipGateway.Properties.Uplink
import SipGateway.Properties.WaveFiles
import SipGateway.Rtp.Header
import SipGateway.Rtp.Packet
import SipGateway.Rtp.Server
import SipGateway.Rtp.Sockets
import SipGateway.Sdp.Answer
import SipGateway.Sdp.Sections
import SipGateway.Sip.Folding
import SipGateway.Sip.Transaction
import SipGateway.Sip.Wire
import SipGateway.Util.Companding
