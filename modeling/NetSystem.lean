import NetSystem.Foundation.Memory
import NetSystem.Foundation.Loop
import NetSystem.Foundation.Transition
import NetSystem.Foundation.BoundedFifo
import NetSystem.Foundation.LittleEndian
import NetSystem.Foundation.KeyedMap
import NetSystem.Foundation.History
import NetSystem.Foundation.Scan
import NetSystem.Foundation.Occurrence
import NetSystem.Foundation.Pairing
import NetSystem.Foundation.Pieces
import NetSystem.Foundation.CString
import NetSystem.Foundation.Linearization
import NetSystem.Foundation.CircularBuffer
import NetSystem.Foundation.LinkedRing
import NetSystem.Foundation.BitSmear
import NetSystem.Base.BipBuf
import NetSystem.Base.BipBufRefinement
import NetSystem.Base.ForceReserve
import NetSystem.Base.FindStr
import NetSystem.Base.WakeupQueue
import NetSystem.Base.ReaderWriterQueue
import NetSystem.Base.QueueBlocks
import NetSystem.Base.QueueLayout
import NetSystem.Base.QueueKnowledge
import NetSystem.Base.QueueInterference
import NetSystem.Base.QueueConsumerSteps
import NetSystem.Base.QueueProducerSteps
import NetSystem.Base.QueueCounting
import NetSystem.Base.QueueLinearizability
import NetSystem.Base.QueueLifetime
import NetSystem.Base.QueueRuns
import NetSystem.Base.QueueProgress
import NetSystem.Base.PipedQueue
import NetSystem.Base.PipedQueueProgress
import NetSystem.Foundation.TruncatedText
import NetSystem.Base.Snprintf
import NetSystem.Base.SnprintfText
import NetSystem.Base.SnprintfReading
import NetSystem.Base.SnprintfRuns
import NetSystem.Base.SnprintfFields
import NetSystem.Base.SnprintfNumbers
import NetSystem.Base.ObjectPool
import NetSystem.Base.ObjectPoolRuns
import NetSystem.Packet.Layout
import NetSystem.Packet.Buffers
import NetSystem.Packet.Decode
import NetSystem.Packet.Pages
import NetSystem.Packet.PageDecoding
import NetSystem.Packet.FrameScan
import NetSystem.Packet.ReceiverTracking
import NetSystem.Packet.DecoderSafety
import NetSystem.Packet.ChunkIndependence
import NetSystem.Packet.Grammar
import NetSystem.Packet.Post
import NetSystem.Packet.RoundTrip
import NetSystem.Packet.PoolSharing
import NetSystem.Packet.SendPacket
import NetSystem.Packet.PostLimits
import NetSystem.Packet.DecodeErrors
import NetSystem.Packet.Alike
import NetSystem.Tcp.KjReadLoop
import NetSystem.Tcp.UvIsolatedConn
import NetSystem.Tcp.UvIsolatedInvariant
import NetSystem.Tcp.SessionIsolation
import NetSystem.Tcp.UvReentrancy
import NetSystem.Tcp.UvRequests
import NetSystem.Tcp.UpstreamView
import NetSystem.Tcp.UpstreamLink
import NetSystem.Tcp.UpstreamSteps
import NetSystem.Tcp.UvReconnecting
import NetSystem.Tcp.UvReadiness
import NetSystem.Tcp.UvReadPath
import NetSystem.Tcp.UvPost
import NetSystem.Tcp.ConnManager
import NetSystem.Tcp.ConnOwnership
import NetSystem.Tcp.ConnIds
import NetSystem.Tcp.ConnPlaces
import NetSystem.Tcp.UvShutdown
import NetSystem.Tcp.UvClients
import NetSystem.Tcp.UvClientSteps
import NetSystem.Tcp.UvListener
import NetSystem.Tcp.UvDownStreams
import NetSystem.Tcp.KjDownStreams
import NetSystem.Tcp.DownStreams
import NetSystem.Tcp.KjConn
import NetSystem.Tcp.KjLinkEvents
import NetSystem.Tcp.KjWorld
import NetSystem.Tcp.KjTraffic
import NetSystem.Tcp.KjView
import NetSystem.Tcp.KjSimulation
import NetSystem.Tcp.KjSteps
import NetSystem.Tcp.KjCounting
import NetSystem.Tcp.KjRegular
import NetSystem.Tcp.KjRelease
import NetSystem.Tcp.KjShutdown
import NetSystem.Tcp.KjLinkState
import NetSystem.Tcp.KjStopped
import NetSystem.Tcp.KjDelivery
import NetSystem.Lobby.AccountStateList
import NetSystem.Lobby.AccountMoves
import NetSystem.Lobby.AccountCalls
import NetSystem.Lobby.OnlineCount
import NetSystem.Lobby.UidCache
import NetSystem.Lobby.KeyCaches
import NetSystem.Lobby.ConflictLinks
import NetSystem.Lobby.KickSafety
import NetSystem.Tcp.UvHandles
import NetSystem.Tcp.UvUsable
import NetSystem.Tcp.BlockingCommit
import NetSystem.Http.MultiExec
import NetSystem.Base.SplitIp
import NetSystem.Lobby.ZoneManager
import NetSystem.Lobby.WhiteList
import NetSystem.Lobby.ZoneUpdates
import NetSystem.Lobby.FormattedFields
import NetSystem.Lobby.ZoneConnections
import NetSystem.Lobby.ZoneCleanup
import NetSystem.Lobby.KickLimit
import NetSystem.Lobby.ConnectionLoss
import NetSystem.Lobby.Registering
import NetSystem.Tcp.UvReopening
import NetSystem.Tcp.KjTasks
import NetSystem.Tcp.KjSettling
import NetSystem.Tcp.KjReopening
import NetSystem.Tcp.Reopening
import NetSystem.Base.HexText
import NetSystem.Base.Split
import NetSystem.Base.SimpleFormula
