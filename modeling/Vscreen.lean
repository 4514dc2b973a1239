import Vscreen.LockReclaim
import Vscreen.LockWaiting
import Vscreen.H264RoundTrip
import Vscreen.Vp9RoundTrip
import Vscreen.RtspInvariant
import Vscreen.RtspDescribe
import Vscreen.RtspAgreement
import Vscreen.RtspPlay
import Vscreen.RtspSilence
import Vscreen.RtspPortPairs
import Vscreen.RtspChannels
import Vscreen.RtspBoundaries
import Vscreen.RtpNumbering
import Vscreen.RtpClock
import Vscreen.RtspTimeline
import Vscreen.CdpCorrelation
import Vscreen.CdpReconnect
import Vscreen.ProxyAnswers
import Vscreen.ActionMemory
import Vscreen.InstanceLimit
import Vscreen.InstanceDeletion
import Vscreen.VideoKeyframes
import Vscreen.VideoBitrate
import Vscreen.IceCandidates
import Vscreen.ScrapeTabs
import Vscreen.LockPromotion
import Vscreen.LockRequire
import Vscreen.LockRequireRun
import Vscreen.LockExpiry
import Vscreen.LockGhosts
import Vscreen.LockUnregister
import Vscreen.PageIds
import Vscreen.PagePersistence
import Vscreen.PageRendering
import Vscreen.RtspPanics
import Vscreen.RtspOverflow
import Vscreen.RtpPacketSizes
import Vscreen.RtpReports
import Vscreen.RtcpReceiver
import Vscreen.CdpFrameAcks
import Vscreen.CdpCapture
import Vscreen.CdpMouse
import Vscreen.CdpKeyboard
import Vscreen.AudioStreams
import Vscreen.PageText
import Vscreen.ScreenshotWatcher
import Vscreen.MediaArithmetic
import Vscreen.VisionFast
import Vscreen.CdpBackoff
import Vscreen.LockReap
import Vscreen.MouseDrag
import Vscreen.ScrapeSections
import Vscreen.ScreenshotHash
import Vscreen.FrameSearch
import Vscreen.ScriptLiterals
import Vscreen.BitrateLoop
import Vscreen.InputRelay
import Vscreen.SignalingSession
import Vscreen.NetworkIdle
import Vscreen.LiveViewer
import Vscreen.ConsoleCapture
import Vscreen.ViewerToken
import Vscreen.ProcessTree
import Vscreen.Broadcast
import Vscreen.PeerVideo
import Vscreen.DevEndpoint
import Vscreen.ViewerReconnect
