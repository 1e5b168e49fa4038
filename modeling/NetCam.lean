import NetCam.Semantics.Trace
import NetCam.Semantics.Synchrony
import NetCam.Semantics.Unwinding
import NetCam.Semantics.Memory
import NetCam.Semantics.Decimal
import NetCam.Semantics.Condition
import NetCam.Semantics.Truncation
import NetCam.Client.Monitor
import NetCam.Client.Calls
import NetCam.Client.SyncTracking
import NetCam.Client.Mirror
import NetCam.Client.SyncLoss
import NetCam.Client.SyncBookkeeping
import NetCam.Client.ClockTranslation
import NetCam.Client.ModeArbitration
import NetCam.Client.Input
import NetCam.Client.PictureBuffers
import NetCam.Client.DisplayMonitor
import NetCam.Client.Pacing
import NetCam.Client.DelayAverage
import NetCam.Client.DelayLabels
import NetCam.Client.Display
import NetCam.Client.PictureOrder
import NetCam.Client.Waits
import NetCam.Camera.Packet
import NetCam.Camera.WriteN
import NetCam.Camera.Monitor
import NetCam.Camera.Server
import NetCam.Camera.OversizedFrames
import NetCam.Camera.HandOver
import NetCam.Camera.Captures
import NetCam.Camera.Disconnect
import NetCam.Camera.WakeUps
import NetCam.Camera.NextClient
import NetCam.Camera.Connections
import NetCam.Camera.Descriptors
import NetCam.Camera.ModeHistory
import NetCam.Motion.Server
import NetCam.Motion.Notifications
import NetCam.Motion.RequestBounds
import NetCam.Motion.ResponseText
import NetCam.Network.NetMonitor
import NetCam.Network.Waits
import NetCam.Network.InputStream
import NetCam.Network.PicturePack
import NetCam.Network.PictureReciever
import NetCam.Network.Reassembly
import NetCam.Network.Encoding
import NetCam.Network.Pipeline
import NetCam.Network.ClientConnectionThread
import NetCam.Network.ModeSender
import NetCam.Network.ModeChannel
import NetCam.Network.ModeAgreement
import NetCam.Network.MotionPack
import NetCam.Network.Program
import NetCam.Network.Receivers
import NetCam.Network.Senders
import NetCam.Network.MotionResponse
import NetCam.Network.MotionEvents
import NetCam.Network.Group
import NetCam.Network.EndOfStream
import NetCam.Network.MotionReassembly
import NetCam.Network.Turns
import NetCam.Network.PictureHeaders
import NetCam.Network.StaleFailure
import NetCam.Network.Shutdown
import NetCam.Network.MotionExceptions
import NetCam.Network.MotionAnswers
import NetCam.Semantics.Termination
import NetCam.Motion.Shutdown
import NetCam.Camera.Supervision
import NetCam.Camera.FakeCapture
import NetCam.Client.DelayHistory
import NetCam.Network.Assembly
import NetCam.Network.BothCameras
import NetCam.Network.Engagement
import NetCam.Network.Feed
import NetCam.Network.Serving
import NetCam.Network.Alignment
import NetCam.Network.Lanes
import NetCam.Network.Reconnects
