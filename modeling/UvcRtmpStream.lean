import UvcRtmpStream.Foundations.Runs
import UvcRtmpStream.Foundations.BigEndian
import UvcRtmpStream.Foundations.Framing
import UvcRtmpStream.Foundations.SortedWindow
import UvcRtmpStream.Foundations.FileStore
import UvcRtmpStream.Foundations.Grid
import UvcRtmpStream.Foundations.Programs
import UvcRtmpStream.Foundations.Lists
import UvcRtmpStream.Foundations.Answers
import UvcRtmpStream.Foundations.Assembly
import UvcRtmpStream.Foundations.LittleEndian
import UvcRtmpStream.Foundations.BlockScan
import UvcRtmpStream.Foundations.Json
import UvcRtmpStream.Foundations.RowCopy
import UvcRtmpStream.Platform.Media
import UvcRtmpStream.Platform.MediaMuxer
import UvcRtmpStream.Replay.SegmentFormat
import UvcRtmpStream.Replay.ReplayBuffer
import UvcRtmpStream.Replay.ReplayBufferSpec
import UvcRtmpStream.Replay.Ledger
import UvcRtmpStream.Replay.RoundTrip
import UvcRtmpStream.Replay.Retention
import UvcRtmpStream.Replay.Freshness
import UvcRtmpStream.Replay.DamagedSegments
import UvcRtmpStream.Replay.AppendFailures
import UvcRtmpStream.Replay.DiskUse
import UvcRtmpStream.Replay.SegmentSpan
import UvcRtmpStream.Replay.SaveOutcome
import UvcRtmpStream.Replay.ClipOrder
import UvcRtmpStream.Replay.FallbackSelection
import UvcRtmpStream.Recorder.MainActivity
import UvcRtmpStream.Recorder.ActivitySpec
import UvcRtmpStream.Recorder.ReplayWindow
import UvcRtmpStream.Recorder.PreviewSurface
import UvcRtmpStream.Recorder.CameraOwnership
import UvcRtmpStream.Recorder.ClipFormat
import UvcRtmpStream.Recorder.MuxerRace
import UvcRtmpStream.Recorder.RecordingExactness
import UvcRtmpStream.Recorder.ReplayOffer
import UvcRtmpStream.Recorder.CaptureSessions
import UvcRtmpStream.Recorder.ActiveEncoder
import UvcRtmpStream.Streaming.Devices
import UvcRtmpStream.Streaming.USBBase
import UvcRtmpStream.Streaming.USBBaseSpec
import UvcRtmpStream.Streaming.MuxerProtocol
import UvcRtmpStream.Streaming.StreamService
import UvcRtmpStream.Streaming.StreamServiceSpec
import UvcRtmpStream.Streaming.RecordingOwnership
import UvcRtmpStream.Streaming.EncoderLifecycle
import UvcRtmpStream.Streaming.Endpoint
import UvcRtmpStream.Streaming.ReplaySink
import UvcRtmpStream.Streaming.RecordingContent
import UvcRtmpStream.Streaming.CameraMoves
import UvcRtmpStream.Streaming.CameraLifetime
import UvcRtmpStream.Streaming.ReplayClips
import UvcRtmpStream.Streaming.SavedClips
import UvcRtmpStream.Streaming.StopRecord
import UvcRtmpStream.Streaming.PreviewFlag
import UvcRtmpStream.Streaming.FailedStart
import UvcRtmpStream.Streaming.GlTrace
import UvcRtmpStream.Streaming.GlProtocol
import UvcRtmpStream.Streaming.ReplayRecovery
import UvcRtmpStream.Streaming.StartCalls
import UvcRtmpStream.Streaming.FailedRecordStart
import UvcRtmpStream.Streaming.SharedEncoding
import UvcRtmpStream.Camera.Payload
import UvcRtmpStream.Camera.Reassembly
import UvcRtmpStream.Camera.Transmission
import UvcRtmpStream.Camera.Isochronous
import UvcRtmpStream.Camera.UserCaller
import UvcRtmpStream.Camera.TransferPool
import UvcRtmpStream.Camera.PreviewThreads
import UvcRtmpStream.Camera.FrameCustody
import UvcRtmpStream.Camera.PreviewShutdown
import UvcRtmpStream.Camera.FrameOrder
import UvcRtmpStream.Camera.Descriptors
import UvcRtmpStream.Camera.DescriptorFormat
import UvcRtmpStream.Camera.DescriptorRoundTrip
import UvcRtmpStream.Camera.DeviceRoundTrip
import UvcRtmpStream.Camera.DescriptorSafety
import UvcRtmpStream.Camera.StreamControl
import UvcRtmpStream.Camera.Negotiation
import UvcRtmpStream.Camera.NegotiationTrace
import UvcRtmpStream.Camera.StreamStart
import UvcRtmpStream.Camera.SupportedSizes
import UvcRtmpStream.Camera.SizeSelection
import UvcRtmpStream.Camera.UsbMonitor
import UvcRtmpStream.Camera.UsbChecks
import UvcRtmpStream.Camera.UsbConnections
import UvcRtmpStream.Camera.StopSignals
import UvcRtmpStream.Camera.FrameCopies
