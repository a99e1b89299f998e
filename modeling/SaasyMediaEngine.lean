import SaasyMediaEngine.Transition.Machine
import SaasyMediaEngine.Transition.Tenure
import SaasyMediaEngine.Listening.Pauses
import SaasyMediaEngine.Listening.SpeechEnd
import SaasyMediaEngine.Listening.Tracking
import SaasyMediaEngine.Listening.Backchannel
import SaasyMediaEngine.Listening.SilenceTimeout
import SaasyMediaEngine.Speaking.CustomAudioDevice
import SaasyMediaEngine.Speaking.PlaybackMachine
import SaasyMediaEngine.Speaking.Completion
import SaasyMediaEngine.Speaking.Flush
import SaasyMediaEngine.Speaking.Drain
import SaasyMediaEngine.Speaking.Playout
import SaasyMediaEngine.Service.SessionTable
import SaasyMediaEngine.Service.Lifetime
import SaasyMediaEngine.Service.Slots
import SaasyMediaEngine.Listening.Forwarding
import SaasyMediaEngine.Listening.Gate
import SaasyMediaEngine.Listening.SharedVad
import SaasyMediaEngine.Codec.Naming
import SaasyMediaEngine.Wire.Dtls
import SaasyMediaEngine.Wire.Fingerprints
import SaasyMediaEngine.Wire.RtpCapabilities
import SaasyMediaEngine.Wire.RtpParameters
import SaasyMediaEngine.Wire.Respelling
import SaasyMediaEngine.Wire.Numbers
import SaasyMediaEngine.Control.Outgoing
import SaasyMediaEngine.Control.Commands
import SaasyMediaEngine.Control.Answers
import SaasyMediaEngine.Control.Stopping
import SaasyMediaEngine.Control.PendingRequests
import SaasyMediaEngine.Control.Matching
import SaasyMediaEngine.Control.CommandRuns
import SaasyMediaEngine.Control.DeviceLife
import SaasyMediaEngine.Listening.Wiring
import SaasyMediaEngine.Listening.Teardown
import SaasyMediaEngine.Listening.MediaPath
import SaasyMediaEngine.Listening.Provenance
import SaasyMediaEngine.Listening.Recording
import SaasyMediaEngine.Service.Streams
import SaasyMediaEngine.Listening.Hysteresis
import SaasyMediaEngine.Speaking.Fade
import SaasyMediaEngine.Speaking.MediaStream
import SaasyMediaEngine.Listening.Attachment
import SaasyMediaEngine.Service.HalfBuilt
import SaasyMediaEngine.Listening.TurnAudio
import SaasyMediaEngine.Listening.SmartTurnDetector
import SaasyMediaEngine.Listening.TurnWindow
import SaasyMediaEngine.Listening.VadChunks
import SaasyMediaEngine.Listening.QueueConsumers
import SaasyMediaEngine.Service.Wakeups
import SaasyMediaEngine.Service.Deliveries
import SaasyMediaEngine.Listening.Reports
import SaasyMediaEngine.Listening.Payloads
import SaasyMediaEngine.Wire.Settling
import SaasyMediaEngine.Control.RemovalEnds
import SaasyMediaEngine.Speaking.Release
import SaasyMediaEngine.Speaking.Announcements
import SaasyMediaEngine.Service.DeviceThread
import SaasyMediaEngine.Control.Loading
import SaasyMediaEngine.Service.Process
