import MultiDAQ.Server.Verify.Rejection
import MultiDAQ.Server.Verify.Planes
import MultiDAQ.Server.Verify.Finalization
import MultiDAQ.Server.Verify.Stranding
import MultiDAQ.Server.Verify.Agreement
import MultiDAQ.Server.Verify.Liveness
import MultiDAQ.Server.Verify.ConfigurationResult
import MultiDAQ.Receiver.Verify.Attribution
import MultiDAQ.Receiver.Verify.Output
import MultiDAQ.Receiver.Verify.OpenAck
import MultiDAQ.Receiver.Verify.DelayedClose
import MultiDAQ.Receiver.Verify.Dispatch
import MultiDAQ.Receiver.Verify.Streams
import MultiDAQ.Receiver.Verify.MetadataRoundTrip
import MultiDAQ.Client.Verify.FixedBad
import MultiDAQ.Client.Verify.SafeState
import MultiDAQ.Client.Verify.Moves
import MultiDAQ.Common.Verify.ReplyHandler
import MultiDAQ.Common.Verify.MessageHandler
import MultiDAQ.Server.Verify.MacIdRegistry
import MultiDAQ.Server.Verify.Announcements
import MultiDAQ.Client.Verify.PendingChecks
import MultiDAQ.Client.Verify.SafeStateThread
import MultiDAQ.Client.Verify.PlaneHandshake
import MultiDAQ.Client.Verify.Register39
import MultiDAQ.Client.Verify.RcService
import MultiDAQ.Client.Verify.Recovery
import MultiDAQ.Client.Verify.SafetyCheck
import MultiDAQ.Client.Verify.EvService
import MultiDAQ.Client.Verify.MonitorOnly
import MultiDAQ.Client.Verify.MainService
import MultiDAQ.Server.Verify.AcquisitionOrchestrator
import MultiDAQ.Server.Verify.TtpScan
import MultiDAQ.Server.Verify.MacIndex
import MultiDAQ.Server.Verify.PartialConfiguration
import MultiDAQ.Server.Verify.JsonParser
import MultiDAQ.Server.Verify.Calibration
import MultiDAQ.Server.Verify.ChannelNotation
import MultiDAQ.Server.Verify.ClientFolders
import MultiDAQ.Receiver.Verify.ProducerAck
import MultiDAQ.Client.Verify.SampleMailbox
import MultiDAQ.Client.Verify.PmtSerial
import MultiDAQ.Client.Verify.FebService
import MultiDAQ.Receiver.Verify.Layout
import MultiDAQ.Receiver.Verify.ChunkPaths
import MultiDAQ.Receiver.Verify.BufferBound
import MultiDAQ.Client.Verify.AcqRegisters
import MultiDAQ.Server.Verify.FlushClient
import MultiDAQ.Server.Verify.HandshakeOrder
import MultiDAQ.Server.Verify.DetectorIds
import MultiDAQ.Server.Verify.LateHello
import MultiDAQ.Server.Verify.DeliveryRate
import MultiDAQ.Server.Verify.SessionAgreement
import MultiDAQ.Server.Verify.LostSession
import MultiDAQ.Server.Verify.ReconcileRequests
import MultiDAQ.Server.Verify.TimeSyncBound
import MultiDAQ.Server.Verify.MetadataHistory
import MultiDAQ.Server.Verify.StreamDrain
import MultiDAQ.Receiver.Verify.WorkerQueue
import MultiDAQ.Receiver.Verify.NodeTable
import MultiDAQ.Server.Verify.TimeSyncSchedule
import MultiDAQ.Server.Verify.AcquisitionMetrics
import MultiDAQ.Server.Verify.TriggerConfiguration
