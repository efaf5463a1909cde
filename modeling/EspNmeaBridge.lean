import EspNmeaBridge.Lib.Delimited
import EspNmeaBridge.UartNmea.Framing
import EspNmeaBridge.UartNmea.FrameBuffer
import EspNmeaBridge.NmeaBridge.Refinement
import EspNmeaBridge.NmeaBridge.DropCount
import EspNmeaBridge.NmeaBridge.Accounting
import EspNmeaBridge.Lib.Transitions
import EspNmeaBridge.Pipeline.WholeLines
import EspNmeaBridge.Pipeline.ReaderAccounts
import EspNmeaBridge.UartNmea.Lines
import EspNmeaBridge.OtaUpdate.Committed
import EspNmeaBridge.BridgeConfig.SurvivesReboot
import EspNmeaBridge.BridgeConfig.AlwaysValid
import EspNmeaBridge.AisMmsiFilter.Sequence
import EspNmeaBridge.WebApp.RejectedPost
import EspNmeaBridge.WebApp.SubmittedFields
import EspNmeaBridge.Lib.WrappingClock
import EspNmeaBridge.StatusLedPolicy
import EspNmeaBridge.StatusLedPolicy.RecentHistory
import EspNmeaBridge.StatusLed
import EspNmeaBridge.StatusLed.Backoff
import EspNmeaBridge.WebApp.HttpResponse
import EspNmeaBridge.WebApp.OtaUpload
import EspNmeaBridge.BridgeConfig.CompleteReset
import EspNmeaBridge.BridgeConfig.ResetRetries
import EspNmeaBridge.TcpNmeaClient
import EspNmeaBridge.TcpNmeaClient.StaleTarget
import EspNmeaBridge.WifiManager.StaRetry
import EspNmeaBridge.WebApp.ConfigJson
import EspNmeaBridge.WebApp.PskSecrecy
import EspNmeaBridge.TcpNmeaServer.SlotReuse
import EspNmeaBridge.LiveSettings
import EspNmeaBridge.Lib.Pattern
import EspNmeaBridge.WebApp.HttpHead
import EspNmeaBridge.BridgeTelemetry
import EspNmeaBridge.WebApp.StatusJson
import EspNmeaBridge.WebApp.HandleClient
import EspNmeaBridge.WebApp.SplitIndependence
import EspNmeaBridge.AisMmsiFilter.Armour
import EspNmeaBridge.AisMmsiFilter.Multipart
import EspNmeaBridge.AisMmsiFilter.SequenceState
import EspNmeaBridge.BridgeConfig.RebootNotice
import EspNmeaBridge.BridgeConfig.RoundTrip
import EspNmeaBridge.BridgeConfig.FailedLoad
import EspNmeaBridge.Lib.Custody
import EspNmeaBridge.Lib.OpenLedger
import EspNmeaBridge.OtaUpdate.VisibleOutcome
import EspNmeaBridge.Pipeline.SinkCustody
import EspNmeaBridge.TcpNmeaClient.NoMissedWake
import EspNmeaBridge.TcpNmeaServer.FdCustody
import EspNmeaBridge.TcpSessions
import EspNmeaBridge.TcpSessions.Resources
import EspNmeaBridge.WebApp.SendAll
import EspNmeaBridge.BridgeConfig.EmbeddedNul
import EspNmeaBridge.WebApp.CheckedPost
import EspNmeaBridge.OtaUpdate.AcceptedSize
import EspNmeaBridge.BridgeConfig.ExactStrings
import EspNmeaBridge.Lib.CharClass
import EspNmeaBridge.WebApp.AppJs
import EspNmeaBridge.Lib.ByteMemory
import EspNmeaBridge.WebApp.RequestMemory
import EspNmeaBridge.WebApp.RequestBounds
import EspNmeaBridge.WebApp.HeadGrammar
import EspNmeaBridge.BridgeTelemetry.RecentFrames
import EspNmeaBridge.Lib.Json
import EspNmeaBridge.WebApp.JsonEscape
import EspNmeaBridge.WebApp.FaithfulJson
import EspNmeaBridge.BridgeTelemetry.NeverIdle
import EspNmeaBridge.Lib.Lossy
import EspNmeaBridge.Lib.HeadedMessage
import EspNmeaBridge.Pipeline.OwnMessages
import EspNmeaBridge.Pipeline.CountedLosses
import EspNmeaBridge.Pipeline.Drains
import EspNmeaBridge.WebApp.OtaServer
import EspNmeaBridge.WebApp.FaithfulStatus
import EspNmeaBridge.WebApp.FramedResponses
import EspNmeaBridge.WebApp.PageAgrees
import EspNmeaBridge.WebApp.UneditedForms
import EspNmeaBridge.WebApp.AcrossReboots
