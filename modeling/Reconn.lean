import Reconn.Iphoned.Bounds
import Reconn.Iphoned.DaemonStop
import Reconn.Iphoned.MonitorStop
import Reconn.Iphoned.Presence
import Reconn.Iphoned.Transmit
import Reconn.Library.TransitionRuns
import Reconn.Client.ClientCount
import Reconn.Client.ControlQueue
import Reconn.Client.Driving
import Reconn.Client.Release
import Reconn.Client.Resign
import Reconn.Client.InsertedMaster
import Reconn.Client.AcceptedSockets
import Reconn.Client.Answers
import Reconn.Client.Responses
import Reconn.Client.Broadcast
import Reconn.Client.CrashlogTransfer
import Reconn.Client.DeviceId
import Reconn.Client.Inactivity
import Reconn.Client.PacketFormat
import Reconn.Client.WebService
import Reconn.Upgrade.Integrity
import Reconn.Debug.Dispatch
import Reconn.Debug.LineEditor
import Reconn.Debug.MacAddress
import Reconn.Debug.SerialNumber
import Reconn.Debug.Sessions
import Reconn.Power.ChargingSince
import Reconn.Power.FuelGauge
import Reconn.Power.SaveProgress
import Reconn.Analyzer.DamagedPacket
import Reconn.Analyzer.Flash
import Reconn.Equipment.AnalyzerUpgrade
import Reconn.Equipment.DiagsResponse
import Reconn.Equipment.DmmConfig
import Reconn.Equipment.InstrumentProgress
import Reconn.Equipment.PowerMeter
import Reconn.Equipment.Published
import Reconn.Equipment.ResponseTask
import Reconn.Network.LinkStatus
import Reconn.Network.LinkWatch
import Reconn.RemoteMonitor.Activation
import Reconn.RemoteMonitor.Handshake
import Reconn.Threads.Shutdown
import Reconn.Wifi.Reboots
import Reconn.Library.Lines
import Reconn.Wifi.HostapdConf
import Reconn.Wifi.HostapdFrame
import Reconn.Wifi.HostapdReading
