import Breadcrumb.Machine.Run
import Breadcrumb.Machine.Words
import Breadcrumb.Machine.Buffer
import Breadcrumb.Machine.EventRegister
import Breadcrumb.Machine.BoundedQueue
import Breadcrumb.Machine.WrappedClock
import Breadcrumb.Machine.FifoMap
import Breadcrumb.Machine.Network
import Breadcrumb.Machine.BusProgram
import Breadcrumb.Machine.Exchange
import Breadcrumb.Machine.BitFields
import Breadcrumb.Machine.RegisterFile
import Breadcrumb.Uwb.Dw1000
import Breadcrumb.Uwb.Distance
import Breadcrumb.Uwb.Ranging
import Breadcrumb.Uwb.Schedule
import Breadcrumb.Uwb.Freshness
import Breadcrumb.Uwb.RoundTrip
import Breadcrumb.Uwb.Timestamps
import Breadcrumb.Uwb.Millimetres
import Breadcrumb.Uwb.StatusRegister
import Breadcrumb.Mesh.ChatCli
import Breadcrumb.Mesh.ChatSession
import Breadcrumb.Mesh.HandlerSafety
import Breadcrumb.Mesh.PingNetwork
import Breadcrumb.Mesh.PublishTtl
import Breadcrumb.Mesh.PresenceCache
import Breadcrumb.Host.CommandStream
import Breadcrumb.Host.RangeRequests
import Breadcrumb.Driver.DecaRegs
import Breadcrumb.Driver.NrfSpi
import Breadcrumb.Driver.SpiWire
import Breadcrumb.Driver.SpiHandler
import Breadcrumb.Driver.SpiProgress
import Breadcrumb.Driver.SpiTransfer
import Breadcrumb.Driver.SpiPort
import Breadcrumb.Driver.Transaction
import Breadcrumb.Driver.DecaDevice
import Breadcrumb.Driver.Configuration
import Breadcrumb.Driver.Transceiver
import Breadcrumb.Driver.RangingBus
import Breadcrumb.Driver.RangingRuns
import Breadcrumb.Driver.RangingWire
import Breadcrumb.Driver.SystemSettings
import Breadcrumb.Driver.SettingRuns
import Breadcrumb.Driver.ConfigurationRuns
import Breadcrumb.Driver.Interrupts
import Breadcrumb.Driver.Boot
