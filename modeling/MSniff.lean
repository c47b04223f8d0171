import MSniff.EventRun
import MSniff.PrefixSearch
import MSniff.TaskSchedule
import MSniff.StampedFifo
import MSniff.CyclicWindow
import MSniff.Concrete.RadioQueue
import MSniff.Concrete.RadioQueueRing
import MSniff.Concrete.RadioQueueHistory
import MSniff.Concrete.RadioQueuePreemption
import MSniff.Concrete.IPAddress
import MSniff.Concrete.RadioTask
import MSniff.Concrete.EthernetTask
import MSniff.Concrete.PacketRoundTrip
import MSniff.CircularStore
import MSniff.Concrete.TransmitBuffer
import MSniff.Concrete.TransmitRuns
import MSniff.Concrete.SocketTable
import MSniff.Concrete.EthernetSettings
import MSniff.Concrete.SocketOwnership
import MSniff.FallibleRun
import MSniff.TextScan
import MSniff.Concrete.DashboardParameters
import MSniff.Concrete.DashboardQuery
import MSniff.Concrete.DashboardReader
import MSniff.Concrete.DashboardAnswer
import MSniff.Concrete.DashboardSegments
import MSniff.Concrete.DashboardConfinement
import MSniff.Concrete.RadioCore
import MSniff.Concrete.RadioChannel
import MSniff.Concrete.RadioSwitch
import MSniff.Concrete.RadioLabels
import MSniff.Concrete.CaptureRuns
import MSniff.Concrete.CapturePipeline
import MSniff.Concrete.ClientProgress
import MSniff.Concrete.DashboardPage
import MSniff.Concrete.ClientRuns
import MSniff.Concrete.ClientSearch
import MSniff.Concrete.DeviceTasks
import MSniff.Concrete.DeviceRuns
import MSniff.Concrete.ServerPass
import MSniff.Concrete.TransmitProgress
import MSniff.Concrete.ClientStream
import MSniff.Concrete.ChannelParameter
import MSniff.Concrete.RadioStats
import MSniff.Concrete.RadioQueueLayout
import MSniff.DottedDecimal
import MSniff.Concrete.AddressText
import MSniff.Concrete.SpiAccess
import MSniff.Concrete.SpiPort
import MSniff.Concrete.SpiTransfer
import MSniff.Concrete.TargetAddress
import MSniff.Concrete.AddressSetters
import MSniff.Concrete.AddressRoundTrip
import MSniff.Concrete.DatagramReader
import MSniff.Concrete.ReceiveBuffer
import MSniff.Concrete.ReceiveRuns
import MSniff.Concrete.ReceiveProgress
import MSniff.Concrete.ReceiveQuiet
import MSniff.ByteOrder
import MSniff.TagLengthValue
import MSniff.LeaseExchange
import MSniff.Concrete.DhcpMessage
import MSniff.Concrete.DhcpResponse
import MSniff.Concrete.DhcpServer
import MSniff.Concrete.DhcpRequest
import MSniff.Concrete.DhcpLease
