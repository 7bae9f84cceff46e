import BluetoothAuto.Proxy.AppToCar
import BluetoothAuto.Proxy.CarToApp
import BluetoothAuto.Proxy.AddressFilters
import BluetoothAuto.Proxy.CarStream
import BluetoothAuto.Proxy.TlsSessions
import BluetoothAuto.Proxy.SecuredForwarding
import BluetoothAuto.Proxy.SharedSocket
import BluetoothAuto.Proxy.Supervisor
import BluetoothAuto.Proxy.FrameBounds
import BluetoothAuto.Proxy.TlsRecords
import BluetoothAuto.Proxy.WriterEnd
import BluetoothAuto.Router.CamApplication
import BluetoothAuto.Router.PositionGate
import BluetoothAuto.App.Run
import BluetoothAuto.App.Inbound
import BluetoothAuto.App.Underflow
import BluetoothAuto.App.UnwrapLoop
import BluetoothAuto.App.HandshakeResult
import BluetoothAuto.App.Outbound
import BluetoothAuto.App.Service
import BluetoothAuto.App.Devices
import BluetoothAuto.App.MainActivity
import BluetoothAuto.Server.Stores
import BluetoothAuto.Server.AppMessages
import BluetoothAuto.Server.History
import BluetoothAuto.App.RequestTasks
import BluetoothAuto.App.Uploads
import BluetoothAuto.Router.TimeStamps
import BluetoothAuto.Router.Timers
import BluetoothAuto.Router.PacketFlow
import BluetoothAuto.Router.Link
import BluetoothAuto.Router.Dispatch
import BluetoothAuto.Router.SteadyTimers
import BluetoothAuto.Proxy.Duplex
