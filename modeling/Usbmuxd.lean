import Usbmuxd.Clients.Connects
import Usbmuxd.Clients.Descriptors
import Usbmuxd.Clients.Listing
import Usbmuxd.Clients.Output
import Usbmuxd.Devices.Bus
import Usbmuxd.Devices.Deconstruct
import Usbmuxd.Devices.Duplicates
import Usbmuxd.Devices.Orphans
import Usbmuxd.Devices.Received
import Usbmuxd.Devices.Routing
import Usbmuxd.Devices.SourcePorts
import Usbmuxd.Devices.Split
import Usbmuxd.Devices.Transfers
import Usbmuxd.Devices.TxAccounted
import Usbmuxd.Main.Instances
import Usbmuxd.Manager.Children
import Usbmuxd.Manager.Constructing
import Usbmuxd.Manager.InFlight
import Usbmuxd.Manager.UsbSerial
import Usbmuxd.Muxer.Activation
import Usbmuxd.Muxer.Detached
import Usbmuxd.Muxer.Lifecycle
import Usbmuxd.Muxer.Listeners
import Usbmuxd.Sysconf.ConfigDir
import Usbmuxd.Sysconf.Macaddrs
import Usbmuxd.Sysconf.Records
import Usbmuxd.Sysconf.Refused
import Usbmuxd.Sysconf.Released
import Usbmuxd.Sysconf.Saves
import Usbmuxd.Sysconf.Store
import Usbmuxd.Sysconf.SystemBuid
import Usbmuxd.Tcp.AckGate
import Usbmuxd.Tcp.Flags
import Usbmuxd.Tcp.Forward
import Usbmuxd.Tcp.Handover
import Usbmuxd.Tcp.NewestAck
import Usbmuxd.Tcp.Ring
import Usbmuxd.Tcp.SendWindow
import Usbmuxd.Tcp.Teardown
import Usbmuxd.Tcp.Wakeup
import Usbmuxd.Wifi.Discovery
import Usbmuxd.Wifi.Lifetime
import Usbmuxd.Wifi.MdnsDevices
import Usbmuxd.Wifi.MdnsLoop
import Usbmuxd.Wifi.Placeholders
import Usbmuxd.Wifi.Reconnects
import Usbmuxd.Wifi.Removal
import Usbmuxd.Wifi.Versions
