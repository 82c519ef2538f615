import Bluetooth.Lib.Transition
import Bluetooth.Lib.SortedMap
import Bluetooth.Lib.ByteStream
import Bluetooth.Lib.Loop
import Bluetooth.Packet.Fragmenting
import Bluetooth.L2cap.LeCreditBased
import Bluetooth.L2cap.LeCreditBasedReceive
import Bluetooth.L2cap.LeCoc
import Bluetooth.L2cap.FcrReassembly
import Bluetooth.L2cap.Ertm.Basic
import Bluetooth.L2cap.Ertm.Events
import Bluetooth.L2cap.Ertm.Transmitter
import Bluetooth.L2cap.Ertm.Link
import Bluetooth.L2cap.Ertm.Segmentation
import Bluetooth.L2cap.BleSignalling
import Bluetooth.L2cap.Signalling
import Bluetooth.L2cap.ConfigReject
import Bluetooth.L2cap.SignallingSafety
import Bluetooth.CryptoToolbox.AesCmac
import Bluetooth.Smp.P256Multprecision
import Bluetooth.Os.Queue
import Bluetooth.Smp.Tables
import Bluetooth.Smp.Pairing
import Bluetooth.Smp.EarlyConfirm
import Bluetooth.Hci.RoundRobinScheduler
import Bluetooth.Sdp.Database
import Bluetooth.Sdp.Discovery
import Bluetooth.Sdp.Server
import Bluetooth.Types.Uuid
import Bluetooth.Gatt.Database
import Bluetooth.Gatt.ServerHash
import Bluetooth.Gatt.DatabaseBuilder
import Bluetooth.Gatt.Client
import Bluetooth.Hci.Assembler
import Bluetooth.Common.ListMap
import Bluetooth.Common.Strings
import Bluetooth.Storage.ConfigCache
import Bluetooth.Storage.LegacyConfigFile
import Bluetooth.Bnep.Receive
import Bluetooth.Rfcomm.Frames
import Bluetooth.Avdt.Msg
import Bluetooth.Avct.LcbMsg
import Bluetooth.Avrc.ParsTg
import Bluetooth.Ag.At
import Bluetooth.HfClient.At
import Bluetooth.Hci.AclFragmenter
import Bluetooth.Gatt.ReadMulti
import Bluetooth.A2dp.Sbc
import Bluetooth.Hci.LeAddressManager
import Bluetooth.Osi.Alarm
import Bluetooth.Btm.AdvertisingCache
import Bluetooth.LeAudio.Ltv
import Bluetooth.LeAudio.AseCtp
import Bluetooth.Sdp.AttribSeq
import Bluetooth.Storage.ConfigLookup
import Bluetooth.Lib.Mru
import Bluetooth.Common.ListMapNodes
import Bluetooth.Common.Scan
import Bluetooth.Types.FromString
import Bluetooth.Lib.LittleEndian
import Bluetooth.Packet.PacketView
import Bluetooth.Packet.Inserter
import Bluetooth.Packet.Iterator
import Bluetooth.Sdp.AttribEntry
import Bluetooth.Lib.AdjacentSwap
import Bluetooth.Sdp.AttrFilters
import Bluetooth.Lib.KeyedSum
import Bluetooth.Hci.SchedulerCredits
