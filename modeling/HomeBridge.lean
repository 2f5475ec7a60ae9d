import HomeBridge.Lib.Run
import HomeBridge.Lib.Loop
import HomeBridge.Lib.Memory
import HomeBridge.Lib.Mailbox
import HomeBridge.Lib.Ledger
import HomeBridge.Lib.Locks
import HomeBridge.Lib.LockOrder
import HomeBridge.Lib.Entries
import HomeBridge.Lib.Text
import HomeBridge.Lib.Scan
import HomeBridge.Lib.Escape
import HomeBridge.Lib.Utlist
import HomeBridge.Ihaplite.Framework
import HomeBridge.Ihaplite.BroadcastRuns
import HomeBridge.Ihaplite.DeliveryRuns
import HomeBridge.Ihaplite.SignalRuns
import HomeBridge.Ihaplite.QueueOrder
import HomeBridge.Ihaplite.DeliveryPass
import HomeBridge.Ihaplite.Hex
import HomeBridge.Ihaplite.Encode
import HomeBridge.Ihaplite.Decode
import HomeBridge.Ihaplite.SessionManager
import HomeBridge.Ihaplite.Replies
import HomeBridge.Ihaplite.SessionTimeouts
import HomeBridge.Ihaplite.ArmedAlarms
import HomeBridge.Ihaplite.AlarmRuns
import HomeBridge.Ihaplite.Lines
import HomeBridge.ZigBee.Vps2addr
import HomeBridge.ZigBee.Task
import HomeBridge.ZigBee.Radio
import HomeBridge.ZigBee.Frames
import HomeBridge.ZigBee.Table
import HomeBridge.ZigBee.Members
import HomeBridge.ZigBee.Data
import HomeBridge.ZigBee.RequestPath
import HomeBridge.ZigBee.Wiring
import HomeBridge.ZigBee.HandOff
import HomeBridge.ZigBee.Bridge
import HomeBridge.ZigBee.Admission
import HomeBridge.ZigBee.StreamReceiver
import HomeBridge.ZigBee.StreamRuns
import HomeBridge.ZigBee.Blocks
import HomeBridge.ZigBee.NetworkList
import HomeBridge.ZigBee.Capacity
import HomeBridge.ZigBee.Branches
import HomeBridge.ZigBee.ShortFrames
import HomeBridge.ZigBee.Requests
import HomeBridge.ZigBee.Renderings
import HomeBridge.ZigBee.NetworkAddresses
import HomeBridge.Hpd.Services
import HomeBridge.Hpd.Xml
import HomeBridge.Hpd.Registry
import HomeBridge.Hpd.Coherence
import HomeBridge.Hpd.ErrorAtomicity
import HomeBridge.Hpd.EventQueue
import HomeBridge.Hpd.PutEvents
import HomeBridge.Hpd.Sessions
import HomeBridge.Hpd.FanOut
import HomeBridge.Hpd.EventText
import HomeBridge.Hpd.XmlValue
import HomeBridge.Hpd.PutChunks
import HomeBridge.Hpd.DeviceGraph
import HomeBridge.Hpd.Lifecycle
import HomeBridge.Hpd.Reconnect
import HomeBridge.Hpd.Subscriptions
import HomeBridge.Hpd.ConnectionLookup
import HomeBridge.Hpd.Dequeue
import HomeBridge.Hpd.Log
import HomeBridge.Hpd.LogRing
import HomeBridge.Hpd.LockDiscipline
import HomeBridge.Hpd.DaemonThreads
import HomeBridge.Hpd.Descriptions
import HomeBridge.Hpd.ParameterLists
import HomeBridge.Hpd.Destruction
import HomeBridge.Hpd.ServiceMemory
import HomeBridge.Hpd.GraphMemory
import HomeBridge.HpClient.HttpPut
import HomeBridge.HpClient.SplitUrl
import HomeBridge.HpClient.CurlFct
import HomeBridge.HpClient.RequestService
import HomeBridge.Hpd.Teardown
import HomeBridge.Hpd.ApiMemory
import HomeBridge.Hpd.HttpServer
import HomeBridge.Hpd.HeatingExample
import HomeBridge.Ihaplite.Parser
