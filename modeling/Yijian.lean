import Yijian.Agreement
import Yijian.HeapContent
import Yijian.IdleExpiry
import Yijian.ConnectionGate
import Yijian.FanOut
import Yijian.MessageNumbers
import Yijian.Notify
import Yijian.Ownership
import Yijian.PeerList
import Yijian.Pool
import Yijian.Replies
import Yijian.Routing
import Yijian.ClientNumbers
import Yijian.ThreadCurrent
import Yijian.Unseen
import Yijian.WriteDrains
import Yijian.WriteWatcher
import Yijian.WireFormat
import Yijian.QueryWindow
import Yijian.FailedConnect
import Yijian.Blacklists
import Yijian.ReadProgress
import Yijian.Callbacks
import Yijian.Confidential
import Yijian.Relays
import Yijian.ClientWriter
import Yijian.Profiles
import Yijian.PendingRequests
import Yijian.RequestDocuments
import Yijian.Conversation
import Yijian.DeviceDocuments
import Yijian.PoolDrains
