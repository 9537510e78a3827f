import Spanreed.Acceptance
import Spanreed.AccessLists
import Spanreed.Allocation
import Spanreed.AppData
import Spanreed.Attachment
import Spanreed.AuthPacket
import Spanreed.Calls
import Spanreed.CloseLast
import Spanreed.CloseNotice
import Spanreed.ConnectionEnd
import Spanreed.ConnectionString
import Spanreed.Crosstalk
import Spanreed.Datagrams
import Spanreed.Deadlock
import Spanreed.Delivery
import Spanreed.Deployment
import Spanreed.Dispatch
import Spanreed.Egress
import Spanreed.HelloPage
import Spanreed.Isolation
import Spanreed.Kicks
import Spanreed.LockOrder
import Spanreed.Loops
import Spanreed.OpenClose
import Spanreed.OpenConnection
import Spanreed.Orphans
import Spanreed.Process
import Spanreed.Registration
import Spanreed.Routing
import Spanreed.SessionRefinement
import Spanreed.StoreHistory
import Spanreed.Timeouts
import Spanreed.Timestamps
import Spanreed.Verdicts
import Spanreed.WireProtocol
