import WifiAccess.Crc.Preemption
import WifiAccess.Crc.Detection
import WifiAccess.Att.Reading
import WifiAccess.Att.Recovery
import WifiAccess.Att.Serial
import WifiAccess.Door.Passback
import WifiAccess.Door.Reader
import WifiAccess.Door.Expiry
import WifiAccess.Door.ReadFailure
import WifiAccess.Door.Handoff
import WifiAccess.Door.Atomic
import WifiAccess.Link.Credit
import WifiAccess.Link.Mailbox
import WifiAccess.Link.Reply
import WifiAccess.Server.Answers
import WifiAccess.Server.Buffers
import WifiAccess.Server.Current
import WifiAccess.Server.Paging
import WifiAccess.Server.CardList
import WifiAccess.Server.Drain
import WifiAccess.Server.Stale
import WifiAccess.User.Refinement
import WifiAccess.Finger.Upload
import WifiAccess.Finger.Download
import WifiAccess.Finger.Orderly
import WifiAccess.Touch.Axes
import WifiAccess.Base.LastWrite
import WifiAccess.Base.Lower
import WifiAccess.Base.TwoWire
import WifiAccess.Base.RegisterFile
import WifiAccess.Clock.Iic
import WifiAccess.Clock.Ds1307
import WifiAccess.Clock.Keeping
import WifiAccess.System.Event
import WifiAccess.System.Registry
import WifiAccess.Base.Outage
import WifiAccess.Config.Lasting
import WifiAccess.Base.Within
import WifiAccess.Rfid.Rc522
import WifiAccess.Rfid.Reading
import WifiAccess.Kernel.Event
import WifiAccess.Kernel.Delivery
import WifiAccess.Kernel.UserCheck
import WifiAccess.Kernel.Mutex
import WifiAccess.Kernel.Exclusion
import WifiAccess.System.Admission
