import RpiBld.Confinement
import RpiBld.Sd.Initialisation
import RpiBld.Sd.Voltage
import RpiBld.Sd.ReadExact
import RpiBld.Sd.SupplyClock
import RpiBld.Img.Append
import RpiBld.Img.FileRead
import RpiBld.Gpio
import RpiBld.Timer
import RpiBld.MailboxReply
import RpiBld.MailboxRequests
import RpiBld.MailboxWalk
import RpiBld.BootReport
import RpiBld.PartitionSize
import RpiBld.Debug.SerialLog
import RpiBld.ImageAccepted
import RpiBld.ImageIntact
import RpiBld.ImageRoundTrip
import RpiBld.EntryTalk
import RpiBld.Sd.HostSetup
import RpiBld.MailboxTalk
import RpiBld.Board.Boot
import RpiBld.InterruptMask
import RpiBld.Interrupted
