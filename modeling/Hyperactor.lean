import Hyperactor.Reference
import Hyperactor.BTreeMap
import Hyperactor.Mailbox.Envelope
import Hyperactor.Mailbox.State
import Hyperactor.Mailbox.Ports
import Hyperactor.Mailbox.Split
import Hyperactor.Mailbox.Router
import Hyperactor.Mailbox.DialRouter
import Hyperactor.Mailbox.DialCache
import Hyperactor.Mailbox.Compose
import Hyperactor.Mailbox.PortRuns
import Hyperactor.Mailbox.Frame
import Hyperactor.Mailbox.Entries
import Hyperactor.Mailbox.ShardLocks
import Hyperactor.Mailbox.Allocation
import Hyperactor.Mailbox.Invariant
import Hyperactor.Mailbox.Link
import Hyperactor.Mailbox.Return
import Hyperactor.Mailbox.Serve
import Hyperactor.Mailbox.DialConcurrent
