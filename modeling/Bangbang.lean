import Bangbang.Snapshot.DiffCodec
import Bangbang.Snapshot.LineageHistory
import Bangbang.Snapshot.StateCodec
import Bangbang.Pager.Compatibility
import Bangbang.Pager.Emission
import Bangbang.Pci.BarContract
import Bangbang.Mmio.Reservation
import Bangbang.Vsock.PeerCredit
import Bangbang.Vsock.GuestCredit
import Bangbang.Pci.ConfigurationSnapshot
import Bangbang.Grants.AllOrNothing
import Bangbang.Session.LifecycleAgreement
import Bangbang.Pci.EndpointSafety
import Bangbang.Boot.Placement
import Bangbang.Pmem.FlushSafety
import Bangbang.RateLimit.BlockLimiter
import Bangbang.MemoryHotplug.WindowPlacement
import Bangbang.Virtio.UsedRing
import Bangbang.Seccomp.Lowering
import Bangbang.Vsock.CreditRequests
import Bangbang.Vsock.HostPorts
import Bangbang.Hvf.WriteFaults
import Bangbang.Network.Notifications
