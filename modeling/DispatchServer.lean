import DispatchServer.Main
import DispatchServer.Memory.Pages
import DispatchServer.Session.Queue
import DispatchServer.Session.Server
import DispatchServer.Session.Tokens
import DispatchServer.Proofs.Queue
import DispatchServer.Proofs.Drain
import DispatchServer.Proofs.Replies
import DispatchServer.Proofs.Pinning
import DispatchServer.Proofs.Shutdown
import DispatchServer.Proofs.Limits
import DispatchServer.Proofs.Lifecycle
import DispatchServer.Proofs.Coordinator
import DispatchServer.Proofs.Reasons
import DispatchServer.Proofs.Stranding
import DispatchServer.Proofs.Departure
import DispatchServer.Proofs.Tables
import DispatchServer.Proofs.Submissions
import DispatchServer.Proofs.Exits
import DispatchServer.Proofs.Processing
import DispatchServer.Proofs.Zones
import DispatchServer.Proofs.Rotation
import DispatchServer.Proofs.Creation
import DispatchServer.Proofs.Validation
import DispatchServer.Proofs.Wakeups
import DispatchServer.Proofs.Muster
