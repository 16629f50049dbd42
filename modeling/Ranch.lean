import Ranch.Router
import Ranch.Server
import Ranch.Registry
import Ranch.BridgeInvariants
import Ranch.RouteTable
import Ranch.Naming
import Ranch.MessageQueue
import Ranch.Lifecycle
import Ranch.Config
