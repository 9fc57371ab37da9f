import ScalesetProxmox.Pool.Tenancy
import ScalesetProxmox.Pool.ForeignGuests
import ScalesetProxmox.Pool.SingleUse
import ScalesetProxmox.Pool.Reconcile
import ScalesetProxmox.App.Templates
import ScalesetProxmox.Nodecap.Handoff
import ScalesetProxmox.Nodecap.Admission
import ScalesetProxmox.Nodecap.LiveClones
import ScalesetProxmox.Nodecap.Retirement
import ScalesetProxmox.Pool.Supply
import ScalesetProxmox.Cluster.Forwarding
import ScalesetProxmox.App.Deposal
import ScalesetProxmox.Pool.Burst
import ScalesetProxmox.Pool.Sandbox
import ScalesetProxmox.Gh.Observation
import ScalesetProxmox.Schedule.Windows
import ScalesetProxmox.App.Schedules
import ScalesetProxmox.Pool.Anonymity
import ScalesetProxmox.NodeSelector.LeastLoaded
import ScalesetProxmox.Nodecap.Sweep
import ScalesetProxmox.Pool.Credit
import ScalesetProxmox.Pool.Eligibility
import ScalesetProxmox.Pool.EvictionPlans
import ScalesetProxmox.Pool.Convergence
import ScalesetProxmox.App.Labels
import ScalesetProxmox.App.Supervision
import ScalesetProxmox.Pool.Bookkeeping
import ScalesetProxmox.Pool.CanaryRate
import ScalesetProxmox.Pool.Leases
import ScalesetProxmox.Scaler.DesiredCount
import ScalesetProxmox.Tags.RoundTrip
import ScalesetProxmox.Routing.Router
import ScalesetProxmox.Priority.Matcher
import ScalesetProxmox.Ipam.Maps
import ScalesetProxmox.Store.Calls
import ScalesetProxmox.Pool.Allocation
