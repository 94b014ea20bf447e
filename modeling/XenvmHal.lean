import XenvmHal.Allocator.Abandonment
import XenvmHal.Allocator.AllOrNothing
import XenvmHal.Allocator.BackEnds
import XenvmHal.Allocator.Configured
import XenvmHal.Allocator.DebugDump
import XenvmHal.Allocator.DefinedBehaviour
import XenvmHal.Allocator.DescriptorState
import XenvmHal.Allocator.Isolation
import XenvmHal.Allocator.Lifecycle
import XenvmHal.Allocator.Outstanding
import XenvmHal.Allocator.Reports
import XenvmHal.Allocator.Shutdown
import XenvmHal.Allocator.UniformStride
import XenvmHal.Allocator.UsageSplit
import XenvmHal.Health.CallSequence
import XenvmHal.Health.Daemon
import XenvmHal.Health.DeadClients
import XenvmHal.Health.Listeners
import XenvmHal.Health.LoopState
import XenvmHal.Health.Notification
import XenvmHal.Health.ReadPaths
import XenvmHal.Health.Scheduling
import XenvmHal.Health.Uevent
import XenvmHal.Health.WakeAlarm
