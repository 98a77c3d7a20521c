import AosServiceManager.Common
import AosServiceManager.Runner.UnitName
import AosServiceManager.Runner.State
import AosServiceManager.Runner.System
import AosServiceManager.Runner.Invariants
import AosServiceManager.Runner.Reports
import AosServiceManager.Runner.Lifecycle
import AosServiceManager.Runner.Delivery
import AosServiceManager.Runner.RunParameters
import AosServiceManager.Convert.Types
import AosServiceManager.Convert.ToProto
import AosServiceManager.Convert.Alert
import AosServiceManager.Convert.ToAos
import AosServiceManager.Config.Parse
import AosServiceManager.Config.Sections
import AosServiceManager.App.AosCore
