import HealthSafety.System.Account
import HealthSafety.System.ActionSwitch
import HealthSafety.System.CriticalData
import HealthSafety.System.Dispatchers
import HealthSafety.System.EventDrain
import HealthSafety.System.EventWindow
import HealthSafety.System.Healthy
import HealthSafety.System.Hogging
import HealthSafety.System.NameReports
import HealthSafety.System.Periods
import HealthSafety.System.RepeatedCommands
import HealthSafety.System.Telemetry
import HealthSafety.System.UtilArithmetic
import HealthSafety.System.Work
import HealthSafety.Tables.FirstError
import HealthSafety.Tables.MessageTable
