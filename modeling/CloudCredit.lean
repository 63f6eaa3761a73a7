import CloudCredit.Ledger.Classification
import CloudCredit.Accounting.ClusterOrder
import CloudCredit.Accounting.Projection
import CloudCredit.Accounting.ResourceIndependence
import CloudCredit.Accounting.Settlement
import CloudCredit.Accounting.SoftLimits
import CloudCredit.System.Administration
import CloudCredit.System.AuditTrail
import CloudCredit.System.ExceededFlag
import CloudCredit.System.FlushOutcome
import CloudCredit.System.Isolation
import CloudCredit.System.NewestGauge
import CloudCredit.System.PoisonedBatch
import CloudCredit.System.QuotaReports
import CloudCredit.System.Wallets
import CloudCredit.Gateway.Acknowledgements
import CloudCredit.Gateway.Connected
import CloudCredit.Gateway.DedupWindow
import CloudCredit.Gateway.Latency
import CloudCredit.Gateway.StreamDelivery
import CloudCredit.Gateway.StreamIngestion
import CloudCredit.Simulator.KillSwitch
