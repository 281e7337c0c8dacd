import Warehouse.Proofs.WashSafe
import Warehouse.Proofs.Reconciliation
import Warehouse.Decision.OptimizerRunner
import Warehouse.Execution.Oms
import Warehouse.Execution.Run
import Warehouse.Proofs.Oms.Gate
import Warehouse.Proofs.Oms.Lifecycle
import Warehouse.Proofs.Oms.Restaging
import Warehouse.Proofs.Oms.Household
import Warehouse.Proofs.Qp
import Warehouse.Proofs.Rebalance
import Warehouse.Decision.Monitor
import Warehouse.Proofs.Concentration
import Warehouse.Proofs.RiskView
import Warehouse.Proofs.Turnover
import Warehouse.Proofs.StressOverlay
import Warehouse.Data.Views
import Warehouse.Reporting.Performance
import Warehouse.Proofs.WalkForward
import Warehouse.Data.Ingest
import Warehouse.Workflows.DailyRefresh
import Warehouse.Proofs.FailureAudit
import Warehouse.Reporting.Tax
import Warehouse.Reporting.Bundle
import Warehouse.Reporting.Pdf
import Warehouse.Reporting.Writer
import Warehouse.Workflows.MonthEnd
import Warehouse.Proofs.ExternalPdf
import Warehouse.Proofs.MonthEnd
import Warehouse.Research.Engine
import Warehouse.Lib.Classwise
import Warehouse.Proofs.RiskReplay
import Warehouse.Research.Overlay
import Warehouse.Decision.Attribution
import Warehouse.Research.Service
import Warehouse.Decision.Pm
import Warehouse.Messaging.Advice
import Warehouse.Proofs.RiskService
import Warehouse.Proofs.Advice
import Warehouse.Decision.Review
import Warehouse.Proofs.KillCriteria
import Warehouse.Decision.IpsStore
import Warehouse.Proofs.IpsStore
import Warehouse.Proofs.PsdGate
import Warehouse.Lib.Latest
import Warehouse.Orchestrator.Gate
import Warehouse.Proofs.FlightRegister
import Warehouse.Decision.Mip
import Warehouse.Proofs.Mip
import Warehouse.Lib.ProjectedAscent
import Warehouse.Proofs.Projection
import Warehouse.Proofs.Ascent
import Warehouse.Decision.BlackLitterman
import Warehouse.Lib.RowReduction
import Warehouse.Proofs.BlackLitterman
import Warehouse.Decision.Beliefs
import Warehouse.Data.Fiij
import Warehouse.Research.Stats
import Warehouse.Messaging.Catalog
import Warehouse.Proofs.CleanFile
import Warehouse.Proofs.MutationBoundary
import Warehouse.Proofs.Catalog
import Warehouse.Proofs.Overlay
import Warehouse.Lib.PairForm
import Warehouse.Proofs.Subadditivity
import Warehouse.Proofs.Regimes
import Warehouse.Proofs.Breakdowns
import Warehouse.Proofs.NeutralOverlay
import Warehouse.Proofs.Views
import Warehouse.Proofs.Posterior
import Warehouse.Data.CorporateActions
import Warehouse.Lib.GuardedRun
import Warehouse.Proofs.PnlSummary
import Warehouse.Proofs.StockSplits
import Warehouse.Proofs.IpsBreaches
import Warehouse.Proofs.ReportBundle
import Warehouse.Data.Alternatives
import Warehouse.Proofs.Alternatives
import Warehouse.Lib.Sorting
import Warehouse.Proofs.DailyStats
import Warehouse.Proofs.CorrNote
import Warehouse.Proofs.FiijSnapshot
import Warehouse.Data.CustodianCsv
import Warehouse.Proofs.CustodianCsv
import Warehouse.Research.Synthetic
import Warehouse.Proofs.Synthetic
import Warehouse.Research.SyntheticIps
import Warehouse.Research.FixtureViews
import Warehouse.Proofs.FixtureViews
import Warehouse.Proofs.SyntheticIps
import Warehouse.Lib.UnitOfWork
import Warehouse.Infra.SyntheticSeed
import Warehouse.Proofs.SyntheticSeed
import Warehouse.Research.WorkflowSmoke
import Warehouse.Proofs.EmittedHousehold
import Warehouse.Proofs.WorkflowSmoke
import Warehouse.Research.SyntheticTheses
import Warehouse.Proofs.SyntheticTheses
import Warehouse.Research.Backtest
import Warehouse.Proofs.Backtest
import Warehouse.Decision.RunHistory
import Warehouse.Execution.Desk
import Warehouse.Lib.Newest
import Warehouse.Proofs.RunHistory
import Warehouse.Proofs.ComparisonGates
import Warehouse.Lib.Combinations
import Warehouse.Research.StressHarness
import Warehouse.Proofs.StressHarness
import Warehouse.Decision.Npa
import Warehouse.Proofs.Npa
import Warehouse.Research.NpaPanel
import Warehouse.Proofs.NpaPanel
import Warehouse.Reporting.Render
import Warehouse.Proofs.FrontMatter
import Warehouse.Proofs.ReportPacks
import Warehouse.Research.LedgerManifest
import Warehouse.Proofs.LedgerManifest
import Warehouse.Infra.SeededLedger
import Warehouse.Proofs.SeededLedger
import Warehouse.Proofs.SeededManifest
