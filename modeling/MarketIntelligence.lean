import MarketIntelligence.Backtesting.NoLookAhead
import MarketIntelligence.Backtesting.LatestSignal
import MarketIntelligence.Backtesting.Validation
import MarketIntelligence.Backtesting.ExposureCaps
import MarketIntelligence.PaperTrading.StoredLedger
import MarketIntelligence.PaperTrading.BookDrift
import MarketIntelligence.Identity.Ownership
import MarketIntelligence.EconomicGraph.History
import MarketIntelligence.EconomicGraph.Exactness
import MarketIntelligence.EconomicGraph.Settlement
import MarketIntelligence.Research.ScreeningCaps
import MarketIntelligence.Auth.SessionPool
import MarketIntelligence.Auth.Throttle
import MarketIntelligence.MarketData.ScheduleIsolation
import MarketIntelligence.AdversarialIntelligence.Additivity
import MarketIntelligence.Operations.Occurrences
import MarketIntelligence.WorldData.LatestRevision
import MarketIntelligence.WorldData.Immutability
import MarketIntelligence.MarketData.JobReplay
import MarketIntelligence.MarketData.OperatingModes
import MarketIntelligence.MarketData.UniverseRanks
import MarketIntelligence.MarketData.Attempts
import MarketIntelligence.MarketData.DryRun
import MarketIntelligence.MarketData.Cancellation
import MarketIntelligence.MarketData.Leases
import MarketIntelligence.ResearchIntelligence.Verdicts
import MarketIntelligence.ResearchIntelligence.Novelty
import MarketIntelligence.ResearchIntelligence.Residuals
import MarketIntelligence.ResearchIntelligence.Ranks
import MarketIntelligence.ReferenceData.SourceOrder
import MarketIntelligence.Payloads.RoundTrip
import MarketIntelligence.MarketData.Adjustments
import MarketIntelligence.Operations.CircuitBreaker
import MarketIntelligence.Operations.AttemptBudget
import MarketIntelligence.Operations.Freshness
import MarketIntelligence.Research.CrossSection
import MarketIntelligence.ProspectiveIntelligence.Leftovers
import MarketIntelligence.EconomicGraph.Atomicity
import MarketIntelligence.Strategies.RunningAverages
import MarketIntelligence.Hypothesis.FeatureSoundness
import MarketIntelligence.ProspectiveIntelligence.ForecastDesk
import MarketIntelligence.Backtesting.Metrics
import MarketIntelligence.ProspectiveIntelligence.Plans
import MarketIntelligence.SecIntelligence.Convergence
import MarketIntelligence.EconomicGraph.DriverRouting
import MarketIntelligence.MarketData.ReconciledImports
import MarketIntelligence.WorldData.PointInTime
