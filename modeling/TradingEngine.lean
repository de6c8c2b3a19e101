import TradingEngine.Lib.Machine
import TradingEngine.Lib.UnorderedMap
import TradingEngine.Internal.Types
import TradingEngine.Oms.RiskGates
import TradingEngine.Oms.OrderManagerCore
import TradingEngine.Oms.LedgerCash
import TradingEngine.Oms.OrderLifecycle
import TradingEngine.Oms.IdMaps
import TradingEngine.Internal.NormalizedEvent
import TradingEngine.Shards.BookStore
import TradingEngine.Adapters.KalshiOms
import TradingEngine.Shards.BookRejects
import TradingEngine.Shards.BookInvariant
import TradingEngine.Shards.SnapshotPosition
import TradingEngine.Oms.OrderManager
import TradingEngine.Oms.OrderManagerSteps
import TradingEngine.Oms.PaperOrderTransport
import TradingEngine.Oms.RequestIds
import TradingEngine.Apps.Trader
import TradingEngine.Oms.RequestTracking
import TradingEngine.Oms.CausalOrder
import TradingEngine.Oms.RiskCaps
import TradingEngine.Oms.FillAccounting
import TradingEngine.Oms.PaperAnswers
import TradingEngine.Oms.PositionLimits
import TradingEngine.Oms.ClosedLoop
import TradingEngine.Oms.ClientIds
import TradingEngine.Oms.LedgerInvariants
import TradingEngine.Lib.OnDemand
import TradingEngine.Parsers.KalshiParser
import TradingEngine.Shards.BookSequence
import TradingEngine.Shards.ParsedEvents
import TradingEngine.Ingest.SpscQueue
import TradingEngine.Ingest.BoundedFifo
import TradingEngine.Ingest.FramePool
import TradingEngine.Ingest.FrameHandles
import TradingEngine.Pipeline.LiveIngest
import TradingEngine.Router.Router
import TradingEngine.Shards.Shard
import TradingEngine.Pipeline.ShardedPipeline
import TradingEngine.Oms.Accounting
import TradingEngine.Oms.RefusedRequests
import TradingEngine.Oms.PaperTrips
import TradingEngine.Oms.PaperTrading
import TradingEngine.Oms.TargetIds
import TradingEngine.Lib.Int64
import TradingEngine.Oms.GateOverflow
import TradingEngine.Oms.ReplaceRisk
import TradingEngine.Adapters.NumericFidelity
import TradingEngine.Router.SequenceAgreement
import TradingEngine.Oms.SequentialDesk
import TradingEngine.Oms.GateOrder
import TradingEngine.Oms.DeskRefinement
import TradingEngine.Oms.GateProjection
import TradingEngine.Oms.AtomicCalls
import TradingEngine.Oms.ReplaceChains
import TradingEngine.Oms.AveragePrice
import TradingEngine.Oms.SplitFills
import TradingEngine.Oms.LedgerSymmetry
import TradingEngine.Adapters.FeedRunner
import TradingEngine.Shards.DeltaAccounts
import TradingEngine.Lib.CharConv
import TradingEngine.Parsers.DecimalText
import TradingEngine.Config.TraderConfig
import TradingEngine.Config.ConfigKeys
import TradingEngine.Config.ConfigWiring
import TradingEngine.Lib.Thinned
import TradingEngine.Pipeline.LivePipeline
import TradingEngine.Pipeline.WireToBooks
import TradingEngine.Pipeline.LiveAccounts
import TradingEngine.Pipeline.EventHandlers
import TradingEngine.Strategy.StrategyRunner
import TradingEngine.Strategy.OrderFlow
import TradingEngine.Strategy.StrategyOrders
import TradingEngine.Strategy.ShardLimits
import TradingEngine.Strategy.FlowAccounts
import TradingEngine.Apps.LiveTrader
import TradingEngine.Apps.WireToOrders
import TradingEngine.Apps.MarketCaps
import TradingEngine.Lib.Ranking
import TradingEngine.Oms.Progress
import TradingEngine.Oms.Settling
import TradingEngine.Lib.Reflection
import TradingEngine.Shards.BookDepth
import TradingEngine.Apps.TraderPhases
import TradingEngine.Apps.TraderSummary
