import TradingEngine.Internal.Types
import TradingEngine.Lib.DocumentLoader
import TradingEngine.Oms.RiskGates
import TradingEngine.Router.Router
import TradingEngine.Strategy.ShardRiskGate

/-!
# The configuration of the trader

`load_trader_config_from_json` fills in a `TraderRuntimeConfig` from a JSON text. Every key may be
missing, and then its field keeps its default. The first value that does not fit ends the loading
with an error that names the key.

`parse` stands for the JSON parser: it takes a text to a document, or to the text of the exception
that it throws.
-/

namespace TradingEngine

inductive TraderExecutionMode
  | live | paper | marketDataOnly
  deriving DecidableEq

structure CredentialConfig where
  keyId : String := ""
  privateKeyPem : String := ""
  keyIdEnv : String := "KALSHI_KEY_ID"
  privateKeyPemEnv : String := "KALSHI_PRIVATE_KEY_PEM"
  deriving DecidableEq

structure KalshiWsConfig where
  endpoint : String := "wss://api.elections.kalshi.com/trade-api/ws/v2"
  channels : List String := ["trades"]
  credentials : CredentialConfig := {}
  deriving DecidableEq

structure MarketUniverseConfig where
  tickers : List String := []
  deriving DecidableEq

structure RiskConfig where
  shard : ShardRiskConfig := {}
  omsGlobal : GlobalRiskConfig := {}
  omsPortfolio : PortfolioRiskConfig := {}
  deriving DecidableEq

/-- The handler factory of the shards is left out: no document can set it. Times are in
milliseconds. -/
structure LivePipelineConfig where
  source : String := "kalshi"
  decodeExchange : DecodeExchangeId := .kalshi
  routerExchange : ExchangeId := .kalshi
  framePoolCapacity : ℕ := 8192
  frameQueueCapacity : ℕ := 8192
  shardCount : ℕ := 4
  perShardQueueCapacity : ℕ := 1024
  shardIdleSleep : ℤ := 1
  deriving DecidableEq

structure TraderRuntimeConfig where
  mode : String := "dev"
  executionMode : TraderExecutionMode := .live
  kalshi : KalshiWsConfig := {}
  marketUniverse : MarketUniverseConfig := {}
  risk : RiskConfig := {}
  pipeline : LivePipelineConfig := {}
  pumpBatchSize : ℕ := 1024
  pumpIdleSleep : ℤ := 1
  deriving DecidableEq

structure ConfigLoadResult where
  ok : Bool := false
  config : TraderRuntimeConfig := {}
  error : String := ""
  deriving DecidableEq

namespace TraderConfig

open Load (readField readSection)

/-! ## Values -/

/-- The ids of an exchange for the decoder and for the router. -/
def parseExchangeId (name : String) : Option (DecodeExchangeId × ExchangeId) :=
  if name = "kalshi" then some (.kalshi, .kalshi)
  else if name = "polymarket" then some (.polymarket, .polymarket)
  else none

def parseExecutionMode (modeName : String) : Option TraderExecutionMode :=
  if modeName = "live" then some .live
  else if modeName = "paper" then some .paper
  else if modeName = "md-only" ∨ modeName = "md_only" ∨ modeName = "market-data-only" ∨
      modeName = "market_data_only" then some .marketDataOnly
  else none

def executionModeName : TraderExecutionMode → String
  | .live => "live"
  | .paper => "paper"
  | .marketDataOnly => "md-only"

theorem parseExecutionMode_executionModeName (mode : TraderExecutionMode) :
    parseExecutionMode (executionModeName mode) = some mode := by
  cases mode <;> rfl

def parseString (fieldName : String) (value : JsonValue) : Except String String :=
  match value with
  | .string parsed => .ok parsed
  | _ => .error (fieldName ++ " must be a string")

def parsePositiveSizeT (fieldName : String) (value : JsonValue) : Except String ℕ :=
  match value with
  | .numberUnsigned parsed =>
    if parsed = 0 then .error (fieldName ++ " must be > 0") else .ok parsed
  | _ => .error (fieldName ++ " must be an unsigned integer")

def parseNonNegativeSizeT (fieldName : String) (value : JsonValue) : Except String ℕ :=
  match value with
  | .numberUnsigned parsed => .ok parsed
  | _ => .error (fieldName ++ " must be an unsigned integer")

def parseNonNegativeMs (fieldName : String) (value : JsonValue) : Except String ℤ :=
  match value.getInt64 with
  | none => .error (fieldName ++ " must be an integer")
  | some parsed =>
    if parsed < 0 then .error (fieldName ++ " must be >= 0") else .ok parsed

def parseInt64 (fieldName : String) (value : JsonValue) : Except String ℤ :=
  match value.getInt64 with
  | none => .error (fieldName ++ " must be an integer")
  | some parsed => .ok parsed

def parseNonNegativeQty (fieldName : String) (value : JsonValue) : Except String ℤ :=
  match parseInt64 fieldName value with
  | .error error => .error error
  | .ok parsed =>
    if parsed < 0 then .error (fieldName ++ " must be >= 0") else .ok parsed

def parseBool (fieldName : String) (value : JsonValue) : Except String Bool :=
  match value with
  | .boolean parsed => .ok parsed
  | _ => .error (fieldName ++ " must be a boolean")

def parseStringArray (fieldName : String) (value : JsonValue) : Except String (List String) :=
  match value with
  | .array items =>
    match items.mapM JsonValue.getString with
    | some parsed => .ok parsed
    | none => .error (fieldName ++ " entries must be strings")
  | _ => .error (fieldName ++ " must be an array")

def parseExchange (value : JsonValue) : Except String (DecodeExchangeId × ExchangeId) :=
  match parseString "pipeline.exchange" value with
  | .error error => .error error
  | .ok exchangeName =>
    match parseExchangeId exchangeName with
    | some exchange => .ok exchange
    | none => .error "pipeline.exchange must be one of: kalshi, polymarket"

def parseMode (value : JsonValue) : Except String TraderExecutionMode :=
  match parseString "runtime.execution_mode" value with
  | .error error => .error error
  | .ok modeName =>
    match parseExecutionMode modeName with
    | some mode => .ok mode
    | none => .error "runtime.execution_mode must be one of: live, paper, md-only"

/-! ## Sections -/

abbrev LoadConfig := Load TraderRuntimeConfig Unit

def readCredentials (creds : JsonValue) : LoadConfig := do
  readField creds "key_id" (parseString "kalshi.credentials.key_id") fun value config ↦
    { config with kalshi.credentials.keyId := value }
  readField creds "private_key_pem" (parseString "kalshi.credentials.private_key_pem")
    fun value config ↦ { config with kalshi.credentials.privateKeyPem := value }
  readField creds "key_id_env" (parseString "kalshi.credentials.key_id_env") fun value config ↦
    { config with kalshi.credentials.keyIdEnv := value }
  readField creds "private_key_pem_env" (parseString "kalshi.credentials.private_key_pem_env")
    fun value config ↦ { config with kalshi.credentials.privateKeyPemEnv := value }

def readKalshi (kalshi : JsonValue) : LoadConfig := do
  readField kalshi "endpoint" (parseString "kalshi.endpoint") fun value config ↦
    { config with kalshi.endpoint := value }
  readField kalshi "channels" (parseStringArray "kalshi.channels") fun value config ↦
    { config with kalshi.channels := value }
  readSection kalshi "credentials" "kalshi.credentials" readCredentials

def readMarketUniverse (marketUniverse : JsonValue) : LoadConfig :=
  readField marketUniverse "tickers" (parseStringArray "market_universe.tickers")
    fun value config ↦ { config with marketUniverse.tickers := value }

def readShardRisk (shard : JsonValue) : LoadConfig := do
  readField shard "max_open_orders_per_market"
    (parseNonNegativeSizeT "risk.shard.max_open_orders_per_market") fun value config ↦
      { config with risk.shard.maxOpenOrdersPerMarket := value }
  readField shard "max_working_qty_per_market"
    (parseNonNegativeQty "risk.shard.max_working_qty_per_market") fun value config ↦
      { config with risk.shard.maxWorkingQtyPerMarket := value }
  readField shard "max_abs_net_position_per_market"
    (parseNonNegativeQty "risk.shard.max_abs_net_position_per_market") fun value config ↦
      { config with risk.shard.maxAbsNetPositionPerMarket := value }

def readOmsGlobalRisk (omsGlobal : JsonValue) : LoadConfig := do
  readField omsGlobal "max_active_orders_global"
    (parseNonNegativeSizeT "risk.oms_global.max_active_orders_global") fun value config ↦
      { config with risk.omsGlobal.maxActiveOrdersGlobal := value }
  readField omsGlobal "max_active_orders_per_market"
    (parseNonNegativeSizeT "risk.oms_global.max_active_orders_per_market") fun value config ↦
      { config with risk.omsGlobal.maxActiveOrdersPerMarket := value }
  readField omsGlobal "max_outstanding_qty_global"
    (parseNonNegativeQty "risk.oms_global.max_outstanding_qty_global") fun value config ↦
      { config with risk.omsGlobal.maxOutstandingQtyGlobal := value }
  readField omsGlobal "max_outstanding_qty_per_market"
    (parseNonNegativeQty "risk.oms_global.max_outstanding_qty_per_market") fun value config ↦
      { config with risk.omsGlobal.maxOutstandingQtyPerMarket := value }

def readOmsPortfolioRisk (omsPortfolio : JsonValue) : LoadConfig := do
  readField omsPortfolio "max_abs_net_position_per_market"
    (parseNonNegativeQty "risk.oms_portfolio.max_abs_net_position_per_market") fun value config ↦
      { config with risk.omsPortfolio.maxAbsNetPositionPerMarket := value }
  readField omsPortfolio "max_abs_position_gross_global"
    (parseNonNegativeQty "risk.oms_portfolio.max_abs_position_gross_global") fun value config ↦
      { config with risk.omsPortfolio.maxAbsPositionGrossGlobal := value }
  readField omsPortfolio "min_realized_pnl_ticks"
    (parseInt64 "risk.oms_portfolio.min_realized_pnl_ticks") fun value config ↦
      { config with risk.omsPortfolio.minRealizedPnlTicks := value }
  readField omsPortfolio "enforce_realized_pnl_floor"
    (parseBool "risk.oms_portfolio.enforce_realized_pnl_floor") fun value config ↦
      { config with risk.omsPortfolio.enforceRealizedPnlFloor := value }

def readRisk (risk : JsonValue) : LoadConfig := do
  readSection risk "shard" "risk.shard" readShardRisk
  readSection risk "oms_global" "risk.oms_global" readOmsGlobalRisk
  readSection risk "oms_portfolio" "risk.oms_portfolio" readOmsPortfolioRisk

def readPipeline (pipeline : JsonValue) : LoadConfig := do
  readField pipeline "source" (parseString "pipeline.source") fun value config ↦
    { config with pipeline.source := value }
  readField pipeline "exchange" parseExchange fun value config ↦
    { config with pipeline.decodeExchange := value.1, pipeline.routerExchange := value.2 }
  readField pipeline "frame_pool_capacity" (parsePositiveSizeT "pipeline.frame_pool_capacity")
    fun value config ↦ { config with pipeline.framePoolCapacity := value }
  readField pipeline "frame_queue_capacity" (parsePositiveSizeT "pipeline.frame_queue_capacity")
    fun value config ↦ { config with pipeline.frameQueueCapacity := value }
  readField pipeline "shard_count" (parsePositiveSizeT "pipeline.shard_count") fun value config ↦
    { config with pipeline.shardCount := value }
  readField pipeline "per_shard_queue_capacity"
    (parsePositiveSizeT "pipeline.per_shard_queue_capacity") fun value config ↦
      { config with pipeline.perShardQueueCapacity := value }
  readField pipeline "shard_idle_sleep_ms" (parseNonNegativeMs "pipeline.shard_idle_sleep_ms")
    fun value config ↦ { config with pipeline.shardIdleSleep := value }

def readRuntime (runtime : JsonValue) : LoadConfig := do
  readField runtime "pump_batch_size" (parsePositiveSizeT "runtime.pump_batch_size")
    fun value config ↦ { config with pumpBatchSize := value }
  readField runtime "pump_idle_sleep_ms" (parseNonNegativeMs "runtime.pump_idle_sleep_ms")
    fun value config ↦ { config with pumpIdleSleep := value }
  readField runtime "execution_mode" parseMode fun value config ↦
    { config with executionMode := value }

/-! ## The whole document -/

def readRoot (root : JsonValue) : LoadConfig := do
  readField root "mode" (parseString "mode") fun value config ↦ { config with mode := value }
  readSection root "kalshi" "kalshi" readKalshi
  readSection root "market_universe" "market_universe" readMarketUniverse
  readSection root "risk" "risk" readRisk
  readSection root "pipeline" "pipeline" readPipeline
  readSection root "runtime" "runtime" readRuntime

def parseFromJson (root : JsonValue) : ConfigLoadResult :=
  if !root.isObject then { error := "config root must be a JSON object" }
  else
    match Load.exec (readRoot root) {} with
    | (.ok (), config) => { ok := true, config }
    | (.error error, config) => { config, error }

def loadTraderConfigFromJson {Text : Type*} (parse : Text → Except String JsonValue)
    (jsonText : Text) : ConfigLoadResult :=
  match parse jsonText with
  | .ok root => parseFromJson root
  | .error what => { error := "failed to parse config JSON: " ++ what }

end TraderConfig

end TradingEngine
