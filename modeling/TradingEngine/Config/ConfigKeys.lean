import TradingEngine.Config.TraderConfig

/-!
# The keys of the configuration

What the loading is meant to do, key by key: where a key stands in the document, which values it may
have, and which part of the configuration it is for. The parts are all there is to a configuration
(`ConfigKey.config_ext`), and the check that the loader makes for a kind of values accepts just
these (`ValueKind.parse_eq_ok_iff`).
-/

namespace TradingEngine

namespace TraderConfig

inductive ConfigKey
  | mode | kalshiEndpoint | kalshiChannels
  | keyId | privateKeyPem | keyIdEnv | privateKeyPemEnv
  | tickers
  | shardOrders | shardWorkingQty | shardNetPosition
  | globalOrders | globalMarketOrders | globalOutstandingQty | globalMarketOutstandingQty
  | portfolioNetPosition | portfolioGrossPosition | portfolioMinPnl | portfolioEnforcePnl
  | source | exchange | framePoolCapacity | frameQueueCapacity | shardCount
  | perShardQueueCapacity | shardIdleSleep
  | pumpBatchSize | pumpIdleSleep | executionMode
  deriving DecidableEq

inductive ConfigSection
  | kalshi | credentials | marketUniverse | risk | shard | omsGlobal | omsPortfolio | pipeline
  | runtime
  deriving DecidableEq

/-- The kinds of values. -/
inductive ValueKind
  | text | texts | flag | capacity | count | integer | nonNegative | exchange | executionMode
  deriving DecidableEq

namespace ValueKind

def Value : ValueKind → Type
  | text => String
  | texts => List String
  | flag => Bool
  | capacity | count => ℕ
  | integer | nonNegative => ℤ
  | exchange => DecodeExchangeId × ExchangeId
  | executionMode => TraderExecutionMode

/-- The names that an execution mode may be given. -/
def executionModeNames : TraderExecutionMode → List String
  | .live => ["live"]
  | .paper => ["paper"]
  | .marketDataOnly => ["md-only", "md_only", "market-data-only", "market_data_only"]

def IsCapacity (value : JsonValue) (x : ℕ) : Prop := value = .numberUnsigned x ∧ 0 < x

/-- The value of an integer of either type. -/
def IsInteger (value : JsonValue) (x : ℤ) : Prop :=
  value = .numberInteger x ∨ ∃ n : ℕ, value = .numberUnsigned n ∧ x = n

def IsNonNegative (value : JsonValue) (x : ℤ) : Prop := IsInteger value x ∧ 0 ≤ x

/-- The values of a document that a key of this kind may have, and what they stand for. -/
def Denotes : (kind : ValueKind) → JsonValue → kind.Value → Prop
  | text, value, x => value = .string x
  | texts, value, x => value = .array (x.map .string)
  | flag, value, x => value = .boolean x
  | capacity, value, x => IsCapacity value x
  | count, value, x => value = .numberUnsigned x
  | integer, value, x => IsInteger value x
  | nonNegative, value, x => IsNonNegative value x
  | exchange, value, x =>
    value = .string "kalshi" ∧ x = (.kalshi, .kalshi) ∨
    value = .string "polymarket" ∧ x = (.polymarket, .polymarket)
  | executionMode, value, x => ∃ name ∈ executionModeNames x, value = .string name

/-- The check that the loader makes for the kind. -/
def parse : (kind : ValueKind) → String → JsonValue → Except String kind.Value
  | text => parseString
  | texts => parseStringArray
  | flag => parseBool
  | capacity => parsePositiveSizeT
  | count => parseNonNegativeSizeT
  | integer => parseInt64
  | nonNegative => parseNonNegativeQty
  | exchange => fun _ ↦ parseExchange
  | executionMode => fun _ ↦ parseMode

end ValueKind

namespace ConfigSection

def path : ConfigSection → List String
  | kalshi => ["kalshi"]
  | credentials => ["kalshi", "credentials"]
  | marketUniverse => ["market_universe"]
  | risk => ["risk"]
  | shard => ["risk", "shard"]
  | omsGlobal => ["risk", "oms_global"]
  | omsPortfolio => ["risk", "oms_portfolio"]
  | pipeline => ["pipeline"]
  | runtime => ["runtime"]

end ConfigSection

namespace ConfigKey

def path : ConfigKey → List String
  | mode => ["mode"]
  | kalshiEndpoint => ["kalshi", "endpoint"]
  | kalshiChannels => ["kalshi", "channels"]
  | keyId => ["kalshi", "credentials", "key_id"]
  | privateKeyPem => ["kalshi", "credentials", "private_key_pem"]
  | keyIdEnv => ["kalshi", "credentials", "key_id_env"]
  | privateKeyPemEnv => ["kalshi", "credentials", "private_key_pem_env"]
  | tickers => ["market_universe", "tickers"]
  | shardOrders => ["risk", "shard", "max_open_orders_per_market"]
  | shardWorkingQty => ["risk", "shard", "max_working_qty_per_market"]
  | shardNetPosition => ["risk", "shard", "max_abs_net_position_per_market"]
  | globalOrders => ["risk", "oms_global", "max_active_orders_global"]
  | globalMarketOrders => ["risk", "oms_global", "max_active_orders_per_market"]
  | globalOutstandingQty => ["risk", "oms_global", "max_outstanding_qty_global"]
  | globalMarketOutstandingQty => ["risk", "oms_global", "max_outstanding_qty_per_market"]
  | portfolioNetPosition => ["risk", "oms_portfolio", "max_abs_net_position_per_market"]
  | portfolioGrossPosition => ["risk", "oms_portfolio", "max_abs_position_gross_global"]
  | portfolioMinPnl => ["risk", "oms_portfolio", "min_realized_pnl_ticks"]
  | portfolioEnforcePnl => ["risk", "oms_portfolio", "enforce_realized_pnl_floor"]
  | source => ["pipeline", "source"]
  | exchange => ["pipeline", "exchange"]
  | framePoolCapacity => ["pipeline", "frame_pool_capacity"]
  | frameQueueCapacity => ["pipeline", "frame_queue_capacity"]
  | shardCount => ["pipeline", "shard_count"]
  | perShardQueueCapacity => ["pipeline", "per_shard_queue_capacity"]
  | shardIdleSleep => ["pipeline", "shard_idle_sleep_ms"]
  | pumpBatchSize => ["runtime", "pump_batch_size"]
  | pumpIdleSleep => ["runtime", "pump_idle_sleep_ms"]
  | executionMode => ["runtime", "execution_mode"]

def kind : ConfigKey → ValueKind
  | mode | kalshiEndpoint | keyId | privateKeyPem | keyIdEnv | privateKeyPemEnv | source => .text
  | kalshiChannels | tickers => .texts
  | portfolioEnforcePnl => .flag
  | framePoolCapacity | frameQueueCapacity | shardCount | perShardQueueCapacity
  | pumpBatchSize => .capacity
  | shardOrders | globalOrders | globalMarketOrders => .count
  | portfolioMinPnl => .integer
  | shardWorkingQty | shardNetPosition | globalOutstandingQty | globalMarketOutstandingQty
  | portfolioNetPosition | portfolioGrossPosition | shardIdleSleep | pumpIdleSleep => .nonNegative
  | exchange => .exchange
  | executionMode => .executionMode

/-- The part of the configuration that a key is for. -/
def get : (key : ConfigKey) → TraderRuntimeConfig → key.kind.Value
  | mode, config => config.mode
  | kalshiEndpoint, config => config.kalshi.endpoint
  | kalshiChannels, config => config.kalshi.channels
  | keyId, config => config.kalshi.credentials.keyId
  | privateKeyPem, config => config.kalshi.credentials.privateKeyPem
  | keyIdEnv, config => config.kalshi.credentials.keyIdEnv
  | privateKeyPemEnv, config => config.kalshi.credentials.privateKeyPemEnv
  | tickers, config => config.marketUniverse.tickers
  | shardOrders, config => config.risk.shard.maxOpenOrdersPerMarket
  | shardWorkingQty, config => config.risk.shard.maxWorkingQtyPerMarket
  | shardNetPosition, config => config.risk.shard.maxAbsNetPositionPerMarket
  | globalOrders, config => config.risk.omsGlobal.maxActiveOrdersGlobal
  | globalMarketOrders, config => config.risk.omsGlobal.maxActiveOrdersPerMarket
  | globalOutstandingQty, config => config.risk.omsGlobal.maxOutstandingQtyGlobal
  | globalMarketOutstandingQty, config => config.risk.omsGlobal.maxOutstandingQtyPerMarket
  | portfolioNetPosition, config => config.risk.omsPortfolio.maxAbsNetPositionPerMarket
  | portfolioGrossPosition, config => config.risk.omsPortfolio.maxAbsPositionGrossGlobal
  | portfolioMinPnl, config => config.risk.omsPortfolio.minRealizedPnlTicks
  | portfolioEnforcePnl, config => config.risk.omsPortfolio.enforceRealizedPnlFloor
  | source, config => config.pipeline.source
  | exchange, config => (config.pipeline.decodeExchange, config.pipeline.routerExchange)
  | framePoolCapacity, config => config.pipeline.framePoolCapacity
  | frameQueueCapacity, config => config.pipeline.frameQueueCapacity
  | shardCount, config => config.pipeline.shardCount
  | perShardQueueCapacity, config => config.pipeline.perShardQueueCapacity
  | shardIdleSleep, config => config.pipeline.shardIdleSleep
  | pumpBatchSize, config => config.pumpBatchSize
  | pumpIdleSleep, config => config.pumpIdleSleep
  | executionMode, config => config.executionMode

/-- The configuration with the part of a key overwritten. -/
def set : (key : ConfigKey) → key.kind.Value → TraderRuntimeConfig → TraderRuntimeConfig
  | mode, value, config => { config with mode := value }
  | kalshiEndpoint, value, config => { config with kalshi.endpoint := value }
  | kalshiChannels, value, config => { config with kalshi.channels := value }
  | keyId, value, config => { config with kalshi.credentials.keyId := value }
  | privateKeyPem, value, config => { config with kalshi.credentials.privateKeyPem := value }
  | keyIdEnv, value, config => { config with kalshi.credentials.keyIdEnv := value }
  | privateKeyPemEnv, value, config => { config with kalshi.credentials.privateKeyPemEnv := value }
  | tickers, value, config => { config with marketUniverse.tickers := value }
  | shardOrders, value, config => { config with risk.shard.maxOpenOrdersPerMarket := value }
  | shardWorkingQty, value, config => { config with risk.shard.maxWorkingQtyPerMarket := value }
  | shardNetPosition, value, config =>
    { config with risk.shard.maxAbsNetPositionPerMarket := value }
  | globalOrders, value, config => { config with risk.omsGlobal.maxActiveOrdersGlobal := value }
  | globalMarketOrders, value, config =>
    { config with risk.omsGlobal.maxActiveOrdersPerMarket := value }
  | globalOutstandingQty, value, config =>
    { config with risk.omsGlobal.maxOutstandingQtyGlobal := value }
  | globalMarketOutstandingQty, value, config =>
    { config with risk.omsGlobal.maxOutstandingQtyPerMarket := value }
  | portfolioNetPosition, value, config =>
    { config with risk.omsPortfolio.maxAbsNetPositionPerMarket := value }
  | portfolioGrossPosition, value, config =>
    { config with risk.omsPortfolio.maxAbsPositionGrossGlobal := value }
  | portfolioMinPnl, value, config => { config with risk.omsPortfolio.minRealizedPnlTicks := value }
  | portfolioEnforcePnl, value, config =>
    { config with risk.omsPortfolio.enforceRealizedPnlFloor := value }
  | source, value, config => { config with pipeline.source := value }
  | exchange, value, config =>
    { config with pipeline.decodeExchange := value.1, pipeline.routerExchange := value.2 }
  | framePoolCapacity, value, config => { config with pipeline.framePoolCapacity := value }
  | frameQueueCapacity, value, config => { config with pipeline.frameQueueCapacity := value }
  | shardCount, value, config => { config with pipeline.shardCount := value }
  | perShardQueueCapacity, value, config => { config with pipeline.perShardQueueCapacity := value }
  | shardIdleSleep, value, config => { config with pipeline.shardIdleSleep := value }
  | pumpBatchSize, value, config => { config with pumpBatchSize := value }
  | pumpIdleSleep, value, config => { config with pumpIdleSleep := value }
  | executionMode, value, config => { config with executionMode := value }

theorem set_get (key : ConfigKey) (config : TraderRuntimeConfig) :
    key.set (key.get config) config = config := by
  cases key <;> rfl

/-- The keys in the order of the source. -/
def all : List ConfigKey :=
  [mode, kalshiEndpoint, kalshiChannels, keyId, privateKeyPem, keyIdEnv, privateKeyPemEnv, tickers,
    shardOrders, shardWorkingQty, shardNetPosition, globalOrders, globalMarketOrders,
    globalOutstandingQty, globalMarketOutstandingQty, portfolioNetPosition, portfolioGrossPosition,
    portfolioMinPnl, portfolioEnforcePnl, source, exchange, framePoolCapacity, frameQueueCapacity,
    shardCount, perShardQueueCapacity, shardIdleSleep, pumpBatchSize, pumpIdleSleep, executionMode]

/-- The keys cover the whole configuration. -/
theorem config_ext {config config' : TraderRuntimeConfig}
    (h : ∀ key : ConfigKey, key.get config = key.get config') : config = config' := by
  obtain ⟨_, _, ⟨_, _, ⟨_, _, _, _⟩⟩, ⟨_⟩, ⟨⟨_, _, _⟩, ⟨_, _, _, _⟩, ⟨_, _, _, _⟩⟩,
    ⟨_, _, _, _, _, _, _, _⟩, _, _⟩ := config
  obtain ⟨_, _, ⟨_, _, ⟨_, _, _, _⟩⟩, ⟨_⟩, ⟨⟨_, _, _⟩, ⟨_, _, _, _⟩, ⟨_, _, _, _⟩⟩,
    ⟨_, _, _, _, _, _, _, _⟩, _, _⟩ := config'
  obtain ⟨hdecode, hrouter⟩ := Prod.mk.inj (h exchange)
  simp only [TraderRuntimeConfig.mk.injEq, KalshiWsConfig.mk.injEq, CredentialConfig.mk.injEq,
    MarketUniverseConfig.mk.injEq, RiskConfig.mk.injEq, ShardRiskConfig.mk.injEq,
    GlobalRiskConfig.mk.injEq, PortfolioRiskConfig.mk.injEq, LivePipelineConfig.mk.injEq]
  exact ⟨h mode, h executionMode,
    ⟨h kalshiEndpoint, h kalshiChannels, h keyId, h privateKeyPem, h keyIdEnv, h privateKeyPemEnv⟩,
    h tickers,
    ⟨⟨h shardOrders, h shardWorkingQty, h shardNetPosition⟩,
      ⟨h globalOrders, h globalMarketOrders, h globalOutstandingQty, h globalMarketOutstandingQty⟩,
      h portfolioNetPosition, h portfolioGrossPosition, h portfolioMinPnl, h portfolioEnforcePnl⟩,
    ⟨h source, hdecode, hrouter, h framePoolCapacity, h frameQueueCapacity, h shardCount,
      h perShardQueueCapacity, h shardIdleSleep⟩,
    h pumpBatchSize, h pumpIdleSleep⟩

/-- A part depends on what is written into it and on no other part. -/
theorem get_foldl_set (values : (key : ConfigKey) → Option key.kind.Value) (key : ConfigKey)
    (config : TraderRuntimeConfig) :
    key.get (all.foldl (fun current key ↦ key.set ((values key).getD (key.get current)) current)
      config) = (values key).getD (key.get config) := by
  cases key <;> rfl

end ConfigKey

/-! ## Values -/

namespace ValueKind

theorem mapM_getString_iff {items : List JsonValue} {texts : List String} :
    items.mapM JsonValue.getString = some texts ↔ items = texts.map .string := by
  induction items generalizing texts with
  | nil =>
    cases texts with
    | nil => simp
    | cons text texts => simp
  | cons item items ih =>
    rw [List.mapM_cons]
    cases item with
    | string text =>
      simp only [JsonValue.getString, Option.bind_eq_bind, Option.bind_some,
        Option.bind_eq_some_iff, Option.pure_def, Option.some.injEq, ih]
      constructor
      · rintro ⟨texts, rfl, rfl⟩
        rfl
      · intro h
        obtain ⟨head, texts, rfl, hhead, htexts⟩ := List.map_eq_cons_iff.mp h.symm
        exact ⟨texts, htexts.symm, by rw [JsonValue.string.inj hhead]⟩
    | _ => cases texts <;> simp [JsonValue.getString]

theorem getInt64_eq_some_iff {value : JsonValue} (hfits : value.integersFit = true) {x : ℤ} :
    value.getInt64 = some x ↔ IsInteger value x := by
  cases value with
  | numberInteger y => simp [JsonValue.getInt64, IsInteger]
  | numberUnsigned n =>
    have hwrap : Json.wrapInt64 n = n := by
      rw [JsonValue.integersFit, decide_eq_true_eq] at hfits
      exact Json.wrapInt64_of_isInt64 ⟨by omega, by omega⟩
    simp [JsonValue.getInt64, IsInteger, hwrap, eq_comm]
  | _ => simp [JsonValue.getInt64, IsInteger]

variable {fieldName : String} {value : JsonValue}

theorem parseString_ok {x : String} :
    parseString fieldName value = .ok x ↔ value = .string x := by
  cases value <;> simp [parseString]

theorem parseStringArray_ok {x : List String} :
    parseStringArray fieldName value = .ok x ↔ value = .array (x.map .string) := by
  cases value with
  | array items =>
    rw [JsonValue.array.injEq, ← mapM_getString_iff, parseStringArray]
    cases items.mapM JsonValue.getString <;> simp
  | _ => simp [parseStringArray]

theorem parseBool_ok {x : Bool} : parseBool fieldName value = .ok x ↔ value = .boolean x := by
  cases value <;> simp [parseBool]

theorem parsePositiveSizeT_ok {x : ℕ} :
    parsePositiveSizeT fieldName value = .ok x ↔ IsCapacity value x := by
  cases value with
  | numberUnsigned n =>
    rw [parsePositiveSizeT, IsCapacity, JsonValue.numberUnsigned.injEq]
    split_ifs with hzero
    · refine iff_of_false nofun ?_
      rintro ⟨rfl, hpos⟩
      omega
    · rw [Except.ok.injEq]
      refine ⟨?_, And.left⟩
      rintro rfl
      exact ⟨rfl, Nat.pos_of_ne_zero hzero⟩
  | _ => simp [parsePositiveSizeT, IsCapacity]

theorem parseNonNegativeSizeT_ok {x : ℕ} :
    parseNonNegativeSizeT fieldName value = .ok x ↔ value = .numberUnsigned x := by
  cases value <;> simp [parseNonNegativeSizeT]

theorem parseInt64_ok (hfits : value.integersFit = true) {x : ℤ} :
    parseInt64 fieldName value = .ok x ↔ IsInteger value x := by
  rw [← getInt64_eq_some_iff hfits, parseInt64]
  cases value.getInt64 <;> simp

theorem parseNonNegativeQty_ok (hfits : value.integersFit = true) {x : ℤ} :
    parseNonNegativeQty fieldName value = .ok x ↔ IsNonNegative value x := by
  rw [IsNonNegative, ← parseInt64_ok hfits, parseNonNegativeQty]
  cases parseInt64 fieldName value with
  | error error => simp
  | ok parsed =>
    simp only [Except.ok.injEq]
    split_ifs with hneg
    · refine iff_of_false nofun ?_
      rintro ⟨rfl, hnonneg⟩
      omega
    · rw [Except.ok.injEq]
      refine ⟨?_, And.left⟩
      rintro rfl
      exact ⟨rfl, not_lt.mp hneg⟩

theorem parseExchange_ok {x : DecodeExchangeId × ExchangeId} :
    parseExchange value = .ok x ↔
      value = .string "kalshi" ∧ x = (.kalshi, .kalshi) ∨
      value = .string "polymarket" ∧ x = (.polymarket, .polymarket) := by
  rw [parseExchange]
  cases value with
  | string name =>
    simp only [parseString, parseExchangeId, JsonValue.string.injEq]
    by_cases hkalshi : name = "kalshi"
    · subst hkalshi
      simp [eq_comm]
    · by_cases hpolymarket : name = "polymarket"
      · subst hpolymarket
        simp [eq_comm]
      · simp [hkalshi, hpolymarket]
  | _ => simp [parseString]

theorem parseExecutionMode_eq_some_iff {name : String} {mode : TraderExecutionMode} :
    parseExecutionMode name = some mode ↔ name ∈ executionModeNames mode := by
  rw [parseExecutionMode]
  split_ifs with hlive hpaper hmarketData
  · subst hlive
    cases mode <;> simp [executionModeNames]
  · subst hpaper
    cases mode <;> simp [executionModeNames]
  · rcases hmarketData with rfl | rfl | rfl | rfl
    all_goals cases mode <;> simp [executionModeNames]
  · cases mode with
    | live => simp [executionModeNames, hlive]
    | paper => simp [executionModeNames, hpaper]
    | marketDataOnly => simpa [executionModeNames] using hmarketData

theorem parseMode_ok {x : TraderExecutionMode} :
    parseMode value = .ok x ↔ ∃ name ∈ executionModeNames x, value = .string name := by
  rw [parseMode]
  cases value with
  | string name =>
    simp only [parseString, JsonValue.string.injEq, exists_eq_right', ←
      parseExecutionMode_eq_some_iff]
    cases parseExecutionMode name <;> simp
  | _ => simp [parseString]

/-- The check of a kind accepts its values and yields what they stand for. -/
theorem parse_eq_ok_iff {kind : ValueKind} (hfits : value.integersFit = true) {x : kind.Value} :
    kind.parse fieldName value = .ok x ↔ kind.Denotes value x := by
  cases kind with
  | text => exact parseString_ok
  | texts => exact parseStringArray_ok
  | flag => exact parseBool_ok
  | capacity => exact parsePositiveSizeT_ok
  | count => exact parseNonNegativeSizeT_ok
  | integer => exact parseInt64_ok hfits
  | nonNegative => exact parseNonNegativeQty_ok hfits
  | exchange => exact parseExchange_ok
  | executionMode => exact parseMode_ok

end ValueKind

namespace ConfigKey

/-- What a key says about its part of the configuration. -/
def Holds (key : ConfigKey) (root : JsonValue) (config : TraderRuntimeConfig) : Prop :=
  match root.atPath key.path with
  | none => key.get config = key.get {}
  | some value => key.kind.Denotes value (key.get config)

/-- Every default could have been written in a document. -/
theorem exists_denotes_default (key : ConfigKey) :
    ∃ value, key.kind.Denotes value (key.get {}) := by
  cases key
  case exchange => exact ⟨.string "kalshi", .inl ⟨rfl, rfl⟩⟩
  case executionMode => exact ⟨.string "live", "live", List.mem_singleton_self "live", rfl⟩
  case portfolioMinPnl => exact ⟨.numberInteger 0, .inl rfl⟩
  case framePoolCapacity | frameQueueCapacity | shardCount | perShardQueueCapacity |
      pumpBatchSize =>
    exact ⟨_, rfl, Nat.succ_pos _⟩
  case shardWorkingQty | shardNetPosition | globalOutstandingQty | globalMarketOutstandingQty |
      portfolioNetPosition | portfolioGrossPosition =>
    exact ⟨.numberInteger 0, .inl rfl, le_refl (0 : ℤ)⟩
  case shardIdleSleep | pumpIdleSleep => exact ⟨.numberInteger 1, .inl rfl, Int.one_nonneg⟩
  all_goals exact ⟨_, rfl⟩

/-- The value of a key, if it is there and passes its check. -/
def readValue (key : ConfigKey) (root : JsonValue) : Option key.kind.Value :=
  (root.atPath key.path).bind fun value ↦
    (key.kind.parse (".".intercalate key.path) value).toOption

end ConfigKey

end TraderConfig

end TradingEngine
