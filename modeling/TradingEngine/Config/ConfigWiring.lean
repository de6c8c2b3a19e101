import TradingEngine.Config.ConfigKeys

/-!
# Every key is wired to its own part

The loader is a list of steps in the order of the source (`readRoot_eq`), each of which is the step
of a key or looks whether a section is an object.

So a document is accepted exactly when it is well typed, and the configuration is then the only one
with which every key agrees (`trader_config_wired`). No key reaches into the part of another one,
and keys that are not listed have no effect. The error for any other document names a key or a
section (`parseFromJson_of_not_wellTyped`).
-/

namespace TradingEngine

namespace TraderConfig

open Load (Step visitAll readField_eq readSection_eq visitAll_append)

/-! ## The steps of the loader -/

/-- The step of a key, as it is seen `depth` sections down. -/
def ConfigKey.stepIn (depth : ℕ) (key : ConfigKey) : Step TraderRuntimeConfig where
  path := key.path.drop depth
  read value := (key.kind.parse (".".intercalate key.path) value).map key.set

def ConfigSection.stepIn (depth : ℕ) (s : ConfigSection) : Step TraderRuntimeConfig where
  path := s.path.drop depth
  read value :=
    if value.isObject then .ok id else .error (".".intercalate s.path ++ " must be an object")

/-- What the loader looks at: a key or a section. -/
inductive ConfigEntry
  | key (k : ConfigKey)
  | object (s : ConfigSection)
  deriving DecidableEq

def ConfigEntry.path : ConfigEntry → List String
  | .key k => k.path
  | .object s => s.path

def ConfigEntry.stepIn (depth : ℕ) : ConfigEntry → Step TraderRuntimeConfig
  | .key k => k.stepIn depth
  | .object s => s.stepIn depth

def credentialEntries : List ConfigEntry :=
  [.key .keyId, .key .privateKeyPem, .key .keyIdEnv, .key .privateKeyPemEnv]

def kalshiEntries : List ConfigEntry :=
  [.key .kalshiEndpoint, .key .kalshiChannels, .object .credentials] ++ credentialEntries

def shardRiskEntries : List ConfigEntry :=
  [.key .shardOrders, .key .shardWorkingQty, .key .shardNetPosition]

def omsGlobalRiskEntries : List ConfigEntry :=
  [.key .globalOrders, .key .globalMarketOrders, .key .globalOutstandingQty,
    .key .globalMarketOutstandingQty]

def omsPortfolioRiskEntries : List ConfigEntry :=
  [.key .portfolioNetPosition, .key .portfolioGrossPosition, .key .portfolioMinPnl,
    .key .portfolioEnforcePnl]

def riskEntries : List ConfigEntry :=
  .object .shard :: shardRiskEntries ++ (.object .omsGlobal :: omsGlobalRiskEntries) ++
    (.object .omsPortfolio :: omsPortfolioRiskEntries)

def pipelineEntries : List ConfigEntry :=
  [.key .source, .key .exchange, .key .framePoolCapacity, .key .frameQueueCapacity,
    .key .shardCount, .key .perShardQueueCapacity, .key .shardIdleSleep]

def runtimeEntries : List ConfigEntry :=
  [.key .pumpBatchSize, .key .pumpIdleSleep, .key .executionMode]

/-- Everything that the loader looks at, in the order of the source. -/
def configEntries : List ConfigEntry :=
  .key .mode :: (.object .kalshi :: kalshiEntries) ++ [.object .marketUniverse, .key .tickers] ++
    (.object .risk :: riskEntries) ++ (.object .pipeline :: pipelineEntries) ++
    (.object .runtime :: runtimeEntries)

theorem mem_configEntries (entry : ConfigEntry) : entry ∈ configEntries := by
  cases entry with
  | key k => cases k <;> decide
  | object s => cases s <;> decide

/-- Times in milliseconds are checked like quantities. -/
theorem parseNonNegativeMs_eq : parseNonNegativeMs = parseNonNegativeQty := by
  funext fieldName value
  rw [parseNonNegativeMs, parseNonNegativeQty, parseInt64]
  cases value.getInt64 with
  | none => rfl
  | some parsed => rfl

theorem readCredentials_eq (creds : JsonValue) :
    readCredentials creds = visitAll creds (credentialEntries.map (ConfigEntry.stepIn 2)) := by
  simp only [readCredentials, readField_eq, ← visitAll_append]
  rfl

theorem readKalshi_eq (kalshi : JsonValue) :
    readKalshi kalshi = visitAll kalshi (kalshiEntries.map (ConfigEntry.stepIn 1)) := by
  simp only [readKalshi, readField_eq, readSection_eq readCredentials_eq, ← visitAll_append]
  rfl

theorem readMarketUniverse_eq (marketUniverse : JsonValue) :
    readMarketUniverse marketUniverse =
      visitAll marketUniverse ([.key .tickers].map (ConfigEntry.stepIn 1)) := by
  rw [readMarketUniverse, readField_eq]
  rfl

theorem readShardRisk_eq (shard : JsonValue) :
    readShardRisk shard = visitAll shard (shardRiskEntries.map (ConfigEntry.stepIn 2)) := by
  simp only [readShardRisk, readField_eq, ← visitAll_append]
  rfl

theorem readOmsGlobalRisk_eq (omsGlobal : JsonValue) :
    readOmsGlobalRisk omsGlobal =
      visitAll omsGlobal (omsGlobalRiskEntries.map (ConfigEntry.stepIn 2)) := by
  simp only [readOmsGlobalRisk, readField_eq, ← visitAll_append]
  rfl

theorem readOmsPortfolioRisk_eq (omsPortfolio : JsonValue) :
    readOmsPortfolioRisk omsPortfolio =
      visitAll omsPortfolio (omsPortfolioRiskEntries.map (ConfigEntry.stepIn 2)) := by
  simp only [readOmsPortfolioRisk, readField_eq, ← visitAll_append]
  rfl

theorem readRisk_eq (risk : JsonValue) :
    readRisk risk = visitAll risk (riskEntries.map (ConfigEntry.stepIn 1)) := by
  simp only [readRisk, readSection_eq readShardRisk_eq, readSection_eq readOmsGlobalRisk_eq,
    readSection_eq readOmsPortfolioRisk_eq, ← visitAll_append]
  rfl

theorem readPipeline_eq (pipeline : JsonValue) :
    readPipeline pipeline = visitAll pipeline (pipelineEntries.map (ConfigEntry.stepIn 1)) := by
  simp only [readPipeline, readField_eq, parseNonNegativeMs_eq, ← visitAll_append]
  rfl

theorem readRuntime_eq (runtime : JsonValue) :
    readRuntime runtime = visitAll runtime (runtimeEntries.map (ConfigEntry.stepIn 1)) := by
  simp only [readRuntime, readField_eq, parseNonNegativeMs_eq, ← visitAll_append]
  rfl

theorem readRoot_eq (root : JsonValue) :
    readRoot root = visitAll root (configEntries.map (ConfigEntry.stepIn 0)) := by
  simp only [readRoot, readField_eq, readSection_eq readKalshi_eq,
    readSection_eq readMarketUniverse_eq, readSection_eq readRisk_eq,
    readSection_eq readPipeline_eq, readSection_eq readRuntime_eq, ← visitAll_append]
  rfl

/-! ## What the steps do -/

namespace ConfigKey

theorem passes_iff {key : ConfigKey} {root : JsonValue} (hfits : root.integersFit = true) :
    (key.stepIn 0).Passes root ↔
      ∀ value, root.atPath key.path = some value → ∃ x, key.kind.Denotes value x := by
  refine forall₂_congr fun value hat ↦ ?_
  have hvalue : value.integersFit = true := JsonValue.integersFit_of_atPath hfits hat
  have hparse : ∀ x, key.kind.Denotes value x ↔
      key.kind.parse (".".intercalate key.path) value = .ok x :=
    fun x ↦ (ValueKind.parse_eq_ok_iff hvalue).symm
  simp only [stepIn, hparse]
  cases key.kind.parse (".".intercalate key.path) value with
  | ok x => simp [Except.map]
  | error error => simp [Except.map]

theorem apply_stepIn (key : ConfigKey) (root : JsonValue) (config : TraderRuntimeConfig) :
    (key.stepIn 0).apply root config =
      key.set ((key.readValue root).getD (key.get config)) config := by
  rw [Step.apply, readValue, stepIn, List.drop_zero]
  cases root.atPath key.path with
  | none => exact (key.set_get config).symm
  | some value =>
    simp only [Option.bind_some]
    cases key.kind.parse (".".intercalate key.path) value with
    | ok x => rfl
    | error error => exact (key.set_get config).symm

/-- A key that passes holds of the configurations with its value, or with the default. -/
theorem holds_iff {key : ConfigKey} {root : JsonValue} (hfits : root.integersFit = true)
    (hpasses : (key.stepIn 0).Passes root) {config : TraderRuntimeConfig} :
    key.Holds root config ↔ key.get config = (key.readValue root).getD (key.get {}) := by
  have hdenotes := (passes_iff hfits).mp hpasses
  rw [Holds, readValue]
  cases hat : root.atPath key.path with
  | none => rfl
  | some value =>
    have hvalue : value.integersFit = true := JsonValue.integersFit_of_atPath hfits hat
    obtain ⟨x, hx⟩ := hdenotes value hat
    have hparse : key.kind.parse (".".intercalate key.path) value = .ok x :=
      (ValueKind.parse_eq_ok_iff hvalue).mpr hx
    simp only [Option.bind_some, hparse, Except.toOption, Option.getD_some]
    rw [← ValueKind.parse_eq_ok_iff hvalue, hparse, Except.ok.injEq, eq_comm]

end ConfigKey

theorem ConfigSection.passes_iff {s : ConfigSection} {root : JsonValue} :
    (s.stepIn 0).Passes root ↔
      ∀ value, root.atPath s.path = some value → value.isObject = true := by
  refine forall₂_congr fun value _ ↦ ?_
  simp only [stepIn]
  split_ifs with h <;> simp [h]

theorem ConfigSection.apply_stepIn (s : ConfigSection) (root : JsonValue)
    (config : TraderRuntimeConfig) : (s.stepIn 0).apply root config = config := by
  rw [Step.apply, ConfigSection.stepIn]
  cases root.atPath (s.path.drop 0) with
  | none => rfl
  | some value =>
    by_cases h : value.isObject = true
    · simp only [if_pos h]
      rfl
    · simp only [if_neg h]

/-! ## Well-typed documents -/

/-- The root and every section that is there are objects, and every key that is there has a value of
its kind. -/
structure WellTyped (root : JsonValue) : Prop where
  root_object : root.isObject = true
  sections : ∀ (s : ConfigSection) value, root.atPath s.path = some value → value.isObject = true
  keys : ∀ (key : ConfigKey) value, root.atPath key.path = some value →
    ∃ x, key.kind.Denotes value x

/-- The documents have the same values under all keys, and objects in the same places. -/
structure SameKeys (root root' : JsonValue) : Prop where
  root_object : root.isObject = root'.isObject
  sections : ∀ s : ConfigSection,
    (root.atPath s.path).map JsonValue.isObject = (root'.atPath s.path).map JsonValue.isObject
  keys : ∀ key : ConfigKey, root.atPath key.path = root'.atPath key.path

theorem wellTyped_iff {root : JsonValue} (hfits : root.integersFit = true) :
    WellTyped root ↔ root.isObject = true ∧
      ∀ step ∈ configEntries.map (ConfigEntry.stepIn 0), step.Passes root := by
  simp only [List.forall_mem_map]
  constructor
  · intro h
    refine ⟨h.root_object, fun entry _ ↦ ?_⟩
    cases entry with
    | key k => exact (ConfigKey.passes_iff hfits).mpr (h.keys k)
    | object s => exact ConfigSection.passes_iff.mpr (h.sections s)
  · rintro ⟨hroot, hsteps⟩
    exact ⟨hroot, fun s ↦ ConfigSection.passes_iff.mp (hsteps (.object s) (mem_configEntries _)),
      fun k ↦ (ConfigKey.passes_iff hfits).mp (hsteps (.key k) (mem_configEntries _))⟩

/-- The defaults, with the parts of the keys that can be read overwritten. -/
def overwritten (root : JsonValue) : TraderRuntimeConfig :=
  ConfigKey.all.foldl
    (fun current key ↦ key.set ((key.readValue root).getD (key.get current)) current) {}

theorem get_overwritten (key : ConfigKey) (root : JsonValue) :
    key.get (overwritten root) = (key.readValue root).getD (key.get {}) :=
  key.get_foldl_set (fun key ↦ key.readValue root) {}

/-- Only the keys among the steps write anything. -/
theorem foldl_apply (root : JsonValue) :
    (configEntries.map (ConfigEntry.stepIn 0)).foldl (fun record step ↦ step.apply root record) {} =
      overwritten root := by
  have hkeys : ConfigKey.all = configEntries.filterMap fun
      | .key k => some k
      | .object _ => none := rfl
  rw [overwritten, hkeys, List.foldl_filterMap, List.foldl_map]
  congr 1
  funext current entry
  cases entry with
  | key k => exact k.apply_stepIn root current
  | object s => exact s.apply_stepIn root current

theorem parseFromJson_of_wellTyped {root : JsonValue} (hfits : root.integersFit = true)
    (h : WellTyped root) : parseFromJson root = { ok := true, config := overwritten root } := by
  obtain ⟨hroot, hpasses⟩ := (wellTyped_iff hfits).mp h
  have hexec : Load.exec (readRoot root) {} = (.ok (), overwritten root) := by
    rw [readRoot_eq, Load.exec_visitAll_of_passes hpasses, foldl_apply]
  simp only [parseFromJson, hroot, hexec, Bool.not_true, Bool.false_eq_true, if_false]

/-! ## Errors -/

section

variable {fieldName error : String} {value : JsonValue}

theorem parseString_error (h : parseString fieldName value = .error error) :
    ∃ rest, error = fieldName ++ rest := by
  cases value with
  | string parsed => cases h
  | _ => exact ⟨_, (Except.error.inj h).symm⟩

theorem parseStringArray_error (h : parseStringArray fieldName value = .error error) :
    ∃ rest, error = fieldName ++ rest := by
  cases value with
  | array items =>
    rw [parseStringArray] at h
    split at h <;> cases h
    exact ⟨_, rfl⟩
  | _ => exact ⟨_, (Except.error.inj h).symm⟩

theorem parseBool_error (h : parseBool fieldName value = .error error) :
    ∃ rest, error = fieldName ++ rest := by
  cases value with
  | boolean parsed => cases h
  | _ => exact ⟨_, (Except.error.inj h).symm⟩

theorem parsePositiveSizeT_error (h : parsePositiveSizeT fieldName value = .error error) :
    ∃ rest, error = fieldName ++ rest := by
  cases value with
  | numberUnsigned parsed =>
    rw [parsePositiveSizeT] at h
    split_ifs at h
    exact ⟨_, (Except.error.inj h).symm⟩
  | _ => exact ⟨_, (Except.error.inj h).symm⟩

theorem parseNonNegativeSizeT_error (h : parseNonNegativeSizeT fieldName value = .error error) :
    ∃ rest, error = fieldName ++ rest := by
  cases value with
  | numberUnsigned parsed => cases h
  | _ => exact ⟨_, (Except.error.inj h).symm⟩

theorem parseInt64_error (h : parseInt64 fieldName value = .error error) :
    ∃ rest, error = fieldName ++ rest := by
  rw [parseInt64] at h
  split at h <;> cases h
  exact ⟨_, rfl⟩

theorem parseNonNegativeQty_error (h : parseNonNegativeQty fieldName value = .error error) :
    ∃ rest, error = fieldName ++ rest := by
  rw [parseNonNegativeQty] at h
  cases hparsed : parseInt64 fieldName value with
  | error error' =>
    rw [hparsed] at h
    rw [← Except.error.inj h]
    exact parseInt64_error hparsed
  | ok parsed =>
    simp only [hparsed] at h
    split_ifs at h
    exact ⟨_, (Except.error.inj h).symm⟩

theorem parseExchange_error (h : parseExchange value = .error error) :
    ∃ rest, error = "pipeline.exchange" ++ rest := by
  rw [parseExchange] at h
  cases hname : parseString "pipeline.exchange" value with
  | error error' =>
    rw [hname] at h
    rw [← Except.error.inj h]
    exact parseString_error hname
  | ok name =>
    simp only [hname] at h
    split at h <;> cases h
    exact ⟨" must be one of: kalshi, polymarket", rfl⟩

theorem parseMode_error (h : parseMode value = .error error) :
    ∃ rest, error = "runtime.execution_mode" ++ rest := by
  rw [parseMode] at h
  cases hname : parseString "runtime.execution_mode" value with
  | error error' =>
    rw [hname] at h
    rw [← Except.error.inj h]
    exact parseString_error hname
  | ok name =>
    simp only [hname] at h
    split at h <;> cases h
    exact ⟨" must be one of: live, paper, md-only", rfl⟩

/-- A check that fails names the field that it is told to check. Two checks have the field in their
own texts. -/
theorem ValueKind.error_names_field {kind : ValueKind}
    (hexchange : kind = .exchange → fieldName = "pipeline.exchange")
    (hmode : kind = .executionMode → fieldName = "runtime.execution_mode")
    (h : kind.parse fieldName value = .error error) : ∃ rest, error = fieldName ++ rest := by
  cases kind with
  | text => exact parseString_error h
  | texts => exact parseStringArray_error h
  | flag => exact parseBool_error h
  | capacity => exact parsePositiveSizeT_error h
  | count => exact parseNonNegativeSizeT_error h
  | integer => exact parseInt64_error h
  | nonNegative => exact parseNonNegativeQty_error h
  | exchange => exact hexchange rfl ▸ parseExchange_error h
  | executionMode => exact hmode rfl ▸ parseMode_error h

end

/-- A step that fails names its key or section. -/
theorem ConfigEntry.error_names_path {entry : ConfigEntry} {value : JsonValue} {error : String}
    (h : (entry.stepIn 0).read value = .error error) :
    ∃ rest, error = ".".intercalate entry.path ++ rest := by
  cases entry with
  | key k =>
    have hexchange : k.kind = .exchange → ".".intercalate k.path = "pipeline.exchange" := by
      cases k <;> decide
    have hmode : k.kind = .executionMode → ".".intercalate k.path = "runtime.execution_mode" := by
      cases k <;> decide
    simp only [ConfigEntry.stepIn, ConfigKey.stepIn] at h
    cases hparse : k.kind.parse (".".intercalate k.path) value with
    | ok x =>
      rw [hparse] at h
      cases h
    | error error' =>
      rw [hparse] at h
      obtain rfl : error' = error := Except.error.inj h
      exact ValueKind.error_names_field hexchange hmode hparse
  | object s =>
    simp only [ConfigEntry.stepIn, ConfigSection.stepIn] at h
    split_ifs at h
    exact ⟨_, (Except.error.inj h).symm⟩

theorem parseFromJson_of_not_wellTyped {root : JsonValue} (hfits : root.integersFit = true)
    (h : ¬WellTyped root) : (parseFromJson root).ok = false ∧
      (root.isObject = true → ∃ (entry : ConfigEntry) (rest : String),
        (parseFromJson root).error = ".".intercalate entry.path ++ rest) := by
  rw [wellTyped_iff hfits, not_and] at h
  rw [parseFromJson]
  cases hroot : root.isObject with
  | false => exact ⟨rfl, nofun⟩
  | true =>
    obtain ⟨step, hstep, value, error, hread, hexec⟩ :=
      Load.exec_visitAll_of_not_passes (h hroot) {}
    obtain ⟨entry, -, rfl⟩ := List.mem_map.mp hstep
    obtain ⟨rest, hrest⟩ := entry.error_names_path hread
    rw [← readRoot_eq] at hexec
    rcases hresult : Load.exec (readRoot root) {} with ⟨outcome, config⟩
    rw [hresult] at hexec
    simp only at hexec
    rw [hexec]
    exact ⟨rfl, fun _ ↦ ⟨entry, rest, hrest⟩⟩

theorem parseFromJson_congr {root root' : JsonValue} (h : SameKeys root root') :
    parseFromJson root = parseFromJson root' := by
  have hvisit : ∀ step ∈ configEntries.map (ConfigEntry.stepIn 0),
      Load.visit root step = Load.visit root' step := by
    simp only [List.forall_mem_map]
    intro entry _
    cases entry with
    | key k =>
      have hat : root.atPath (k.stepIn 0).path = root'.atPath (k.stepIn 0).path := h.keys k
      simp only [Load.visit, ConfigEntry.stepIn, hat]
    | object s =>
      have hat : (root.atPath (s.stepIn 0).path).map JsonValue.isObject =
          (root'.atPath (s.stepIn 0).path).map JsonValue.isObject := h.sections s
      rw [Load.visit, Load.visit, ConfigEntry.stepIn]
      -- the step asks for nothing but whether there is an object
      cases hroot : root.atPath (s.stepIn 0).path with
      | none =>
        rw [hroot, Option.map_none, eq_comm, Option.map_eq_none_iff] at hat
        rw [hat]
      | some value =>
        rw [hroot, Option.map_some, eq_comm, Option.map_eq_some_iff] at hat
        obtain ⟨value', hvalue', hobject⟩ := hat
        rw [hvalue']
        simp only [ConfigSection.stepIn, hobject]
  rw [parseFromJson, parseFromJson, h.root_object, readRoot_eq, readRoot_eq,
    Load.visitAll_congr hvisit]

/-- The checks pass, so the configuration is the one with which every key agrees. -/
theorem overwritten_eq_iff {root : JsonValue} (hfits : root.integersFit = true)
    (h : WellTyped root) {config : TraderRuntimeConfig} :
    overwritten root = config ↔ ∀ key : ConfigKey, key.Holds root config := by
  have hholds : ∀ key : ConfigKey, key.Holds root config ↔
      key.get config = key.get (overwritten root) := by
    intro key
    rw [key.holds_iff hfits ((ConfigKey.passes_iff hfits).mpr (h.keys key)), get_overwritten]
  simp only [hholds]
  constructor
  · rintro rfl key
    rfl
  · exact fun hget ↦ ConfigKey.config_ext fun key ↦ (hget key).symm

/-- **Config loading is exact.** A document is accepted if and only if it is well typed, and then
the configuration is the only one with which every key agrees: defaults where the key is missing,
and its value where it is there. So the part of a key is the same in all documents with the same
value under this key, and documents with the same keys are loaded alike, whatever else is in
them. -/
theorem trader_config_wired {Text : Type*} {parse : Text → Except String JsonValue} {text : Text}
    {root : JsonValue} (hparse : parse text = .ok root) (hfits : root.integersFit = true) :
    ((loadTraderConfigFromJson parse text).ok = true ↔ WellTyped root) ∧
    ((loadTraderConfigFromJson parse text).ok = true → ∀ config,
      (loadTraderConfigFromJson parse text).config = config ↔
        ∀ key : ConfigKey, key.Holds root config) ∧
    (∀ text' root', parse text' = .ok root' → root'.integersFit = true →
      (loadTraderConfigFromJson parse text).ok = true →
      (loadTraderConfigFromJson parse text').ok = true →
      ∀ key : ConfigKey, root.atPath key.path = root'.atPath key.path →
        key.get (loadTraderConfigFromJson parse text).config =
          key.get (loadTraderConfigFromJson parse text').config) ∧
    (∀ text' root', parse text' = .ok root' → SameKeys root root' →
      loadTraderConfigFromJson parse text = loadTraderConfigFromJson parse text') := by
  have hload : ∀ {text root}, parse text = .ok root →
      loadTraderConfigFromJson parse text = parseFromJson root := by
    intro text root hparse
    rw [loadTraderConfigFromJson, hparse]
  have haccepts : ∀ {root : JsonValue}, root.integersFit = true →
      ((parseFromJson root).ok = true ↔ WellTyped root) := by
    intro root hfits
    refine ⟨fun hok ↦ ?_, fun h ↦ by rw [parseFromJson_of_wellTyped hfits h]⟩
    by_contra h
    rw [(parseFromJson_of_not_wellTyped hfits h).1] at hok
    cases hok
  rw [hload hparse, haccepts hfits]
  refine ⟨Iff.rfl, ?_, ?_, ?_⟩
  · intro h config
    rw [parseFromJson_of_wellTyped hfits h]
    exact overwritten_eq_iff hfits h
  · intro text' root' hparse' hfits' h h' key hsame
    rw [hload hparse', haccepts hfits'] at h'
    rw [hload hparse', parseFromJson_of_wellTyped hfits h, parseFromJson_of_wellTyped hfits' h']
    simp only [get_overwritten, ConfigKey.readValue, hsame]
  · intro text' root' hparse' hsame
    rw [hload hparse', parseFromJson_congr hsame]

/-- A document with a key, a section and a value that nothing asks for, and a limit that is set. -/
def partialRoot : JsonValue :=
  .object [("comment", .null), ("mode", .string "paper"),
    ("risk", .object [("desk", .object []),
      ("shard", .object [("max_abs_net_position_per_market", .numberUnsigned 25)])]),
    ("runtime", .object [("execution_mode", .string "md_only")])]

/-- The keys that are there set their own parts, and the rest keeps its defaults. -/
theorem trader_config_wired_partial :
    WellTyped partialRoot ∧
    (loadTraderConfigFromJson id (.ok partialRoot)).config =
      { mode := "paper", executionMode := .marketDataOnly,
        risk := { shard := { maxAbsNetPositionPerMarket := 25 } } } ∧
    (loadTraderConfigFromJson id (.ok partialRoot)).ok = true := by
  obtain ⟨haccepted, hconfig, -, -⟩ :=
    @trader_config_wired _ id (.ok partialRoot) partialRoot rfl rfl
  have hok : (loadTraderConfigFromJson id (.ok partialRoot)).ok = true := rfl
  refine ⟨haccepted.mp hok, (hconfig hok _).mpr fun key ↦ ?_, hok⟩
  cases key with
  | mode => exact rfl
  | shardNetPosition => exact ⟨.inr ⟨25, rfl, rfl⟩, Int.natCast_nonneg 25⟩
  | executionMode => exact ⟨"md_only", by decide, rfl⟩
  | _ => rfl

end TraderConfig

end TradingEngine
