import TradingEngine.Lib.Machine
import TradingEngine.Oms.Interfaces
import TradingEngine.Oms.OrderManagerCore

/-!
# The order manager

The order manager owns the tracking core, the outbound queue and a worker thread. Any number of
threads call `submit`, one thread calls `start` and `stop`, and the worker drains the queue and
pumps updates in a loop. The three are interleaved at the granularity of the source's locks: every
input of the machine is one region that a thread executes without interference, and between two
regions any other thread may run.

* A submission is four regions: the check of the running flag together with the request id, the
  validation under the core lock, the push under the queue lock, and the count after the queue lock
  is given up. `submits` holds the calls that are between two of them.
* `start` is one region. `stop` is three: the stop request, closing the transport, and the join,
  which waits for the worker to leave its loop.
* The worker's place in its loop is `Worker`. A batch taken from the queue is handled intent by
  intent: the global gate, the portfolio gate, then encoding and sending. A gate's reject is
  applied under the lock that the gate is evaluated under; that it is handed to the sink after the
  lock is given up does not matter, since only the worker calls the sink.

`log` is a history of the run, newest entry first, that the code does not keep. Entries are keyed by
request ids, which are never used twice.
-/

namespace TradingEngine

structure PendingIntent where
  requestId : ℕ := 0
  intent : OrderIntent := {}
  deriving DecidableEq

/-- A thread that calls `submit`. -/
abbrev ThreadId := ℕ

/-- A `submit` call between two of its regions. -/
inductive SubmitCall
  /-- It has its request id and is about to take the core lock. -/
  | validating (pending : PendingIntent)
  /-- It is accepted and is about to take the queue lock. -/
  | enqueuing (pending : PendingIntent)
  /-- Its intent is in the queue, and it is about to be counted and to return its request id. -/
  | counting (requestId : ℕ)
  deriving DecidableEq

/-- The place of the worker in `run`. -/
inductive Worker
  /-- There is no thread to join. -/
  | notJoinable
  /-- At the head of the loop, about to look at the stop token. -/
  | loop
  /-- About to look at the queue. -/
  | polling
  /-- At the head of the loop over a batch. -/
  | draining (batch : List PendingIntent)
  /-- The global gate has let the first intent through. -/
  | gated (pending : PendingIntent) (rest : List PendingIntent)
  /-- Both gates have, and it is about to be encoded and sent. -/
  | cleared (pending : PendingIntent) (rest : List PendingIntent)
  /-- About to pump one update. -/
  | pumping
  /-- Out of the loop. -/
  | exited
  deriving DecidableEq

/-- What is left of the batch, the intent in hand included. -/
def Worker.batch : Worker → List PendingIntent
  | .draining batch => batch
  | .gated pending rest | .cleared pending rest => pending :: rest
  | .notJoinable | .loop | .polling | .pumping | .exited => []

/-- The place of a `stop` call. -/
inductive Control
  | idle | closing | joining
  deriving DecidableEq

/-- An entry of the history. -/
inductive LogEntry (Text : Type*)
  /-- A submission was accepted; `target` is the request that created the order it acts on. -/
  | accepted (requestId : ℕ) (target : Option ℕ)
  /-- The transport took the payload that this request was encoded as. -/
  | sent (requestId : ℕ) (payload : Text)
  /-- The core accepted an update for the order of this request and handed it on. -/
  | applied (requestId : ℕ) (update : OrderStateUpdate)
  deriving DecidableEq

def LogEntry.requestId {Text : Type*} : LogEntry Text → ℕ
  | .accepted requestId _ | .sent requestId _ | .applied requestId _ => requestId

/-- The request that an entry says the transport took, with the payload that it was handed. -/
def LogEntry.sentRequest {Text : Type*} : LogEntry Text → Option (ℕ × Text)
  | .sent requestId payload => some (requestId, payload)
  | .accepted _ _ | .applied _ _ => none

def LogEntry.sentId {Text : Type*} (entry : LogEntry Text) : Option ℕ :=
  entry.sentRequest.map Prod.fst

/-- The counters of the manager itself. -/
structure OrderManagerCounters where
  submittedCount : ℕ := 0
  sentCount : ℕ := 0
  sendFailedCount : ℕ := 0
  receiveCount : ℕ := 0
  parseFailedCount : ℕ := 0
  updateDropCount : ℕ := 0
  unsupportedIntentCount : ℕ := 0
  deriving DecidableEq

/-- What an order manager is constructed from: its parties and the limits of its gates. -/
structure OrderManagerConfig (Text τ σ : Type*) where
  adapter : IExchangeOmsAdapter Text
  transport : IOrderTransport Text τ
  eventSink : IOrderEventSink σ
  portfolioSnapshotProvider : Option (IPortfolioRiskSnapshotProvider σ) := none
  globalRisk : GlobalRiskConfig := {}
  portfolioRisk : PortfolioRiskConfig := {}

structure OrderManager (Text τ σ : Type*) where
  core : OrderManagerCore
  outboundQueue : List PendingIntent := []
  running : Bool := false
  worker : Worker := .notJoinable
  stopRequested : Bool := false
  control : Control := .idle
  submits : UnorderedMap ThreadId SubmitCall := ∅
  nextRequestId : ℕ := 1
  counters : OrderManagerCounters := {}
  lastError : String := ""
  transport : τ
  sink : σ
  log : List (LogEntry Text) := []

/-- One region of one thread. `now` is what the clock shows. -/
inductive OrderManagerInput
  | submitBegin (thread : ThreadId) (intent : OrderIntent) (now : ℕ)
  | submitTrack (thread : ThreadId)
  | submitEnqueue (thread : ThreadId)
  | submitCount (thread : ThreadId)
  | start
  | stopBegin
  | stopClose
  | stopJoin
  | worker (now : ℕ)
  deriving DecidableEq

namespace OrderManager

variable {Text τ σ : Type*} (config : OrderManagerConfig Text τ σ)

/-- The manager as constructed. -/
def init (transport : τ) (sink : σ) : OrderManager Text τ σ where
  core := { globalRiskGate := config.globalRisk, portfolioRiskGate := config.portfolioRisk }
  transport := transport
  sink := sink

variable (s : OrderManager Text τ σ)

/-- The intents still to be handled, in the order in which they will be. -/
def waiting : List PendingIntent := s.worker.batch ++ s.outboundQueue

/-! ## Start and stop -/

def start : Option (OrderManager Text τ σ) :=
  if s.control ≠ .idle then none
  else if s.worker ≠ .notJoinable then some s
  else
    let connected := config.transport.connect s.transport
    let fresh := { s with
      core := s.core.reset
      counters := {}
      transport := connected.2 }
    if connected.1 then
      some { fresh with
        lastError := ""
        running := true
        stopRequested := false
        worker := .loop }
    else some { fresh with lastError := config.transport.lastError connected.2 }

def stopBegin : Option (OrderManager Text τ σ) :=
  if s.control ≠ .idle then none
  else if s.worker = .notJoinable then some { s with running := false }
  else some { s with stopRequested := true, control := .closing }

def stopClose : Option (OrderManager Text τ σ) :=
  if s.control ≠ .closing then none
  else some { s with transport := config.transport.close s.transport, control := .joining }

def stopJoin : Option (OrderManager Text τ σ) :=
  if s.control ≠ .joining ∨ s.worker ≠ .exited then none
  else some { s with worker := .notJoinable, running := false, control := .idle }

/-! ## Submitting -/

/-- An intent that carries no time gets the time of the call. -/
def stampIntent (intent : OrderIntent) (now : ℕ) : OrderIntent :=
  if intent.intentTsNs = 0 then { intent with intentTsNs := now } else intent

def submitBegin (thread : ThreadId) (intent : OrderIntent) (now : ℕ) :
    Option (OrderManager Text τ σ) :=
  if (s.submits.lookup thread).isSome then none
  else if s.running = false then some { s with lastError := "OrderManager is not running" }
  else if config.adapter.supports intent = false then
    some { s with
      counters := { s.counters with
        unsupportedIntentCount := s.counters.unsupportedIntentCount + 1 }
      lastError := "Order intent is not supported by adapter" }
  else
    some { s with
      nextRequestId := s.nextRequestId + 1
      submits := s.submits.insert thread (.validating
        { requestId := s.nextRequestId, intent := stampIntent intent now }) }

/-- The request that created the order a submission acts on. -/
def targetRequestId (core : OrderManagerCore) (intent : OrderIntent) : Option ℕ :=
  if intent.Targets then
    match core.findTarget intent with
    | .ok (_, target) => some target.requestId
    | .error _ => none
  else none

def submitTrack (thread : ThreadId) : Option (OrderManager Text τ σ) :=
  match s.submits.lookup thread with
  | some (.validating pending) =>
    match s.core.validateAndTrackSubmission pending.requestId pending.intent with
    | (.error message, core) =>
      some { s with
        core := core
        lastError := message
        submits := s.submits.erase thread }
    | (.ok (), core) =>
      some { s with
        core := core
        submits := s.submits.insert thread (.enqueuing pending)
        log := .accepted pending.requestId (targetRequestId s.core pending.intent) :: s.log }
  | _ => none

def submitEnqueue (thread : ThreadId) : Option (OrderManager Text τ σ) :=
  match s.submits.lookup thread with
  | some (.enqueuing pending) =>
    some { s with
      outboundQueue := s.outboundQueue ++ [pending]
      submits := s.submits.insert thread (.counting pending.requestId) }
  | _ => none

/-- The count is outside of every lock: the worker, a `stop` or a `start` may come before it. -/
def submitCount (thread : ThreadId) : Option (OrderManager Text τ σ) :=
  match s.submits.lookup thread with
  | some (.counting _) =>
    some { s with
      submits := s.submits.erase thread
      counters := { s.counters with submittedCount := s.counters.submittedCount + 1 } }
  | _ => none

/-! ## The worker -/

/-- Hand an update to the core and, when it is accepted, to the sink. The flag says whether the
core took it. -/
def handleUpdate (now : ℕ) (update : OrderStateUpdate) : Bool × OrderManager Text τ σ :=
  let drop := { s.counters with updateDropCount := s.counters.updateDropCount + 1 }
  match s.core.applyUpdateTransition now update with
  | (.error message, core) =>
    (false, { s with core := core, counters := drop, lastError := message })
  | (.ok accepted, core) =>
    let received := config.eventSink.onOrderUpdate s.sink accepted
    (true, { s with
      core := core
      sink := received.2
      counters := if received.1 then s.counters else drop
      log := match s.core.matchOrder update with
        | some (_, order) => .applied order.requestId accepted :: s.log
        | none => s.log })

/-- Answer an intent that a gate has refused, and go on with the batch. -/
def riskReject (now : ℕ) (rest : List PendingIntent) (update : OrderStateUpdate)
    (reasonMessage : String) : OrderManager Text τ σ :=
  let handled := s.handleUpdate config now update
  if handled.1 then { handled.2 with worker := .draining rest, lastError := reasonMessage }
  else { handled.2 with worker := .draining rest }

def checkGlobalRisk (now : ℕ) (pending : PendingIntent) (rest : List PendingIntent) :
    OrderManager Text τ σ :=
  match s.core.evaluateGlobalRisk pending.intent with
  | (none, _) => { s with worker := .gated pending rest }
  | (some decision, core) => { s with core := core }.riskReject config now rest
      (OrderManagerCore.makeGlobalRiskRejectUpdate pending.intent decision now)
      decision.reasonMessage

def checkPortfolioRisk (now : ℕ) (pending : PendingIntent) (rest : List PendingIntent) :
    OrderManager Text τ σ :=
  match config.portfolioSnapshotProvider with
  | none => { s with worker := .cleared pending rest }
  | some provider =>
    let snapshot := provider.snapshotFor s.sink pending.intent.exchange pending.intent.marketTicker
    match s.core.evaluatePortfolioRisk pending.intent snapshot with
    | (none, _) => { s with worker := .cleared pending rest }
    | (some decision, core) => { s with core := core }.riskReject config now rest
        (OrderManagerCore.makePortfolioRiskRejectUpdate pending.intent decision now)
        decision.reasonMessage

/-- A request that could not be encoded or sent: counted, reported, and nothing else. -/
def sendFailed (rest : List PendingIntent) (message : String) : OrderManager Text τ σ :=
  { s with
    worker := .draining rest
    counters := { s.counters with sendFailedCount := s.counters.sendFailedCount + 1 }
    lastError := message }

def sendRequest (pending : PendingIntent) (rest : List PendingIntent) : OrderManager Text τ σ :=
  match config.adapter.buildRequest pending.intent with
  | .error message => s.sendFailed rest message
  | .ok payload =>
    let result := config.transport.sendText s.transport payload
    if result.1 then
      { s with
        worker := .draining rest
        transport := result.2
        counters := { s.counters with sentCount := s.counters.sentCount + 1 }
        log := .sent pending.requestId payload :: s.log }
    else { s with transport := result.2 }.sendFailed rest (config.transport.lastError result.2)

def pumpIncomingUpdate (now : ℕ) : OrderManager Text τ σ :=
  match config.transport.recvText s.transport with
  | (none, transport) => { s with worker := .loop, transport := transport }
  | (some payload, transport) =>
    let received := { s with
      worker := .loop
      transport := transport
      counters := { s.counters with receiveCount := s.counters.receiveCount + 1 } }
    match config.adapter.parseUpdate payload with
    | .error _ =>
      { received with
        counters := { received.counters with
          parseFailedCount := received.counters.parseFailedCount + 1 } }
    | .ok update => (received.handleUpdate config now update).2

/-- One region of `run`. -/
def runWorker (now : ℕ) : Option (OrderManager Text τ σ) :=
  match s.worker with
  | .notJoinable | .exited => none
  | .loop =>
    if s.stopRequested then
      some { s with
        worker := .exited
        transport := config.transport.close s.transport
        running := false }
    else some { s with worker := .polling }
  | .polling =>
    match s.outboundQueue with
    | [] => some { s with worker := .pumping }
    | batch => some { s with worker := .draining batch, outboundQueue := [] }
  | .draining [] => some { s with worker := .pumping }
  | .draining (pending :: rest) => some (s.checkGlobalRisk config now pending rest)
  | .gated pending rest => some (s.checkPortfolioRisk config now pending rest)
  | .cleared pending rest => some (s.sendRequest config pending rest)
  | .pumping =>
    if config.transport.recvBlocks s.transport then none
    else some (s.pumpIncomingUpdate config now)

/-- **The order manager as a machine.** -/
def machine : Machine (OrderManager Text τ σ) OrderManagerInput where
  step s input :=
    match input with
    | .submitBegin thread intent now => s.submitBegin config thread intent now
    | .submitTrack thread => s.submitTrack thread
    | .submitEnqueue thread => s.submitEnqueue thread
    | .submitCount thread => s.submitCount thread
    | .start => s.start config
    | .stopBegin => s.stopBegin
    | .stopClose => s.stopClose config
    | .stopJoin => s.stopJoin
    | .worker now => s.runWorker config now

end OrderManager

end TradingEngine
