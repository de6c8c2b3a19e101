import Mathlib.Data.List.Basic
import TradingEngine.Lib.Machine

/-!
# The feed runner and its session

`WsFeedRunner` keeps a market data connection going. It connects, subscribes to every channel and
receives until something fails, and then starts again. `WsSession` sits between the runner and the
transport, and turns each failure into an error text.

Every call may succeed or fail as the transport, the exchange adapter and the message sink please:
their answers are the inputs of the machine. What is under the runner's control is which call it
makes next, and the calls it has made are kept as a history. Between two stops they are a repetition
of the three rounds of `Round` (`feed_runner_protocol`), and any such repetition occurs
(`exists_calls_eq_rounds`).
-/

namespace TradingEngine

/-! ## The session -/

/-- The handshake that the exchange adapter builds. -/
structure ConnectRequest where
  endpoint : String := ""
  headers : List (String × String) := []
  deriving DecidableEq

/-- Why the exchange adapter could not build a message: an exception with a text, or one that
`catch (...)` takes. -/
inductive BuildFailure
  | exception (what : String)
  | unknown

def BuildFailure.text (unknownText : String) : BuildFailure → String
  | .exception what => what
  | .unknown => unknownText

structure WsSession where
  connectRequest : ConnectRequest := {}
  lastSubscribePayload : String := ""
  lastError : String := ""
  deriving DecidableEq

namespace WsSession

/-- The error text after a failed call of the transport: its own, or else a general one. -/
def transportError (lastError generalText : String) : String :=
  if lastError ≠ "" then lastError else generalText

def connect (session : WsSession) (built : Except BuildFailure ConnectRequest)
    (answer : Except String Unit) : Bool × WsSession :=
  match built with
  | .error failure =>
    (false, { session with
      lastError := failure.text "Unknown exception while building websocket connect request" })
  | .ok connectRequest =>
    match answer with
    | .error lastError =>
      (false, { session with
        connectRequest := connectRequest
        lastError := transportError lastError "Websocket transport connect failed" })
    | .ok () => (true, { session with connectRequest, lastError := "" })

def subscribe (session : WsSession) (built : Except BuildFailure String)
    (answer : Except String Unit) : Bool × WsSession :=
  match built with
  | .error failure =>
    (false, { session with
      lastError := failure.text "Unknown exception while building websocket subscribe payload" })
  | .ok lastSubscribePayload =>
    match answer with
    | .error lastError =>
      (false, { session with
        lastSubscribePayload := lastSubscribePayload
        lastError := transportError lastError "Websocket transport send failed" })
    | .ok () => (true, { session with lastSubscribePayload, lastError := "" })

def recvText (session : WsSession) (answer : Except String String) : Option String × WsSession :=
  match answer with
  | .error lastError =>
    (none, { session with
      lastError := transportError lastError "Websocket transport receive failed" })
  | .ok message => (some message, { session with lastError := "" })

end WsSession

/-! ## The runner -/

/-- The pause before a new attempt is left out: nothing depends on its length. -/
structure WsFeedRunnerConfig where
  channels : List String := []

/-- A call on the session, with its outcome. The reads of `last_error` are not listed. -/
inductive SessionCall
  | connect (connected : Bool)
  | subscribe (channel : String) (subscribed : Bool)
  | recvText (message : Option String)
  | close
  deriving DecidableEq

/-- Where the worker is: about to connect, in the loop over the channels, or about to receive. -/
inductive FeedPc
  | connecting
  | subscribing (channel : String) (rest : List String)
  | receiving
  | exited
  deriving DecidableEq

/-- The runner, with the calls it has made on the session and the messages it has pushed to the
sink, each with the answer of the sink. -/
structure WsFeedRunner where
  session : WsSession := {}
  pc : FeedPc := .connecting
  stopRequested : Bool := false
  running : Bool := true
  receivedCount : ℕ := 0
  droppedCount : ℕ := 0
  lastError : String := ""
  calls : List SessionCall := []
  pushes : List (String × Bool) := []

/-- What the surroundings of the runner do: a stop request from another thread, or the answers to
the call that the worker makes next. -/
inductive FeedInput
  | requestStop
  | connect (built : Except BuildFailure ConnectRequest) (answer : Except String Unit)
  | subscribe (built : Except BuildFailure String) (answer : Except String Unit)
  | recvText (answer : Except String String) (accepted : Bool)
  | exit

namespace WsFeedRunner

/-- A runner whose worker has just been started. -/
def start (session : WsSession) : WsFeedRunner where
  session := session

/-- The head of the loop over the channels. After the last one the error text is cleared. -/
def nextChannel (runner : WsFeedRunner) : List String → WsFeedRunner
  | [] => { runner with pc := .receiving, lastError := "" }
  | channel :: rest => { runner with pc := .subscribing channel rest }

def afterConnect (config : WsFeedRunnerConfig) (runner : WsFeedRunner) :
    Bool × WsSession → WsFeedRunner
  | (connected, session) =>
    let called : WsFeedRunner := { runner with
      session, calls := runner.calls ++ [.connect connected] }
    if connected then called.nextChannel config.channels
    else { called with lastError := session.lastError }

def afterSubscribe (runner : WsFeedRunner) (channel : String) (rest : List String) :
    Bool × WsSession → WsFeedRunner
  | (subscribed, session) =>
    let called : WsFeedRunner := { runner with
      session, calls := runner.calls ++ [.subscribe channel subscribed] }
    if subscribed then called.nextChannel rest
    else { called with
      lastError := session.lastError
      calls := called.calls ++ [.close]
      pc := .connecting }

def afterRecvText (runner : WsFeedRunner) (accepted : Bool) :
    Option String × WsSession → WsFeedRunner
  | (none, session) =>
    { runner with
      session := session
      lastError := session.lastError
      calls := runner.calls ++ [.recvText none, .close]
      pc := .connecting }
  | (some message, session) =>
    { runner with
      session := session
      calls := runner.calls ++ [.recvText (some message)]
      receivedCount := runner.receivedCount + 1
      pushes := runner.pushes ++ [(message, accepted)]
      droppedCount := if accepted then runner.droppedCount else runner.droppedCount + 1 }

/-- The end of `run`. -/
def leave (runner : WsFeedRunner) : WsFeedRunner :=
  { runner with calls := runner.calls ++ [.close], pc := .exited, running := false }

/-- The worker, one call on the session at a time. The stop request is looked at before a connect
and before a receive, and not while the channels are subscribed. -/
def machine (config : WsFeedRunnerConfig) : Machine WsFeedRunner FeedInput where
  step runner input :=
    match runner.pc, input with
    | _, .requestStop =>
      some { runner with stopRequested := true, calls := runner.calls ++ [.close] }
    | .connecting, .connect built answer =>
      if runner.stopRequested then none
      else some (runner.afterConnect config (runner.session.connect built answer))
    | .subscribing channel rest, .subscribe built answer =>
      some (runner.afterSubscribe channel rest (runner.session.subscribe built answer))
    | .receiving, .recvText answer accepted =>
      if runner.stopRequested then none
      else some (runner.afterRecvText accepted (runner.session.recvText answer))
    | .connecting, .exit => if runner.stopRequested then some runner.leave else none
    | .receiving, .exit => if runner.stopRequested then some runner.leave else none
    | _, _ => none

/-- A step that is no stop request. -/
def KeepsGoing (_ : WsFeedRunner) (input : FeedInput) : Prop := input ≠ .requestStop

instance (runner : WsFeedRunner) (input : FeedInput) : Decidable (KeepsGoing runner input) :=
  match input with
  | .requestStop => isFalse fun h ↦ h rfl
  | .connect _ _ | .subscribe _ _ | .recvText _ _ | .exit => isTrue nofun

end WsFeedRunner

/-! ## The protocol -/

/-- The calls of one successful subscription after the other. -/
def subscribed (channels : List String) : List SessionCall :=
  channels.map fun channel ↦ .subscribe channel true

def receivedAll (messages : List String) : List SessionCall :=
  messages.map fun message ↦ .recvText (some message)

/-- One round of calls: a connect that fails, a connection that is closed at the first subscription
that fails, or one that is closed at the first receive that fails. -/
inductive Round (channels : List String) : List SessionCall → Prop
  | notConnected : Round channels [.connect false]
  | notSubscribed {before after : List String} {channel : String}
      (h : channels = before ++ channel :: after) :
      Round channels (.connect true :: subscribed before ++ [.subscribe channel false, .close])
  | notReceived (messages : List String) :
      Round channels (.connect true :: subscribed channels ++ receivedAll messages
        ++ [.recvText none, .close])

/-- How far the current round has got. -/
inductive InRound (channels : List String) : FeedPc → List SessionCall → Prop
  | connecting : InRound channels .connecting []
  | subscribing {before rest : List String} {channel : String}
      (h : channels = before ++ channel :: rest) :
      InRound channels (.subscribing channel rest) (.connect true :: subscribed before)
  | receiving (messages : List String) :
      InRound channels .receiving (.connect true :: subscribed channels ++ receivedAll messages)

theorem subscribed_append_singleton (before : List String) (channel : String) :
    subscribed before ++ [.subscribe channel true] = subscribed (before ++ [channel]) := by
  rw [subscribed, subscribed, List.map_append, List.map_singleton]

/-- A round that is under way could still be completed. -/
theorem InRound.exists_round {channels : List String} {pc : FeedPc} {current : List SessionCall}
    (h : InRound channels pc current) :
    ∃ round, Round channels round ∧ current <+: round ∧ current ≠ round := by
  cases h with
  | connecting => exact ⟨_, .notConnected, List.nil_prefix, by simp⟩
  | subscribing h => exact ⟨_, .notSubscribed h, List.prefix_append _ _, by simp⟩
  | receiving messages => exact ⟨_, .notReceived messages, List.prefix_append _ _, by simp⟩

/-- The messages among some calls. -/
def received (calls : List SessionCall) : List String :=
  calls.filterMap fun
    | .recvText message => message
    | .connect _ | .subscribe _ _ | .close => none

theorem received_append (calls calls' : List SessionCall) :
    received (calls ++ calls') = received calls ++ received calls' :=
  List.filterMap_append

/-- The last connection is open, and every channel has been subscribed on it. -/
def Ready (channels : List String) (calls : List SessionCall) : Prop :=
  ∃ earlier messages, calls =
    earlier ++ (.connect true :: subscribed channels ++ receivedAll messages)

/-- Every receive among the calls is made on a connection that is ready. -/
def ReceivesWhenReady (channels : List String) (calls : List SessionCall) : Prop :=
  ∀ before message after, calls = before ++ .recvText message :: after → Ready channels before

theorem ReceivesWhenReady.append {channels : List String} {calls new : List SessionCall}
    (h : ReceivesWhenReady channels calls)
    (hnew : ∀ before message after, new = before ++ .recvText message :: after →
      Ready channels (calls ++ before)) : ReceivesWhenReady channels (calls ++ new) := by
  intro before message after heq
  rcases List.append_eq_append_iff.mp heq with ⟨between, rfl, hcons⟩ | ⟨between, rfl, hcons⟩
  · exact hnew between message after hcons
  · -- the receive is an old one, or the first of the new calls
    cases between with
    | nil =>
      rw [List.nil_append] at hcons
      rw [List.append_nil] at h
      have hready := hnew [] message after hcons.symm
      rwa [List.append_nil, List.append_nil] at hready
    | cons first between =>
      rw [List.cons_append] at hcons
      obtain ⟨rfl, rfl⟩ := List.cons.inj hcons
      exact h before message between rfl

/-- One more receive, if the connection is ready for it. -/
theorem ReceivesWhenReady.recvText {channels : List String} {calls rest : List SessionCall}
    (h : ReceivesWhenReady channels calls) (hready : Ready channels calls) (message : Option String)
    (hrest : ∀ message, .recvText message ∉ rest) :
    ReceivesWhenReady channels (calls ++ .recvText message :: rest) := by
  refine h.append fun before message' after heq ↦ ?_
  cases before with
  | nil => rwa [List.append_nil]
  | cons first before =>
    rw [List.cons_append] at heq
    obtain ⟨-, rfl⟩ := List.cons.inj heq
    exact absurd (List.mem_append_right _ List.mem_cons_self) (hrest message')

namespace WsFeedRunner

/-- What holds between two calls while nobody asks the runner to stop. -/
structure Follows (config : WsFeedRunnerConfig) (runner : WsFeedRunner) : Prop where
  going : runner.stopRequested = false
  rounds : ∃ (rounds : List (List SessionCall)) (current : List SessionCall),
    (∀ round ∈ rounds, Round config.channels round) ∧
    InRound config.channels runner.pc current ∧ runner.calls = rounds.flatten ++ current
  ready : ReceivesWhenReady config.channels runner.calls
  pushes : runner.pushes.map Prod.fst = received runner.calls
  receivedCount : runner.receivedCount = runner.pushes.length
  droppedCount : runner.droppedCount = runner.pushes.countP fun push ↦ !push.2

variable {config : WsFeedRunnerConfig} {runner : WsFeedRunner}

theorem follows_start (session : WsSession) : (start session).Follows config where
  going := rfl
  rounds := ⟨[], [], by simp, .connecting, rfl⟩
  ready before message after h := absurd h (by simp [start])
  pushes := rfl
  receivedCount := rfl
  droppedCount := rfl

/-- After a successful connect or subscription the runner goes on to the next channel, or to the
messages. -/
theorem inRound_nextChannel {channels before rest : List String} (h : channels = before ++ rest)
    (runner : WsFeedRunner) :
    InRound channels (runner.nextChannel rest).pc (.connect true :: subscribed before) := by
  cases rest with
  | nil =>
    rw [List.append_nil] at h
    have hnone : InRound channels .receiving
        (.connect true :: subscribed channels ++ receivedAll []) := .receiving []
    rw [receivedAll, List.map_nil, List.append_nil, h] at hnone
    rw [h]
    exact hnone
  | cons channel rest => exact .subscribing h

@[simp] theorem nextChannel_stopRequested (runner : WsFeedRunner) (rest : List String) :
    (runner.nextChannel rest).stopRequested = runner.stopRequested := by
  cases rest <;> rfl

@[simp] theorem nextChannel_calls (runner : WsFeedRunner) (rest : List String) :
    (runner.nextChannel rest).calls = runner.calls := by
  cases rest <;> rfl

@[simp] theorem nextChannel_pushes (runner : WsFeedRunner) (rest : List String) :
    (runner.nextChannel rest).pushes = runner.pushes := by
  cases rest <;> rfl

@[simp] theorem nextChannel_receivedCount (runner : WsFeedRunner) (rest : List String) :
    (runner.nextChannel rest).receivedCount = runner.receivedCount := by
  cases rest <;> rfl

@[simp] theorem nextChannel_droppedCount (runner : WsFeedRunner) (rest : List String) :
    (runner.nextChannel rest).droppedCount = runner.droppedCount := by
  cases rest <;> rfl

/-- Calls other than a receive push nothing. -/
theorem Follows.of_calls {runner' : WsFeedRunner} (h : runner.Follows config)
    (new : List SessionCall) (hgoing : runner'.stopRequested = runner.stopRequested)
    (hcalls : runner'.calls = runner.calls ++ new)
    (hrounds : ∃ (rounds : List (List SessionCall)) (current : List SessionCall),
      (∀ round ∈ rounds, Round config.channels round) ∧
        InRound config.channels runner'.pc current ∧
        runner.calls ++ new = rounds.flatten ++ current)
    (hnew : ∀ message, .recvText message ∉ new) (hpushes : runner'.pushes = runner.pushes)
    (hreceived : runner'.receivedCount = runner.receivedCount)
    (hdropped : runner'.droppedCount = runner.droppedCount) : runner'.Follows config where
  going := hgoing.trans h.going
  rounds := by rwa [hcalls]
  ready := by
    rw [hcalls]
    refine h.ready.append fun before message after heq ↦ absurd ?_ (hnew message)
    rw [heq]
    exact List.mem_append_right _ List.mem_cons_self
  pushes := by
    have hnone : received new = [] := by
      rw [received, List.filterMap_eq_nil_iff]
      intro call hcall
      cases call with
      | recvText message => exact absurd hcall (hnew message)
      | connect connected => rfl
      | subscribe channel subscribed => rfl
      | close => rfl
    rw [hpushes, hcalls, received_append, hnone, List.append_nil]
    exact h.pushes
  receivedCount := by rw [hreceived, hpushes]; exact h.receivedCount
  droppedCount := by rw [hdropped, hpushes]; exact h.droppedCount

/-- A call after which the runner goes on to the next channel. -/
theorem Follows.nextChannel (h : runner.Follows config) (session : WsSession) (call : SessionCall)
    (hcall : ∀ message, call ≠ .recvText message) {rest : List String}
    {rounds : List (List SessionCall)} {current : List SessionCall}
    (hrounds : ∀ round ∈ rounds, Round config.channels round)
    (hcurrent : ∀ runner : WsFeedRunner,
      InRound config.channels (runner.nextChannel rest).pc current)
    (hcalls : runner.calls ++ [call] = rounds.flatten ++ current) :
    (WsFeedRunner.nextChannel { runner with session, calls := runner.calls ++ [call] } rest).Follows
      config := by
  refine h.of_calls [call] ?_ ?_ ⟨rounds, current, hrounds, hcurrent _, hcalls⟩ ?_ ?_ ?_ ?_
  · exact nextChannel_stopRequested ..
  · exact nextChannel_calls ..
  · exact fun message hmem ↦ hcall message (List.mem_singleton.mp hmem).symm
  · exact nextChannel_pushes ..
  · exact nextChannel_receivedCount ..
  · exact nextChannel_droppedCount ..

/-! ### One call -/

/-- A round that is over joins the others. -/
theorem exists_rounds_append {rounds : List (List SessionCall)} {round : List SessionCall}
    (hrounds : ∀ round ∈ rounds, Round config.channels round) (hround : Round config.channels round)
    {calls : List SessionCall} (hcalls : calls = rounds.flatten ++ round) :
    ∃ (rounds : List (List SessionCall)) (current : List SessionCall),
      (∀ round ∈ rounds, Round config.channels round) ∧
        InRound config.channels .connecting current ∧ calls = rounds.flatten ++ current := by
  refine ⟨rounds ++ [round], [], ?_, .connecting, ?_⟩
  · intro round' hmem
    rcases List.mem_append.mp hmem with hold | hnew
    · exact hrounds round' hold
    · rw [List.mem_singleton.mp hnew]
      exact hround
  · rw [hcalls, List.flatten_append, List.flatten_singleton, List.append_nil]

theorem Follows.afterConnect (h : runner.Follows config) (hpc : runner.pc = .connecting)
    (outcome : Bool × WsSession) : (runner.afterConnect config outcome).Follows config := by
  obtain ⟨rounds, current, hrounds, hcurrent, hcalls⟩ := h.rounds
  rw [hpc] at hcurrent
  cases hcurrent
  rw [List.append_nil] at hcalls
  obtain ⟨connected, session⟩ := outcome
  cases connected with
  | true =>
    have hbefore : config.channels = [] ++ config.channels := rfl
    exact h.nextChannel session (.connect true) nofun hrounds (inRound_nextChannel hbefore)
      (by rw [hcalls]; rfl)
  | false =>
    refine h.of_calls [.connect false] rfl rfl ?_ (by simp) rfl rfl rfl
    have hpc' : (runner.afterConnect config (false, session)).pc = .connecting := hpc
    rw [hpc']
    exact exists_rounds_append hrounds .notConnected (by rw [hcalls])

theorem Follows.afterSubscribe (h : runner.Follows config) {channel : String} {rest : List String}
    (hpc : runner.pc = .subscribing channel rest) (outcome : Bool × WsSession) :
    (runner.afterSubscribe channel rest outcome).Follows config := by
  obtain ⟨rounds, current, hrounds, hcurrent, hcalls⟩ := h.rounds
  rw [hpc] at hcurrent
  cases hcurrent with
  | subscribing hchannels =>
    rename_i before
    obtain ⟨subscribed', session⟩ := outcome
    cases subscribed' with
    | true =>
      have hbefore : config.channels = (before ++ [channel]) ++ rest := by
        rw [hchannels, List.append_assoc]
        rfl
      refine h.nextChannel session (.subscribe channel true) nofun hrounds
        (inRound_nextChannel hbefore) ?_
      rw [hcalls, ← subscribed_append_singleton, ← List.cons_append, List.append_assoc]
    | false =>
      refine h.of_calls [.subscribe channel false, .close] rfl ?_ ?_ (by simp) rfl rfl rfl
      · exact List.append_assoc ..
      · exact exists_rounds_append hrounds (.notSubscribed hchannels)
          (by rw [hcalls, List.append_assoc])

theorem Follows.afterRecvText (h : runner.Follows config) (hpc : runner.pc = .receiving)
    (accepted : Bool) (outcome : Option String × WsSession) :
    (runner.afterRecvText accepted outcome).Follows config := by
  obtain ⟨rounds, current, hrounds, hcurrent, hcalls⟩ := h.rounds
  rw [hpc] at hcurrent
  cases hcurrent with
  | receiving messages =>
    have hready : Ready config.channels runner.calls := ⟨rounds.flatten, messages, hcalls⟩
    obtain ⟨_ | message, session⟩ := outcome
    · refine ⟨h.going, ?_, ?_, ?_, h.receivedCount, h.droppedCount⟩
      · exact exists_rounds_append hrounds (.notReceived messages)
          (by rw [← List.append_assoc, ← hcalls]; rfl)
      · exact h.ready.recvText hready none (by simp)
      · exact h.pushes.trans (by rw [WsFeedRunner.afterRecvText, received_append]; simp [received])
    · have hcurrent : InRound config.channels (runner.afterRecvText accepted
          (some message, session)).pc
          (.connect true :: subscribed config.channels ++ receivedAll (messages ++ [message])) := by
        have hpc' : (runner.afterRecvText accepted (some message, session)).pc = .receiving := hpc
        rw [hpc']
        exact .receiving _
      refine ⟨h.going, ⟨rounds, _, hrounds, hcurrent, ?_⟩, ?_, ?_, ?_, ?_⟩
      · simp only [WsFeedRunner.afterRecvText, hcalls, receivedAll, List.map_append,
          List.map_singleton, List.append_assoc]
      · exact h.ready.recvText hready (some message) (by simp)
      · simp only [WsFeedRunner.afterRecvText, received_append, List.map_append, h.pushes]
        rfl
      · simp only [WsFeedRunner.afterRecvText, List.length_append, h.receivedCount]
        rfl
      · cases accepted with
        | true => simp [WsFeedRunner.afterRecvText, h.droppedCount]
        | false => simp [WsFeedRunner.afterRecvText, h.droppedCount]

theorem Follows.step {runner' : WsFeedRunner} {input : FeedInput} (h : runner.Follows config)
    (hgoing : KeepsGoing runner input) (hstep : (machine config).step runner input = some runner') :
    runner'.Follows config := by
  have hstop := h.going
  cases input with
  | requestStop => exact absurd rfl hgoing
  | exit =>
    cases hpc : runner.pc <;> simp [machine, hpc, hstop] at hstep
  | connect built answer =>
    cases hpc : runner.pc with
    | connecting =>
      simp only [machine, hpc, hstop, Bool.false_eq_true, if_false, Option.some.injEq] at hstep
      rw [← hstep]
      exact h.afterConnect hpc _
    | subscribing channel rest => simp [machine, hpc] at hstep
    | receiving => simp [machine, hpc] at hstep
    | exited => simp [machine, hpc] at hstep
  | subscribe built answer =>
    cases hpc : runner.pc with
    | subscribing channel rest =>
      simp only [machine, hpc, Option.some.injEq] at hstep
      rw [← hstep]
      exact h.afterSubscribe hpc _
    | connecting => simp [machine, hpc] at hstep
    | receiving => simp [machine, hpc] at hstep
    | exited => simp [machine, hpc] at hstep
  | recvText answer accepted =>
    cases hpc : runner.pc with
    | receiving =>
      simp only [machine, hpc, hstop, Bool.false_eq_true, if_false, Option.some.injEq] at hstep
      rw [← hstep]
      exact h.afterRecvText hpc accepted _
    | connecting => simp [machine, hpc] at hstep
    | subscribing channel rest => simp [machine, hpc] at hstep
    | exited => simp [machine, hpc] at hstep

end WsFeedRunner

/-- **The protocol of the feed runner.** Whatever the session answers, while no stop is requested
the calls are complete rounds and a part of the next one. So every receive is made on a connection
on which all channels are subscribed, and every message is pushed once, in order, and counted. -/
theorem feed_runner_protocol {config : WsFeedRunnerConfig} {session : WsSession}
    {runner : WsFeedRunner}
    (h : (WsFeedRunner.machine config).ReachesVia WsFeedRunner.KeepsGoing (.start session) runner) :
    (∃ (rounds : List (List SessionCall)) (current : List SessionCall),
      (∀ round ∈ rounds, Round config.channels round) ∧
      (∃ round, Round config.channels round ∧ current <+: round ∧ current ≠ round) ∧
      (runner.pc = .connecting → current = []) ∧ runner.calls = rounds.flatten ++ current) ∧
    ReceivesWhenReady config.channels runner.calls ∧
    runner.pushes.map Prod.fst = received runner.calls ∧
    runner.receivedCount = (received runner.calls).length ∧
    runner.droppedCount = runner.pushes.countP fun push ↦ !push.2 := by
  have hfollows : runner.Follows config :=
    h.invariant (WsFeedRunner.follows_start session) fun _ hfollows hgoing hstep ↦
      hfollows.step hgoing hstep
  obtain ⟨rounds, current, hrounds, hcurrent, hcalls⟩ := hfollows.rounds
  refine ⟨⟨rounds, current, hrounds, hcurrent.exists_round, ?_, hcalls⟩, hfollows.ready,
    hfollows.pushes, ?_, hfollows.droppedCount⟩
  · intro hpc
    rw [hpc] at hcurrent
    cases hcurrent
    rfl
  · rw [← hfollows.pushes, List.length_map]
    exact hfollows.receivedCount

/-- The second subscription of the first connection fails, and the sink refuses a message. -/
theorem feed_runner_protocol_resubscribed :
    ∃ runner : WsFeedRunner,
      runner.calls = [.connect false,
        .connect true, .subscribe "ticker" true, .subscribe "trade" false, .close,
        .connect true, .subscribe "ticker" true, .subscribe "trade" true,
        .recvText (some "1"), .recvText (some "2"), .recvText none, .close] ∧
      ReceivesWhenReady ["ticker", "trade"] runner.calls ∧
      runner.pushes = [("1", false), ("2", true)] ∧
      runner.receivedCount = (received runner.calls).length ∧
      runner.droppedCount = 1 := by
  have hrun : ∃ runner, (WsFeedRunner.machine ⟨["ticker", "trade"]⟩).runVia
      WsFeedRunner.KeepsGoing (.start {}) [.connect (.ok {}) (.error "refused"),
        .connect (.ok {}) (.ok ()), .subscribe (.ok "s") (.ok ()),
        .subscribe (.error .unknown) (.ok ()),
        .connect (.ok {}) (.ok ()), .subscribe (.ok "s") (.ok ()), .subscribe (.ok "s") (.ok ()),
        .recvText (.ok "1") false, .recvText (.ok "2") true, .recvText (.error "") true] =
      some runner ∧ runner.calls = [.connect false,
        .connect true, .subscribe "ticker" true, .subscribe "trade" false, .close,
        .connect true, .subscribe "ticker" true, .subscribe "trade" true,
        .recvText (some "1"), .recvText (some "2"), .recvText none, .close] ∧
      runner.pushes = [("1", false), ("2", true)] := ⟨_, rfl, rfl, rfl⟩
  obtain ⟨runner, hrun, hcalls, hpushes⟩ := hrun
  obtain ⟨-, hready, -, hreceived, hdropped⟩ :=
    feed_runner_protocol (Machine.reachesVia_of_runVia hrun)
  refine ⟨runner, hcalls, hready, hpushes, hreceived, ?_⟩
  rw [hdropped, hpushes]
  rfl

/-! ## Every repetition of rounds occurs -/

namespace WsFeedRunner

variable (config : WsFeedRunnerConfig)

theorem reaches_subscribed (before rest : List String) : ∀ runner : WsFeedRunner,
    ∃ runner' : WsFeedRunner, (machine config).ReachesVia KeepsGoing
        (runner.nextChannel (before ++ rest)) (runner'.nextChannel rest) ∧
      runner'.stopRequested = runner.stopRequested ∧
      runner'.calls = runner.calls ++ subscribed before := by
  induction before with
  | nil => exact fun runner ↦ ⟨runner, .refl, rfl, (List.append_nil _).symm⟩
  | cons channel before ih =>
    intro runner
    let runner₁ : WsFeedRunner := { runner.nextChannel (channel :: before ++ rest) with
      session := ((runner.nextChannel (channel :: before ++ rest)).session.subscribe (.ok "")
        (.ok ())).2
      calls := runner.calls ++ [.subscribe channel true] }
    obtain ⟨runner', hreaches, hstop, hcalls⟩ := ih runner₁
    refine ⟨runner', ?_, hstop, ?_⟩
    · exact (Machine.ReachesVia.tail .refl (i := .subscribe (.ok "") (.ok ()))
        (by simp [KeepsGoing]) rfl).trans hreaches
    · rw [hcalls, List.append_assoc]
      rfl

theorem reaches_receivedAll (messages : List String) : ∀ runner : WsFeedRunner,
    runner.pc = .receiving → runner.stopRequested = false →
    ∃ runner' : WsFeedRunner, (machine config).ReachesVia KeepsGoing runner runner' ∧
      runner'.pc = .receiving ∧ runner'.stopRequested = false ∧
      runner'.calls = runner.calls ++ receivedAll messages := by
  induction messages with
  | nil => exact fun runner hpc hstop ↦ ⟨runner, .refl, hpc, hstop, (List.append_nil _).symm⟩
  | cons message messages ih =>
    intro runner hpc hstop
    obtain ⟨runner', hreaches, hpc', hstop', hcalls⟩ := ih
      (runner.afterRecvText true (runner.session.recvText (.ok message))) hpc hstop
    refine ⟨runner', ?_, hpc', hstop', ?_⟩
    · refine (Machine.ReachesVia.tail .refl (i := .recvText (.ok message) true)
        (by simp [KeepsGoing]) ?_).trans hreaches
      simp only [machine, hpc, hstop, Bool.false_eq_true, if_false]
    · rw [hcalls]
      simp only [afterRecvText, WsSession.recvText, List.append_assoc]
      rfl

variable {config}

/-- From a runner that is about to connect, any round is possible. -/
theorem reaches_round {runner : WsFeedRunner} (hpc : runner.pc = .connecting)
    (hstop : runner.stopRequested = false) {round : List SessionCall}
    (hround : Round config.channels round) :
    ∃ runner' : WsFeedRunner, (machine config).ReachesVia KeepsGoing runner runner' ∧
      runner'.pc = .connecting ∧ runner'.stopRequested = false ∧
      runner'.calls = runner.calls ++ round := by
  have hconnect : ∀ answer, (machine config).step runner (.connect (.ok {}) answer) =
      some (runner.afterConnect config (runner.session.connect (.ok {}) answer)) := by
    intro answer
    simp only [machine, hpc, hstop, Bool.false_eq_true, if_false]
  let connected : WsFeedRunner := { runner with
    session := (runner.session.connect (.ok {}) (.ok ())).2
    calls := runner.calls ++ [.connect true] }
  have hconnected : (machine config).ReachesVia KeepsGoing runner
      (connected.nextChannel config.channels) :=
    .tail .refl (i := .connect (.ok {}) (.ok ())) (by simp [KeepsGoing]) (hconnect _)
  cases hround with
  | notConnected =>
    exact ⟨_, .tail .refl (i := .connect (.ok {}) (.error "")) (by simp [KeepsGoing])
      (hconnect _), hpc, hstop, rfl⟩
  | notSubscribed h =>
    rename_i before after channel
    obtain ⟨runner₁, hreaches, hstop₁, hcalls₁⟩ :=
      reaches_subscribed config before (channel :: after) connected
    rw [h] at hconnected
    refine ⟨_, (hconnected.trans hreaches).tail (i := .subscribe (.ok "") (.error ""))
      (by simp [KeepsGoing]) rfl, rfl, hstop₁.trans hstop, ?_⟩
    simp only [WsSession.subscribe, afterSubscribe, nextChannel_calls, hcalls₁, connected,
      List.append_assoc, Bool.false_eq_true, if_false]
    rfl
  | notReceived messages =>
    obtain ⟨runner₁, hreaches, hstop₁, hcalls₁⟩ :=
      reaches_subscribed config config.channels [] connected
    rw [List.append_nil] at hreaches
    obtain ⟨runner₂, hreceived, hpc₂, hstop₂, hcalls₂⟩ := reaches_receivedAll config messages
      (runner₁.nextChannel []) rfl (hstop₁.trans hstop)
    have hfailed : (machine config).step runner₂ (.recvText (.error "") true) =
        some (runner₂.afterRecvText true (runner₂.session.recvText (.error ""))) := by
      simp only [machine, hpc₂, hstop₂, Bool.false_eq_true, if_false]
    refine ⟨_, ((hconnected.trans hreaches).trans hreceived).tail (i := .recvText (.error "") true)
      (by simp [KeepsGoing]) hfailed, rfl, hstop₂, ?_⟩
    simp only [WsSession.recvText, afterRecvText, hcalls₂, nextChannel_calls, hcalls₁, connected,
      List.append_assoc]
    rfl

end WsFeedRunner

/-- **Nothing in the protocol is idle:** every repetition of rounds is a history of the runner. -/
theorem exists_calls_eq_rounds (config : WsFeedRunnerConfig) (session : WsSession)
    (rounds : List (List SessionCall)) (hrounds : ∀ round ∈ rounds, Round config.channels round) :
    ∃ runner, (WsFeedRunner.machine config).ReachesVia WsFeedRunner.KeepsGoing (.start session)
      runner ∧ runner.calls = rounds.flatten := by
  suffices h : ∀ runner : WsFeedRunner, runner.pc = .connecting → runner.stopRequested = false →
      ∃ runner', (WsFeedRunner.machine config).ReachesVia WsFeedRunner.KeepsGoing runner runner' ∧
        runner'.calls = runner.calls ++ rounds.flatten from h (.start session) rfl rfl
  induction rounds with
  | nil => exact fun runner _ _ ↦ ⟨runner, .refl, (List.append_nil _).symm⟩
  | cons round rounds ih =>
    intro runner hpc hstop
    obtain ⟨runner₁, hfirst, hpc₁, hstop₁, hcalls₁⟩ := WsFeedRunner.reaches_round hpc hstop
      (hrounds round List.mem_cons_self)
    obtain ⟨runner', hrest, hcalls⟩ := ih (fun r hr ↦ hrounds r (List.mem_cons_of_mem _ hr)) runner₁
      hpc₁ hstop₁
    refine ⟨runner', hfirst.trans hrest, ?_⟩
    rw [hcalls, hcalls₁, List.append_assoc, List.flatten_cons]

end TradingEngine
