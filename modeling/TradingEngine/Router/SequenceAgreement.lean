import TradingEngine.Shards.Shard

/-!
# The sequence id of the router and of the parser

A message is decoded twice. The decoder reads its sequence id on the way to the router, and the
parser reads it again in the shard, with the one of the decoder to fall back on. There are four
places where it may stand: under `seq` or `seq_id`, in the root or in the message. The decoder takes
the root first. The parser does so for snapshots and deltas, but for a trade it lets the message
have the last word. The two disagree about a trade that carries two sequence ids, and
`sequence_ids_agree_iff` says that they agree otherwise.
-/

namespace TradingEngine

open OnDemand (Value)

namespace KalshiParser

@[simp] theorem rawSequenceId_setSequenceFromRoot (root : Value) (event : NormalizedEvent) :
    (setSequenceFromRoot root event).rawSequenceId =
      (getSequence root).or event.rawSequenceId := by
  rw [setSequenceFromRoot]
  cases getSequence root with
  | none => rfl
  | some seq => rfl

@[simp] theorem rawSequenceId_setSequenceFromMsg (message : Value) (event : NormalizedEvent) :
    (setSequenceFromMsg message event).rawSequenceId =
      (getSequence message).or event.rawSequenceId := by
  rw [setSequenceFromMsg]
  cases getSequence message with
  | none =>
    cases h : event.rawSequenceId with
    | none => exact h
    | some seq => rfl
  | some seq => rfl

/-- **The sequence id of a parsed message.** -/
theorem rawSequenceId_of_parse {iterate : String → Option Value} {frame : RouterFrame}
    {event : NormalizedEvent} {root message : Value} {type : String}
    (hroot : (iterate frame.rawPayloadView).bind Value.getObject = some root)
    (htype : getString root "type" = some type) (hmessage : getObject root "msg" = some message)
    (h : parse iterate frame = .ok event) :
    event.rawSequenceId =
      if type = "trade" then
        (getSequence message).or ((getSequence root).or frame.sequenceId)
      else (getSequence root).or frame.sequenceId := by
  have hbase : (setSequenceFromRoot root (frameEvent frame)).rawSequenceId =
      (getSequence root).or frame.sequenceId := rawSequenceId_setSequenceFromRoot _ _
  rw [parse, hroot] at h
  dsimp only at h
  rw [parseObject, htype] at h
  dsimp only at h
  split at h
  · rename_i hknown
    rw [hmessage] at h
    dsimp only at h
    split at h
    · rename_i hsnapshot
      obtain ⟨_, rfl, _⟩ := parseSnapshot_ok h
      rw [if_neg (hsnapshot ▸ by decide)]
      exact hbase
    split at h
    · rename_i hdelta
      obtain ⟨_, rfl, _⟩ := parseDelta_ok h
      rw [if_neg (hdelta ▸ by decide)]
      exact hbase
    · rename_i hsnapshot hdelta
      obtain ⟨_, _, hsequence, _⟩ := parseTrade_ok h
      rw [if_pos ((hknown.resolve_left hsnapshot).resolve_left hdelta), hsequence,
        rawSequenceId_setSequenceFromMsg, hbase]
  · exact absurd h (by simp)

end KalshiParser

namespace KalshiExtractor

/-- **A message that the decoder understands.** -/
theorem extract_ok {iterate : String → Option Value} {frame : RawFrame}
    (hmarket : frame.marketTicker = "") (h : (extract iterate frame).status = .ok) :
    ∃ root type message, (iterate frame.payload).bind Value.getObject = some root ∧
      KalshiParser.getString root "type" = some type ∧
      KalshiParser.getObject root "msg" = some message ∧
      (extract iterate frame).seqId = extractSequence root message frame.seqId := by
  rw [extract] at h ⊢
  dsimp only at h ⊢
  rw [if_neg (not_not_intro hmarket)] at h ⊢
  cases hroot : (iterate frame.payload).bind Value.getObject with
  | none => rw [hroot] at h; cases h
  | some root =>
    rw [hroot] at h
    dsimp only at h ⊢
    cases htype : KalshiParser.getString root "type" with
    | none => rw [htype] at h; cases h
    | some type =>
      rw [htype] at h
      dsimp only at h ⊢
      split at h
      · cases h
      · rename_i hknown
        rw [if_neg hknown]
        cases hmessage : KalshiParser.getObject root "msg" with
        | none => rw [hmessage] at h; cases h
        | some message =>
          rw [hmessage] at h
          dsimp only at h ⊢
          cases hticker : KalshiParser.getString message "market_ticker" with
          | none => rw [hticker] at h; cases h
          | some marketTicker =>
            rw [hticker] at h
            dsimp only at h ⊢
            split at h
            · cases h
            · rename_i hnamed
              rw [if_neg hnamed]
              exact ⟨root, type, message, rfl, htype, hmessage, rfl⟩

end KalshiExtractor

/-- A trade carries two sequence ids, one in the root and another one in the message. -/
def TradeSequencesDiffer (iterate : String → Option Value) (payload : String) : Prop :=
  ∃ root message a b, (iterate payload).bind Value.getObject = some root ∧
    KalshiParser.getString root "type" = some "trade" ∧
    KalshiParser.getObject root "msg" = some message ∧
    KalshiParser.getSequence root = some a ∧ KalshiParser.getSequence message = some b ∧ a ≠ b

/-- **The router and the parser agree on the sequence id** unless a trade carries two. -/
theorem sequence_ids_agree_iff {iterate : String → Option Value} {hash : String → ℕ}
    {router : Router} (hrouter : router.decodeFn = KalshiExtractor.extract iterate)
    (hkalshi : router.exchangeId = .kalshi) {frame : RawFrame} (hmarket : frame.marketTicker = "")
    (hseq : frame.seqId = none) (hextracted : (KalshiExtractor.extract iterate frame).status = .ok)
    {event : RoutedEvent} (hrouted : router.route hash frame = some event)
    {parsed : NormalizedEvent} (hparsed : RoutedEventParser.parse iterate event = .ok parsed) :
    parsed.rawSequenceId = (KalshiExtractor.extract iterate frame).seqId ↔
      ¬TradeSequencesDiffer iterate frame.payload := by
  obtain ⟨root, type, message, hroot, htype, hmessage, hsequence⟩ :=
    KalshiExtractor.extract_ok hmarket hextracted
  rw [hseq, KalshiExtractor.extractSequence, Option.or_none] at hsequence
  -- the routed frame has the payload, and the sequence id of the decoder
  rw [Router.route, hrouter, if_pos hextracted] at hrouted
  obtain rfl := Option.some.inj hrouted
  rw [RoutedEventParser.parse, hkalshi] at hparsed
  rw [KalshiParser.rawSequenceId_of_parse hroot htype hmessage hparsed, hsequence]
  constructor
  · rintro hagree ⟨root', message', a, b, hroot', htrade, hmessage', ha, hb, hne⟩
    obtain rfl := Option.some.inj (hroot.symm.trans hroot')
    obtain rfl := Option.some.inj (hmessage.symm.trans hmessage')
    rw [if_pos (Option.some.inj (htype.symm.trans htrade)), ha, hb] at hagree
    exact hne (Option.some.inj hagree).symm
  · intro hone
    cases ha : KalshiParser.getSequence root with
    | none =>
      cases hb : KalshiParser.getSequence message with
      | none => split <;> rfl
      | some b => split <;> rfl
    | some a =>
      cases hb : KalshiParser.getSequence message with
      | none => split <;> rfl
      | some b =>
        split
        · rename_i htrade
          refine congrArg some (not_not.mp fun hne ↦ hone ?_)
          exact ⟨root, message, a, b, hroot, htrade ▸ htype, hmessage, ha, hb, Ne.symm hne⟩
        · rfl

namespace SequenceAgreementExample

open SampleMessages

/-- A trade with two sequence ids, and one that says the same twice. -/
def two : String := tradeText "KXBTC-YES" 7 8

def one : String := tradeText "KXBTC-YES" 7 7

def iterate : String → Option Value :=
  reads [(two, trade "KXBTC-YES" 7 8), (one, trade "KXBTC-YES" 7 7)]

def router : Router := .create (KalshiExtractor.extract iterate) 1 .kalshi

end SequenceAgreementExample

open SequenceAgreementExample in
/-- The router is told 7, and the book is told 8. -/
theorem trade_sequence_ids_disagree :
    ∃ event parsed, router.route (fun _ ↦ 0) { payload := two } = some event ∧
      RoutedEventParser.parse iterate event = .ok parsed ∧
      (KalshiExtractor.extract iterate { payload := two }).status = .ok ∧
      (KalshiExtractor.extract iterate { payload := two }).seqId = some 7 ∧
      parsed.rawSequenceId = some 8 :=
  ⟨_, _, rfl, rfl, rfl, rfl, rfl⟩

open SequenceAgreementExample in
theorem sequence_ids_agree_one :
    ∃ event parsed, router.route (fun _ ↦ 0) { payload := one } = some event ∧
      RoutedEventParser.parse iterate event = .ok parsed ∧
      parsed.rawSequenceId = (KalshiExtractor.extract iterate { payload := one }).seqId := by
  have hrun : ∃ event parsed, router.route (fun _ ↦ 0) { payload := one } = some event ∧
      RoutedEventParser.parse iterate event = .ok parsed := ⟨_, _, rfl, rfl⟩
  obtain ⟨event, parsed, hrouted, hparsed⟩ := hrun
  refine ⟨event, parsed, hrouted, hparsed,
    (sequence_ids_agree_iff rfl rfl rfl rfl rfl hrouted hparsed).mpr ?_⟩
  rintro ⟨root, message, a, b, hroot, _, hmessage, ha, hb, hne⟩
  obtain rfl := Option.some.inj hroot
  obtain rfl := Option.some.inj hmessage
  exact hne ((Option.some.inj ha).symm.trans (Option.some.inj hb))

end TradingEngine
