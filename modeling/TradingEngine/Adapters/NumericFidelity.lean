import TradingEngine.Adapters.KalshiOms

/-!
# Numbers on their way into an update

An update should carry the numbers of its payload, and a payload with a number that does not fit
should be refused. The library keeps integers as signed or unsigned 64-bit values, and a conversion
to another type keeps the low bits.

Two conversions lose something. `recv_ts_ns` is read with `0U` for a default, which makes it an
`unsigned int`: nanoseconds since any usual epoch are cut down to their low 32 bits, although the
field of the update has 64, and what is no integer is converted as well. Quantities and prices are
read as signed numbers, and an unsigned one from 2⁶³ on turns negative. `numbers_faithful_iff` says
that nothing else is lost.
-/

namespace TradingEngine.Kalshi

open Json (IsInt64 wrapInt64)

/-- The numbers of the update are the integers of the document, and fit their types. -/
structure NumbersFaithful (root : Json) (update : OrderStateUpdate) : Prop where
  recvTsNs : ∀ value, root.find "recv_ts_ns" = some value →
    value = .numberInteger update.recvTsNs ∧ update.recvTsNs < 2 ^ 64
  ack : ∀ message ack, root.find "msg" = some message → update.data = .ack ack →
    message.find "accepted_qty" = some (.numberInteger ack.acceptedQtyLots) ∧
      IsInt64 ack.acceptedQtyLots
  fill : ∀ message fill, root.find "msg" = some message → update.data = .fill fill →
    (message.find "fill_qty" = some (.numberInteger fill.fillQtyLots) ∧
      IsInt64 fill.fillQtyLots) ∧
    message.find "fill_price" = some (.numberInteger fill.fillPriceTicks) ∧
      IsInt64 fill.fillPriceTicks

/-- The integer under a key fits a signed 64-bit number. -/
def FieldFits (message : Json) (key : String) : Prop :=
  ∀ value, message.find key = some (.numberInteger value) → IsInt64 value

/-- The reception time is an integer of 32 bits if there is one, and the quantities and prices of
the message are signed 64-bit numbers. -/
structure NumbersFit (root : Json) : Prop where
  recvTsNs : ∀ value, root.find "recv_ts_ns" = some value →
    ∃ n : ℤ, value = .numberInteger n ∧ 0 ≤ n ∧ n < 2 ^ 32
  ack : ∀ message, root.find "msg" = some message → root.tryGetString "type" = some "order_ack" →
    FieldFits message "accepted_qty"
  fill : ∀ message, root.find "msg" = some message → root.tryGetString "type" = some "fill" →
    FieldFits message "fill_qty" ∧ FieldFits message "fill_price"

/-! ## One number -/

/-- A quantity or price is kept exactly when it fits. -/
theorem find_numberInteger_iff {message : Json} {key : String} {value : ℤ}
    (h : message.tryGetInt64 key = some value) :
    (message.find key = some (.numberInteger value) ∧ IsInt64 value) ↔ FieldFits message key := by
  rw [Json.tryGetInt64] at h
  split at h
  · rename_i n hfind
    obtain rfl := Option.some.inj h
    rw [FieldFits, hfind]
    constructor
    · rintro ⟨hsame, hfits⟩ value hvalue
      rw [Json.numberInteger.inj (Option.some.inj hsame)] at hvalue
      obtain rfl := Json.numberInteger.inj (Option.some.inj hvalue)
      exact hfits
    · intro hfits
      rw [Json.wrapInt64_of_isInt64 (hfits n rfl)]
      exact ⟨rfl, hfits n rfl⟩
  · exact absurd h (by simp)

/-- A reception time is kept exactly when it is an integer of 32 bits. -/
theorem recvTsNs_faithful_iff {root : Json} {recv : ℕ} (h : recvTsNs root = .ok recv) :
    (∀ value, root.find "recv_ts_ns" = some value →
      value = .numberInteger recv ∧ recv < 2 ^ 64) ↔
    ∀ value, root.find "recv_ts_ns" = some value →
      ∃ n : ℤ, value = .numberInteger n ∧ 0 ≤ n ∧ n < 2 ^ 32 := by
  rw [recvTsNs, Json.valueUInt32] at h
  cases hfind : root.find "recv_ts_ns" with
  | none => exact iff_of_true (fun _ hvalue ↦ by cases hvalue) fun _ hvalue ↦ by cases hvalue
  | some value =>
    rw [hfind] at h
    simp only [Option.some.injEq, forall_eq']
    cases value with
    | numberInteger n =>
      obtain rfl := Except.ok.inj h
      simp only [Json.numberInteger.injEq, exists_eq_left']
      omega
    | numberFloat integralPart => exact iff_of_false (fun hkept ↦ by cases hkept.1) (by simp)
    | boolean value => exact iff_of_false (fun hkept ↦ by cases hkept.1) (by simp)
    | null => cases h
    | string value => cases h
    | array items => cases h
    | object fields => cases h

/-- There is one message. -/
theorem numbersFaithful_iff {root message : Json} {update : OrderStateUpdate}
    (hmessage : root.find "msg" = some message) :
    NumbersFaithful root update ↔
      (∀ value, root.find "recv_ts_ns" = some value →
        value = .numberInteger update.recvTsNs ∧ update.recvTsNs < 2 ^ 64) ∧
      (∀ ack, update.data = .ack ack →
        message.find "accepted_qty" = some (.numberInteger ack.acceptedQtyLots) ∧
          IsInt64 ack.acceptedQtyLots) ∧
      ∀ fill, update.data = .fill fill →
        (message.find "fill_qty" = some (.numberInteger fill.fillQtyLots) ∧
          IsInt64 fill.fillQtyLots) ∧
        message.find "fill_price" = some (.numberInteger fill.fillPriceTicks) ∧
          IsInt64 fill.fillPriceTicks := by
  refine ⟨fun h ↦ ⟨h.recvTsNs, fun ack ↦ h.ack message ack hmessage,
    fun fill ↦ h.fill message fill hmessage⟩, ?_⟩
  rintro ⟨hrecv, hack, hfill⟩
  refine ⟨hrecv, fun message' ack hmessage' ↦ ?_, fun message' fill hmessage' ↦ ?_⟩
  · obtain rfl := Option.some.inj (hmessage.symm.trans hmessage')
    exact hack ack
  · obtain rfl := Option.some.inj (hmessage.symm.trans hmessage')
    exact hfill fill

theorem numbersFit_iff {root message : Json} {type : String}
    (hmessage : root.find "msg" = some message) (htype : root.tryGetString "type" = some type) :
    NumbersFit root ↔
      (∀ value, root.find "recv_ts_ns" = some value →
        ∃ n : ℤ, value = .numberInteger n ∧ 0 ≤ n ∧ n < 2 ^ 32) ∧
      (type = "order_ack" → FieldFits message "accepted_qty") ∧
      (type = "fill" → FieldFits message "fill_qty" ∧ FieldFits message "fill_price") := by
  refine ⟨fun h ↦ ⟨h.recvTsNs, fun hack ↦ h.ack message hmessage (hack ▸ htype),
    fun hfill ↦ h.fill message hmessage (hfill ▸ htype)⟩, ?_⟩
  rintro ⟨hrecv, hack, hfill⟩
  refine ⟨hrecv, fun message' hmessage' hack' ↦ ?_, fun message' hmessage' hfill' ↦ ?_⟩
  · obtain rfl := Option.some.inj (hmessage.symm.trans hmessage')
    exact hack (Option.some.inj (htype.symm.trans hack'))
  · obtain rfl := Option.some.inj (hmessage.symm.trans hmessage')
    exact hfill (Option.some.inj (htype.symm.trans hfill'))

variable {Text : Type*} {json : JsonLibrary Text}

/-- **The numbers of an update are those of its payload** exactly when the reception time is an
integer of 32 bits and the quantities and prices are signed 64-bit numbers. -/
theorem numbers_faithful_iff {payload : Text} {root : Json} {update : OrderStateUpdate}
    (hroot : json.parse payload = some root) (h : parseUpdate json payload = .ok update) :
    NumbersFaithful root update ↔ NumbersFit root := by
  obtain ⟨root', message, type, hroot', htype, hmessage, hparsed⟩ := parseUpdate_cases h
  obtain rfl := Option.some.inj (hroot.symm.trans hroot')
  -- number by number
  suffices hparts : recvTsNs root = .ok update.recvTsNs ∧
      ((∀ ack, update.data = .ack ack →
          message.find "accepted_qty" = some (.numberInteger ack.acceptedQtyLots) ∧
            IsInt64 ack.acceptedQtyLots) ↔
        (type = "order_ack" → FieldFits message "accepted_qty")) ∧
      ((∀ fill, update.data = .fill fill →
          (message.find "fill_qty" = some (.numberInteger fill.fillQtyLots) ∧
            IsInt64 fill.fillQtyLots) ∧
          message.find "fill_price" = some (.numberInteger fill.fillPriceTicks) ∧
            IsInt64 fill.fillPriceTicks) ↔
        (type = "fill" → FieldFits message "fill_qty" ∧ FieldFits message "fill_price")) by
    obtain ⟨hrecv, hack, hfill⟩ := hparts
    rw [numbersFaithful_iff hmessage, numbersFit_iff hmessage htype, recvTsNs_faithful_iff hrecv,
      hack, hfill]
  -- the type of the message decides which numbers there are
  rcases hparsed with ⟨rfl, hack⟩ | ⟨rfl, hreject⟩ | ⟨rfl, hfill⟩
  · obtain ⟨_, hrecv, ack, hdata, hqty⟩ := parseAck_ok hack
    refine ⟨hrecv, ?_, ?_⟩
    · simp only [hdata, OmsUpdateData.ack.injEq, forall_eq', find_numberInteger_iff hqty,
        forall_const]
    · exact iff_of_true (fun _ hother ↦ by cases hdata.symm.trans hother) fun hother ↦
        absurd hother (by decide)
  · obtain ⟨_, hrecv, reject, hdata⟩ := parseReject_ok hreject
    refine ⟨hrecv, ?_, ?_⟩
    · exact iff_of_true (fun _ hother ↦ by cases hdata.symm.trans hother) fun hother ↦
        absurd hother (by decide)
    · exact iff_of_true (fun _ hother ↦ by cases hdata.symm.trans hother) fun hother ↦
        absurd hother (by decide)
  · obtain ⟨_, hrecv, fill, hdata, hqty, hprice⟩ := parseFill_ok hfill
    refine ⟨hrecv, ?_, ?_⟩
    · exact iff_of_true (fun _ hother ↦ by cases hdata.symm.trans hother) fun hother ↦
        absurd hother (by decide)
    · simp only [hdata, OmsUpdateData.fill.injEq, forall_eq', find_numberInteger_iff hqty,
        find_numberInteger_iff hprice, forall_const]

namespace NumericFidelityExample

/-- An acknowledgement. -/
def acknowledgement (recvTsNs acceptedQty : ℤ) : Json :=
  .object [
    ("msg", .object [
      ("accepted_qty", .numberInteger acceptedQty),
      ("client_order_id", .string "cl-1"),
      ("market_ticker", .string "KXBTC-YES")]),
    ("recv_ts_ns", .numberInteger recvTsNs),
    ("type", .string "order_ack")]

end NumericFidelityExample

open NumericFidelityExample in
/-- A time of day in nanoseconds, and a quantity past the signed range. -/
theorem large_numbers_distorted :
    (∃ update, parseUpdate .trees (some (acknowledgement 1700000000000000000 10)) = .ok update ∧
      update.recvTsNs = 1700000000000000000 % 2 ^ 32 ∧
      ¬NumbersFaithful (acknowledgement 1700000000000000000 10) update) ∧
    ∃ update qty, parseUpdate .trees (some (acknowledgement 600 (2 ^ 64 - 1))) = .ok update ∧
      update.data = .ack qty ∧ qty.acceptedQtyLots = -1 ∧
      ¬NumbersFaithful (acknowledgement 600 (2 ^ 64 - 1)) update := by
  refine ⟨⟨_, rfl, by decide, fun hfaithful ↦ ?_⟩, _, _, rfl, rfl, by decide, fun hfaithful ↦ ?_⟩
  · have hsame := (hfaithful.recvTsNs _ rfl).1
    exact absurd (Json.numberInteger.inj hsame) (by decide)
  · have hsame := (hfaithful.ack _ _ rfl rfl).1
    exact absurd (Json.numberInteger.inj (Option.some.inj hsame)) (by decide)

open NumericFidelityExample in
theorem numbers_faithful_small :
    ∃ update, parseUpdate .trees (some (acknowledgement 600 10)) = .ok update ∧
      NumbersFaithful (acknowledgement 600 10) update := by
  have hroot : JsonLibrary.trees.parse (some (acknowledgement 600 10)) =
      some (acknowledgement 600 10) := rfl
  refine ⟨_, rfl, (numbers_faithful_iff hroot rfl).mpr ⟨?_, ?_, ?_⟩⟩
  · rintro value hvalue
    obtain rfl := Option.some.inj hvalue
    exact ⟨600, rfl, by decide, by decide⟩
  · rintro message hmessage _ value hvalue
    obtain rfl := Option.some.inj hmessage
    obtain rfl := Json.numberInteger.inj (Option.some.inj hvalue)
    decide
  · intro _ _ hfill
    exact absurd (Option.some.inj hfill) (by decide)

end TradingEngine.Kalshi
