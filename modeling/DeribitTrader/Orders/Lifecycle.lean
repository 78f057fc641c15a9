import DeribitTrader.Orders.State

/-!
# What placements and updates do to orders

Two facts about the registry, each against the spec's order lifecycle.

**Terminal states are not absorbing** (`update_sets_status_whatever_current`). `modifyOrder`
never changes a status, but `onOrderUpdate` does not read the current one: an update that names
a known order sets its status from the update's `state` string alone (`updatedStatus`), and the
current status decides only when the string is none of the four and the fill is not strictly
between zero and the amount. So a `FILLED` order reopens on a later `"open"` update
(`filled_order_reopens`).

**Placement loses an order on a repeated clock reading** (`same_clock_reading_loses_order`).
The id is `"order_"` and the clock reading; two placements that read the same value get the same
id, the second overwrites the first in `orders_`, and `getAllOrders` returns one order
(`length_getAllOrders`).

**An update is not all-or-nothing** (`order_update_law`). An update that names a known order
with a string `state` and a numeric `filled_amount` rewrites that order's fill, status, message
and update time and nothing else. Every other payload changes nothing, and that includes one
with no `state` at all: `data["state"]` reads as `null`, `get<std::string>()` throws, and so no
`PARTIALLY_FILLED` is inferred for a missing state. The one partial write is a `"rejected"`
update whose `error` member is not a string. It throws only after the fill, the status and the
time were written, so the order is left `REJECTED` with its old message
(`update_without_state_or_with_bad_error`).

**A position snapshot is cleared before it is read** (`position_snapshot_law`). An array
payload replaces the table with the entries read before its first element that throws, a later
entry for a name overriding an earlier one. The law is for elements that hold the members the
loop reads: on an object without one, nlohmann's `const` `operator[]` asserts rather than throws
(`positionMembersPresent`). The table held before is dropped whatever the elements are
(`bad_position_element_clears_table`). Any other payload changes nothing.
-/

set_option autoImplicit false

namespace DeribitTrader.OrderManager

/-- The status `updateOrder` gives an order with amount `amount` and status `current`. -/
def updatedStatus (status : String) (filledAmount amount : ℚ) (current : Order.Status) :
    Order.Status :=
  if status = "open" then .OPEN
  else if status = "filled" then .FILLED
  else if status = "cancelled" then .CANCELLED
  else if status = "rejected" then .REJECTED
  else if 0 < filledAmount ∧ filledAmount < amount then .PARTIALLY_FILLED
  else current

@[simp] theorem updateOrder_status (data : Json) (status : String) (filledAmount : ℚ)
    (clock : Int) (o : Order) :
    (updateOrder data status filledAmount clock o).status =
      updatedStatus status filledAmount o.amount o.status := by
  dsimp only [updateOrder, updatedStatus]
  cases data.member "error" >>= Json.getString <;> simp only [apply_ite Order.status, ite_self]

/-- A payload that reads as an update rewrites only the order it names, through `updateOrder`. -/
theorem onOrderUpdate_find {om : OrderManager} {data : Json} {orderId status : String}
    {filledAmount : ℚ} (hread : readUpdate data = .ok (orderId, status, filledAmount))
    (clock : Int) (k : String) :
    (om.onOrderUpdate (some data) clock).orders.find k =
      if k = orderId then (om.orders.find k).map (updateOrder data status filledAmount clock)
      else om.orders.find k := by
  simp only [onOrderUpdate, hread]
  cases ho : om.orders.find orderId with
  | none => by_cases hk : k = orderId <;> simp [hk, ho]
  | some o => by_cases hk : k = orderId <;> simp [hk, ho]

/-- A payload that does not read as an update changes nothing. -/
theorem onOrderUpdate_of_not_read {om : OrderManager} {data : Option Json}
    (h : ∀ r, data.map readUpdate ≠ some (.ok r)) (clock : Int) :
    om.onOrderUpdate data clock = om := by
  cases data with
  | none => rfl
  | some d =>
    cases hr : readUpdate d with
    | error => simp only [onOrderUpdate, hr]
    | ok r => exact absurd (by rw [Option.map_some', hr]) (h r)

theorem modifyOrder_find_status (om : OrderManager) (orderId : String) (p a : ℚ) (success : Bool)
    (clock : Int) (k : String) :
    ((om.modifyOrder orderId p a success clock).orders.find k).map Order.status =
      (om.orders.find k).map Order.status := by
  unfold modifyOrder
  split
  · rename_i o ho; by_cases hk : k = orderId <;> simp [hk, ho]
  · rfl

/-- **Terminal states are not absorbing.** `modifyOrder` keeps every status; an update that
reads sets the status of the order it names by `updatedStatus`, whatever that status was; any
other payload changes nothing. -/
theorem update_sets_status_whatever_current :
    (∀ (om : OrderManager) orderId p a success clock k,
      ((om.modifyOrder orderId p a success clock).orders.find k).map Order.status =
        (om.orders.find k).map Order.status) ∧
    (∀ (om : OrderManager) data clock orderId status filledAmount,
      readUpdate data = .ok (orderId, status, filledAmount) → ∀ k,
        ((om.onOrderUpdate (some data) clock).orders.find k).map Order.status =
          (om.orders.find k).map fun o =>
            if k = orderId then updatedStatus status filledAmount o.amount o.status else o.status) ∧
    (∀ (om : OrderManager) data clock, (∀ r, data.map readUpdate ≠ some (.ok r)) →
      om.onOrderUpdate data clock = om) := by
  refine ⟨modifyOrder_find_status, fun om data clock orderId status filledAmount hread k => ?_,
    fun om data clock h => onOrderUpdate_of_not_read h clock⟩
  rw [onOrderUpdate_find hread]
  by_cases hk : k = orderId <;> simp [hk, Option.map_map, Function.comp_def]

/-- The update `{"filled_amount": 1, "order_id": id, "state": state}`. -/
def stateUpdate (orderId state : String) : Json :=
  .object [("filled_amount", .number 1), ("order_id", .string orderId), ("state", .string state)]

/-- A filled order is reopened by a later `"open"` update. -/
theorem filled_order_reopens :
    (((OrderManager.empty.placeOrder "BTC-PERPETUAL" .BUY 50000 1 .LIMIT 1 1).2.onOrderUpdate
        (some (stateUpdate "order_1" "filled")) 2).getOrder "order_1").status = .FILLED ∧
    ((((OrderManager.empty.placeOrder "BTC-PERPETUAL" .BUY 50000 1 .LIMIT 1 1).2.onOrderUpdate
        (some (stateUpdate "order_1" "filled")) 2).onOrderUpdate
          (some (stateUpdate "order_1" "open")) 3).getOrder "order_1").status = .OPEN := by
  decide

/-- `getAllOrders` returns one order per id in `orders_`. -/
theorem length_getAllOrders (om : OrderManager) : om.getAllOrders.length = om.orders.keys.card := by
  simp [getAllOrders, StdMap.length_items]

/-- Two placements that read the same clock value get the same id, and the registry keeps one
order. -/
theorem same_clock_reading_loses_order :
    (OrderManager.empty.placeOrder "BTC-PERPETUAL" .BUY 50000 1 .LIMIT 1000 1000).1 = "order_1000" ∧
    ((OrderManager.empty.placeOrder "BTC-PERPETUAL" .BUY 50000 1 .LIMIT 1000 1000).2.placeOrder
      "ETH-PERPETUAL" .SELL 3000 1 .LIMIT 1000 1000).1 = "order_1000" ∧
    ((OrderManager.empty.placeOrder "BTC-PERPETUAL" .BUY 50000 1 .LIMIT 1000 1000).2.placeOrder
      "ETH-PERPETUAL" .SELL 3000 1 .LIMIT 1000 1000).2.getAllOrders.length = 1 := by
  refine ⟨rfl, rfl, ?_⟩
  rw [length_getAllOrders]
  decide

/-! ## What an update writes -/

/-- The message an update leaves on an order: the `error` string of a `"rejected"` update, and
the old message otherwise. -/
def updatedMessage (status : String) (error : Option Json) (current : String) : String :=
  if status = "rejected" then
    match error with
    | some (.string e) => e
    | _ => current
  else current

/-- What `updateOrder` does to an order, field by field. -/
theorem updateOrder_object (ms : List (String × Json)) (status : String) (filledAmount : ℚ)
    (clock : Int) (o : Order) :
    updateOrder (.object ms) status filledAmount clock o =
      { o with
        filledAmount := filledAmount, lastUpdateTimestamp := clock,
        status := updatedStatus status filledAmount o.amount o.status,
        errorMessage := updatedMessage status (ms.lookup "error") o.errorMessage } := by
  unfold updateOrder updatedStatus updatedMessage
  by_cases h1 : status = "open"
  · simp [h1]
  by_cases h2 : status = "filled"
  · simp [h2]
  by_cases h3 : status = "cancelled"
  · simp [h3]
  by_cases h4 : status = "rejected"
  · rcases he : ms.lookup "error" with _ | _ | _ | _ | e | _ | _ <;>
      simp [h4, he, Json.contains, Json.member, Json.getString]
  · simp only [h1, h2, h3, h4, if_false]
    split <;> rfl

/-- The three members an update reads, from an object. -/
theorem readUpdate_object {ms : List (String × Json)} {orderId status : String}
    {filledAmount : ℚ} (hid : ms.lookup "order_id" = some (.string orderId))
    (hstate : ms.lookup "state" = some (.string status))
    (hfilled : ms.lookup "filled_amount" = some (.number filledAmount)) :
    readUpdate (.object ms) = .ok (orderId, status, filledAmount) := by
  simp [readUpdate, Json.member, hid, hstate, hfilled, Json.getString, Json.getNumber]

/-- **An update is not all-or-nothing.** An update naming a known order, with a string `state`
and a numeric `filled_amount`, rewrites the order's fill, status, message and update time and
nothing else; a payload with no `state` changes nothing. -/
theorem order_update_law :
    (∀ (om : OrderManager) (ms : List (String × Json)) (clock : Int) (orderId status : String)
        (filledAmount : ℚ) (o : Order),
      ms.lookup "order_id" = some (.string orderId) → ms.lookup "state" = some (.string status) →
      ms.lookup "filled_amount" = some (.number filledAmount) → om.orders.find orderId = some o →
      om.onOrderUpdate (some (.object ms)) clock =
        { om with
          orders := om.orders.insert orderId
            { o with
              filledAmount := filledAmount, lastUpdateTimestamp := clock,
              status := updatedStatus status filledAmount o.amount o.status,
              errorMessage := updatedMessage status (ms.lookup "error") o.errorMessage } }) ∧
    (∀ (om : OrderManager) (data : Json) (clock : Int), data.member "state" = .ok .null →
      om.onOrderUpdate (some data) clock = om) := by
  refine ⟨fun om ms clock orderId status filledAmount o hid hstate hfilled ho => ?_,
    fun om data clock hstate => onOrderUpdate_of_not_read (fun r h => ?_) clock⟩
  · simp only [onOrderUpdate, readUpdate_object hid hstate hfilled, ho, updateOrder_object]
  · have hthrow : readUpdate data = .error () := by
      simp only [readUpdate, hstate, except_ok_bind, Json.getString, except_error_bind]
      rcases data.member "order_id" with _ | (_ | _ | _ | _ | _ | _) <;> rfl
    simp [hthrow] at h

/-- An open order of amount 2 and an update with no `state`: the order is left as it was, its
fill not written and no `PARTIALLY_FILLED` inferred. A `"rejected"` update whose `error` is a
number: the order is left `REJECTED` with the new fill, though the update threw. -/
theorem update_without_state_or_with_bad_error :
    ((OrderManager.empty.placeOrder "BTC-PERPETUAL" .BUY 50000 2 .LIMIT 1 1).2.onOrderUpdate
        (some (.object [("filled_amount", .number 1), ("order_id", .string "order_1")]))
        2).getOrder "order_1" =
      (OrderManager.empty.placeOrder "BTC-PERPETUAL" .BUY 50000 2 .LIMIT 1 1).2.getOrder "order_1" ∧
    ((OrderManager.empty.placeOrder "BTC-PERPETUAL" .BUY 50000 2 .LIMIT 1 1).2.getOrder
        "order_1").status = .OPEN ∧
    (((OrderManager.empty.placeOrder "BTC-PERPETUAL" .BUY 50000 2 .LIMIT 1 1).2.onOrderUpdate
        (some (.object [("error", .number 5), ("filled_amount", .number 1),
          ("order_id", .string "order_1"), ("state", .string "rejected")])) 2).getOrder
        "order_1").status = .REJECTED ∧
    (((OrderManager.empty.placeOrder "BTC-PERPETUAL" .BUY 50000 2 .LIMIT 1 1).2.onOrderUpdate
        (some (.object [("error", .number 5), ("filled_amount", .number 1),
          ("order_id", .string "order_1"), ("state", .string "rejected")])) 2).getOrder
        "order_1").filledAmount = 1 := by
  decide

/-! ## Position snapshots -/

/-- An element on which the loop's `const` `operator[]` never meets a missing key: a value that
is not an object (there nlohmann throws, as `constMember` does), or an object with both
`instrument_name` and `size`. On an object without the key nlohmann asserts instead, which is
undefined behaviour in a release build and is not the throw `constMember` returns, so the
snapshot law is stated for elements of this kind only. -/
def positionMembersPresent : Json → Bool
  | .object ms => (ms.lookup "instrument_name").isSome && (ms.lookup "size").isSome
  | _ => true

/-- The entries of a snapshot read before its first element that throws. -/
def readPositions : List Json → List (String × ℚ)
  | [] => []
  | position :: rest =>
    match readPosition position with
    | .ok entry => entry :: readPositions rest
    | .error _ => []

/-- The loop stores the entries read before the first throw over the table it starts from, a
later entry for a name overriding an earlier one. -/
theorem find_storePositions (ps : List Json) (positions : StdMap ℚ) (k : String) :
    (storePositions ps positions).find k =
      ((readPositions ps).reverse.lookup k).or (positions.find k) := by
  induction ps generalizing positions with
  | nil => rfl
  | cons p ps ih =>
    rcases hp : readPosition p with _ | ⟨i, size⟩
    · simp [storePositions, readPositions, hp]
    · have hstore : storePositions (p :: ps) positions = storePositions ps (positions.insert i size) := by
        simp [storePositions, hp]
      rw [hstore, ih]
      by_cases hk : k = i
      · subst hk
        simp [readPositions, hp, List.lookup_append, Option.or_assoc]
      · simp [readPositions, hp, List.lookup_append, Option.or_assoc, List.lookup_cons,
          beq_false_of_ne hk, hk]

/-- A snapshot whose every element reads gives all its entries. -/
theorem readPositions_of_mapM {ps : List Json} {es : List (String × ℚ)}
    (h : ps.mapM readPosition = .ok es) : readPositions ps = es := by
  induction ps generalizing es with
  | nil => exact (Except.ok.inj h).symm ▸ rfl
  | cons p ps ih =>
    rw [List.mapM_cons] at h
    rcases hp : readPosition p with _ | e
    · simp [hp] at h
    · rcases hps : ps.mapM readPosition with _ | es'
      · rw [hp, hps] at h
        exact nomatch h
      · rw [hp, hps] at h
        rw [← Except.ok.inj h]
        simp [readPositions, hp, ih hps]

/-- **A position snapshot is cleared before it is read.** An array payload whose elements have
the members the loop reads (`positionMembersPresent`) leaves exactly the entries read before its
first element that throws, a later entry for a name overriding an earlier one, whatever the table
held; when every element reads, those are all its entries. Any other payload changes nothing. -/
theorem position_snapshot_law :
    (∀ (om : OrderManager) (ps : List Json), (∀ p ∈ ps, positionMembersPresent p) →
      ∀ k : String, (om.onPositionUpdate (some (.array ps))).positions.find k =
        (readPositions ps).reverse.lookup k) ∧
    (∀ (ps : List Json) (es : List (String × ℚ)),
      ps.mapM readPosition = .ok es → readPositions ps = es) ∧
    (∀ (om : OrderManager) (data : Option Json), (∀ ps, data ≠ some (.array ps)) →
      om.onPositionUpdate data = om) := by
  refine ⟨fun om ps _ k => ?_, fun ps es => readPositions_of_mapM, fun om data h => ?_⟩
  · simp [onPositionUpdate, Json.isArray, Json.items, find_storePositions, Option.or_none]
  · rcases data with _ | ⟨_ | _ | _ | _ | ps | _⟩ <;> first | exact absurd rfl (h _) | rfl

/-- The premises met at once: a table holding `BTC-PERPETUAL` and a snapshot of two elements with
both members, the second with a string size; a snapshot whose elements all read; and an object
payload. -/
theorem position_snapshot_law_mixed :
    (∀ p ∈ [.object [("instrument_name", .string "ETH-PERPETUAL"), ("size", .number 1)],
        .object [("instrument_name", .string "BTC-PERPETUAL"), ("size", .string "x")]],
      positionMembersPresent p) ∧
    (({ OrderManager.empty with positions := StdMap.empty.insert "BTC-PERPETUAL" 2 }).onPositionUpdate
      (some (.array [.object [("instrument_name", .string "ETH-PERPETUAL"), ("size", .number 1)],
        .object [("instrument_name", .string "BTC-PERPETUAL"), ("size", .string "x")]]))).positions.find
          "BTC-PERPETUAL" =
      (readPositions [.object [("instrument_name", .string "ETH-PERPETUAL"), ("size", .number 1)],
        .object [("instrument_name", .string "BTC-PERPETUAL"), ("size", .string "x")]]).reverse.lookup
          "BTC-PERPETUAL" ∧
    [Json.object [("instrument_name", .string "ETH-PERPETUAL"), ("size", .number 1)]].mapM
        readPosition = .ok [("ETH-PERPETUAL", 1)] ∧
    readPositions [.object [("instrument_name", .string "ETH-PERPETUAL"), ("size", .number 1)]] =
      [("ETH-PERPETUAL", 1)] ∧
    (∀ ps, some (Json.object []) ≠ some (.array ps)) ∧
    OrderManager.empty.onPositionUpdate (some (.object [])) = OrderManager.empty := by
  have hmem : ∀ p ∈ [Json.object [("instrument_name", .string "ETH-PERPETUAL"),
      ("size", .number 1)], .object [("instrument_name", .string "BTC-PERPETUAL"),
      ("size", .string "x")]], positionMembersPresent p := by decide
  have hread : [Json.object [("instrument_name", .string "ETH-PERPETUAL"),
      ("size", .number 1)]].mapM readPosition = .ok [("ETH-PERPETUAL", 1)] := rfl
  have hobj : ∀ ps, some (Json.object []) ≠ some (.array ps) := by simp
  exact ⟨hmem, position_snapshot_law.1 _ _ hmem _, hread, position_snapshot_law.2.1 _ _ hread,
    hobj, position_snapshot_law.2.2 _ _ hobj⟩

/-- A table holding `BTC-PERPETUAL` and a snapshot whose second element has a string size: the
loop stores the first entry, then throws, and `BTC-PERPETUAL` is gone. -/
theorem bad_position_element_clears_table :
    (({ OrderManager.empty with positions := StdMap.empty.insert "BTC-PERPETUAL" 2 }).onPositionUpdate
      (some (.array [.object [("instrument_name", .string "ETH-PERPETUAL"), ("size", .number 1)],
        .object [("instrument_name", .string "BTC-PERPETUAL"), ("size", .string "x")]]))).positions.find
          "BTC-PERPETUAL" = none ∧
    (({ OrderManager.empty with positions := StdMap.empty.insert "BTC-PERPETUAL" 2 }).onPositionUpdate
      (some (.array [.object [("instrument_name", .string "ETH-PERPETUAL"), ("size", .number 1)],
        .object [("instrument_name", .string "BTC-PERPETUAL"), ("size", .string "x")]]))).positions.find
          "ETH-PERPETUAL" = some 1 := by
  decide

end DeribitTrader.OrderManager
