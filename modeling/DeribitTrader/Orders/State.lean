import DeribitTrader.Container
import DeribitTrader.Json
import Mathlib.Algebra.Order.Ring.Unbundled.Rat

/-!
# The order registry (`order_manager.cpp`)

`OrderManager` keeps `orders_` (id to `Order`) and `positions_` (instrument to net size). Its
methods are functions of the state. What they take from outside is an input: the answer of the
exchange link (`cancelOrder` and `modifyOrder` go on only when it is `true`; `placeOrder` does
not read it), each `std::chrono::system_clock` reading, and the decoded payload of an update.

`placeOrder` reads the clock twice: once for the id (`"order_"` and the reading in decimal),
once for the creation timestamp. `onOrderUpdate` reads `order_id`, `state` and `filled_amount`
before it takes the lock, so a payload that lacks one of them, or has one of the wrong type,
changes nothing; a `"rejected"` update whose `error` member is not a string throws after the
order was already rewritten, and those writes stay (`updateOrder`).

`onPositionUpdate` takes the lock, clears `positions_` and only then reads the elements of the
snapshot, each through the `const` `operator[]` (`Json.constMember`); an element that throws
ends the loop with the entries stored before it (`storePositions`).

The sentinel of `getOrder` for an unknown id has indeterminate price, amount, side, type and
timestamps in C++; here they are zero, `BUY` and `LIMIT`.
-/

set_option autoImplicit false

namespace DeribitTrader

namespace Order

/-- `Order::Side`. -/
inductive Side where
  | BUY
  | SELL
  deriving DecidableEq

/-- `Order::Type`. -/
inductive OrderType where
  | LIMIT
  | MARKET
  deriving DecidableEq

/-- `Order::Status`. -/
inductive Status where
  | PENDING
  | OPEN
  | FILLED
  | PARTIALLY_FILLED
  | CANCELLED
  | REJECTED
  deriving DecidableEq

end Order

/-- `struct Order`. -/
structure Order where
  orderId : String
  instrument : String
  side : Order.Side
  type : Order.OrderType
  price : ℚ
  amount : ℚ
  filledAmount : ℚ
  status : Order.Status
  errorMessage : String
  creationTimestamp : Int
  lastUpdateTimestamp : Int
  deriving DecidableEq

/-- The state of an `OrderManager`. -/
structure OrderManager where
  orders : StdMap Order
  positions : StdMap ℚ

namespace OrderManager

/-- The registry as its constructor leaves it. -/
def empty : OrderManager := ⟨.empty, .empty⟩

/-- `placeOrder(instrument, side, price, amount, type)` (lines 19-56): the id is built from the
clock reading `idClock`, the timestamps from the reading `stampClock`. -/
def placeOrder (om : OrderManager) (instrument : String) (side : Order.Side) (price amount : ℚ)
    (type : Order.OrderType) (idClock stampClock : Int) : String × OrderManager :=
  let orderId := "order_" ++ toString idClock
  let order : Order :=
    { orderId, instrument, side, type, price, amount, filledAmount := 0, status := .OPEN,
      errorMessage := "", creationTimestamp := stampClock, lastUpdateTimestamp := stampClock }
  (orderId, { om with orders := om.orders.insert orderId order })

/-- `cancelOrder(order_id)` (lines 58-72), given the link's answer and the clock. -/
def cancelOrder (om : OrderManager) (orderId : String) (success : Bool) (clock : Int) :
    OrderManager :=
  match success, om.orders.find orderId with
  | true, some o =>
    let o := { o with status := .CANCELLED, lastUpdateTimestamp := clock }
    { om with orders := om.orders.insert orderId o }
  | _, _ => om

/-- `modifyOrder(order_id, new_price, new_amount)` (lines 74-91), given the link's answer and
the clock. -/
def modifyOrder (om : OrderManager) (orderId : String) (newPrice newAmount : ℚ) (success : Bool)
    (clock : Int) : OrderManager :=
  match success, om.orders.find orderId with
  | true, some o =>
    let o := { o with price := newPrice, amount := newAmount, lastUpdateTimestamp := clock }
    { om with orders := om.orders.insert orderId o }
  | _, _ => om

/-- Newest creation first, the order `std::sort` is asked for. -/
def newestFirst (a b : Order) : Bool := decide (b.creationTimestamp ≤ a.creationTimestamp)

/-- `getAllOrders()` (lines 93-108). -/
def getAllOrders (om : OrderManager) : List Order :=
  (om.orders.items.map (·.2)).mergeSort newestFirst

/-- `getOpenOrders()` (lines 110-127). -/
def getOpenOrders (om : OrderManager) : List Order :=
  ((om.orders.items.map (·.2)).filter fun o =>
    o.status = .OPEN || o.status = .PARTIALLY_FILLED).mergeSort newestFirst

/-- The order `getOrder` answers for an unknown id. -/
def notFound (orderId : String) : Order :=
  { orderId, instrument := "", side := .BUY, type := .LIMIT, price := 0, amount := 0,
    filledAmount := 0, status := .REJECTED, errorMessage := "Order not found",
    creationTimestamp := 0, lastUpdateTimestamp := 0 }

/-- `getOrder(order_id)` (lines 129-141). -/
def getOrder (om : OrderManager) (orderId : String) : Order :=
  (om.orders.find orderId).getD (notFound orderId)

/-- `getCurrentPositions()` (lines 143-146). -/
def getCurrentPositions (om : OrderManager) : StdMap ℚ := om.positions

/-- The three members `onOrderUpdate` reads before it takes the lock (lines 154-156). -/
def readUpdate (data : Json) : Except Unit (String × String × ℚ) := do
  let orderId ← (← data.member "order_id").getString
  let status ← (← data.member "state").getString
  let filledAmount ← (← data.member "filled_amount").getNumber
  pure (orderId, status, filledAmount)

/-- The order after an update that names it (lines 161-180). A `"rejected"` update whose
`error` member is no string throws at `get`, after the writes above it. -/
def updateOrder (data : Json) (status : String) (filledAmount : ℚ) (clock : Int) (o : Order) :
    Order :=
  let o := { o with filledAmount, lastUpdateTimestamp := clock }
  if status = "open" then { o with status := .OPEN }
  else if status = "filled" then { o with status := .FILLED }
  else if status = "cancelled" then { o with status := .CANCELLED }
  else if status = "rejected" then
    let o := { o with status := .REJECTED }
    if data.contains "error" then
      match data.member "error" >>= Json.getString with
      | .ok e => { o with errorMessage := e }
      | .error _ => o
    else o
  else if 0 < filledAmount ∧ filledAmount < o.amount then { o with status := .PARTIALLY_FILLED }
  else o

/-- `onOrderUpdate(order_data)` (lines 148-184) on the decoded payload, given the clock. -/
def onOrderUpdate (om : OrderManager) (data : Option Json) (clock : Int) : OrderManager :=
  match data with
  | none => om
  | some data =>
    match readUpdate data with
    | .error _ => om
    | .ok (orderId, status, filledAmount) =>
      match om.orders.find orderId with
      | some o =>
        { om with orders := om.orders.insert orderId (updateOrder data status filledAmount clock o) }
      | none => om

/-- One element of a position snapshot (lines 197-198), read through the `const` `operator[]`. -/
def readPosition (position : Json) : Except Unit (String × ℚ) := do
  let instrument ← (← position.constMember "instrument_name").getString
  let size ← (← position.constMember "size").getNumber
  pure (instrument, size)

/-- The loop of lines 196-200 from the table `positions`: each element is read and stored in
turn, and a throw ends the loop with the entries stored so far. -/
def storePositions : List Json → StdMap ℚ → StdMap ℚ
  | [], positions => positions
  | position :: rest, positions =>
    match readPosition position with
    | .ok (instrument, size) => storePositions rest (positions.insert instrument size)
    | .error _ => positions

/-- `onPositionUpdate(position_data)` (lines 186-205) on the decoded payload: an array clears
the table (line 194) and refills it. -/
def onPositionUpdate (om : OrderManager) (data : Option Json) : OrderManager :=
  match data with
  | some data =>
    if data.isArray then { om with positions := storePositions data.items .empty } else om
  | none => om

end OrderManager

end DeribitTrader
