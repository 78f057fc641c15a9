import DeribitTrader.Container
import DeribitTrader.Json
import DeribitTrader.Prog
import DeribitTrader.Text

/-!
# The order-book cache (`market_data.cpp`)

`MarketDataClient` is the cache's state: the `running_` flag, the subscription vector
`subscriptions_`, the book map `orderbooks_`, and whether an update callback is registered.
Each method is a `MarketProg` over the two mutexes, with the same blocks as the source; its
effects are the calls it makes on the exchange link (`LinkCall`) and the callback.
`running_` is a `std::atomic<bool>` read and written outside any lock, so its test and its
store are two separate accesses.

Payloads come decoded (`Option Json`, `none` when `json::parse` throws); a response of the link
and each clock reading is an input of the method that reads it.

The two paths that build a book, `processMessage` and `fetchInitialOrderbook`, run the same
level loops, written once as `bookOf`; they differ only in where the book's data sits and which
instrument it is stored under (`readNotification`, `readSnapshot`). The getter's empty book has
an indeterminate timestamp in C++; here it is `0`.
-/

set_option autoImplicit false

namespace DeribitTrader

/-- `Orderbook::Level`. -/
structure Level where
  price : ℚ
  size : ℚ
  deriving DecidableEq

/-- `struct Orderbook`. -/
structure Orderbook where
  instrument : String
  bids : List Level
  asks : List Level
  timestamp : Int
  deriving DecidableEq

/-- The calls the cache makes on the exchange link (`ApiClient`). -/
inductive LinkCall where
  | connectWebSocket
  | subscribeToOrderbook (instrument : String)
  | unsubscribeFromOrderbook (instrument : String)
  | closeWebSocket
  | getOrderbook (instrument : String)
  deriving DecidableEq

/-- The effects of the cache: a link call, or the update callback with a book. -/
inductive MarketEffect where
  | link (call : LinkCall)
  | callback (book : Orderbook)
  deriving DecidableEq

/-- The two mutexes of a `MarketDataClient`. -/
inductive MarketMutex where
  | subscriptions
  | orderbooks
  deriving DecidableEq

/-- The state of a `MarketDataClient`. -/
structure MarketDataClient where
  running : Bool
  subscriptions : List String
  orderbooks : StdMap Orderbook
  hasCallback : Bool

/-- A method of the cache, as its thread runs it. -/
abbrev MarketProg := Prog MarketDataClient MarketMutex MarketEffect

namespace MarketDataClient

/-- The client as its constructor leaves it, with a callback registered or not. -/
def empty (hasCallback : Bool) : MarketDataClient := ⟨false, [], .empty, hasCallback⟩

/-! ## Reading a book -/

/-- One element of a side: an array of at least two elements is a level, and must hold numbers
in its first two places (lines 158-163); anything else is skipped. -/
def parseLevel : Json → Except Unit (Option Level)
  | .array (p :: q :: _) => do
    let price ← p.getNumber
    let size ← q.getNumber
    pure (some ⟨price, size⟩)
  | _ => pure none

/-- The levels of a side, in order. -/
def parseLevels : List Json → Except Unit (List Level)
  | [] => pure []
  | j :: js => do
    let l ← parseLevel j
    let ls ← parseLevels js
    pure (l.toList ++ ls)

/-- The elements of side `key` of the book data: none when the data has no such member. -/
def sideItems (data : Json) (key : String) : Except Unit (List Json) :=
  if data.contains key then Json.items <$> data.member key else pure []

/-- The book built from `data` (lines 151-177 and 208-234). -/
def bookOf (instrument : String) (data : Json) (now : Int) : Except Unit Orderbook := do
  let bids ← parseLevels (← sideItems data "bids")
  let asks ← parseLevels (← sideItems data "asks")
  pure ⟨instrument, bids, asks, now⟩

/-- Whether `j` is the JSON string `s` (`j == "s"`). -/
def isString (j : Json) (s : String) : Bool :=
  match j with
  | .string t => t == s
  | _ => false

/-- The instrument of a channel `book.<instrument>.…` (lines 141-145): the text after
`book.`, up to its first dot. -/
def channelInstrument (channel : String) : String :=
  let instrument := substr channel 5 channel.length
  match find instrument "." 0 with
  | some firstDot => substr instrument 0 firstDot
  | none => instrument

/-- What `processMessage` makes of a message (lines 131-178): the book to store, `none` when
the message is no book notification, `.error` when a read throws. -/
def readNotification (data : Json) (now : Int) : Except Unit (Option Orderbook) :=
  if data.contains "method" && (data.member "method" |>.toOption |>.any (isString · "subscription"))
      && data.contains "params" then do
    let params ← data.member "params"
    if params.contains "channel" then
      let channel ← (← params.member "channel").getString
      if find channel "book." 0 = some 0 then
        some <$> bookOf (channelInstrument channel) (← params.member "data") now
      else pure none
    else pure none
  else pure none

/-- What `fetchInitialOrderbook` makes of the snapshot response (lines 199-235). -/
def readSnapshot (instrument : String) (data : Json) (now : Int) : Except Unit (Option Orderbook) :=
  if data.contains "result" then some <$> (data.member "result" >>= (bookOf instrument · now))
  else pure none

/-! ## Methods -/

/-- Store a book and notify the callback (lines 179-188 and 236-245). -/
def storeBook (book : Orderbook) : MarketProg :=
  .block .orderbooks (fun s => { s with orderbooks := s.orderbooks.insert book.instrument book })
    fun _ => .read fun s => if s.hasCallback then .emit (.callback book) .done else .done

/-- `processMessage(message)` (lines 128-194), given the clock. -/
def processMessage (message : Option Json) (now : Int) : MarketProg :=
  match message.map (readNotification · now) with
  | some (.ok (some book)) => storeBook book
  | _ => .done

/-- `fetchInitialOrderbook(instrument)` (lines 196-250), given the link's response and the
clock. -/
def fetchInitialOrderbook (instrument : String) (response : Option Json) (now : Int) : MarketProg :=
  .emit (.link (.getOrderbook instrument)) <|
    match response.map (readSnapshot instrument · now) with
    | some (.ok (some book)) => storeBook book
    | _ => .done

/-- `start()` (lines 23-43). -/
def start : MarketProg :=
  .read fun s => if s.running then .done else
    .write (fun s => { s with running := true }) <|
      .emit (.link .connectWebSocket) <|
        .block .subscriptions id fun s =>
          .forEach s.subscriptions fun i => .emit (.link (.subscribeToOrderbook i)) .done

/-- `stop()` (lines 45-63). -/
def stop : MarketProg :=
  .read fun s => if !s.running then .done else
    .write (fun s => { s with running := false }) <|
      .block .subscriptions id fun s =>
        (Prog.forEach s.subscriptions fun i => .emit (.link (.unsubscribeFromOrderbook i)) .done).seq
          (.emit (.link .closeWebSocket) .done)

/-- The block of `subscribe` (lines 68-74): append the instrument unless it is there. -/
def subscribeBlock (instrument : String) (s : MarketDataClient) : MarketDataClient :=
  if instrument ∈ s.subscriptions then s
  else { s with subscriptions := s.subscriptions ++ [instrument] }

/-- `subscribe(instrument)` (lines 65-83), given the snapshot response and the clock. -/
def subscribe (instrument : String) (response : Option Json) (now : Int) : MarketProg :=
  .block .subscriptions (subscribeBlock instrument) fun s =>
    if instrument ∈ s.subscriptions then .done else
      .read fun s => if !s.running then .done else
        (fetchInitialOrderbook instrument response now).seq
          (.emit (.link (.subscribeToOrderbook instrument)) .done)

/-- `unsubscribe(instrument)` (lines 85-105): `std::find` and `erase` drop the first
occurrence. -/
def unsubscribe (instrument : String) : MarketProg :=
  .block .subscriptions (fun s => { s with subscriptions := s.subscriptions.erase instrument })
    fun s => if instrument ∉ s.subscriptions then .done else
      .read fun s => if !s.running then .done else
        .emit (.link (.unsubscribeFromOrderbook instrument)) <|
          .block .orderbooks (fun s => { s with orderbooks := s.orderbooks.erase instrument })
            fun _ => .done

/-- `getSubscribedInstruments()` (lines 107-110). -/
def getSubscribedInstruments (s : MarketDataClient) : List String := s.subscriptions

/-- The book `getOrderbook` answers for an instrument with none. -/
def emptyBook (instrument : String) : Orderbook := ⟨instrument, [], [], 0⟩

/-- `getOrderbook(instrument)` (lines 112-122). -/
def getOrderbook (s : MarketDataClient) (instrument : String) : Orderbook :=
  (s.orderbooks.find instrument).getD (emptyBook instrument)

/-! ## Runs of the methods -/

variable (s : MarketDataClient)

@[simp] theorem run_storeBook (book : Orderbook) : (storeBook book).run s =
    ({ s with orderbooks := s.orderbooks.insert book.instrument book },
      [.lock .orderbooks, .unlock .orderbooks] ++
        if s.hasCallback then [.emit (.callback book)] else []) := by
  by_cases h : s.hasCallback <;> simp [storeBook, h]

theorem run_start : start.run s =
    if s.running then (s, [])
    else ({ s with running := true },
      [.emit (.link .connectWebSocket), .lock .subscriptions, .unlock .subscriptions] ++
        s.subscriptions.map fun i => .emit (.link (.subscribeToOrderbook i))) := by
  by_cases h : s.running <;> simp [start, h]

theorem run_stop : stop.run s =
    if s.running then
      ({ s with running := false }, [.lock .subscriptions, .unlock .subscriptions] ++
        s.subscriptions.map (fun i => .emit (.link (.unsubscribeFromOrderbook i))) ++
          [.emit (.link .closeWebSocket)])
    else (s, []) := by
  by_cases h : s.running <;> simp [stop, h]

theorem run_subscribe (instrument : String) (response : Option Json) (now : Int) :
    (subscribe instrument response now).run s =
      if instrument ∈ s.subscriptions then (s, [.lock .subscriptions, .unlock .subscriptions])
      else if s.running then
        (((fetchInitialOrderbook instrument response now).run
            { s with subscriptions := s.subscriptions ++ [instrument] }).1,
          [.lock .subscriptions, .unlock .subscriptions] ++
            ((fetchInitialOrderbook instrument response now).run
              { s with subscriptions := s.subscriptions ++ [instrument] }).2 ++
            [.emit (.link (.subscribeToOrderbook instrument))])
      else ({ s with subscriptions := s.subscriptions ++ [instrument] },
        [.lock .subscriptions, .unlock .subscriptions]) := by
  by_cases hi : instrument ∈ s.subscriptions <;> by_cases hr : s.running <;>
    simp [subscribe, subscribeBlock, hi, hr]

theorem run_unsubscribe (instrument : String) : (unsubscribe instrument).run s =
    if instrument ∈ s.subscriptions ∧ s.running then
      ({ s with subscriptions := s.subscriptions.erase instrument,
                orderbooks := s.orderbooks.erase instrument },
        [.lock .subscriptions, .unlock .subscriptions,
          .emit (.link (.unsubscribeFromOrderbook instrument)), .lock .orderbooks, .unlock .orderbooks])
    else ({ s with subscriptions := s.subscriptions.erase instrument },
      [.lock .subscriptions, .unlock .subscriptions]) := by
  by_cases hi : instrument ∈ s.subscriptions <;> by_cases hr : s.running <;>
    simp [unsubscribe, hi, hr]

theorem run_processMessage (message : Option Json) (now : Int) :
    (processMessage message now).run s =
      match message.map (readNotification · now) with
      | some (.ok (some book)) => (storeBook book).run s
      | _ => (s, []) := by
  unfold processMessage; split <;> rfl

end MarketDataClient

end DeribitTrader
