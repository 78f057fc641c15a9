import DeribitTrader.Link
import DeribitTrader.Server.Broadcast
import DeribitTrader.Server.Isolation

/-!
# The process of `main.cpp`: the cache feeding the broker

`main` builds one `MarketDataClient` and one `WebSocketServer` and registers, as the cache's
update callback, a function that serializes the book (`orderbookToJson`) and broadcasts it to
the subscribers of the book's instrument (`broadcastOrderbook`). A `Pipeline` is the two states.
An event is a call on the cache (`main`'s calls, or `processMessage` from the link's thread) or
a handler event of the broker (`ServerEvent`).

The callback runs in the thread of the cache call that invokes it, after the cache has stored
the book. It reads only the broker, and what the cache call does after it touches only the
cache and the link, so a cache call runs here as its run on the cache followed by the
callback's broadcasts on the broker, in the order the books were handed over. A cache call
hands over at most one book (`handedBooks_run`).

A step runs that broadcast with no handler event of the broker between its own steps. In the
process the broker's handler threads can act between them; `relay_during_churn` says what the
broadcast of a book then sends, in the interleaving semantics that `Threads.runSchedule_sees`
ties to the schedules of threads, and that with no other thread acting it is the step's
broadcast. So the laws below are those of a process whose handler events fall between cache
calls; a handler event during a broadcast changes only which connections the broadcast copies
and resolves, as `relay_during_churn` says.

`nlohmann::json::dump` is the section variable `dump`: nothing is assumed about how it prints
numbers or escapes strings, and every result holds for any serializer.

What is proved:
* the frame carries the whole book: read back with the cache's own level reader it gives the
  book, and the cache reading it as a snapshot stores the same levels
  (`orderbookToJson_round_trip`);
* after any history, a cache call sends each connection exactly the frames of the books it
  stores under instruments the connection is subscribed to, and the cache then holds those
  books (`relay_law`); which those instruments are depends only on the connection's own
  commands since it last closed (`frames_follow_own_commands`);
* among handler events of other threads, the broadcast of a book sends a connection its frame
  once exactly when the connection is subscribed when the ids are copied and a client when they
  are resolved (`relay_during_churn`);
* a notification on an instrument's channel reaches a connection exactly when the connection
  is subscribed to the part of the name before its first dot and the data has no bad level
  (`notification_frames`);
* in this build, where the link's `getOrderbook` is a placeholder, subscribing a new instrument
  stores a book with no level and sends its frame to the instrument's subscribers
  (`subscribe_as_built`).
-/

set_option autoImplicit false

namespace DeribitTrader

open MarketDataClient WebSocketServer

/-! ## The frame of a book -/

/-- A level as `orderbookToJson` writes it, `[price, size]` (main.cpp, lines 38-43). -/
def levelJson (level : Level) : Json := .array [.number level.price, .number level.size]

/-- The value `orderbookToJson` builds (main.cpp, lines 31-53). An `nlohmann::json` object is a
`std::map`, so its members are sorted by key whatever order they were set in. -/
def orderbookJson (ob : Orderbook) : Json :=
  .object [("asks", .array (ob.asks.map levelJson)), ("bids", .array (ob.bids.map levelJson)),
    ("instrument", .string ob.instrument), ("timestamp", .number ob.timestamp),
    ("type", .string "orderbook")]

/-- How a subscriber reads a frame's value back into a book: its `instrument` and `timestamp`
members, and its levels with the cache's own reader `bookOf`. -/
def readFrame (frame : Json) : Except Unit Orderbook := do
  let instrument ← (← frame.member "instrument").getString
  let timestamp ← (← frame.member "timestamp").getNumber
  bookOf instrument frame timestamp.num

/-- The level reader reads written levels back, every one, in order. -/
theorem parseLevels_map_levelJson (levels : List Level) :
    parseLevels (levels.map levelJson) = .ok levels := by
  induction levels with
  | nil => rfl
  | cons l levels ih => simp [parseLevels, parseLevel, levelJson, Json.getNumber, ih]

theorem sideItems_orderbookJson (ob : Orderbook) :
    sideItems (orderbookJson ob) "bids" = .ok (ob.bids.map levelJson) ∧
      sideItems (orderbookJson ob) "asks" = .ok (ob.asks.map levelJson) :=
  ⟨rfl, rfl⟩

/-- The cache's book reader reads the frame of a book as that book. -/
theorem bookOf_orderbookJson (ob : Orderbook) (now : Int) :
    bookOf ob.instrument (orderbookJson ob) now = .ok { ob with timestamp := now } := by
  simp [bookOf, (sideItems_orderbookJson ob).1, (sideItems_orderbookJson ob).2,
    parseLevels_map_levelJson]

theorem readFrame_orderbookJson (ob : Orderbook) :
    readFrame (orderbookJson ob) = bookOf ob.instrument (orderbookJson ob) ob.timestamp :=
  rfl

/-- **The frame carries the whole book.** A subscriber reading the frame's value gets the book
back; the cache, given the value as a snapshot's `result`, stores the book's levels. -/
theorem orderbookToJson_round_trip (ob : Orderbook) (now : Int) :
    readFrame (orderbookJson ob) = .ok ob ∧
      readSnapshot ob.instrument (.object [("result", orderbookJson ob)]) now =
        .ok (some { ob with timestamp := now }) :=
  ⟨(readFrame_orderbookJson ob).trans (bookOf_orderbookJson ob ob.timestamp),
    congrArg (some <$> ·) (bookOf_orderbookJson ob now)⟩

/-! ## The process -/

/-- The books a cache call hands to its callback, in order. -/
def handedBooks : List (Event MarketMutex MarketEffect) → List Orderbook
  | [] => []
  | .emit (.callback book) :: evs => book :: handedBooks evs
  | _ :: evs => handedBooks evs

@[simp] theorem handedBooks_append (evs evs' : List (Event MarketMutex MarketEffect)) :
    handedBooks (evs ++ evs') = handedBooks evs ++ handedBooks evs' := by
  induction evs with
  | nil => rfl
  | cons e evs ih => rcases e with _ | _ | (_ | _) <;> simp [handedBooks, ih]

/-- The frame a connection is sent by an event, if it is one. -/
def sentTo (c : String) : Event ServerMutex ServerEffect → Option String
  | .emit (.send c' m) => if c' = c then some m else none
  | _ => none

/-- The frames the broker sends connection `c`, in order. -/
def framesTo (c : String) (evs : List (Event ServerMutex ServerEffect)) : List String :=
  evs.filterMap (sentTo c)

/-- The cache and the broker of one process. -/
structure Pipeline where
  market : MarketDataClient
  server : WebSocketServer

/-- An event of the process. -/
inductive PipelineEvent where
  /-- A call on the cache: `main`'s `start`, `subscribe`, `unsubscribe`, `stop`, or the link's
  thread delivering a message to `processMessage`. -/
  | market (call : MarketCall)
  /-- A handler event of the broker. -/
  | server (event : ServerEvent)

/-- The broker's handler event, if the event is one. -/
def PipelineEvent.serverEvent? : PipelineEvent → Option ServerEvent
  | .server e => some e
  | .market _ => none

namespace Pipeline

/-- The process as `main` sets it up (lines 67-97): the cache with its callback registered and
not started, the broker started with no connection. -/
def initial : Pipeline := ⟨MarketDataClient.empty true, { WebSocketServer.empty with running := true }⟩

section Process

variable (dump : Json → String)

/-- `orderbookToJson(orderbook)` (main.cpp, lines 31-56): the value, serialized by `dump`. -/
def orderbookToJson (ob : Orderbook) : String := dump (orderbookJson ob)

/-- The callback `main` registers (lines 83-87). -/
def relay (book : Orderbook) : ServerProg :=
  broadcastOrderbook book.instrument (orderbookToJson dump book)

/-- One event and the broker's events it causes. A cache call runs on the cache, then the
callback runs on the broker for each book handed over, in order. -/
def step (p : Pipeline) : PipelineEvent → Pipeline × List (Event ServerMutex ServerEffect)
  | .market call =>
    let r := call.prog.run p.market
    let out := (Prog.forEach (handedBooks r.2) (relay dump)).run p.server
    (⟨r.1, out.1⟩, out.2)
  | .server e =>
    let out := e.prog.run p.server
    (⟨p.market, out.1⟩, out.2)

/-- The process after the events, one after another, and the broker's events. -/
def run : List PipelineEvent → Pipeline → Pipeline × List (Event ServerMutex ServerEffect)
  | [], p => (p, [])
  | e :: evs, p =>
    ((run evs (step dump p e).1).1, (step dump p e).2 ++ (run evs (step dump p e).1).2)

end Process

end Pipeline

/-! ## What a broadcast sends each connection -/

theorem framesTo_append (c : String) (evs evs' : List (Event ServerMutex ServerEffect)) :
    framesTo c (evs ++ evs') = framesTo c evs ++ framesTo c evs' :=
  List.filterMap_append _ _ _

/-- Sending one message to each connection of a list sends it to `c` as often as `c` is listed. -/
theorem framesTo_sends (c m : String) (l : List String) :
    framesTo c (l.map fun c' => .emit (.send c' m)) = List.replicate (l.count c) m := by
  induction l with
  | nil => rfl
  | cons c' l ih =>
    by_cases h : c' = c
    · subst h
      rw [List.count_cons_self, List.replicate_succ, ← ih]
      simp [framesTo, sentTo]
    · rw [List.count_cons_of_ne (Ne.symm h), ← ih]
      simp [framesTo, sentTo, h]

/-- Where every subscriber is a client, a broadcast sends its message once to each connection
subscribed to the instrument, and nothing to the others. -/
theorem framesTo_broadcastToSubscribers {r : Finset (String × String)} {s : WebSocketServer}
    (hm : Mirrors r s) (hc : Covered s) (i m c : String) :
    framesTo c ((broadcastToSubscribers i m).run s).2 =
      if i ∈ getSubscriptions s c then [m] else [] := by
  have hnodup := (setItems_nodup ((s.instrumentSubscribers.find i).getD ∅)).filter
    (fun c => decide (c ∈ s.clients))
  rw [run_broadcastToSubscribers, framesTo_append, framesTo_sends]
  by_cases hi : i ∈ getSubscriptions s c
  · have hmem : c ∈ (setItems ((s.instrumentSubscribers.find i).getD ∅)).filter
        (fun c => decide (c ∈ s.clients)) := by
      have hsub := (hm.mem_subscribers_iff c i).mpr hi
      simpa [hsub] using hc c i hsub
    simp [framesTo, sentTo, hi, List.count_eq_one_of_mem hnodup hmem]
  · have hmem : c ∉ (setItems ((s.instrumentSubscribers.find i).getD ∅)).filter
        (fun c => decide (c ∈ s.clients)) := fun h =>
      hi ((hm.mem_subscribers_iff c i).mp (mem_setItems.mp (List.mem_filter.mp h).1))
    simp [framesTo, sentTo, hi, List.count_eq_zero_of_not_mem hmem]

/-! ## What a cache call hands to the callback -/

/-- The book of a snapshot response for an instrument, if the response stores one. -/
def snapshotBook (instrument : String) (response : Option Json) (now : Int) : Option Orderbook :=
  (response.bind snapshotData).bind fun data =>
    if hasBadLevel data then none else some (bookFrom instrument data now)

/-- In this build the snapshot of every instrument is the link's placeholder answer, whose
`result` is a string: the book it gives has no level. -/
theorem snapshotBook_getOrderbook (instrument : String) (now : Int) :
    snapshotBook instrument (JsonText.decode (ApiClient.getOrderbook instrument 10)) now =
      some ⟨instrument, [], [], now⟩ :=
  rfl

/-- The book a cache call stores: a book notification's, or the snapshot of an instrument
newly subscribed on a running cache. -/
def MarketDataClient.MarketCall.newBook : MarketCall → MarketDataClient → Option Orderbook
  | .processMessage message now, _ => storedBook message now
  | .subscribe instrument response now, s =>
    if instrument ∉ s.subscriptions ∧ s.running then snapshotBook instrument response now
    else none
  | _, _ => none

theorem handedBooks_map_link {α : Type} (l : List α) (f : α → LinkCall) :
    handedBooks (l.map fun x => .emit (.link (f x))) = [] := by
  induction l with
  | nil => rfl
  | cons x l ih => exact ih

theorem handedBooks_ingest (s : MarketDataClient) (instrument : String) (data : Json)
    (now : Int) : handedBooks (ingest s instrument data now).2 =
      if s.hasCallback then
        (if hasBadLevel data then none else some (bookFrom instrument data now)).toList
      else [] := by
  unfold ingest
  by_cases hd : hasBadLevel data <;> cases hc : s.hasCallback <;> simp [hd, hc, handedBooks]

theorem find_ingest (s : MarketDataClient) (instrument : String) (data : Json) (now : Int)
    {b : Orderbook} (hb : (if hasBadLevel data then none else some (bookFrom instrument data now)) = some b) :
    (ingest s instrument data now).1.orderbooks.find b.instrument = some b := by
  unfold ingest
  by_cases hd : hasBadLevel data <;> simp only [hd, if_true, if_false, reduceCtorEq, Option.some.injEq] at hb ⊢
  subst hb
  simp [bookFrom]

/-- The book a notification on an instrument's channel stores. -/
theorem storedBook_notification (instrument : String) (data : Json) (now : Int) :
    storedBook (some (notification (bookChannel instrument) data)) now =
      if hasBadLevel data then none
      else some (bookFrom ⟨instrument.data.takeWhile (· != '.')⟩ data now) := by
  rw [storedBook, Option.some_bind,
    bookNotification_notification data (by simp [bookChannel, List.isPrefixOf]), Option.some_bind]
  dsimp only
  rw [channelInstrument_bookChannel]

section CacheCall

variable (call : MarketCall) (s : MarketDataClient)

/-- No cache call changes whether a callback is registered. -/
theorem hasCallback_run : (call.prog.run s).1.hasCallback = s.hasCallback := by
  cases call with
  | start => rw [MarketCall.prog, run_start]; split <;> rfl
  | stop => rw [MarketCall.prog, run_stop]; split <;> rfl
  | subscribe i r now =>
    rw [MarketCall.prog, run_subscribe]
    split
    · rfl
    · split
      · rw [run_fetchInitialOrderbook_eq]
        split
        · unfold ingest; split <;> rfl
        · rfl
      · rfl
  | unsubscribe i => rw [MarketCall.prog, run_unsubscribe]; split <;> rfl
  | processMessage m now => exact hasCallback_processMessage m now s

/-- A cache call hands the callback the book it stores, if a callback is registered. -/
theorem handedBooks_run :
    handedBooks (call.prog.run s).2 = if s.hasCallback then (call.newBook s).toList else [] := by
  cases call with
  | start =>
    rw [MarketCall.prog, run_start]
    split <;> simp [handedBooks, handedBooks_map_link, MarketCall.newBook]
  | stop =>
    rw [MarketCall.prog, run_stop]
    split <;> simp [handedBooks, handedBooks_map_link, MarketCall.newBook]
  | unsubscribe i =>
    rw [MarketCall.prog, run_unsubscribe]
    split <;> simp [handedBooks, MarketCall.newBook]
  | processMessage m now =>
    rw [MarketCall.prog, run_processMessage_eq, MarketCall.newBook, storedBook]
    rcases m.bind bookNotification with _ | ⟨channel, data⟩
    · simp [handedBooks]
    · exact handedBooks_ingest s _ data now
  | subscribe i r now =>
    rw [MarketCall.prog, run_subscribe, MarketCall.newBook]
    by_cases hi : i ∈ s.subscriptions
    · simp [hi, handedBooks]
    · by_cases hr : s.running
      · rw [run_fetchInitialOrderbook_eq]
        simp only [hi, hr, if_false, if_true, not_false_eq_true, and_self, snapshotBook]
        rcases r.bind snapshotData with _ | data
        · simp [handedBooks]
        · simpa [handedBooks] using handedBooks_ingest _ i data now
      · simp [hi, hr, handedBooks]

/-- The book a cache call stores is the cache's entry for its instrument afterwards. -/
theorem find_newBook {b : Orderbook} (hb : call.newBook s = some b) :
    (call.prog.run s).1.orderbooks.find b.instrument = some b := by
  cases call with
  | processMessage m now =>
    rw [MarketCall.prog, run_processMessage_eq]
    rw [MarketCall.newBook, storedBook] at hb
    rcases hm : m.bind bookNotification with _ | ⟨channel, data⟩
    · simp [hm] at hb
    · rw [hm, Option.some_bind] at hb
      exact find_ingest s _ data now hb
  | subscribe i r now =>
    rw [MarketCall.newBook] at hb
    split at hb
    · rename_i hir
      rw [MarketCall.prog, run_subscribe, if_neg hir.1, if_pos hir.2, run_fetchInitialOrderbook_eq]
      rw [snapshotBook] at hb
      rcases hr : r.bind snapshotData with _ | data
      · simp [hr] at hb
      · rw [hr, Option.some_bind] at hb
        exact find_ingest _ i data now hb
    · exact absurd hb (by simp)
  | start | stop | unsubscribe _ => exact absurd hb (by simp [MarketCall.newBook])

end CacheCall

namespace Pipeline

section Relay

variable (dump : Json → String)

/-- The callback's broadcasts leave the broker as it was. -/
theorem run_forEach_relay (books : List Orderbook) (s : WebSocketServer) :
    ((Prog.forEach books (relay dump)).run s).1 = s := by
  induction books with
  | nil => rfl
  | cons b books ih => simpa [Prog.forEach, relay, broadcastOrderbook] using ih

/-- The callback's broadcasts send each connection the frames of the books whose instrument it
is subscribed to, in order. -/
theorem framesTo_forEach_relay {r : Finset (String × String)} {s : WebSocketServer}
    (hm : Mirrors r s) (hc : Covered s) (books : List Orderbook) (c : String) :
    framesTo c ((Prog.forEach books (relay dump)).run s).2 =
      (books.filter fun b => b.instrument ∈ getSubscriptions s c).map (orderbookToJson dump) := by
  induction books with
  | nil => rfl
  | cons b books ih =>
    have hstate : ((relay dump b).run s).1 = s := by simp [relay, broadcastOrderbook]
    have hb := framesTo_broadcastToSubscribers hm hc b.instrument (orderbookToJson dump b) c
    rw [show Prog.forEach (b :: books) (relay dump) =
        (relay dump b).seq (Prog.forEach books (relay dump)) from rfl,
      Prog.run_seq, framesTo_append, hstate, ih]
    change framesTo c ((broadcastToSubscribers _ _).run s).2 ++ _ = _
    rw [hb]
    by_cases hi : b.instrument ∈ getSubscriptions s c <;> simp [hi]

/-- **The step's broadcast among other threads.** Among any handler steps of other threads
(`Churn`), the callback's broadcast of a book sends a connection the book's frame once exactly
when the connection is subscribed to the book's instrument when the ids are copied and a client
when they are resolved, and never otherwise; with no other thread acting, it runs as in `step`. -/
theorem relay_during_churn (book : Orderbook) {r : Finset (String × String)} {s : WebSocketServer}
    (hs : Mirrors r s) (env : Nat → List Churn) (c : String) :
    ((relay dump book).interleave Churn.apply env 0 s).2.count
        (.emit (.send c (orderbookToJson dump book))) =
      (if book.instrument ∈ getSubscriptions (applyAll Churn.apply (envUpTo env 2) s) c ∧
          c ∈ (applyAll Churn.apply (envUpTo env 5) s).clients then 1 else 0) ∧
    (relay dump book).interleave Churn.apply (fun _ => []) 0 s = (relay dump book).run s :=
  ⟨count_send_during_churn book.instrument _ hs env c, Prog.interleave_quiet _ _ _ _⟩

end Relay

/-! ## Runs of the process -/

/-- The broker's handler events among the process's events. -/
def serverEvents (evs : List PipelineEvent) : List ServerEvent :=
  evs.filterMap PipelineEvent.serverEvent?

/-- What every reachable process keeps: the broker's invariant for its history of handler
events, and the callback `main` registered. -/
structure Sound (p : Pipeline) (before : List ServerEvent) : Prop where
  live : Live p.server before
  callback : p.market.hasCallback = true

theorem Sound.initial : Sound initial [] :=
  ⟨⟨⟨∅, Mirrors.empty.clients_iff, Mirrors.empty.instruments_iff, Mirrors.empty.nonempty⟩,
    Live.empty.covered, Live.empty.accepted⟩, rfl⟩

section Run

variable (dump : Json → String) {p : Pipeline} {before : List ServerEvent}

/-- A cache call keeps the invariant: the callback's broadcasts leave the broker as it was. -/
theorem Sound.market (h : Sound p before) (call : MarketCall) :
    Sound (step dump p (.market call)).1 before :=
  ⟨by simpa [Pipeline.step, run_forEach_relay] using h.live,
    by simpa [Pipeline.step, hasCallback_run] using h.callback⟩

/-- A handler event allowed after the history keeps the invariant. -/
theorem Sound.server (h : Sound p before) (e : ServerEvent) (hallow : e.AllowedAfter before) :
    Sound (step dump p (.server e)).1 (before ++ [e]) :=
  ⟨h.live.step e hallow, h.callback⟩

/-- A run whose handler events are admissible after the history keeps the invariant. -/
theorem Sound.run (h : Sound p before) {evs : List PipelineEvent}
    (hadm : AdmissibleFrom before (serverEvents evs)) :
    Sound (run dump evs p).1 (before ++ serverEvents evs) := by
  induction evs generalizing p before with
  | nil => simpa [serverEvents] using h
  | cons e evs ih =>
    cases e with
    | market call => exact ih (h.market dump call) hadm
    | server e =>
      have hrun := ih (h.server dump e hadm.1) hadm.2
      rwa [List.append_assoc, List.singleton_append] at hrun

/-- In a sound process, a cache call sends each connection the frame of the book it stores
when the connection is subscribed to the book's instrument, and nothing else. -/
theorem framesTo_step_market (h : Sound p before) (call : MarketCall) (c : String) :
    framesTo c (step dump p (.market call)).2 =
      ((call.newBook p.market).toList.filter fun b => b.instrument ∈ getSubscriptions p.server c).map
        (orderbookToJson dump) := by
  obtain ⟨r, hr⟩ := h.live.mirrors
  rw [Pipeline.step, framesTo_forEach_relay dump hr h.live.covered, handedBooks_run, h.callback,
    if_pos rfl]

end Run

/-- The process after a history from `main`'s setup. -/
def reach (dump : Json → String) (evs : List PipelineEvent) : Pipeline := (run dump evs initial).1

/-- The broker of a run is the broker after the run's handler events alone: cache calls leave
it as it was. -/
theorem server_run (dump : Json → String) (evs : List PipelineEvent) (p : Pipeline) :
    (run dump evs p).1.server = runEvents (serverEvents evs) p.server := by
  induction evs generalizing p with
  | nil => rfl
  | cons e evs ih =>
    cases e with
    | market call => exact (ih _).trans (congrArg _ (run_forEach_relay dump _ _))
    | server e => exact ih _

/-- Every process reached by an admissible history is sound. -/
theorem Sound.reach (dump : Json → String) {evs : List PipelineEvent}
    (hadm : Admissible (serverEvents evs)) : Sound (reach dump evs) (serverEvents evs) := by
  simpa using Sound.initial.run dump hadm

/-! ## The laws -/

section Laws

variable (dump : Json → String)

/-- A history of the process: connection `a` is accepted and subscribes to `BTC-PERPETUAL`,
then `main` starts the cache. -/
def subscribedHistory : List PipelineEvent :=
  [.server (.onAccept "a"),
    .server (.handleMessage "a" "\x7b\"type\":\"subscribe\",\"instrument\":\"BTC-PERPETUAL\"\x7d"),
    .market .start]

theorem subscribedHistory_admissible : Admissible (serverEvents subscribedHistory) := by
  simp [subscribedHistory, serverEvents, PipelineEvent.serverEvent?, Admissible, AdmissibleFrom,
    ServerEvent.AllowedAfter]

/-- **Books reach exactly their subscribers.** After any history from `main`'s setup whose
handler events are admissible, a cache call leaves the broker as it was, the book it stores (a
notification's, or a new subscription's snapshot) is the cache's entry for its instrument, and
each connection is sent that book's frame, once, exactly when it is subscribed to the book's
instrument; no other frame is sent. -/
theorem relay_law (evs : List PipelineEvent) (hadm : Admissible (serverEvents evs))
    (call : MarketCall) :
    (step dump (reach dump evs) (.market call)).1.server = (reach dump evs).server ∧
    (∀ b ∈ call.newBook (reach dump evs).market,
      (step dump (reach dump evs) (.market call)).1.market.orderbooks.find b.instrument = some b) ∧
    ∀ c, framesTo c (step dump (reach dump evs) (.market call)).2 =
      ((call.newBook (reach dump evs).market).toList.filter fun b =>
        b.instrument ∈ getSubscriptions (reach dump evs).server c).map (orderbookToJson dump) := by
  have h := Sound.reach dump hadm
  exact ⟨run_forEach_relay dump _ _, fun b hb => find_newBook call _ hb,
    framesTo_step_market dump h call⟩

/-- The law's premise holds of `subscribedHistory`. A notification on `BTC-PERPETUAL`'s channel
with one bid then stores that book, and `a` is sent its frame once. -/
theorem relay_law_subscribed :
    Admissible (serverEvents subscribedHistory) ∧
    ((step (fun _ => "") (reach (fun _ => "") subscribedHistory) (.market (.processMessage (some
        (notification (bookChannel "BTC-PERPETUAL")
          (.object [("bids", .array [.array [.number 50000, .number 1]])]))) 7))).1.server =
        (reach (fun _ => "") subscribedHistory).server ∧
      (∀ b ∈ (MarketCall.processMessage (some (notification (bookChannel "BTC-PERPETUAL")
          (.object [("bids", .array [.array [.number 50000, .number 1]])]))) 7).newBook
          (reach (fun _ => "") subscribedHistory).market,
        (step (fun _ => "") (reach (fun _ => "") subscribedHistory) (.market (.processMessage (some
          (notification (bookChannel "BTC-PERPETUAL")
            (.object [("bids", .array [.array [.number 50000, .number 1]])]))) 7))).1.market.orderbooks.find
          b.instrument = some b) ∧
      ∀ c, framesTo c (step (fun _ => "") (reach (fun _ => "") subscribedHistory)
          (.market (.processMessage (some (notification (bookChannel "BTC-PERPETUAL")
            (.object [("bids", .array [.array [.number 50000, .number 1]])]))) 7))).2 =
        (((MarketCall.processMessage (some (notification (bookChannel "BTC-PERPETUAL")
          (.object [("bids", .array [.array [.number 50000, .number 1]])]))) 7).newBook
            (reach (fun _ => "") subscribedHistory).market).toList.filter fun b =>
          b.instrument ∈ getSubscriptions (reach (fun _ => "") subscribedHistory).server c).map
          (orderbookToJson fun _ => "")) ∧
    (MarketCall.processMessage (some (notification (bookChannel "BTC-PERPETUAL")
        (.object [("bids", .array [.array [.number 50000, .number 1]])]))) 7).newBook
        (reach (fun _ => "") subscribedHistory).market = some ⟨"BTC-PERPETUAL", [⟨50000, 1⟩], [], 7⟩ ∧
    framesTo "a" (step (fun _ => "") (reach (fun _ => "") subscribedHistory)
        (.market (.processMessage (some (notification (bookChannel "BTC-PERPETUAL")
          (.object [("bids", .array [.array [.number 50000, .number 1]])]))) 7))).2 =
      [orderbookToJson (fun _ => "") ⟨"BTC-PERPETUAL", [⟨50000, 1⟩], [], 7⟩] := by
  have h := relay_law (fun _ => "") subscribedHistory subscribedHistory_admissible
    (.processMessage (some (notification (bookChannel "BTC-PERPETUAL")
      (.object [("bids", .array [.array [.number 50000, .number 1]])]))) 7)
  refine ⟨subscribedHistory_admissible, h, by decide, ?_⟩
  rw [h.2.2]
  decide

/-- **A notification reaches the subscribers of its channel's cut name.** After any admissible
history, a notification on the channel of an instrument sends a connection the frame of the
book of its data, once, exactly when the data has no bad level and the connection is subscribed
to the part of the instrument's name before its first dot; otherwise it sends nothing. -/
theorem notification_frames (evs : List PipelineEvent) (hadm : Admissible (serverEvents evs))
    (instrument : String) (data : Json) (now : Int) (c : String) :
    framesTo c (step dump (reach dump evs)
        (.market (.processMessage (some (notification (bookChannel instrument) data)) now))).2 =
      if hasBadLevel data = false ∧
          (⟨instrument.data.takeWhile (· != '.')⟩ : String) ∈ getSubscriptions (reach dump evs).server c
      then [orderbookToJson dump (bookFrom ⟨instrument.data.takeWhile (· != '.')⟩ data now)]
      else [] := by
  have h := Sound.reach dump hadm
  rw [framesTo_step_market dump h, MarketCall.newBook, storedBook_notification]
  by_cases hd : hasBadLevel data
  · simp [hd]
  · by_cases hs : (⟨instrument.data.takeWhile (· != '.')⟩ : String) ∈
        getSubscriptions (reach dump evs).server c <;> simp [hd, hs, bookFrom, List.filter_cons]

/-- The law's premise holds of `subscribedHistory`: a notification on `BTC-PERPETUAL`'s channel
with one bid sends `a`, subscribed to it, the frame of that book once. -/
theorem notification_frames_subscribed :
    Admissible (serverEvents subscribedHistory) ∧
    framesTo "a" (step (fun _ => "") (reach (fun _ => "") subscribedHistory)
        (.market (.processMessage (some (notification (bookChannel "BTC-PERPETUAL")
          (.object [("bids", .array [.array [.number 50000, .number 1]])]))) 7))).2 =
      (if hasBadLevel (.object [("bids", .array [.array [.number 50000, .number 1]])]) = false ∧
          (⟨"BTC-PERPETUAL".data.takeWhile (· != '.')⟩ : String) ∈
            getSubscriptions (reach (fun _ => "") subscribedHistory).server "a"
        then [orderbookToJson (fun _ => "") (bookFrom ⟨"BTC-PERPETUAL".data.takeWhile (· != '.')⟩
          (.object [("bids", .array [.array [.number 50000, .number 1]])]) 7)]
        else []) ∧
    framesTo "a" (step (fun _ => "") (reach (fun _ => "") subscribedHistory)
        (.market (.processMessage (some (notification (bookChannel "BTC-PERPETUAL")
          (.object [("bids", .array [.array [.number 50000, .number 1]])]))) 7))).2 =
      [orderbookToJson (fun _ => "") (bookFrom "BTC-PERPETUAL"
        (.object [("bids", .array [.array [.number 50000, .number 1]])]) 7)] := by
  have h := notification_frames (fun _ => "") subscribedHistory subscribedHistory_admissible
    "BTC-PERPETUAL" (.object [("bids", .array [.array [.number 50000, .number 1]])]) 7 "a"
  refine ⟨subscribedHistory_admissible, h, ?_⟩
  rw [h]
  decide

/-- **A connection is sent the books of the instruments its own commands subscribed it to.**
After any admissible history from `main`'s setup, a cache call sends a connection the frame of
the book it stores, once, exactly when the book's instrument is among those the connection's
own frames subscribed it to and did not unsubscribe it from since it last closed; it sends
nothing else. What other connections sent plays no part. -/
theorem frames_follow_own_commands (evs : List PipelineEvent) (hadm : Admissible (serverEvents evs))
    (call : MarketCall) (c : String) :
    framesTo c (step dump (reach dump evs) (.market call)).2 =
      ((call.newBook (reach dump evs).market).toList.filter fun b =>
        b.instrument ∈ ownSubscriptions c (serverEvents evs)).map (orderbookToJson dump) := by
  rw [framesTo_step_market dump (Sound.reach dump hadm), reach, server_run,
    getSubscriptions_runEvents]
  rfl

/-- The law's premise holds of `subscribedHistory`, whose own commands of `a` subscribe it to
`BTC-PERPETUAL`: a notification on that channel sends `a` the frame of its book once. -/
theorem frames_follow_own_commands_subscribed :
    Admissible (serverEvents subscribedHistory) ∧
    framesTo "a" (step (fun _ => "") (reach (fun _ => "") subscribedHistory)
        (.market (.processMessage (some (notification (bookChannel "BTC-PERPETUAL")
          (.object [("bids", .array [.array [.number 50000, .number 1]])]))) 7))).2 =
      (((MarketCall.processMessage (some (notification (bookChannel "BTC-PERPETUAL")
          (.object [("bids", .array [.array [.number 50000, .number 1]])]))) 7).newBook
          (reach (fun _ => "") subscribedHistory).market).toList.filter fun b =>
        b.instrument ∈ ownSubscriptions "a" (serverEvents subscribedHistory)).map
        (orderbookToJson fun _ => "") ∧
    "BTC-PERPETUAL" ∈ ownSubscriptions "a" (serverEvents subscribedHistory) ∧
    framesTo "a" (step (fun _ => "") (reach (fun _ => "") subscribedHistory)
        (.market (.processMessage (some (notification (bookChannel "BTC-PERPETUAL")
          (.object [("bids", .array [.array [.number 50000, .number 1]])]))) 7))).2 =
      [orderbookToJson (fun _ => "") ⟨"BTC-PERPETUAL", [⟨50000, 1⟩], [], 7⟩] := by
  have h := frames_follow_own_commands (fun _ => "") subscribedHistory subscribedHistory_admissible
    (.processMessage (some (notification (bookChannel "BTC-PERPETUAL")
      (.object [("bids", .array [.array [.number 50000, .number 1]])]))) 7) "a"
  refine ⟨subscribedHistory_admissible, h, by decide, ?_⟩
  rw [h]
  decide

/-- **In this build a new subscription relays an empty book.** After any admissible history,
`subscribe` of an instrument, with the snapshot the link answers in this build (`getOrderbook`
is the placeholder `makeRequest`), stores under the instrument, when it is new and the cache is
running, the book with no bid and no ask at the clock reading, and sends that book's frame once
to each connection subscribed to the instrument; otherwise it sends nothing. -/
theorem subscribe_as_built (evs : List PipelineEvent) (hadm : Admissible (serverEvents evs))
    (instrument : String) (now : Int) :
    ((instrument ∉ (reach dump evs).market.subscriptions ∧ (reach dump evs).market.running) →
      (step dump (reach dump evs) (.market (.subscribe instrument
        (JsonText.decode (ApiClient.getOrderbook instrument 10)) now))).1.market.orderbooks.find
          instrument = some ⟨instrument, [], [], now⟩) ∧
    ∀ c, framesTo c (step dump (reach dump evs) (.market (.subscribe instrument
        (JsonText.decode (ApiClient.getOrderbook instrument 10)) now))).2 =
      if (instrument ∉ (reach dump evs).market.subscriptions ∧ (reach dump evs).market.running) ∧
          instrument ∈ getSubscriptions (reach dump evs).server c
      then [orderbookToJson dump ⟨instrument, [], [], now⟩] else [] := by
  have h := Sound.reach dump hadm
  have hbook : (MarketCall.subscribe instrument (JsonText.decode (ApiClient.getOrderbook instrument 10))
      now).newBook (reach dump evs).market =
      if instrument ∉ (reach dump evs).market.subscriptions ∧ (reach dump evs).market.running
      then some ⟨instrument, [], [], now⟩ else none := by
    rw [MarketCall.newBook, snapshotBook_getOrderbook]
  refine ⟨fun hnew => find_newBook _ _ (hbook.trans (if_pos hnew)), fun c => ?_⟩
  rw [framesTo_step_market dump h, hbook]
  by_cases hnew : instrument ∉ (reach dump evs).market.subscriptions ∧ (reach dump evs).market.running
  · by_cases hs : instrument ∈ getSubscriptions (reach dump evs).server c <;>
      simp [hnew, hs, List.filter_cons]
  · simp only [hnew, if_false, false_and]
    rfl

/-- The law's premise holds of `subscribedHistory`, after which the cache runs and holds no
subscription: subscribing `BTC-PERPETUAL` stores its empty book and sends `a`, subscribed to it at
the broker, that book's frame once. -/
theorem subscribe_as_built_subscribed :
    Admissible (serverEvents subscribedHistory) ∧
    ((("BTC-PERPETUAL" ∉ (reach (fun _ => "") subscribedHistory).market.subscriptions ∧
        (reach (fun _ => "") subscribedHistory).market.running) →
      (step (fun _ => "") (reach (fun _ => "") subscribedHistory) (.market (.subscribe "BTC-PERPETUAL"
        (JsonText.decode (ApiClient.getOrderbook "BTC-PERPETUAL" 10)) 7))).1.market.orderbooks.find
          "BTC-PERPETUAL" = some ⟨"BTC-PERPETUAL", [], [], 7⟩) ∧
    ∀ c, framesTo c (step (fun _ => "") (reach (fun _ => "") subscribedHistory)
        (.market (.subscribe "BTC-PERPETUAL" (JsonText.decode (ApiClient.getOrderbook "BTC-PERPETUAL" 10))
          7))).2 =
      if ("BTC-PERPETUAL" ∉ (reach (fun _ => "") subscribedHistory).market.subscriptions ∧
          (reach (fun _ => "") subscribedHistory).market.running) ∧
          "BTC-PERPETUAL" ∈ getSubscriptions (reach (fun _ => "") subscribedHistory).server c
      then [orderbookToJson (fun _ => "") ⟨"BTC-PERPETUAL", [], [], 7⟩] else []) ∧
    (step (fun _ => "") (reach (fun _ => "") subscribedHistory) (.market (.subscribe "BTC-PERPETUAL"
        (JsonText.decode (ApiClient.getOrderbook "BTC-PERPETUAL" 10)) 7))).1.market.orderbooks.find
          "BTC-PERPETUAL" = some ⟨"BTC-PERPETUAL", [], [], 7⟩ ∧
    framesTo "a" (step (fun _ => "") (reach (fun _ => "") subscribedHistory)
        (.market (.subscribe "BTC-PERPETUAL" (JsonText.decode (ApiClient.getOrderbook "BTC-PERPETUAL" 10))
          7))).2 =
      [orderbookToJson (fun _ => "") ⟨"BTC-PERPETUAL", [], [], 7⟩] := by
  have h := subscribe_as_built (fun _ => "") subscribedHistory subscribedHistory_admissible
    "BTC-PERPETUAL" 7
  have hnew : "BTC-PERPETUAL" ∉ (reach (fun _ => "") subscribedHistory).market.subscriptions ∧
      (reach (fun _ => "") subscribedHistory).market.running := by decide
  refine ⟨subscribedHistory_admissible, h, h.1 hnew, ?_⟩
  rw [h.2]
  decide

end Laws

end Pipeline

end DeribitTrader
