import DeribitTrader.Discipline
import DeribitTrader.Interleave
import DeribitTrader.Market.Ingest

/-!
# Calls on the cache, one after another, and the link session they leave

A `MarketCall` is one call of the cache's public interface, with what it reads from outside
(the link's snapshot response and the clock for `subscribe`, the decoded message and the clock
for `processMessage`); `runCalls` makes the calls one after another, each returning before the
next is issued, and keeps every event.

What the exchange link has been asked is read off the events (`linkView`): the streaming
subscriptions of the current session, one entry per `subscribeToOrderbook` since the last
`connectWebSocket` not undone by an `unsubscribeFromOrderbook`, and whether a `closeWebSocket`
came after every `subscribeToOrderbook`.

**The law** (`sequential_calls_keep_session`): after any sequence of calls from a new client, the
client and its link agree (`InSession`): `subscriptions_` holds no instrument twice; while the
client runs, the link's session holds exactly the subscribed instruments, each once; once it is
stopped, the link was closed after every streaming subscribe. Each call keeps the agreement
(`InSession.step`), so the law is an induction over the calls.

The same holds on threads (`serial_schedule_keeps_session`): with each call on a thread of its
own and the threads run one after another under the mutex semantics of `Threads`, the schedule
runs to its end and leaves the state and events of `runCalls`, since every method keeps the lock
discipline (`MarketCall.disciplined`, `Threads.runSchedule_serial`).

`processMessage` reads and writes neither `running_` nor `subscriptions_`
(`processMessage_ignores_session`), and it is the cache's only handler of the link's messages,
so no completion checks `running_`: a notification that arrives after `unsubscribe(s)` or after `stop()` is stored
as on a running client subscribed to `s` (`late_notification_stored`).

**What it does not establish.** Calls here never overlap, and the law fails for calls that do:
`start_subscribe_race` is a schedule of `start()` and `subscribe(s)` on two threads after which
the client runs with `s` subscribed once and the link holds two streaming subscriptions of `s`.
-/

set_option autoImplicit false

namespace DeribitTrader.MarketDataClient

/-- A call on the cache, with the inputs it reads from outside. -/
inductive MarketCall where
  | start
  | stop
  | subscribe (instrument : String) (response : Option Json) (now : Int)
  | unsubscribe (instrument : String)
  | processMessage (message : Option Json) (now : Int)

/-- The method a call runs. -/
def MarketCall.prog : MarketCall → MarketProg
  | .start => MarketDataClient.start
  | .stop => MarketDataClient.stop
  | .subscribe instrument response now => MarketDataClient.subscribe instrument response now
  | .unsubscribe instrument => MarketDataClient.unsubscribe instrument
  | .processMessage message now => MarketDataClient.processMessage message now

/-- Calls made one after another: the final state and every event, in order. -/
def runCalls : List MarketCall → MarketDataClient →
    MarketDataClient × List (Event MarketMutex MarketEffect)
  | [], s => (s, [])
  | c :: calls, s =>
    ((runCalls calls (c.prog.run s).1).1, (c.prog.run s).2 ++ (runCalls calls (c.prog.run s).1).2)

/-! ## What the link has been asked -/

/-- The link as the cache's calls leave it. -/
structure LinkView where
  /-- The streaming subscriptions of the current session. -/
  active : List String
  /-- Whether a `closeWebSocket` came after every `subscribeToOrderbook`. -/
  closedAfterSubscribe : Bool

/-- The link after one more call. -/
def LinkView.call (v : LinkView) : LinkCall → LinkView
  | .connectWebSocket => { v with active := [] }
  | .subscribeToOrderbook i => ⟨v.active ++ [i], false⟩
  | .unsubscribeFromOrderbook i => { v with active := v.active.erase i }
  | .closeWebSocket => { v with closedAfterSubscribe := true }
  | .getOrderbook _ => v

/-- The link after one more event: only link calls move it. -/
def LinkView.observe (v : LinkView) : Event MarketMutex MarketEffect → LinkView
  | .emit (.link c) => v.call c
  | _ => v

/-- The link before any call. -/
def LinkView.initial : LinkView := ⟨[], true⟩

/-- The link after the events `evs`. -/
def linkView (evs : List (Event MarketMutex MarketEffect)) : LinkView :=
  evs.foldl LinkView.observe .initial

section Observe

variable (v : LinkView)

@[simp] theorem observe_lock (m : MarketMutex) : v.observe (.lock m) = v := rfl

@[simp] theorem observe_unlock (m : MarketMutex) : v.observe (.unlock m) = v := rfl

@[simp] theorem observe_callback (book : Orderbook) : v.observe (.emit (.callback book)) = v := rfl

@[simp] theorem observe_link (c : LinkCall) : v.observe (.emit (.link c)) = v.call c := rfl

theorem observe_subscribes (xs : List String) :
    (xs.map fun i => Event.emit (MarketEffect.link (.subscribeToOrderbook i))).foldl
      LinkView.observe v = ⟨v.active ++ xs, xs.isEmpty && v.closedAfterSubscribe⟩ := by
  induction xs generalizing v with
  | nil => simp
  | cons x xs ih => simp [ih, LinkView.call]

theorem observe_unsubscribes_closed (xs : List String) :
    (xs.map fun i => Event.emit (MarketEffect.link (.unsubscribeFromOrderbook i))).foldl
      LinkView.observe v = ⟨xs.foldl List.erase v.active, v.closedAfterSubscribe⟩ := by
  induction xs generalizing v with
  | nil => rfl
  | cons x xs ih => simp [ih, LinkView.call]

end Observe

/-! ## Storing books leaves the session alone -/

/-- What a store changes: only the books; its events are no link call. -/
theorem run_storeBook_session (book : Orderbook) (s : MarketDataClient) (v : LinkView) :
    ((storeBook book).run s).1.running = s.running ∧
    ((storeBook book).run s).1.subscriptions = s.subscriptions ∧
    ((storeBook book).run s).2.foldl LinkView.observe v = v := by
  by_cases h : s.hasCallback <;> simp [h]

/-- `processMessage` leaves `running_`, `subscriptions_` and the link as they were. -/
theorem run_processMessage_session (message : Option Json) (now : Int) (s : MarketDataClient)
    (v : LinkView) :
    ((processMessage message now).run s).1.running = s.running ∧
    ((processMessage message now).run s).1.subscriptions = s.subscriptions ∧
    ((processMessage message now).run s).2.foldl LinkView.observe v = v := by
  rw [run_processMessage]
  split
  · exact run_storeBook_session _ s v
  · exact ⟨rfl, rfl, rfl⟩

/-- `fetchInitialOrderbook` leaves `running_`, `subscriptions_` and the session as they were. -/
theorem run_fetchInitialOrderbook_session (instrument : String) (response : Option Json)
    (now : Int) (s : MarketDataClient) (v : LinkView) :
    ((fetchInitialOrderbook instrument response now).run s).1.running = s.running ∧
    ((fetchInitialOrderbook instrument response now).run s).1.subscriptions = s.subscriptions ∧
    ((fetchInitialOrderbook instrument response now).run s).2.foldl LinkView.observe v = v := by
  simp only [fetchInitialOrderbook, Prog.run_emit, List.foldl_cons, observe_link, LinkView.call]
  split
  · exact run_storeBook_session _ s v
  · exact ⟨rfl, rfl, rfl⟩

/-! ## The session invariant -/

/-- The client and its link agree. -/
structure InSession (s : MarketDataClient) (v : LinkView) : Prop where
  nodup : s.subscriptions.Nodup
  running : s.running = true → v.active.Perm s.subscriptions
  stopped : s.running = false → v.closedAfterSubscribe = true

theorem InSession.initial (hasCallback : Bool) : InSession (empty hasCallback) .initial :=
  ⟨List.nodup_nil, fun h => (nomatch h), fun _ => rfl⟩

variable {s : MarketDataClient} {v : LinkView}

theorem InSession.start (h : InSession s v) :
    InSession (start.run s).1 ((start.run s).2.foldl LinkView.observe v) := by
  rw [run_start]
  split
  · exact h
  · simp only [List.foldl_append, List.foldl_cons, observe_link, observe_lock, observe_unlock,
      List.foldl_nil, observe_subscribes]
    exact ⟨h.nodup, fun _ => by simp [LinkView.call], fun h' => (nomatch h')⟩

theorem InSession.stop (h : InSession s v) :
    InSession (stop.run s).1 ((stop.run s).2.foldl LinkView.observe v) := by
  rw [run_stop]
  split
  · simp only [List.foldl_append, List.foldl_cons, observe_link, observe_lock, observe_unlock,
      List.foldl_nil, observe_unsubscribes_closed]
    exact ⟨h.nodup, fun h' => (nomatch h'), fun _ => rfl⟩
  · exact h

theorem InSession.subscribe (h : InSession s v) (instrument : String) (response : Option Json)
    (now : Int) :
    InSession ((subscribe instrument response now).run s).1
      (((subscribe instrument response now).run s).2.foldl LinkView.observe v) := by
  rw [run_subscribe]
  by_cases hi : instrument ∈ s.subscriptions
  · simpa [hi] using h
  have hnodup : (s.subscriptions ++ [instrument]).Nodup :=
    List.nodup_append.mpr ⟨h.nodup, List.nodup_singleton _, by simpa using hi⟩
  by_cases hr : s.running
  · obtain ⟨hrun, hsub, hv⟩ := run_fetchInitialOrderbook_session instrument response now
      ⟨true, s.subscriptions ++ [instrument], s.orderbooks, s.hasCallback⟩ v
    dsimp only at hrun hsub
    simp only [hi, hr, ↓reduceIte, List.foldl_append, List.foldl_cons, observe_lock,
      observe_unlock, List.foldl_nil, hv, observe_link, LinkView.call]
    refine ⟨?_, fun _ => ?_, fun h' => by simp [hrun] at h'⟩
    · rw [hsub]; exact hnodup
    · rw [hsub]; exact (h.running hr).append_right _
  · simp only [hi, hr, Bool.false_eq_true, ↓reduceIte, List.foldl_cons, observe_lock,
      observe_unlock, List.foldl_nil]
    exact ⟨hnodup, fun h' => by simp at h', fun _ => h.stopped (by simpa using hr)⟩

theorem InSession.unsubscribe (h : InSession s v) (instrument : String) :
    InSession ((unsubscribe instrument).run s).1
      (((unsubscribe instrument).run s).2.foldl LinkView.observe v) := by
  rw [run_unsubscribe]
  have hnodup := h.nodup.erase instrument
  split
  · rename_i hir
    simp only [List.foldl_cons, observe_lock, observe_unlock, observe_link, LinkView.call,
      List.foldl_nil]
    exact ⟨hnodup, fun _ => (h.running hir.2).erase instrument, fun h' => by simp_all⟩
  · rename_i hir
    simp only [List.foldl_cons, observe_lock, observe_unlock, List.foldl_nil]
    refine ⟨hnodup, fun hr => ?_, h.stopped⟩
    have hi : instrument ∉ s.subscriptions := fun hi => hir ⟨hi, hr⟩
    rw [List.erase_of_not_mem hi]
    exact h.running hr

/-- A call that keeps `running_`, `subscriptions_` and the link keeps the agreement. -/
theorem InSession.of_frame (h : InSession s v) {s' : MarketDataClient} {v' : LinkView}
    (hrun : s'.running = s.running) (hsub : s'.subscriptions = s.subscriptions) (hv : v' = v) :
    InSession s' v' := by
  subst hv
  exact ⟨hsub ▸ h.nodup, fun hr => hsub ▸ h.running (hrun ▸ hr), fun hr => h.stopped (hrun ▸ hr)⟩

/-- One call keeps the agreement. -/
theorem InSession.step (h : InSession s v) (c : MarketCall) :
    InSession (c.prog.run s).1 ((c.prog.run s).2.foldl LinkView.observe v) := by
  cases c with
  | start => exact h.start
  | stop => exact h.stop
  | subscribe instrument response now => exact h.subscribe instrument response now
  | unsubscribe instrument => exact h.unsubscribe instrument
  | processMessage message now =>
    obtain ⟨hrun, hsub, hv⟩ := run_processMessage_session message now s v
    exact h.of_frame hrun hsub hv

/-- Every sequence of calls keeps the agreement. -/
theorem InSession.runCalls (h : InSession s v) (calls : List MarketCall) :
    InSession (runCalls calls s).1 (((runCalls calls s).2.foldl LinkView.observe v)) := by
  induction calls generalizing s v with
  | nil => exact h
  | cons c calls ih =>
    rw [MarketDataClient.runCalls, List.foldl_append]
    exact ih (h.step c)

/-- **The law.** Calls that never overlap, from a new client, leave the client and its link in
agreement. -/
theorem sequential_calls_keep_session (calls : List MarketCall) (hasCallback : Bool) :
    InSession (runCalls calls (empty hasCallback)).1
      (linkView (runCalls calls (empty hasCallback)).2) :=
  (InSession.initial hasCallback).runCalls calls

/-! ## Calls that do not overlap, on threads -/

/-- Every call's method keeps the lock discipline. -/
theorem MarketCall.disciplined : (c : MarketCall) → c.prog.Disciplined
  | .start => start_disciplined
  | .stop => stop_disciplined
  | .subscribe instrument response now => subscribe_disciplined instrument response now
  | .unsubscribe instrument => unsubscribe_disciplined instrument
  | .processMessage message now => processMessage_disciplined message now

/-- The calls' methods run one after another are the calls made one after another. -/
theorem runSerial_calls (calls : List MarketCall) (i : Nat) (s : MarketDataClient) :
    (runSerial (calls.map MarketCall.prog) i s).1 = (runCalls calls s).1 ∧
      (runSerial (calls.map MarketCall.prog) i s).2.map Prod.snd = (runCalls calls s).2 := by
  induction calls generalizing i s with
  | nil => exact ⟨rfl, rfl⟩
  | cons c calls ih =>
    obtain ⟨h1, h2⟩ := ih (i + 1) (c.prog.run s).1
    simp [runSerial, MarketDataClient.runCalls, h1, h2, Function.comp_def]

/-- **Calls on threads, each returning before the next starts.** From a new client, with each
call on a thread of its own and the threads run one after another: the schedule runs to its end,
every thread returns, the client ends as the calls made one after another leave it, with the
same events, and the client and its link agree. -/
theorem serial_schedule_keeps_session (calls : List MarketCall) (hasCallback : Bool) :
    ∃ t, (Threads.init (empty hasCallback) (calls.map MarketCall.prog)).runSchedule
        (serialSchedule (calls.map MarketCall.prog) 0 (empty hasCallback)) = some t ∧
      t.returned = true ∧ t.state = (runCalls calls (empty hasCallback)).1 ∧
      t.trace.map Prod.snd = (runCalls calls (empty hasCallback)).2 ∧
      InSession t.state (linkView (t.trace.map Prod.snd)) := by
  obtain ⟨h1, h2⟩ := runSerial_calls calls 0 (empty hasCallback)
  have hps : ∀ p ∈ calls.map MarketCall.prog, p.Disciplined := fun p hp => by
    obtain ⟨c, -, rfl⟩ := List.mem_map.mp hp
    exact c.disciplined
  refine ⟨_, Threads.runSchedule_serial_init _ hps, Threads.returned_replicate_done .., h1, h2, ?_⟩
  rw [h1, h2]
  exact (InSession.initial hasCallback).runCalls calls

/-- `start()` and `subscribe("BTC-PERPETUAL")` overlapping on a new client: `start` sets
`running_` and connects; `subscribe` adds the instrument, sees `running_` and subscribes on the
link; `start` copies `subscriptions_` only then, and subscribes the instrument again. -/
theorem start_subscribe_race :
    ((Threads.init (empty false) [start, subscribe "BTC-PERPETUAL" none 0]).runSchedule
        [0, 0, 0, 1, 1, 1, 1, 1, 1, 0, 0, 0, 0]).map (fun t =>
      (t.returned, t.state.running, t.state.subscriptions,
        (linkView (t.trace.map Prod.snd)).active)) =
      some (true, true, ["BTC-PERPETUAL"], ["BTC-PERPETUAL", "BTC-PERPETUAL"]) := by
  decide

/-! ## Late notifications -/

/-- `processMessage` neither reads nor writes `running_` or `subscriptions_`: from two states
that differ only there, it makes the same change and the same events. -/
theorem processMessage_ignores_session (message : Option Json) (now : Int) (s : MarketDataClient)
    (running : Bool) (subscriptions : List String) :
    (processMessage message now).run { s with running := running, subscriptions := subscriptions } =
      ({ ((processMessage message now).run s).1 with
          running := running, subscriptions := subscriptions },
        ((processMessage message now).run s).2) := by
  rw [run_processMessage, run_processMessage]
  rcases message.map (readNotification · now) with _ | _ | _ | book <;> simp

/-- A book notification delivered after `unsubscribe` on a running client is stored and handed to
the callback: `getOrderbook` then answers with its book, not with the empty one. -/
theorem late_notification_stored :
    getOrderbook (runCalls [.start, .subscribe "BTC-PERPETUAL" none 1, .unsubscribe "BTC-PERPETUAL",
        .processMessage (some (notification "book.BTC-PERPETUAL.none.10.100ms"
          (.object [("bids", .array [.array [.number 50000, .number 1]])]))) 2] (empty true)).1
      "BTC-PERPETUAL" = ⟨"BTC-PERPETUAL", [⟨50000, 1⟩], [], 2⟩ ∧
    (runCalls [.start, .subscribe "BTC-PERPETUAL" none 1, .unsubscribe "BTC-PERPETUAL",
        .processMessage (some (notification "book.BTC-PERPETUAL.none.10.100ms"
          (.object [("bids", .array [.array [.number 50000, .number 1]])]))) 2] (empty true)).2.getLast? =
      some (.emit (.callback ⟨"BTC-PERPETUAL", [⟨50000, 1⟩], [], 2⟩)) :=
  ⟨by decide, by decide⟩

end DeribitTrader.MarketDataClient
