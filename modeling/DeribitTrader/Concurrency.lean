import DeribitTrader.Market.Session
import DeribitTrader.Server.Broadcast

/-!
# Every method on a thread of its own, under every schedule

The broker's handlers and methods (`ServerCall`) and the cache's methods (`MarketCall`) run on
threads of their own. `Threads` runs them on one object under the mutexes' semantics, in
whatever interleaving a schedule picks, from any state and with any inputs.

**The law** (`threads_keep_lock_discipline`): under every schedule, each thread running a method
of the cache, or a method of the broker other than `onAccept`, has so far taken a mutex only
while holding none, released only the one it holds, and made no effect while holding one. It
rests on two facts: each such method is a `Prog.Disciplined` program (`Discipline`), which keeps
the rule in the view `Prog.interleave` whatever the other threads do; and each thread's events
are a run in that view (`Threads.runSchedule_sees`).

A broadcast thread sends its message at most once to each connection, under every schedule and
whatever the other threads run (`broadcast_threads_send_once`): in the view, its sends go to the
members of one `std::set` copy, each once (`interleave_broadcastToSubscribers`,
`interleave_broadcastToAll`), and a thread's events so far are a prefix of such a run.

**What it does not establish.** A thread running `onAccept` sends while it holds
`clients_mutex_` (`onAccept_sends_under_lock`), so the law leaves it out.
-/

set_option autoImplicit false

namespace DeribitTrader.WebSocketServer

/-- A call of one of the broker's handlers or methods, with its arguments. -/
inductive ServerCall where
  | onAccept (connection : String)
  | onMessage (connection message : String)
  | onClose (connection : String)
  | addSubscription (client instrument : String)
  | removeSubscription (client instrument : String)
  | removeAllSubscriptions (client : String)
  | broadcastToSubscribers (instrument message : String)
  | broadcastOrderbook (instrument orderbookJson : String)
  | broadcastToAll (message : String)
  | stop

/-- The method a call runs. -/
def ServerCall.prog : ServerCall → ServerProg
  | .onAccept connection => WebSocketServer.onAccept connection
  | .onMessage connection message => WebSocketServer.onMessage connection message
  | .onClose connection => WebSocketServer.onClose connection
  | .addSubscription client instrument => WebSocketServer.addSubscription client instrument
  | .removeSubscription client instrument => WebSocketServer.removeSubscription client instrument
  | .removeAllSubscriptions client => WebSocketServer.removeAllSubscriptions client
  | .broadcastToSubscribers instrument message =>
    WebSocketServer.broadcastToSubscribers instrument message
  | .broadcastOrderbook instrument orderbookJson =>
    WebSocketServer.broadcastOrderbook instrument orderbookJson
  | .broadcastToAll message => WebSocketServer.broadcastToAll message
  | .stop => WebSocketServer.stop

/-- Whether the call is `onAccept`. -/
def ServerCall.isAccept : ServerCall → Bool
  | .onAccept _ => true
  | _ => false

/-- Every call's method but `onAccept`'s keeps the lock discipline. -/
theorem ServerCall.disciplined : (c : ServerCall) → c.isAccept = false → c.prog.Disciplined
  | .onAccept _, h => nomatch h
  | .onMessage connection message, _ => handleMessage_disciplined connection message
  | .onClose connection, _ => onClose_disciplined connection
  | .addSubscription client instrument, _ => addSubscription_disciplined client instrument
  | .removeSubscription client instrument, _ => removeSubscription_disciplined client instrument
  | .removeAllSubscriptions client, _ => removeAllSubscriptions_disciplined client
  | .broadcastToSubscribers instrument message, _ =>
    broadcastToSubscribers_disciplined instrument message
  | .broadcastOrderbook instrument orderbookJson, _ =>
    broadcastToSubscribers_disciplined instrument orderbookJson
  | .broadcastToAll message, _ => broadcastToAll_disciplined message
  | .stop, _ => stop_disciplined

/-- Sends to the members of a list without repeats reach each member at most once. -/
theorem count_sends_le_one {l : List String} (hl : l.Nodup) (c m : String) :
    (l.map fun c' => (Event.emit (ServerEffect.send c' m) : Event ServerMutex ServerEffect)).count
      (.emit (.send c m)) ≤ 1 := by
  have hinj : Function.Injective fun c' => (Event.emit (ServerEffect.send c' m) :
      Event ServerMutex ServerEffect) := fun a b h => by simpa using h
  rw [List.count_map_of_injective _ _ hinj]
  exact List.nodup_iff_count_le_one.mp hl c

/-- In the view, whatever the other threads do, a broadcast sends its message at most once to
each connection. -/
theorem count_send_broadcast_le_one {α : Type} (act : α → WebSocketServer → WebSocketServer)
    (env : Nat → List α) (s : WebSocketServer) (c instrument m : String) :
    ((broadcastToSubscribers instrument m).interleave act env 0 s).2.count (.emit (.send c m)) ≤ 1 ∧
      ((broadcastToAll m).interleave act env 0 s).2.count (.emit (.send c m)) ≤ 1 := by
  rw [interleave_broadcastToSubscribers, interleave_broadcastToAll, List.count_append,
    List.count_append]
  exact ⟨by simpa using count_sends_le_one ((setItems_nodup _).filter _) c m,
    by simpa using count_sends_le_one (setItems_nodup _) c m⟩

end DeribitTrader.WebSocketServer

namespace DeribitTrader

open WebSocketServer MarketDataClient

/-- **The law.** Under every schedule, from every state and for every input, each thread running
a method of the cache, or a method of the broker other than `onAccept`, keeps the lock discipline
in the events it has made. -/
theorem threads_keep_lock_discipline :
    (∀ (calls : List MarketCall) (s : MarketDataClient) (is : List Nat)
        (t : Threads MarketDataClient MarketMutex MarketEffect),
      (Threads.init s (calls.map MarketCall.prog)).runSchedule is = some t →
        ∀ i < calls.length, disciplined none (t.eventsOf i) = true) ∧
    (∀ (calls : List ServerCall) (s : WebSocketServer) (is : List Nat)
        (t : Threads WebSocketServer ServerMutex ServerEffect),
      (∀ c ∈ calls, c.isAccept = false) →
      (Threads.init s (calls.map ServerCall.prog)).runSchedule is = some t →
        ∀ i < calls.length, disciplined none (t.eventsOf i) = true) := by
  refine ⟨fun calls s is t ht i hi => ?_, fun calls s is t hacc ht i hi => ?_⟩
  · refine Threads.runSchedule_disciplined (fun p hp => ?_) ht (by simpa using hi)
    obtain ⟨c, -, rfl⟩ := List.mem_map.mp hp
    exact c.disciplined
  · refine Threads.runSchedule_disciplined (fun p hp => ?_) ht (by simpa using hi)
    obtain ⟨c, hc, rfl⟩ := List.mem_map.mp hp
    exact c.disciplined (hacc c hc)

/-- **A broadcast thread sends once.** Under every schedule, from every state, whatever the other
threads run, a thread running `broadcastToSubscribers`, `broadcastOrderbook` or `broadcastToAll`
has sent its message at most once to each connection. -/
theorem broadcast_threads_send_once :
    ∀ (calls : List ServerCall) (s : WebSocketServer) (is : List Nat)
      (t : Threads WebSocketServer ServerMutex ServerEffect),
      (Threads.init s (calls.map ServerCall.prog)).runSchedule is = some t →
      ∀ (i : Nat) (instrument m : String),
        (calls[i]? = some (.broadcastToSubscribers instrument m) ∨
          calls[i]? = some (.broadcastOrderbook instrument m) ∨
          calls[i]? = some (.broadcastToAll m)) →
        ∀ c, (t.eventsOf i).count (.emit (.send c m)) ≤ 1 := by
  intro calls s is t ht i instrument m hcall c
  have hprefix : ∀ p : ServerProg, (calls.map ServerCall.prog)[i]? = some p →
      (∀ env : Nat → List (WebSocketServer → WebSocketServer),
        (p.interleave id env 0 s).2.count (.emit (.send c m)) ≤ 1) →
      (t.eventsOf i).count (.emit (.send c m)) ≤ 1 := fun p hp hle => by
    obtain ⟨q, n, env, s', -, hrun⟩ := Threads.runSchedule_sees ht hp
    calc (t.eventsOf i).count (.emit (.send c m))
        ≤ (t.eventsOf i ++ (q.interleave id env n s').2).count (.emit (.send c m)) := by
          rw [List.count_append]; omega
      _ = (p.interleave id env 0 s).2.count (.emit (.send c m)) := by rw [hrun]
      _ ≤ 1 := hle env
  rcases hcall with h | h | h
  · exact hprefix _ (by simp [h, ServerCall.prog]) fun env =>
      (count_send_broadcast_le_one id env s c instrument m).1
  · exact hprefix _ (by simp [h, ServerCall.prog, broadcastOrderbook]) fun env =>
      (count_send_broadcast_le_one id env s c instrument m).1
  · exact hprefix _ (by simp [h, ServerCall.prog]) fun env =>
      (count_send_broadcast_le_one id env s c instrument m).2

/-- The law's premises hold: a thread broadcasting to all, alone on a server with one client, runs
its four steps and sends once. -/
theorem broadcast_thread_alone_sends_once :
    (Threads.init { WebSocketServer.empty with clients := {"a"} }
        ([ServerCall.broadcastToAll "m"].map ServerCall.prog)).runSchedule [0, 0, 0, 0] =
      some ⟨{ WebSocketServer.empty with clients := {"a"} }, [.done],
        Function.update (Function.update (fun _ => none) .clients (some 0)) .clients none,
        [(0, .lock .clients), (0, .unlock .clients), (0, .emit (.send "a" "m"))]⟩ ∧
    ([ServerCall.broadcastToAll "m"][0]? = some (.broadcastToSubscribers "BTC-PERPETUAL" "m") ∨
      [ServerCall.broadcastToAll "m"][0]? = some (.broadcastOrderbook "BTC-PERPETUAL" "m") ∨
      [ServerCall.broadcastToAll "m"][0]? = some (.broadcastToAll "m")) ∧
    (Threads.eventsOf (⟨{ WebSocketServer.empty with clients := {"a"} }, [.done],
        Function.update (Function.update (fun _ => none) .clients (some 0)) .clients none,
        [(0, .lock .clients), (0, .unlock .clients), (0, .emit (.send "a" "m"))]⟩ :
          Threads WebSocketServer ServerMutex ServerEffect) 0).count (.emit (.send "a" "m")) ≤ 1 := by
  refine (fun hrun => ⟨hrun, .inr (.inr rfl), broadcast_threads_send_once _ _ _ _ hrun 0
    "BTC-PERPETUAL" "m" (.inr (.inr rfl)) "a"⟩) ?_
  simp only [Threads.runSchedule, Threads.step, Threads.init, List.map_cons, List.map_nil,
    ServerCall.prog, broadcastToAll, Prog.block, Prog.forEach, Prog.seq, setItems,
    Finset.sort_singleton, List.foldr_cons, List.foldr_nil, List.length_singleton, Nat.lt_add_one,
    List.getElem?_eq_getElem, List.getElem_cons_zero, ↓reduceIte, List.set_cons_zero,
    List.nil_append, List.singleton_append, List.cons_append, Option.some_bind, id_eq,
    Function.update_idem, Function.update_eq_self]

end DeribitTrader
