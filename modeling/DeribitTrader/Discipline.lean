import DeribitTrader.Server.State
import DeribitTrader.Market.State

/-!
# The lock discipline of every operation

The spec's central rule: no lock is held across a send, a call of the exchange link or the
update callback, and no two of the locks are held at once (`disciplined`). Every operation of
the broker and of the cache but one is a `Prog.Disciplined` program, so it keeps the rule from
every state and for every input (`lock_discipline_except_onAccept`).

`onAccept` sends its welcome message inside the `clients_mutex_` scope (lines 491-498): from
every state, its run takes the mutex, sends, and only then releases it
(`onAccept_sends_under_lock`).
-/

set_option autoImplicit false

namespace DeribitTrader

open Prog.Disciplined

namespace WebSocketServer

theorem addSubscription_disciplined (c i : String) : (addSubscription c i).Disciplined :=
  .block _ _ fun _ => .emit _ .done

theorem removeSubscription_disciplined (c i : String) : (removeSubscription c i).Disciplined :=
  .block _ _ fun _ => .emit _ .done

theorem removeAllSubscriptions_disciplined (c : String) :
    (removeAllSubscriptions c).Disciplined :=
  .block _ _ fun _ => .done

theorem broadcastToSubscribers_disciplined (i m : String) :
    (broadcastToSubscribers i m).Disciplined :=
  .block _ _ fun _ => .block _ _ fun _ => forEach _ fun _ => .emit _ .done

theorem broadcastToAll_disciplined (m : String) : (broadcastToAll m).Disciplined :=
  .block _ _ fun _ => forEach _ fun _ => .emit _ .done

theorem onClose_disciplined (c : String) : (onClose c).Disciplined :=
  (removeAllSubscriptions_disciplined c).seq (.block _ _ fun _ => .done)

theorem handleMessage_disciplined (c m : String) : (handleMessage c m).Disciplined := by
  unfold handleMessage
  split
  · exact addSubscription_disciplined _ _
  · exact removeSubscription_disciplined _ _
  · exact .done
  · exact .emit _ .done

theorem stop_disciplined : stop.Disciplined :=
  read fun _ => ite .done (write _ (.block _ _ fun _ => forEach _ fun _ => .emit _ .done))

/-- `onAccept` makes its send between taking and releasing `clients_mutex_`, from every
state. -/
theorem onAccept_sends_under_lock (c : String) (s : WebSocketServer) :
    ((onAccept c).run s).2 = [.lock .clients, .emit (.send c welcomeText), .unlock .clients] ∧
      disciplined none ((onAccept c).run s).2 = false :=
  ⟨rfl, rfl⟩

end WebSocketServer

namespace MarketDataClient

theorem storeBook_disciplined (book : Orderbook) : (storeBook book).Disciplined :=
  .block _ _ fun _ => read fun _ => ite (.emit _ .done) .done

theorem processMessage_disciplined (message : Option Json) (now : Int) :
    (processMessage message now).Disciplined := by
  unfold processMessage
  split
  · exact storeBook_disciplined _
  · exact .done

theorem fetchInitialOrderbook_disciplined (instrument : String) (response : Option Json)
    (now : Int) : (fetchInitialOrderbook instrument response now).Disciplined := by
  refine .emit _ ?_
  split
  · exact storeBook_disciplined _
  · exact .done

theorem subscribe_disciplined (instrument : String) (response : Option Json) (now : Int) :
    (subscribe instrument response now).Disciplined :=
  .block _ _ fun _ => ite .done (read fun _ => ite .done
    ((fetchInitialOrderbook_disciplined instrument response now).seq (.emit _ .done)))

theorem unsubscribe_disciplined (instrument : String) : (unsubscribe instrument).Disciplined :=
  .block _ _ fun _ => ite .done (read fun _ => ite .done (.emit _ (.block _ _ fun _ => .done)))

theorem start_disciplined : start.Disciplined :=
  read fun _ => ite .done (write _ (.emit _ (.block _ _ fun _ => forEach _ fun _ => .emit _ .done)))

theorem stop_disciplined : stop.Disciplined :=
  read fun _ => ite .done (write _ (.block _ _ fun _ =>
    (forEach _ fun _ => .emit _ .done).seq (.emit _ .done)))

end MarketDataClient

/-- Every operation of the broker but `onAccept`, and every operation of the cache, keeps the
lock discipline from every state and for every input. -/
theorem lock_discipline_except_onAccept :
    (∀ c s, disciplined none ((WebSocketServer.onClose c).run s).2) ∧
    (∀ c m s, disciplined none ((WebSocketServer.handleMessage c m).run s).2) ∧
    (∀ c i s, disciplined none ((WebSocketServer.addSubscription c i).run s).2) ∧
    (∀ c i s, disciplined none ((WebSocketServer.removeSubscription c i).run s).2) ∧
    (∀ c s, disciplined none ((WebSocketServer.removeAllSubscriptions c).run s).2) ∧
    (∀ i m s, disciplined none ((WebSocketServer.broadcastToSubscribers i m).run s).2) ∧
    (∀ m s, disciplined none ((WebSocketServer.broadcastToAll m).run s).2) ∧
    (∀ s, disciplined none (WebSocketServer.stop.run s).2) ∧
    (∀ i r now s, disciplined none ((MarketDataClient.subscribe i r now).run s).2) ∧
    (∀ i s, disciplined none ((MarketDataClient.unsubscribe i).run s).2) ∧
    (∀ m now s, disciplined none ((MarketDataClient.processMessage m now).run s).2) ∧
    (∀ i r now s, disciplined none ((MarketDataClient.fetchInitialOrderbook i r now).run s).2) ∧
    (∀ s, disciplined none (MarketDataClient.start.run s).2) ∧
    (∀ s, disciplined none (MarketDataClient.stop.run s).2) :=
  open WebSocketServer MarketDataClient in
  ⟨fun c => (onClose_disciplined c).run, fun c m => (handleMessage_disciplined c m).run,
    fun c i => (addSubscription_disciplined c i).run,
    fun c i => (removeSubscription_disciplined c i).run,
    fun c => (removeAllSubscriptions_disciplined c).run,
    fun i m => (broadcastToSubscribers_disciplined i m).run,
    fun m => (broadcastToAll_disciplined m).run, WebSocketServer.stop_disciplined.run,
    fun i r now => (subscribe_disciplined i r now).run,
    fun i => (unsubscribe_disciplined i).run,
    fun m now => (processMessage_disciplined m now).run,
    fun i r now => (fetchInitialOrderbook_disciplined i r now).run,
    start_disciplined.run, MarketDataClient.stop_disciplined.run⟩

end DeribitTrader
