import DeribitTrader.Interleave
import DeribitTrader.Server.Reach

/-!
# A broadcast while connections come, go and change their subscriptions

`broadcastToSubscribers` takes six steps before it sends: the `subscriptions_mutex_` block that
copies the instrument's subscriber ids (its step 1 reads the state) and the `clients_mutex_`
block that resolves them (its step 4). Other threads act around it (`Churn`): the locked block of
`addSubscription`, `removeSubscription` or `removeAllSubscriptions`, and the `clients_` update of
`onAccept` or `onClose`, each one atomic step. The broadcast's run is `Prog.interleave` with any
such steps before each of its own.

**The law** (`broadcast_during_churn`): from a state whose indexes mirror each other, with any
churn, the broadcast sends its message once to each connection that was subscribed when it copied
the ids (the state after `envUpTo env 2`) and was a client when it resolved them (after
`envUpTo env 5`), and to no other connection. So it never sends twice to one connection, a
connection subscribed and connected throughout receives the message, and one that unsubscribes
mid-broadcast receives at most that one message.

The ids are copied from `instrument_subscribers_`; that the copy names the connections whose
`getSubscriptions` holds the instrument is the mirror of `Server.Mirror`, which every churn step
keeps (`Mirrors.applyAll`).
-/

set_option autoImplicit false

namespace DeribitTrader.WebSocketServer

/-- An atomic step of another thread on the broker (lines 411-419, 428-445, 455-477, 493-494
and 516-517). -/
inductive Churn where
  | subscribe (client instrument : String)
  | unsubscribe (client instrument : String)
  | removeAll (client : String)
  | accept (client : String)
  | close (client : String)

/-- What a churn step does to the broker. -/
def Churn.apply : Churn → WebSocketServer → WebSocketServer
  | .subscribe c i => subscribeBlock c i
  | .unsubscribe c i => unsubscribeBlock c i
  | .removeAll c => removeAllBlock c
  | .accept c => fun s => { s with clients := insert c s.clients }
  | .close c => fun s => { s with clients := s.clients.erase c }

section Mirror

variable {r : Finset (String × String)} {s : WebSocketServer}

/-- A churn step keeps the indexes mirrors, of some relation. -/
theorem Mirrors.churn (h : Mirrors r s) : (b : Churn) → ∃ r', Mirrors r' (b.apply s)
  | .subscribe c i => ⟨_, h.subscribe c i⟩
  | .unsubscribe c i => ⟨_, h.unsubscribe c i⟩
  | .removeAll c => ⟨_, h.removeAll c⟩
  | .accept _ => ⟨r, h.withClients _⟩
  | .close _ => ⟨r, h.withClients _⟩

/-- Any churn keeps the indexes mirrors. -/
theorem Mirrors.applyAll (h : Mirrors r s) (bs : List Churn) :
    ∃ r', Mirrors r' (applyAll Churn.apply bs s) := by
  induction bs generalizing r s with
  | nil => exact ⟨r, h⟩
  | cons b bs ih =>
    obtain ⟨r', h'⟩ := h.churn b
    exact ih h'

end Mirror

/-- The events of a broadcast among other threads: the two blocks, then a send to each id copied
at step 1 that is a client at step 4. -/
theorem interleave_broadcastToSubscribers {α : Type} (act : α → WebSocketServer → WebSocketServer)
    (env : Nat → List α) (i m : String) (s : WebSocketServer) :
    ((broadcastToSubscribers i m).interleave act env 0 s).2 =
      [.lock .subscriptions, .unlock .subscriptions, .lock .clients, .unlock .clients] ++
        ((setItems (((applyAll act (envUpTo env 2) s).instrumentSubscribers.find i).getD ∅)).filter
          (· ∈ (applyAll act (envUpTo env 5) s).clients)).map fun c => .emit (.send c m) := by
  simp [broadcastToSubscribers, Prog.block, Prog.interleave_forEach_emit]

/-- The events of `broadcastToAll` among other threads: its block, then a send to each client of
the state its step 1 reads. -/
theorem interleave_broadcastToAll {α : Type} (act : α → WebSocketServer → WebSocketServer)
    (env : Nat → List α) (m : String) (s : WebSocketServer) :
    ((broadcastToAll m).interleave act env 0 s).2 =
      [.lock .clients, .unlock .clients] ++
        (setItems (applyAll act (envUpTo env 2) s).clients).map fun c => .emit (.send c m) := by
  simp [broadcastToAll, Prog.block, Prog.interleave_forEach_emit]

/-- How often a broadcast among churn sends to a connection: once if the connection is
subscribed when the ids are copied and a client when they are resolved, else never. -/
theorem count_send_during_churn (i m : String) {r : Finset (String × String)}
    {s : WebSocketServer} (hs : Mirrors r s) (env : Nat → List Churn) (c : String) :
    ((broadcastToSubscribers i m).interleave Churn.apply env 0 s).2.count (.emit (.send c m)) =
      if i ∈ getSubscriptions (applyAll Churn.apply (envUpTo env 2) s) c ∧
          c ∈ (applyAll Churn.apply (envUpTo env 5) s).clients then 1 else 0 := by
  obtain ⟨r', hr'⟩ := hs.applyAll (envUpTo env 2)
  rw [interleave_broadcastToSubscribers, List.count_append, count_sends]
  simp only [hr'.mem_subscribers_iff, decide_eq_true_eq]
  split <;> rfl

/-- **The law.** A broadcast among any churn reaches, once, exactly the connections subscribed
when it copies the ids and connected when it resolves them; in particular every connection
subscribed and connected throughout. -/
theorem broadcast_during_churn (i m : String) {r : Finset (String × String)} {s : WebSocketServer}
    (hs : Mirrors r s) (env : Nat → List Churn) :
    (∀ c, ((broadcastToSubscribers i m).interleave Churn.apply env 0 s).2.count
        (.emit (.send c m)) =
      if i ∈ getSubscriptions (applyAll Churn.apply (envUpTo env 2) s) c ∧
          c ∈ (applyAll Churn.apply (envUpTo env 5) s).clients then 1 else 0) ∧
    ∀ c, (∀ n ≤ 5, c ∈ (applyAll Churn.apply (envUpTo env n) s).clients ∧
        i ∈ getSubscriptions (applyAll Churn.apply (envUpTo env n) s) c) →
      ((broadcastToSubscribers i m).interleave Churn.apply env 0 s).2.count
        (.emit (.send c m)) = 1 :=
  ⟨count_send_during_churn i m hs env, fun c hc => by
    rw [count_send_during_churn i m hs env, if_pos ⟨(hc 2 (by omega)).2, (hc 5 le_rfl).1⟩]⟩

/-- The law's premise holds at the broker's start, here with a connection accepted and
subscribed just before the broadcast copies the ids. -/
theorem broadcast_during_churn_fresh :
    Mirrors ∅ empty ∧
    ((broadcastToSubscribers "BTC-PERPETUAL" "book").interleave Churn.apply
        (fun n => if n = 1 then [.accept "a", .subscribe "a" "BTC-PERPETUAL"] else []) 0 empty).2.count
      (.emit (.send "a" "book")) =
      if "BTC-PERPETUAL" ∈ getSubscriptions (applyAll Churn.apply (envUpTo
          (fun n => if n = 1 then [.accept "a", .subscribe "a" "BTC-PERPETUAL"] else []) 2) empty) "a" ∧
        "a" ∈ (applyAll Churn.apply (envUpTo
          (fun n => if n = 1 then [.accept "a", .subscribe "a" "BTC-PERPETUAL"] else []) 5)
            empty).clients then 1 else 0 :=
  ⟨Mirrors.empty, (broadcast_during_churn "BTC-PERPETUAL" "book" Mirrors.empty _).1 "a"⟩

end DeribitTrader.WebSocketServer
