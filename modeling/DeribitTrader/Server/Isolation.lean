import DeribitTrader.Server.Reach

/-!
# Each connection's subscriptions are its own

The broker keeps every connection's instruments in `client_subscriptions_`, and two handlers
change it: a frame's command (`handleMessage`, through `addSubscription` or
`removeSubscription`) and the close (`onClose`, through `removeAllSubscriptions`). Each of them
touches only the entry of the connection it runs for.

The abstract model of a connection's subscriptions is `ownSubscriptions`: the fold of the
connection's own events, where a subscribe command adds its instrument, an unsubscribe command
removes it, the close clears everything, and any other event, of this connection or of another,
leaves them as they are.

**The law** (`subscriptions_follow_own_commands`): after any history of handler events from the
empty server, admissible or not, `getSubscriptions` of every connection is the abstract model of
that connection's own events. No connection's frames or close change another's subscriptions,
and a connection's subscriptions depend only on the commands it sent since it last closed.
-/

set_option autoImplicit false

namespace DeribitTrader.WebSocketServer

/-- What a command does to the subscriptions of the connection that sent it. -/
def Command.applyTo : Command → Finset String → Finset String
  | .subscribe i, xs => insert i xs
  | .unsubscribe i, xs => xs.erase i
  | .incomplete, xs => xs
  | .unknown, xs => xs

/-- A connection's subscriptions after one event, as its own events say. -/
def ownStep (c : String) (xs : Finset String) : ServerEvent → Finset String
  | .onAccept _ => xs
  | .handleMessage c' m => if c' = c then (parseCommand m).applyTo xs else xs
  | .onClose c' => if c' = c then ∅ else xs

/-- The subscriptions a connection's own events give it, from none. -/
def ownSubscriptions (c : String) (evs : List ServerEvent) : Finset String :=
  evs.foldl (ownStep c) ∅

/-- The server after a frame: the block of the frame's command, if it has one. -/
theorem run_handleMessage_state (c m : String) (s : WebSocketServer) :
    ((handleMessage c m).run s).1 = match parseCommand m with
      | .subscribe i => subscribeBlock c i s
      | .unsubscribe i => unsubscribeBlock c i s
      | _ => s := by
  unfold handleMessage
  cases parseCommand m <;> rfl

/-- One event changes a connection's subscriptions as the abstract model says. -/
theorem getSubscriptions_event (e : ServerEvent) (s : WebSocketServer) (c : String) :
    getSubscriptions (e.prog.run s).1 c = ownStep c (getSubscriptions s c) e := by
  cases e with
  | onAccept c' => rfl
  | handleMessage c' m =>
    rw [ServerEvent.prog, run_handleMessage_state, ownStep]
    by_cases hc : c' = c
    · subst hc
      cases parseCommand m <;>
        simp [Command.applyTo, getSubscriptions, subscribeBlock, unsubscribeBlock]
    · cases parseCommand m <;>
        simp [Command.applyTo, getSubscriptions, subscribeBlock, unsubscribeBlock, hc, Ne.symm hc]
  | onClose c' =>
    by_cases hc : c' = c
    · simp [ServerEvent.prog, ownStep, getSubscriptions, removeAllBlock, hc]
    · simp [ServerEvent.prog, ownStep, getSubscriptions, removeAllBlock, hc, Ne.symm hc]

/-- A history changes a connection's subscriptions as the abstract model says, from any
state. -/
theorem getSubscriptions_runEvents (evs : List ServerEvent) (s : WebSocketServer) (c : String) :
    getSubscriptions (runEvents evs s) c = evs.foldl (ownStep c) (getSubscriptions s c) := by
  induction evs generalizing s with
  | nil => rfl
  | cons e evs ih =>
    show getSubscriptions (runEvents evs (e.prog.run s).1) c =
      evs.foldl (ownStep c) (ownStep c (getSubscriptions s c) e)
    rw [ih, getSubscriptions_event]

/-- **Each connection's subscriptions are its own.** After any history of handler events from
the empty server, a connection is subscribed to exactly the instruments its own commands leave
it: those it subscribed to and did not unsubscribe from since its last close. -/
theorem subscriptions_follow_own_commands (evs : List ServerEvent) (c : String) :
    getSubscriptions (runEvents evs empty) c = ownSubscriptions c evs :=
  getSubscriptions_runEvents evs empty c

end DeribitTrader.WebSocketServer
