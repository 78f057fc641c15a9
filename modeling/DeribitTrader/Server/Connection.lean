import DeribitTrader.Server.Reach

/-!
# A connection's handlers and what the server keeps of it

`WebSocketConnectionImpl` runs on completions: the handshake (`on_accept`), each read
(`on_read`), and a close it was asked for (`on_close`, then `on_close_complete`). A `Connection`
records which of them it waits for. The server learns of a connection from the listener
(`WebSocketListener::on_accept` starts the handshake and calls `onAccept`), of its frames from
`on_read`, and of its end only from the close handler, which runs `onClose`. `stop()` asks every
connection to close and stops the io_context, after which no handler runs (`halted`).

The close handler runs on two paths only: a read that ends with `websocket::error::closed`, and
a close that completes without error (`forget_on_close`: on both, the server keeps no reference
to the connection). A failed handshake, a read that ends with any other error, a close that
fails, and `stop` all leave the connection with nothing to wait for and still in `clients_`
(`handshake_failure_keeps_client`, `read_error_keeps_subscription`).
-/

set_option autoImplicit false

namespace DeribitTrader.WebSocketServer

/-- The completions a connection waits for. -/
structure Connection where
  handshaking : Bool
  reading : Bool
  closing : Bool
  deriving DecidableEq

/-- How a read completes. -/
inductive ReadResult where
  | frame (message : String)
  /-- `websocket::error::closed`: the peer closed the session. -/
  | closed
  /-- Any other error code: idle timeout, eof, reset. -/
  | failed

/-- A completion the io_context delivers. -/
inductive Completion where
  /-- `WebSocketListener::on_accept` with no error: a new connection with this id. -/
  | listen (connection : String)
  /-- `WebSocketConnectionImpl::on_accept(ec)`; `ok` when `ec` is not set. -/
  | handshake (connection : String) (ok : Bool)
  | read (connection : String) (result : ReadResult)
  /-- `on_close`, posted by `close()`: the close is started. -/
  | close (connection : String)
  /-- `on_close_complete(ec)`; `ok` when `ec` is not set. -/
  | closeDone (connection : String) (ok : Bool)
  /-- `WebSocketServer::stop()`. -/
  | stop

/-- The server with its connections' handler states. -/
structure Broker where
  server : WebSocketServer
  connections : StdMap Connection
  halted : Bool

namespace Broker

/-- The server running, with no connection yet. -/
def initial : Broker := ⟨{ WebSocketServer.empty with running := true }, .empty, false⟩

/-- The server after one of its methods. -/
def perform (b : Broker) (p : ServerProg) : Broker := { b with server := (p.run b.server).1 }

/-- The connection's record rewritten. -/
def setConnection (b : Broker) (c : String) (x : Connection) : Broker :=
  { b with connections := b.connections.insert c x }

/-- One completion. A completion the connection does not wait for cannot come, and none comes
after `stop`. -/
def deliver (b : Broker) : Completion → Broker
  | .listen c =>
    if b.halted then b else (b.setConnection c ⟨true, false, false⟩).perform (onAccept c)
  | .handshake c ok =>
    match b.connections.find c with
    | some x => if b.halted || !x.handshaking then b else
        b.setConnection c { x with handshaking := false, reading := ok }
    | none => b
  | .read c r =>
    match b.connections.find c with
    | some x => if b.halted || !x.reading then b else
        match r with
        | .frame m => (b.setConnection c x).perform (onMessage c m)
        | .closed => (b.setConnection c { x with reading := false }).perform (onClose c)
        | .failed => b.setConnection c { x with reading := false }
    | none => b
  | .close c =>
    match b.connections.find c with
    | some x => if b.halted then b else b.setConnection c { x with closing := true }
    | none => b
  | .closeDone c ok =>
    match b.connections.find c with
    | some x => if b.halted || !x.closing then b else
        let b' := b.setConnection c { x with closing := false }
        if ok then b'.perform (onClose c) else b'
    | none => b
  | .stop => { b.perform WebSocketServer.stop with halted := true }

/-- The broker after the completions, in order. -/
def deliverAll (cs : List Completion) (b : Broker) : Broker := cs.foldl deliver b

/-- No read completion can come to the connection any more: nothing is delivered after `stop`,
and otherwise a read comes only while one is posted or after a handshake that is. -/
def Quiet (b : Broker) (c : String) : Prop :=
  b.halted ∨ ∃ x, b.connections.find c = some x ∧ !x.handshaking ∧ !x.reading

/-- The server holds no reference to the connection. -/
def Forgotten (b : Broker) (c : String) : Prop :=
  c ∉ b.server.clients ∧ b.server.clientSubscriptions.find c = none ∧
    ∀ i, c ∉ (b.server.instrumentSubscribers.find i).getD ∅

end Broker

/-- Running the close handler forgets the connection, from any state whose indexes mirror a
relation. -/
theorem forget_on_close {r : Finset (String × String)} {s : WebSocketServer} (h : Mirrors r s)
    (c : String) :
    c ∉ ((onClose c).run s).1.clients ∧ ((onClose c).run s).1.clientSubscriptions.find c = none ∧
      ∀ i, c ∉ ((((onClose c).run s).1.instrumentSubscribers.find i).getD ∅) := by
  have hm := h.removeAll c
  refine ⟨by simp, by simp [removeAllBlock], fun i hc => ?_⟩
  rw [run_onClose] at hc
  simpa using (hm.instruments_iff c i).mp hc

/-- A connection whose handshake fails is left with nothing to wait for, and the server still
holds it as a client. -/
theorem handshake_failure_keeps_client :
    (Broker.deliverAll [.listen "a", .handshake "a" false] .initial).Quiet "a" ∧
      ¬ (Broker.deliverAll [.listen "a", .handshake "a" false] .initial).Forgotten "a" := by
  have hc : "a" ∈ (Broker.deliverAll [.listen "a", .handshake "a" false] .initial).server.clients :=
    by decide
  exact ⟨.inr ⟨⟨false, false, false⟩, by decide, rfl, rfl⟩, fun h => h.1 hc⟩

/-- A subscribed connection whose read fails with an error other than `closed` is left with
nothing to wait for, still a client and still a subscriber: broadcasts keep reaching it. -/
theorem read_error_keeps_subscription :
    let b := Broker.deliverAll [.listen "a", .handshake "a" true,
      .read "a" (.frame "\x7b\"type\":\"subscribe\",\"instrument\":\"BTC-PERPETUAL\"\x7d"),
      .read "a" .failed] .initial
    b.Quiet "a" ∧ "a" ∈ b.server.clients ∧
      "a" ∈ (b.server.instrumentSubscribers.find "BTC-PERPETUAL").getD ∅ := by
  refine ⟨.inr ⟨⟨false, false, false⟩, ?_, rfl, rfl⟩, ?_, ?_⟩ <;> decide

end DeribitTrader.WebSocketServer
