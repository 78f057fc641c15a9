import DeribitTrader.Container
import DeribitTrader.Prog
import DeribitTrader.Text

/-!
# The subscription broker (`websocket_server.cpp`)

`WebSocketServer` is the broker's state: the running flag, the connection table `clients_`
and the two subscription indexes, `client_subscriptions_` (connection to instruments) and
`instrument_subscribers_` (instrument to connections). A connection is known by its id
everywhere: `onAccept` stores each connection under its own `getId()`, so the table is its key
set, and every send and close names the connection by id.

Each public and handler method is a `ServerProg` over the two mutexes, with the same blocks
as the source. The bodies of the index blocks are functions of the state
(`subscribeBlock`, `unsubscribeBlock`, `removeAllBlock`); their per-key parts (`addMember`,
`eraseMember`, `dropMember`) are what `m[k].insert(x)`, the guarded `m[k].erase(x)`, and the
erase that drops an emptied entry do to one entry. Each method has one lemma giving its run.

The catch block of `handleMessage` is not modelled: no call in its `try` block throws for any
input (every `substr` position is at most the length).
-/

set_option autoImplicit false

namespace DeribitTrader

/-- The two mutexes of a `WebSocketServer`. -/
inductive ServerMutex where
  | clients
  | subscriptions
  deriving DecidableEq

/-- What the server does to a connection, named by its id. -/
inductive ServerEffect where
  | send (connection : String) (message : String)
  | close (connection : String)
  deriving DecidableEq

/-- The state of a `WebSocketServer`. -/
structure WebSocketServer where
  running : Bool
  clients : Finset String
  clientSubscriptions : StdMap (Finset String)
  instrumentSubscribers : StdMap (Finset String)

/-- A method of the server, as its thread runs it. -/
abbrev ServerProg := Prog WebSocketServer ServerMutex ServerEffect

namespace WebSocketServer

/-- The server as its constructor leaves it. -/
def empty : WebSocketServer := ⟨false, ∅, .empty, .empty⟩

/-! ## Index blocks -/

/-- `m[k].insert(x)`, on the entry of `k`: an absent entry is first created empty. -/
def addMember (x : String) : Option (Finset String) → Option (Finset String)
  | o => some (insert x (o.getD ∅))

/-- `if (m.find(k) != m.end()) m[k].erase(x);`, on the entry of `k`. -/
def eraseMember (x : String) : Option (Finset String) → Option (Finset String)
  | o => o.map (·.erase x)

/-- The same erase followed by `if (m[k].empty()) m.erase(k);` (lines 437-444 and 468-475). -/
def dropMember (x : String) : Option (Finset String) → Option (Finset String)
  | none => none
  | some xs => if xs.erase x = ∅ then none else some (xs.erase x)

/-- The block of `addSubscription` (lines 411-419). -/
def subscribeBlock (client instrument : String) (s : WebSocketServer) : WebSocketServer :=
  { s with
    clientSubscriptions := s.clientSubscriptions.alter client (addMember instrument)
    instrumentSubscribers := s.instrumentSubscribers.alter instrument (addMember client) }

/-- The block of `removeSubscription` (lines 428-445). -/
def unsubscribeBlock (client instrument : String) (s : WebSocketServer) : WebSocketServer :=
  { s with
    clientSubscriptions := s.clientSubscriptions.alter client (eraseMember instrument)
    instrumentSubscribers := s.instrumentSubscribers.alter instrument (dropMember client) }

/-- The block of `removeAllSubscriptions` (lines 455-477): copy the connection's instruments,
erase its entry, then drop it from each of those instruments' subscriber sets. -/
def removeAllBlock (client : String) (s : WebSocketServer) : WebSocketServer :=
  let instruments := (s.clientSubscriptions.find client).getD ∅
  { s with
    clientSubscriptions := s.clientSubscriptions.erase client
    instrumentSubscribers := (setItems instruments).foldl
      (fun m instrument => m.alter instrument (dropMember client)) s.instrumentSubscribers }

/-- `getSubscriptions(client)` (lines 480-489). -/
def getSubscriptions (s : WebSocketServer) (client : String) : Finset String :=
  (s.clientSubscriptions.find client).getD ∅

/-! ## Messages -/

/-- The welcome message of `onAccept`. -/
def welcomeText : String :=
  "\x7b\"type\":\"welcome\",\"message\":\"Welcome to Deribit Trader WebSocket Server\"\x7d"

/-- The confirmation of `addSubscription` (`status` is `subscribed`) and of
`removeSubscription` (`unsubscribed`). -/
def subscriptionText (instrument status : String) : String :=
  "\x7b\"type\":\"subscription\",\"instrument\":\"" ++ instrument ++ "\",\"status\":\"" ++
    status ++ "\"\x7d"

/-- The answer to a frame that is no command. -/
def unknownCommandText : String := "\x7b\"type\":\"error\",\"message\":\"Unknown command\"\x7d"

/-! ## Methods -/

/-- `addSubscription(client, instrument)` (lines 408-423). -/
def addSubscription (client instrument : String) : ServerProg :=
  .block .subscriptions (subscribeBlock client instrument) fun _ =>
    .emit (.send client (subscriptionText instrument "subscribed")) .done

/-- `removeSubscription(client, instrument)` (lines 425-449). -/
def removeSubscription (client instrument : String) : ServerProg :=
  .block .subscriptions (unsubscribeBlock client instrument) fun _ =>
    .emit (.send client (subscriptionText instrument "unsubscribed")) .done

/-- `removeAllSubscriptions(client)` (lines 451-478). -/
def removeAllSubscriptions (client : String) : ServerProg :=
  .block .subscriptions (removeAllBlock client) fun _ => .done

/-- `broadcastToSubscribers(instrument, message)` (lines 367-392): copy the subscriber ids
under one lock, resolve them to live connections under the other, send with neither held. -/
def broadcastToSubscribers (instrument message : String) : ServerProg :=
  .block .subscriptions id fun s =>
    let clientIds := setItems ((s.instrumentSubscribers.find instrument).getD ∅)
    .block .clients id fun s' =>
      .forEach (clientIds.filter (· ∈ s'.clients)) fun c => .emit (.send c message) .done

/-- `broadcastOrderbook(instrument, json)` (lines 363-365). -/
def broadcastOrderbook (instrument orderbookJson : String) : ServerProg :=
  broadcastToSubscribers instrument orderbookJson

/-- `broadcastToAll(message)` (lines 394-406). -/
def broadcastToAll (message : String) : ServerProg :=
  .block .clients id fun s => .forEach (setItems s.clients) fun c => .emit (.send c message) .done

/-- `onAccept(connection)` (lines 491-498): the welcome is sent inside the `clients_mutex_`
scope. -/
def onAccept (connection : String) : ServerProg :=
  .lock .clients <| .write (fun s => { s with clients := insert connection s.clients }) <|
    .emit (.send connection welcomeText) <| .unlock .clients .done

/-- `onClose(connection)` (lines 509-518). -/
def onClose (connection : String) : ServerProg :=
  (removeAllSubscriptions connection).seq <|
    .block .clients (fun s => { s with clients := s.clients.erase connection }) fun _ => .done

/-- `stop()` (lines 330-357), up to the io_context: close every tracked connection. -/
def stop : ServerProg :=
  .read fun s => if !s.running then .done else
    .write (fun s => { s with running := false }) <|
      .block .clients id fun s => .forEach (setItems s.clients) fun c => .emit (.close c) .done

/-! ## The command parser of `handleMessage` -/

/-- What `handleMessage` makes of a frame. -/
inductive Command where
  | subscribe (instrument : String)
  | unsubscribe (instrument : String)
  /-- A command type was found but no instrument could be cut out: nothing is done. -/
  | incomplete
  | unknown
  deriving DecidableEq

/-- The instrument cut out of a frame (lines 532-539): the text after `"instrument":`, less
its first character (its first byte in C++: the two agree when that character is ASCII), up to
the next quote. -/
def instrumentOf (message : String) : Option String :=
  match find message "\"instrument\":" 0 with
  | none => none
  | some pos =>
    match find message "\"" (pos + 13 + 1) with
    | none => none
    | some stop => some (substr message (pos + 13 + 1) (stop - (pos + 13) - 1))

/-- The command of a frame (lines 530-555). -/
def parseCommand (message : String) : Command :=
  if (find message "\"type\":\"subscribe\"" 0).isSome then
    (instrumentOf message).elim .incomplete .subscribe
  else if (find message "\"type\":\"unsubscribe\"" 0).isSome then
    (instrumentOf message).elim .incomplete .unsubscribe
  else .unknown

/-- `handleMessage(connection, message)` (lines 524-560). -/
def handleMessage (connection message : String) : ServerProg :=
  match parseCommand message with
  | .subscribe instrument => addSubscription connection instrument
  | .unsubscribe instrument => removeSubscription connection instrument
  | .incomplete => .done
  | .unknown => .emit (.send connection unknownCommandText) .done

/-- `onMessage(connection, message)` (lines 500-507). -/
def onMessage (connection message : String) : ServerProg := handleMessage connection message

/-! ## Runs of the methods -/

variable (s : WebSocketServer) (c i m : String)

@[simp] theorem run_addSubscription : (addSubscription c i).run s =
    (subscribeBlock c i s, [.lock .subscriptions, .unlock .subscriptions,
      .emit (.send c (subscriptionText i "subscribed"))]) := rfl

@[simp] theorem run_removeSubscription : (removeSubscription c i).run s =
    (unsubscribeBlock c i s, [.lock .subscriptions, .unlock .subscriptions,
      .emit (.send c (subscriptionText i "unsubscribed"))]) := rfl

@[simp] theorem run_removeAllSubscriptions : (removeAllSubscriptions c).run s =
    (removeAllBlock c s, [.lock .subscriptions, .unlock .subscriptions]) := rfl

@[simp] theorem run_onAccept : (onAccept c).run s =
    ({ s with clients := insert c s.clients },
      [.lock .clients, .emit (.send c welcomeText), .unlock .clients]) := rfl

@[simp] theorem run_onClose : (onClose c).run s =
    ({ removeAllBlock c s with clients := s.clients.erase c },
      [.lock .subscriptions, .unlock .subscriptions, .lock .clients, .unlock .clients]) := by
  simp [onClose, removeAllBlock]

@[simp] theorem run_broadcastToSubscribers : (broadcastToSubscribers i m).run s =
    (s, [.lock .subscriptions, .unlock .subscriptions, .lock .clients, .unlock .clients] ++
      ((setItems ((s.instrumentSubscribers.find i).getD ∅)).filter (· ∈ s.clients)).map
        fun c => .emit (.send c m)) := by
  simp [broadcastToSubscribers]

@[simp] theorem run_broadcastToAll : (broadcastToAll m).run s =
    (s, [.lock .clients, .unlock .clients] ++ (setItems s.clients).map fun c => .emit (.send c m)) := by
  simp [broadcastToAll]

end WebSocketServer

end DeribitTrader
