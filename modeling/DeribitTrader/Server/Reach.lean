import DeribitTrader.Server.Mirror
import Mathlib.Data.List.Count

/-!
# Every subscriber is a live connection

The listener drives the server with three handler events per connection: `onAccept` when it
accepts it, `onMessage` (that is, `handleMessage`) for each frame read, and `onClose` when it
goes. A history is `Admissible` when each connection's frames come after its `onAccept` and
before its `onClose`.

**The law** (`subscribers_are_clients`): after any admissible history from the empty server,
every id in a subscriber set is a key of `clients_`, and `broadcastToSubscribers i m` sends `m`
exactly once to each connection subscribed to `i` and to no other. Ids need not be distinct:
an id accepted twice is still covered by the same argument.

The invariant (`Live`) has three parts: the indexes mirror some relation, subscribers are
clients, and a connection accepted and not yet closed is a client. The last is what lets a
frame's subscription land on a client; the first is what lets `onClose` clear every subscriber
set it occurs in.
-/

set_option autoImplicit false

namespace DeribitTrader.WebSocketServer

/-- A handler event of the server. -/
inductive ServerEvent where
  | onAccept (connection : String)
  | handleMessage (connection message : String)
  | onClose (connection : String)
  deriving DecidableEq

namespace ServerEvent

/-- The method an event runs. -/
def prog : ServerEvent → ServerProg
  | onAccept c => WebSocketServer.onAccept c
  | handleMessage c m => WebSocketServer.handleMessage c m
  | onClose c => WebSocketServer.onClose c

/-- Whether the event may come after the events `before`: a frame of a connection only
between its acceptance and its close. -/
def AllowedAfter : ServerEvent → List ServerEvent → Prop
  | handleMessage c _, before => onAccept c ∈ before ∧ onClose c ∉ before
  | _, _ => True

end ServerEvent

/-- Each event allowed after the ones before it, from `before` on. -/
def AdmissibleFrom : List ServerEvent → List ServerEvent → Prop
  | _, [] => True
  | before, e :: rest => e.AllowedAfter before ∧ AdmissibleFrom (before ++ [e]) rest

/-- A history of the server from its construction. -/
def Admissible (evs : List ServerEvent) : Prop := AdmissibleFrom [] evs

/-- The server after the events, one after another. -/
def runEvents (evs : List ServerEvent) (s : WebSocketServer) : WebSocketServer :=
  evs.foldl (fun s e => (e.prog.run s).1) s

/-- Every id in a subscriber set is a client. -/
def Covered (s : WebSocketServer) : Prop :=
  ∀ c i, c ∈ (s.instrumentSubscribers.find i).getD ∅ → c ∈ s.clients

/-- The invariant of a history `before` that led to `s`. -/
structure Live (s : WebSocketServer) (before : List ServerEvent) : Prop where
  mirrors : ∃ r, Mirrors r s
  covered : Covered s
  accepted : ∀ c, .onAccept c ∈ before → .onClose c ∉ before → c ∈ s.clients

theorem Live.empty : Live empty [] :=
  ⟨⟨∅, Mirrors.empty⟩, fun _ _ h => by simp [WebSocketServer.empty] at h, fun _ h => by simp at h⟩

/-- A frame changes the indexes by one subscribe or unsubscribe of its own connection, or not
at all. -/
theorem handleMessage_state (c m : String) (s : WebSocketServer) :
    (∃ i, ((handleMessage c m).run s).1 = subscribeBlock c i s) ∨
    (∃ i, ((handleMessage c m).run s).1 = unsubscribeBlock c i s) ∨
    ((handleMessage c m).run s).1 = s := by
  unfold handleMessage
  split
  · exact .inl ⟨_, rfl⟩
  · exact .inr (.inl ⟨_, rfl⟩)
  · exact .inr (.inr rfl)
  · exact .inr (.inr rfl)

/-- The mirror reads the indexes only. -/
theorem Mirrors.withClients {r : Finset (String × String)} {s : WebSocketServer}
    (h : Mirrors r s) (clients : Finset String) : Mirrors r { s with clients := clients } :=
  ⟨h.clients_iff, h.instruments_iff, h.nonempty⟩

section Step

variable {s : WebSocketServer} {before : List ServerEvent}

theorem Covered.subscribe (h : Covered s) {c : String} (hc : c ∈ s.clients) (i : String) :
    Covered (subscribeBlock c i s) := by
  intro c' i' hc'
  by_cases hi : i' = i
  · simp only [subscribeBlock, StdMap.find_alter, hi, if_true, addMember_getD,
      Finset.mem_insert] at hc'
    rcases hc' with rfl | hc'
    · exact hc
    · exact h c' i hc'
  · simp only [subscribeBlock, StdMap.find_alter, hi, if_false] at hc'
    exact h c' i' hc'

theorem Covered.unsubscribe (h : Covered s) (c i : String) : Covered (unsubscribeBlock c i s) := by
  intro c' i' hc'
  by_cases hi : i' = i
  · simp only [unsubscribeBlock, StdMap.find_alter, hi, if_true, dropMember_getD,
      Finset.mem_erase] at hc'
    exact h c' i hc'.2
  · simp only [unsubscribeBlock, StdMap.find_alter, hi, if_false] at hc'
    exact h c' i' hc'

theorem Live.onAccept (h : Live s before) (c : String) :
    Live ((ServerEvent.onAccept c).prog.run s).1 (before ++ [.onAccept c]) where
  mirrors := let ⟨r, hr⟩ := h.mirrors; ⟨r, hr.withClients _⟩
  covered c' i hc' := Finset.mem_insert_of_mem (h.covered c' i hc')
  accepted c' ha hn := by
    simp only [List.mem_append, List.mem_singleton, ServerEvent.onAccept.injEq, reduceCtorEq,
      or_false, not_or] at ha hn
    simp only [ServerEvent.prog, run_onAccept, Finset.mem_insert]
    rcases ha with ha | rfl
    · exact .inr (h.accepted c' ha hn)
    · exact .inl rfl

theorem Live.handleMessage (h : Live s before) {c : String} (m : String)
    (hallow : (ServerEvent.handleMessage c m).AllowedAfter before) :
    Live ((ServerEvent.handleMessage c m).prog.run s).1 (before ++ [.handleMessage c m]) := by
  have hc : c ∈ s.clients := h.accepted c hallow.1 hallow.2
  have hacc : ∀ c', ServerEvent.onAccept c' ∈ before ++ [.handleMessage c m] →
      ServerEvent.onClose c' ∉ before ++ [.handleMessage c m] → c' ∈ s.clients := by
    intro c' ha hn
    simp only [List.mem_append, List.mem_singleton, reduceCtorEq, or_false] at ha hn
    exact h.accepted c' ha hn
  obtain ⟨r, hr⟩ := h.mirrors
  rcases handleMessage_state c m s with ⟨i, he⟩ | ⟨i, he⟩ | he <;>
    simp only [ServerEvent.prog, he]
  · exact ⟨⟨_, hr.subscribe c i⟩, h.covered.subscribe hc i, hacc⟩
  · exact ⟨⟨_, hr.unsubscribe c i⟩, h.covered.unsubscribe c i, hacc⟩
  · exact ⟨⟨r, hr⟩, h.covered, hacc⟩

theorem Live.onClose (h : Live s before) (c : String) :
    Live ((ServerEvent.onClose c).prog.run s).1 (before ++ [.onClose c]) := by
  obtain ⟨r, hr⟩ := h.mirrors
  have hm := hr.removeAll c
  refine ⟨⟨_, hm.withClients _⟩, fun c' i hc' => ?_, fun c' ha hn => ?_⟩
  · simp only [ServerEvent.prog, run_onClose] at hc' ⊢
    rw [hm.instruments_iff, Finset.mem_filter, ← hr.instruments_iff] at hc'
    exact Finset.mem_erase.mpr ⟨hc'.2, h.covered c' i hc'.1⟩
  · simp only [List.mem_append, List.mem_singleton, ServerEvent.onClose.injEq, reduceCtorEq,
      or_false, not_or] at ha hn
    simp only [ServerEvent.prog, run_onClose]
    exact Finset.mem_erase.mpr ⟨hn.2, h.accepted c' ha hn.1⟩

/-- One admissible event keeps the invariant. -/
theorem Live.step (h : Live s before) (e : ServerEvent) (hallow : e.AllowedAfter before) :
    Live (e.prog.run s).1 (before ++ [e]) := by
  cases e with
  | onAccept c => exact h.onAccept c
  | handleMessage c m => exact h.handleMessage m hallow
  | onClose c => exact h.onClose c

/-- An admissible run keeps the invariant. -/
theorem Live.run (h : Live s before) {evs : List ServerEvent} (hadm : AdmissibleFrom before evs) :
    Live (runEvents evs s) (before ++ evs) := by
  induction evs generalizing s before with
  | nil => simpa using h
  | cons e evs ih =>
    have := ih (h.step e hadm.1) hadm.2
    rwa [List.append_assoc, List.singleton_append] at this

end Step

/-- The two indexes agree on who is subscribed. -/
theorem Mirrors.mem_subscribers_iff {r : Finset (String × String)} {s : WebSocketServer}
    (h : Mirrors r s) (c i : String) :
    c ∈ (s.instrumentSubscribers.find i).getD ∅ ↔ i ∈ getSubscriptions s c := by
  rw [h.instruments_iff, getSubscriptions, h.clients_iff]

/-- Sends to the members of a set that pass a test reach each such member once. -/
theorem count_sends (ids : Finset String) (p : String → Bool) (c m : String) :
    (((setItems ids).filter p).map fun c' =>
      (Event.emit (ServerEffect.send c' m) : Event ServerMutex ServerEffect)).count
        (.emit (.send c m)) = if c ∈ ids ∧ p c then 1 else 0 := by
  have hinj : Function.Injective fun c' => (Event.emit (ServerEffect.send c' m) :
      Event ServerMutex ServerEffect) := fun a b h => by simpa using h
  rw [List.count_map_of_injective _ _ hinj]
  split
  · rename_i hc
    exact List.count_eq_one_of_mem ((setItems_nodup ids).filter p)
      (List.mem_filter.mpr ⟨mem_setItems.mpr hc.1, hc.2⟩)
  · rename_i hc
    exact List.count_eq_zero_of_not_mem fun h =>
      hc ⟨mem_setItems.mp (List.mem_filter.mp h).1, (List.mem_filter.mp h).2⟩

/-- Where every subscriber is a client, a broadcast reaches exactly the subscribers, once. -/
theorem broadcastToSubscribers_count {r : Finset (String × String)} {s : WebSocketServer}
    (hm : Mirrors r s) (hc : Covered s) (i m c : String) :
    ((broadcastToSubscribers i m).run s).2.count (.emit (.send c m)) =
      if i ∈ getSubscriptions s c then 1 else 0 := by
  rw [run_broadcastToSubscribers, List.count_append, count_sends]
  have hiff : (c ∈ (s.instrumentSubscribers.find i).getD ∅ ∧ decide (c ∈ s.clients) = true) ↔
      i ∈ getSubscriptions s c := by
    rw [← hm.mem_subscribers_iff]
    exact ⟨And.left, fun h => ⟨h, decide_eq_true (hc c i h)⟩⟩
  simp only [hiff]
  split <;> rfl

/-- **The law.** After any admissible history, every subscriber id is a client, and a
broadcast sends its message exactly once to each subscribed connection and to no other. -/
theorem subscribers_are_clients (evs : List ServerEvent) (hadm : Admissible evs) :
    Covered (runEvents evs empty) ∧
    ∀ i m c, ((broadcastToSubscribers i m).run (runEvents evs empty)).2.count
      (.emit (.send c m)) = if i ∈ getSubscriptions (runEvents evs empty) c then 1 else 0 := by
  have h := Live.empty.run hadm
  obtain ⟨r, hr⟩ := h.mirrors
  exact ⟨h.covered, broadcastToSubscribers_count hr h.covered⟩

/-- A history that accepts a connection and subscribes it satisfies the law's premise. -/
theorem subscribers_are_clients_subscribed :
    Admissible [.onAccept "a", .handleMessage "a"
      "\x7b\"type\":\"subscribe\",\"instrument\":\"BTC-PERPETUAL\"\x7d"] ∧
    Covered (runEvents [.onAccept "a", .handleMessage "a"
      "\x7b\"type\":\"subscribe\",\"instrument\":\"BTC-PERPETUAL\"\x7d"] empty) :=
  have h : Admissible [.onAccept "a", .handleMessage "a"
      "\x7b\"type\":\"subscribe\",\"instrument\":\"BTC-PERPETUAL\"\x7d"] := by
    simp [Admissible, AdmissibleFrom, ServerEvent.AllowedAfter]
  ⟨h, (subscribers_are_clients _ h).1⟩

end DeribitTrader.WebSocketServer
