import DeribitTrader.Guarded
import DeribitTrader.Market.Session

/-!
# The subscription list under any sequence or interleaving of calls

`subscriptions_` is written only in the `subscriptions_mutex_` blocks of `subscribe` and
`unsubscribe`. `subscribe(s)` appends `s` unless it is there, and `unsubscribe(s)` erases the
first occurrence of `s` (`MarketCall.subscriptionOp`). `start` and `stop` only copy the list
in their blocks, and `processMessage` never touches it.

**The law** (`subscriptions_follow_last_call`) has two parts.
* Calls made one after another, from any client whose list has no repeats (every client the
  constructor and the methods leave): the list never holds an instrument twice, and it holds
  exactly the instruments whose most recent `subscribe`/`unsubscribe` call was a subscribe,
  along with those it held before that no such call named (`subscribedAfter`).
* Calls on threads of their own, under every schedule: the list never holds an instrument
  twice. Whenever no thread holds `subscriptions_mutex_`, which is when `getSubscribedInstruments`
  can read it, it holds the same instruments as above, where "most recent" means the last of the
  calls to take the mutex (`lockedCalls`).

The first part is an induction over the calls. The second follows from the law of guarded
parts: every method of the cache writes the list only in its `subscriptions_mutex_` block,
applying its own operation (`MarketCall.guarded`), so under any schedule the list is the
operations of the calls in lock order applied in turn (`Threads.runSchedule_guarded`).
-/

set_option autoImplicit false

namespace DeribitTrader.MarketDataClient

/-! ## What each call does to the list -/

/-- What a call does to `subscriptions_`: `subscribe` appends an instrument that is not there,
`unsubscribe` erases its first occurrence, and the other calls leave the list alone. -/
def MarketCall.subscriptionOp : MarketCall → List String → List String
  | .subscribe instrument _ _ => fun l => if instrument ∈ l then l else l ++ [instrument]
  | .unsubscribe instrument => fun l => l.erase instrument
  | _ => id

/-- Whether a call subscribes `x` (`some true`) or unsubscribes it (`some false`). -/
def MarketCall.subscribes (x : String) : MarketCall → Option Bool
  | .subscribe instrument _ _ => if instrument = x then some true else none
  | .unsubscribe instrument => if instrument = x then some false else none
  | _ => none

/-- Whether the most recent `subscribe`/`unsubscribe` call on `x` was a subscribe, the last call
of the list being the most recent; `none` when no call named `x`. -/
def lastSubscription (x : String) : List MarketCall → Option Bool
  | [] => none
  | c :: calls => (lastSubscription x calls).or (c.subscribes x)

/-- Whether `x` should be subscribed after the calls, from a list `l`: the kind of its most
recent call, or whether `l` held it when no call named it. -/
def subscribedAfter (x : String) (calls : List MarketCall) (l : List String) : Bool :=
  (lastSubscription x calls).getD (decide (x ∈ l))

/-- The calls' operations applied in turn. -/
def applySubscriptions (calls : List MarketCall) (l : List String) : List String :=
  calls.foldl (fun l c => c.subscriptionOp l) l

theorem subscriptionOp_nodup (c : MarketCall) {l : List String} (hl : l.Nodup) :
    (c.subscriptionOp l).Nodup := by
  cases c with
  | subscribe instrument _ _ =>
    by_cases hi : instrument ∈ l
    · simpa [MarketCall.subscriptionOp, hi] using hl
    · simpa [MarketCall.subscriptionOp, hi, List.nodup_append] using hl
  | unsubscribe instrument => exact hl.erase instrument
  | _ => exact hl

/-- On a list without repeats, a call's operation holds `x` exactly as the call says, and as
before when the call does not name `x`. -/
theorem mem_subscriptionOp (c : MarketCall) {l : List String} (hl : l.Nodup) (x : String) :
    decide (x ∈ c.subscriptionOp l) = (c.subscribes x).getD (decide (x ∈ l)) := by
  cases c with
  | subscribe instrument _ _ =>
    by_cases hx : instrument = x
    · subst hx
      by_cases hi : instrument ∈ l <;> simp [MarketCall.subscriptionOp, MarketCall.subscribes, hi]
    · by_cases hi : instrument ∈ l <;>
        simp [MarketCall.subscriptionOp, MarketCall.subscribes, hi, hx, Ne.symm hx]
  | unsubscribe instrument =>
    by_cases hx : instrument = x
    · subst hx
      simp [MarketCall.subscriptionOp, MarketCall.subscribes, hl.not_mem_erase]
    · simp [MarketCall.subscriptionOp, MarketCall.subscribes, hx, hl.mem_erase_iff, Ne.symm hx]
  | _ => rfl

/-- The operations of any calls keep a list without repeats, and leave in it exactly the
instruments whose most recent call was a subscribe, or that it held when no call named them. -/
theorem applySubscriptions_spec (calls : List MarketCall) {l : List String} (hl : l.Nodup) :
    (applySubscriptions calls l).Nodup ∧
      ∀ x, x ∈ applySubscriptions calls l ↔ subscribedAfter x calls l = true := by
  induction calls generalizing l with
  | nil => exact ⟨hl, fun x => by simp [applySubscriptions, subscribedAfter, lastSubscription]⟩
  | cons c calls ih =>
    obtain ⟨hnodup, hmem⟩ := ih (subscriptionOp_nodup c hl)
    refine ⟨hnodup, fun x => ?_⟩
    rw [applySubscriptions, List.foldl_cons, ← applySubscriptions, hmem, subscribedAfter,
      subscribedAfter, mem_subscriptionOp c hl, lastSubscription]
    cases lastSubscription x calls <;> rfl

/-! ## Calls one after another -/

/-- Each call's run applies its operation to the list. -/
theorem subscriptions_run (c : MarketCall) (s : MarketDataClient) :
    (c.prog.run s).1.subscriptions = c.subscriptionOp s.subscriptions := by
  cases c with
  | start => rw [MarketCall.prog, run_start]; split <;> rfl
  | stop => rw [MarketCall.prog, run_stop]; split <;> rfl
  | subscribe instrument response now =>
    rw [MarketCall.prog, run_subscribe]
    by_cases hi : instrument ∈ s.subscriptions
    · simp [hi, MarketCall.subscriptionOp]
    · by_cases hr : s.running
      · simp [hi, hr, MarketCall.subscriptionOp,
          (run_fetchInitialOrderbook_session instrument response now _ ⟨[], true⟩).2.1]
      · simp [hi, hr, MarketCall.subscriptionOp]
  | unsubscribe instrument => rw [MarketCall.prog, run_unsubscribe]; split <;> rfl
  | processMessage message now =>
    exact (run_processMessage_session message now s ⟨[], true⟩).2.1

theorem subscriptions_runCalls (calls : List MarketCall) (s : MarketDataClient) :
    (runCalls calls s).1.subscriptions = applySubscriptions calls s.subscriptions := by
  induction calls generalizing s with
  | nil => rfl
  | cons c calls ih => rw [runCalls, ih, subscriptions_run]; rfl

/-! ## Calls on threads -/

/-- The operation the thread started on call `i` applies. -/
def callOp (calls : List MarketCall) (i : Nat) : List String → List String :=
  match calls[i]? with
  | some c => c.subscriptionOp
  | none => id

open Prog.Guarded in
theorem storeBook_guarded (book : Orderbook) (g : List String → List String) :
    (storeBook book).Guarded MarketDataClient.subscriptions .subscriptions g :=
  .block _ _ (fun _ => rfl) fun _ => read fun _ => ite (.emit _ .done) .done

open Prog.Guarded in
/-- Every call's method writes the list only in its `subscriptions_mutex_` block, applying the
call's operation. -/
theorem MarketCall.guarded (c : MarketCall) :
    c.prog.Guarded MarketDataClient.subscriptions .subscriptions c.subscriptionOp := by
  cases c with
  | start =>
    exact read fun _ => ite .done (write (fun _ => rfl) (.emit _ (.block _ _ (fun _ => rfl)
      fun _ => forEach _ fun _ => .emit _ .done)))
  | stop =>
    exact read fun _ => ite .done (write (fun _ => rfl) (.block _ _ (fun _ => rfl)
      fun _ => (forEach _ fun _ => .emit _ .done).seq (.emit _ .done)))
  | subscribe instrument response now =>
    have hfetch : (fetchInitialOrderbook instrument response now).Guarded
        MarketDataClient.subscriptions .subscriptions (MarketCall.subscribe instrument response now).subscriptionOp := by
      refine .emit _ ?_
      split
      · exact storeBook_guarded _ _
      · exact .done
    refine .block _ _ (fun s => ?_) fun _ => ite .done (read fun _ => ite .done
      (hfetch.seq (.emit _ .done)))
    simp only [subscribeBlock, if_true, MarketCall.subscriptionOp]
    split <;> rfl
  | unsubscribe instrument =>
    exact .block _ _ (fun _ => rfl) fun _ => ite .done (read fun _ => ite .done
      (.emit _ (.block _ _ (fun _ => rfl) fun _ => .done)))
  | processMessage message now =>
    show (MarketDataClient.processMessage message now).Guarded _ _ _
    unfold MarketDataClient.processMessage
    split
    · exact storeBook_guarded _ _
    · exact .done

/-- The calls of the threads in the order they took `subscriptions_mutex_`. -/
def lockedCalls (calls : List MarketCall) (trace : List (Nat × Event MarketMutex MarketEffect)) :
    List MarketCall :=
  trace.filterMap fun e =>
    match e.2 with
    | .lock .subscriptions => calls[e.1]?
    | _ => none

/-- The lock functions of a trace are the operations of its locked calls. -/
theorem applyOps_lockOps (calls : List MarketCall) (trace : List (Nat × Event MarketMutex MarketEffect))
    (l : List String) :
    Threads.applyOps (Threads.lockOps .subscriptions (callOp calls) trace) l =
      applySubscriptions (lockedCalls calls trace) l := by
  induction trace generalizing l with
  | nil => rfl
  | cons e trace ih =>
    obtain ⟨i, e⟩ := e
    rcases e with (_ | _) | _ | _
    · simp only [Threads.lockOps, lockedCalls, List.filterMap_cons, if_true] at ih ⊢
      rw [Threads.applyOps, List.foldl_cons, ← Threads.applyOps, ih, callOp]
      rcases calls[i]? with _ | c <;> rfl
    all_goals exact ih l

/-- **The law.** Calls one after another, from a list without repeats, keep it without repeats
and leave in it exactly the instruments whose most recent `subscribe`/`unsubscribe` call was a
subscribe, or that it held when no call named them. The same holds for calls on threads of their
own under every schedule, the list having no repeats throughout, and at every point where no
thread holds `subscriptions_mutex_` the most recent call being the last to take the mutex. -/
theorem subscriptions_follow_last_call :
    (∀ (calls : List MarketCall) (s : MarketDataClient), s.subscriptions.Nodup →
      (runCalls calls s).1.subscriptions.Nodup ∧
        ∀ x, x ∈ getSubscribedInstruments (runCalls calls s).1 ↔
          subscribedAfter x calls s.subscriptions = true) ∧
    (∀ (calls : List MarketCall) (s : MarketDataClient) (is : List Nat)
        (t : Threads MarketDataClient MarketMutex MarketEffect), s.subscriptions.Nodup →
      (Threads.init s (calls.map MarketCall.prog)).runSchedule is = some t →
      t.state.subscriptions.Nodup ∧
        (t.holder .subscriptions = none → ∀ x, x ∈ getSubscribedInstruments t.state ↔
          subscribedAfter x (lockedCalls calls t.trace) s.subscriptions = true)) := by
  refine ⟨fun calls s hs => ?_, fun calls s is t hs ht => ?_⟩
  · rw [getSubscribedInstruments, subscriptions_runCalls]
    exact applySubscriptions_spec calls hs
  · have hps : ∀ i (p : MarketProg), (calls.map MarketCall.prog)[i]? = some p →
        p.Guarded MarketDataClient.subscriptions .subscriptions (callOp calls i) := fun i p hp => by
      rw [List.getElem?_map] at hp
      obtain ⟨c, hc, rfl⟩ := Option.map_eq_some'.mp hp
      simpa [callOp, hc] using c.guarded
    obtain ⟨hfree, hkeep⟩ := Threads.runSchedule_guarded hps ht
    refine ⟨hkeep List.Nodup hs fun i l hl => ?_, fun hh x => ?_⟩
    · unfold callOp
      cases calls[i]? with
      | none => exact hl
      | some c => exact subscriptionOp_nodup c hl
    · rw [getSubscribedInstruments, hfree hh, applyOps_lockOps]
      exact (applySubscriptions_spec _ hs).2 x

/-- The premises met by a new client and the calls `subscribe("BTC-PERPETUAL")` and
`unsubscribe("BTC-PERPETUAL")`: one after another they leave nothing subscribed; on two threads
whose schedule lets the unsubscribing one take the mutex first, `BTC-PERPETUAL` stays
subscribed once the mutex is free. -/
theorem subscriptions_follow_last_call_two_threads :
    (empty true).subscriptions.Nodup ∧
    ((runCalls [.subscribe "BTC-PERPETUAL" none 1, .unsubscribe "BTC-PERPETUAL"]
        (empty true)).1.subscriptions.Nodup ∧
      ∀ x, x ∈ getSubscribedInstruments (runCalls [.subscribe "BTC-PERPETUAL" none 1,
          .unsubscribe "BTC-PERPETUAL"] (empty true)).1 ↔
        subscribedAfter x [.subscribe "BTC-PERPETUAL" none 1, .unsubscribe "BTC-PERPETUAL"]
          (empty true).subscriptions = true) ∧
    (Threads.init (empty true) ([MarketCall.subscribe "BTC-PERPETUAL" none 1,
        .unsubscribe "BTC-PERPETUAL"].map MarketCall.prog)).runSchedule [1, 1, 1, 0, 0, 0, 0] =
      some (((Threads.init (empty true) ([MarketCall.subscribe "BTC-PERPETUAL" none 1,
        .unsubscribe "BTC-PERPETUAL"].map MarketCall.prog)).runSchedule [1, 1, 1, 0, 0, 0, 0]).getD
          (Threads.init (empty true) [])) ∧
    ((((Threads.init (empty true) ([MarketCall.subscribe "BTC-PERPETUAL" none 1,
        .unsubscribe "BTC-PERPETUAL"].map MarketCall.prog)).runSchedule [1, 1, 1, 0, 0, 0, 0]).getD
          (Threads.init (empty true) [])).state.subscriptions.Nodup ∧
      ((((Threads.init (empty true) ([MarketCall.subscribe "BTC-PERPETUAL" none 1,
          .unsubscribe "BTC-PERPETUAL"].map MarketCall.prog)).runSchedule [1, 1, 1, 0, 0, 0, 0]).getD
            (Threads.init (empty true) [])).holder .subscriptions = none →
        ∀ x, x ∈ getSubscribedInstruments (((Threads.init (empty true)
            ([MarketCall.subscribe "BTC-PERPETUAL" none 1, .unsubscribe "BTC-PERPETUAL"].map
              MarketCall.prog)).runSchedule [1, 1, 1, 0, 0, 0, 0]).getD
                (Threads.init (empty true) [])).state ↔
          subscribedAfter x (lockedCalls [.subscribe "BTC-PERPETUAL" none 1,
            .unsubscribe "BTC-PERPETUAL"] (((Threads.init (empty true)
              ([MarketCall.subscribe "BTC-PERPETUAL" none 1, .unsubscribe "BTC-PERPETUAL"].map
                MarketCall.prog)).runSchedule [1, 1, 1, 0, 0, 0, 0]).getD
                  (Threads.init (empty true) [])).trace) (empty true).subscriptions = true)) ∧
    getSubscribedInstruments (runCalls [.subscribe "BTC-PERPETUAL" none 1,
      .unsubscribe "BTC-PERPETUAL"] (empty true)).1 = [] ∧
    getSubscribedInstruments (((Threads.init (empty true) ([MarketCall.subscribe "BTC-PERPETUAL"
      none 1, .unsubscribe "BTC-PERPETUAL"].map MarketCall.prog)).runSchedule
        [1, 1, 1, 0, 0, 0, 0]).getD (Threads.init (empty true) [])).state = ["BTC-PERPETUAL"] := by
  have hs : (empty true).subscriptions.Nodup := List.nodup_nil
  have ht : (Threads.init (empty true) ([MarketCall.subscribe "BTC-PERPETUAL" none 1,
      .unsubscribe "BTC-PERPETUAL"].map MarketCall.prog)).runSchedule [1, 1, 1, 0, 0, 0, 0] =
      some (((Threads.init (empty true) ([MarketCall.subscribe "BTC-PERPETUAL" none 1,
        .unsubscribe "BTC-PERPETUAL"].map MarketCall.prog)).runSchedule [1, 1, 1, 0, 0, 0, 0]).getD
          (Threads.init (empty true) [])) := rfl
  exact ⟨hs, subscriptions_follow_last_call.1 _ _ hs, ht,
    subscriptions_follow_last_call.2 _ _ _ _ hs ht, by decide, by decide⟩

end DeribitTrader.MarketDataClient
