import DeribitTrader.Orders.Lifecycle
import DeribitTrader.Text

/-!
# The registry over whole runs, and what its queries answer

An `OrderCall` is one call of the registry with the inputs it reads from outside: the clock
readings of `placeOrder`, the link's answer and the clock of `cancelOrder` and `modifyOrder`,
the decoded payload and the clock of `onOrderUpdate`. `runOrders` makes the calls in order.

**The law** (`registry_answers_by_id`): after any sequence of calls from a new registry, every
order that `getAllOrders` lists is the one `getOrder` answers for its own id, and no order is
`PENDING`. It rests on the invariant `Registered` (every order is stored under its own id, and
is not pending), which every call keeps: `placeOrder` stores a new order under its id, and the
other calls rewrite a stored order without touching its id.

The registry's API is specified by two lemmas. The queries (`queries_sorted_newest_first`): from
any state, `getAllOrders` lists each stored order once, newest creation first, and
`getOpenOrders` the stored `OPEN` and `PARTIALLY_FILLED` orders, once each, newest first.
`std::sort` leaves orders with equal creation times in an unspecified order; the lemma holds for
every such order. The two commands act on any known order, whatever its status
(`cancel_and_modify_any_status`): on the link's success `cancelOrder` makes it `CANCELLED`, a
`FILLED` order included, and `modifyOrder` sets its price and amount; on failure, or for an
unknown id, nothing changes.

Placements (`placement_keeps_orders_iff_distinct_readings`): from a new registry, the ids of any
list of placements are pairwise distinct, and `getAllOrders` lists one order per placement,
exactly when the clock readings taken for the ids are pairwise distinct, since `std::to_string`
prints different integers differently (`toString_int_injective`); `getOrder` answers a
placement whose reading no other placement shares with the order it stored. Threads insert
under `orders_mutex_` one at a time, so every interleaving of placements is some order of the
list.
-/

set_option autoImplicit false

namespace DeribitTrader.OrderManager

/-- A call on the registry, with the inputs it reads from outside. -/
inductive OrderCall where
  | placeOrder (instrument : String) (side : Order.Side) (price amount : ℚ)
      (type : Order.OrderType) (idClock stampClock : Int)
  | cancelOrder (orderId : String) (success : Bool) (clock : Int)
  | modifyOrder (orderId : String) (newPrice newAmount : ℚ) (success : Bool) (clock : Int)
  | onOrderUpdate (data : Option Json) (clock : Int)

/-- The registry after one call. -/
def OrderCall.apply (om : OrderManager) : OrderCall → OrderManager
  | .placeOrder instrument side price amount type idClock stampClock =>
    (om.placeOrder instrument side price amount type idClock stampClock).2
  | .cancelOrder orderId success clock => om.cancelOrder orderId success clock
  | .modifyOrder orderId newPrice newAmount success clock =>
    om.modifyOrder orderId newPrice newAmount success clock
  | .onOrderUpdate data clock => om.onOrderUpdate data clock

/-- The registry after the calls, in order. -/
def runOrders (calls : List OrderCall) (om : OrderManager) : OrderManager :=
  calls.foldl OrderCall.apply om

@[simp] theorem runOrders_nil (om : OrderManager) : runOrders [] om = om := rfl

@[simp] theorem runOrders_cons (c : OrderCall) (calls : List OrderCall) (om : OrderManager) :
    runOrders (c :: calls) om = runOrders calls (c.apply om) := rfl

/-! ## What each call does to one entry -/

section Find

variable (om : OrderManager) (k : String)

theorem find_cancelOrder (orderId : String) (success : Bool) (clock : Int) :
    (om.cancelOrder orderId success clock).orders.find k =
      if success ∧ k = orderId then
        (om.orders.find k).map fun o => { o with status := .CANCELLED, lastUpdateTimestamp := clock }
      else om.orders.find k := by
  unfold cancelOrder
  cases success <;> cases ho : om.orders.find orderId <;> by_cases hk : k = orderId <;>
    simp [ho, hk]

theorem find_modifyOrder (orderId : String) (newPrice newAmount : ℚ) (success : Bool)
    (clock : Int) :
    (om.modifyOrder orderId newPrice newAmount success clock).orders.find k =
      if success ∧ k = orderId then
        (om.orders.find k).map fun o =>
          { o with price := newPrice, amount := newAmount, lastUpdateTimestamp := clock }
      else om.orders.find k := by
  unfold modifyOrder
  cases success <;> cases ho : om.orders.find orderId <;> by_cases hk : k = orderId <;>
    simp [ho, hk]

end Find

/-- The commands act on any known order whatever its status: on the link's success
`cancelOrder` makes it `CANCELLED` and `modifyOrder` sets its price and amount, each stamping
the clock; on failure, for an unknown id, and on every other entry, nothing changes. -/
theorem cancel_and_modify_any_status (om : OrderManager) (orderId k : String) (success : Bool)
    (clock : Int) (newPrice newAmount : ℚ) :
    (om.cancelOrder orderId success clock).orders.find k =
      (if success ∧ k = orderId then
        (om.orders.find k).map fun o => { o with status := .CANCELLED, lastUpdateTimestamp := clock }
      else om.orders.find k) ∧
    (om.modifyOrder orderId newPrice newAmount success clock).orders.find k =
      (if success ∧ k = orderId then
        (om.orders.find k).map fun o =>
          { o with price := newPrice, amount := newAmount, lastUpdateTimestamp := clock }
      else om.orders.find k) :=
  ⟨find_cancelOrder om k orderId success clock,
    find_modifyOrder om k orderId newPrice newAmount success clock⟩

/-! ## The invariant -/

theorem updateOrder_orderId (data : Json) (status : String) (filledAmount : ℚ) (clock : Int)
    (o : Order) : (updateOrder data status filledAmount clock o).orderId = o.orderId := by
  dsimp only [updateOrder]
  cases data.member "error" >>= Json.getString <;> simp only [apply_ite Order.orderId, ite_self]

theorem updatedStatus_ne_pending {status : String} {filledAmount amount : ℚ}
    {current : Order.Status} (h : current ≠ .PENDING) :
    updatedStatus status filledAmount amount current ≠ .PENDING := by
  simp only [updatedStatus, ne_eq, apply_ite (· = Order.Status.PENDING), h, reduceCtorEq, ite_self,
    not_false_eq_true]

/-- Every order is stored under its own id, and none is pending. -/
structure Registered (om : OrderManager) : Prop where
  keyed : ∀ k o, om.orders.find k = some o → o.orderId = k
  notPending : ∀ k o, om.orders.find k = some o → o.status ≠ .PENDING

theorem Registered.empty : Registered empty :=
  ⟨fun _ _ h => (nomatch h), fun _ _ h => (nomatch h)⟩

variable {om : OrderManager}

/-- Rewriting a stored order without touching its id, to a status other than `PENDING`, keeps
the invariant. -/
theorem Registered.rewrite (h : Registered om) {orderId : String} {o : Order}
    (ho : om.orders.find orderId = some o) (o' : Order) (hid : o'.orderId = o.orderId)
    (hst : o'.status ≠ .PENDING) : Registered { om with orders := om.orders.insert orderId o' } := by
  constructor <;> intro k x hx <;> rcases StdMap.find_insert_eq_some.mp hx with ⟨rfl, rfl⟩ | ⟨-, hx⟩
  · exact hid.trans (h.keyed _ _ ho)
  · exact h.keyed k x hx
  · exact hst
  · exact h.notPending k x hx

theorem Registered.placeOrder (h : Registered om) (instrument : String) (side : Order.Side)
    (price amount : ℚ) (type : Order.OrderType) (idClock stampClock : Int) :
    Registered (om.placeOrder instrument side price amount type idClock stampClock).2 := by
  constructor <;> intro k x hx <;> rcases StdMap.find_insert_eq_some.mp hx with ⟨rfl, rfl⟩ | ⟨-, hx⟩
  · rfl
  · exact h.keyed k x hx
  · simp
  · exact h.notPending k x hx

theorem Registered.cancelOrder (h : Registered om) (orderId : String) (success : Bool)
    (clock : Int) : Registered (om.cancelOrder orderId success clock) := by
  unfold OrderManager.cancelOrder
  split
  · rename_i o ho; exact h.rewrite ho _ rfl nofun
  · exact h

theorem Registered.modifyOrder (h : Registered om) (orderId : String) (newPrice newAmount : ℚ)
    (success : Bool) (clock : Int) :
    Registered (om.modifyOrder orderId newPrice newAmount success clock) := by
  unfold OrderManager.modifyOrder
  split
  · rename_i o ho; exact h.rewrite ho _ rfl (h.notPending orderId o ho)
  · exact h

theorem Registered.onOrderUpdate (h : Registered om) (data : Option Json) (clock : Int) :
    Registered (om.onOrderUpdate data clock) := by
  unfold OrderManager.onOrderUpdate
  split
  · exact h
  · split
    · exact h
    · split
      · rename_i o ho
        exact h.rewrite ho _ (updateOrder_orderId ..)
          (by rw [updateOrder_status]; exact updatedStatus_ne_pending (h.notPending _ _ ho))
      · exact h

/-- One call keeps the invariant. -/
theorem Registered.step (h : Registered om) : (c : OrderCall) → Registered (c.apply om)
  | .placeOrder instrument side price amount type idClock stampClock =>
    h.placeOrder instrument side price amount type idClock stampClock
  | .cancelOrder orderId success clock => h.cancelOrder orderId success clock
  | .modifyOrder orderId newPrice newAmount success clock =>
    h.modifyOrder orderId newPrice newAmount success clock
  | .onOrderUpdate data clock => h.onOrderUpdate data clock

/-- Every sequence of calls keeps the invariant. -/
theorem Registered.runOrders (h : Registered om) (calls : List OrderCall) :
    Registered (runOrders calls om) := by
  induction calls generalizing om with
  | nil => exact h
  | cons c calls ih => exact ih (h.step c)

/-! ## The queries -/

/-- `getAllOrders` lists exactly the stored orders. -/
theorem mem_getAllOrders {o : Order} : o ∈ om.getAllOrders ↔ ∃ k, om.orders.find k = some o := by
  simp only [getAllOrders, List.mem_mergeSort, List.mem_map, Prod.exists, StdMap.mem_items,
    exists_eq_right]

theorem newestFirst_trans (a b c : Order) (hab : newestFirst a b) (hbc : newestFirst b c) :
    newestFirst a c := by
  simp only [newestFirst, decide_eq_true_eq] at *
  omega

theorem newestFirst_total (a b : Order) : newestFirst a b || newestFirst b a := by
  simp only [newestFirst, Bool.or_eq_true, decide_eq_true_eq]
  omega

/-- The queries list the stored orders, the open ones for `getOpenOrders`, each once, newest
creation first. -/
theorem queries_sorted_newest_first (om : OrderManager) :
    om.getAllOrders.Perm (om.orders.items.map (·.2)) ∧
    om.getAllOrders.Pairwise (fun a b => b.creationTimestamp ≤ a.creationTimestamp) ∧
    om.getOpenOrders.Perm ((om.orders.items.map (·.2)).filter fun o =>
      o.status = .OPEN || o.status = .PARTIALLY_FILLED) ∧
    om.getOpenOrders.Pairwise (fun a b => b.creationTimestamp ≤ a.creationTimestamp) := by
  have hsorted := fun l : List Order =>
    (List.sorted_mergeSort newestFirst_trans newestFirst_total l).imp fun h => by
      simpa [newestFirst] using h
  exact ⟨List.mergeSort_perm _ _, hsorted _, List.mergeSort_perm _ _, hsorted _⟩

/-- **The law.** After any sequence of calls from a new registry, `getOrder` answers each listed
order for its own id, and no listed order is pending. -/
theorem registry_answers_by_id (calls : List OrderCall) :
    (runOrders calls empty).getAllOrders.map (fun o => (runOrders calls empty).getOrder o.orderId) =
      (runOrders calls empty).getAllOrders ∧
    Order.Status.PENDING ∉ (runOrders calls empty).getAllOrders.map Order.status := by
  have h := Registered.empty.runOrders calls
  refine ⟨(List.map_congr_left fun o ho => ?_).trans (List.map_id _), fun hp => ?_⟩
  · obtain ⟨k, hk⟩ := mem_getAllOrders.mp ho
    rw [h.keyed k o hk]
    simp [getOrder, hk]
  · obtain ⟨o, ho, hst⟩ := List.mem_map.mp hp
    obtain ⟨k, hk⟩ := mem_getAllOrders.mp ho
    exact h.notPending k o hk hst

/-! ## Placements -/

/-- The arguments of a `placeOrder` call and the two clock readings it takes. -/
structure Placement where
  instrument : String
  side : Order.Side
  price : ℚ
  amount : ℚ
  type : Order.OrderType
  idClock : Int
  stampClock : Int

namespace Placement

/-- The call that makes the placement. -/
def call (p : Placement) : OrderCall :=
  .placeOrder p.instrument p.side p.price p.amount p.type p.idClock p.stampClock

/-- The id `placeOrder` returns for the placement; it is built from the clock reading alone, so
it is the same from any registry. -/
def orderId (p : Placement) : String :=
  (empty.placeOrder p.instrument p.side p.price p.amount p.type p.idClock p.stampClock).1

/-- Two placements get one id exactly when they read one clock value for it. -/
theorem orderId_eq_iff {p q : Placement} : p.orderId = q.orderId ↔ p.idClock = q.idClock :=
  ⟨fun h => append_toString_injective "order_" h, fun h => by simp [orderId, placeOrder, h]⟩

/-- A placement stores its order under its id, the same order from any registry. -/
theorem find_call_apply (p : Placement) (om : OrderManager) (k : String) :
    (p.call.apply om).orders.find k =
      if k = p.orderId then (p.call.apply empty).orders.find k else om.orders.find k := by
  simp only [orderId, call, OrderCall.apply, placeOrder, StdMap.find_insert]
  split_ifs <;> rfl

/-- Placements with other ids leave an entry alone. -/
theorem find_runOrders_of_ne (ps : List Placement) (om : OrderManager) {k : String}
    (h : ∀ q ∈ ps, q.orderId ≠ k) : (runOrders (ps.map call) om).orders.find k = om.orders.find k := by
  induction ps generalizing om with
  | nil => rfl
  | cons q ps ih =>
    rw [List.map_cons, runOrders_cons, ih _ fun r hr => h r (List.mem_cons_of_mem q hr),
      find_call_apply, if_neg fun hk => h q (List.mem_cons_self q ps) hk.symm]

/-- After placements, an id has an entry when it had one or a placement returned it. -/
theorem find_runOrders_isSome (ps : List Placement) (om : OrderManager) (k : String) :
    ((runOrders (ps.map call) om).orders.find k).isSome ↔
      (om.orders.find k).isSome ∨ k ∈ ps.map orderId := by
  induction ps generalizing om with
  | nil => simp
  | cons q ps ih =>
    rw [List.map_cons, runOrders_cons, ih, find_call_apply, List.map_cons, List.mem_cons]
    by_cases hk : k = q.orderId
    · simp [hk, orderId, call, OrderCall.apply, placeOrder]
    · simp only [hk, if_false, false_or]

theorem keys_runOrders_empty (ps : List Placement) :
    (runOrders (ps.map call) empty).orders.keys = (ps.map orderId).toFinset := by
  ext k
  rw [StdMap.mem_keys, find_runOrders_isSome, List.mem_toFinset]
  simp [empty]

/-- A placement whose id reading no other placement shares keeps the order it stored. -/
theorem find_runOrders_of_unique (ps : List Placement) (om : OrderManager) {p : Placement}
    (hp : p ∈ ps) (hu : ∀ q ∈ ps, q.idClock = p.idClock → q = p) :
    (runOrders (ps.map call) om).orders.find p.orderId =
      (p.call.apply empty).orders.find p.orderId := by
  induction ps generalizing om with
  | nil => nomatch hp
  | cons q ps ih =>
    rw [List.map_cons, runOrders_cons]
    by_cases hps : p ∈ ps
    · exact ih _ hps fun r hr => hu r (List.mem_cons_of_mem q hr)
    · obtain rfl : q = p := ((List.mem_cons.mp hp).resolve_right hps).symm
      have hother : ∀ r ∈ ps, r.orderId ≠ q.orderId := fun r hr he =>
        hps (hu r (List.mem_cons_of_mem _ hr) (orderId_eq_iff.mp he) ▸ hr)
      rw [find_runOrders_of_ne _ _ hother, find_call_apply, if_pos rfl]

end Placement

open Placement in
/-- **Placement keeps every order exactly when the id readings differ.** For placements made in
any order, the ids `placeOrder` returns are pairwise distinct, and `getAllOrders` lists one
order per placement, exactly when the clock readings taken for the ids are pairwise distinct;
and `getOrder` answers a placement whose reading no other placement shares with the order that
placing it alone stores. -/
theorem placement_keeps_orders_iff_distinct_readings (ps : List Placement) :
    ((ps.map Placement.orderId).Nodup ↔ (ps.map Placement.idClock).Nodup) ∧
    ((runOrders (ps.map Placement.call) empty).getAllOrders.length = ps.length ↔
      (ps.map Placement.idClock).Nodup) ∧
    ∀ p ∈ ps, (∀ q ∈ ps, q.idClock = p.idClock → q = p) →
      (runOrders (ps.map Placement.call) empty).getOrder p.orderId =
        (runOrders [p.call] empty).getOrder p.orderId := by
  have hids : (ps.map orderId).Nodup ↔ (ps.map idClock).Nodup := by
    rw [← List.nodup_map_iff (append_toString_injective "order_"), List.map_map]
    rfl
  have hcard : (ps.map orderId).toFinset.card = ps.length ↔ (ps.map orderId).Nodup := by
    simpa using @Multiset.toFinset_card_eq_card_iff_nodup String _ (ps.map orderId)
  refine ⟨hids, ?_, fun p hp hu => ?_⟩
  · rw [length_getAllOrders, keys_runOrders_empty]
    exact hcard.trans hids
  · rw [getOrder, getOrder, find_runOrders_of_unique ps empty hp hu]
    rfl

end DeribitTrader.OrderManager
