import DeribitTrader.Server.State

/-!
# The two subscription indexes mirror one relation

The broker keeps the many-to-many relation between connections and instruments twice:
`client_subscriptions_` reads it by connection, `instrument_subscribers_` by instrument. A
`SubscriptionCall` is one of the three methods that change it, and `SubscriptionCall.relate`
says what the call does to the relation it stands for: insert a pair, erase a pair, erase
every pair of a connection.

**The law** (`subscription_indexes_mirror`): from the empty server, after any sequence of
calls, both indexes read exactly the relation the calls built (`Mirrors`), and no instrument
keeps an empty subscriber set; `getSubscriptions` is the relation's image. Calls on pairwise
distinct pairs commute, so any order of them gives the same indexes.

The run lemma is the fold of one step lemma per call (`Mirrors.step`). The step of
`removeAllSubscriptions` is where the mirror is used and not only kept: the block reaches the
connection's subscriber entries through the other index, so it clears every one of them only
because the two agree.
-/

set_option autoImplicit false

namespace DeribitTrader.WebSocketServer

/-! ## One entry -/

section Members

variable (x y : String) (o : Option (Finset String))

@[simp] theorem addMember_getD : (addMember x o).getD ∅ = insert x (o.getD ∅) := rfl

@[simp] theorem eraseMember_getD : (eraseMember x o).getD ∅ = (o.getD ∅).erase x := by
  cases o <;> rfl

@[simp] theorem dropMember_getD : (dropMember x o).getD ∅ = (o.getD ∅).erase x := by
  cases o with
  | none => rfl
  | some xs => by_cases h : xs.erase x = ∅ <;> simp [dropMember, h]

/-- Dropping never leaves an empty entry behind. -/
theorem dropMember_nonempty {o : Option (Finset String)} {ys : Finset String}
    (h : dropMember x o = some ys) : ys.Nonempty := by
  cases o with
  | none => cases h
  | some xs =>
    by_cases he : xs.erase x = ∅
    · simp [dropMember, he] at h
    · simp only [dropMember, he, if_false, Option.some.injEq] at h
      exact h ▸ Finset.nonempty_iff_ne_empty.mpr he

/-- A second drop sees the erased set whether or not the first one dropped the entry. -/
theorem dropMember_dropMember (xs : Finset String) :
    dropMember y (dropMember x (some xs)) = dropMember y (some (xs.erase x)) := by
  by_cases h : xs.erase x = ∅ <;> simp [dropMember, h]

theorem dropMember_idem : dropMember x (dropMember x o) = dropMember x o := by
  cases o with
  | none => rfl
  | some xs => rw [dropMember_dropMember]; simp [dropMember, Finset.erase_idem]

variable {x y}

theorem addMember_comm : addMember y (addMember x o) = addMember x (addMember y o) := by
  simp [addMember, Finset.Insert.comm]

theorem addMember_eraseMember (h : x ≠ y) :
    eraseMember y (addMember x o) = addMember x (eraseMember y o) := by
  cases o <;> simp [addMember, eraseMember, Finset.erase_insert_of_ne h, Ne.symm h]

theorem eraseMember_comm : eraseMember y (eraseMember x o) = eraseMember x (eraseMember y o) := by
  cases o <;> simp [eraseMember, Finset.erase_right_comm]

theorem addMember_dropMember (h : x ≠ y) :
    dropMember y (addMember x o) = addMember x (dropMember y o) := by
  have hne : (insert x (o.getD ∅)).erase y ≠ ∅ :=
    Finset.nonempty_iff_ne_empty.mp ⟨x, by simp [h]⟩
  have hadd : addMember x (dropMember y o) = some ((insert x (o.getD ∅)).erase y) := by
    rw [Finset.erase_insert_of_ne h, ← dropMember_getD]; rfl
  rw [hadd, addMember, dropMember, if_neg hne]

theorem dropMember_comm : dropMember y (dropMember x o) = dropMember x (dropMember y o) := by
  cases o with
  | none => rfl
  | some xs =>
    rw [dropMember_dropMember, dropMember_dropMember]
    simp only [dropMember]
    rw [Finset.erase_right_comm]

end Members

/-- Dropping one connection from the entries of a list of instruments. -/
theorem find_foldl_dropMember (c k : String) (l : List String) (m : StdMap (Finset String)) :
    (l.foldl (fun m i => m.alter i (dropMember c)) m).find k =
      if k ∈ l then dropMember c (m.find k) else m.find k := by
  induction l generalizing m with
  | nil => simp
  | cons i l ih =>
    rw [List.foldl_cons, ih]
    by_cases hk : k = i
    · subst hk; simp [dropMember_idem]
    · simp [hk]

/-! ## Calls and the relation they build -/

/-- A call that changes the subscription indexes. -/
inductive SubscriptionCall where
  | add (client instrument : String)
  | remove (client instrument : String)
  | removeAll (client : String)

namespace SubscriptionCall

/-- The method a call runs. -/
def prog : SubscriptionCall → ServerProg
  | add c i => addSubscription c i
  | remove c i => removeSubscription c i
  | removeAll c => removeAllSubscriptions c

/-- What a call does to the relation the indexes stand for. -/
def relate : SubscriptionCall → Finset (String × String) → Finset (String × String)
  | add c i, r => insert (c, i) r
  | remove c i, r => r.erase (c, i)
  | removeAll c, r => r.filter (·.1 ≠ c)

/-- The one pair an `add` or `remove` call is on. -/
def pair : SubscriptionCall → Option (String × String)
  | add c i => some (c, i)
  | remove c i => some (c, i)
  | removeAll _ => none

end SubscriptionCall

/-- The server after the calls, one after another. -/
def runCalls (calls : List SubscriptionCall) (s : WebSocketServer) : WebSocketServer :=
  calls.foldl (fun s x => (x.prog.run s).1) s

/-- The relation the calls build from `r`. -/
def relation (calls : List SubscriptionCall) (r : Finset (String × String)) :
    Finset (String × String) :=
  calls.foldl (fun r x => x.relate r) r

/-- Both indexes read the relation `r`, and no subscriber set is empty. -/
structure Mirrors (r : Finset (String × String)) (s : WebSocketServer) : Prop where
  clients_iff : ∀ c i, i ∈ (s.clientSubscriptions.find c).getD ∅ ↔ (c, i) ∈ r
  instruments_iff : ∀ c i, c ∈ (s.instrumentSubscribers.find i).getD ∅ ↔ (c, i) ∈ r
  nonempty : ∀ i xs, s.instrumentSubscribers.find i = some xs → xs.Nonempty

theorem Mirrors.empty : Mirrors ∅ empty :=
  ⟨fun _ _ => by simp [WebSocketServer.empty], fun _ _ => by simp [WebSocketServer.empty],
    fun _ _ h => by simp [WebSocketServer.empty] at h⟩

/-- The relation read back through `getSubscriptions`. -/
theorem Mirrors.getSubscriptions_eq {r : Finset (String × String)} {s : WebSocketServer}
    (h : Mirrors r s) (c : String) :
    getSubscriptions s c = (r.filter (·.1 = c)).image Prod.snd := by
  ext i
  simp only [getSubscriptions, h.clients_iff, Finset.mem_image, Finset.mem_filter]
  constructor
  · intro hi; exact ⟨(c, i), ⟨hi, rfl⟩, rfl⟩
  · rintro ⟨⟨c', i'⟩, ⟨hr, rfl⟩, rfl⟩; exact hr

section Step

variable {r : Finset (String × String)} {s : WebSocketServer}

theorem Mirrors.subscribe (h : Mirrors r s) (c i : String) :
    Mirrors (insert (c, i) r) (subscribeBlock c i s) where
  clients_iff c' i' := by
    by_cases hc : c' = c <;> simp [subscribeBlock, hc, h.clients_iff]
  instruments_iff c' i' := by
    by_cases hi : i' = i <;> simp [subscribeBlock, hi, h.instruments_iff]
  nonempty i' xs hx := by
    by_cases hi : i' = i
    · simp only [subscribeBlock, StdMap.find_alter, hi, if_true, addMember] at hx
      cases hx; exact Finset.insert_nonempty _ _
    · simp only [subscribeBlock, StdMap.find_alter, hi, if_false] at hx
      exact h.nonempty i' xs hx

theorem Mirrors.unsubscribe (h : Mirrors r s) (c i : String) :
    Mirrors (r.erase (c, i)) (unsubscribeBlock c i s) where
  clients_iff c' i' := by
    by_cases hc : c' = c <;> simp [unsubscribeBlock, hc, h.clients_iff, and_comm]
  instruments_iff c' i' := by
    by_cases hi : i' = i <;> simp [unsubscribeBlock, hi, h.instruments_iff, and_comm]
  nonempty i' xs hx := by
    by_cases hi : i' = i
    · simp only [unsubscribeBlock, StdMap.find_alter, hi, if_true] at hx
      exact dropMember_nonempty c hx
    · simp only [unsubscribeBlock, StdMap.find_alter, hi, if_false] at hx
      exact h.nonempty i' xs hx

/-- `removeAllSubscriptions` clears the connection from every subscriber set: the sets that
hold it are exactly the instruments its own entry lists. -/
theorem Mirrors.removeAll (h : Mirrors r s) (c : String) :
    Mirrors (r.filter (·.1 ≠ c)) (removeAllBlock c s) where
  clients_iff c' i' := by
    by_cases hc : c' = c <;> simp [removeAllBlock, hc, h.clients_iff]
  instruments_iff c' i' := by
    simp only [removeAllBlock, find_foldl_dropMember, mem_setItems, Finset.mem_filter]
    split
    · simp [h.instruments_iff, and_comm]
    · rename_i hi
      rw [h.instruments_iff]
      constructor
      · intro hr; refine ⟨hr, fun hc => hi ?_⟩; subst hc; exact (h.clients_iff _ _).mpr hr
      · exact And.left
  nonempty i' xs hx := by
    simp only [removeAllBlock, find_foldl_dropMember] at hx
    split at hx
    · exact dropMember_nonempty c hx
    · exact h.nonempty i' xs hx

/-- One call keeps the mirror, of the relation the call builds. -/
theorem Mirrors.step (h : Mirrors r s) (x : SubscriptionCall) :
    Mirrors (x.relate r) (x.prog.run s).1 := by
  cases x with
  | add c i => exact h.subscribe c i
  | remove c i => exact h.unsubscribe c i
  | removeAll c => exact h.removeAll c

/-- A run of calls keeps the mirror. -/
theorem Mirrors.runCalls (h : Mirrors r s) (calls : List SubscriptionCall) :
    Mirrors (relation calls r) (WebSocketServer.runCalls calls s) := by
  induction calls generalizing r s with
  | nil => exact h
  | cons x calls ih => exact ih (h.step x)

end Step

/-! ## Calls on distinct pairs commute -/

namespace SubscriptionCall

/-- What an `add` or `remove` call does to its connection's entry. -/
def clientUpdate : SubscriptionCall → Option (Finset String) → Option (Finset String)
  | add _ i => addMember i
  | remove _ i => eraseMember i
  | removeAll _ => id

/-- What an `add` or `remove` call does to its instrument's entry. -/
def instrumentUpdate : SubscriptionCall → Option (Finset String) → Option (Finset String)
  | add c _ => addMember c
  | remove c _ => dropMember c
  | removeAll _ => id

variable {x y : SubscriptionCall} {c c' i i' : String}

/-- A call on one pair touches one entry of each index. -/
theorem run_prog_of_pair (hx : x.pair = some (c, i)) (s : WebSocketServer) :
    (x.prog.run s).1 = { s with
      clientSubscriptions := s.clientSubscriptions.alter c x.clientUpdate
      instrumentSubscribers := s.instrumentSubscribers.alter i x.instrumentUpdate } := by
  cases x <;> simp only [pair, Option.some.injEq, Prod.mk.injEq, reduceCtorEq] at hx <;>
    obtain ⟨rfl, rfl⟩ := hx <;> rfl

theorem clientUpdate_comm (hx : x.pair = some (c, i)) (hy : y.pair = some (c', i')) (hi : i ≠ i')
    (o : Option (Finset String)) :
    y.clientUpdate (x.clientUpdate o) = x.clientUpdate (y.clientUpdate o) := by
  cases x <;> cases y <;> simp only [pair, Option.some.injEq, Prod.mk.injEq, reduceCtorEq] at hx hy <;>
    obtain ⟨rfl, rfl⟩ := hx <;> obtain ⟨rfl, rfl⟩ := hy
  · exact addMember_comm o
  · exact addMember_eraseMember o hi
  · exact (addMember_eraseMember o (Ne.symm hi)).symm
  · exact eraseMember_comm o

theorem instrumentUpdate_comm (hx : x.pair = some (c, i)) (hy : y.pair = some (c', i'))
    (hc : c ≠ c') (o : Option (Finset String)) :
    y.instrumentUpdate (x.instrumentUpdate o) = x.instrumentUpdate (y.instrumentUpdate o) := by
  cases x <;> cases y <;> simp only [pair, Option.some.injEq, Prod.mk.injEq, reduceCtorEq] at hx hy <;>
    obtain ⟨rfl, rfl⟩ := hx <;> obtain ⟨rfl, rfl⟩ := hy
  · exact addMember_comm o
  · exact addMember_dropMember o hc
  · exact (addMember_dropMember o (Ne.symm hc)).symm
  · exact dropMember_comm o

/-- Two calls on different pairs give the same server in either order: where they share an
entry, they change different members of it. -/
theorem prog_run_comm (hx : x.pair = some (c, i)) (hy : y.pair = some (c', i'))
    (hpq : (c, i) ≠ (c', i')) (s : WebSocketServer) :
    (y.prog.run (x.prog.run s).1).1 = (x.prog.run (y.prog.run s).1).1 := by
  simp only [run_prog_of_pair hx, run_prog_of_pair hy, WebSocketServer.mk.injEq, true_and]
  by_cases hc : c = c'
  · subst hc
    have hi : i ≠ i' := fun h => hpq (h ▸ rfl)
    exact ⟨StdMap.alter_comm_self _ _ (clientUpdate_comm hx hy hi), StdMap.alter_comm _ hi _ _⟩
  · refine ⟨StdMap.alter_comm _ hc _ _, ?_⟩
    by_cases hi : i = i'
    · subst hi; exact StdMap.alter_comm_self _ _ (instrumentUpdate_comm hx hy hc)
    · exact StdMap.alter_comm _ hi _ _

end SubscriptionCall

/-- **The law.** Both indexes mirror the relation the calls build, with no empty subscriber
set; `getSubscriptions` reads that relation; and calls on pairwise distinct pairs give the same
server in every order. -/
theorem subscription_indexes_mirror (calls : List SubscriptionCall) :
    Mirrors (relation calls ∅) (runCalls calls empty) ∧
    (∀ c, getSubscriptions (runCalls calls empty) c =
      ((relation calls ∅).filter (·.1 = c)).image Prod.snd) ∧
    ∀ (l₁ l₂ : List SubscriptionCall) (s : WebSocketServer), l₁.Perm l₂ →
      (∀ x ∈ l₁, x.pair.isSome) → (l₁.map SubscriptionCall.pair).Nodup →
      runCalls l₁ s = runCalls l₂ s := by
  have hm := Mirrors.empty.runCalls calls
  refine ⟨hm, hm.getSubscriptions_eq, fun l₁ l₂ s hperm hpair hnd => ?_⟩
  refine hperm.foldl_eq' (fun x hx y hy t => ?_) s
  by_cases hxy : x = y
  · rw [hxy]
  obtain ⟨⟨c, i⟩, hp⟩ := Option.isSome_iff_exists.mp (hpair x hx)
  obtain ⟨⟨c', i'⟩, hq⟩ := Option.isSome_iff_exists.mp (hpair y hy)
  have hpq : (c, i) ≠ (c', i') := fun e => hxy (List.inj_on_of_nodup_map hnd hx hy (by rw [hp, hq, e]))
  exact SubscriptionCall.prog_run_comm hp hq hpq t

end DeribitTrader.WebSocketServer
