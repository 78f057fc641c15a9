import DeribitTrader.Interleave

/-!
# A part of the state that only one mutex's blocks write

A method often keeps a part of the object (`π`) under one mutex (`m`): it writes that part only
in the body of an `m`-block, each such body applies a fixed function (`g`) to it, and no other
access of the method changes it (`Prog.Guarded`). Then, whatever the schedule, the part evolves
by the threads' block functions one at a time, in the order the threads took `m`.

**The law** (`Threads.runSchedule_guarded`): from threads whose methods are guarded, thread `i`
with function `gs i`, every schedule leaves the part as the functions of the `m`-locks in the
trace applied in turn (`lockOps`, `applyOps`), at every point where no thread holds `m`. While
a thread holds `m`, the part is the result of a prefix of those functions. So a property that
each `gs i` keeps holds of the part in every reachable state.

It rests on one invariant, `Threads.Writes`. Each thread is at a known stage: outside any
block, in a block before its access, or in a block after it (`Threads.Stage`). The thread
holding `m` is exactly the one inside an `m`-block. The part is the lock functions applied in
turn, except that a holder before its access has its own function still to apply. Each step
keeps the invariant (`Threads.Writes.step`); the law is an induction over the schedule.
-/

set_option autoImplicit false

namespace DeribitTrader

namespace Prog

variable {σ μ ε β : Type} [DecidableEq μ]

/-- A disciplined program whose accesses leave the part `π` of the state alone, except the
bodies of its `m`-blocks, each of which applies `g` to it. -/
inductive Guarded (π : σ → β) (m : μ) (g : β → β) : Prog σ μ ε → Prop
  | done : Guarded π m g .done
  | emit (e : ε) {k : Prog σ μ ε} : Guarded π m g k → Guarded π m g (.emit e k)
  | access (f : σ → σ) {k : σ → Prog σ μ ε} : (∀ s, π (f s) = π s) →
      (∀ s, Guarded π m g (k s)) → Guarded π m g (.access f k)
  | block (m' : μ) (f : σ → σ) {k : σ → Prog σ μ ε} :
      (∀ s, π (f s) = if m' = m then g (π s) else π s) → (∀ s, Guarded π m g (k s)) →
      Guarded π m g (.block m' f k)

namespace Guarded

variable {π : σ → β} {m : μ} {g : β → β}

theorem read {k : σ → Prog σ μ ε} (h : ∀ s, Guarded π m g (k s)) : Guarded π m g (Prog.read k) :=
  .access id (fun _ => rfl) h

theorem write {f : σ → σ} {k : Prog σ μ ε} (hf : ∀ s, π (f s) = π s) (h : Guarded π m g k) :
    Guarded π m g (Prog.write f k) :=
  .access f hf fun _ => h

theorem ite {c : Prop} [Decidable c] {p q : Prog σ μ ε} (hp : Guarded π m g p)
    (hq : Guarded π m g q) : Guarded π m g (if c then p else q) := by
  split
  · exact hp
  · exact hq

theorem seq {p q : Prog σ μ ε} (hp : Guarded π m g p) (hq : Guarded π m g q) :
    Guarded π m g (p.seq q) := by
  induction hp with
  | done => exact hq
  | emit e _ ih => exact .emit e ih
  | access f hf _ ih => exact .access f hf ih
  | block m' f hf _ ih => exact .block m' f hf ih

theorem forEach {α : Type} (xs : List α) {body : α → Prog σ μ ε}
    (h : ∀ x, Guarded π m g (body x)) : Guarded π m g (Prog.forEach xs body) := by
  induction xs with
  | nil => exact .done
  | cons x xs ih => exact (h x).seq ih

/-- A guarded program that takes a mutex is at the start of a block. -/
theorem lock_inv {m' : μ} {k : Prog σ μ ε} (h : Guarded π m g (.lock m' k)) :
    ∃ (f : σ → σ) (k' : σ → Prog σ μ ε), k = .access f (fun s => .unlock m' (k' s)) ∧
      (∀ s, π (f s) = if m' = m then g (π s) else π s) ∧ ∀ s, Guarded π m g (k' s) := by
  cases h with
  | block _ f hf hk => exact ⟨f, _, rfl, hf, hk⟩

end Guarded

end Prog

namespace Threads

variable {σ μ ε β : Type} [DecidableEq μ]

/-- The functions of the `m`-blocks in the order the threads took `m`: a lock of `m` by thread
`i` stands for `gs i`. -/
def lockOps (m : μ) (gs : Nat → β → β) (trace : List (Nat × Event μ ε)) : List (β → β) :=
  trace.filterMap fun e =>
    match e.2 with
    | .lock m' => if m' = m then some (gs e.1) else none
    | _ => none

/-- The functions applied in turn. -/
def applyOps (ops : List (β → β)) (b : β) : β := ops.foldl (fun b g => g b) b

section Ops

variable (m : μ) (gs : Nat → β → β) (trace : List (Nat × Event μ ε)) (i : Nat)

@[simp] theorem lockOps_lock (m' : μ) :
    lockOps m gs (trace ++ [(i, .lock m')]) = lockOps m gs trace ++ if m' = m then [gs i] else [] := by
  by_cases h : m' = m <;> simp [lockOps, h]

@[simp] theorem lockOps_unlock (m' : μ) :
    lockOps m gs (trace ++ [(i, .unlock m')]) = lockOps m gs trace := by
  simp [lockOps]

@[simp] theorem lockOps_emit (e : ε) : lockOps m gs (trace ++ [(i, .emit e)]) = lockOps m gs trace := by
  simp [lockOps]

@[simp] theorem applyOps_append_singleton (ops : List (β → β)) (g : β → β) (b : β) :
    applyOps (ops ++ [g]) b = g (applyOps ops b) := by
  simp [applyOps]

end Ops

variable (π : σ → β) (m : μ)

/-- Where a thread is: outside any block (`Guarded`), in a block before its access, or in a
block after it. The flag says whether the thread holds `m`. -/
inductive Stage (g : β → β) : Bool → Prog σ μ ε → Prop
  | guarded {p : Prog σ μ ε} : p.Guarded π m g → Stage g false p
  | access {m' : μ} {f : σ → σ} {k : σ → Prog σ μ ε} :
      (∀ s, π (f s) = if m' = m then g (π s) else π s) → (∀ s, (k s).Guarded π m g) →
      Stage g (decide (m' = m)) (.access f fun s => .unlock m' (k s))
  | unlock {m' : μ} {k : Prog σ μ ε} : k.Guarded π m g → Stage g (decide (m' = m)) (.unlock m' k)

/-- Threads whose methods write `π` only in `m`-blocks, thread `i`'s blocks applying `gs i`,
started from a state whose part is `b₀`: each thread's stage, and the part as the functions of
the `m`-locks so far applied in turn. -/
structure Writes (gs : Nat → β → β) (b₀ : β) (t : Threads σ μ ε) : Prop where
  stage : ∀ i q, t.threads[i]? = some q → Stage π m (gs i) (decide (t.holder m = some i)) q
  holder : ∀ i, t.holder m = some i → (t.threads[i]?).isSome
  free : t.holder m = none → applyOps (lockOps m gs t.trace) b₀ = π t.state
  after : ∀ i k, t.holder m = some i → t.threads[i]? = some (.unlock m k) →
    applyOps (lockOps m gs t.trace) b₀ = π t.state
  before : ∀ i f k, t.holder m = some i → t.threads[i]? = some (.access f k) →
    ∃ ops, lockOps m gs t.trace = ops ++ [gs i] ∧ applyOps ops b₀ = π t.state

variable {π m}

section Inversion

variable {g : β → β} {held : Bool}

theorem Stage.done_inv (h : Stage π m g held (.done : Prog σ μ ε)) : held = false := by
  cases h with
  | guarded => rfl

theorem Stage.lock_inv {m' : μ} {k : Prog σ μ ε} (h : Stage π m g held (.lock m' k)) :
    held = false ∧ (Prog.lock m' k).Guarded π m g := by
  cases h with
  | guarded hp => exact ⟨rfl, hp⟩

theorem Stage.unlock_inv {m' : μ} {k : Prog σ μ ε} (h : Stage π m g held (.unlock m' k)) :
    held = decide (m' = m) ∧ k.Guarded π m g := by
  cases h with
  | guarded hp => cases hp
  | unlock hk => exact ⟨rfl, hk⟩

theorem Stage.emit_inv {e : ε} {k : Prog σ μ ε} (h : Stage π m g held (.emit e k)) :
    held = false ∧ k.Guarded π m g := by
  cases h with
  | guarded hp => cases hp with | emit _ hk => exact ⟨rfl, hk⟩

theorem Stage.access_inv {f : σ → σ} {k : σ → Prog σ μ ε} (h : Stage π m g held (.access f k)) :
    (held = false ∧ (∀ s, π (f s) = π s) ∧ ∀ s, (k s).Guarded π m g) ∨
      ∃ (m' : μ) (k' : σ → Prog σ μ ε), k = (fun s => .unlock m' (k' s)) ∧ held = decide (m' = m) ∧
        (∀ s, π (f s) = if m' = m then g (π s) else π s) ∧ ∀ s, (k' s).Guarded π m g := by
  cases h with
  | guarded hp => cases hp with | access _ hf hk => exact .inl ⟨rfl, hf, hk⟩
  | access hf hk => exact .inr ⟨_, _, rfl, rfl, hf, hk⟩

end Inversion

/-- Setting one thread's program, read back at every index. -/
theorem getElem?_set_eq_ite {α : Type} {l : List α} {j : Nat} {a : α} (h : l[j]? = some a)
    (r : α) (i : Nat) : (l.set j r)[i]? = if i = j then some r else l[i]? := by
  by_cases hij : i = j
  · subst hij; rw [getElem?_set_of_getElem? h, if_pos rfl]
  · rw [List.getElem?_set_ne (Ne.symm hij), if_neg hij]

variable {gs : Nat → β → β} {b₀ : β} {t : Threads σ μ ε} {j : Nat}

/-- A step of a thread that does not hold `m` and leaves the part, the holder of `m` and the
lock functions alone keeps the invariant, when the thread moves to a stage outside `m`. -/
theorem Writes.quiet (h : Writes π m gs b₀ t) {q r : Prog σ μ ε} (hq : t.threads[j]? = some q)
    (hj : t.holder m ≠ some j) {t' : Threads σ μ ε} (hthreads : t'.threads = t.threads.set j r)
    (hholder : t'.holder m = t.holder m) (hstate : π t'.state = π t.state)
    (htrace : lockOps m gs t'.trace = lockOps m gs t.trace) (hr : Stage π m (gs j) false r) :
    Writes π m gs b₀ t' := by
  have hset := getElem?_set_eq_ite hq r
  have hne : ∀ i, t.holder m = some i → i ≠ j := fun i hi hij => hj (hij ▸ hi)
  refine ⟨fun i q' hi => ?_, fun i hi => ?_, fun hi => ?_, fun i k₀ hi hk₀ => ?_,
    fun i f₀ k₀ hi hk₀ => ?_⟩
  · rw [hthreads, hset] at hi
    rw [hholder]
    split at hi
    · subst_vars
      cases hi
      simpa [hj] using hr
    · exact h.stage i q' hi
  · rw [hholder] at hi
    rw [hthreads, hset, if_neg (hne i hi)]
    exact h.holder i hi
  · rw [htrace, hstate]
    exact h.free (hholder ▸ hi)
  · rw [hholder] at hi
    rw [hthreads, hset, if_neg (hne i hi)] at hk₀
    rw [htrace, hstate]
    exact h.after i k₀ hi hk₀
  · rw [hholder] at hi
    rw [hthreads, hset, if_neg (hne i hi)] at hk₀
    rw [htrace, hstate]
    exact h.before i f₀ k₀ hi hk₀

/-- A thread taking a mutex keeps the invariant: taking `m` adds its function to the lock
functions, to be applied by its access. -/
theorem Writes.lock (h : Writes π m gs b₀ t) {m' : μ} {k : Prog σ μ ε}
    (hq : t.threads[j]? = some (.lock m' k)) (hfree : t.holder m' = none) :
    Writes π m gs b₀
      ⟨t.state, t.threads.set j k, Function.update t.holder m' (some j), t.trace ++ [(j, .lock m')]⟩ := by
  obtain ⟨hnot, hg⟩ := (h.stage j _ hq).lock_inv
  obtain ⟨f, k', rfl, hf, hk'⟩ := hg.lock_inv
  have hj : t.holder m ≠ some j := by simpa using hnot
  by_cases hm : m' = m
  · subst hm
    have hset := getElem?_set_eq_ite hq
    refine ⟨fun i q hi => ?_, fun i hi => ?_, fun hi => ?_, fun i k₀ hi hk₀ => ?_,
      fun i f₀ k₀ hi hk₀ => ?_⟩ <;> dsimp only at hi ⊢
    · rw [hset] at hi
      split at hi
      · subst_vars
        cases hi
        simpa using Stage.access hf hk'
      · simpa [Function.update_apply, hfree, Ne.symm ‹¬i = j›] using h.stage i q hi
    · simp only [Function.update_same, Option.some.injEq] at hi
      subst hi
      simp [hset]
    · simp at hi
    · simp only [Function.update_same, Option.some.injEq] at hi
      subst hi
      simp [hset] at hk₀
    · simp only [Function.update_same, Option.some.injEq] at hi
      subst hi
      exact ⟨lockOps m' gs t.trace, by simp, h.free hfree⟩
  · exact h.quiet hq hj rfl (Function.update_noteq (Ne.symm hm) _ _) rfl (by simp [hm])
      (by simpa [hm] using Stage.access hf hk')

/-- A thread releasing a mutex keeps the invariant: releasing `m` leaves the part as the lock
functions applied in turn. -/
theorem Writes.unlock (h : Writes π m gs b₀ t) {m' : μ} {k : Prog σ μ ε}
    (hq : t.threads[j]? = some (.unlock m' k)) :
    Writes π m gs b₀
      ⟨t.state, t.threads.set j k, Function.update t.holder m' none, t.trace ++ [(j, .unlock m')]⟩ := by
  obtain ⟨hheld, hk⟩ := (h.stage j _ hq).unlock_inv
  by_cases hm : m' = m
  · subst hm
    have hj : t.holder m' = some j := by simpa using hheld
    have hset := getElem?_set_eq_ite hq
    refine ⟨fun i q hi => ?_, fun i hi => ?_, fun hi => ?_, fun i k₀ hi _ => ?_,
      fun i f₀ k₀ hi _ => ?_⟩ <;> dsimp only at hi ⊢
    · rw [hset] at hi
      split at hi
      · subst_vars
        cases hi
        simpa using Stage.guarded hk
      · simpa [hj, Ne.symm ‹¬i = j›] using h.stage i q hi
    · simp at hi
    · simpa using h.after j k hj hq
    · simp at hi
    · simp at hi
  · exact h.quiet hq (by simpa [hm] using hheld) rfl (Function.update_noteq (Ne.symm hm) _ _) rfl
      (by simp) (Stage.guarded hk)

/-- A thread's access keeps the invariant: only the access of an `m`-block changes the part,
applying the holder's function. -/
theorem Writes.access (h : Writes π m gs b₀ t) {f : σ → σ} {k : σ → Prog σ μ ε}
    (hq : t.threads[j]? = some (.access f k)) :
    Writes π m gs b₀ ⟨f t.state, t.threads.set j (k t.state), t.holder, t.trace⟩ := by
  rcases (h.stage j _ hq).access_inv with ⟨hheld, hf, hk⟩ | ⟨m', k', rfl, hheld, hf, hk'⟩
  · exact h.quiet hq (by simpa using hheld) rfl rfl (hf _) rfl (Stage.guarded (hk _))
  by_cases hm : m' = m
  · subst hm
    have hj : t.holder m' = some j := by simpa using hheld
    have hset := getElem?_set_eq_ite hq
    refine ⟨fun i q hi => ?_, fun i hi => ?_, fun hi => ?_, fun i k₀ hi hk₀ => ?_,
      fun i f₀ k₀ hi hk₀ => ?_⟩ <;> dsimp only at hi ⊢
    · rw [hset] at hi
      split at hi
      · subst_vars
        cases hi
        simpa [hj] using
          (Stage.unlock (hk' t.state) : Stage π m' _ (decide (m' = m')) (.unlock m' (k' t.state)))
      · exact h.stage i q hi
    · rw [hset]
      split
      · rfl
      · exact h.holder i hi
    · simp [hj] at hi
    · obtain ⟨ops, hops, happly⟩ := h.before j f _ hj hq
      rw [hops, applyOps_append_singleton, happly, hf, if_pos rfl]
    · rw [hj, Option.some.injEq] at hi
      subst hi
      simp [hset] at hk₀
  · have hf' : π (f t.state) = π t.state := by simpa [hm] using hf t.state
    exact h.quiet hq (by simpa [hm] using hheld) rfl rfl hf' rfl
      (by simpa [hm] using
        (Stage.unlock (hk' t.state) : Stage π m _ (decide (m' = m)) (.unlock m' (k' t.state))))

/-- **One step** of any thread keeps the invariant. -/
theorem Writes.step (h : Writes π m gs b₀ t) {t' : Threads σ μ ε} (ht : t.step j = some t') :
    Writes π m gs b₀ t' := by
  cases hq : t.threads[j]? with
  | none => simp [Threads.step, hq] at ht
  | some q =>
    cases q with
    | done => simp [Threads.step, hq] at ht
    | lock m' k =>
      obtain ⟨hfree, ht⟩ := Option.ite_none_right_eq_some.mp (by simpa only [Threads.step, hq] using ht)
      exact Option.some.inj ht ▸ h.lock hq hfree
    | unlock m' k => exact Option.some.inj (by simpa only [Threads.step, hq] using ht) ▸ h.unlock hq
    | access f k => exact Option.some.inj (by simpa only [Threads.step, hq] using ht) ▸ h.access hq
    | emit e k =>
      obtain ⟨hheld, hk⟩ := (h.stage j _ hq).emit_inv
      obtain rfl := Option.some.inj (by simpa only [Threads.step, hq] using ht)
      exact h.quiet hq (by simpa using hheld) rfl rfl rfl (by simp) (Stage.guarded hk)

/-- Every schedule keeps the invariant. -/
theorem Writes.runSchedule (h : Writes π m gs b₀ t) {is : List Nat} {t' : Threads σ μ ε}
    (ht : t.runSchedule is = some t') : Writes π m gs b₀ t' := by
  induction is generalizing t with
  | nil => exact Option.some.inj ht ▸ h
  | cons i is ih =>
    obtain ⟨t₁, h₁, ht⟩ := Option.bind_eq_some.mp ht
    exact ih (h.step h₁) ht

/-- Threads started on guarded methods satisfy the invariant. -/
theorem Writes.init {s : σ} {ps : List (Prog σ μ ε)}
    (hps : ∀ i (p : Prog σ μ ε), ps[i]? = some p → p.Guarded π m (gs i)) :
    Writes π m gs (π s) (init s ps) :=
  ⟨fun i q hi => Stage.guarded (hps i q hi), fun _ hi => (nomatch hi), fun _ => rfl,
    fun _ _ hi => (nomatch hi), fun _ _ _ hi => (nomatch hi)⟩

/-- The part of a reachable state is the start's part after some of the threads' functions. -/
theorem Writes.reach (h : Writes π m gs b₀ t) :
    ∃ ops, (∀ g ∈ ops, ∃ i, g = gs i) ∧ applyOps ops b₀ = π t.state := by
  have hlock : ∀ g ∈ lockOps m gs t.trace, ∃ i, g = gs i := fun g hg => by
    obtain ⟨⟨i, e⟩, -, he⟩ := List.mem_filterMap.mp hg
    cases e with
    | lock m' =>
      by_cases hm : m' = m
      · simp only [hm, if_true, Option.some.injEq] at he
        exact ⟨i, he.symm⟩
      · simp [hm] at he
    | unlock => cases he
    | emit => cases he
  cases hh : t.holder m with
  | none => exact ⟨_, hlock, h.free hh⟩
  | some i =>
    obtain ⟨q, hq⟩ := Option.isSome_iff_exists.mp (h.holder i hh)
    have hs : Stage π m (gs i) true q := by simpa [hh] using h.stage i q hq
    cases q with
    | done => exact absurd hs.done_inv (by simp)
    | lock m' k => exact absurd hs.lock_inv.1 (by simp)
    | emit e k => exact absurd hs.emit_inv.1 (by simp)
    | unlock m' k =>
      obtain rfl : m' = m := by simpa using hs.unlock_inv.1.symm
      exact ⟨_, hlock, h.after i k hh hq⟩
    | access f k =>
      obtain ⟨ops, hops, happly⟩ := h.before i f k hh hq
      exact ⟨ops, fun g hg => hlock g (hops ▸ List.mem_append_left _ hg), happly⟩

/-- A property each function keeps holds after the functions applied in turn. -/
theorem applyOps_keeps {P : β → Prop} :
    ∀ (ops : List (β → β)) (b : β), P b → (∀ g ∈ ops, ∀ b, P b → P (g b)) → P (applyOps ops b)
  | [], _, hb, _ => hb
  | g :: ops, b, hb, hg =>
    applyOps_keeps ops (g b) (hg g (List.mem_cons_self g ops) b hb) fun g' hg' =>
      hg g' (List.mem_cons_of_mem g hg')

/-- **The law.** From threads on guarded methods, thread `i` applying `gs i`, every schedule
leaves the part as the functions of the `m`-locks in the trace applied in turn, whenever no
thread holds `m`; and a property that every `gs i` keeps holds of the part throughout. -/
theorem runSchedule_guarded {s : σ} {ps : List (Prog σ μ ε)}
    (hps : ∀ i (p : Prog σ μ ε), ps[i]? = some p → p.Guarded π m (gs i)) {is : List Nat}
    {t : Threads σ μ ε} (ht : (init s ps).runSchedule is = some t) :
    (t.holder m = none → π t.state = applyOps (lockOps m gs t.trace) (π s)) ∧
      ∀ P : β → Prop, P (π s) → (∀ i b, P b → P (gs i b)) → P (π t.state) := by
  have h := (Writes.init hps).runSchedule ht
  refine ⟨fun hfree => (h.free hfree).symm, fun P h₀ hP => ?_⟩
  obtain ⟨ops, hops, happly⟩ := h.reach
  rw [← happly]
  refine applyOps_keeps ops _ h₀ fun g hg b hb => ?_
  obtain ⟨i, rfl⟩ := hops g hg
  exact hP i b hb

end Threads

end DeribitTrader
