import DeribitTrader.Prog

/-!
# Operations that overlap

Each method runs on a thread of its own, and the steps of its `Prog` interleave with those of
other threads. Two views of such runs.

`Prog.interleave act env p j s` runs `p` from its step `j` while the rest of the program acts
around it: just before step `j'` of `p`, the environment makes the atomic steps `env j'`, each an
action `a` that changes the state by `act a`. An environment step may fall inside a block of `p`,
where the mutex would hold it back; the view admits more schedules than the program can take, so
what holds in it holds of every schedule. With no environment steps it is `Prog.run`
(`interleave_quiet`).

`Threads` runs several threads, each a `Prog`, on one state, with the holder of each mutex: a
thread takes a mutex only when no thread holds it. `Threads.runSchedule` follows a schedule, a
list of thread numbers, and fails when a turn names a thread that cannot move. It exhibits runs
the program can take. A disciplined thread given all its turns in a row, with no mutex held,
ends as `Prog.run` ends, with the same events (`Threads.runSchedule_alone`); disciplined threads
run one after another, each to its return, end as their sequential run `runSerial` ends
(`Threads.runSchedule_serial`).

The two views agree (`Threads.runSchedule_sees`): under any schedule of `Threads`, each
thread's events so far, followed by what the rest of its program makes, are a run of its program
in `Prog.interleave`, the environment's steps being the other threads' accesses between its own
steps. So a disciplined thread keeps the discipline under every schedule
(`Threads.runSchedule_disciplined`).
-/

set_option autoImplicit false

namespace DeribitTrader

section Env

variable {σ α : Type} (act : α → σ → σ)

/-- The state after the actions `as`, in order. -/
def applyAll (as : List α) (s : σ) : σ := as.foldl (fun s a => act a s) s

/-- The environment's steps before step `n` of a thread: `env 0 ++ … ++ env (n - 1)`. -/
def envUpTo (env : Nat → List α) : Nat → List α
  | 0 => []
  | n + 1 => envUpTo env n ++ env n

@[simp] theorem applyAll_nil (s : σ) : applyAll act [] s = s := rfl

@[simp] theorem applyAll_append (as bs : List α) (s : σ) :
    applyAll act (as ++ bs) s = applyAll act bs (applyAll act as s) := List.foldl_append ..

@[simp] theorem envUpTo_zero (env : Nat → List α) : envUpTo env 0 = [] := rfl

@[simp] theorem envUpTo_succ (env : Nat → List α) (n : Nat) :
    envUpTo env (n + 1) = envUpTo env n ++ env n := rfl

end Env

namespace Prog

variable {σ μ ε α : Type} (act : α → σ → σ) (env : Nat → List α)

/-- The run of `p` from its step `j` while the environment makes the steps `env j'` just before
step `j'`: the final state and the events of `p`. -/
def interleave : Prog σ μ ε → Nat → σ → σ × List (Event μ ε)
  | done, _, s => (s, [])
  | lock m k, j, s =>
    ((k.interleave (j + 1) (applyAll act (env j) s)).1,
      .lock m :: (k.interleave (j + 1) (applyAll act (env j) s)).2)
  | unlock m k, j, s =>
    ((k.interleave (j + 1) (applyAll act (env j) s)).1,
      .unlock m :: (k.interleave (j + 1) (applyAll act (env j) s)).2)
  | access f k, j, s =>
    (k (applyAll act (env j) s)).interleave (j + 1) (f (applyAll act (env j) s))
  | emit e k, j, s =>
    ((k.interleave (j + 1) (applyAll act (env j) s)).1,
      .emit e :: (k.interleave (j + 1) (applyAll act (env j) s)).2)

variable (j : Nat) (s : σ)

@[simp] theorem interleave_done : (done : Prog σ μ ε).interleave act env j s = (s, []) := rfl

@[simp] theorem interleave_lock (m : μ) (k : Prog σ μ ε) :
    (lock m k).interleave act env j s =
      ((k.interleave act env (j + 1) (applyAll act (env j) s)).1,
        .lock m :: (k.interleave act env (j + 1) (applyAll act (env j) s)).2) := rfl

@[simp] theorem interleave_unlock (m : μ) (k : Prog σ μ ε) :
    (unlock m k).interleave act env j s =
      ((k.interleave act env (j + 1) (applyAll act (env j) s)).1,
        .unlock m :: (k.interleave act env (j + 1) (applyAll act (env j) s)).2) := rfl

@[simp] theorem interleave_access (f : σ → σ) (k : σ → Prog σ μ ε) :
    (access f k).interleave act env j s =
      (k (applyAll act (env j) s)).interleave act env (j + 1) (f (applyAll act (env j) s)) := rfl

@[simp] theorem interleave_emit (e : ε) (k : Prog σ μ ε) :
    (emit e k).interleave act env j s =
      ((k.interleave act env (j + 1) (applyAll act (env j) s)).1,
        .emit e :: (k.interleave act env (j + 1) (applyAll act (env j) s)).2) := rfl

/-- With no other thread acting, a thread runs as it runs alone. -/
theorem interleave_quiet (p : Prog σ μ ε) :
    p.interleave act (fun _ => []) j s = p.run s := by
  induction p generalizing j s with
  | done => rfl
  | lock m k ih => simp [ih]
  | unlock m k ih => simp [ih]
  | access f k ih => simp [ih]
  | emit e k ih => simp [ih]

/-- A loop of effects makes its effects in order, whatever the environment does. -/
theorem interleave_forEach_emit {β : Type} (xs : List β) (e : β → ε) :
    ((forEach xs fun x => emit (e x) (done : Prog σ μ ε)).interleave act env j s).2 =
      xs.map fun x => .emit (e x) := by
  induction xs generalizing j s with
  | nil => rfl
  | cons x xs ih => exact congrArg (.emit (e x) :: ·) (ih _ _)

/-- A disciplined program keeps the discipline in the view too, whatever the environment
does. -/
theorem Disciplined.interleave [DecidableEq μ] {p : Prog σ μ ε} (h : p.Disciplined) (j₀ : Nat)
    (s₀ : σ) : disciplined none (p.interleave act env j₀ s₀).2 = true := by
  induction h generalizing j₀ s₀ with
  | done => rfl
  | emit e _ ih => exact ih _ _
  | access f _ ih => exact ih _ _ _
  | block m f _ ih => simpa [Prog.block, disciplined] using ih _ _ _

end Prog

/-- The number of steps of a run. -/
def Prog.steps {σ μ ε : Type} : Prog σ μ ε → σ → Nat
  | .done, _ => 0
  | .lock _ k, s => k.steps s + 1
  | .unlock _ k, s => k.steps s + 1
  | .access f k, s => (k s).steps (f s) + 1
  | .emit _ k, s => k.steps s + 1

/-- Whether a thread has returned. -/
def Prog.isDone {σ μ ε : Type} : Prog σ μ ε → Bool
  | .done => true
  | _ => false

section Serial

variable {σ μ ε : Type}

/-- The schedule that runs threads `i`, `i + 1`, … one after another from the state `s`, each
to its return: each thread's turns come in a row. -/
def serialSchedule : List (Prog σ μ ε) → Nat → σ → List Nat
  | [], _, _ => []
  | p :: ps, i, s => List.replicate (p.steps s) i ++ serialSchedule ps (i + 1) (p.run s).1

/-- The programs run one after another from `s`: the final state, and each event with the number
of the thread that made it. -/
def runSerial : List (Prog σ μ ε) → Nat → σ → σ × List (Nat × Event μ ε)
  | [], _, s => (s, [])
  | p :: ps, i, s =>
    ((runSerial ps (i + 1) (p.run s).1).1,
      (p.run s).2.map (i, ·) ++ (runSerial ps (i + 1) (p.run s).1).2)

end Serial

/-- Threads running methods on one object: the state, the rest of each thread's method, the
thread holding each mutex, and the events so far with the thread that made each. -/
structure Threads (σ μ ε : Type) where
  state : σ
  threads : List (Prog σ μ ε)
  holder : μ → Option Nat
  trace : List (Nat × Event μ ε)

namespace Threads

variable {σ μ ε : Type} [DecidableEq μ]

/-- Threads starting the methods `ps` on the state `s`, with no mutex held. -/
def init (s : σ) (ps : List (Prog σ μ ε)) : Threads σ μ ε := ⟨s, ps, fun _ => none, []⟩

/-- One step of thread `i`: `none` when it has returned or waits for a mutex another thread
holds. -/
def step (t : Threads σ μ ε) (i : Nat) : Option (Threads σ μ ε) :=
  match t.threads[i]? with
  | some (.lock m k) =>
    if t.holder m = none then
      some ⟨t.state, t.threads.set i k, Function.update t.holder m (some i), t.trace ++ [(i, .lock m)]⟩
    else none
  | some (.unlock m k) =>
    some ⟨t.state, t.threads.set i k, Function.update t.holder m none, t.trace ++ [(i, .unlock m)]⟩
  | some (.access f k) => some ⟨f t.state, t.threads.set i (k t.state), t.holder, t.trace⟩
  | some (.emit e k) => some ⟨t.state, t.threads.set i k, t.holder, t.trace ++ [(i, .emit e)]⟩
  | _ => none

/-- The run of a schedule: the thread of each turn takes one step. -/
def runSchedule (t : Threads σ μ ε) : List Nat → Option (Threads σ μ ε)
  | [] => some t
  | i :: is => (t.step i).bind (runSchedule · is)

/-- Whether every thread has returned. -/
def returned (t : Threads σ μ ε) : Bool := t.threads.all Prog.isDone

theorem runSchedule_cons (t : Threads σ μ ε) (i : Nat) (is : List Nat) :
    t.runSchedule (i :: is) = (t.step i).bind (runSchedule · is) := rfl

/-- Setting an element to what it is changes nothing. -/
theorem set_of_getElem? {β : Type} {l : List β} {i : Nat} {a : β} (h : l[i]? = some a) :
    l.set i a = l :=
  List.ext_getElem? fun j => by
    rw [List.getElem?_set]
    split
    · subst_vars; simp [(List.getElem?_eq_some_iff.mp h).1, h]
    · rfl

theorem getElem?_set_of_getElem? {β : Type} {l : List β} {i : Nat} {a b : β} (h : l[i]? = some a) :
    (l.set i b)[i]? = some b := by
  rw [List.getElem?_set_self', h]; rfl

/-- A disciplined thread whose turns all come in a row, with no mutex held, runs as it runs
alone: the same final state and the same events. -/
theorem runSchedule_alone {p : Prog σ μ ε} (hp : p.Disciplined) (t : Threads σ μ ε) {i : Nat}
    (hi : t.threads[i]? = some p) (hfree : ∀ m, t.holder m = none) :
    t.runSchedule (List.replicate (p.steps t.state) i) =
      some ⟨(p.run t.state).1, t.threads.set i .done, t.holder,
        t.trace ++ (p.run t.state).2.map (i, ·)⟩ := by
  induction hp generalizing t with
  | done => simp [Prog.steps, runSchedule, set_of_getElem? hi]
  | @emit e k _ ih =>
    rw [Prog.steps, List.replicate_succ, runSchedule_cons]
    simp only [step, hi, Option.some_bind]
    refine (ih ⟨t.state, t.threads.set i k, t.holder, t.trace ++ [(i, .emit e)]⟩
      (getElem?_set_of_getElem? hi) hfree).trans ?_
    simp [List.set_set]
  | @access f k _ ih =>
    rw [Prog.steps, List.replicate_succ, runSchedule_cons]
    simp only [step, hi, Option.some_bind]
    refine (ih t.state ⟨f t.state, t.threads.set i (k t.state), t.holder, t.trace⟩
      (getElem?_set_of_getElem? hi) hfree).trans ?_
    simp [List.set_set]
  | @block m f k _ ih =>
    have hh : Function.update (Function.update t.holder m (some i)) m none = t.holder := by
      rw [Function.update_idem]; exact Function.update_eq_self_iff.mpr (hfree m).symm
    simp only [Prog.block] at hi
    rw [Prog.block, Prog.steps, Prog.steps, Prog.steps, List.replicate_succ, List.replicate_succ,
      List.replicate_succ]
    simp only [runSchedule_cons, step, hi, hfree, if_true, Option.some_bind,
      getElem?_set_of_getElem? hi, List.set_set, Function.update_same, hh]
    refine (ih t.state ⟨f t.state, t.threads.set i (k t.state), t.holder,
      t.trace ++ [(i, .lock m)] ++ [(i, .unlock m)]⟩ (getElem?_set_of_getElem? hi) hfree).trans ?_
    simp [List.set_set]

theorem runSchedule_append (t : Threads σ μ ε) (is js : List Nat) :
    t.runSchedule (is ++ js) = (t.runSchedule is).bind (runSchedule · js) := by
  induction is generalizing t with
  | nil => rfl
  | cons i is ih => simp only [List.cons_append, runSchedule_cons, ih, Option.bind_assoc]

/-- Disciplined threads run one after another, each to its return, from a point where the
threads before them have returned and no mutex is held: the run ends as the sequential run
ends, with the same events, every one of these threads returned and no mutex held. -/
theorem runSchedule_serial {ps : List (Prog σ μ ε)} (hps : ∀ p ∈ ps, p.Disciplined)
    (t : Threads σ μ ε) {i : Nat} (ht : t.threads = List.replicate i .done ++ ps)
    (hfree : ∀ m, t.holder m = none) :
    t.runSchedule (serialSchedule ps i t.state) =
      some ⟨(runSerial ps i t.state).1, List.replicate (i + ps.length) .done, t.holder,
        t.trace ++ (runSerial ps i t.state).2⟩ := by
  induction ps generalizing i t with
  | nil =>
    obtain ⟨s, threads, holder, trace⟩ := t
    simp only at ht
    simp [ht, serialSchedule, runSerial, runSchedule]
  | cons p ps ih =>
    have hi : t.threads[i]? = some p := by
      rw [ht, List.getElem?_append_right (by simp)]
      simp
    rw [serialSchedule, runSchedule_append,
      runSchedule_alone (hps p (List.mem_cons_self p ps)) t hi hfree, Option.some_bind]
    refine (@ih (fun q hq => hps q (List.mem_cons_of_mem p hq)) ⟨(p.run t.state).1,
      t.threads.set i .done, t.holder, t.trace ++ (p.run t.state).2.map (i, ·)⟩ (i + 1) ?_
      hfree).trans ?_
    · show t.threads.set i .done = _
      rw [ht, List.set_append_right _ _ (by simp), List.length_replicate, Nat.sub_self,
        ← List.append_replicate_replicate, List.append_assoc]
      rfl
    · simp [runSerial, Nat.add_right_comm, Nat.add_assoc]

/-- From the start, disciplined threads run one after another end as their sequential run ends,
every thread returned and no mutex held. -/
theorem runSchedule_serial_init (s : σ) {ps : List (Prog σ μ ε)} (hps : ∀ p ∈ ps, p.Disciplined) :
    (init s ps).runSchedule (serialSchedule ps 0 s) =
      some ⟨(runSerial ps 0 s).1, List.replicate ps.length .done, fun _ => none,
        (runSerial ps 0 s).2⟩ := by
  simpa [init] using @runSchedule_serial σ μ ε _ ps hps (init s ps) 0 (by simp [init]) fun _ => rfl

omit [DecidableEq μ] in
theorem returned_replicate_done (s : σ) (n : Nat) (holder : μ → Option Nat)
    (trace : List (Nat × Event μ ε)) :
    (⟨s, List.replicate n .done, holder, trace⟩ : Threads σ μ ε).returned = true := by
  simp [returned, Prog.isDone]

/-! ## Each thread sees a run of the view `Prog.interleave` -/

/-- The events thread `i` has made, in order. -/
def eventsOf (t : Threads σ μ ε) (i : Nat) : List (Event μ ε) :=
  t.trace.filterMap fun e => if e.1 = i then some e.2 else none

/-- Thread `i`, started on `p` from `s`, is part way through a run of `p` in the view
`Prog.interleave`, the environment's steps being the other threads' accesses: it has taken `n`
steps, `past j` are the accesses made before its step `j`, `pending` those since its last step,
which left the state `s'`; its events so far, then the rest `q` of its program run from there,
are the run of `p` in every environment that agrees with `past`. -/
def Sees (t : Threads σ μ ε) (s : σ) (i : Nat) (p : Prog σ μ ε) : Prop :=
  ∃ (q : Prog σ μ ε) (n : Nat) (past : Nat → List (σ → σ)) (pending : List (σ → σ)) (s' : σ),
    t.threads[i]? = some q ∧ t.state = applyAll id pending s' ∧
    ∀ env : Nat → List (σ → σ), (∀ j < n, env j = past j) →
      t.eventsOf i ++ (q.interleave id env n s').2 = (p.interleave id env 0 s).2

omit [DecidableEq μ] in
theorem Sees.init {s : σ} {ps : List (Prog σ μ ε)} {i : Nat} {p : Prog σ μ ε}
    (hi : ps[i]? = some p) : (init s ps).Sees s i p :=
  ⟨p, 0, fun _ => [], [], s, hi, rfl, fun _ _ => rfl⟩

/-- The step of thread `i` itself: it moves one step along its run, and the accesses pending
before it become the environment's steps before that step. -/
theorem Sees.step_self {t t' : Threads σ μ ε} {s : σ} {i : Nat} {p : Prog σ μ ε}
    (h : t.Sees s i p) (ht : t.step i = some t') : t'.Sees s i p := by
  obtain ⟨q, n, past, pending, s', hq, hs, hrun⟩ := h
  have hagree : ∀ env : Nat → List (σ → σ),
      (∀ j < n + 1, env j = if j = n then pending else past j) →
        (∀ j < n, env j = past j) ∧ applyAll id (env n) s' = t.state := fun env he =>
    ⟨fun j hj => by rw [he j (by omega), if_neg (by omega)], by rw [he n (by omega), if_pos rfl, hs]⟩
  cases q with
  | done => simp [step, hq] at ht
  | lock m k =>
    obtain ⟨-, ht⟩ := Option.ite_none_right_eq_some.mp (by simpa only [step, hq] using ht)
    obtain rfl := Option.some.inj ht
    refine ⟨k, n + 1, fun j => if j = n then pending else past j, [], t.state,
      getElem?_set_of_getElem? hq, rfl, fun env he => ?_⟩
    obtain ⟨hpast, hnow⟩ := hagree env he
    simpa [eventsOf, hnow] using hrun env hpast
  | unlock m k =>
    obtain rfl := Option.some.inj (by simpa only [step, hq] using ht)
    refine ⟨k, n + 1, fun j => if j = n then pending else past j, [], t.state,
      getElem?_set_of_getElem? hq, rfl, fun env he => ?_⟩
    obtain ⟨hpast, hnow⟩ := hagree env he
    simpa [eventsOf, hnow] using hrun env hpast
  | access f k =>
    obtain rfl := Option.some.inj (by simpa only [step, hq] using ht)
    refine ⟨k t.state, n + 1, fun j => if j = n then pending else past j, [], f t.state,
      getElem?_set_of_getElem? hq, rfl, fun env he => ?_⟩
    obtain ⟨hpast, hnow⟩ := hagree env he
    simpa [eventsOf, hnow] using hrun env hpast
  | emit e k =>
    obtain rfl := Option.some.inj (by simpa only [step, hq] using ht)
    refine ⟨k, n + 1, fun j => if j = n then pending else past j, [], t.state,
      getElem?_set_of_getElem? hq, rfl, fun env he => ?_⟩
    obtain ⟨hpast, hnow⟩ := hagree env he
    simpa [eventsOf, hnow] using hrun env hpast

/-- A step of another thread: thread `i`'s program and events stay, and an access joins the
pending ones. -/
theorem Sees.step_other {t t' : Threads σ μ ε} {s : σ} {i k : Nat} {p : Prog σ μ ε}
    (h : t.Sees s i p) (hk : k ≠ i) (ht : t.step k = some t') : t'.Sees s i p := by
  obtain ⟨q, n, past, pending, s', hq, hs, hrun⟩ := h
  have hq' : ∀ r, (t.threads.set k r)[i]? = some q := fun r => by rw [List.getElem?_set_ne hk, hq]
  have hev : ∀ e : Event μ ε, (t.trace ++ [(k, e)]).filterMap
      (fun e => if e.1 = i then some e.2 else none) = t.eventsOf i := fun e => by
    simp [eventsOf, hk]
  cases hkq : t.threads[k]? with
  | none => simp [step, hkq] at ht
  | some r =>
    cases r with
    | done => simp [step, hkq] at ht
    | lock m r =>
      obtain ⟨-, ht⟩ := Option.ite_none_right_eq_some.mp (by simpa only [step, hkq] using ht)
      obtain rfl := Option.some.inj ht
      exact ⟨q, n, past, pending, s', hq' r, hs, fun env he => by
        simpa only [eventsOf, hev] using hrun env he⟩
    | unlock m r =>
      obtain rfl := Option.some.inj (by simpa only [step, hkq] using ht)
      exact ⟨q, n, past, pending, s', hq' r, hs, fun env he => by
        simpa only [eventsOf, hev] using hrun env he⟩
    | access f r =>
      obtain rfl := Option.some.inj (by simpa only [step, hkq] using ht)
      exact ⟨q, n, past, pending ++ [f], s', hq' _, by simp [hs, applyAll], hrun⟩
    | emit e r =>
      obtain rfl := Option.some.inj (by simpa only [step, hkq] using ht)
      exact ⟨q, n, past, pending, s', hq' r, hs, fun env he => by
        simpa only [eventsOf, hev] using hrun env he⟩

/-- Every schedule keeps what each thread sees. -/
theorem Sees.runSchedule {t t' : Threads σ μ ε} {s : σ} {i : Nat} {p : Prog σ μ ε}
    (h : t.Sees s i p) {is : List Nat} (ht : t.runSchedule is = some t') : t'.Sees s i p := by
  induction is generalizing t with
  | nil => exact Option.some.inj ht ▸ h
  | cons k is ih =>
    rw [runSchedule_cons] at ht
    obtain ⟨t₁, h₁, ht⟩ := Option.bind_eq_some.mp ht
    by_cases hk : k = i
    · subst hk
      exact ih (h.step_self h₁) ht
    · exact ih (h.step_other hk h₁) ht

/-- **Each thread runs in the view.** Under any schedule of threads started on `ps` from `s`, the
events of thread `i` so far, followed by what the rest of its program makes, are a run of its
program in the view `Prog.interleave`, the environment's steps being the other threads' accesses
between its steps; once it has returned, its events are such a run. -/
theorem runSchedule_sees {s : σ} {ps : List (Prog σ μ ε)} {is : List Nat} {t : Threads σ μ ε}
    (ht : (init s ps).runSchedule is = some t) {i : Nat} {p : Prog σ μ ε} (hi : ps[i]? = some p) :
    ∃ (q : Prog σ μ ε) (n : Nat) (env : Nat → List (σ → σ)) (s' : σ), t.threads[i]? = some q ∧
      t.eventsOf i ++ (q.interleave id env n s').2 = (p.interleave id env 0 s).2 := by
  obtain ⟨q, n, past, -, s', hq, -, hrun⟩ := (Sees.init hi).runSchedule ht
  exact ⟨q, n, past, s', hq, hrun past fun _ _ => rfl⟩

/-- Threads on disciplined programs keep the discipline under every schedule: each thread's
events so far break no rule. -/
theorem runSchedule_disciplined {s : σ} {ps : List (Prog σ μ ε)} (hps : ∀ p ∈ ps, p.Disciplined)
    {is : List Nat} {t : Threads σ μ ε} (ht : (init s ps).runSchedule is = some t) {i : Nat}
    (hi : i < ps.length) : disciplined none (t.eventsOf i) = true := by
  obtain ⟨q, n, env, s', -, hrun⟩ := runSchedule_sees ht (List.getElem?_eq_getElem hi)
  have hd := (hps _ (List.getElem_mem hi)).interleave id env 0 s
  rw [← hrun] at hd
  exact disciplined_of_append hd

end Threads

end DeribitTrader
