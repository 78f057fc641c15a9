import Mathlib.Logic.Function.Basic

/-!
# Operations as programs with locks and effects

Each operation of the broker and of the order-book cache is written as a `Prog`: the steps a
thread takes through the C++ body, as its concurrency sees them. A step takes or releases a
mutex (`lock`, `unlock`: the two ends of a `std::lock_guard` scope), makes one atomic access to
the object's state (`access f k`: the state becomes `f s`, and the rest of the body may depend
on the state `s` it saw, as a local copy does), or makes an effect on something the object does
not own (`emit`: a send on a connection, a call of the exchange link, the update callback).

`Prog.run` runs one operation alone and returns the final state with the events it made, in
order. `disciplined` reads those events against the design rule of the spec: a mutex is taken
only when none is held, released by its holder, and no effect is made while one is held.
`Prog.Disciplined` is the shape of program that keeps the rule, every lock scope one `block`
with a single access inside; its runs keep it from every state (`Prog.Disciplined.run`).

What a `Prog` leaves out: the values an operation returns to its caller (the queries are plain
functions of the state) and time. A response of the exchange link is an input of the operation
that asks for it.
-/

set_option autoImplicit false

namespace DeribitTrader

/-- The steps of one operation, over state `σ`, mutexes `μ` and effects `ε`. -/
inductive Prog (σ μ ε : Type) where
  | done
  | lock (m : μ) (k : Prog σ μ ε)
  | unlock (m : μ) (k : Prog σ μ ε)
  | access (f : σ → σ) (k : σ → Prog σ μ ε)
  | emit (e : ε) (k : Prog σ μ ε)

/-- What a run shows of a step: a mutex taken or released, or an effect. -/
inductive Event (μ ε : Type) where
  | lock (m : μ)
  | unlock (m : μ)
  | emit (e : ε)
  deriving DecidableEq

namespace Prog

variable {σ μ ε : Type}

/-- `p` followed by `q`. -/
def seq : Prog σ μ ε → Prog σ μ ε → Prog σ μ ε
  | done, q => q
  | lock m k, q => lock m (k.seq q)
  | unlock m k, q => unlock m (k.seq q)
  | access f k, q => access f fun s => (k s).seq q
  | emit e k, q => emit e (k.seq q)

/-- A read of the state: the rest depends on it, the state is unchanged. -/
def read (k : σ → Prog σ μ ε) : Prog σ μ ε := access id k

/-- A write of the state. -/
def write (f : σ → σ) (k : Prog σ μ ε) : Prog σ μ ε := access f fun _ => k

/-- A `std::lock_guard` block whose body is one access: lock, access, unlock. -/
def block (m : μ) (f : σ → σ) (k : σ → Prog σ μ ε) : Prog σ μ ε :=
  lock m (access f fun s => unlock m (k s))

/-- A range-`for` whose body is `body x` for each `x`. -/
def forEach {α : Type} (xs : List α) (body : α → Prog σ μ ε) : Prog σ μ ε :=
  xs.foldr (fun x p => (body x).seq p) done

/-- The run of one operation alone: the final state and the events, in order. -/
def run : Prog σ μ ε → σ → σ × List (Event μ ε)
  | done, s => (s, [])
  | lock m k, s => ((k.run s).1, .lock m :: (k.run s).2)
  | unlock m k, s => ((k.run s).1, .unlock m :: (k.run s).2)
  | access f k, s => (k s).run (f s)
  | emit e k, s => ((k.run s).1, .emit e :: (k.run s).2)

@[simp] theorem run_done (s : σ) : (done : Prog σ μ ε).run s = (s, []) := rfl

@[simp] theorem run_lock (m : μ) (k : Prog σ μ ε) (s : σ) :
    (lock m k).run s = ((k.run s).1, .lock m :: (k.run s).2) := rfl

@[simp] theorem run_unlock (m : μ) (k : Prog σ μ ε) (s : σ) :
    (unlock m k).run s = ((k.run s).1, .unlock m :: (k.run s).2) := rfl

@[simp] theorem run_access (f : σ → σ) (k : σ → Prog σ μ ε) (s : σ) :
    (access f k).run s = (k s).run (f s) := rfl

@[simp] theorem run_emit (e : ε) (k : Prog σ μ ε) (s : σ) :
    (emit e k).run s = ((k.run s).1, .emit e :: (k.run s).2) := rfl

@[simp] theorem run_read (k : σ → Prog σ μ ε) (s : σ) : (read k).run s = (k s).run s := rfl

@[simp] theorem run_write (f : σ → σ) (k : Prog σ μ ε) (s : σ) :
    (write f k).run s = k.run (f s) := rfl

@[simp] theorem run_block (m : μ) (f : σ → σ) (k : σ → Prog σ μ ε) (s : σ) :
    (block m f k).run s =
      (((k s).run (f s)).1, .lock m :: .unlock m :: ((k s).run (f s)).2) := rfl

/-- Running `p` then `q` runs `q` from where `p` ended, after `p`'s events. -/
@[simp] theorem run_seq (p q : Prog σ μ ε) (s : σ) :
    (p.seq q).run s = ((q.run (p.run s).1).1, (p.run s).2 ++ (q.run (p.run s).1).2) := by
  induction p generalizing s with
  | done => rfl
  | lock m k ih => simp [seq, ih]
  | unlock m k ih => simp [seq, ih]
  | access f k ih => simp [seq, ih]
  | emit e k ih => simp [seq, ih]

/-- A loop of effects leaves the state alone and makes the effects in order. -/
@[simp] theorem run_forEach_emit {α : Type} (xs : List α) (e : α → ε) (s : σ) :
    (forEach xs fun x => emit (e x) (done : Prog σ μ ε)).run s = (s, xs.map fun x => .emit (e x)) := by
  induction xs with
  | nil => rfl
  | cons x xs ih => simp_all [forEach]

/-- Programs whose every lock scope is one `block` with a single access inside: they keep the
discipline from every state (`Disciplined.run`). -/
inductive Disciplined : Prog σ μ ε → Prop
  | done : Disciplined .done
  | emit (e : ε) {k : Prog σ μ ε} : Disciplined k → Disciplined (.emit e k)
  | access (f : σ → σ) {k : σ → Prog σ μ ε} : (∀ s, Disciplined (k s)) → Disciplined (.access f k)
  | block (m : μ) (f : σ → σ) {k : σ → Prog σ μ ε} :
      (∀ s, Disciplined (k s)) → Disciplined (.block m f k)

namespace Disciplined

theorem read {k : σ → Prog σ μ ε} (h : ∀ s, Disciplined (k s)) : Disciplined (Prog.read k) :=
  .access id h

theorem write (f : σ → σ) {k : Prog σ μ ε} (h : Disciplined k) : Disciplined (Prog.write f k) :=
  .access f fun _ => h

theorem ite {c : Prop} [Decidable c] {p q : Prog σ μ ε} (hp : Disciplined p) (hq : Disciplined q) :
    Disciplined (if c then p else q) := by
  split
  · exact hp
  · exact hq

theorem seq {p q : Prog σ μ ε} (hp : Disciplined p) (hq : Disciplined q) : Disciplined (p.seq q) := by
  induction hp with
  | done => exact hq
  | emit e _ ih => exact .emit e ih
  | access f _ ih => exact .access f ih
  | block m f _ ih => exact .block m f ih

theorem forEach {α : Type} (xs : List α) {body : α → Prog σ μ ε}
    (h : ∀ x, Disciplined (body x)) : Disciplined (Prog.forEach xs body) := by
  induction xs with
  | nil => exact .done
  | cons x xs ih => exact (h x).seq ih

end Disciplined

end Prog

section Discipline

variable {μ ε : Type} [DecidableEq μ]

/-- Whether the events of a run keep the lock discipline, from a thread holding `held`: a
mutex is taken only when none is held and released by its holder, and no effect is made while
one is held. -/
def disciplined : Option μ → List (Event μ ε) → Bool
  | _, [] => true
  | none, .lock m :: es => disciplined (some m) es
  | some _, .lock _ :: _ => false
  | some m, .unlock m' :: es => decide (m = m') && disciplined none es
  | none, .unlock _ :: _ => false
  | none, .emit _ :: es => disciplined none es
  | some _, .emit _ :: _ => false

namespace Prog.Disciplined

variable {σ : Type}

/-- A disciplined program keeps the discipline in its run from every state. -/
theorem run {p : Prog σ μ ε} (h : Disciplined p) (s : σ) : disciplined none (p.run s).2 := by
  induction h generalizing s with
  | done => rfl
  | emit e _ ih => exact ih s
  | access f _ ih => exact ih _ _
  | block m f _ ih => simpa [disciplined] using ih _ _

end Prog.Disciplined

/-- The discipline of a run holds of its every prefix: a run cut short breaks no rule. -/
theorem disciplined_of_append {held : Option μ} {l₁ l₂ : List (Event μ ε)}
    (h : disciplined held (l₁ ++ l₂) = true) : disciplined held l₁ = true := by
  induction l₁ generalizing held with
  | nil => cases held <;> rfl
  | cons e l₁ ih => cases held <;> cases e <;> simp_all [disciplined]

/-- Effects made with no mutex held keep the discipline. -/
@[simp] theorem disciplined_emits {α : Type} (xs : List α) (e : α → ε) (es : List (Event μ ε)) :
    disciplined none (xs.map (fun x => Event.emit (e x)) ++ es) = disciplined none es := by
  induction xs with
  | nil => rfl
  | cons x xs ih => simpa [disciplined] using ih

end Discipline

end DeribitTrader
