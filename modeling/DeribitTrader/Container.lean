import Mathlib.Data.Finset.Sort
import Mathlib.Data.String.Basic

/-!
# The standard containers the state is kept in

Every piece of shared state of the program is a `std::set<std::string>`, a
`std::vector<std::string>` or a `std::map<std::string, V>`. A vector is a `List`. A set is a
`Finset String`; a range-`for` over it visits the elements in string order (`setItems`). A map
is a `StdMap V`: its lookup function (`find`) together with its key set and the proof that the
two agree, so that a map whose keys and entries disagree cannot be built.

All the map operations the code uses are instances of one, `StdMap.alter`, which rewrites the
entry of one key through a function on `Option V`. So every statement about one key reduces to
`find_alter`, and two updates of different keys commute (`alter_comm`).
-/

set_option autoImplicit false

namespace DeribitTrader

/-- A `std::set<std::string>` in iteration order. -/
def setItems (s : Finset String) : List String := s.sort (· ≤ ·)

@[simp] theorem mem_setItems {s : Finset String} {x : String} : x ∈ setItems s ↔ x ∈ s :=
  Finset.mem_sort _

theorem setItems_nodup (s : Finset String) : (setItems s).Nodup := Finset.sort_nodup _ _

@[simp] theorem setItems_empty : setItems ∅ = [] := Finset.sort_empty _

/-- A `std::map<std::string, V>`: lookup and key set, which agree. -/
structure StdMap (V : Type) where
  find : String → Option V
  keys : Finset String
  mem_keys : ∀ k, k ∈ keys ↔ (find k).isSome

namespace StdMap

variable {V : Type}

/-- Two maps with the same entries are the same map: the keys follow from the entries. -/
@[ext] theorem ext {m₁ m₂ : StdMap V} (h : ∀ k, m₁.find k = m₂.find k) : m₁ = m₂ := by
  obtain ⟨f₁, ks₁, h₁⟩ := m₁
  obtain ⟨f₂, ks₂, h₂⟩ := m₂
  have hf : f₁ = f₂ := funext h
  subst hf
  have hk : ks₁ = ks₂ := Finset.ext fun k => (h₁ k).trans (h₂ k).symm
  subst hk
  rfl

/-- The empty map. -/
def empty : StdMap V := ⟨fun _ => none, ∅, by simp⟩

/-- The entry of `k` rewritten by `f`: created, changed or removed. -/
def alter (m : StdMap V) (k : String) (f : Option V → Option V) : StdMap V where
  find := Function.update m.find k (f (m.find k))
  keys := if (f (m.find k)).isSome then insert k m.keys else m.keys.erase k
  mem_keys k' := by
    by_cases hk : k' = k
    · subst hk; split <;> simp_all
    · split <;> simp [hk, m.mem_keys]

/-- `m[k] = v`. -/
def insert (m : StdMap V) (k : String) (v : V) : StdMap V := m.alter k fun _ => some v

/-- `m.erase(k)`. -/
def erase (m : StdMap V) (k : String) : StdMap V := m.alter k fun _ => none

/-- The map with `f` applied to every entry. -/
def map {W : Type} (f : V → W) (m : StdMap V) : StdMap W :=
  ⟨fun k => (m.find k).map f, m.keys, fun k => by simp [m.mem_keys]⟩

/-- The entries in iteration order (a range-`for` over the map). -/
def items (m : StdMap V) : List (String × V) :=
  (setItems m.keys).filterMap fun k => (m.find k).map (k, ·)

@[simp] theorem find_empty (k : String) : (empty : StdMap V).find k = none := rfl

@[simp] theorem find_alter (m : StdMap V) (k k' : String) (f : Option V → Option V) :
    (m.alter k f).find k' = if k' = k then f (m.find k) else m.find k' := by
  simp only [alter, Function.update_apply]

@[simp] theorem find_map {W : Type} (f : V → W) (m : StdMap V) (k : String) :
    (m.map f).find k = (m.find k).map f := rfl

@[simp] theorem find_insert (m : StdMap V) (k k' : String) (v : V) :
    (m.insert k v).find k' = if k' = k then some v else m.find k' := find_alter ..

@[simp] theorem find_erase (m : StdMap V) (k k' : String) :
    (m.erase k).find k' = if k' = k then none else m.find k' := find_alter ..

/-- What an entry after `m[k] = v` can be. -/
theorem find_insert_eq_some {m : StdMap V} {k k' : String} {v x : V} :
    (m.insert k v).find k' = some x ↔ (k' = k ∧ x = v) ∨ (k' ≠ k ∧ m.find k' = some x) := by
  by_cases hk : k' = k <;> simp [hk, eq_comm]

/-- Updates of two different keys commute. -/
theorem alter_comm (m : StdMap V) {k k' : String} (hk : k ≠ k') (f g : Option V → Option V) :
    (m.alter k f).alter k' g = (m.alter k' g).alter k f := by
  ext j
  by_cases h : j = k <;> by_cases h' : j = k' <;> simp_all [Ne.symm hk]

/-- Two updates of one key commute when their functions do. -/
theorem alter_comm_self (m : StdMap V) (k : String) {f g : Option V → Option V}
    (h : ∀ o, g (f o) = f (g o)) : (m.alter k f).alter k g = (m.alter k g).alter k f := by
  ext j
  by_cases hj : j = k <;> simp [hj, h]

/-- An entry the map iterates over is an entry of the map. -/
theorem mem_items {m : StdMap V} {k : String} {v : V} : (k, v) ∈ m.items ↔ m.find k = some v := by
  simp only [items, List.mem_filterMap, mem_setItems, Option.map_eq_some', Prod.mk.injEq]
  constructor
  · rintro ⟨k', -, v', hv, rfl, rfl⟩; exact hv
  · intro hv
    exact ⟨k, (m.mem_keys k).mpr (by simp [hv]), v, hv, rfl, rfl⟩

/-- A map iterates over each of its keys once. -/
theorem length_items (m : StdMap V) : m.items.length = m.keys.card := by
  rw [items, List.filterMap_length_eq_length.mpr, setItems, Finset.length_sort]
  intro k hk
  simpa using (m.mem_keys k).mp (mem_setItems.mp hk)

end StdMap

end DeribitTrader
