import Mathlib.Data.List.GetD

/-!
# Byte-Addressed Memory

A memory is a total function from addresses to cells. `store m pos xs` writes the list
`xs` at `pos` and the addresses after it; `load m pos n` reads `n` cells from `pos` on.
Cells outside the written range keep their value (`store_of_lt`, `store_of_le`), two
adjacent stores are one store of the concatenation (`store_append`), and what a store
wrote is what a load of the same range reads (`load_store`).

## Convention

Addresses are natural numbers, and there is no end of the memory. Whether an access is within the
block that a program owns is for the program to show: a load outside gives some cell, whatever is
there, just as the machine would. The whole of the contents is a function, so that "for every
content of the block" is a quantifier over functions, and two runs on different contents can be
compared cell by cell. The cells behind a store are as they were, which is all that a reader of
left-over bytes depends on.
-/

/-- A memory of cells of type `α`. -/
abbrev Memory (α : Type*) := ℕ → α

namespace Memory

variable {α : Type*}

/-- Write `xs` at the addresses from `pos` on. -/
def store (m : Memory α) (pos : ℕ) (xs : List α) : Memory α := fun a =>
  if pos ≤ a then xs.getD (a - pos) (m a) else m a

/-- Read `n` cells from `pos` on. -/
def load (m : Memory α) (pos n : ℕ) : List α :=
  (List.range n).map fun i => m (pos + i)

/-- A store does not reach below its first address. -/
theorem store_of_lt (m : Memory α) {pos a : ℕ} (xs : List α) (h : a < pos) :
    m.store pos xs a = m a := by
  rw [store, if_neg (by omega)]

/-- A store does not reach past its last address. -/
theorem store_of_le (m : Memory α) {pos a : ℕ} {xs : List α} (h : pos + xs.length ≤ a) :
    m.store pos xs a = m a := by
  rw [store, if_pos (by omega), List.getD_eq_default _ _ (by omega)]

/-- Inside its range a store puts the cells of the list. -/
theorem store_add (m : Memory α) (pos : ℕ) {xs : List α} {i : ℕ} (h : i < xs.length) :
    m.store pos xs (pos + i) = xs[i] := by
  rw [store, if_pos (by omega), show pos + i - pos = i by omega, List.getD_eq_getElem _ _ h]

@[simp] theorem store_nil (m : Memory α) (pos : ℕ) : m.store pos [] = m := by
  funext a
  by_cases h : a < pos
  · exact store_of_lt m [] h
  · exact store_of_le m (by simpa using h)

/-- Two adjacent stores are one. -/
theorem store_append (m : Memory α) (pos : ℕ) (xs ys : List α) :
    m.store pos (xs ++ ys) = (m.store pos xs).store (pos + xs.length) ys := by
  funext a
  rcases Nat.lt_or_ge a pos with h | h
  · rw [store_of_lt _ _ h, store_of_lt _ _ (by omega), store_of_lt _ _ h]
  obtain ⟨i, rfl⟩ : ∃ i, a = pos + i := ⟨a - pos, by omega⟩
  rcases Nat.lt_or_ge i xs.length with hx | hx
  · rw [store_add _ _ (by rw [List.length_append]; omega), store_of_lt _ _ (by omega),
      store_add _ _ hx, List.getElem_append_left hx]
  · rcases Nat.lt_or_ge i (xs.length + ys.length) with hy | hy
    · obtain ⟨j, rfl⟩ : ∃ j, i = xs.length + j := ⟨i - xs.length, by omega⟩
      have hj : j < ys.length := by omega
      rw [store_add _ _ (by rw [List.length_append]; omega), ← Nat.add_assoc,
        store_add _ _ hj, List.getElem_append_right (by omega)]
      simp
    · rw [store_of_le _ (by rw [List.length_append]; omega), store_of_le _ (by omega),
        store_of_le _ (by omega)]

/-- A store over a store of the same range. -/
theorem store_store (m : Memory α) (pos : ℕ) {xs ys : List α} (h : xs.length = ys.length) :
    (m.store pos xs).store pos ys = m.store pos ys := by
  funext a
  rcases Nat.lt_or_ge a pos with hlt | hge
  · rw [store_of_lt _ _ hlt, store_of_lt _ _ hlt, store_of_lt _ _ hlt]
  obtain ⟨i, rfl⟩ : ∃ i, a = pos + i := ⟨a - pos, by omega⟩
  rcases Nat.lt_or_ge i ys.length with hi | hi
  · rw [store_add _ _ hi, store_add _ _ hi]
  · rw [store_of_le _ (by omega), store_of_le _ (by omega), store_of_le _ (by omega)]

/-- Values are stored one by one. -/
theorem store_cons (m : Memory α) (pos : ℕ) (x : α) (xs : List α) :
    m.store pos (x :: xs) = (m.store pos [x]).store (pos + 1) xs :=
  store_append m pos [x] xs

/-! ### Loads -/

@[simp] theorem length_load (m : Memory α) (pos n : ℕ) : (m.load pos n).length = n := by
  simp [load]

@[simp] theorem load_zero (m : Memory α) (pos : ℕ) : m.load pos 0 = [] := rfl

/-- What is loaded, at its places. -/
theorem getElem_load (m : Memory α) (pos n : ℕ) {i : ℕ} (h : i < (m.load pos n).length) :
    (m.load pos n)[i] = m (pos + i) := by
  simp [load]

/-- A load of a range is a load of its first part and a load of the rest. -/
theorem load_add (m : Memory α) (pos a b : ℕ) :
    m.load pos (a + b) = m.load pos a ++ m.load (pos + a) b := by
  simp only [load, List.range_add, List.map_append, List.map_map, Function.comp_def,
    Nat.add_assoc]

/-- A load of the range that a store wrote reads the list back. -/
theorem load_store (m : Memory α) (pos : ℕ) (xs : List α) :
    (m.store pos xs).load pos xs.length = xs := by
  refine List.ext_getElem (length_load _ _ _) fun i _ hi => ?_
  rw [getElem_load, store_add _ _ hi]

/-- A load reads the second part of a list back. -/
theorem load_store_append (m : Memory α) (pos : ℕ) (xs ys : List α) :
    (m.store pos (xs ++ ys)).load (pos + xs.length) ys.length = ys := by
  rw [store_append, load_store]

/-- A load of a range reads `xs` exactly when its cells are those of `xs`. -/
theorem load_eq_iff {m : Memory α} {pos : ℕ} {xs : List α} :
    m.load pos xs.length = xs ↔ ∀ i (h : i < xs.length), m (pos + i) = xs[i] := by
  constructor
  · intro h i hi
    have hget : (m.load pos xs.length)[i]? = xs[i]? := by rw [h]
    rw [List.getElem?_eq_getElem (by rwa [length_load]), List.getElem?_eq_getElem hi,
      Option.some.injEq, getElem_load] at hget
    exact hget
  · intro h
    refine List.ext_getElem (length_load _ _ _) fun i _ hi => ?_
    rw [getElem_load, h i hi]

end Memory
