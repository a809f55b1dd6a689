import Mathlib.Data.List.Basic

/-!
# Loops that Test at the End

One turn of a loop leads to the state of the next turn or leaves the loop with a result.
`Leaves turn s visited r` says that the loop is left with `r` when it is entered in `s`,
and that `visited` are the states in which its turns started. A function that takes the turns
on fuel computes the result as soon as the fuel is not less than their number
(`Leaves.fuel_eq`).

`eraseLoop` goes over a list by an index and erases what a test does not keep, without
moving the index. Where the test does not fail it is a filter (`eraseLoop_eq`).

## Convention

A loop that tests at its end takes one turn at least, so the first state is always visited. Fuel
counts turns. It is a means to define the function, and no result depends on it: `Leaves` is a
relation of its own, without fuel, and carries the visited states, so that what a turn looks at can
be summed over the loop. The condition on the fuel is an inequality with the number of these
states, which is how a caller shows that the fuel of a definition was enough.
-/

namespace Loops

variable {σ ρ : Type*} {turn : σ → σ ⊕ ρ}

/-- The loop that is entered in `s` is left with `r`. -/
inductive Leaves (turn : σ → σ ⊕ ρ) : σ → List σ → ρ → Prop
  | leave {s : σ} {r : ρ} (h : turn s = .inr r) : Leaves turn s [s] r
  | again {s s' : σ} {visited : List σ} {r : ρ} (h : turn s = .inl s')
      (hrest : Leaves turn s' visited r) : Leaves turn s (s :: visited) r

/-- A function that takes one turn for a unit of fuel. -/
theorem Leaves.fuel_eq {f : ℕ → σ → ρ}
    (hf : ∀ fuel s, f (fuel + 1) s = (turn s).elim (f fuel) id) {s : σ} {visited : List σ}
    {r : ρ} (h : Leaves turn s visited r) {fuel : ℕ} (hfuel : visited.length ≤ fuel) :
    f fuel s = r := by
  induction h generalizing fuel with
  | leave hturn =>
      obtain ⟨k, rfl⟩ := Nat.exists_eq_succ_of_ne_zero (Nat.ne_of_gt hfuel)
      rw [hf, hturn]
      rfl
  | again hturn _ ih =>
      obtain ⟨k, rfl⟩ := Nat.exists_eq_succ_of_ne_zero
        (Nat.ne_of_gt (Nat.lt_of_lt_of_le (Nat.zero_lt_succ _) hfuel))
      rw [hf, hturn]
      exact ih (Nat.le_of_succ_le_succ hfuel)

/-! ### Erasing while iterating -/

variable {α ε : Type*}

/-- Go over `xs` from the index `it` on: what is kept is passed over, and what is not is
erased, with the next element in its place. -/
def eraseLoop (keep : α → Except ε Bool) : ℕ → List α → ℕ → Except ε (List α)
  | 0, xs, _ => .ok xs
  | fuel + 1, xs, it =>
      match xs[it]? with
      | none => .ok xs
      | some x =>
          match keep x with
          | .error e => .error e
          | .ok true => eraseLoop keep fuel xs (it + 1)
          | .ok false => eraseLoop keep fuel (xs.eraseIdx it) it

/-- **The loop is a filter** of what is in front of it; a turn takes one element of it. -/
theorem eraseLoop_eq {keep : α → Except ε Bool} {p : α → Bool} (before rest : List α)
    (hkeep : ∀ x ∈ rest, keep x = .ok (p x)) {fuel : ℕ} (hfuel : rest.length ≤ fuel) :
    eraseLoop keep fuel (before ++ rest) before.length = .ok (before ++ rest.filter p) := by
  induction rest generalizing before fuel with
  | nil =>
      have hend : (before ++ ([] : List α))[before.length]? = none := by simp
      cases fuel with
      | zero => rfl
      | succ fuel => rw [eraseLoop, hend, List.filter_nil]
  | cons x rest ih =>
      obtain ⟨fuel, rfl⟩ : ∃ k, fuel = k + 1 :=
        Nat.exists_eq_succ_of_ne_zero (Nat.ne_of_gt (Nat.lt_of_lt_of_le (Nat.zero_lt_succ _) hfuel))
      have hrest : ∀ y ∈ rest, keep y = .ok (p y) :=
        fun y hy => hkeep y (List.mem_cons_of_mem x hy)
      have hget : (before ++ x :: rest)[before.length]? = some x := by simp
      have hle : rest.length ≤ fuel := Nat.le_of_succ_le_succ hfuel
      rw [eraseLoop, hget]
      simp only [hkeep x List.mem_cons_self]
      cases hp : p x with
      | true =>
          have hloop := ih (before ++ [x]) hrest hle
          rw [List.append_assoc, List.singleton_append, List.length_append,
            List.length_singleton] at hloop
          simp only [hloop, List.filter_cons, hp, if_true]
          rw [List.append_assoc, List.singleton_append]
      | false =>
          have herase : (before ++ x :: rest).eraseIdx before.length = before ++ rest := by
            rw [List.eraseIdx_append_of_length_le (Nat.le_refl _), Nat.sub_self,
              List.eraseIdx_cons_zero]
          simp only [herase, ih before hrest hle, List.filter_cons, hp]
          rfl

/-- Two filters of a list are equal exactly if they keep the same elements. -/
theorem filter_eq_filter_iff {p q : α → Bool} {xs : List α} :
    xs.filter p = xs.filter q ↔ ∀ x ∈ xs, p x = q x := by
  constructor
  · intro h x hx
    have hmem : x ∈ xs.filter p ↔ x ∈ xs.filter q := by rw [h]
    rw [List.mem_filter, List.mem_filter, and_iff_right hx, and_iff_right hx] at hmem
    exact Bool.eq_iff_iff.mpr hmem
  · exact List.filter_congr

end Loops
