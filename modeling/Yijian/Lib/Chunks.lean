import Mathlib.Algebra.GroupWithZero.Nat
import Mathlib.Data.List.Basic

/-!
# Cutting a List into Chunks

`chunks m xs` cuts `xs` into pieces of `m` elements and a last piece of at most `m`; the
empty list is one empty piece. The pieces put together are the list (`flatten_chunks`),
none is longer than `m` (`length_le_of_mem_chunks`), and their number is the quotient
rounded up, but at least one (`length_chunks`).

A sender that starts over for every piece puts beginnings of the list in a row instead;
`flatMap_take_eq_drop_iff` says when these are the list all the same.

The two ways of cutting are here side by side because a program may do either: the one moves on in
the list after every piece, the other counts the pieces down and forgets to move on. Both send the
same number of elements, in pieces of the same lengths, so that nothing but the contents can tell
them apart. The equivalence is between the whole concatenations; where all pieces have to agree one
by one, it is enough to look at them behind the ones before.
-/

namespace Chunks

variable {α : Type*} {m : ℕ}

/-- The pieces of `xs`, with one turn for every piece. -/
def chunksFuel (m : ℕ) : ℕ → List α → List (List α)
  | 0, xs => [xs]
  | fuel + 1, xs =>
      if xs.length ≤ m then [xs] else xs.take m :: chunksFuel m fuel (xs.drop m)

/-- The pieces of `xs`. -/
def chunks (m : ℕ) (xs : List α) : List (List α) := chunksFuel m xs.length xs

/-- Fuel for each element is enough. -/
theorem chunksFuel_eq (hm : 0 < m) {fuel k : ℕ} {xs : List α} (h : xs.length ≤ fuel)
    (h' : xs.length ≤ k) : chunksFuel m fuel xs = chunksFuel m k xs := by
  induction fuel generalizing k xs with
  | zero =>
      obtain rfl := List.length_eq_zero_iff.mp (Nat.le_zero.mp h)
      cases k with
      | zero => rfl
      | succ k => rw [chunksFuel, chunksFuel, if_pos (by rw [List.length_nil]; omega)]
  | succ fuel ih =>
      cases k with
      | zero =>
          obtain rfl := List.length_eq_zero_iff.mp (Nat.le_zero.mp h')
          rw [chunksFuel, chunksFuel, if_pos (by rw [List.length_nil]; omega)]
      | succ k =>
          rw [chunksFuel, chunksFuel]
          split
          · rfl
          · rw [ih (k := k) (by rw [List.length_drop]; omega)
              (by rw [List.length_drop]; omega)]

/-- The equation of the cut. -/
theorem chunks_eq (hm : 0 < m) (xs : List α) :
    chunks m xs = if xs.length ≤ m then [xs] else xs.take m :: chunks m (xs.drop m) := by
  by_cases h : xs.length ≤ m
  · rw [if_pos h, chunks]
    cases hlen : xs.length with
    | zero => rfl
    | succ n => rw [chunksFuel, if_pos h]
  · obtain ⟨n, hn⟩ : ∃ n, xs.length = n + 1 := ⟨xs.length - 1, by omega⟩
    rw [if_neg h, chunks, chunks, hn, chunksFuel, if_neg h,
      chunksFuel_eq hm (k := (xs.drop m).length) (by rw [List.length_drop]; omega)
        (Nat.le_refl _)]

/-- The induction rule of the cut: a property of the last piece that also holds of a list
if it holds of what is left behind its first piece. -/
theorem chunks_induction (hm : 0 < m) {P : List α → Prop}
    (hlast : ∀ xs, xs.length ≤ m → P xs)
    (hcut : ∀ xs, m < xs.length → P (xs.drop m) → P xs) (xs : List α) : P xs := by
  induction hn : xs.length using Nat.strongRecOn generalizing xs with
  | ind n ih =>
      rcases Nat.lt_or_ge m xs.length with h | h
      · exact hcut xs h (ih _ (by rw [← hn, List.length_drop]; omega) _ rfl)
      · exact hlast xs h

/-- Even nothing makes a chunk. -/
theorem chunks_ne_nil (hm : 0 < m) (xs : List α) : chunks m xs ≠ [] := by
  rw [chunks_eq hm]
  split <;> simp

/-- The pieces put together are the list. -/
theorem flatten_chunks (hm : 0 < m) (xs : List α) : (chunks m xs).flatten = xs := by
  induction xs using chunks_induction hm with
  | hlast xs h => rw [chunks_eq hm, if_pos h, List.flatten_singleton]
  | hcut xs h ih =>
      rw [chunks_eq hm, if_neg (by omega), List.flatten_cons, ih, List.take_append_drop]

/-- No piece is longer than `m`. -/
theorem length_le_of_mem_chunks (hm : 0 < m) {xs c : List α} (hc : c ∈ chunks m xs) :
    c.length ≤ m := by
  induction xs using chunks_induction hm with
  | hlast xs h =>
      rw [chunks_eq hm, if_pos h] at hc
      rwa [List.mem_singleton.mp hc]
  | hcut xs h ih =>
      rw [chunks_eq hm, if_neg (by omega)] at hc
      rcases List.mem_cons.mp hc with rfl | hc
      · exact List.length_take_le m xs
      · exact ih hc

/-- The number of the pieces is the quotient rounded up, but at least one. -/
theorem length_chunks (hm : 0 < m) (xs : List α) :
    (chunks m xs).length = max 1 ((xs.length + (m - 1)) / m) := by
  induction xs using chunks_induction hm with
  | hlast xs h =>
      have hle : (xs.length + (m - 1)) / m ≤ 1 :=
        Nat.lt_succ_iff.mp (Nat.div_lt_of_lt_mul (by omega))
      rw [chunks_eq hm, if_pos h, List.length_singleton, Nat.max_eq_left hle]
  | hcut xs h ih =>
      have hdiv : (xs.length + (m - 1)) / m = (xs.length - m + (m - 1)) / m + 1 := by
        rw [show xs.length + (m - 1) = xs.length - m + (m - 1) + m by omega,
          Nat.add_div_right _ hm]
      have hpos : 1 ≤ (xs.length - m + (m - 1)) / m := Nat.div_pos (by omega) hm
      rw [chunks_eq hm, if_neg (by omega), List.length_cons, ih, List.length_drop, hdiv,
        Nat.max_eq_right hpos, Nat.max_eq_right (by omega)]

/-! ### Beginnings put in a row -/

/-- Beginnings of `xs` of the lengths `ns`, put in a row, are the elements from `k` on
exactly if each of them agrees with `xs` at its own place. -/
theorem flatMap_take_eq_drop_iff (xs : List α) (ns : List ℕ) {k : ℕ}
    (h : k + ns.sum ≤ xs.length) :
    (ns.flatMap fun n => xs.take n) = (xs.drop k).take ns.sum ↔
      ∀ before n after, ns = before ++ n :: after →
        (xs.drop (k + before.sum)).take n = xs.take n := by
  induction ns generalizing k with
  | nil => simp
  | cons n ns ih =>
      rw [List.sum_cons] at h ⊢
      have hlen : (xs.take n).length = ((xs.drop k).take n).length := by
        rw [List.length_take, List.length_take, List.length_drop]
        omega
      rw [List.flatMap_cons, List.take_add, List.drop_drop]
      constructor
      · intro heq before m after hsplit
        obtain ⟨hfirst, hrest⟩ := List.append_inj heq hlen
        rw [ih (by omega)] at hrest
        cases before with
        | nil =>
            obtain ⟨rfl, -⟩ := List.cons_eq_cons.mp hsplit
            exact hfirst.symm
        | cons m' before =>
            obtain ⟨rfl, htail⟩ := List.cons_eq_cons.mp hsplit
            rw [List.sum_cons, ← Nat.add_assoc]
            exact hrest before m after htail
      · intro hall
        have hfirst : xs.take n = (xs.drop k).take n := (hall [] n ns rfl).symm
        have hrest : (ns.flatMap fun n => xs.take n) = (xs.drop (k + n)).take ns.sum := by
          rw [ih (by omega)]
          intro before m after hsplit
          rw [Nat.add_assoc, ← List.sum_cons]
          exact hall (n :: before) m after (by rw [hsplit]; rfl)
        rw [hfirst, hrest]

end Chunks
