import Mathlib.Data.List.Basic

/-!
# Streams that Arrive in Segments

A finite stream that arrives in pieces is the list of its segments; an empty segment is a
moment at which nothing has arrived. One read takes at most `n` elements, and never more
than what is left of the first segment (`read`). Whatever the reader asks for, what it has
taken and what it has not taken are together the stream (`read_flatten`), and the places
at which segments end do not move (`endsAt_read`): a read that gets less than it asked for
stops at such a place (`endsAt_length_read`), and no read crosses one (`length_read_le_of_endsAt`).

The segments are what the network makes of a stream, and the reader has no say in them. A statement
about every way in which the bytes may arrive is therefore one for all lists of segments that have
the stream as their concatenation, the empty segments included: a read from one of these gets
nothing and takes the empty segment away, as a call that has to be made again does. That no read
goes on into the next segment is no loss, since the reader can ask again at once.
-/

namespace Segments

variable {α : Type*}

/-- One read of at most `n` elements, with the segments that are left. -/
def read (n : ℕ) : List (List α) → List α × List (List α)
  | [] => ([], [])
  | s :: segs => (s.take n, if n < s.length then s.drop n :: segs else segs)

/-- A segment ends behind the first `k` elements of the stream, or the stream does. -/
def EndsAt : List (List α) → ℕ → Prop
  | [], k => k = 0
  | s :: segs, k => k = 0 ∨ s.length ≤ k ∧ EndsAt segs (k - s.length)

instance decidableEndsAt : ∀ (segs : List (List α)) (k : ℕ), Decidable (EndsAt segs k)
  | [], k => inferInstanceAs (Decidable (k = 0))
  | s :: segs, k =>
      have := decidableEndsAt segs (k - s.length)
      inferInstanceAs (Decidable (k = 0 ∨ s.length ≤ k ∧ EndsAt segs (k - s.length)))

@[simp] theorem endsAt_zero (segs : List (List α)) : EndsAt segs 0 := by
  cases segs with
  | nil => rfl
  | cons s segs => exact Or.inl rfl

/-- A read takes a prefix of the stream and leaves the rest. -/
theorem read_flatten (n : ℕ) (segs : List (List α)) :
    (read n segs).1 ++ (read n segs).2.flatten = segs.flatten := by
  cases segs with
  | nil => rfl
  | cons s segs =>
      simp only [read, List.flatten_cons]
      split
      · rw [List.flatten_cons, ← List.append_assoc, List.take_append_drop]
      · rw [List.take_of_length_le (by omega)]

/-- No call returns more than it is asked for. -/
theorem length_read_le (n : ℕ) (segs : List (List α)) : (read n segs).1.length ≤ n := by
  cases segs with
  | nil => exact Nat.zero_le n
  | cons s segs => exact List.length_take_le n s

/-- Reading does not move the ends of the segments. -/
theorem endsAt_read (n : ℕ) (segs : List (List α)) {k : ℕ} (hk : 0 < k) :
    EndsAt (read n segs).2 k ↔ EndsAt segs ((read n segs).1.length + k) := by
  cases segs with
  | nil => simp [read, EndsAt]
  | cons s segs =>
      simp only [read, List.length_take, EndsAt]
      split
      · rename_i hlt
        rw [EndsAt, List.length_drop, Nat.min_eq_left (by omega),
          show n + k - s.length = k - (s.length - n) by omega]
        exact or_congr (by omega) (and_congr_left' (by omega))
      · rename_i hge
        rw [Nat.min_eq_right (by omega), Nat.add_sub_cancel_left]
        constructor
        · intro h
          exact Or.inr ⟨Nat.le_add_right _ _, h⟩
        · rintro (h | ⟨-, h⟩)
          · omega
          · exact h

/-- A read that gets less than it asked for stops where a segment ends. -/
theorem endsAt_length_read {n : ℕ} {segs : List (List α)}
    (h : (read n segs).1.length < n) : EndsAt segs (read n segs).1.length := by
  cases segs with
  | nil => rfl
  | cons s segs =>
      simp only [read, List.length_take] at h ⊢
      rw [Nat.min_eq_right (by omega)]
      exact Or.inr ⟨Nat.le_refl _, by rw [Nat.sub_self]; exact endsAt_zero segs⟩

/-- No read crosses the end of a segment. -/
theorem length_read_le_of_endsAt (n : ℕ) {segs : List (List α)} {k : ℕ} (hk : 0 < k)
    (h : EndsAt segs k) : (read n segs).1.length ≤ k := by
  cases segs with
  | nil => exact Nat.zero_le k
  | cons s segs =>
      rcases h with h | ⟨hle, -⟩
      · omega
      · exact Nat.le_trans (List.length_take_le' n s) hle

/-! ### Streams that start with a known part -/

/-- What is taken from a stream that starts with `xs`, if it is no more than `xs`. -/
theorem exists_eq_append_of_length_le {taken left xs rest : List α}
    (h : taken ++ left = xs ++ rest) (hle : taken.length ≤ xs.length) :
    ∃ more, xs = taken ++ more ∧ left = more ++ rest := by
  obtain ⟨more, rfl⟩ := List.prefix_of_prefix_length_le (List.prefix_append taken left)
    (h ▸ List.prefix_append xs rest) hle
  rw [List.append_assoc] at h
  exact ⟨more, rfl, List.append_cancel_left h⟩

/-- The next part of a list, behind its first `k` elements. -/
theorem take_append_of_drop_eq {xs taken more : List α} {k : ℕ}
    (h : xs.drop k = taken ++ more) : xs.take k ++ taken = xs.take (k + taken.length) := by
  rw [List.take_add, h, List.take_left]

/-- What is left behind what has been taken. -/
theorem drop_add_of_drop_eq {xs taken more : List α} {k : ℕ}
    (h : xs.drop k = taken ++ more) : xs.drop (k + taken.length) = more := by
  rw [← List.drop_drop, h, List.drop_left]

/-! ### Progress -/

/-- What is left of the reads: one for every element and one for every segment. -/
def weight (segs : List (List α)) : ℕ := segs.length + segs.flatten.length

/-- Every read of a stream that has not ended makes progress. -/
theorem weight_read_lt {n : ℕ} (hn : 0 < n) {segs : List (List α)} (h : segs ≠ []) :
    weight (read n segs).2 < weight segs := by
  cases segs with
  | nil => exact absurd rfl h
  | cons s segs =>
      simp only [read, weight, List.flatten_cons, List.length_append, List.length_cons]
      split
      · simp only [List.flatten_cons, List.length_append, List.length_cons, List.length_drop]
        omega
      · omega

/-! ### Segments that have arrived -/

/-- All segments have arrived: none is a moment at which nothing has. -/
def Arrived (segs : List (List α)) : Prop := ∀ s ∈ segs, s ≠ []

/-- Nothing has arrived. -/
theorem arrived_nil : Arrived ([] : List (List α)) := by
  intro s hs
  cases hs

/-- Another segment arrives. -/
theorem Arrived.append {segs : List (List α)} {s : List α} (h : Arrived segs) (hs : s ≠ []) :
    Arrived (segs ++ [s]) := by
  intro t ht
  rcases List.mem_append.mp ht with ht | ht
  · exact h t ht
  · rwa [List.mem_singleton.mp ht]

/-- What a call leaves has still arrived. -/
theorem Arrived.read {segs : List (List α)} (h : Arrived segs) (n : ℕ) :
    Arrived (read n segs).2 := by
  cases segs with
  | nil => exact h
  | cons s segs =>
      intro t ht
      simp only [Segments.read] at ht
      split at ht
      · rename_i hlt
        rcases List.mem_cons.mp ht with rfl | ht
        · exact List.ne_nil_of_length_pos (by rw [List.length_drop]; omega)
        · exact h t (List.mem_cons_of_mem s ht)
      · exact h t (List.mem_cons_of_mem s ht)

/-- A read of what has arrived takes something. -/
theorem Arrived.read_ne_nil {segs : List (List α)} (h : Arrived segs) (hne : segs ≠ []) {n : ℕ}
    (hn : 0 < n) : (Segments.read n segs).1 ≠ [] := by
  cases segs with
  | nil => exact absurd rfl hne
  | cons s segs =>
      have hs := List.length_pos_of_ne_nil (h s List.mem_cons_self)
      exact List.ne_nil_of_length_pos (by simp only [Segments.read, List.length_take]; omega)

/-- A read of what has arrived leaves less. -/
theorem Arrived.length_flatten_read_lt {segs : List (List α)} (h : Arrived segs)
    (hne : segs ≠ []) {n : ℕ} (hn : 0 < n) :
    (Segments.read n segs).2.flatten.length < segs.flatten.length := by
  have hpos := List.length_pos_of_ne_nil (h.read_ne_nil hne hn)
  rw [← read_flatten n segs, List.length_append]
  omega

/-! ### Having read a part of the stream -/

/-- `segs'` is what is left of `segs` behind the elements `taken`. -/
structure Advances (segs : List (List α)) (taken : List α) (segs' : List (List α)) : Prop where
  flatten_eq : taken ++ segs'.flatten = segs.flatten
  endsAt_iff : ∀ {k}, 0 < k → (EndsAt segs' k ↔ EndsAt segs (taken.length + k))

/-- Nothing is taken. -/
theorem Advances.refl (segs : List (List α)) : Advances segs [] segs where
  flatten_eq := rfl
  endsAt_iff := by simp

/-- What is taken in two calls is taken one part behind the other. -/
theorem Advances.trans {segs₁ segs₂ segs₃ : List (List α)} {xs ys : List α}
    (h₁ : Advances segs₁ xs segs₂) (h₂ : Advances segs₂ ys segs₃) :
    Advances segs₁ (xs ++ ys) segs₃ where
  flatten_eq := by rw [List.append_assoc, h₂.flatten_eq, h₁.flatten_eq]
  endsAt_iff := by
    intro k hk
    rw [h₂.endsAt_iff hk, h₁.endsAt_iff (by omega), List.length_append, Nat.add_assoc]

/-- A place that the reads have not passed: a segment ends there afterwards if it did before,
provided that one does where the reads have come to it. -/
theorem Advances.endsAt_sub_iff {segs segs' : List (List α)} {taken : List α} {n : ℕ}
    (h : Advances segs taken segs') (hle : taken.length ≤ n)
    (hstop : taken.length = n → EndsAt segs taken.length) :
    EndsAt segs' (n - taken.length) ↔ EndsAt segs n := by
  rcases Nat.lt_or_eq_of_le hle with hlt | heq
  · rw [h.endsAt_iff (Nat.sub_pos_of_lt hlt), Nat.add_sub_cancel' hle]
  · have hends := hstop heq
    rw [heq] at hends
    rw [heq, Nat.sub_self]
    exact iff_of_true (endsAt_zero segs') hends

/-- A call takes what it returns. -/
theorem advances_read (n : ℕ) (segs : List (List α)) :
    Advances segs (read n segs).1 (read n segs).2 where
  flatten_eq := read_flatten n segs
  endsAt_iff := endsAt_read n segs

/-- What is taken and what is left add up. -/
theorem Advances.length_flatten {segs segs' : List (List α)} {taken : List α}
    (h : Advances segs taken segs') :
    taken.length + segs'.flatten.length = segs.flatten.length := by
  rw [← h.flatten_eq, List.length_append]

end Segments
