import Mathlib.Algebra.BigOperators.Group.Finset.Basic
import Mathlib.Data.Fintype.Basic
import Yijian.Lib.Runs

/-!
# Rounds

The steps of several threads come in any order, but in every round each thread takes one at least.
There is an amount of work, which no step adds to; a thread that helps takes from it with its next
step, and no step of another thread that leaves the work as it is keeps it from that. As long as
there is work, some thread helps.

## Convention

Fairness is a property of the list of steps, not of an infinite run: a round is a stretch of steps
in which each thread appears, in any order and as often as it likes, and a run of `n` rounds is `n`
such stretches. The number of rounds is bounded by the work of the state the run starts in, so a
caller gets a bound and not only an end. Steps that do nothing are allowed, and they are most of
the steps of a thread that waits. What has to be shown of a program is small: the work does not go
up, a helper stays a helper until the work has gone down, and there is a helper as long as there is
work.

## Main results

* `Rounds.drains`: after as many rounds as there is work, there is none.
* `sum_change`: work that is a sum over the threads, after a step of one of them.
-/

namespace Runs

variable {σ ε : Type*}

/-- `n` rounds, in each of which every one of `turns` occurs, with events of `P` only. -/
inductive Rounds (turns : List ε) (P : ε → Prop) : ℕ → List ε → Prop
  | last {es} (hP : ∀ e ∈ es, P e) : Rounds turns P 0 es
  | round {n es es'} (hturns : ∀ e ∈ turns, e ∈ es) (hP : ∀ e ∈ es, P e)
      (hrest : Rounds turns P n es') : Rounds turns P (n + 1) (es ++ es')

/-- Turn after turn is a run in rounds. -/
theorem rounds_replicate {turns : List ε} {P : ε → Prop} (hP : ∀ e ∈ turns, P e) (n : ℕ) :
    Rounds turns P n (List.replicate n turns).flatten := by
  induction n with
  | zero => exact .last fun _ he => absurd he List.not_mem_nil
  | succ n ih =>
      rw [List.replicate_succ, List.flatten_cons]
      exact .round (fun _ he => he) hP ih

/-- What the work of a system depends on: `Helps s e` says that the thread of the turn `e` takes
from the work that there is in `s`. -/
structure Work (step : σ → ε → σ) (turns : List ε) (P : ε → Prop) where
  inv : σ → Prop
  work : σ → ℕ
  Helps : σ → ε → Prop
  inv_step : ∀ {s e}, inv s → P e → inv (step s e)
  helps_lt : ∀ {s e}, inv s → P e → Helps s e → work (step s e) < work s
  work_eq : ∀ {s e}, inv s → P e → ¬ Helps s e → work (step s e) = work s
  helps_step : ∀ {s e e'}, inv s → P e → ¬ Helps s e → Helps s e' → Helps (step s e) e'
  exists_helps : ∀ {s}, inv s → work s ≠ 0 → ∃ e ∈ turns, Helps s e

variable {step : σ → ε → σ} {turns : List ε} {P : ε → Prop}

namespace Work

variable (W : Work step turns P)

/-- A run keeps the invariant of the work. -/
theorem inv_foldl {s : σ} (hs : W.inv s) {es : List ε} (hP : ∀ e ∈ es, P e) :
    W.inv (es.foldl step s) := by
  induction es generalizing s with
  | nil => exact hs
  | cons e es ih =>
      rw [List.forall_mem_cons] at hP
      exact ih (W.inv_step hs hP.1) hP.2

/-- No step makes work. -/
theorem work_step_le {s : σ} (hs : W.inv s) {e : ε} (he : P e) :
    W.work (step s e) ≤ W.work s := by
  by_cases hhelps : W.Helps s e
  · exact (W.helps_lt hs he hhelps).le
  · exact (W.work_eq hs he hhelps).le

/-- No steps add to the work. -/
theorem work_foldl_le {s : σ} (hs : W.inv s) {es : List ε} (hP : ∀ e ∈ es, P e) :
    W.work (es.foldl step s) ≤ W.work s := by
  induction es generalizing s with
  | nil => exact le_rfl
  | cons e es ih =>
      rw [List.forall_mem_cons] at hP
      exact (ih (W.inv_step hs hP.1) hP.2).trans (W.work_step_le hs hP.1)

/-- **A round** in which a thread has its turn that helps takes from the work. -/
theorem work_foldl_lt {s : σ} (hs : W.inv s) {es : List ε} (hP : ∀ e ∈ es, P e) {e : ε}
    (he : e ∈ es) (hhelps : W.Helps s e) : W.work (es.foldl step s) < W.work s := by
  induction es generalizing s with
  | nil => cases he
  | cons e' es ih =>
      rw [List.forall_mem_cons] at hP
      have hs' := W.inv_step hs hP.1
      by_cases hhelps' : W.Helps s e'
      · exact (W.work_foldl_le hs' hP.2).trans_lt (W.helps_lt hs hP.1 hhelps')
      · -- the thread that helps has its turn behind this one, and still helps then
        have hmem : e ∈ es := by
          rcases List.mem_cons.mp he with rfl | hmem
          · exact absurd hhelps hhelps'
          · exact hmem
        have hlt := ih hs' hP.2 hmem (W.helps_step hs hP.1 hhelps' hhelps)
        exact hlt.trans_eq (W.work_eq hs hP.1 hhelps')

end Work

/-- Work that is a sum, after the change of one summand. -/
theorem sum_change {κ : Type*} [Fintype κ] (k : κ) {f g : κ → ℕ} (h : ∀ j, j ≠ k → f j = g j) :
    ∑ j, f j + g k = ∑ j, g j + f k := by
  classical
  have hrest : ∑ j ∈ Finset.univ.erase k, f j = ∑ j ∈ Finset.univ.erase k, g j :=
    Finset.sum_congr rfl fun j hj => h j (Finset.ne_of_mem_erase hj)
  rw [← Finset.sum_erase_add _ f (Finset.mem_univ k), hrest,
    ← Finset.sum_erase_add _ g (Finset.mem_univ k), Nat.add_right_comm]

/-- **After as many rounds** as there is work, there is none. -/
theorem Rounds.drains (W : Work step turns P) {s : σ} (hs : W.inv s) {n : ℕ} {es : List ε}
    (h : Rounds turns P n es) (hn : W.work s ≤ n) :
    W.inv (es.foldl step s) ∧ W.work (es.foldl step s) = 0 := by
  induction h generalizing s with
  | last hP => exact ⟨W.inv_foldl hs hP, Nat.le_zero.mp ((W.work_foldl_le hs hP).trans hn)⟩
  | @round n es es' hturns hP _ ih =>
      rw [List.foldl_append]
      refine ih (W.inv_foldl hs hP) ?_
      by_cases hzero : W.work s = 0
      · exact (W.work_foldl_le hs hP).trans (hzero.le.trans (Nat.zero_le n))
      · obtain ⟨e, he, hhelps⟩ := W.exists_helps hs hzero
        have hlt := W.work_foldl_lt hs hP (hturns e he) hhelps
        exact Nat.lt_succ_iff.mp (hlt.trans_le hn)

end Runs
