import Mathlib.Algebra.GroupWithZero.Nat
import Mathlib.Data.List.Infix

/-!
# Runs of a Deterministic Step Function

A system is a step function `step : σ → ε → σ`: the event carries every choice that the
environment makes, and an event that is not enabled leaves the state as it is. A run is
the left fold of the step function over its list of events.

* `StepsMeet step P s es`: every step of the run meets `P`, a condition on the state
  before the step and on its event.
* `Always step Q s es`: `Q` holds in every state the run reaches, the first one included.

## Convention

What the environment chooses is in the event and nothing is chosen elsewhere, so a run is
determined by its events. Every interleaving of threads is some list, and a statement for all
lists is one for all interleavings. A condition on a step may look at the state before it, which
is what makes a condition of runs out of one of steps: it is asked again in every state that the
run passes through. Nothing is said of infinite runs.

## Main results

* `inv_foldl`: the induction rule — an invariant that every step meeting `P` preserves
  holds at the end of every run whose steps all meet `P`.
* `always_of_stepsMeet`: the same for every state on the way.
* `always_iff_stepsMeet`: where `P` is exactly what a step needs to keep `Q`, the runs
  that stay in `Q` are exactly the runs whose steps all meet `P`.
-/

namespace Runs

variable {σ ε : Type*} {step : σ → ε → σ}

/-- Every step of the run meets `P` on the state before the step and the event. -/
def StepsMeet (step : σ → ε → σ) (P : σ → ε → Prop) : σ → List ε → Prop
  | _, [] => True
  | s, e :: es => P s e ∧ StepsMeet step P (step s e) es

/-- `Q` holds in every state that the run reaches. -/
def Always (step : σ → ε → σ) (Q : σ → Prop) (s : σ) (es : List ε) : Prop :=
  ∀ es₁ es₂, es = es₁ ++ es₂ → Q (es₁.foldl step s)

instance decidableStepsMeet (P : σ → ε → Prop) [∀ s e, Decidable (P s e)] :
    ∀ (s : σ) (es : List ε), Decidable (StepsMeet step P s es)
  | _, [] => inferInstanceAs (Decidable True)
  | s, e :: es =>
      have := decidableStepsMeet P (step s e) es
      inferInstanceAs (Decidable (P s e ∧ StepsMeet step P (step s e) es))

@[simp] theorem stepsMeet_nil (P : σ → ε → Prop) (s : σ) : StepsMeet step P s [] :=
  trivial

@[simp] theorem stepsMeet_cons {P : σ → ε → Prop} {s : σ} {e : ε} {es : List ε} :
    StepsMeet step P s (e :: es) ↔ P s e ∧ StepsMeet step P (step s e) es :=
  Iff.rfl

/-- The steps of a run in two parts are the steps of the first part and the steps of the
second from where the first ends. -/
theorem stepsMeet_append {P : σ → ε → Prop} {s : σ} {es₁ es₂ : List ε} :
    StepsMeet step P s (es₁ ++ es₂) ↔
      StepsMeet step P s es₁ ∧ StepsMeet step P (es₁.foldl step s) es₂ := by
  induction es₁ generalizing s with
  | nil => simp
  | cons e es₁ ih =>
      rw [List.cons_append, stepsMeet_cons, ih, stepsMeet_cons, List.foldl_cons, and_assoc]

/-- A weaker condition is met by more runs. -/
theorem StepsMeet.mono {P P' : σ → ε → Prop} (hPP' : ∀ s e, P s e → P' s e) {s : σ}
    {es : List ε} (h : StepsMeet step P s es) : StepsMeet step P' s es := by
  induction es generalizing s with
  | nil => trivial
  | cons e es ih => exact ⟨hPP' s e h.1, ih h.2⟩

/-- Every run meets the trivial condition. -/
theorem stepsMeet_true (s : σ) (es : List ε) : StepsMeet step (fun _ _ => True) s es := by
  induction es generalizing s with
  | nil => trivial
  | cons e es ih => exact ⟨trivial, ih _⟩

/-- A condition on the events alone. -/
theorem stepsMeet_of_forall {R : ε → Prop} {s : σ} {es : List ε} (h : ∀ e ∈ es, R e) :
    StepsMeet step (fun _ e => R e) s es := by
  induction es generalizing s with
  | nil => trivial
  | cons e es ih =>
      exact ⟨h e List.mem_cons_self, ih fun e' he' => h e' (List.mem_cons_of_mem e he')⟩

/-- **The induction rule for runs.** -/
theorem inv_foldl {P : σ → ε → Prop} {I : σ → Prop}
    (hstep : ∀ s e, I s → P s e → I (step s e)) {s : σ} {es : List ε}
    (h0 : I s) (h : StepsMeet step P s es) : I (es.foldl step s) := by
  induction es generalizing s with
  | nil => exact h0
  | cons e es ih => exact ih (hstep s e h0 h.1) h.2

/-- The induction rule for an invariant that every step preserves. -/
theorem inv_foldl_of_step {I : σ → Prop} (hstep : ∀ s e, I s → I (step s e)) {s : σ}
    (es : List ε) (h0 : I s) : I (es.foldl step s) :=
  inv_foldl (fun s e hs _ => hstep s e hs) h0 (stepsMeet_true s es)

/-- What always holds holds at the start. -/
theorem Always.head {Q : σ → Prop} {s : σ} {es : List ε} (h : Always step Q s es) : Q s :=
  h [] es rfl

/-- What always holds holds at the end. -/
theorem Always.last {Q : σ → Prop} {s : σ} {es : List ε} (h : Always step Q s es) :
    Q (es.foldl step s) :=
  h es [] (List.append_nil es).symm

/-- The empty run. -/
theorem always_nil {Q : σ → Prop} {s : σ} : Always step Q s [] ↔ Q s := by
  constructor
  · exact Always.head
  · intro hQ es₁ es₂ heq
    obtain ⟨rfl, -⟩ := List.append_eq_nil_iff.mp heq.symm
    exact hQ

/-- What always holds of a run holds at its start and of the rest. -/
theorem always_cons {Q : σ → Prop} {s : σ} {e : ε} {es : List ε} :
    Always step Q s (e :: es) ↔ Q s ∧ Always step Q (step s e) es := by
  constructor
  · intro h
    refine ⟨h.head, fun es₁ es₂ heq => ?_⟩
    exact h (e :: es₁) es₂ (by rw [heq, List.cons_append])
  · rintro ⟨hQ, h⟩ es₁ es₂ heq
    cases es₁ with
    | nil => exact hQ
    | cons e' es₁ =>
        rw [List.cons_append, List.cons.injEq] at heq
        obtain ⟨rfl, heq⟩ := heq
        exact h es₁ es₂ heq

/-- Where the steps of a run do what `f` does, so does the run. -/
theorem StepsMeet.foldl_eq {f : σ → ε → σ} {s : σ} {es : List ε}
    (h : StepsMeet step (fun s e => step s e = f s e) s es) : es.foldl step s = es.foldl f s := by
  induction es generalizing s with
  | nil => rfl
  | cons e es ih =>
      have htail := ih h.2
      rw [h.1] at htail
      rw [List.foldl_cons, List.foldl_cons, h.1, htail]

/-- An invariant kept by every step that meets `P` holds in every state of a run whose
steps all meet `P`. -/
theorem always_of_stepsMeet {P : σ → ε → Prop} {I : σ → Prop}
    (hstep : ∀ s e, I s → P s e → I (step s e)) {s : σ} {es : List ε}
    (h0 : I s) (h : StepsMeet step P s es) : Always step I s es := by
  rintro es₁ es₂ rfl
  exact inv_foldl hstep h0 (stepsMeet_append.mp h).1

/-- Under an invariant that the steps meeting `R` preserve, what such steps do is what all
steps of a run do. -/
theorem StepsMeet.of_inv {R Q : σ → ε → Prop} {I : σ → Prop} {s : σ} {es : List ε}
    (h : StepsMeet step R s es) (hstep : ∀ s e, I s → R s e → I (step s e) ∧ Q s e)
    (h0 : I s) : StepsMeet step Q s es := by
  induction es generalizing s with
  | nil => trivial
  | cons e es ih =>
      obtain ⟨hI, hQ⟩ := hstep s e h0 h.1
      exact ⟨hQ, ih h.2 hI⟩

/-- Under an invariant that the steps meeting `R` preserve, conditions that mean the same
are met by the same runs of such steps. -/
theorem StepsMeet.congr_of_inv {R P Q : σ → ε → Prop} {I : σ → Prop} {s : σ} {es : List ε}
    (h : StepsMeet step R s es) (hinv : ∀ s e, I s → R s e → I (step s e))
    (hiff : ∀ s e, I s → (P s e ↔ Q s e)) (h0 : I s) :
    StepsMeet step P s es ↔ StepsMeet step Q s es := by
  induction es generalizing s with
  | nil => exact Iff.rfl
  | cons e es ih =>
      rw [stepsMeet_cons, stepsMeet_cons, hiff s e h0, ih h.2 (hinv s e h0 h.1)]

/-- The same for an invariant that every step preserves. -/
theorem stepsMeet_congr {P Q : σ → ε → Prop} {I : σ → Prop}
    (hinv : ∀ s e, I s → I (step s e)) (hiff : ∀ s e, I s → (P s e ↔ Q s e)) {s : σ}
    {es : List ε} (h0 : I s) : StepsMeet step P s es ↔ StepsMeet step Q s es :=
  (stepsMeet_true s es).congr_of_inv (fun s e hs _ => hinv s e hs) hiff h0

/-- Two conditions that mean the same under an invariant which the steps meeting one of them
preserve are met by the same runs. -/
theorem stepsMeet_iff_of_inv {P Q : σ → ε → Prop} {I : σ → Prop}
    (hinv : ∀ s e, I s → Q s e → I (step s e)) (hiff : ∀ s e, I s → (P s e ↔ Q s e)) {s : σ}
    {es : List ε} (h0 : I s) : StepsMeet step P s es ↔ StepsMeet step Q s es := by
  induction es generalizing s with
  | nil => exact Iff.rfl
  | cons e es ih =>
      rw [stepsMeet_cons, stepsMeet_cons, hiff s e h0]
      exact and_congr_right fun hQ => ih (hinv s e h0 hQ)

/-- **Exactness.** Among the steps that meet `R` and so preserve `I`, let `P` be what a step
out of `Q` needs to reach `Q` again: then a run of such steps stays in `Q` exactly when all
its steps meet `P`. -/
theorem StepsMeet.always_iff {R P : σ → ε → Prop} {I Q : σ → Prop} {s : σ} {es : List ε}
    (h : StepsMeet step R s es) (hinv : ∀ s e, I s → R s e → I (step s e))
    (hiff : ∀ s e, I s → R s e → Q s → (Q (step s e) ↔ P s e)) (h0 : I s) (hQ : Q s) :
    Always step Q s es ↔ StepsMeet step P s es := by
  induction es generalizing s with
  | nil => exact ⟨fun _ => trivial, fun _ => always_nil.mpr hQ⟩
  | cons e es ih =>
      rw [always_cons, stepsMeet_cons]
      have hI : I (step s e) := hinv s e h0 h.1
      constructor
      · rintro ⟨-, hrun⟩
        exact ⟨(hiff s e h0 h.1 hQ).mp hrun.head, (ih h.2 hI hrun.head).mp hrun⟩
      · rintro ⟨hP, hrun⟩
        have hQ' : Q (step s e) := (hiff s e h0 h.1 hQ).mpr hP
        exact ⟨hQ, (ih h.2 hI hQ').mpr hrun⟩

/-- Exactness where the invariant may need `P`: if `P` is what a step out of `I ∧ Q` needs to
reach `Q` again, and no step that meets `P` leaves `I`, then a run stays in `Q` exactly when all
its steps meet `P`. -/
theorem always_iff_stepsMeet {P : σ → ε → Prop} {I Q : σ → Prop}
    (hinv : ∀ s e, I s → Q s → P s e → I (step s e))
    (hiff : ∀ s e, I s → Q s → (Q (step s e) ↔ P s e)) {s : σ} {es : List ε}
    (h0 : I s) (hQ : Q s) : Always step Q s es ↔ StepsMeet step P s es := by
  induction es generalizing s with
  | nil => exact ⟨fun _ => trivial, fun _ => always_nil.mpr hQ⟩
  | cons e es ih =>
      rw [always_cons, stepsMeet_cons]
      constructor
      · rintro ⟨-, h⟩
        have hP : P s e := (hiff s e h0 hQ).mp h.head
        exact ⟨hP, (ih (hinv s e h0 hQ hP) h.head).mp h⟩
      · rintro ⟨hP, h⟩
        have hQ' : Q (step s e) := (hiff s e h0 hQ).mpr hP
        exact ⟨hQ, (ih (hinv s e h0 hQ hP) hQ').mpr h⟩

/-! ### Counting steps -/

/-- The number of steps of a run that meet `A`. -/
def count (step : σ → ε → σ) (A : σ → ε → Prop) [∀ s e, Decidable (A s e)] : σ → List ε → ℕ
  | _, [] => 0
  | s, e :: es => (if A s e then 1 else 0) + count step A (step s e) es

section Count

variable {A : σ → ε → Prop} [∀ s e, Decidable (A s e)]

/-- The steps of a run are counted part by part. -/
theorem count_append (s : σ) (es₁ es₂ : List ε) :
    count step A s (es₁ ++ es₂) = count step A s es₁ + count step A (es₁.foldl step s) es₂ := by
  induction es₁ generalizing s with
  | nil => rw [List.nil_append, count, Nat.zero_add, List.foldl_nil]
  | cons e es₁ ih =>
      have hrest := ih (step s e)
      rw [List.cons_append, count, hrest, count, List.foldl_cons, Nat.add_assoc]

/-- All steps are counted where all meet `A`. -/
theorem StepsMeet.count_eq {s : σ} {es : List ε} (h : StepsMeet step A s es) :
    count step A s es = es.length := by
  induction es generalizing s with
  | nil => rfl
  | cons e es ih =>
      have hrest := ih h.2
      rw [count, if_pos h.1, hrest, List.length_cons, Nat.add_comm]

/-- **Potential.** Where an event adds at most `gain` to the potential `m` and a step that meets
`A` pays one, no more steps meet `A` than the gains and the first potential pay for. -/
theorem StepsMeet.count_le {m : σ → ℕ} {gain : ε → ℕ} {s : σ} {es : List ε}
    (h : StepsMeet step (fun s e => m (step s e) + (if A s e then 1 else 0) ≤ m s + gain e) s es) :
    count step A s es ≤ m s + (es.map gain).sum := by
  induction es generalizing s with
  | nil => exact Nat.zero_le _
  | cons e es ih =>
      have hrest := ih h.2
      have hpay := h.1
      rw [count, List.map_cons, List.sum_cons]
      omega

end Count

/-- A run whose steps do not all meet `P` has a first part behind which a step does not. -/
theorem exists_of_not_stepsMeet {P : σ → ε → Prop} {s : σ} {es : List ε}
    (h : ¬ StepsMeet step P s es) :
    ∃ es₁ e es₂, es = es₁ ++ e :: es₂ ∧ ¬ P (es₁.foldl step s) e := by
  induction es generalizing s with
  | nil => exact absurd trivial h
  | cons e es ih =>
      by_cases hP : P s e
      · obtain ⟨es₁, e', es₂, rfl, hnot⟩ := ih fun hes => h ⟨hP, hes⟩
        exact ⟨e :: es₁, e', es₂, rfl, hnot⟩
      · exact ⟨[], e, es, rfl, hP⟩

/-! ### Observations -/

/-- Where every step of a run leaves an observation as it is or does to it what `h` does, and
doing this twice is doing it once: the run has left it as it was or done it once. -/
theorem StepsMeet.observe {τ : Type*} {g : σ → τ} {h : τ → τ} {A : σ → ε → Prop}
    (hidem : ∀ t, h (h t) = h t) (hA : ∀ s e, A s e → g (step s e) = h (g s)) {s : σ}
    {es : List ε} (hsteps : StepsMeet step (fun s e => A s e ∨ g (step s e) = g s) s es) :
    g (es.foldl step s) = g s ∨ g (es.foldl step s) = h (g s) := by
  induction es generalizing s with
  | nil => exact Or.inl rfl
  | cons e es ih =>
      rw [List.foldl_cons]
      have hrest := ih hsteps.2
      rcases hsteps.1 with hdoes | hkeeps
      · rw [hA s e hdoes, hidem, or_self] at hrest
        exact Or.inr hrest
      · rwa [hkeeps] at hrest

/-- A run with a step that does it has done it. -/
theorem StepsMeet.observe_of_mem {τ : Type*} {g : σ → τ} {h : τ → τ} {A : σ → ε → Prop}
    (hidem : ∀ t, h (h t) = h t) (hA : ∀ s e, A s e → g (step s e) = h (g s)) {s : σ}
    {es₁ es₂ : List ε} {e : ε}
    (hsteps : StepsMeet step (fun s e => A s e ∨ g (step s e) = g s) s (es₁ ++ e :: es₂))
    (hmem : A (es₁.foldl step s) e) : g ((es₁ ++ e :: es₂).foldl step s) = h (g s) := by
  obtain ⟨hsteps₁, -, hsteps₂⟩ := stepsMeet_append.mp hsteps
  have hfirst : g (step (es₁.foldl step s) e) = h (g s) := by
    rw [hA _ _ hmem]
    rcases hsteps₁.observe hidem hA with hkept | hdone
    · rw [hkept]
    · rw [hdone, hidem]
  rw [List.foldl_append, List.foldl_cons]
  rcases hsteps₂.observe hidem hA with hkept | hdone
  · rw [hkept, hfirst]
  · rw [hdone, hfirst, hidem]

end Runs
