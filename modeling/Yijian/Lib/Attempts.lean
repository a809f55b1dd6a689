import Mathlib.Logic.Basic

/-!
# Attempts

A program in `EStateM` keeps a state and may throw; what it has done to the state before it
throws stays done, and the code that catches the exception finds it.

* `Ends p s Q E`: the run of `p` from `s` ends with a value and a state that meet `Q`, or with
  an exception and a state that meet `E`.
* `Within f P T p`: wherever `p` ends, the part `f` of the state is what it was; its result
  meets `P`, and what it throws meets `T`.
* `Keeps I p`: wherever `p` ends, the state meets `I` if it did at the start.

## Convention

A throw is a way to end, not an end of the story: both `Q` and `E` are told the state, so that a
handler which mounts a message and then throws is not confused with one that throws at once. A
condition on the end is turned into one on the start from the back of the program to its front.
`Ends` is exact (the rules are equivalences and lose nothing), which is what a statement with
"if and only if" needs. `Within` and `Keeps` say less, and compose without a look at the states in
between: they are for programs of which only a part matters.

## Main results

* `ends_bind`, `ends_tryCatch` and the other rules named `ends_…`: one equivalence for each
  way to write a program, so that a condition on the end of a run becomes a condition on
  its start.
* `Within.bind` and the other rules on `Within`: such programs put together; `Keeps.bind` and
  the other rules on `Keeps` likewise.
-/

namespace Attempts

variable {ε σ α β κ : Type}

/-! ### Where a run ends -/

/-- The run of `p` from `s` ends in a result that `Q` holds of, or in an exception that `E`
holds of. -/
def Ends (p : EStateM ε σ α) (s : σ) (Q : α → σ → Prop) (E : ε → σ → Prop) : Prop :=
  match p s with
  | .ok a s' => Q a s'
  | .error e s' => E e s'

@[simp] theorem ends_pure {a : α} {s : σ} {Q : α → σ → Prop} {E : ε → σ → Prop} :
    Ends (pure a : EStateM ε σ α) s Q E ↔ Q a s :=
  Iff.rfl

@[simp] theorem ends_throw {e : ε} {s : σ} {Q : α → σ → Prop} {E : ε → σ → Prop} :
    Ends (throw e : EStateM ε σ α) s Q E ↔ E e s :=
  Iff.rfl

@[simp] theorem ends_get {s : σ} {Q : σ → σ → Prop} {E : ε → σ → Prop} :
    Ends (get : EStateM ε σ σ) s Q E ↔ Q s s :=
  Iff.rfl

@[simp] theorem ends_modify {f : σ → σ} {s : σ} {Q : PUnit → σ → Prop} {E : ε → σ → Prop} :
    Ends (modify f : EStateM ε σ PUnit) s Q E ↔ Q ⟨⟩ (f s) :=
  Iff.rfl

/-- The second program runs from where the first one ends, unless that throws. -/
@[simp] theorem ends_bind {p : EStateM ε σ α} {q : α → EStateM ε σ β} {s : σ}
    {Q : β → σ → Prop} {E : ε → σ → Prop} :
    Ends (p >>= q) s Q E ↔ Ends p s (fun a s' => Ends (q a) s' Q E) E := by
  simp only [Ends, bind, EStateM.bind]
  cases p s <;> rfl

/-- A handler goes on from the state that the attempt has left. -/
theorem tryCatch_apply (p : EStateM ε σ α) (handle : ε → EStateM ε σ α) (s : σ) :
    (tryCatch p handle : EStateM ε σ α) s =
      match p s with
      | .ok a s' => .ok a s'
      | .error e s' => handle e s' := by
  delta tryCatch instMonadExceptOfMonadExceptOf tryCatchThe
    EStateM.instMonadExceptOfOfBacktrackable EStateM.tryCatch
  dsimp only
  cases p s <;> rfl

/-- The handler runs from the state that the exception was thrown in. -/
@[simp] theorem ends_tryCatch {p : EStateM ε σ α} {handle : ε → EStateM ε σ α} {s : σ}
    {Q : α → σ → Prop} {E : ε → σ → Prop} :
    Ends (tryCatch p handle) s Q E ↔ Ends p s Q fun e s' => Ends (handle e) s' Q E := by
  simp only [Ends, tryCatch_apply]
  cases p s <;> rfl

/-- A branch ends as the branch that is taken. -/
theorem ends_ite {c : Prop} [Decidable c] {p q : EStateM ε σ α} {s : σ} {Q : α → σ → Prop}
    {E : ε → σ → Prop} :
    Ends (if c then p else q) s Q E ↔ (c → Ends p s Q E) ∧ (¬ c → Ends q s Q E) := by
  by_cases hc : c <;> simp [hc]

/-- A weaker assertion about both ends. -/
theorem Ends.mono {p : EStateM ε σ α} {s : σ} {Q Q' : α → σ → Prop} {E E' : ε → σ → Prop}
    (h : Ends p s Q E) (hQ : ∀ a s', Q a s' → Q' a s') (hE : ∀ e s', E e s' → E' e s') :
    Ends p s Q' E' := by
  unfold Ends at h ⊢
  generalize p s = r at h ⊢
  cases r with
  | ok a s' => exact hQ a s' h
  | error e s' => exact hE e s' h

/-! ### Programs that leave a part of the state alone -/

/-- Wherever `p` ends, `f` of the state is what it was; the result meets `P`, and what it
throws meets `T`. -/
def Within (f : σ → κ) (P : α → Prop) (T : ε → Prop) (p : EStateM ε σ α) : Prop :=
  ∀ s, Ends p s (fun a s' => P a ∧ f s' = f s) fun e s' => T e ∧ f s' = f s

variable {f : σ → κ} {P : α → Prop} {R : β → Prop} {T : ε → Prop}

/-- A value that is returned leaves the state alone. -/
theorem within_pure {a : α} (ha : P a) : Within f P T (pure a : EStateM ε σ α) :=
  fun _ => ⟨ha, rfl⟩

/-- What is thrown leaves the state alone. -/
theorem within_throw {e : ε} (he : T e) : Within f P T (throw e : EStateM ε σ α) :=
  fun _ => ⟨he, rfl⟩

/-- Reading the state leaves it alone. -/
theorem within_get : Within f (fun _ => True) T (get : EStateM ε σ σ) :=
  fun _ => ⟨trivial, rfl⟩

/-- An attempt behind another one. -/
theorem Within.bind {p : EStateM ε σ α} {q : α → EStateM ε σ β} (hp : Within f P T p)
    (hq : ∀ a, P a → Within f R T (q a)) : Within f R T (p >>= q) := by
  intro s
  refine ends_bind.mpr ((hp s).mono (fun a s' h => ?_) fun _ _ h => h)
  obtain ⟨ha, hs'⟩ := h
  exact (hq a ha s').mono (fun _ _ h => ⟨h.1, h.2.trans hs'⟩) fun _ _ h => ⟨h.1, h.2.trans hs'⟩

/-- An attempt that is one of two. -/
theorem Within.ite {c : Prop} [Decidable c] {p q : EStateM ε σ α} (hp : Within f P T p)
    (hq : Within f P T q) : Within f P T (if c then p else q) := by
  split
  · exact hp
  · exact hq

/-! ### Programs that keep an invariant -/

/-- Wherever `p` ends, its state meets `I` if the state at the start did. -/
def Keeps (I : σ → Prop) (p : EStateM ε σ α) : Prop :=
  ∀ s, I s → Ends p s (fun _ => I) fun _ => I

variable {I : σ → Prop}

/-- A value that is returned keeps the invariant. -/
theorem keeps_pure {a : α} : Keeps I (pure a : EStateM ε σ α) := fun _ hs => hs

/-- What is thrown keeps the invariant. -/
theorem keeps_throw {e : ε} : Keeps I (throw e : EStateM ε σ α) := fun _ hs => hs

/-- Reading the state keeps the invariant. -/
theorem keeps_get : Keeps I (get : EStateM ε σ σ) := fun _ hs => hs

/-- A change of the state that keeps the invariant. -/
theorem keeps_modify {f : σ → σ} (hf : ∀ s, I s → I (f s)) :
    Keeps I (modify f : EStateM ε σ PUnit) :=
  hf

/-- An attempt behind another one keeps what both keep. -/
theorem Keeps.bind {p : EStateM ε σ α} {q : α → EStateM ε σ β} (hp : Keeps I p)
    (hq : ∀ a, Keeps I (q a)) : Keeps I (p >>= q) := fun s hs =>
  ends_bind.mpr ((hp s hs).mono (fun a s' hs' => hq a s' hs') fun _ _ h => h)

/-- An attempt with its handler keeps what both keep. -/
theorem Keeps.tryCatch {p : EStateM ε σ α} {handle : ε → EStateM ε σ α} (hp : Keeps I p)
    (hh : ∀ e, Keeps I (handle e)) : Keeps I (tryCatch p handle) := fun s hs =>
  ends_tryCatch.mpr ((hp s hs).mono (fun _ _ h => h) fun e s' hs' => hh e s' hs')

/-- An attempt that is one of two keeps what both keep. -/
theorem Keeps.ite {c : Prop} [Decidable c] {p q : EStateM ε σ α} (hp : Keeps I p)
    (hq : Keeps I q) : Keeps I (if c then p else q) := by
  split
  · exact hp
  · exact hq

end Attempts
