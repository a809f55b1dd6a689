import Yijian.Lib.Rounds
import Yijian.Pool

/-!
# The Pool Drains

That nobody waits for a notification that does not come is not yet that the tasks are run. Here it
is shown of a pool that gets no more calls that it comes to rest: in whatever order the threads
take their steps, if each has its turn in every round, after as many rounds as there is work all
tasks have run, and all threads wait.

The work is a number. A worker that takes down the flag of the pool may send `sentWork` through
all queues once more, and `sentWork` may send a worker once more through its loop; each of these
steps is worth more than what it leads to.

## Relation to `Yijian.Pool`

There the statements are invariants, which a pool that stands still satisfies. The model is the
same, with the turns of `Lib.Rounds` for its threads: a worker that waits evaluates its predicate in
its turn and sleeps on, which takes nothing from the work and puts nothing to it. A call that has
begun is finished, with all of its tasks; calls that have not begun are no work. The bound is in
rounds, and each round may contain any number of steps of every thread, so nothing is said of time.

## Main results

* `sentWork_lt`, `threadFunc_lt`: a step of a thread that does not wait takes from the work.
* `pool_drains`: from every reachable state, every run in fair rounds ends with all tasks run.
* `Accounts.one_worker`: one worker has the tasks in the order of the calls.
-/

namespace Yijian

open Runs

variable {τ : Type} {n : ℕ}

/-! ### The work -/

/-- What the place of a worker is worth; `c` is what it is worth to send `sentWork` through the
queues. -/
def WorkerAt.work (c : ℕ) : WorkerAt τ → ℕ
  | .wait => 0
  | .empty => c + 2
  | .pop => c + 1
  | .run _ => c + 3
  | .notify => c + 1

/-- The work of a worker: its queue, its place, and one more loop if its flag is down. -/
def ThreadData.work (c : ℕ) (w : ThreadData τ) : ℕ :=
  3 * w.qWorkfun.length + w.place.work c + bif w.gate.isWait then 0 else c + 3

/-- What the place of `sentWork` is worth. -/
def SenderAt.work (c : ℕ) : SenderAt n τ → ℕ
  | .idle => 0
  | .select _ rest _ => c + 9 + rest.length
  | .push _ _ => c + 8
  | .wait _ => c + 7
  | .notify _ => c + 4

namespace NotiThreads

/-- The work of the pool. -/
def work (p : NotiThreads n τ) : ℕ :=
  p.sender.work (n + 4) + (bif p.gate.isWait || p.sender.held.isEmpty then 0 else n + 4) +
    ∑ i, (p.threads i).work (n + 4)

/-- The thread of the turn does not wait. -/
def Helps (p : NotiThreads n τ) : PoolEvent n τ → Prop
  | .sender =>
      match p.sender with
      | .idle => False
      | .wait _ => p.gate.isWait = false
      | _ => True
  | .worker i => ¬ (p.threads i).Waits
  | _ => False

/-- The comparison of the queues has found one when it ends. -/
def Selects (p : NotiThreads n τ) : Prop := ∀ func, p.sender ≠ .select func [] none

variable {p : NotiThreads n τ}

@[simp] theorem setThread_sender (p : NotiThreads n τ) (i : Fin (n + 1)) (w : ThreadData τ) :
    (p.setThread i w).sender = p.sender := rfl

@[simp] theorem setThread_gate (p : NotiThreads n τ) (i : Fin (n + 1)) (w : ThreadData τ) :
    (p.setThread i w).gate = p.gate := rfl

@[simp] theorem setThread_calls (p : NotiThreads n τ) (i : Fin (n + 1)) (w : ThreadData τ) :
    (p.setThread i w).calls = p.calls := rfl

/-- The work of the others stays. -/
theorem sum_work_setThread (p : NotiThreads n τ) (i : Fin (n + 1)) (w : ThreadData τ) (c : ℕ) :
    ∑ j, ((p.setThread i w).threads j).work c + (p.threads i).work c =
      ∑ j, (p.threads j).work c + w.work c := by
  have hsum := sum_change i (f := fun j => ((p.setThread i w).threads j).work c)
    (g := fun j => (p.threads j).work c) fun j hj => by rw [threads_setThread_of_ne p hj]
  rwa [threads_setThread_self] at hsum

/-! ### Steps of `sentWork` -/

/-- **A step of `sentWork`** that does not wait takes from the work. -/
theorem sentWork_lt (hselects : p.Selects) (h : p.Helps .sender) : p.sentWork.work < p.work := by
  unfold NotiThreads.sentWork
  split
  · rename_i hat
    rw [Helps, hat] at h
    exact h.elim
  · rename_i func j rest min hat
    simp only [work, hat, SenderAt.work, SenderAt.held, List.length_cons]
    omega
  · rename_i func i hat
    simp only [work, hat, SenderAt.work, SenderAt.held, List.length_nil]
    omega
  · rename_i func hat
    exact absurd hat (hselects func)
  · rename_i func i hat
    split
    · have hsum := p.sum_work_setThread i ((p.threads i).push func) (n + 4)
      have hpush : ((p.threads i).push func).work (n + 4) = (p.threads i).work (n + 4) + 3 := by
        simp only [ThreadData.work, ThreadData.push, List.length_append, List.length_singleton]
        omega
      simp only [work, hat, SenderAt.work, SenderAt.held, List.isEmpty_nil, Bool.or_true, cond_true]
      omega
    · simp only [work, hat, SenderAt.work, SenderAt.held]
      omega
  · rename_i func hat
    rw [Helps, hat] at h
    simp only [Gate.test_fst, h, Bool.not_false, if_true, work, hat, SenderAt.work, SenderAt.held,
      Gate.isWait_test, List.length_finRange]
    simp
    omega
  · rename_i i hat
    have hsum := p.sum_work_setThread i (p.threads i).release (n + 4)
    have hrelease : (p.threads i).release.work (n + 4) ≤
        (p.threads i).work (n + 4) + (n + 4 + 3) := by
      simp only [ThreadData.work, ThreadData.release, Gate.isWait_release]
      cases (p.threads i).gate.isWait <;> simp
    simp only [work, hat, SenderAt.work, SenderAt.held, List.isEmpty_nil, Bool.or_true, cond_true]
    omega

/-! ### Steps of a worker -/

/-- A worker that does not wait takes from its own work. -/
theorem threadData_lt {w : ThreadData τ} (hpop : w.place = .pop → w.qWorkfun ≠ [])
    (h : ¬ w.Waits) (c : ℕ) : w.threadFunc.work c < w.work c := by
  unfold ThreadData.threadFunc
  cases hat : w.place with
  | wait =>
      have hflag : w.gate.isWait = false := by simpa [ThreadData.Waits, hat] using h
      simp [ThreadData.work, hat, hflag, WorkerAt.work]
  | empty =>
      simp only [ThreadData.work, hat, WorkerAt.work]
      cases w.qWorkfun.isEmpty <;> simp
  | pop =>
      cases hq : w.qWorkfun with
      | nil => exact absurd hq (hpop hat)
      | cons func rest =>
          simp only [ThreadData.work, hat, hq, WorkerAt.work, List.length_cons]
          omega
  | run func => simp [ThreadData.work, hat, WorkerAt.work]
  | notify => simp [ThreadData.work, hat, WorkerAt.work]

/-- A worker that notifies the pool takes more than this may lead to. -/
theorem threadData_notify_lt {w : ThreadData τ} (hat : w.place = .notify) (c : ℕ) :
    w.threadFunc.work c + c < w.work c := by
  simp only [ThreadData.threadFunc, ThreadData.work, hat, WorkerAt.work]
  omega

/-- **A step of a worker** that does not wait takes from the work. -/
theorem threadFunc_lt {i : Fin (n + 1)} (hpop : (p.threads i).place = .pop →
    (p.threads i).qWorkfun ≠ []) (h : p.Helps (.worker i)) : (p.threadFunc i).work < p.work := by
  have hsum := p.sum_work_setThread i (p.threads i).threadFunc (n + 4)
  unfold NotiThreads.threadFunc
  split
  · rename_i hat
    have hlt := threadData_notify_lt hat (n + 4)
    have hflag : (bif p.sender.held.isEmpty then 0 else n + 4) ≤ n + 4 := by
      cases p.sender.held.isEmpty <;> simp
    simp only [work, setThread_sender, Gate.isWait_release, Bool.false_or]
    omega
  · have hlt := threadData_lt hpop h (n + 4)
    simp only [work, setThread_sender, setThread_gate]
    omega

/-! ### Threads that wait -/

/-- A turn of a thread that waits changes its place at its condition variable only. -/
theorem step_of_not_helps {e : PoolEvent n τ} (hcall : ∀ func, e ≠ .call func)
    (h : ¬ p.Helps e) : (p.step e).sender = p.sender ∧
      (p.step e).gate.isWait = p.gate.isWait ∧
      ∀ i, ((p.step e).threads i).place = (p.threads i).place ∧
        ((p.step e).threads i).qWorkfun = (p.threads i).qWorkfun ∧
        ((p.step e).threads i).gate.isWait = (p.threads i).gate.isWait := by
  have hthread {i : Fin (n + 1)} {w : ThreadData τ} (hplace : w.place = (p.threads i).place)
      (hqueue : w.qWorkfun = (p.threads i).qWorkfun)
      (hgate : w.gate.isWait = (p.threads i).gate.isWait) (j : Fin (n + 1)) :
      ((p.setThread i w).threads j).place = (p.threads j).place ∧
        ((p.setThread i w).threads j).qWorkfun = (p.threads j).qWorkfun ∧
        ((p.setThread i w).threads j).gate.isWait = (p.threads j).gate.isWait := by
    obtain rfl | hj := eq_or_ne j i
    · rw [threads_setThread_self]
      exact ⟨hplace, hqueue, hgate⟩
    · rw [threads_setThread_of_ne p hj]
      exact ⟨rfl, rfl, rfl⟩
  cases e with
  | call func => exact absurd rfl (hcall func)
  | sender =>
      rw [step, sentWork]
      cases hat : p.sender with
      | idle => exact ⟨hat, rfl, fun _ => ⟨rfl, rfl, rfl⟩⟩
      | wait func =>
          have hflag : p.gate.isWait = true := by simpa [Helps, hat] using h
          simp [hflag]
      | _ => simp [Helps, hat] at h
  | worker i =>
      obtain ⟨hat, hflag⟩ : (p.threads i).Waits := not_not.mp h
      rw [step, threadFunc, hat]
      refine ⟨rfl, rfl, hthread ?_ ?_ ?_⟩ <;> simp [ThreadData.threadFunc, hat, hflag]
  | wakeSender => exact ⟨rfl, Gate.isWait_wake _, fun _ => ⟨rfl, rfl, rfl⟩⟩
  | wakeWorker i => exact ⟨rfl, rfl, hthread rfl rfl (Gate.isWait_wake _)⟩

/-- A step that does not help leaves the work. -/
theorem work_of_not_helps {e : PoolEvent n τ} (hcall : ∀ func, e ≠ .call func)
    (h : ¬ p.Helps e) : (p.step e).work = p.work := by
  obtain ⟨hsender, hgate, hthreads⟩ := step_of_not_helps hcall h
  simp only [work, hsender, hgate, ThreadData.work, hthreads]

/-- A step that does not help does not stop others from helping. -/
theorem helps_of_not_helps {e e' : PoolEvent n τ} (hcall : ∀ func, e ≠ .call func)
    (h : ¬ p.Helps e) : (p.step e).Helps e' ↔ p.Helps e' := by
  obtain ⟨hsender, hgate, hthreads⟩ := step_of_not_helps hcall h
  cases e' with
  | sender => simp only [Helps, hsender, hgate]
  | worker i => simp only [Helps, ThreadData.Waits, hthreads]
  | _ => rfl

/-! ### The pool -/

/-- The threads. -/
def turns (n : ℕ) (τ : Type) : List (PoolEvent n τ) :=
  .sender :: (List.finRange (n + 1)).map .worker

/-- The event is no call of `sentWork`. -/
def NoCall (e : PoolEvent n τ) : Prop := ∀ func, e ≠ .call func

/-- Every step keeps the comparison of the queues from ending without one. -/
theorem Selects.step (h : p.Selects) (e : PoolEvent n τ) : (p.step e).Selects := by
  cases e with
  | call func =>
      simp only [NotiThreads.step]
      split
      · intro func' hat
        simp at hat
      · exact h
  | sender =>
      rw [NotiThreads.step]
      unfold NotiThreads.sentWork
      split
      · exact h
      · exact fun func' hat => by simp at hat
      · exact fun func' hat => by simp at hat
      · exact h
      · split
        · exact fun func' hat => by simp at hat
        · exact fun func' hat => by simp at hat
      · intro func' hat
        split at hat
        · simp at hat
        · simp at hat
      · exact fun func' hat => by simp at hat
  | worker i =>
      rw [NotiThreads.step]
      unfold NotiThreads.threadFunc
      split <;> exact h
  | wakeSender => exact h
  | wakeWorker i => exact h

/-- **Some thread helps** as long as there is work. -/
theorem exists_helps (h : PoolInv p) (hwork : p.work ≠ 0) : ∃ e ∈ turns n τ, p.Helps e := by
  have hworker (i : Fin (n + 1)) : PoolEvent.worker i ∈ turns n τ :=
    List.mem_cons_of_mem _ (List.mem_map_of_mem (List.mem_finRange i))
  by_cases hsender : p.Helps .sender
  · exact ⟨.sender, List.mem_cons_self, hsender⟩
  by_cases hwaits : ∃ i, ¬ (p.threads i).Waits
  · obtain ⟨i, hi⟩ := hwaits
    exact ⟨.worker i, hworker i, hi⟩
  · -- all workers wait, so `sentWork` neither waits nor has anything left to do
    simp only [not_exists, not_not] at hwaits
    have hidle : p.sender = .idle := by
      cases hat : p.sender with
      | idle => rfl
      | wait func =>
          have hflag : p.gate.isWait = true := by simpa [Helps, hat] using hsender
          obtain ⟨i, hi⟩ := h.not_all_wait func hat hflag
          exact absurd (hwaits i) hi
      | _ => simp [Helps, hat] at hsender
    refine absurd ?_ hwork
    have hqueue (i : Fin (n + 1)) : (p.threads i).qWorkfun = [] := by
      by_contra hne
      have howed := h.correct.notified i (hwaits i) hne
      rw [hidle] at howed
      cases howed
    have hzero (i : Fin (n + 1)) : (p.threads i).work (n + 4) = 0 := by
      simp [ThreadData.work, hqueue i, (hwaits i).1, (hwaits i).2, WorkerAt.work]
    simp [work, hidle, SenderAt.work, SenderAt.held, hzero]

/-- Only a call is a call. -/
theorem calls_step {e : PoolEvent n τ} (h : NoCall e) : (p.step e).calls = p.calls := by
  cases e with
  | call func => exact absurd rfl (h func)
  | sender =>
      rw [NotiThreads.step]
      unfold NotiThreads.sentWork
      split
      · rfl
      · rfl
      · rfl
      · rfl
      · split <;> rfl
      · rfl
      · rfl
  | worker i =>
      rw [NotiThreads.step]
      unfold NotiThreads.threadFunc
      split <;> rfl
  | _ => rfl

/-- The work of the pool after these calls, and the threads that take from it. -/
def poolWork (calls : List τ) : Work (step (n := n)) (turns n τ) NoCall where
  inv p := (PoolInv p ∧ p.Selects) ∧ p.calls = calls
  work := work
  Helps := Helps
  inv_step := fun h hcall => ⟨⟨h.1.1.step _, h.1.2.step _⟩, (calls_step hcall).trans h.2⟩
  helps_lt := by
    intro p e h _ hhelps
    cases e with
    | sender => exact sentWork_lt h.1.2 hhelps
    | worker i => exact threadFunc_lt (h.1.1.correct.pop_ne_nil i) hhelps
    | _ => exact hhelps.elim
  work_eq := fun _ hcall hhelps => work_of_not_helps hcall hhelps
  helps_step := fun _ hcall hhelps => (helps_of_not_helps hcall hhelps).mpr
  exists_helps := fun h hwork => exists_helps h.1.1 hwork

/-- All threads wait, and the tasks have all run, once and on each worker in the order of the
calls. -/
structure Drained (calls : List τ) (p : NotiThreads n τ) : Prop where
  idle : p.sender = .idle
  waits : ∀ i, (p.threads i).Waits
  executed : (calls : Multiset τ) = ∑ i, ((p.threads i).executed : Multiset τ)
  ordered : ∀ i, (p.threads i).executed.Sublist calls

/-- Without work the pool is at rest. -/
theorem drained_of_work (h : p.Accounts) (hwork : p.work = 0) : p.Drained p.calls := by
  simp only [work, Nat.add_eq_zero_iff, Finset.sum_eq_zero_iff, Finset.mem_univ, true_imp_iff]
    at hwork
  obtain ⟨⟨hsender, -⟩, hthreads⟩ := hwork
  have hidle : p.sender = .idle := by
    cases hat : p.sender with
    | idle => rfl
    | _ => simp [hat, SenderAt.work] at hsender
  have hthread (i : Fin (n + 1)) : (p.threads i).qWorkfun = [] ∧ (p.threads i).Waits := by
    have hzero := hthreads i
    simp only [ThreadData.work, Nat.add_eq_zero_iff] at hzero
    obtain ⟨⟨hqueue, hplace⟩, hgate⟩ := hzero
    refine ⟨List.length_eq_zero_iff.mp (by omega), ?_, ?_⟩
    · cases hat : (p.threads i).place with
      | wait => rfl
      | _ => simp [hat, WorkerAt.work] at hplace
    · cases hflag : (p.threads i).gate.isWait with
      | true => rfl
      | false => simp [hflag] at hgate
  have htasks (i : Fin (n + 1)) : (p.threads i).tasks = (p.threads i).executed := by
    simp [ThreadData.tasks, (hthread i).1, (hthread i).2.1, WorkerAt.running]
  obtain ⟨pushed, hcalls, hsum, hsub⟩ := h
  rw [hidle, SenderAt.held, List.append_nil] at hcalls
  simp only [htasks] at hsum hsub
  exact ⟨hidle, fun i => (hthread i).2, hcalls ▸ hsum, fun i => hcalls ▸ hsub i⟩

/-- **The pool drains**: from every state that it can reach, if it gets no more calls and each
thread has its turn in every round, all tasks have run after as many rounds as there is work. -/
theorem pool_drains (n : ℕ) (isWait : Bool) (es es' : List (PoolEvent n τ))
    (hrounds : Rounds (turns n τ) NoCall (es.foldl step (start n τ isWait)).work es') :
    (es'.foldl step (es.foldl step (start n τ isWait))).Drained
      (es.foldl step (start n τ isWait)).calls := by
  have hstart : PoolInv (es.foldl step (start n τ isWait)) ∧
      (es.foldl step (start n τ isWait)).Selects :=
    inv_foldl_of_step (I := fun p : NotiThreads n τ => PoolInv p ∧ p.Selects)
      (fun _ e h => ⟨h.1.step e, h.2.step e⟩) es
      ⟨PoolInv.start isWait, fun _ hat => by cases hat⟩
  generalize es.foldl step (start n τ isWait) = p at hrounds hstart ⊢
  obtain ⟨⟨⟨hinv, -⟩, hcalls⟩, hzero⟩ := hrounds.drains (poolWork p.calls) ⟨hstart, rfl⟩ le_rfl
  exact hcalls ▸ drained_of_work hinv.accounts hzero

/-- No turn is a call. -/
theorem noCall_turns (n : ℕ) : ∀ e ∈ turns n τ, NoCall e := by
  intro e he func hcall
  subst hcall
  simp [turns] at he

/-- Three tasks for three workers: the second is given while the first has not been taken up, and
the third when nobody has gone on with anything. -/
def threeTasks : List (PoolEvent 2 ℕ) :=
  [.call 7] ++ List.replicate 9 .sender ++ [.call 8, .sender, .worker 0, .worker 1] ++
    List.replicate 9 .sender ++ [.call 9]

/-- In rounds of all threads they all run. -/
theorem pool_drains_threeTasks :
    (threeTasks.foldl step (start 2 ℕ true)).calls = [7, 8, 9] ∧
      ∃ es' : List (PoolEvent 2 ℕ),
        (es'.foldl step (threeTasks.foldl step (start 2 ℕ true))).Drained
          (threeTasks.foldl step (start 2 ℕ true)).calls :=
  ⟨by decide, _, pool_drains 2 true threeTasks _ (rounds_replicate (noCall_turns 2) _)⟩

/-- One worker, as the server starts it, has its tasks in the order of the calls. -/
theorem Accounts.one_worker {p : NotiThreads 0 τ} (h : p.Accounts) :
    (p.threads 0).tasks ++ p.sender.held = p.calls := by
  obtain ⟨pushed, hcalls, hsum, hsub⟩ := h
  rw [Fin.sum_univ_one, Multiset.coe_eq_coe] at hsum
  rw [hcalls, (hsub 0).eq_of_length hsum.length_eq.symm]

end NotiThreads

end Yijian
