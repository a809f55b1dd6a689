import Mathlib.Algebra.BigOperators.Fin
import Mathlib.Algebra.Order.Group.Multiset
import Yijian.Lib.Gate
import Yijian.Lib.Runs

/-!
# The Worker Pool

`noti_threads` hands each task to the worker with the shortest queue. A worker that has
emptied its queue tells `sentWork` so and waits; `sentWork` waits while the shortest queue
has 20 entries. Each of the two sides has a flag with a condition variable of its own, and
the flag of the pool may be down from an earlier round.

A step is one section under a lock, the unlocked `empty()` of a worker, one comparison of
two queue sizes, or a waiter that evaluates its predicate. Any thread may take any step that
it is at, in any order.

## Convention

The pool has `n + 1` workers, as the search for the shortest queue starts from the first one, and
one thread, the event loop of the server, calls `sentWork`. The comparisons of two sizes are steps
of their own: the sizes are read under the lock of a queue, and a queue that was the shortest need
not be when the task is pushed, where its size is asked again. A worker looks whether its queue is
empty without the lock, and takes one task at a time under it. What a task does is not told here;
that it returns is a step that the worker may take or not, and a worker that never takes it keeps
its task as the running one.

## Main results

* `pool_correct`: no queue is longer than 20, no task is lost, run twice or overtaken, and
  nobody waits for a notification that does not come.
-/

namespace Yijian

open Runs

variable {τ : Type} {n : ℕ}

/-! ### The workers -/

/-- Where a worker is in `thread_func`. -/
inductive WorkerAt (τ : Type)
  | wait
  | empty
  | pop
  | run (func : τ)
  | notify
  deriving DecidableEq

/-- A worker: its flag `c_isWait_` with its condition variable, its queue, its place in
`thread_func`, and the tasks that have returned. -/
structure ThreadData (τ : Type) where
  gate : Gate
  qWorkfun : List τ
  place : WorkerAt τ
  executed : List τ

/-- A worker as the constructor of `noti_threads` starts it. -/
def ThreadData.start : ThreadData τ := ⟨.ofFlag true, [], .wait, []⟩

/-- One step of `thread_func`. Its notification of the pool is in `NotiThreads.threadFunc`. -/
def ThreadData.threadFunc (w : ThreadData τ) : ThreadData τ :=
  match w.place with
  | .wait => { w with gate := w.gate.test.2, place := if w.gate.test.1 then .empty else .wait }
  | .empty => { w with place := if w.qWorkfun.isEmpty then .notify else .pop }
  | .pop =>
      match w.qWorkfun with
      | [] => w
      | func :: rest => { w with qWorkfun := rest, place := .run func }
  | .run func => { w with executed := w.executed ++ [func], place := .empty }
  | .notify => { w with place := .wait }

/-- `sentWork` pushes a task. -/
def ThreadData.push (w : ThreadData τ) (func : τ) : ThreadData τ :=
  { w with qWorkfun := w.qWorkfun ++ [func] }

/-- `sentWork` takes the flag down and notifies. -/
def ThreadData.release (w : ThreadData τ) : ThreadData τ := { w with gate := w.gate.release }

/-- The worker wakes up without a notification. -/
def ThreadData.wake (w : ThreadData τ) : ThreadData τ := { w with gate := w.gate.wake }

/-- The task that a worker runs. -/
def WorkerAt.running : WorkerAt τ → List τ
  | .run func => [func]
  | _ => []

/-- The tasks of a worker: the executed ones, the running one and those in its queue. -/
def ThreadData.tasks (w : ThreadData τ) : List τ := w.executed ++ w.place.running ++ w.qWorkfun

/-- The worker is at its condition variable with its flag up. -/
def ThreadData.Waits (w : ThreadData τ) : Prop := w.place = .wait ∧ w.gate.isWait = true

/-! ### The pool -/

/-- Where the sending thread is in `sentWork`: it compares the sizes of the queues, is about
to take the queue that it has found, waits for the pool, or has pushed and is about to
notify the worker. -/
inductive SenderAt (n : ℕ) (τ : Type)
  | idle
  | select (func : τ) (rest : List (Fin (n + 1))) (min : Option (Fin (n + 1)))
  | push (func : τ) (i : Fin (n + 1))
  | wait (func : τ)
  | notify (i : Fin (n + 1))

/-- The task that `sentWork` has been called with and has not pushed yet. -/
def SenderAt.held : SenderAt n τ → List τ
  | .select func _ _ | .push func _ | .wait func => [func]
  | .idle | .notify _ => []

/-- `vec_threads_`, the flag `c_isWait_` of the pool with its condition variable, the sending
thread, and the tasks that `sentWork` has been called with. -/
structure NotiThreads (n : ℕ) (τ : Type) where
  threads : Fin (n + 1) → ThreadData τ
  gate : Gate
  sender : SenderAt n τ
  calls : List τ

/-- The pool after its constructor, which leaves `c_isWait_` as it finds it. -/
def NotiThreads.start (n : ℕ) (τ : Type) (isWait : Bool) : NotiThreads n τ :=
  ⟨fun _ => .start, .ofFlag isWait, .idle, []⟩

namespace NotiThreads

/-- The pool with another state of one worker. -/
def setThread (p : NotiThreads n τ) (i : Fin (n + 1)) (w : ThreadData τ) : NotiThreads n τ :=
  { p with threads := Function.update p.threads i w }

/-- The thread that is set. -/
theorem threads_setThread_self (p : NotiThreads n τ) (i : Fin (n + 1)) (w : ThreadData τ) :
    (p.setThread i w).threads i = w := by
  simp [setThread]

/-- The other threads. -/
theorem threads_setThread_of_ne (p : NotiThreads n τ) {i j : Fin (n + 1)} (hj : j ≠ i)
    (w : ThreadData τ) : (p.setThread i w).threads j = p.threads j := by
  simp [setThread, hj]

/-- Which of the queues is kept as the shortest so far. -/
def shorter (p : NotiThreads n τ) (j : Fin (n + 1)) : Option (Fin (n + 1)) → Fin (n + 1)
  | none => j
  | some i => if (p.threads i).qWorkfun.length > (p.threads j).qWorkfun.length then j else i

/-- One step of `sentWork`. -/
def sentWork (p : NotiThreads n τ) : NotiThreads n τ :=
  match p.sender with
  | .idle => p
  | .select func (j :: rest) min => { p with sender := .select func rest (some (p.shorter j min)) }
  | .select func [] (some i) => { p with sender := .push func i }
  | .select _ [] none => p
  | .push func i =>
      if (p.threads i).qWorkfun.length < 20 then
        { p.setThread i ((p.threads i).push func) with sender := .notify i }
      else { p with sender := .wait func }
  | .wait func =>
      { p with
        gate := p.gate.test.2
        sender := if p.gate.test.1 then .select func (List.finRange (n + 1)) none
          else .wait func }
  | .notify i => { p.setThread i (p.threads i).release with sender := .idle }

/-- One step of `thread_func` of a worker. -/
def threadFunc (p : NotiThreads n τ) (i : Fin (n + 1)) : NotiThreads n τ :=
  match (p.threads i).place with
  | .notify => { p.setThread i (p.threads i).threadFunc with gate := p.gate.release }
  | _ => p.setThread i (p.threads i).threadFunc

end NotiThreads

/-- What may happen next: `sentWork` is called, one of the threads goes on, or a waiter wakes
up without a notification. -/
inductive PoolEvent (n : ℕ) (τ : Type)
  | call (func : τ)
  | sender
  | worker (i : Fin (n + 1))
  | wakeSender
  | wakeWorker (i : Fin (n + 1))

namespace NotiThreads

/-- One step of the pool. The one sending thread calls `sentWork` when it is not in it. -/
def step (p : NotiThreads n τ) : PoolEvent n τ → NotiThreads n τ
  | .call func =>
      match p.sender with
      | .idle =>
          { p with
            sender := .select func (List.finRange (n + 1)) none
            calls := p.calls ++ [func] }
      | _ => p
  | .sender => p.sentWork
  | .worker i => p.threadFunc i
  | .wakeSender => { p with gate := p.gate.wake }
  | .wakeWorker i => p.setThread i (p.threads i).wake

/-- The tasks that `sentWork` has been called with are the tasks of the workers and the one
that it still holds, each as often; the tasks of each worker are in the order of the calls. The
tasks may carry the number of their call. -/
def Accounts (p : NotiThreads n τ) : Prop :=
  ∃ pushed : List τ, p.calls = pushed ++ p.sender.held ∧
    (pushed : Multiset τ) = ∑ i, ((p.threads i).tasks : Multiset τ) ∧
    ∀ i, (p.threads i).tasks.Sublist pushed

/-- **What the pool promises.** -/
structure Correct (p : NotiThreads n τ) : Prop where
  queue_le : ∀ i, (p.threads i).qWorkfun.length ≤ 20
  accounts : p.Accounts
  /-- A worker takes a task off a queue that has one. -/
  pop_ne_nil : ∀ i, (p.threads i).place = .pop → (p.threads i).qWorkfun ≠ []
  /-- A worker waits before a filled queue only until `sentWork` notifies it. -/
  notified : ∀ i, (p.threads i).Waits → (p.threads i).qWorkfun ≠ [] → p.sender = .notify i
  /-- `sentWork` and all workers do not wait for each other. -/
  not_all_wait : ∀ func, p.sender = .wait func → p.gate.isWait = true →
    ∃ i, ¬(p.threads i).Waits

end NotiThreads

/-! ### One worker -/

/-- What holds of a worker at all times. `owed`: `sentWork` is between its push to this worker
and its notification. -/
structure ThreadInv (owed : Prop) (w : ThreadData τ) : Prop where
  queue_le : w.qWorkfun.length ≤ 20
  pop_ne_nil : w.place = .pop → w.qWorkfun ≠ []
  behind : w.place = .notify ∨ w.place = .wait → w.qWorkfun ≠ [] → w.gate.isWait = false ∨ owed

/-- A worker neither loses nor repeats nor reorders a task. -/
theorem ThreadData.tasks_threadFunc (w : ThreadData τ) : w.threadFunc.tasks = w.tasks := by
  unfold threadFunc
  cases hplace : w.place with
  | wait => cases hw : w.gate.isWait <;> simp [tasks, hplace, hw, WorkerAt.running]
  | empty => cases hq : w.qWorkfun <;> simp [tasks, hplace, hq, WorkerAt.running]
  | pop =>
      cases hq : w.qWorkfun with
      | nil => rfl
      | cons func rest => simp [tasks, hplace, hq, WorkerAt.running]
  | run func => simp [tasks, hplace, WorkerAt.running]
  | notify => simp [tasks, hplace, WorkerAt.running]

/-- A turn of the thread keeps its invariant. -/
theorem ThreadInv.threadFunc {owed : Prop} {w : ThreadData τ} (h : ThreadInv owed w) :
    ThreadInv owed w.threadFunc := by
  unfold ThreadData.threadFunc
  cases hplace : w.place with
  | wait =>
      refine ⟨h.queue_le, ?_, ?_⟩
      · cases hw : w.gate.isWait <;> simp [hw]
      · intro hat hne
        cases hw : w.gate.isWait with
        | false => simp [hw] at hat
        | true => exact .inr ((h.behind (.inr hplace) hne).resolve_left (by simp [hw]))
  | empty =>
      refine ⟨h.queue_le, ?_, ?_⟩ <;> cases hq : w.qWorkfun <;> simp
  | pop =>
      cases hq : w.qWorkfun with
      | nil => exact absurd hq (h.pop_ne_nil hplace)
      | cons func rest =>
          have hlen := h.queue_le
          rw [hq, List.length_cons] at hlen
          exact ⟨by simp; omega, by simp, by simp⟩
  | run func => exact ⟨h.queue_le, by simp, by simp⟩
  | notify => exact ⟨h.queue_le, by simp, fun _ hne => h.behind (.inl hplace) hne⟩

/-- `sentWork` pushes a task. -/
theorem ThreadInv.push {w : ThreadData τ} (func : τ) (hlen : w.qWorkfun.length < 20) :
    ThreadInv True (w.push func) where
  queue_le := by simp [ThreadData.push]; omega
  pop_ne_nil _ := by simp [ThreadData.push]
  behind _ _ := .inr trivial

/-- `sentWork` notifies the worker. -/
theorem ThreadInv.release {owed : Prop} {w : ThreadData τ} (h : ThreadInv owed w) :
    ThreadInv False w.release :=
  ⟨h.queue_le, h.pop_ne_nil, fun _ _ => .inl rfl⟩

/-- A thread that is woken up keeps its invariant. -/
theorem ThreadInv.wake {owed : Prop} {w : ThreadData τ} (h : ThreadInv owed w) :
    ThreadInv owed w.wake :=
  ⟨h.queue_le, h.pop_ne_nil, h.behind⟩

/-- What is owed may become more. -/
theorem ThreadInv.mono {owed owed' : Prop} {w : ThreadData τ} (h : ThreadInv owed w)
    (himp : owed → owed') : ThreadInv owed' w :=
  ⟨h.queue_le, h.pop_ne_nil, fun hat hne => (h.behind hat hne).imp_right himp⟩

/-- A thread has nothing to do at the start. -/
theorem ThreadInv.start (owed : Prop) : ThreadInv owed (ThreadData.start (τ := τ)) :=
  ⟨by simp [ThreadData.start], by simp [ThreadData.start], by simp [ThreadData.start]⟩

/-- A worker that comes to its condition variable with its flag up has notified the pool. -/
theorem ThreadData.place_of_waits {w : ThreadData τ} (h : w.threadFunc.Waits) :
    w.place = .notify ∨ w.Waits := by
  obtain ⟨hplace, hgate⟩ := h
  unfold threadFunc at hplace hgate
  cases hat : w.place with
  | wait =>
      cases hw : w.gate.isWait with
      | false => simp [hat, hw] at hplace
      | true => exact .inr ⟨hat, hw⟩
  | empty => cases hq : w.qWorkfun <;> simp [hat, hq] at hplace
  | pop => cases hq : w.qWorkfun <;> simp [hat, hq] at hplace
  | run func => simp [hat] at hplace
  | notify => exact .inl rfl

/-! ### The whole pool -/

namespace NotiThreads

variable {p : NotiThreads n τ}

/-- The invariant of the pool. -/
structure PoolInv (p : NotiThreads n τ) : Prop where
  thread : ∀ i, ThreadInv (p.sender = .notify i) (p.threads i)
  not_all_wait : ∀ func, p.sender = .wait func → p.gate.isWait = true →
    ∃ i, ¬(p.threads i).Waits
  accounts : p.Accounts

/-- What the invariant says of the pool. -/
theorem PoolInv.correct (h : PoolInv p) : Correct p where
  queue_le i := (h.thread i).queue_le
  accounts := h.accounts
  pop_ne_nil i := (h.thread i).pop_ne_nil
  notified i hwaits hne := by
    obtain hflag | howed := (h.thread i).behind (.inr hwaits.1) hne
    · exact absurd hwaits.2 (by simp [hflag])
    · exact howed
  not_all_wait := h.not_all_wait

/-- A worker with the same tasks in the place of a worker. -/
theorem Accounts.setThread (h : p.Accounts) {i : Fin (n + 1)} {w : ThreadData τ}
    (hw : w.tasks = (p.threads i).tasks) : (p.setThread i w).Accounts := by
  have htasks : ∀ j, ((p.setThread i w).threads j).tasks = (p.threads j).tasks := by
    intro j
    obtain rfl | hj := eq_or_ne j i
    · rw [threads_setThread_self, hw]
    · rw [threads_setThread_of_ne p hj]
  obtain ⟨pushed, hcalls, hsum, hsub⟩ := h
  refine ⟨pushed, hcalls, ?_, fun j => htasks j ▸ hsub j⟩
  rw [hsum]
  exact Finset.sum_congr rfl fun j _ => by rw [htasks j]

/-- The task that `sentWork` holds goes to a worker. -/
theorem Accounts.push (h : p.Accounts) {func : τ} (i : Fin (n + 1))
    (hheld : p.sender.held = [func]) {sender : SenderAt n τ} (hsender : sender.held = []) :
    Accounts { p.setThread i ((p.threads i).push func) with sender := sender } := by
  have htasks : ((p.threads i).push func).tasks = (p.threads i).tasks ++ [func] := by
    simp [ThreadData.tasks, ThreadData.push]
  obtain ⟨pushed, hcalls, hsum, hsub⟩ := h
  refine ⟨pushed ++ [func], ?_, ?_, fun j => ?_⟩
  · simp only [hsender, List.append_nil]
    exact hcalls.trans (by rw [hheld])
  · have hrest : ∑ j ∈ Finset.univ.erase i,
          (((p.setThread i ((p.threads i).push func)).threads j).tasks : Multiset τ) =
        ∑ j ∈ Finset.univ.erase i, ((p.threads j).tasks : Multiset τ) :=
      Finset.sum_congr rfl fun j hj => by
        rw [threads_setThread_of_ne p (Finset.ne_of_mem_erase hj)]
    rw [← Finset.sum_erase_add _ _ (Finset.mem_univ i), hrest, threads_setThread_self, htasks,
      ← Multiset.coe_add, ← Multiset.coe_add, ← add_assoc,
      Finset.sum_erase_add _ _ (Finset.mem_univ i), ← hsum]
  · change ((p.setThread i ((p.threads i).push func)).threads j).tasks.Sublist _
    obtain rfl | hj := eq_or_ne j i
    · rw [threads_setThread_self, htasks]
      exact (hsub j).append_right [func]
    · rw [threads_setThread_of_ne p hj]
      exact (hsub j).trans (List.sublist_append_left pushed [func])

/-- Steps of `sentWork` that leave its task where it is. -/
theorem Accounts.congr (h : p.Accounts) {sender : SenderAt n τ} (gate : Gate)
    (hsender : sender.held = p.sender.held) :
    Accounts { p with gate := gate, sender := sender } := by
  obtain ⟨pushed, hcalls, hsum, hsub⟩ := h
  exact ⟨pushed, by rw [hcalls, hsender], hsum, hsub⟩

/-- No call has been made. -/
theorem PoolInv.start (isWait : Bool) : PoolInv (start n τ isWait) where
  thread _ := ThreadInv.start _
  not_all_wait _ h := by cases h
  accounts := ⟨[], rfl, by simp [NotiThreads.start, ThreadData.start, ThreadData.tasks,
    WorkerAt.running], fun _ => by simp [NotiThreads.start, ThreadData.start, ThreadData.tasks,
    WorkerAt.running]⟩

/-- A worker that neither `sentWork` nor a notification of it concerns. -/
theorem PoolInv.thread_of_ne (h : PoolInv p) (hsender : ∀ i, p.sender ≠ .notify i) (owed : Prop)
    (i : Fin (n + 1)) : ThreadInv owed (p.threads i) :=
  (h.thread i).mono fun howed => absurd howed (hsender i)

/-- A call is taken if no other one is being handed on. -/
theorem PoolInv.call (h : PoolInv p) (func : τ) : PoolInv (p.step (.call func)) := by
  simp only [step]
  split
  · rename_i hidle
    refine ⟨fun i => (h.thread i).mono (by simp [hidle]), fun _ hwait => by simp at hwait, ?_⟩
    obtain ⟨pushed, hcalls, hsum, hsub⟩ := h.accounts
    exact ⟨pushed, by simp [hcalls, hidle, SenderAt.held], hsum, hsub⟩
  · exact h

/-- **A step of `sentWork`** keeps the invariant. It goes to wait only with a filled queue in
sight, so with a worker that is not at rest. -/
theorem PoolInv.sentWork (h : PoolInv p) : PoolInv p.sentWork := by
  unfold NotiThreads.sentWork
  split
  · exact h
  · rename_i func j rest min hat
    exact ⟨fun i => (h.thread i).mono (by simp [hat]), fun _ hwait => by simp at hwait,
      h.accounts.congr p.gate (by rw [hat]; rfl)⟩
  · rename_i func i hat
    exact ⟨fun i => (h.thread i).mono (by simp [hat]), fun _ hwait => by simp at hwait,
      h.accounts.congr p.gate (by rw [hat]; rfl)⟩
  · exact h
  · rename_i func i hat
    have hthread := h.thread_of_ne (by simp [hat])
    split
    · rename_i hlen
      refine ⟨fun j => ?_, fun _ hwait => by simp at hwait,
        h.accounts.push i (by rw [hat]; rfl) rfl⟩
      change ThreadInv _ ((p.setThread i ((p.threads i).push func)).threads j)
      obtain rfl | hj := eq_or_ne j i
      · rw [threads_setThread_self]
        exact (ThreadInv.push func hlen).mono fun _ => rfl
      · rw [threads_setThread_of_ne p hj]
        exact hthread _ j
    · rename_i hlen
      refine ⟨fun j => hthread _ j, fun _ _ _ => ⟨i, fun hwaits => ?_⟩,
        h.accounts.congr p.gate (by rw [hat]; rfl)⟩
      have hne : (p.threads i).qWorkfun ≠ [] := by
        intro hnil
        simp [hnil] at hlen
      have howed := h.correct.notified i hwaits hne
      simp [hat] at howed
  · rename_i func hat
    refine ⟨fun i => h.thread_of_ne (by simp [hat]) _ i, fun func' hwait hgate => ?_, ?_⟩
    · cases hflag : p.gate.isWait with
      | false => simp [hflag] at hwait
      | true => exact h.not_all_wait func hat hflag
    · refine h.accounts.congr _ ?_
      rw [hat]
      split <;> rfl
  · rename_i i hat
    refine ⟨fun j => ?_, fun _ hwait => by simp at hwait, ?_⟩
    · change ThreadInv _ ((p.setThread i (p.threads i).release).threads j)
      obtain rfl | hj := eq_or_ne j i
      · rw [threads_setThread_self]
        exact (h.thread j).release.mono False.elim
      · rw [threads_setThread_of_ne p hj]
        exact (h.thread j).mono fun howed => absurd howed (by simp [hat, Ne.symm hj])
    · have haccounts : (p.setThread i (p.threads i).release).Accounts := h.accounts.setThread rfl
      exact haccounts.congr p.gate (by change [] = p.sender.held; rw [hat]; rfl)

/-- **A step of a worker** keeps the invariant. Before it comes to rest it takes down the flag
of the pool. -/
theorem PoolInv.threadFunc (h : PoolInv p) (i : Fin (n + 1)) : PoolInv (p.threadFunc i) := by
  have hthread : ∀ j, ThreadInv (p.sender = .notify j)
      ((p.setThread i (p.threads i).threadFunc).threads j) := by
    intro j
    obtain rfl | hj := eq_or_ne j i
    · rw [threads_setThread_self]
      exact (h.thread j).threadFunc
    · rw [threads_setThread_of_ne p hj]
      exact h.thread j
  have haccounts := h.accounts.setThread (p.threads i).tasks_threadFunc
  unfold NotiThreads.threadFunc
  split
  · exact ⟨hthread, fun _ _ hgate => by simp at hgate, haccounts.congr _ rfl⟩
  · rename_i hat
    refine ⟨hthread, fun func hwait hgate => ?_, haccounts⟩
    obtain ⟨j, hj⟩ := h.not_all_wait func hwait hgate
    refine ⟨j, fun hwaits => hj ?_⟩
    obtain rfl | hji := eq_or_ne j i
    · rw [threads_setThread_self] at hwaits
      exact (ThreadData.place_of_waits hwaits).resolve_left hat
    · rwa [threads_setThread_of_ne p hji] at hwaits

/-- A worker that wakes up keeps the invariant. -/
theorem PoolInv.wakeWorker (h : PoolInv p) (i : Fin (n + 1)) :
    PoolInv (p.setThread i (p.threads i).wake) := by
  refine ⟨fun j => ?_, fun func hwait hgate => ?_, h.accounts.setThread rfl⟩
  · obtain rfl | hj := eq_or_ne j i
    · rw [threads_setThread_self]
      exact (h.thread j).wake
    · rw [threads_setThread_of_ne p hj]
      exact h.thread j
  · obtain ⟨j, hj⟩ := h.not_all_wait func hwait hgate
    refine ⟨j, fun hwaits => hj ?_⟩
    obtain rfl | hji := eq_or_ne j i
    · rwa [threads_setThread_self] at hwaits
    · rwa [threads_setThread_of_ne p hji] at hwaits

/-- **The step lemma.** -/
theorem PoolInv.step (h : PoolInv p) (e : PoolEvent n τ) : PoolInv (p.step e) := by
  cases e with
  | call func => exact h.call func
  | sender => exact h.sentWork
  | worker i => exact h.threadFunc i
  | wakeSender => exact ⟨h.thread, h.not_all_wait, h.accounts⟩
  | wakeWorker i => exact h.wakeWorker i

/-- **No work and no wakeup is lost** in a pool with `n + 1` workers, whatever the flag of the
pool is at first. -/
theorem pool_correct (n : ℕ) (isWait : Bool) (es : List (PoolEvent n τ)) :
    Correct (es.foldl step (start n τ isWait)) := by
  have hinv : PoolInv (es.foldl step (start n τ isWait)) :=
    inv_foldl_of_step (I := PoolInv) (fun _ e h => h.step e) es (PoolInv.start isWait)
  exact hinv.correct

end NotiThreads

end Yijian
