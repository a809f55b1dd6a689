import Mathlib.Algebra.Order.BigOperators.Group.Finset
import Yijian.Lib.Rounds
import Yijian.WriteWatcher

/-!
# The Write Queues Drain

That the watcher of a queue is started in the end is not yet that the queue is written. Here the
server is left to itself: the workers finish their dispatches and take no more tasks, no
connection is released, and every socket takes a frame whole. In whatever order the threads and the
callbacks have their turns, if each has one in every round, all frames of the live connections are
written after as many rounds as there is work, and the threads are at rest.

A turn that cannot be taken (a lock is held by another thread, a watcher is not active, nobody has
notified) leaves the server as it is.

The work is a number. A frame in a queue is worth the four steps of the callback that writes it, an
active watcher the three of the callback that stops it, and a connection in the vector of a worker
more than the watcher that it leads to. While the event loop is in the callback of a live
connection, the steps that it has taken there are taken off.

## Main results

* `LocksInv.step`: who holds a lock is on the way to give it back.
* `turn_lt`: a turn takes from the work, or leaves the server as it is.
* `atRest_of_stuck`: a server in which no turn does anything is at rest.
* `write_queues_drain`: from every reachable state, every run in fair rounds ends at rest.
-/

namespace Yijian

open Runs

variable {n : ℕ} {ι β : Type}

/-! ### The locks -/

/-- The connection whose callback the event loop is in. -/
def LoopAt.conn : LoopAt n ι → Option ι
  | .check c | .stop c | .write c | .pop c => some c
  | .idle | .async _ _ => none

/-- The lock is given back in every way of mounting. -/
theorem MountKind.unlock_mem {kind : MountKind} {frames : List β} :
    MountStep.unlock ∈ kind.steps frames := by
  cases kind <;> simp [steps, tail]

/-- Nothing has been done when the lock is taken. -/
theorem MountKind.nil_of_lock {kind : MountKind} {frames : List β} {done rest : List (MountStep β)}
    (h : done ++ .lock :: rest = kind.steps frames) : done = [] := by
  cases done with
  | nil => rfl
  | cons a done => exact (precedes_of_steps h a List.mem_cons_self).elim

namespace WriteState

/-- Who holds a lock is in the section that ends with its release, and the callback that writes has
a frame to write and an active watcher. -/
structure LocksInv (s : WriteState n ι β) : Prop where
  worker : ∀ c w, s.buffersPMutex c = some (.worker w) →
    ∃ done rest, s.worker w = .mount c done rest ∧ Holds done
  loop : ∀ c, s.buffersPMutex c = some .loop → s.loop = .check c ∨ s.loop = .stop c
  frame : ∀ c, s.loop = .write c ∨ s.loop = .pop c → s.buffersP c ≠ []
  active : ∀ c, s.loop.conn = some c → s.live c = true → s.active c = true

/-- No lock is taken at the start. -/
theorem LocksInv.start : LocksInv (start n ι β) where
  worker _ _ h := by cases h
  loop _ h := by cases h
  frame _ h := by obtain h | h := h <;> cases h
  active _ h := by cases h

section Changes

variable {s : WriteState n ι β}

/-- A worker moves, and keeps the lock that it holds. -/
theorem LocksInv.setWorker (h : LocksInv s) (w : Fin n) (d : DispatchAt ι β)
    (hholds : ∀ c done rest, s.worker w = .mount c done rest → Holds done →
      ∃ done' rest', d = .mount c done' rest' ∧ Holds done') :
    LocksInv { s with worker := Function.update s.worker w d } where
  worker c w' hmutex := by
    obtain ⟨done, rest, hat, hdone⟩ := h.worker c w' hmutex
    obtain rfl | hw := eq_or_ne w' w
    · obtain ⟨done', rest', hd, hdone'⟩ := hholds c done rest hat hdone
      exact ⟨done', rest', by simpa using hd, hdone'⟩
    · exact ⟨done, rest, by simpa [hw] using hat, hdone⟩
  loop := h.loop
  frame := h.frame
  active := h.active

/-- A worker that is not mounting holds no lock. -/
theorem LocksInv.setWorker_of_not_mount (h : LocksInv s) {w : Fin n}
    (hat : ∀ c done rest, s.worker w ≠ .mount c done rest) (d : DispatchAt ι β) :
    LocksInv { s with worker := Function.update s.worker w d } :=
  h.setWorker w d fun c done rest hat' => absurd hat' (hat c done rest)

/-- The event loop moves without a lock. -/
theorem LocksInv.setLoop (h : LocksInv s) (l : LoopAt n ι)
    (hfree : ∀ c, s.buffersPMutex c ≠ some .loop)
    (hframe : ∀ c, l = .write c ∨ l = .pop c → s.buffersP c ≠ [])
    (hactive : ∀ c, l.conn = some c → s.live c = true → s.active c = true) :
    LocksInv { s with loop := l } where
  worker := h.worker
  loop c hmutex := absurd hmutex (hfree c)
  frame := hframe
  active := hactive

/-- The event loop holds no lock outside the two places. -/
theorem LocksInv.loop_free (h : LocksInv s) (hcheck : ∀ c, s.loop ≠ .check c)
    (hstop : ∀ c, s.loop ≠ .stop c) (c : ι) : s.buffersPMutex c ≠ some .loop :=
  fun hmutex => (h.loop c hmutex).elim (hcheck c) (hstop c)

variable [DecidableEq ι]

/-- A queue grows. -/
theorem LocksInv.push (h : LocksInv s) (c : ι) (frame : β) :
    LocksInv { s with buffersP := Function.update s.buffersP c (s.buffersP c ++ [frame]) } where
  worker := h.worker
  loop := h.loop
  frame c' hat := by
    obtain rfl | hc := eq_or_ne c' c
    · simp
    · simpa [hc] using h.frame c' hat
  active := h.active

/-- A lock is given back. -/
theorem LocksInv.free (h : LocksInv s) (c : ι) :
    LocksInv { s with buffersPMutex := Function.update s.buffersPMutex c none } where
  worker c' w hmutex := by
    obtain rfl | hc := eq_or_ne c' c
    · simp at hmutex
    · exact h.worker c' w (by simpa [hc] using hmutex)
  loop c' hmutex := by
    obtain rfl | hc := eq_or_ne c' c
    · simp at hmutex
    · exact h.loop c' (by simpa [hc] using hmutex)
  frame := h.frame
  active := h.active

/-- A worker takes a lock that is free. -/
theorem LocksInv.lock (h : LocksInv s) {w : Fin n} {c : ι} {done rest : List (MountStep β)}
    (hat : s.worker w = .mount c done (.lock :: rest)) (hfree : s.buffersPMutex c = none)
    (hdone : done = []) : LocksInv { s with
      buffersPMutex := Function.update s.buffersPMutex c (some (.worker w))
      worker := Function.update s.worker w (.mount c (done ++ [.lock]) rest) } where
  worker c' w' hmutex := by
    obtain rfl | hc := eq_or_ne c' c
    · obtain rfl : w = w' := by simpa using hmutex
      exact ⟨_, _, Function.update_self .., by simp [Holds, hdone]⟩
    · obtain ⟨done', rest', hat', hdone'⟩ := h.worker c' w' (by simpa [hc] using hmutex)
      obtain rfl | hw := eq_or_ne w' w
      · rw [hat] at hat'
        cases hat'
        exact absurd rfl hc
      · exact ⟨done', rest', by simpa [hw] using hat', hdone'⟩
  loop c' hmutex := by
    obtain rfl | hc := eq_or_ne c' c
    · simp at hmutex
    · exact h.loop c' (by simpa [hc] using hmutex)
  frame := h.frame
  active := h.active

/-- A worker gives its lock back. -/
theorem LocksInv.unlock (h : LocksInv s) {w : Fin n} {c : ι} {done rest : List (MountStep β)}
    (hat : s.worker w = .mount c done (.unlock :: rest)) (d : DispatchAt ι β) :
    LocksInv { s with
      buffersPMutex := Function.update s.buffersPMutex c none
      worker := Function.update s.worker w d } where
  worker c' w' hmutex := by
    obtain rfl | hc := eq_or_ne c' c
    · simp at hmutex
    · obtain ⟨done', rest', hat', hdone'⟩ := h.worker c' w' (by simpa [hc] using hmutex)
      obtain rfl | hw := eq_or_ne w' w
      · rw [hat] at hat'
        cases hat'
        exact absurd rfl hc
      · exact ⟨done', rest', by simpa [hw] using hat', hdone'⟩
  loop := (h.free c).loop
  frame := h.frame
  active := h.active

end Changes

variable {s : WriteState n ι β} [DecidableEq ι]

/-- A step of mounting. -/
theorem LocksInv.mountStep (h : LocksInv s) (hwrite : WriteInv s) {w : Fin n} {c : ι}
    {done rest : List (MountStep β)} {m : MountStep β}
    (hat : s.worker w = .mount c done (m :: rest)) : LocksInv (s.mountStep w c done rest m) := by
  obtain ⟨kind, frames, hsteps⟩ := hwrite.steps w c done _ hat
  have hmoves : m ≠ .unlock → LocksInv { s with
      worker := Function.update s.worker w (.mount c (done ++ [m]) rest) } := by
    intro hm
    refine h.setWorker w _ fun c' done' rest' hat' hdone' => ?_
    rw [hat] at hat'
    cases hat'
    refine ⟨_, _, rfl, List.mem_append_left _ hdone'.1, ?_⟩
    rw [List.mem_append, List.mem_singleton]
    exact not_or.mpr ⟨hdone'.2, Ne.symm hm⟩
  cases m with
  | lock =>
      cases hmutex : s.buffersPMutex c with
      | some o => simpa [WriteState.mountStep, hmutex] using h
      | none =>
          simp only [WriteState.mountStep, hmutex]
          exact h.lock hat hmutex (MountKind.nil_of_lock hsteps)
  | push frame => exact (hmoves (by simp)).push c frame
  | pushPingnode => exact ⟨(hmoves (by simp)).worker, h.loop, h.frame, h.active⟩
  | unlock => exact h.unlock hat _

/-- A step of a worker. -/
theorem LocksInv.workerStep (h : LocksInv s) (hwrite : WriteInv s) (w : Fin n) :
    LocksInv (s.workerStep w) := by
  unfold WriteState.workerStep
  split
  · rename_i hat
    exact h.setWorker_of_not_mount (by simp [hat]) _
  · rename_i hat
    exact h.setWorker_of_not_mount (by simp [hat]) _
  · rename_i c done hat
    refine h.setWorker w _ fun c' done' rest' hat' hdone' => ?_
    -- All steps are done, so the lock has been given back.
    obtain ⟨kind, frames, hsteps⟩ := hwrite.steps w c done _ hat
    rw [List.append_nil] at hsteps
    rw [hat] at hat'
    cases hat'
    exact absurd (hsteps ▸ MountKind.unlock_mem) hdone'.2
  · rename_i hat
    exact h.mountStep hwrite hat
  · rename_i hat
    have hmoved := h.setWorker_of_not_mount (w := w) (by simp [hat]) .idle
    exact ⟨hmoved.worker, hmoved.loop, hmoved.frame, hmoved.active⟩

omit [DecidableEq ι] in
/-- The write callback finds the queue empty, and keeps the lock to stop the watcher. -/
theorem LocksInv.checkEmpty (h : LocksInv s) {c : ι} (hat : s.loop = .check c) :
    LocksInv { s with loop := .stop c } := by
  refine ⟨h.worker, fun c' hmutex => .inr ?_, by simp, fun c' hc' hlive => ?_⟩
  · obtain heq | heq := h.loop c' hmutex
    · rw [hat] at heq
      cases heq
      rfl
    · rw [hat] at heq
      cases heq
  · exact h.active c' (by rw [hat]; exact hc') hlive

/-- The write callback finds a frame, and gives the lock back to write it. -/
theorem LocksInv.checkFrame (h : LocksInv s) {c : ι} (hat : s.loop = .check c)
    (hqueue : s.buffersP c ≠ []) :
    LocksInv
      { s with buffersPMutex := Function.update s.buffersPMutex c none, loop := .write c } := by
  refine ⟨(h.free c).worker, fun c' hmutex => ?_, ?_, fun c' hc' hlive => ?_⟩
  · obtain heq | heq := (h.free c).loop c' hmutex
    · rw [hat] at heq
      cases heq
      simp at hmutex
    · rw [hat] at heq
      cases heq
  · rintro c' (heq | heq) <;> cases heq
    exact hqueue
  · exact h.active c' (by rw [hat]; exact hc') hlive

/-- The write callback has stopped the watcher, and gives the lock back. -/
theorem LocksInv.stopWatch (h : LocksInv s) {c : ι} (hat : s.loop = .stop c) (active : ι → Bool) :
    LocksInv
      { s with
        active := active
        buffersPMutex := Function.update s.buffersPMutex c none
        loop := .idle } := by
  refine ⟨(h.free c).worker, fun c' hmutex => ?_, by simp, nofun⟩
  obtain heq | heq := (h.free c).loop c' hmutex
  · rw [hat] at heq
    cases heq
  · rw [hat] at heq
    cases heq
    simp at hmutex

/-- A step of the event loop. -/
theorem LocksInv.loopStep (h : LocksInv s) (finish : Bool) : LocksInv (s.loopStep finish) := by
  unfold WriteState.loopStep
  split
  · exact h
  · rename_i threads c nodes hat
    have hmoved : LocksInv { s with loop := .async threads nodes } :=
      h.setLoop _ (h.loop_free (by simp [hat]) (by simp [hat])) (by simp) nofun
    exact ⟨hmoved.worker, hmoved.loop, hmoved.frame, nofun⟩
  · rename_i w threads hat
    have hmoved : LocksInv { s with loop := .async threads (s.vPingnode w) } :=
      h.setLoop _ (h.loop_free (by simp [hat]) (by simp [hat])) (by simp) nofun
    exact ⟨hmoved.worker, hmoved.loop, hmoved.frame, nofun⟩
  · rename_i hat
    exact h.setLoop _ (h.loop_free (by simp [hat]) (by simp [hat])) (by simp) nofun
  · rename_i c hat
    split
    · exact h.checkEmpty hat
    · rename_i b rest hqueue
      exact h.checkFrame hat (by rw [hqueue]; exact List.cons_ne_nil _ _)
  · rename_i c hat
    exact h.stopWatch hat _
  · rename_i c hat
    refine h.setLoop _ (h.loop_free (by simp [hat]) (by simp [hat])) ?_ ?_
    · cases finish
      · simp
      · rintro c' (heq | heq) <;> cases heq
        exact h.frame c (.inl hat)
    · intro c' hc' hlive
      cases finish
      · cases hc'
      · exact h.active c' (by rw [hat]; exact hc') hlive
  · rename_i c hat
    split
    · exact h
    · have hmoved : LocksInv { s with loop := .idle } :=
        h.setLoop _ (h.loop_free (by simp [hat]) (by simp [hat])) (by simp) nofun
      exact ⟨hmoved.worker, hmoved.loop, by simp, nofun⟩

/-- **Every step** keeps the locks with the threads that will give them back. -/
theorem LocksInv.step (h : LocksInv s) (hwrite : WriteInv s) (e : WriteEvent n ι β) :
    LocksInv (s.step e) := by
  cases e with
  | mount w kind c frames =>
      simp only [WriteState.step]
      split
      · rename_i hat
        exact h.setWorker_of_not_mount (by simp [hat]) _
      · exact h
  | worker w => exact h.workerStep hwrite w
  | async =>
      simp only [WriteState.step]
      split
      · rename_i hat
        have hmoved : LocksInv { s with loop := .async (List.finRange n) [] } :=
          h.setLoop _ (h.loop_free (by simp [hat]) (by simp [hat])) (by simp)
            fun c hc => absurd hc (Option.some_ne_none c).symm
        exact ⟨hmoved.worker, hmoved.loop, hmoved.frame, hmoved.active⟩
      · exact h
  | writable c =>
      simp only [WriteState.step]
      split
      · rename_i hat hactive hlive hlock
        refine ⟨fun c' w hmutex => ?_, fun c' hmutex => .inl ?_, by simp, fun c' hc' _ => ?_⟩
        · obtain rfl | hc := eq_or_ne c' c
          · simp at hmutex
          · exact h.worker c' w (by simpa [hc] using hmutex)
        · obtain rfl | hc := eq_or_ne c' c
          · rfl
          · obtain heq | heq := h.loop c' (by simpa [hc] using hmutex) <;> simp [hat] at heq
        · obtain rfl : c = c' := Option.some.inj hc'
          exact hactive
      · rename_i hat hactive hlive
        refine ⟨h.worker, h.loop, h.frame, fun c' hc' => ?_⟩
        rw [hat] at hc'
        cases hc'
      · exact h
  | loop finish => exact h.loopStep finish
  | release c =>
      refine ⟨h.worker, h.loop, h.frame, fun c' hc' hlive => ?_⟩
      obtain rfl | hc := eq_or_ne c' c
      · simp [WriteState.step] at hlive
      · simp only [WriteState.step, Function.update_of_ne hc] at hlive ⊢
        exact h.active c' hc' hlive

/-! ### Turns -/

end WriteState

/-- Whose turn it is: a worker, `start_write_callback`, the write callback of a connection, or the
event loop in its callback. -/
inductive WriteTurn (n : ℕ) (ι : Type)
  | worker (w : Fin n)
  | async
  | writable (c : ι)
  | loop

namespace WriteState

variable [DecidableEq ι] {s : WriteState n ι β}

/-- A turn of a server that gets nothing more to do: an idle worker takes no task, and the async
callback runs when it has been notified. The sockets take every frame whole. -/
def turn (s : WriteState n ι β) : WriteTurn n ι → WriteState n ι β
  | .worker w =>
      match s.worker w with
      | .idle => s
      | _ => s.step (.worker w)
  | .async => if s.pending then s.step .async else s
  | .writable c => s.step (.writable c)
  | .loop => s.step (.loop true)

/-- The turns of all threads and callbacks, with the connections `cs`. -/
def turns (n : ℕ) (cs : List ι) : List (WriteTurn n ι) :=
  .async :: .loop :: ((List.finRange n).map .worker ++ cs.map .writable)

/-- A turn is a step, or nothing happens. -/
theorem turn_eq (s : WriteState n ι β) (e : WriteTurn n ι) :
    s.turn e = s ∨ ∃ e', s.turn e = s.step e' := by
  cases e with
  | worker w =>
      simp only [turn]
      split
      · exact .inl rfl
      · exact .inr ⟨_, rfl⟩
  | async =>
      simp only [turn]
      split
      · exact .inr ⟨_, rfl⟩
      · exact .inl rfl
  | writable c => exact .inr ⟨.writable c, rfl⟩
  | loop => exact .inr ⟨.loop true, rfl⟩

/-- The invariants of the server. -/
def DrainInv (s : WriteState n ι β) : Prop := WriteInv s ∧ LocksInv s

/-- Every turn keeps the invariant. -/
theorem DrainInv.turn (h : DrainInv s) (e : WriteTurn n ι) : DrainInv (s.turn e) := by
  obtain heq | ⟨e', heq⟩ := s.turn_eq e
  · rw [heq]
    exact h
  · rw [heq]
    exact ⟨h.1.step e', h.2.step h.1 e'⟩

/-! ### The work -/

end WriteState

/-- What a step of mounting is worth. -/
def MountStep.work : MountStep β → ℕ
  | .lock | .unlock => 1
  | .push _ | .pushPingnode => 5

/-- What is left of a dispatch, with the notification at its end. -/
def DispatchAt.work (n : ℕ) : DispatchAt ι β → ℕ
  | .idle => 0
  | .dispatch => n + 4
  | .mount _ _ rest => n + 5 + (rest.map MountStep.work).sum
  | .send => n + 3

/-- What is left of `start_write_callback`. -/
def LoopAt.asyncWork : LoopAt n ι → ℕ
  | .async threads nodes => 1 + threads.length + 4 * nodes.length
  | _ => 0

/-- How many steps of the write callback are taken. -/
def LoopAt.progress : LoopAt n ι → ℕ
  | .check _ => 1
  | .stop _ | .write _ => 2
  | .pop _ => 3
  | .idle | .async _ _ => 0

namespace WriteState

/-- What the callback of a released connection has yet to do. -/
def deadWork (s : WriteState n ι β) : ℕ :=
  s.loop.conn.elim 0 fun c => bif s.live c then 0 else 4 - s.loop.progress

/-- What the callback of a live connection has done. -/
def credit (s : WriteState n ι β) : ℕ :=
  s.loop.conn.elim 0 fun c => bif s.live c then s.loop.progress else 0

/-- What the queue and the watcher of a connection are worth. -/
def connWork (live active : Bool) (queue : List β) : ℕ :=
  (bif live then 4 * queue.length else 0) + bif active then 3 else 0

variable [Fintype ι]

/-- The work in the queues, with the watchers. -/
def queueWork (s : WriteState n ι β) : ℕ :=
  ∑ c, connWork (s.live c) (s.active c) (s.buffersP c)

/-- The work of the workers, with their vectors. -/
def workerWork (s : WriteState n ι β) : ℕ :=
  ∑ w, ((s.worker w).work n + 4 * (s.vPingnode w).length)

/-- The work of the server. -/
def work (s : WriteState n ι β) : ℕ :=
  s.queueWork + s.workerWork + (bif s.pending then n + 2 else 0) + s.loop.asyncWork +
    s.deadWork - s.credit

variable {s : WriteState n ι β}

/-- A connection is part of the work. -/
theorem connWork_le (s : WriteState n ι β) (c : ι) :
    connWork (s.live c) (s.active c) (s.buffersP c) ≤ s.queueWork :=
  Finset.single_le_sum (f := fun c => connWork (s.live c) (s.active c) (s.buffersP c))
    (fun _ _ => Nat.zero_le _) (Finset.mem_univ c)

omit [Fintype ι] in
/-- In the callback of a live connection the watcher is active. -/
theorem LocksInv.le_connWork (h : LocksInv s) {c : ι} (hat : s.loop.conn = some c)
    (hlive : s.live c = true) : 3 ≤ connWork (s.live c) (s.active c) (s.buffersP c) := by
  rw [connWork, h.active c hat hlive, cond_true]
  omega

/-- The steps that are taken off are worth no more than the watcher. -/
theorem LocksInv.credit_le (h : LocksInv s) : s.credit ≤ s.queueWork := by
  cases hat : s.loop.conn with
  | none =>
      rw [credit, hat]
      exact Nat.zero_le _
  | some c =>
      rw [credit, hat, Option.elim_some]
      cases hlive : s.live c with
      | false => exact Nat.zero_le _
      | true =>
          have hle : s.loop.progress ≤ 3 := by
            cases s.loop <;> simp [LoopAt.progress]
          exact hle.trans ((h.le_connWork hat hlive).trans (s.connWork_le c))

/-- A queue that grows by a frame. -/
theorem connWork_append (live active : Bool) (queue : List β) (frame : β) :
    connWork live active queue ≤ connWork live active (queue ++ [frame]) ∧
      connWork live active (queue ++ [frame]) ≤ connWork live active queue + 4 := by
  simp only [connWork, List.length_append, List.length_singleton]
  cases live <;> simp only [cond_true, cond_false] <;> omega

/-- A change of the worker, of its vector, and of one queue, which grows. -/
theorem work_lt_of_worker [DecidableEq ι] (h : LocksInv s) {w : Fin n} {c : ι}
    {d : DispatchAt ι β} {nodes : List ι} {queue : List β} {mutex : ι → Option (Owner n)}
    (hle : connWork (s.live c) (s.active c) (s.buffersP c) ≤
      connWork (s.live c) (s.active c) queue)
    (hlt : d.work n + 4 * nodes.length + connWork (s.live c) (s.active c) queue <
      (s.worker w).work n + 4 * (s.vPingnode w).length +
        connWork (s.live c) (s.active c) (s.buffersP c)) :
    WriteState.work { s with
      buffersP := Function.update s.buffersP c queue
      buffersPMutex := mutex
      vPingnode := Function.update s.vPingnode w nodes
      worker := Function.update s.worker w d } < s.work := by
  have hcredit := h.credit_le
  have hworker := sum_change w
    (f := fun j => (Function.update s.worker w d j).work n +
      4 * (Function.update s.vPingnode w nodes j).length)
    (g := fun j => (s.worker j).work n + 4 * (s.vPingnode j).length)
    fun j hj => by simp only [Function.update_of_ne hj]
  have hqueue := sum_change c
    (f := fun j => connWork (s.live j) (s.active j) (Function.update s.buffersP c queue j))
    (g := fun j => connWork (s.live j) (s.active j) (s.buffersP j))
    fun j hj => by simp only [Function.update_of_ne hj]
  simp only [Function.update_self] at hworker hqueue
  simp only [work, queueWork, workerWork, deadWork, credit] at hcredit ⊢
  omega

/-- **A step of mounting** takes from the work, or waits for a lock. -/
theorem mountStep_lt [DecidableEq ι] (h : LocksInv s) {w : Fin n} {c : ι}
    {done rest : List (MountStep β)} {m : MountStep β}
    (hat : s.worker w = .mount c done (m :: rest)) :
    s.mountStep w c done rest m = s ∨ (s.mountStep w c done rest m).work < s.work := by
  have hwork : (s.worker w).work n = n + 5 + (m.work + (rest.map MountStep.work).sum) := by
    rw [hat, DispatchAt.work, List.map_cons, List.sum_cons]
  have hmoved (nodes : List ι) (queue : List β) (mutex : ι → Option (Owner n))
      (hle : connWork (s.live c) (s.active c) (s.buffersP c) ≤
        connWork (s.live c) (s.active c) queue)
      (hlt : 4 * nodes.length + connWork (s.live c) (s.active c) queue < m.work +
        4 * (s.vPingnode w).length + connWork (s.live c) (s.active c) (s.buffersP c)) :
      WriteState.work { s with
        buffersP := Function.update s.buffersP c queue
        buffersPMutex := mutex
        vPingnode := Function.update s.vPingnode w nodes
        worker := Function.update s.worker w (.mount c (done ++ [m]) rest) } < s.work :=
    work_lt_of_worker h hle (by rw [hwork, DispatchAt.work]; omega)
  have hqueue (mutex : ι → Option (Owner n)) := hmoved (s.vPingnode w) (s.buffersP c) mutex le_rfl
  simp only [Function.update_eq_self] at hqueue
  cases m with
  | lock =>
      cases hmutex : s.buffersPMutex c with
      | some o => simp [WriteState.mountStep, hmutex]
      | none =>
          simp only [WriteState.mountStep, hmutex]
          exact .inr (hqueue _ (by simp only [MountStep.work]; omega))
  | push frame =>
      obtain ⟨hge, hle⟩ := connWork_append (s.live c) (s.active c) (s.buffersP c) frame
      have hlt := hmoved (s.vPingnode w) (s.buffersP c ++ [frame]) s.buffersPMutex hge
        (by simp only [MountStep.work]; omega)
      simp only [Function.update_eq_self] at hlt
      exact .inr hlt
  | pushPingnode =>
      have hlt := hmoved (s.vPingnode w ++ [c]) (s.buffersP c) s.buffersPMutex le_rfl
        (by simp only [MountStep.work, List.length_append, List.length_singleton]; omega)
      simp only [Function.update_eq_self] at hlt
      exact .inr hlt
  | unlock => exact .inr (hqueue _ (by simp only [MountStep.work]; omega))

/-- **A step of a worker** that is not idle takes from the work, or waits for a lock. -/
theorem workerStep_lt [DecidableEq ι] (h : LocksInv s) {w : Fin n} (hidle : s.worker w ≠ .idle) :
    s.workerStep w = s ∨ (s.workerStep w).work < s.work := by
  have hcredit := h.credit_le
  -- the place of the worker is all that changes in the work of the workers
  have hworker (d : DispatchAt ι β) := sum_change w
    (f := fun j => (Function.update s.worker w d j).work n + 4 * (s.vPingnode j).length)
    (g := fun j => (s.worker j).work n + 4 * (s.vPingnode j).length)
    fun j hj => by simp only [Function.update_of_ne hj]
  simp only [Function.update_self] at hworker
  unfold workerStep
  split
  · rename_i hat
    exact absurd hat hidle
  · rename_i hat
    have hsum := hworker .send
    rw [hat] at hsum
    right
    simp only [work, queueWork, workerWork, deadWork, credit, DispatchAt.work] at hsum hcredit ⊢
    omega
  · rename_i c done hat
    have hsum := hworker .dispatch
    rw [hat] at hsum
    right
    simp only [work, queueWork, workerWork, deadWork, credit, DispatchAt.work, List.map_nil,
      List.sum_nil] at hsum hcredit ⊢
    omega
  · rename_i c done m rest hat
    exact mountStep_lt h hat
  · rename_i hat
    have hsum := hworker .idle
    rw [hat] at hsum
    right
    simp only [work, queueWork, workerWork, deadWork, credit, DispatchAt.work, cond_true]
      at hsum hcredit ⊢
    cases s.pending <;> simp only [cond_true, cond_false] <;> omega

/-- **A step forward** in the callback of a connection. -/
theorem LocksInv.progress_lt (h : LocksInv s) {c : ι} {l : LoopAt n ι}
    {mutex : ι → Option (Owner n)} (hat : s.loop.conn = some c) (hl : l.conn = some c)
    (hasync : l.asyncWork = s.loop.asyncWork) (hlt : s.loop.progress < l.progress)
    (hle : l.progress ≤ 3) :
    WriteState.work { s with buffersPMutex := mutex, loop := l } < s.work := by
  have hle' := s.connWork_le c
  simp only [work, queueWork, workerWork, deadWork, credit, hat, hl, Option.elim_some, hasync]
    at hle' ⊢
  cases hlive : s.live c with
  | false =>
      simp only [cond_false]
      omega
  | true =>
      have hge := h.le_connWork hat hlive
      simp only [cond_true]
      omega

/-- A watcher that is started or stopped. -/
theorem sum_active [DecidableEq ι] (s : WriteState n ι β) (c : ι) (b : Bool) :
    ∑ j, connWork (s.live j) (Function.update s.active c b j) (s.buffersP j) +
        connWork (s.live c) (s.active c) (s.buffersP c) =
      s.queueWork + connWork (s.live c) b (s.buffersP c) := by
  have hsum := sum_change c
    (f := fun j => connWork (s.live j) (Function.update s.active c b j) (s.buffersP j))
    (g := fun j => connWork (s.live j) (s.active j) (s.buffersP j))
    fun j hj => by simp only [Function.update_of_ne hj]
  simp only [Function.update_self] at hsum
  exact hsum

/-- A watcher that the async callback starts: its connection costs less than the turn saves. -/
theorem startWatch_lt [DecidableEq ι] {threads : List (Fin n)} {c : ι} {nodes : List ι}
    (hat : s.loop = .async threads (c :: nodes)) :
    WriteState.work
      { s with active := Function.update s.active c true, loop := .async threads nodes } <
        s.work := by
  have hsum := s.sum_active c true
  have hle : connWork (s.live c) true (s.buffersP c) ≤
      connWork (s.live c) (s.active c) (s.buffersP c) + 3 := by
    simp only [connWork, cond_true]
    omega
  simp only [work, queueWork, workerWork, deadWork, credit, hat, LoopAt.conn, Option.elim_none,
    LoopAt.asyncWork, List.length_cons] at hsum ⊢
  omega

/-- The vector of a thread that the async callback takes over: what is in it goes from the thread
to the callback, which has one turn less to go. -/
theorem takeVector_lt {w : Fin n} {threads : List (Fin n)}
    (hat : s.loop = .async (w :: threads) []) :
    WriteState.work
      { s with
        vPingnode := Function.update s.vPingnode w []
        loop := .async threads (s.vPingnode w) } < s.work := by
  have hsum := sum_change w
    (f := fun j => (s.worker j).work n + 4 * (Function.update s.vPingnode w [] j).length)
    (g := fun j => (s.worker j).work n + 4 * (s.vPingnode j).length)
    fun j hj => by simp only [Function.update_of_ne hj]
  simp only [Function.update_self, List.length_nil] at hsum
  simp only [work, queueWork, workerWork, deadWork, credit, hat, LoopAt.conn, Option.elim_none,
    LoopAt.asyncWork, List.length_cons, List.length_nil] at hsum ⊢
  omega

/-- A watcher that the write callback stops. -/
theorem LocksInv.stopWatch_lt [DecidableEq ι] (h : LocksInv s) {c : ι} (hat : s.loop = .stop c)
    (mutex : ι → Option (Owner n)) :
    WriteState.work
      { s with
        active := Function.update s.active c false
        buffersPMutex := mutex
        loop := .idle } < s.work := by
  have hsum := s.sum_active c false
  have hle := s.connWork_le c
  simp only [work, queueWork, workerWork, deadWork, credit, hat, LoopAt.conn, Option.elim_some,
    Option.elim_none, LoopAt.asyncWork, LoopAt.progress] at hsum hle ⊢
  cases hlive : s.live c with
  | false =>
      simp only [connWork, hlive, cond_false] at hsum hle ⊢
      omega
  | true =>
      have hactive := h.active c (by rw [hat]; rfl) hlive
      simp only [connWork, hlive, hactive, cond_true, cond_false] at hsum hle ⊢
      omega

/-- A frame that has been written and is taken off its queue. -/
theorem LocksInv.popFrame_lt [DecidableEq ι] (h : LocksInv s) {c : ι} (hat : s.loop = .pop c) :
    WriteState.work
      { s with
        buffersP := Function.update s.buffersP c (s.buffersP c).tail
        loop := .idle } < s.work := by
  obtain ⟨b, rest, hqueue⟩ := List.exists_cons_of_ne_nil (h.frame c (.inr hat))
  have hsum := sum_change c
    (f := fun j =>
      connWork (s.live j) (s.active j) (Function.update s.buffersP c (s.buffersP c).tail j))
    (g := fun j => connWork (s.live j) (s.active j) (s.buffersP j))
    fun j hj => by simp only [Function.update_of_ne hj]
  have hle := s.connWork_le c
  simp only [Function.update_self, hqueue, List.tail_cons] at hsum
  simp only [work, queueWork, workerWork, deadWork, credit, hat, LoopAt.conn, Option.elim_some,
    Option.elim_none, LoopAt.asyncWork, LoopAt.progress, hqueue, List.tail_cons] at hsum hle ⊢
  cases hlive : s.live c with
  | false =>
      simp only [connWork, hlive, cond_false] at hsum hle ⊢
      omega
  | true =>
      have hactive := h.active c (by rw [hat]; rfl) hlive
      simp only [connWork, hlive, hactive, cond_true, List.length_cons] at hsum hle ⊢
      omega

/-- **A step of the event loop** takes from the work, or waits for a lock. -/
theorem loopStep_lt [DecidableEq ι] (h : LocksInv s) :
    s.loopStep true = s ∨ (s.loopStep true).work < s.work := by
  unfold loopStep
  split
  · exact .inl rfl
  · rename_i threads c nodes hat
    exact .inr (startWatch_lt hat)
  · rename_i w threads hat
    exact .inr (takeVector_lt hat)
  · rename_i hat
    right
    simp only [work, queueWork, workerWork, deadWork, credit, hat, LoopAt.conn, Option.elim_none,
      LoopAt.asyncWork]
    omega
  · rename_i c hat
    right
    split
    · exact h.progress_lt (c := c) (by rw [hat]; rfl) rfl (by rw [hat]; rfl)
        (by simp [hat, LoopAt.progress]) (by simp [LoopAt.progress])
    · exact h.progress_lt (c := c) (by rw [hat]; rfl) rfl (by rw [hat]; rfl)
        (by simp [hat, LoopAt.progress]) (by simp [LoopAt.progress])
  · rename_i c hat
    exact .inr (h.stopWatch_lt hat _)
  · rename_i c hat
    exact .inr (h.progress_lt (c := c) (by rw [hat]; rfl) rfl (by rw [hat]; rfl)
      (by simp [hat, LoopAt.progress]) (by simp [LoopAt.progress]))
  · rename_i c hat
    split
    · exact .inl rfl
    · exact .inr (h.popFrame_lt hat)

/-- The write callback of a watcher that is entered, or stops. -/
theorem writable_lt [DecidableEq ι] (s : WriteState n ι β) (c : ι) :
    s.step (.writable c) = s ∨ (s.step (.writable c)).work < s.work := by
  have hle := s.connWork_le c
  simp only [step]
  split
  · rename_i hat hactive hlive hlock
    right
    simp only [work, queueWork, workerWork, deadWork, credit, hat, LoopAt.conn, Option.elim_some,
      Option.elim_none, LoopAt.asyncWork, LoopAt.progress, hlive, cond_true] at hle ⊢
    simp only [connWork, hactive, cond_true] at hle ⊢
    omega
  · rename_i hat hactive hlive
    right
    have hsum := s.sum_active c false
    simp only [work, queueWork, workerWork, deadWork, credit, hat, LoopAt.conn, Option.elim_none]
      at hsum hle ⊢
    simp only [connWork, hlive, hactive, cond_true, cond_false] at hsum hle ⊢
    omega
  · exact .inl rfl

/-- The async callback that is entered. -/
theorem async_lt [DecidableEq ι] (hpending : s.pending = true) :
    s.step .async = s ∨ (s.step .async).work < s.work := by
  simp only [step]
  split
  · rename_i hat
    right
    simp only [work, queueWork, workerWork, deadWork, credit, hat, hpending, LoopAt.conn,
      Option.elim_none, LoopAt.asyncWork, cond_true, cond_false, List.length_finRange,
      List.length_nil]
    omega
  · exact .inl rfl

/-- **A turn** takes from the work, or leaves the server as it is. -/
theorem turn_lt [DecidableEq ι] (h : LocksInv s) (e : WriteTurn n ι) :
    s.turn e = s ∨ (s.turn e).work < s.work := by
  cases e with
  | worker w =>
      simp only [turn]
      split
      · exact .inl rfl
      · rename_i hidle
        exact workerStep_lt h hidle
  | async =>
      simp only [turn]
      split
      · rename_i hpending
        exact async_lt hpending
      · exact .inl rfl
  | writable c => exact writable_lt s c
  | loop => exact loopStep_lt h

/-! ### Rest -/

/-- The workers have nothing in hand, the event loop waits without a watcher or a notification, and
the queues of the live connections are empty. -/
structure AtRest (s : WriteState n ι β) : Prop where
  worker : ∀ w, s.worker w = .idle
  vPingnode : ∀ w, s.vPingnode w = []
  pending : s.pending = false
  loop : s.loop = .idle
  active : ∀ c, s.active c = false
  written : ∀ c, s.live c = true → s.buffersP c = []

/-- At rest there is no work. -/
theorem AtRest.work_eq (h : s.AtRest) : s.work = 0 := by
  have hconn (c : ι) : connWork (s.live c) (s.active c) (s.buffersP c) = 0 := by
    rw [connWork, h.active]
    cases hlive : s.live c with
    | false => rfl
    | true => rw [h.written c hlive]; rfl
  simp [work, queueWork, workerWork, deadWork, credit, h.worker, h.vPingnode, h.pending, h.loop,
    hconn, DispatchAt.work, LoopAt.conn, LoopAt.asyncWork]

section Stuck

variable [DecidableEq ι]

omit [Fintype ι] in
/-- A worker that has a turn moves on, unless it waits for a lock. -/
theorem waits_of_stuck {w : Fin n} (h : s.turn (.worker w) = s) (hidle : s.worker w ≠ .idle) :
    ∃ c done rest o, s.worker w = .mount c done (.lock :: rest) ∧ s.buffersPMutex c = some o := by
  have hstep : s.workerStep w = s := by
    simp only [turn] at h
    exact h
  have hworker : (s.workerStep w).worker w = s.worker w := by rw [hstep]
  unfold workerStep at hworker
  cases hat : s.worker w with
  | idle => exact absurd hat hidle
  | dispatch => simp [hat] at hworker
  | send => simp [hat] at hworker
  | mount c done rest =>
      cases rest with
      | nil => simp [hat] at hworker
      | cons m rest =>
          simp only [hat] at hworker
          cases m with
          | lock =>
              cases hmutex : s.buffersPMutex c with
              | some o => exact ⟨c, done, rest, o, rfl, hmutex⟩
              | none => simp [mountStep, hmutex] at hworker
          | push frame => simp [mountStep] at hworker
          | pushPingnode => simp [mountStep] at hworker
          | unlock => simp [mountStep] at hworker

omit [Fintype ι] in
/-- The event loop that has a turn goes on in its callback, unless it waits for a lock. -/
theorem loop_of_stuck (h : s.turn .loop = s) :
    s.loop = .idle ∨ ∃ c o, s.loop = .pop c ∧ s.buffersPMutex c = some o := by
  have hloop : (s.loopStep true).loop = s.loop := congrArg WriteState.loop h
  unfold loopStep at hloop
  cases hat : s.loop with
  | idle => exact .inl rfl
  | async threads nodes =>
      cases nodes with
      | nil => cases threads <;> simp [hat] at hloop
      | cons c nodes => simp [hat] at hloop
  | check c => cases hqueue : s.buffersP c <;> simp [hat, hqueue] at hloop
  | stop c => simp [hat] at hloop
  | write c => simp [hat] at hloop
  | pop c =>
      cases hmutex : s.buffersPMutex c with
      | some o => exact .inr ⟨c, o, rfl, hmutex⟩
      | none => simp [hat, hmutex] at hloop

omit [Fintype ι] in
/-- Nobody waits for a lock for good: who holds it has steps to take, and does not wait. -/
theorem unlocked_of_stuck (h : DrainInv s) (hworker : ∀ w, s.turn (.worker w) = s)
    (hloop : s.turn .loop = s) (c : ι) : s.buffersPMutex c = none := by
  cases hmutex : s.buffersPMutex c with
  | none => rfl
  | some o =>
      cases o with
      | worker w =>
          obtain ⟨done, rest, hat, hdone⟩ := h.2.worker c w hmutex
          obtain ⟨c', done', rest', -, hat', -⟩ :=
            waits_of_stuck (hworker w) (by rw [hat]; exact nofun)
          rw [hat] at hat'
          cases hat'
          obtain ⟨kind, frames, hsteps⟩ := h.1.steps w c done _ hat
          rw [MountKind.nil_of_lock hsteps] at hdone
          exact absurd hdone.1 List.not_mem_nil
      | loop =>
          obtain hidle | ⟨c', -, hpop, -⟩ := loop_of_stuck hloop
          · obtain hat | hat := h.2.loop c hmutex <;> simp [hidle] at hat
          · obtain hat | hat := h.2.loop c hmutex <;> simp [hpop] at hat

omit [Fintype ι] in
/-- **Where no turn does anything** the server is at rest. -/
theorem atRest_of_stuck (h : DrainInv s) {cs : List ι} (hcs : ∀ c, c ∈ cs)
    (hstuck : ∀ e ∈ turns n cs, s.turn e = s) : s.AtRest := by
  have hworker (w : Fin n) : s.turn (.worker w) = s := hstuck _ (by simp [turns])
  have hloop : s.turn .loop = s := hstuck _ (by simp [turns])
  have hfree := unlocked_of_stuck h hworker hloop
  have hidle (w : Fin n) : s.worker w = .idle := by
    by_contra hne
    obtain ⟨c, done, rest, o, -, hmutex⟩ := waits_of_stuck (hworker w) hne
    rw [hfree] at hmutex
    cases hmutex
  have hat : s.loop = .idle := by
    obtain hat | ⟨c, o, -, hmutex⟩ := loop_of_stuck hloop
    · exact hat
    · rw [hfree] at hmutex
      cases hmutex
  have hpending : s.pending = false := by
    have hasync : (s.turn .async).loop = s.loop := by rw [hstuck .async (by simp [turns])]
    cases hpending : s.pending with
    | false => rfl
    | true => simp [turn, hpending, step, hat] at hasync
  have hactive (c : ι) : s.active c = false := by
    have hwritable : s.turn (.writable c) = s := hstuck _ (by simp [turns, hcs])
    cases hactive : s.active c with
    | false => rfl
    | true =>
        have hsame : (s.turn (.writable c)).loop = s.loop ∧
            (s.turn (.writable c)).active c = s.active c := by rw [hwritable]; exact ⟨rfl, rfl⟩
        cases hlive : s.live c <;> simp [turn, step, hat, hactive, hlive, hfree] at hsame
  have hvector (w : Fin n) : s.vPingnode w = [] := by
    by_contra hne
    obtain howed | howed | howed := h.1.owed w hne
    · exact absurd (hpending.symm.trans howed) Bool.false_ne_true
    · simp [hat, LoopAt.threads] at howed
    · exact howed (hidle w)
  refine ⟨hidle, hvector, hpending, hat, hactive, fun c hlive => ?_⟩
  by_contra hne
  obtain hwatch | ⟨w, hmem⟩ | hnode | ⟨w, done, rest, hmount, -⟩ := h.1.reached c hlive hne
  · exact absurd ((hactive c).symm.trans hwatch) Bool.false_ne_true
  · simp [hvector] at hmem
  · simp [hat, LoopAt.nodes] at hnode
  · rw [hidle] at hmount
    cases hmount

end Stuck

/-! ### The server -/

variable [DecidableEq ι]

/-- The work of a server that gets nothing more to do, and whose turn takes from it. -/
def writeWork (cs : List ι) (hcs : ∀ c, c ∈ cs) :
    Runs.Work (turn (n := n) (β := β)) (turns n cs) fun _ => True where
  inv := DrainInv
  work := work
  Helps s e := s.turn e ≠ s
  inv_step := fun h _ => h.turn _
  helps_lt := fun h _ hhelps => (turn_lt h.2 _).resolve_left hhelps
  work_eq := fun _ _ hhelps => by rw [not_not.mp hhelps]
  helps_step := fun _ _ hhelps hhelps' => by rwa [not_not.mp hhelps]
  exists_helps := by
    intro s h hwork
    by_contra hnone
    refine hwork (atRest_of_stuck h hcs fun e he => ?_).work_eq
    by_contra hhelps
    exact hnone ⟨e, he, hhelps⟩

/-- Without work the server is at rest. -/
theorem atRest_of_work (h : DrainInv s) (hwork : s.work = 0) {cs : List ι} (hcs : ∀ c, c ∈ cs) :
    s.AtRest := by
  refine atRest_of_stuck h hcs fun e _ => (turn_lt h.2 e).resolve_right ?_
  rw [hwork]
  exact Nat.not_lt_zero _

/-- **The write queues drain**: from every state that the workers, the event loop and the
connections can reach, if the workers get no more tasks, no connection is released and the sockets
take every frame whole, and each thread and callback has its turn in every round, then after as
many rounds as there is work all frames of the live connections are written. -/
theorem write_queues_drain (n m : ℕ) (es : List (WriteEvent n (Fin m) β))
    (es' : List (WriteTurn n (Fin m)))
    (hrounds : Rounds (turns n (List.finRange m)) (fun _ => True)
      (es.foldl step (start n (Fin m) β)).work es') :
    (es'.foldl turn (es.foldl step (start n (Fin m) β))).AtRest := by
  have hstart : DrainInv (es.foldl step (start n (Fin m) β)) :=
    inv_foldl_of_step (I := DrainInv) (fun _ e h => ⟨h.1.step e, h.2.step h.1 e⟩) es
      ⟨WriteInv.start, LocksInv.start⟩
  obtain ⟨hinv, hzero⟩ :=
    hrounds.drains (writeWork (List.finRange m) List.mem_finRange) hstart le_rfl
  exact atRest_of_work hinv hzero List.mem_finRange

/-- Two workers in the middle of mounting: the first has pushed two frames under the lock, the
second one frame, and has given the lock back without having told the event loop. -/
def twoMounts : List (WriteEvent 2 (Fin 2) ℕ) :=
  [.worker 0, .mount 0 .self 0 [1, 2], .worker 1, .mount 1 .device 1 [3], .worker 0, .worker 1,
    .worker 0, .worker 1, .worker 0, .worker 1]

/-- In rounds of all threads and callbacks the three frames are written. -/
theorem write_queues_drain_twoMounts :
    (twoMounts.foldl step (start 2 (Fin 2) ℕ)).buffersP 0 = [1, 2] ∧
      (twoMounts.foldl step (start 2 (Fin 2) ℕ)).buffersP 1 = [3] ∧
      ∃ es' : List (WriteTurn 2 (Fin 2)),
        (es'.foldl turn (twoMounts.foldl step (start 2 (Fin 2) ℕ))).AtRest :=
  ⟨rfl, rfl, _, write_queues_drain 2 2 twoMounts _ (rounds_replicate (fun _ _ => trivial) _)⟩

end WriteState

end Yijian
