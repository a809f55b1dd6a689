import Mathlib.Data.Fin.Basic
import Mathlib.Data.List.FinRange
import Mathlib.Logic.Function.Basic
import Yijian.Lib.Runs

/-!
# Write Queues and Write Watchers

A worker that mounts a message pushes its frames on the write queue of the connection,
under the lock of the queue, puts the connection into its vector of pending nodes, and sends
the async notification when its dispatch returns. The event loop answers with
`start_write_callback`: it takes the vector of every worker in turn and starts the write
watcher of each connection in it. `connection_write_callback` writes the first frame of a
queue, or stops the watcher of an empty one, still under the lock.

A step is one operation under a lock or one call of the event library; the threads take
their steps in any order. Two notifications may be answered once, and the callback may run
without one.

## Convention

The order of the operations in each of the mounting functions is that of the source, one constructor
for each way of mounting: whether the node is pushed to the vector before the lock is given back or
behind it differs between them, and that the order does not matter is part of the result. The
vector of a worker is its own and is taken by the event loop in an exchange under the lock of the
worker. A connection is live as long as its last pointer is there. `finish` is what `socket_write`
returns: a frame of which something is left stays at the front of its queue.

## Main results

* `no_frame_stranded`: in every reachable state, frames that wait on a live connection are
  on their way to an active watcher.
-/

namespace Yijian

open Runs

variable {n : ℕ} {ι β : Type}

/-! ### Mounting -/

/-- What a mounting function does on one connection, step by step. -/
inductive MountStep (β : Type)
  | lock
  | push (frame : β)
  | pushPingnode
  | unlock

/-- The three ways of mounting. -/
inductive MountKind
  | self
  | peer
  | device

/-- What follows the loop over the frames. -/
def MountKind.tail : MountKind → List (MountStep β)
  -- The lock is held to the end of the function.
  | .self => [.pushPingnode, .unlock]
  -- The node is pushed under the lock and again after it.
  | .peer => [.pushPingnode, .unlock, .pushPingnode]
  | .device => [.unlock, .pushPingnode]

/-- `mountBuffer2Node` on the requesting device and on one peer server, and `traverseDevices`
on one device. -/
def MountKind.steps (kind : MountKind) (frames : List β) : List (MountStep β) :=
  .lock :: (frames.map .push ++ kind.tail)

/-- The lock of the queue is held after these steps. -/
def Holds (done : List (MountStep β)) : Prop := .lock ∈ done ∧ .unlock ∉ done

/-- The lock is taken first, the frames are pushed under it before the node is, and it is
given back once. -/
def MountStep.Precedes (a : MountStep β) : MountStep β → Prop
  | .lock => False
  | .push _ => a ≠ .unlock ∧ a ≠ .pushPingnode
  | .pushPingnode => True
  | .unlock => a ≠ .unlock

namespace MountKind

variable {kind : MountKind} {frames : List β} {done rest : List (MountStep β)} {s : MountStep β}

/-- The steps of a mount come in their order. -/
theorem pairwise_steps (kind : MountKind) (frames : List β) :
    (kind.steps frames).Pairwise MountStep.Precedes := by
  refine List.pairwise_cons.mpr ⟨fun a ha => ?_, List.pairwise_append.mpr ⟨?_, ?_, ?_⟩⟩
  · cases a with
    | lock => cases kind <;> simp [tail] at ha
    | push frame => exact ⟨nofun, nofun⟩
    | pushPingnode => trivial
    | unlock => exact nofun
  · exact List.pairwise_map.mpr (List.pairwise_of_forall fun _ _ => ⟨nofun, nofun⟩)
  · cases kind <;> simp [tail, MountStep.Precedes]
  · intro a ha b hb
    obtain ⟨frame, -, rfl⟩ := List.mem_map.mp ha
    cases b with
    | lock | push => cases kind <;> simp [tail] at hb
    | pushPingnode => trivial
    | unlock => exact nofun

/-- What has been done when a step is next. -/
theorem precedes_of_steps (h : done ++ s :: rest = kind.steps frames) :
    ∀ a ∈ done, a.Precedes s := by
  intro a ha
  have hpairs := pairwise_steps kind frames
  rw [← h, List.pairwise_append] at hpairs
  exact hpairs.2.2 a ha s List.mem_cons_self

/-- Everything behind the lock is behind it. -/
theorem lock_mem (h : done ++ s :: rest = kind.steps frames) (hs : s ≠ .lock) :
    MountStep.lock ∈ done := by
  cases done with
  | nil => exact absurd (List.cons_eq_cons.mp h).1 hs
  | cons a done =>
      obtain ⟨rfl, -⟩ := List.cons_eq_cons.mp h
      exact List.mem_cons_self

/-- A frame is pushed under the lock, and before the node is. -/
theorem holds_of_push {frame : β} (h : done ++ .push frame :: rest = kind.steps frames) :
    Holds done ∧ .pushPingnode ∉ done :=
  ⟨⟨lock_mem h nofun, fun hmem => (precedes_of_steps h _ hmem).1 rfl⟩,
    fun hmem => (precedes_of_steps h _ hmem).2 rfl⟩

/-- The lock that is given back is held. -/
theorem holds_of_unlock (h : done ++ .unlock :: rest = kind.steps frames) : Holds done :=
  ⟨lock_mem h nofun, fun hmem => precedes_of_steps h _ hmem rfl⟩

/-- The node is pushed at last. -/
theorem pushPingnode_mem : MountStep.pushPingnode ∈ kind.steps frames := by
  cases kind <;> simp [steps, tail]

end MountKind

/-! ### The workers and the event loop -/

/-- Where a worker is: between two tasks, in `dispatch`, mounting on a connection (`done` is
behind it, `rest` is to come), or about to send the async notification. -/
inductive DispatchAt (ι β : Type)
  | idle
  | dispatch
  | mount (c : ι) (done rest : List (MountStep β))
  | send

/-- Where the event loop is: between two callbacks; in `start_write_callback`, with the workers
whose vectors it has not taken yet and what is left of the vector that it took last; or in
`connection_write_callback`: under the lock before and after it has found the queue empty,
with the first frame in hand, or about to pop it. -/
inductive LoopAt (n : ℕ) (ι : Type)
  | idle
  | async (threads : List (Fin n)) (nodes : List ι)
  | check (c : ι)
  | stop (c : ι)
  | write (c : ι)
  | pop (c : ι)

/-- A thread that can hold the lock of a queue. -/
inductive Owner (n : ℕ)
  | worker (w : Fin n)
  | loop

/-- The connections with their queues, locks and watchers, the vectors of pending nodes, the
async notification, and where the threads are. -/
structure WriteState (n : ℕ) (ι β : Type) where
  buffersP : ι → List β
  buffersPMutex : ι → Option (Owner n)
  active : ι → Bool
  live : ι → Bool
  vPingnode : Fin n → List ι
  pending : Bool
  worker : Fin n → DispatchAt ι β
  loop : LoopAt n ι

/-- Nothing has been mounted yet. -/
def WriteState.start (n : ℕ) (ι β : Type) : WriteState n ι β where
  buffersP _ := []
  buffersPMutex _ := none
  active _ := false
  live _ := true
  vPingnode _ := []
  pending := false
  worker _ := .idle
  loop := .idle

/-- What may happen next. -/
inductive WriteEvent (n : ℕ) (ι β : Type)
  /-- The dispatch of a worker mounts frames on a connection. -/
  | mount (w : Fin n) (kind : MountKind) (c : ι) (frames : List β)
  /-- A worker goes on: it takes a task, takes a step of mounting, returns or notifies. -/
  | worker (w : Fin n)
  /-- The loop enters `start_write_callback`. -/
  | async
  /-- The loop enters `connection_write_callback` of a watcher. -/
  | writable (c : ι)
  /-- The loop goes on in its callback; `finish` is what `socket_write` returns. -/
  | loop (finish : Bool)
  /-- The last pointer to a connection is gone. -/
  | release (c : ι)

namespace WriteState

variable [DecidableEq ι]

/-- One step of mounting. A step that waits for a lock is not taken. -/
def mountStep (s : WriteState n ι β) (w : Fin n) (c : ι) (done rest : List (MountStep β)) :
    MountStep β → WriteState n ι β
  | .lock =>
      match s.buffersPMutex c with
      | some _ => s
      | none =>
          { s with
            buffersPMutex := Function.update s.buffersPMutex c (some (.worker w))
            worker := Function.update s.worker w (.mount c (done ++ [.lock]) rest) }
  | .push frame =>
      { s with
        buffersP := Function.update s.buffersP c (s.buffersP c ++ [frame])
        worker := Function.update s.worker w (.mount c (done ++ [.push frame]) rest) }
  | .pushPingnode =>
      { s with
        vPingnode := Function.update s.vPingnode w (s.vPingnode w ++ [c])
        worker := Function.update s.worker w (.mount c (done ++ [.pushPingnode]) rest) }
  | .unlock =>
      { s with
        buffersPMutex := Function.update s.buffersPMutex c none
        worker := Function.update s.worker w (.mount c (done ++ [.unlock]) rest) }

/-- One step of a worker. -/
def workerStep (s : WriteState n ι β) (w : Fin n) : WriteState n ι β :=
  match s.worker w with
  | .idle => { s with worker := Function.update s.worker w .dispatch }
  | .dispatch => { s with worker := Function.update s.worker w .send }
  | .mount _ _ [] => { s with worker := Function.update s.worker w .dispatch }
  | .mount c done (m :: rest) => s.mountStep w c done rest m
  | .send => { s with pending := true, worker := Function.update s.worker w .idle }

/-- One step of the event loop in a callback. -/
def loopStep (s : WriteState n ι β) (finish : Bool) : WriteState n ι β :=
  match s.loop with
  | .idle => s
  | .async threads (c :: nodes) =>
      { s with active := Function.update s.active c true, loop := .async threads nodes }
  | .async (w :: threads) [] =>
      { s with
        vPingnode := Function.update s.vPingnode w []
        loop := .async threads (s.vPingnode w) }
  | .async [] [] => { s with loop := .idle }
  | .check c =>
      match s.buffersP c with
      | [] => { s with loop := .stop c }
      | _ :: _ =>
          { s with buffersPMutex := Function.update s.buffersPMutex c none, loop := .write c }
  | .stop c =>
      { s with
        active := Function.update s.active c false
        buffersPMutex := Function.update s.buffersPMutex c none
        loop := .idle }
  | .write c => { s with loop := if finish then .pop c else .idle }
  | .pop c =>
      match s.buffersPMutex c with
      | some _ => s
      | none =>
          { s with
            buffersP := Function.update s.buffersP c (s.buffersP c).tail
            loop := .idle }

/-- One step. -/
def step (s : WriteState n ι β) : WriteEvent n ι β → WriteState n ι β
  | .mount w kind c frames =>
      match s.worker w with
      | .dispatch =>
          { s with worker := Function.update s.worker w (.mount c [] (kind.steps frames)) }
      | _ => s
  | .worker w => s.workerStep w
  | .async =>
      match s.loop with
      | .idle => { s with pending := false, loop := .async (List.finRange n) [] }
      | _ => s
  | .writable c =>
      match s.loop, s.active c, s.live c, s.buffersPMutex c with
      | .idle, true, true, none =>
          { s with
            buffersPMutex := Function.update s.buffersPMutex c (some .loop)
            loop := .check c }
      | .idle, true, false, _ => { s with active := Function.update s.active c false }
      | _, _, _, _ => s
  | .loop finish => s.loopStep finish
  | .release c =>
      { s with
        live := Function.update s.live c false
        active := Function.update s.active c false }

/-! ### What the threads owe a connection -/

end WriteState

/-- The worker is between its push on the queue of `c` and its `pushPingnode`. -/
def DispatchAt.Between (d : DispatchAt ι β) (c : ι) : Prop :=
  ∃ done rest, d = .mount c done rest ∧ (∃ frame, .push frame ∈ done) ∧ .pushPingnode ∉ done

/-- The workers whose vectors the running callback has yet to take. -/
def LoopAt.threads : LoopAt n ι → List (Fin n)
  | .async threads _ => threads
  | _ => []

/-- What is left of the vector whose watchers the running callback starts. -/
def LoopAt.nodes : LoopAt n ι → List ι
  | .async _ nodes => nodes
  | _ => []

namespace WriteState

/-- The vector of the worker will be taken: the notification is pending, the callback has yet
to come to the vector, or the worker has yet to send the notification of its dispatch. -/
def Owed (s : WriteState n ι β) (w : Fin n) : Prop :=
  s.pending = true ∨ w ∈ s.loop.threads ∨ s.worker w ≠ .idle

/-- The watcher of the connection is active, or it will be started. -/
def OnItsWay (s : WriteState n ι β) (c : ι) : Prop :=
  s.active c = true ∨ (∃ w, c ∈ s.vPingnode w ∧ s.Owed w) ∨ c ∈ s.loop.nodes ∨
    ∃ w, (s.worker w).Between c

/-- No live connection has frames in its queue that nobody is going to write. -/
def NoneStranded (s : WriteState n ι β) : Prop :=
  ∀ c, s.live c = true → s.buffersP c ≠ [] → s.OnItsWay c

/-! ### The invariant -/

/-- The invariant of the workers and the event loop. -/
structure WriteInv (s : WriteState n ι β) : Prop where
  steps : ∀ w c done rest, s.worker w = .mount c done rest →
    ∃ (kind : MountKind) (frames : List β), done ++ rest = kind.steps frames
  owner : ∀ w c done rest, s.worker w = .mount c done rest → Holds done →
    s.buffersPMutex c = some (.worker w)
  loop_owner : ∀ c, s.loop = .check c ∨ s.loop = .stop c → s.buffersPMutex c = some .loop
  stop_nil : ∀ c, s.loop = .stop c → s.buffersP c = []
  owed : ∀ w, s.vPingnode w ≠ [] → s.Owed w
  reached : ∀ c, s.live c = true → s.buffersP c ≠ [] →
    s.active c = true ∨ (∃ w, c ∈ s.vPingnode w) ∨ c ∈ s.loop.nodes ∨ ∃ w, (s.worker w).Between c

/-- What the invariant says of the frames. -/
theorem WriteInv.noneStranded {s : WriteState n ι β} (h : WriteInv s) : NoneStranded s := by
  intro c hlive hne
  obtain hactive | ⟨w, hmem⟩ | hnode | hbetween := h.reached c hlive hne
  · exact .inl hactive
  · exact .inr (.inl ⟨w, hmem, h.owed w (List.ne_nil_of_mem hmem)⟩)
  · exact .inr (.inr (.inl hnode))
  · exact .inr (.inr (.inr hbetween))

/-- Nothing has been mounted. -/
theorem WriteInv.start : WriteInv (start n ι β) where
  steps _ _ _ _ h := by cases h
  owner _ _ _ _ h := by cases h
  loop_owner _ h := by obtain h | h := h <;> cases h
  stop_nil _ h := by cases h
  owed _ h := absurd rfl h
  reached _ _ h := absurd rfl h

/-! ### One change at a time -/

section Changes

variable {s : WriteState n ι β}

/-- A worker moves. A mounting step that it has behind it is owned, it stays on its way to the
notification, and it does not forget a connection. -/
theorem WriteInv.setWorker (h : WriteInv s) (w : Fin n) (d : DispatchAt ι β)
    (hmount : ∀ c done rest, d = .mount c done rest →
      (∃ (kind : MountKind) (frames : List β), done ++ rest = kind.steps frames) ∧
        (Holds done → s.buffersPMutex c = some (.worker w)))
    (howed : d = .idle → s.pending = true)
    (hbetween : ∀ c, (s.worker w).Between c → d.Between c ∨ c ∈ s.vPingnode w) :
    WriteInv { s with worker := Function.update s.worker w d } where
  steps w' c done rest hat := by
    obtain rfl | hw := eq_or_ne w' w
    · exact (hmount c done rest (by simpa using hat)).1
    · exact h.steps w' c done rest (by simpa [hw] using hat)
  owner w' c done rest hat := by
    obtain rfl | hw := eq_or_ne w' w
    · exact (hmount c done rest (by simpa using hat)).2
    · exact h.owner w' c done rest (by simpa [hw] using hat)
  loop_owner := h.loop_owner
  stop_nil := h.stop_nil
  owed w' hne := by
    obtain hpending | hthread | hidle := h.owed w' hne
    · exact .inl hpending
    · exact .inr (.inl hthread)
    · obtain rfl | hw := eq_or_ne w' w
      · by_cases hd : d = .idle
        · exact .inl (howed hd)
        · exact .inr (.inr (by simpa using hd))
      · exact .inr (.inr (by simpa [hw] using hidle))
  reached c hlive hne := by
    obtain hactive | hmem | hnode | ⟨w', hw'⟩ := h.reached c hlive hne
    · exact .inl hactive
    · exact .inr (.inl hmem)
    · exact .inr (.inr (.inl hnode))
    · obtain rfl | hw := eq_or_ne w' w
      · obtain hd | hmem := hbetween c hw'
        · exact .inr (.inr (.inr ⟨w', by simpa using hd⟩))
        · exact .inr (.inl ⟨w', hmem⟩)
      · exact .inr (.inr (.inr ⟨w', by simpa [hw] using hw'⟩))

/-- The event loop moves. -/
theorem WriteInv.setLoop (h : WriteInv s) (l : LoopAt n ι)
    (howner : ∀ c, l = .check c ∨ l = .stop c → s.buffersPMutex c = some .loop)
    (hnil : ∀ c, l = .stop c → s.buffersP c = [])
    (hthreads : ∀ w ∈ s.loop.threads, w ∈ l.threads)
    (hnodes : ∀ c ∈ s.loop.nodes, c ∈ l.nodes ∨ s.active c = true) :
    WriteInv { s with loop := l } where
  steps := h.steps
  owner := h.owner
  loop_owner := howner
  stop_nil := hnil
  owed w hne := (h.owed w hne).imp_right fun h' => h'.imp_left (hthreads w)
  reached c hlive hne := by
    obtain hactive | hmem | hnode | hbetween := h.reached c hlive hne
    · exact .inl hactive
    · exact .inr (.inl hmem)
    · obtain hnode | hactive := hnodes c hnode
      · exact .inr (.inr (.inl hnode))
      · exact .inl hactive
    · exact .inr (.inr (.inr hbetween))

/-- A worker in a dispatch pushes a node. -/
theorem WriteInv.pushPingnode (h : WriteInv s) {w : Fin n} (hidle : s.worker w ≠ .idle) (c : ι) :
    WriteInv { s with vPingnode := Function.update s.vPingnode w (s.vPingnode w ++ [c]) } where
  steps := h.steps
  owner := h.owner
  loop_owner := h.loop_owner
  stop_nil := h.stop_nil
  owed w' hne := by
    obtain rfl | hw := eq_or_ne w' w
    · exact .inr (.inr hidle)
    · exact h.owed w' (by simpa [hw] using hne)
  reached c' hlive hne := by
    obtain hactive | ⟨w', hmem⟩ | hrest := h.reached c' hlive hne
    · exact .inl hactive
    · refine .inr (.inl ⟨w', ?_⟩)
      obtain rfl | hw := eq_or_ne w' w
      · simp [hmem]
      · simpa [hw] using hmem
    · exact .inr (.inr hrest)

/-- The callback takes the vector of a worker. -/
theorem WriteInv.swap (h : WriteInv s) {w : Fin n} {threads : List (Fin n)}
    (hloop : s.loop = .async (w :: threads) []) :
    WriteInv { s with
      vPingnode := Function.update s.vPingnode w []
      loop := .async threads (s.vPingnode w) } where
  steps := h.steps
  owner := h.owner
  loop_owner c hat := by obtain hat | hat := hat <;> cases hat
  stop_nil c hat := by cases hat
  owed w' hne := by
    obtain rfl | hw := eq_or_ne w' w
    · simp at hne
    · refine (h.owed w' (by simpa [hw] using hne)).imp_right fun h' => h'.imp_left fun hmem => ?_
      simpa [hloop, LoopAt.threads, hw] using hmem
  reached c hlive hne := by
    obtain hactive | ⟨w', hmem⟩ | hnode | hbetween := h.reached c hlive hne
    · exact .inl hactive
    · obtain rfl | hw := eq_or_ne w' w
      · exact .inr (.inr (.inl hmem))
      · exact .inr (.inl ⟨w', by simpa [hw] using hmem⟩)
    · simp [hloop, LoopAt.nodes] at hnode
    · exact .inr (.inr (.inr hbetween))

/-- The callback that has all vectors before it has seen the notification. -/
theorem WriteInv.clearPending (h : WriteInv s) (hall : ∀ w, w ∈ s.loop.threads) :
    WriteInv { s with pending := false } where
  steps := h.steps
  owner := h.owner
  loop_owner := h.loop_owner
  stop_nil := h.stop_nil
  owed w _ := .inr (.inl (hall w))
  reached := h.reached

/-- A worker notifies. -/
theorem WriteInv.setPending (h : WriteInv s) : WriteInv { s with pending := true } where
  steps := h.steps
  owner := h.owner
  loop_owner := h.loop_owner
  stop_nil := h.stop_nil
  owed _ _ := .inl rfl
  reached := h.reached

/-- A further step of mounting, other than pushing the node. -/
theorem between_append {c c' : ι} {done rest rest' : List (MountStep β)} {m : MountStep β}
    (hm : m ≠ .pushPingnode) (h : (DispatchAt.mount c done rest).Between c') :
    (DispatchAt.mount c (done ++ [m]) rest').Between c' := by
  obtain ⟨_, _, heq, ⟨frame, hpush⟩, hnode⟩ := h
  cases heq
  refine ⟨_, _, rfl, ⟨frame, List.mem_append_left _ hpush⟩, ?_⟩
  simp [hnode, Ne.symm hm]

/-- No worker holds the lock that the event loop holds. -/
theorem WriteInv.not_holds (h : WriteInv s) {c : ι} (hlock : s.buffersPMutex c = some .loop)
    {w : Fin n} {done rest : List (MountStep β)} (hat : s.worker w = .mount c done rest) :
    ¬Holds done := by
  intro hholds
  have howner := h.owner w c done rest hat hholds
  rw [hlock] at howner
  cases howner

variable [DecidableEq ι]

/-- A free lock is taken. -/
theorem WriteInv.acquire (h : WriteInv s) {c : ι} (hfree : s.buffersPMutex c = none)
    (o : Owner n) :
    WriteInv { s with buffersPMutex := Function.update s.buffersPMutex c (some o) } where
  steps := h.steps
  owner w c' done rest hat hholds := by
    have howner := h.owner w c' done rest hat hholds
    obtain rfl | hc := eq_or_ne c' c
    · rw [hfree] at howner
      cases howner
    · simpa [hc] using howner
  loop_owner c' hat := by
    have howner := h.loop_owner c' hat
    obtain rfl | hc := eq_or_ne c' c
    · rw [hfree] at howner
      cases howner
    · simpa [hc] using howner
  stop_nil := h.stop_nil
  owed := h.owed
  reached := h.reached

/-- A lock that no thread needs is given back. -/
theorem WriteInv.free (h : WriteInv s) {c : ι}
    (hworker : ∀ w done rest, s.worker w = .mount c done rest → ¬Holds done)
    (hloop : s.loop ≠ .check c ∧ s.loop ≠ .stop c) :
    WriteInv { s with buffersPMutex := Function.update s.buffersPMutex c none } where
  steps := h.steps
  owner w c' done rest hat hholds := by
    obtain rfl | hc := eq_or_ne c' c
    · exact absurd hholds (hworker w done rest hat)
    · simpa [hc] using h.owner w c' done rest hat hholds
  loop_owner c' hat := by
    obtain rfl | hc := eq_or_ne c' c
    · exact (hat.elim hloop.1 hloop.2).elim
    · simpa [hc] using h.loop_owner c' hat
  stop_nil := h.stop_nil
  owed := h.owed
  reached := h.reached

/-- A frame is pushed under the lock. -/
theorem WriteInv.push (h : WriteInv s) {w : Fin n} {c : ι} (frame : β)
    (hlock : s.buffersPMutex c = some (.worker w)) (hbetween : (s.worker w).Between c) :
    WriteInv { s with buffersP := Function.update s.buffersP c (s.buffersP c ++ [frame]) } where
  steps := h.steps
  owner := h.owner
  loop_owner := h.loop_owner
  stop_nil c' hat := by
    obtain rfl | hc := eq_or_ne c' c
    · have howner := h.loop_owner c' (.inr hat)
      rw [hlock] at howner
      cases howner
    · simpa [hc] using h.stop_nil c' hat
  owed := h.owed
  reached c' hlive hne := by
    obtain rfl | hc := eq_or_ne c' c
    · exact .inr (.inr (.inr ⟨w, hbetween⟩))
    · exact h.reached c' hlive (by simpa [hc] using hne)

/-- The first frame is popped. -/
theorem WriteInv.pop (h : WriteInv s) (c : ι) :
    WriteInv { s with buffersP := Function.update s.buffersP c (s.buffersP c).tail } where
  steps := h.steps
  owner := h.owner
  loop_owner := h.loop_owner
  stop_nil c' hat := by
    obtain rfl | hc := eq_or_ne c' c
    · simp [h.stop_nil c' hat]
    · simpa [hc] using h.stop_nil c' hat
  owed := h.owed
  reached c' hlive hne := by
    refine h.reached c' hlive fun hnil => hne ?_
    obtain rfl | hc := eq_or_ne c' c
    · simp [hnil]
    · simpa [hc] using hnil

/-- A watcher is started. -/
theorem WriteInv.startWatcher (h : WriteInv s) (c : ι) :
    WriteInv { s with active := Function.update s.active c true } where
  steps := h.steps
  owner := h.owner
  loop_owner := h.loop_owner
  stop_nil := h.stop_nil
  owed := h.owed
  reached c' hlive hne := by
    refine (h.reached c' hlive hne).imp_left fun hactive => ?_
    obtain rfl | hc := eq_or_ne c' c
    · simp
    · simpa [hc] using hactive

/-- The watcher of an empty queue or of a released connection is stopped. -/
theorem WriteInv.stopWatcher (h : WriteInv s) {c : ι}
    (hempty : s.live c = true → s.buffersP c = []) :
    WriteInv { s with active := Function.update s.active c false } where
  steps := h.steps
  owner := h.owner
  loop_owner := h.loop_owner
  stop_nil := h.stop_nil
  owed := h.owed
  reached c' hlive hne := by
    refine (h.reached c' hlive hne).imp_left fun hactive => ?_
    obtain rfl | hc := eq_or_ne c' c
    · exact absurd (hempty hlive) hne
    · simpa [hc] using hactive

end Changes

/-! ### The steps -/

variable {s : WriteState n ι β} [DecidableEq ι]

omit [DecidableEq ι] in
/-- A worker goes on in mounting, in a step that does not push the node. -/
theorem WriteInv.goOn (h : WriteInv s) {w : Fin n} {c : ι} {done rest : List (MountStep β)}
    {m : MountStep β} (hat : s.worker w = .mount c done (m :: rest)) (hm : m ≠ .pushPingnode)
    (howner : Holds (done ++ [m]) → s.buffersPMutex c = some (.worker w)) :
    WriteInv { s with worker := Function.update s.worker w (.mount c (done ++ [m]) rest) } := by
  obtain ⟨kind, frames, hsteps⟩ := h.steps w c done _ hat
  refine h.setWorker w _ ?_ nofun fun c' hc' => .inl (between_append hm (hat ▸ hc'))
  rintro _ _ _ heq
  cases heq
  exact ⟨⟨kind, frames, by rw [List.append_assoc]; exact hsteps⟩, howner⟩

/-- The lock of a worker that has just given it back is free: no other thread holds it. -/
theorem WriteInv.unlock (h : WriteInv s) {w : Fin n} {c : ι} {done rest : List (MountStep β)}
    (hat : s.worker w = .mount c done rest) (hdone : ¬ Holds done)
    (howner : s.buffersPMutex c = some (.worker w)) :
    WriteInv { s with buffersPMutex := Function.update s.buffersPMutex c none } := by
  refine h.free (fun w' done' rest' hat' hholds' => ?_) ⟨fun hloop => ?_, fun hloop => ?_⟩
  · have howner' := h.owner w' c done' rest' hat' hholds'
    rw [howner] at howner'
    obtain rfl : w = w' := by simpa using howner'
    rw [hat] at hat'
    cases hat'
    exact hdone hholds'
  · have howner' := h.loop_owner c (.inl hloop)
    rw [howner] at howner'
    cases howner'
  · have howner' := h.loop_owner c (.inr hloop)
    rw [howner] at howner'
    cases howner'

/-- **A step of mounting** keeps the invariant. -/
theorem WriteInv.mountStep (h : WriteInv s) {w : Fin n} {c : ι} {done rest : List (MountStep β)}
    {m : MountStep β} (hat : s.worker w = .mount c done (m :: rest)) :
    WriteInv (s.mountStep w c done rest m) := by
  obtain ⟨kind, frames, hsteps⟩ := h.steps w c done _ hat
  have howner := h.owner w c done _ hat
  cases m with
  | lock =>
      cases hmutex : s.buffersPMutex c with
      | some o => simpa [WriteState.mountStep, hmutex] using h
      | none =>
          simp only [WriteState.mountStep, hmutex]
          exact (h.acquire hmutex (.worker w)).goOn hat nofun fun _ => by simp
  | push frame =>
      obtain ⟨hholds, hnode⟩ := MountKind.holds_of_push hsteps
      refine (h.goOn hat nofun fun _ => howner hholds).push frame (howner hholds) ?_
      exact ⟨_, _, Function.update_self .., ⟨frame, by simp⟩, by simp [hnode]⟩
  | pushPingnode =>
      refine (h.pushPingnode (by simp [hat]) c).setWorker w _ ?_ nofun ?_
      · rintro _ _ _ heq
        cases heq
        refine ⟨⟨kind, frames, by rw [List.append_assoc]; exact hsteps⟩, fun hholds => howner ?_⟩
        simpa [Holds] using hholds
      · intro c' hc'
        obtain ⟨_, _, heq, -⟩ := hat ▸ hc'
        cases heq
        exact .inr (by simp)
  | unlock =>
      have hholds := MountKind.holds_of_unlock hsteps
      have hdone : ¬ Holds (done ++ [.unlock]) := by simp [Holds]
      exact (h.goOn hat nofun fun hholds => absurd hholds hdone).unlock
        (Function.update_self ..) hdone (howner hholds)

/-- **A step of a worker** keeps the invariant. -/
theorem WriteInv.workerStep (h : WriteInv s) (w : Fin n) : WriteInv (s.workerStep w) := by
  unfold WriteState.workerStep
  split
  · rename_i hat
    refine h.setWorker w _ nofun nofun fun c hc => ?_
    obtain ⟨_, _, heq, -⟩ := hat ▸ hc
    cases heq
  · rename_i hat
    refine h.setWorker w _ nofun nofun fun c hc => ?_
    obtain ⟨_, _, heq, -⟩ := hat ▸ hc
    cases heq
  · rename_i c done hat
    refine h.setWorker w _ nofun nofun fun c' hc => ?_
    -- A mounting function does not end before it has pushed the node.
    obtain ⟨_, _, heq, -, hnode⟩ := hat ▸ hc
    cases heq
    obtain ⟨kind, frames, hsteps⟩ := h.steps w c done _ hat
    rw [List.append_nil] at hsteps
    exact absurd (hsteps ▸ MountKind.pushPingnode_mem) hnode
  · rename_i hat
    exact h.mountStep hat
  · rename_i hat
    refine h.setPending.setWorker w _ nofun (fun _ => rfl) fun c hc => ?_
    obtain ⟨_, _, heq, -⟩ := hat ▸ hc
    cases heq

/-- **A step of the event loop** keeps the invariant. -/
theorem WriteInv.loopStep (h : WriteInv s) (finish : Bool) : WriteInv (s.loopStep finish) := by
  unfold WriteState.loopStep
  split
  · exact h
  · rename_i threads c nodes hat
    refine (h.startWatcher c).setLoop _ nofun nofun ?_ ?_
    · simp [hat, LoopAt.threads]
    · intro c' hc'
      obtain rfl | hmem : c' = c ∨ c' ∈ nodes := by simpa [hat, LoopAt.nodes] using hc'
      · exact .inr (by simp)
      · exact .inl hmem
  · rename_i w threads hat
    exact h.swap hat
  · rename_i hat
    exact h.setLoop _ nofun nofun (by simp [hat, LoopAt.threads]) (by simp [hat, LoopAt.nodes])
  · rename_i c hat
    have hlock := h.loop_owner c (.inl hat)
    split
    · rename_i hnil
      refine h.setLoop _ ?_ ?_ (by simp [hat, LoopAt.threads]) (by simp [hat, LoopAt.nodes])
      · rintro c' (heq | heq) <;> cases heq
        exact hlock
      · rintro c' heq
        cases heq
        exact hnil
    · have hmoved : WriteInv { s with loop := .write c } :=
        h.setLoop _ (by rintro _ (heq | heq) <;> cases heq) nofun
          (by simp [hat, LoopAt.threads]) (by simp [hat, LoopAt.nodes])
      exact hmoved.free (fun w _ _ hat' => h.not_holds hlock hat') ⟨nofun, nofun⟩
  · rename_i c hat
    have hlock := h.loop_owner c (.inr hat)
    have hmoved : WriteInv { s with
        active := Function.update s.active c false
        loop := .idle } :=
      (h.stopWatcher fun _ => h.stop_nil c hat).setLoop _
        (by rintro _ (heq | heq) <;> cases heq) nofun
        (by simp [hat, LoopAt.threads]) (by simp [hat, LoopAt.nodes])
    exact hmoved.free (fun w _ _ hat' => h.not_holds hlock hat') ⟨nofun, nofun⟩
  · rename_i c hat
    refine h.setLoop _ ?_ ?_ (by simp [hat, LoopAt.threads]) (by simp [hat, LoopAt.nodes]) <;>
      cases finish <;> simp
  · rename_i c hat
    split
    · exact h
    · exact (h.pop c).setLoop _ (by rintro _ (heq | heq) <;> cases heq) nofun
        (by simp [hat, LoopAt.threads]) (by simp [hat, LoopAt.nodes])

/-- The event loop enters the write callback of a watcher. -/
theorem WriteInv.writable (h : WriteInv s) (c : ι) : WriteInv (s.step (.writable c)) := by
  simp only [WriteState.step]
  split
  · rename_i hat hactive hlive hlock
    refine (h.acquire hlock .loop).setLoop _ ?_ nofun (by simp [hat, LoopAt.threads])
      (by simp [hat, LoopAt.nodes])
    rintro c' (heq | heq) <;> cases heq
    simp
  · rename_i hat hactive hlive
    exact h.stopWatcher fun hlive' => absurd hlive' (by simp [hlive])
  · exact h

/-- **The step lemma.** -/
theorem WriteInv.step (h : WriteInv s) (e : WriteEvent n ι β) : WriteInv (s.step e) := by
  cases e with
  | mount w kind c frames =>
      simp only [WriteState.step]
      split
      · rename_i hat
        refine h.setWorker w _ ?_ nofun ?_
        · rintro _ _ _ heq
          cases heq
          exact ⟨⟨kind, frames, rfl⟩, fun hholds => absurd hholds.1 (by simp)⟩
        · intro c' hc
          obtain ⟨_, _, heq, -⟩ := hat ▸ hc
          cases heq
      · exact h
  | worker w => exact h.workerStep w
  | async =>
      simp only [WriteState.step]
      split
      · rename_i hat
        have hmoved : WriteInv { s with loop := .async (List.finRange n) [] } :=
          h.setLoop _ nofun nofun (by simp [hat, LoopAt.threads]) (by simp [hat, LoopAt.nodes])
        exact hmoved.clearPending fun w => List.mem_finRange w
      · exact h
  | writable c => exact h.writable c
  | loop finish => exact h.loopStep finish
  | release c =>
      have hreleased : WriteInv { s with live := Function.update s.live c false } := by
        refine ⟨h.steps, h.owner, h.loop_owner, h.stop_nil, h.owed, fun c' hlive hne => ?_⟩
        obtain rfl | hc := eq_or_ne c' c
        · simp at hlive
        · exact h.reached c' (by simpa [hc] using hlive) hne
      exact hreleased.stopWatcher fun hlive => by simp at hlive

/-- **No frame is stranded**: in every reachable state, the watcher of a live connection with
frames in its queue is active, or somebody has yet to start it. -/
theorem no_frame_stranded (es : List (WriteEvent n ι β)) :
    NoneStranded (es.foldl WriteState.step (start n ι β)) := by
  have hinv : WriteInv (es.foldl WriteState.step (start n ι β)) :=
    inv_foldl_of_step (I := WriteInv) (fun _ e h => h.step e) es WriteInv.start
  exact hinv.noneStranded

end WriteState

end Yijian
