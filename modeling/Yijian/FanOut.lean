import Mathlib.Algebra.BigOperators.Group.Finset.Piecewise
import Mathlib.Algebra.Order.BigOperators.Group.Finset
import Yijian.Fragment
import Yijian.Lib.Runs
import Yijian.SocketWrite

/-!
# Mounting a Message on Several Connections

A message for other devices is cut into frames once, and the same buffer objects are
pushed on the write queue of every recipient. The worker mounts the recipients one after
the other, each under the lock of its queue; in between, the write callbacks of the
recipients write the frames at the front of their queues. `bufs` is the memory the
queues point into; a queue holds addresses.

Every call of `SSL_write` is assumed to write all the bytes it is given. What it reports
when it is given none is the parameter `error`.

## Relation to `Yijian.Fragment`

The frames are those of `yijianBuffer`, numbered 0 and the last of them marked, as the functions
that mount a notification do it. One recipient is the case that `reassembly` speaks of. A second
one gets pointers to the same buffers, and a buffer remembers how much of it is left to write: what
the first connection has written, the second does not write again. No call is at fault by itself,
so the statement is about the interleaving: between two steps of the worker any recipient may
write, and the frames are divided among them, or one of them gets a frame of which nothing is left,
for which the write is called with no bytes and fails or reports what the library pleases.

## Main results

* `MountedState`: a mounted frame is whole, or nothing of it remains.
* `length_sent_add_le`: two devices together are never sent more than the message.
* `sent_of_mounts_singleton`: a single recipient is sent the message.
* `fanOut_iff`: every recipient of a message is sent the message exactly if there is at
  most one.
-/

namespace Yijian

variable {δ : Type} [DecidableEq δ]

/-! ### Mounting and writing -/

/-- The buffers of a message, the write queues that point to them, and what has been
written to each socket. -/
structure FanState (δ : Type) where
  bufs : ℕ → Buffer
  queue : δ → List ℕ
  sent : δ → List UInt8

/-- The loop of the mounting functions over the frames. -/
def mountLoop (sessionid : ℕ) (d : δ) : List ℕ → FanState δ → FanState δ
  | [], s => s
  | r :: rs, s =>
      mountLoop sessionid d rs
        { s with
          bufs := Function.update s.bufs r ((s.bufs r).setSessionid sessionid false)
          queue := Function.update s.queue d (s.queue d ++ [r]) }

/-- What `traverseDevices` and the peer server branch of `mountBuffer2Node` do under the
lock of the queue of `d`. -/
def mountBuffer2Device (sessionid : ℕ) (refs : List ℕ) (d : δ) (s : FanState δ) : FanState δ :=
  let s := mountLoop sessionid d refs s
  match refs.getLast? with
  | none => s
  | some r =>
      { s with bufs := Function.update s.bufs r ((s.bufs r).setSessionid sessionid true) }

/-- What a write callback does with the result of `socket_write`: a finished frame is
taken off the queue. -/
def popFinished (s : FanState δ) (d : δ) (r : ℕ) (rest : List ℕ) :
    Except SystemError Bool × List UInt8 × Buffer → FanState δ
  | (.ok true, sent, b) =>
      { bufs := Function.update s.bufs r b
        queue := Function.update s.queue d rest
        sent := Function.update s.sent d sent }
  | (.ok false, sent, b) | (.error _, sent, b) =>
      { s with
        bufs := Function.update s.bufs r b
        sent := Function.update s.sent d sent }

/-- The queue and socket part of `connection_write_callback` of the device `d`. -/
def writeFront (error : SslError) (d : δ) (s : FanState δ) : FanState δ :=
  match s.queue d with
  | [] => s
  | r :: rest =>
      popFinished s d r rest (socketWrite (fullWriter error) (s.sent d) (s.bufs r))

/-- A step of the worker or of a write callback. -/
inductive FanEvent (δ : Type)
  | mount (d : δ)
  | write (d : δ)
deriving DecidableEq

/-- One step; the frames of the message are at the addresses `refs`. -/
def fanStep (error : SslError) (sessionid : ℕ) (refs : List ℕ) (s : FanState δ) :
    FanEvent δ → FanState δ
  | .mount d => mountBuffer2Device sessionid refs d s
  | .write d => writeFront error d s

/-- The frames of a message, at the addresses from 0 on, and nothing mounted. -/
def FanState.init (δ : Type) (frames : List Buffer) : FanState δ where
  bufs r := frames.getD r (Buffer.new Uninit.zero)
  queue _ := []
  sent _ := []

/-- The devices that are mounted in a run. -/
def mounts (es : List (FanEvent δ)) : List δ :=
  es.filterMap fun
    | .mount d => some d
    | .write _ => none

/-- The state after a run. -/
def fanRun (error : SslError) (sessionid : ℕ) (frames : List Buffer) (es : List (FanEvent δ)) :
    FanState δ :=
  es.foldl (fanStep error sessionid (List.range frames.length)) (FanState.init δ frames)

/-! ### Mounting -/

/-- A mount puts the references behind those of its queue. -/
theorem queue_mountLoop (sessionid : ℕ) (d : δ) (refs : List ℕ) (s : FanState δ) :
    (mountLoop sessionid d refs s).queue = Function.update s.queue d (s.queue d ++ refs) := by
  induction refs generalizing s with
  | nil => rw [mountLoop, List.append_nil, Function.update_eq_self]
  | cons r rs ih =>
      rw [mountLoop, ih]
      simp only [Function.update_self, Function.update_idem, List.append_assoc,
        List.singleton_append]

/-- A mount writes nothing. -/
theorem sent_mountLoop (sessionid : ℕ) (d : δ) (refs : List ℕ) (s : FanState δ) :
    (mountLoop sessionid d refs s).sent = s.sent := by
  induction refs generalizing s with
  | nil => rfl
  | cons r rs ih => rw [mountLoop, ih]

/-- A mount marks the buffers of its references. -/
theorem bufs_mountLoop (sessionid : ℕ) (d : δ) (refs : List ℕ) (s : FanState δ) (r : ℕ) :
    (mountLoop sessionid d refs s).bufs r =
      if r ∈ refs then (s.bufs r).setSessionid sessionid false else s.bufs r := by
  induction refs generalizing s with
  | nil => simp [mountLoop]
  | cons r' rs ih =>
      rw [mountLoop, ih]
      by_cases heq : r = r'
      · subst heq
        simp only [Function.update_self, List.mem_cons, true_or, if_true,
          Buffer.setSessionid_setSessionid]
        split <;> rfl
      · simp only [Function.update_of_ne heq, List.mem_cons, heq, false_or]

/-- **Mounting** numbers the frames, marks the last one and puts them behind the queue. -/
theorem mountBuffer2Device_eq (sessionid : ℕ) (refs : List ℕ) (d : δ) (s : FanState δ) :
    mountBuffer2Device sessionid refs d s =
      { s with
        bufs := fun r =>
          if r ∈ refs then (s.bufs r).setSessionid sessionid (refs.getLast? == some r)
          else s.bufs r
        queue := Function.update s.queue d (s.queue d ++ refs) } := by
  have hqueue := queue_mountLoop sessionid d refs s
  have hsent := sent_mountLoop sessionid d refs s
  have hbufs := bufs_mountLoop sessionid d refs s
  rw [mountBuffer2Device]
  generalize mountLoop sessionid d refs s = s' at hqueue hsent hbufs
  obtain ⟨bufs, queue, sent⟩ := s'
  simp only at hqueue hsent hbufs
  subst hqueue hsent
  cases hlast : refs.getLast? with
  | none =>
      obtain rfl := List.getLast?_eq_none_iff.mp hlast
      simp only
      congr 1
      funext r
      rw [hbufs]
      simp
  | some r₀ =>
      have hmem : r₀ ∈ refs := List.mem_of_getLast? hlast
      simp only
      congr 1
      funext r
      by_cases heq : r = r₀
      · subst heq
        rw [Function.update_self, hbufs, if_pos hmem, if_pos hmem,
          Buffer.setSessionid_setSessionid]
        simp
      · have hne : (some r₀ == some r) = false := by simpa using fun h => heq h.symm
        rw [Function.update_of_ne heq, hbufs, hne]

/-! ### The frames of a message -/

/-- The frame is encoded and nothing of it has been written. -/
structure Whole (b : Buffer) : Prop where
  currentPos : b.currentPos = b.headerPos
  remainDataLength : b.remainDataLength = b.size
  pos : 0 < b.remainDataLength
  lt : b.remainDataLength < 2 ^ 31

/-- A buffer is encoded whole. -/
theorem whole_buffer (u : Uninit) (type : UInt8) {c : List UInt8} (h : c.length ≤ 1019) :
    Whole (Buffer.buffer u type c).2 := by
  have henc := Buffer.length_encode_le h
  rw [Buffer.buffer_eq u type h]
  refine ⟨rfl, ?_, ?_, ?_⟩ <;> simp only [Buffer.size, Buffer.new, Buffer.reset] <;> omega

/-- A marked buffer is whole. -/
theorem Whole.setSessionid {b : Buffer} (h : Whole b) (sessionid : ℕ) (isLast : Bool) :
    Whole (b.setSessionid sessionid isLast) :=
  ⟨h.currentPos, h.remainDataLength, h.pos, h.lt⟩

/-- What remains of a whole frame is the frame. -/
theorem Whole.remaining {b : Buffer} (h : Whole b) : b.remaining = b.wire := by
  rw [Buffer.remaining, h.currentPos, h.remainDataLength]
  rfl

/-- The buffers of a message are encoded whole. -/
theorem whole_of_mem_encodeAll (u : ℕ → Uninit) (type : UInt8) {i : ℕ} {cs : List (List UInt8)}
    (hcs : ∀ c ∈ cs, c.length ≤ 1019) {b : Buffer} (hb : b ∈ encodeAll u type i cs) : Whole b := by
  induction cs generalizing i with
  | nil => cases hb
  | cons c cs ih =>
      rw [encodeAll] at hb
      rcases List.mem_cons.mp hb with rfl | hb
      · exact whole_buffer (u i) type (hcs c List.mem_cons_self)
      · exact ih (fun c hmem => hcs c (List.mem_cons_of_mem _ hmem)) hb

/-- The frame at the address `r` once the message is mounted. -/
def markedFrame (sessionid : ℕ) (frames : List Buffer) (r : ℕ) : Buffer :=
  (frames.getD r (Buffer.new Uninit.zero)).setSessionid sessionid
    ((List.range frames.length).getLast? == some r)

/-- The frame `r` of the message with `n` bytes that remain. -/
def frameLeft (sessionid : ℕ) (frames : List Buffer) (r n : ℕ) (finish : Bool) : Buffer :=
  { markedFrame sessionid frames r with
    remainDataLength := n
    isFinish := finish }

/-- The marked frames in the order of their addresses. -/
theorem map_markedFrame (sessionid : ℕ) (frames : List Buffer) :
    (List.range frames.length).map (markedFrame sessionid frames) =
      markFrames sessionid frames := by
  rcases List.eq_nil_or_concat frames with rfl | ⟨fs, b, rfl⟩
  · rfl
  · rw [List.concat_eq_append, markFrames, List.map_append, List.map_singleton,
      List.dropLast_concat, List.getLast?_concat, Option.map_some, Option.toList_some,
      Buffer.setSessionid_setSessionid, List.length_append, List.length_singleton,
      List.range_succ, List.map_append, List.map_singleton]
    congr 1
    · refine List.ext_getElem (by simp) fun i hi _ => ?_
      have hi' : i < fs.length := by simpa using hi
      have hne : (some fs.length == some i) = false := by simpa using Nat.ne_of_gt hi'
      have hget : fs[i]? = some fs[i] := List.getElem?_eq_getElem hi'
      simp [markedFrame, List.range_succ, hne, List.getElem?_append_left hi', hget]
    · simp [markedFrame, List.range_succ]

/-! ### Every step -/

section Steps

variable {frames : List Buffer} {sessionid : ℕ} {error : SslError}

/-- The message has been mounted: every frame is marked and is whole, or nothing of it
remains, and the queues hold frames of the message only. -/
structure MountedState (sessionid : ℕ) (frames : List Buffer) (s : FanState δ) : Prop where
  frame : ∀ r < frames.length, ∃ n finish, s.bufs r = frameLeft sessionid frames r n finish ∧
    (n = (markedFrame sessionid frames r).remainDataLength ∨ n = 0)
  queue_lt : ∀ d, ∀ r ∈ s.queue d, r < frames.length

/-- Mounting again leaves what remains of the frames as it is. -/
theorem setSessionid_frameLeft (r n : ℕ) (finish : Bool) :
    (frameLeft sessionid frames r n finish).setSessionid sessionid
        ((List.range frames.length).getLast? == some r) =
      frameLeft sessionid frames r n finish := by
  have hidem := Buffer.setSessionid_setSessionid (frames.getD r (Buffer.new Uninit.zero))
    sessionid sessionid ((List.range frames.length).getLast? == some r)
    ((List.range frames.length).getLast? == some r)
  simp only [frameLeft, markedFrame]
  simp only [Buffer.setSessionid] at hidem ⊢
  simp only [Buffer.mk.injEq] at hidem
  simp only [hidem]

/-- The first mounting. -/
theorem mountedState_init (d : δ) :
    MountedState sessionid frames
      (mountBuffer2Device sessionid (List.range frames.length) d (FanState.init δ frames)) := by
  rw [mountBuffer2Device_eq]
  refine ⟨fun r hr => ?_, fun d' r hr => ?_⟩
  · refine ⟨_, (markedFrame sessionid frames r).isFinish, ?_, Or.inl rfl⟩
    simp only [FanState.init]
    rw [if_pos (List.mem_range.mpr hr)]
    rfl
  · by_cases heq : d' = d
    · subst heq
      simp only [FanState.init, Function.update_self, List.nil_append] at hr
      exact List.mem_range.mp hr
    · simp [FanState.init, Function.update_of_ne heq] at hr

/-- **Mounting again** changes nothing but the queue. -/
theorem mountBuffer2Device_of_mounted {s : FanState δ} (h : MountedState sessionid frames s)
    (d : δ) :
    MountedState sessionid frames
        (mountBuffer2Device sessionid (List.range frames.length) d s) ∧
      ∀ r < frames.length, (mountBuffer2Device sessionid (List.range frames.length) d s).bufs r =
        s.bufs r := by
  have hbufs : ∀ r < frames.length,
      (mountBuffer2Device sessionid (List.range frames.length) d s).bufs r = s.bufs r := by
    intro r hr
    obtain ⟨n, finish, hframe, -⟩ := h.frame r hr
    rw [mountBuffer2Device_eq]
    simp only
    rw [if_pos (List.mem_range.mpr hr), hframe, setSessionid_frameLeft]
  refine ⟨⟨fun r hr => ?_, fun d' r hr => ?_⟩, hbufs⟩
  · rw [hbufs r hr]
    exact h.frame r hr
  · rw [mountBuffer2Device_eq] at hr
    by_cases heq : d' = d
    · subst heq
      simp only [Function.update_self] at hr
      rcases List.mem_append.mp hr with hr | hr
      · exact h.queue_lt d' r hr
      · exact List.mem_range.mp hr
    · simp only [Function.update_of_ne heq] at hr
      exact h.queue_lt d' r hr

/-- Nothing is written of an empty queue. -/
theorem writeFront_nil (error : SslError) {s : FanState δ} {d : δ} (hqueue : s.queue d = []) :
    writeFront error d s = s := by
  rw [writeFront, hqueue]

/-- The first reference of the queue is written. -/
theorem writeFront_cons {s : FanState δ} {d : δ} {r : ℕ} {rest : List ℕ}
    (hqueue : s.queue d = r :: rest) :
    writeFront error d s =
      popFinished s d r rest (socketWrite (fullWriter error) (s.sent d) (s.bufs r)) := by
  rw [writeFront, hqueue]

/-- **Writing a whole frame** sends it and takes it off the queue. -/
theorem writeFront_whole {s : FanState δ} {d : δ} {r : ℕ} {rest : List ℕ} {finish : Bool}
    (hwhole : Whole (markedFrame sessionid frames r)) (hqueue : s.queue d = r :: rest)
    (hbuf : s.bufs r = frameLeft sessionid frames r
      (markedFrame sessionid frames r).remainDataLength finish) :
    writeFront error d s =
      { bufs := Function.update s.bufs r (frameLeft sessionid frames r 0 true)
        queue := Function.update s.queue d rest
        sent := Function.update s.sent d
          (s.sent d ++ (markedFrame sessionid frames r).wire) } := by
  have hpos : 0 < (s.bufs r).remainDataLength := by
    rw [hbuf]
    exact hwhole.pos
  have hlt : (s.bufs r).remainDataLength < 2 ^ 31 := by
    rw [hbuf]
    exact hwhole.lt
  have hremaining : (s.bufs r).remaining = (markedFrame sessionid frames r).wire := by
    rw [hbuf, ← hwhole.remaining]
    rfl
  have hdone : { s.bufs r with remainDataLength := 0, isFinish := true } =
      frameLeft sessionid frames r 0 true := by
    rw [hbuf]
    rfl
  rw [writeFront_cons hqueue, socketWrite_fullWriter error _ hpos hlt, hremaining, hdone,
    popFinished]

/-- **Writing a frame of which nothing remains** sends nothing, and takes it off the queue
or leaves everything as it is. -/
theorem writeFront_empty (error : SslError) {s : FanState δ} {d : δ} {r : ℕ} {rest : List ℕ}
    {finish : Bool} (hqueue : s.queue d = r :: rest)
    (hbuf : s.bufs r = frameLeft sessionid frames r 0 finish) :
    writeFront error d s = s ∨
      writeFront error d s =
        { s with
          bufs := Function.update s.bufs r (frameLeft sessionid frames r 0 true)
          queue := Function.update s.queue d rest } := by
  have hzero : (s.bufs r).remainDataLength = 0 := by
    rw [hbuf]
    rfl
  have hdone : { s.bufs r with isFinish := true } = frameLeft sessionid frames r 0 true := by
    rw [hbuf]
    rfl
  rw [writeFront_cons hqueue, socketWrite_fullWriter_empty error _ hzero]
  cases writeFailure error with
  | error e =>
      left
      simp only [popFinished, Function.update_eq_self]
  | ok n =>
      right
      simp only [popFinished, Function.update_eq_self, hdone]

/-! ### Two recipients -/

/-- What remains of all frames of the message. -/
def leftLength (frames : List Buffer) (s : FanState δ) : ℕ :=
  ∑ r ∈ Finset.range frames.length, (s.bufs r).remainDataLength

/-- The length of the message on the wire. -/
def messageLength (sessionid : ℕ) (frames : List Buffer) : ℕ :=
  ∑ r ∈ Finset.range frames.length, (markedFrame sessionid frames r).remainDataLength

omit [DecidableEq δ] in
/-- Taking what remains of one frame. -/
theorem leftLength_update (sessionid n : ℕ) (s : FanState δ) {r : ℕ} (hr : r < frames.length)
    (finish : Bool) (queue : δ → List ℕ) (sent : δ → List UInt8) :
    leftLength frames
        ⟨Function.update s.bufs r (frameLeft sessionid frames r n finish), queue, sent⟩ +
      (s.bufs r).remainDataLength = leftLength frames s + n := by
  have hmem : r ∈ Finset.range frames.length := Finset.mem_range.mpr hr
  have hupdate : ∀ r', (Function.update s.bufs r (frameLeft sessionid frames r n finish)
      r').remainDataLength = Function.update (fun r' => (s.bufs r').remainDataLength) r n r' := by
    intro r'
    by_cases heq : r' = r
    · subst heq
      rw [Function.update_self, Function.update_self]
      rfl
    · rw [Function.update_of_ne heq, Function.update_of_ne heq]
  have hsplit := Finset.sum_eq_add_sum_sdiff_singleton_of_mem hmem
    (fun r' => (s.bufs r').remainDataLength)
  rw [leftLength, leftLength]
  simp only [hupdate]
  rw [Finset.sum_update_of_mem hmem, hsplit]
  omega

/-- Two devices have together been sent no more than what has been taken of the frames. -/
structure Shared (sessionid : ℕ) (frames : List Buffer) (d d' : δ) (s : FanState δ) : Prop where
  mounted : MountedState sessionid frames s
  length_le : (s.sent d).length + (s.sent d').length + leftLength frames s ≤
    messageLength sessionid frames

/-- Two queues share the buffers of the message they get. -/
theorem shared_init (d d' d'' : δ) :
    Shared sessionid frames d d'
      (mountBuffer2Device sessionid (List.range frames.length) d'' (FanState.init δ frames)) := by
  refine ⟨mountedState_init d'', ?_⟩
  rw [mountBuffer2Device_eq]
  refine Nat.le_of_eq ?_
  simp only [FanState.init, List.length_nil, Nat.zero_add, leftLength, messageLength]
  refine Finset.sum_congr rfl fun r hr => ?_
  rw [if_pos (List.mem_range.mpr (Finset.mem_range.mp hr))]
  rfl

/-- Mounting does not change what has been sent, nor what remains. -/
theorem shared_mount {d d' : δ} {s : FanState δ} (h : Shared sessionid frames d d' s) (d'' : δ) :
    Shared sessionid frames d d'
      (mountBuffer2Device sessionid (List.range frames.length) d'' s) := by
  obtain ⟨hmounted, hbufs⟩ := mountBuffer2Device_of_mounted h.mounted d''
  have hleft : leftLength frames
      (mountBuffer2Device sessionid (List.range frames.length) d'' s) = leftLength frames s := by
    refine Finset.sum_congr rfl fun r hr => ?_
    rw [hbufs r (Finset.mem_range.mp hr)]
  refine ⟨hmounted, ?_⟩
  rw [hleft, mountBuffer2Device_eq]
  exact h.length_le

/-- A write sends at most what remained of one frame, to one device. -/
theorem shared_write (hwhole : ∀ r < frames.length, Whole (markedFrame sessionid frames r))
    {d d' : δ} (hne : d ≠ d') {s : FanState δ} (h : Shared sessionid frames d d' s) (d'' : δ) :
    Shared sessionid frames d d' (writeFront error d'' s) := by
  cases hqueue : s.queue d'' with
  | nil =>
      rw [writeFront_nil error hqueue]
      exact h
  | cons r rest =>
      have hr : r < frames.length := h.mounted.queue_lt d'' r (by rw [hqueue]; simp)
      have hle := h.length_le
      have hqueue_lt : ∀ d₀, ∀ r' ∈ Function.update s.queue d'' rest d₀, r' < frames.length := by
        intro d₀ r' hr'
        refine h.mounted.queue_lt d₀ r' ?_
        by_cases heq : d₀ = d''
        · subst heq
          rw [Function.update_self] at hr'
          rw [hqueue]
          exact List.mem_cons_of_mem r hr'
        · rwa [Function.update_of_ne heq] at hr'
      have hframe : ∀ r' < frames.length, ∃ n finish,
          Function.update s.bufs r (frameLeft sessionid frames r 0 true) r' =
              frameLeft sessionid frames r' n finish ∧
            (n = (markedFrame sessionid frames r').remainDataLength ∨ n = 0) := by
        intro r' hr'
        by_cases heq : r' = r
        · subst heq
          exact ⟨0, true, by rw [Function.update_self], Or.inr rfl⟩
        · rw [Function.update_of_ne heq]
          exact h.mounted.frame r' hr'
      obtain ⟨n, finish, hbuf, rfl | rfl⟩ := h.mounted.frame r hr
      · rw [writeFront_whole (hwhole r hr) hqueue hbuf]
        refine ⟨⟨hframe, hqueue_lt⟩, ?_⟩
        have hleft := leftLength_update sessionid 0 s hr true
          (Function.update s.queue d'' rest)
          (Function.update s.sent d'' (s.sent d'' ++ (markedFrame sessionid frames r).wire))
        have hremain : (s.bufs r).remainDataLength =
            (markedFrame sessionid frames r).wire.length := by
          rw [hbuf, Buffer.wire, Memory.length_load, ← (hwhole r hr).remainDataLength]
          rfl
        simp only
        by_cases hd : d = d''
        · subst hd
          rw [Function.update_self, Function.update_of_ne (Ne.symm hne), List.length_append]
          omega
        · by_cases hd' : d' = d''
          · subst hd'
            rw [Function.update_self, Function.update_of_ne hd, List.length_append]
            omega
          · rw [Function.update_of_ne hd, Function.update_of_ne hd']
            omega
      · rcases writeFront_empty error hqueue hbuf with heq | heq
        · rw [heq]
          exact h
        · rw [heq]
          refine ⟨⟨hframe, hqueue_lt⟩, ?_⟩
          have hleft := leftLength_update sessionid 0 s hr true
            (Function.update s.queue d'' rest) s.sent
          simp only
          omega

/-! ### One recipient -/

/-- The first `j` frames have been sent to `d`, and the others wait in its queue. -/
structure Sending (sessionid : ℕ) (frames : List Buffer) (d : δ) (j : ℕ) (s : FanState δ) :
    Prop where
  le : j ≤ frames.length
  queue : s.queue d = (List.range frames.length).drop j
  queue_other : ∀ d', d' ≠ d → s.queue d' = []
  sent : s.sent d =
    (((List.range frames.length).take j).map fun r => (markedFrame sessionid frames r).wire).flatten
  frame : ∀ r, j ≤ r → r < frames.length → ∃ finish, s.bufs r =
    frameLeft sessionid frames r (markedFrame sessionid frames r).remainDataLength finish

/-- Nothing of the message has been sent. -/
theorem sending_init (d : δ) :
    Sending sessionid frames d 0
      (mountBuffer2Device sessionid (List.range frames.length) d (FanState.init δ frames)) := by
  rw [mountBuffer2Device_eq]
  refine ⟨Nat.zero_le _, ?_, fun d' hne => ?_, rfl, fun r _ hr => ?_⟩
  · simp [FanState.init]
  · simp [FanState.init, Function.update_of_ne hne]
  · refine ⟨(markedFrame sessionid frames r).isFinish, ?_⟩
    simp only [FanState.init]
    rw [if_pos (List.mem_range.mpr hr)]
    rfl

/-- A write callback sends the next frame, or changes nothing. -/
theorem sending_write (hwhole : ∀ r < frames.length, Whole (markedFrame sessionid frames r))
    {d : δ} {j : ℕ} {s : FanState δ} (h : Sending sessionid frames d j s) (d' : δ) :
    ∃ j', Sending sessionid frames d j' (writeFront error d' s) := by
  by_cases hd : d' = d
  · subst hd
    rcases Nat.lt_or_ge j frames.length with hlt | hge
    · have hlt' : j < (List.range frames.length).length := by rwa [List.length_range]
      have hqueue : s.queue d' = j :: (List.range frames.length).drop (j + 1) := by
        rw [h.queue, List.drop_eq_getElem_cons hlt', List.getElem_range]
      have htake : (List.range frames.length).take (j + 1) =
          (List.range frames.length).take j ++ [j] := by
        rw [List.take_succ_eq_append_getElem hlt', List.getElem_range]
      obtain ⟨finish, hbuf⟩ := h.frame j (Nat.le_refl j) hlt
      rw [writeFront_whole (hwhole j hlt) hqueue hbuf]
      refine ⟨j + 1, hlt, Function.update_self .., fun d₀ hne => ?_, ?_, fun r hjr hr => ?_⟩
      · simp only [Function.update_of_ne hne]
        exact h.queue_other d₀ hne
      · simp only [Function.update_self, h.sent, htake, List.map_append, List.flatten_append,
          List.map_singleton, List.flatten_singleton]
      · obtain ⟨finish', hbuf'⟩ := h.frame r (by omega) hr
        have hne : r ≠ j := by omega
        exact ⟨finish', by simp only [Function.update_of_ne hne, hbuf']⟩
    · have hnil : s.queue d' = [] := by
        rw [h.queue, List.drop_eq_nil_iff, List.length_range]
        exact hge
      rw [writeFront_nil error hnil]
      exact ⟨j, h⟩
  · rw [writeFront_nil error (h.queue_other d' hd)]
    exact ⟨j, h⟩

/-! ### Runs -/

/-- What write callbacks keep holds after a run in which nothing is mounted. -/
theorem inv_writes {P : FanState δ → Prop} (hP : ∀ s d, P s → P (writeFront error d s))
    {s : FanState δ} (h : P s) {es : List (FanEvent δ)} (hes : mounts es = []) :
    P (es.foldl (fanStep error sessionid (List.range frames.length)) s) := by
  induction es generalizing s with
  | nil => exact h
  | cons e es ih =>
      cases e with
      | mount d => simp [mounts] at hes
      | write d => exact ih (hP s d h) hes

/-- Before anything is mounted nothing happens. -/
theorem foldl_writes_init {es : List (FanEvent δ)} (hes : mounts es = []) :
    es.foldl (fanStep error sessionid (List.range frames.length)) (FanState.init δ frames) =
      FanState.init δ frames := by
  refine inv_writes (P := fun s => s = FanState.init δ frames) ?_ rfl hes
  rintro s d rfl
  exact writeFront_nil error rfl

/-- **A single recipient** whose queue has drained has been sent the message. -/
theorem sent_of_mounts_singleton
    (hwhole : ∀ r < frames.length, Whole (markedFrame sessionid frames r)) {d : δ}
    {es : List (FanEvent δ)} (hes : mounts es = [d])
    (hdrained : (fanRun error sessionid frames es).queue d = []) :
    (fanRun error sessionid frames es).sent d =
      ((markFrames sessionid frames).map Buffer.wire).flatten := by
  obtain ⟨es₁, e, es₂, rfl, hes₁, he, hes₂⟩ := List.filterMap_eq_cons_iff.mp hes
  have hmount : e = .mount d := by
    cases e with
    | mount d' => simpa using he
    | write d' => simp at he
  subst hmount
  have hrun : ∃ j, Sending sessionid frames d j
      (fanRun error sessionid frames (es₁ ++ .mount d :: es₂)) := by
    rw [fanRun, List.foldl_append, foldl_writes_init (List.filterMap_eq_nil_iff.mpr hes₁)]
    refine inv_writes (P := fun s => ∃ j, Sending sessionid frames d j s) ?_
      ⟨0, sending_init d⟩ hes₂
    rintro s d' ⟨j, h⟩
    exact sending_write hwhole h d'
  obtain ⟨j, h⟩ := hrun
  have hj : frames.length ≤ j := by
    have hdrop := h.queue
    rw [hdrained, eq_comm, List.drop_eq_nil_iff, List.length_range] at hdrop
    exact hdrop
  rw [h.sent, List.take_of_length_le (by rw [List.length_range]; exact hj),
    ← map_markedFrame, List.map_map]
  rfl

/-- **Two recipients** have together been sent no more than one message. -/
theorem length_sent_add_le (error : SslError)
    (hwhole : ∀ r < frames.length, Whole (markedFrame sessionid frames r)) {d d' : δ}
    (hne : d ≠ d') (es : List (FanEvent δ)) :
    ((fanRun error sessionid frames es).sent d).length +
        ((fanRun error sessionid frames es).sent d').length ≤
      messageLength sessionid frames := by
  have hrun : fanRun error sessionid frames es = FanState.init δ frames ∨
      Shared sessionid frames d d' (fanRun error sessionid frames es) := by
    refine Runs.inv_foldl_of_step
      (I := fun s => s = FanState.init δ frames ∨ Shared sessionid frames d d' s) ?_ es
      (Or.inl rfl)
    rintro s e (rfl | h)
    · cases e with
      | mount d'' => exact Or.inr (shared_init d d' d'')
      | write d'' =>
          have hqueue : (FanState.init δ frames).queue d'' = [] := rfl
          exact Or.inl (writeFront_nil error hqueue)
    · cases e with
      | mount d'' => exact Or.inr (shared_mount h d'')
      | write d'' => exact Or.inr (shared_write hwhole hne h d'')
  rcases hrun with heq | h
  · rw [heq]
    exact Nat.zero_le _
  · have hle := h.length_le
    omega

end Steps

/-! ### Fan-out -/

/-- The frames of a message are whole when they are mounted. -/
theorem whole_markedFrame {u : ℕ → Uninit} {type : UInt8} {dataString : List UInt8}
    {frames : List Buffer} (hframes : yijianBuffer u type dataString = .ok frames)
    (sessionid : ℕ) : ∀ r < frames.length, Whole (markedFrame sessionid frames r) := by
  intro r hr
  rw [yijianBuffer_eq, Except.ok.injEq] at hframes
  have hmem : frames[r] ∈ encodeAll u type 0 (Chunks.chunks maxlength dataString) := by
    rw [hframes]
    exact List.getElem_mem hr
  have hwhole : Whole (frames.getD r (Buffer.new Uninit.zero)) := by
    rw [List.getD_eq_getElem _ _ hr]
    exact whole_of_mem_encodeAll u type
      (fun c hc => Chunks.length_le_of_mem_chunks maxlength_pos hc) hmem
  exact hwhole.setSessionid sessionid _

/-- The length of the message on the wire is that of its frames, and is not zero. -/
theorem messageLength_eq {u : ℕ → Uninit} {type : UInt8} {dataString : List UInt8}
    {frames : List Buffer} (hframes : yijianBuffer u type dataString = .ok frames)
    (sessionid : ℕ) :
    messageLength sessionid frames =
        (((markFrames sessionid frames).map Buffer.wire).flatten).length ∧
      0 < messageLength sessionid frames := by
  have hwhole := whole_markedFrame hframes sessionid
  constructor
  · have hsum : messageLength sessionid frames =
        ((List.range frames.length).map
          fun r => (markedFrame sessionid frames r).remainDataLength).sum := rfl
    rw [hsum, ← map_markedFrame, List.length_flatten, List.map_map, List.map_map]
    congr 1
    refine List.map_congr_left fun r hr => ?_
    rw [(hwhole r (List.mem_range.mp hr)).remainDataLength]
    exact (Memory.length_load _ _ _).symm
  · have hpos : 0 < frames.length := by
      rw [yijianBuffer_eq, Except.ok.injEq] at hframes
      rw [← hframes, length_encodeAll]
      exact List.length_pos_iff.mpr (Chunks.chunks_ne_nil maxlength_pos _)
    exact Finset.sum_pos (fun r hr => (hwhole r (Finset.mem_range.mp hr)).pos)
      ⟨0, Finset.mem_range.mpr hpos⟩

/-- **Fan-out, exactly.** A message is mounted once on each of its recipients, in any order
and with any write callbacks in between. Once the queues have drained, every recipient has
been sent the frames of the message, numbered, in order and with the flag on the last one,
if and only if there was at most one recipient. -/
theorem fanOut_iff (error : SslError) (sessionid : ℕ) (u : ℕ → Uninit) (type : UInt8)
    (dataString : List UInt8) {frames : List Buffer}
    (hframes : yijianBuffer u type dataString = .ok frames) (es : List (FanEvent δ))
    (honce : (mounts es).Nodup)
    (hdrained : ∀ d, (fanRun error sessionid frames es).queue d = []) :
    (∀ d ∈ mounts es, (fanRun error sessionid frames es).sent d =
        ((markFrames sessionid frames).map Buffer.wire).flatten) ↔
      (mounts es).length ≤ 1 := by
  have hwhole := whole_markedFrame hframes sessionid
  obtain ⟨hlength, hpos⟩ := messageLength_eq hframes sessionid
  constructor
  · intro hsent
    by_contra hmany
    obtain ⟨d, d', rest, hmounts⟩ : ∃ d d' rest, mounts es = d :: d' :: rest := by
      match hmounts : mounts es with
      | [] | [_] => simp [hmounts] at hmany
      | d :: d' :: rest => exact ⟨d, d', rest, rfl⟩
    rw [hmounts] at honce hsent
    have hne : d ≠ d' := fun heq =>
      (List.nodup_cons.mp honce).1 (heq ▸ List.mem_cons_self)
    have hle := length_sent_add_le error hwhole hne es
    rw [hsent d (by simp), hsent d' (by simp), ← hlength] at hle
    omega
  · intro hone d hd
    refine sent_of_mounts_singleton hwhole ?_ (hdrained d)
    obtain ⟨d', hd'⟩ := List.length_eq_one_iff.mp
      (Nat.le_antisymm hone (List.length_pos_iff.mpr (List.ne_nil_of_mem hd)))
    rw [hd'] at hd ⊢
    rw [List.mem_singleton.mp hd]

/-- The one frame of a message with one byte of data. -/
def singleFrame : List Buffer :=
  encodeAll (fun _ => Uninit.zero) ChatType.nodemessagenoti.code 0 [[7]]

/-- A short message is one frame. -/
theorem yijianBuffer_single :
    yijianBuffer (fun _ => Uninit.zero) ChatType.nodemessagenoti.code [7] = .ok singleFrame := by
  rw [yijianBuffer_eq, Chunks.chunks_eq maxlength_pos]
  rfl

/-- The two frames of a message with 1020 bytes of data. -/
def longFrames : List Buffer :=
  encodeAll (fun _ => Uninit.zero) ChatType.nodemessagenoti.code 0
    [List.replicate 1019 7, [7]]

/-- A message of more than 1019 bytes is two frames. -/
theorem yijianBuffer_long :
    yijianBuffer (fun _ => Uninit.zero) ChatType.nodemessagenoti.code (List.replicate 1020 7) =
      .ok longFrames := by
  have hchunks : Chunks.chunks maxlength (List.replicate 1020 (7 : UInt8)) =
      [List.replicate 1019 7, [7]] := by
    rw [Chunks.chunks_eq maxlength_pos, if_neg (by rw [List.length_replicate]; decide),
      List.take_replicate, List.drop_replicate, Chunks.chunks_eq maxlength_pos,
      if_pos (by rw [List.length_replicate]; decide)]
    rfl
  rw [yijianBuffer_eq, hchunks]
  rfl

/-- One recipient, and a message of two frames, each of which is written by a callback of its
own. -/
theorem fanOut_long :
    (fanRun .wantConnect minSessionID longFrames
        [.write true, .mount true, .write false, .write true, .write false, .write true]).sent
        true = ((markFrames minSessionID longFrames).map Buffer.wire).flatten :=
  (fanOut_iff .wantConnect minSessionID _ _ _ yijianBuffer_long
    [.write true, .mount true, .write false, .write true, .write false, .write true] (by decide)
    (by decide +kernel)).mpr (by decide) true (by decide)

/-- Two recipients: both queues drain, and one socket receives nothing. -/
theorem fanOut_two :
    yijianBuffer (fun _ => Uninit.zero) ChatType.nodemessagenoti.code [7] = .ok singleFrame ∧
      (mounts [FanEvent.mount true, .mount false, .write true, .write false]).Nodup ∧
      (∀ d, (fanRun .wantConnect minSessionID singleFrame
        [.mount true, .mount false, .write true, .write false]).queue d = []) ∧
      ((markFrames minSessionID singleFrame).map Buffer.wire).flatten = [128, 100, 32, 1, 7] ∧
      (fanRun .wantConnect minSessionID singleFrame
        [.mount true, .mount false, .write true, .write false]).sent false = [] :=
  ⟨yijianBuffer_single, by decide⟩

end Yijian
