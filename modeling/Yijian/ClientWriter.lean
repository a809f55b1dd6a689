import Yijian.ClientNumbers
import Yijian.SocketWrite

/-!
# The Writer of a Client

`client_send` numbers a frame, puts it behind the write queue and wakes the event loop; `netyi`
calls it with the lock of its map held, so that one thread at a time is in it. The event loop
starts the write watcher, and as long as it is active `connection_write_callback` writes the first
frame of the queue, and takes it off when `socket_write` returns true. The lock of the queue is
held while the queue is looked at or changed, and given back while the frame is written; a
callback that finds the queue empty stops the watcher with the lock held.

A step is one section of `client_send` or of the event loop; the threads take their steps in any
order. The counter is set by the event loop, which reads the answer to a ClientConnect, without a
lock. An exception of `socket_write` ends the client.

The client leaves `SSL_MODE_ENABLE_PARTIAL_WRITE` off for its connection: the mode is set for the
context when the connection has been made. `WholeWriter` is such a connection: a call writes all
bytes or none.

## Relation to `Yijian.WriteWatcher`

The server has many queues, many workers and one vector for each; the client has one queue, and
`ev_async_send` right behind the push. Here the bytes on the wire are told and not only the places
of the frames, since one connection with its writer is followed from the queue to the wire. The
results on the stream need the connection to write frames whole, and make no other assumption on
it; that no call fails any more is needed only for the end of the queue, and from then on.

## Main results

* `socketWrite_of_written`, `socketWrite_of_failed`: what one call does.
* `ClientIoInv.step`: where the frames are, in every reachable state.
* `client_stream`: what is on the wire, and what may still be missing.
* `client_drains`: the event loop by itself writes what is missing.
-/

namespace Yijian

open Runs

variable {σ : Type}

/-! ### The connection -/

/-- The connection, with the bytes that were written to it. -/
def SslWriter.record (W : SslWriter σ) : SslWriter (σ × List UInt8) where
  sslWrite := fun (s, wire) bytes =>
    match W.sslWrite s bytes with
    | (.written n, s) => (.written n, s, wire ++ bytes.take n)
    | (.failed error, s) => (.failed error, s, wire)
  written_le := by
    rintro ⟨s, wire⟩ bytes n s' h
    simp only at h
    split at h
    · rename_i m s₁ hwrite
      obtain ⟨rfl, -⟩ : m = n ∧ _ := by simpa using h
      exact W.written_le hwrite
    · simp at h

/-- A connection that writes all bytes of a call or none. -/
structure WholeWriter (σ : Type) extends SslWriter σ where
  whole : ∀ {s : σ} {bytes : List UInt8} {n : ℕ} {s' : σ},
    sslWrite s bytes = (.written n, s') → n = bytes.length

/-- What a call of `socket_write` comes to on a frame of which nothing is written. -/
theorem socketWrite_unwritten (W : SslWriter σ) (s : σ) (wire : List UInt8) {b : Buffer}
    (hb : b.Unwritten) :
    socketWriteAt W.record (s, wire) b.heap b.currentPos b.remainDataLength =
      match W.sslWrite s b.wire with
      | (.written n, s) => (.ok n, (s, wire ++ b.wire.take n))
      | (.failed error, s) => (writeFailure error, (s, wire)) := by
  have hload : b.heap.load b.currentPos (toInt b.remainDataLength).toNat = b.wire := by
    rw [toInt_of_lt hb.remain_lt, Int.toNat_natCast, hb.currentPos, Buffer.wire, hb.size]
  simp only [socketWriteAt, hload, SslWriter.record]
  rcases W.sslWrite s b.wire with ⟨n | error, s'⟩ <;> rfl

/-- A call that writes puts the whole frame on the wire and returns true. -/
theorem socketWrite_of_written (W : WholeWriter σ) {s s' : σ} (wire : List UInt8) {b : Buffer}
    (hb : b.Unwritten) {n : ℕ} (hwrite : W.sslWrite s b.wire = (.written n, s')) :
    ∃ b', socketWrite W.record (s, wire) b = (.ok true, (s', wire ++ b.wire), b') := by
  have hn : n = b.remainDataLength := by
    rw [W.whole hwrite, Buffer.wire, Memory.length_load, hb.size]
  have hsub : subWrap 64 (b.remainDataLength : ℤ) (n : ℤ) = 0 := by
    have hsub := subWrap_of_le (w := 64) (a := b.remainDataLength) (b := n) (by omega)
      (by have := hb.remain_lt; omega)
    omega
  have htake : b.wire.take n = b.wire := by rw [W.whole hwrite, List.take_length]
  rw [socketWrite, socketWrite_unwritten W.toSslWriter s wire hb, hwrite]
  simp only [htake, hsub, beq_self_eq_true, Bool.true_or]
  exact ⟨_, rfl⟩

/-- A call that fails leaves the wire and the frame as they are. -/
theorem socketWrite_of_failed (W : WholeWriter σ) {s s' : σ} (wire : List UInt8) {b : Buffer}
    (hb : b.Unwritten) {error : SslError} (hwrite : W.sslWrite s b.wire = (.failed error, s')) :
    ∃ r, r ≠ .ok true ∧ socketWrite W.record (s, wire) b = (r, (s', wire), b) := by
  rw [socketWrite, socketWrite_unwritten W.toSslWriter s wire hb, hwrite]
  simp only
  rcases hfail : writeFailure error with e | n
  · exact ⟨.error e, by simp, rfl⟩
  · obtain rfl : n = 0 := by
      cases error <;> simp [writeFailure] at hfail <;> exact hfail.symm
    have hsub : subWrap 64 (b.remainDataLength : ℤ) ((0 : ℕ) : ℤ) = b.remainDataLength := by
      have hsub := subWrap_of_le (w := 64) (a := b.remainDataLength) (b := (0 : ℕ)) (by omega)
        (by have := hb.remain_lt; omega)
      omega
    have hfin : (b.remainDataLength == 0 || b.isFinish) = false := by
      have := hb.remain_pos
      rw [hb.isFinish, Bool.or_false, beq_eq_false_iff_ne]
      omega
    refine ⟨.ok false, by simp, ?_⟩
    simp only [hsub, hfin]
    exact congrArg (fun f => (Except.ok false, (s', wire), { b with isFinish := f }))
      hb.isFinish.symm

/-! ### Threads and event loop -/

/-- Where the event loop is in `connection_write_callback`: not in it, behind the first section
with the lock, or behind a `socket_write` that returned true. An exception ends the loop. -/
inductive WriterAt
  | idle
  | write
  | pop
  | ended
deriving DecidableEq

/-- The client: the counter `read_io_->sessionid`, the frame of the thread that is in
`client_send`, the write queue, the write watcher, the notification that is not answered yet, the
place of the event loop and the connection. `sent` are all frames that were put on the queue. -/
structure ClientIo (σ : Type) where
  sessionid : ℕ
  sending : Option Buffer
  buffersP : List Buffer
  watching : Bool
  asyncSent : Bool
  place : WriterAt
  ssl : σ × List UInt8
  sent : List Buffer

/-- A client that has connected. -/
def ClientIo.start (sessionid : ℕ) (s : σ) : ClientIo σ where
  sessionid := sessionid
  sending := none
  buffersP := []
  watching := false
  asyncSent := false
  place := .idle
  ssl := (s, [])
  sent := []

/-- The steps: the two sections of `client_send`, and those of the event loop. -/
inductive ClientIoEvent
  | clientSend (m : ClientMessage)
  | push
  | startWrite
  | read (b : Buffer)
  | lookAtQueue
  | socketWrite
  | pop

/-- A step of the event loop: `start_write_callback`, `connection_read_callback` on a complete
frame, and the three parts of `connection_write_callback`. -/
def loopIoStep (W : SslWriter σ) (t : ClientIo σ) : ClientIoEvent → ClientIo σ
  | .startWrite =>
      if t.place = .idle ∧ t.asyncSent then { t with watching := true, asyncSent := false } else t
  | .read b =>
      if t.place = .idle then { t with sessionid := clientReadCallback t.sessionid b } else t
  | .lookAtQueue =>
      if t.place = .idle ∧ t.watching then
        if t.buffersP.isEmpty then { t with watching := false } else { t with place := .write }
      else t
  | .socketWrite =>
      match t.place, t.buffersP with
      | .write, b :: rest =>
          match Yijian.socketWrite W.record t.ssl b with
          | (.ok finish, ssl, b) =>
              { t with ssl := ssl, buffersP := b :: rest, place := if finish then .pop else .idle }
          | (.error _, ssl, b) => { t with ssl := ssl, buffersP := b :: rest, place := .ended }
      | _, _ => t
  | .pop =>
      if t.place = .pop then { t with buffersP := t.buffersP.tail, place := .idle } else t
  | _ => t

/-- One step. -/
def clientIoStep (W : SslWriter σ) (t : ClientIo σ) : ClientIoEvent → ClientIo σ
  | .clientSend m =>
      if t.sending.isNone then
        { t with
          sending := some (Yijian.clientSend t.sessionid m.buffer).1
          sessionid := (Yijian.clientSend t.sessionid m.buffer).2 }
      else t
  | .push =>
      match t.sending with
      | none => t
      | some b =>
          { t with
            sending := none
            buffersP := t.buffersP ++ [b]
            asyncSent := true
            sent := t.sent ++ [b] }
  | e => loopIoStep W t e

/-! ### Where the frames are -/

/-- The frames that are not written yet: the queue, without its first frame where that has been
written and not yet taken off. -/
def ClientIo.unwritten (t : ClientIo σ) : List Buffer :=
  if t.place = .pop then t.buffersP.tail else t.buffersP

/-- The frame was numbered by `client_send`. -/
def FromClient (b : Buffer) : Prop :=
  ∃ (m : ClientMessage) (sessionid : ℕ), b = (Yijian.clientSend sessionid m.buffer).1

/-- Nothing of a frame on the queue has been written. -/
theorem FromClient.unwritten {b : Buffer} (h : FromClient b) : b.Unwritten := by
  obtain ⟨m, sessionid, rfl⟩ := h
  refine EncodedFrame.unwritten (.setSessionid (.encoding m.u m.type m.data ?_) _ _)
  rw [Buffer.buffer_ok m.u m.type m.data_le]

/-- The frames are written in the order in which they were put on the queue, and what is not
written will be. -/
structure ClientIoInv (t : ClientIo σ) : Prop where
  sending : ∀ b ∈ t.sending, FromClient b
  sent : ∀ b ∈ t.sent, FromClient b
  frames : ∃ done, t.sent = done ++ t.unwritten ∧ t.ssl.2 = (done.map Buffer.wire).flatten
  /-- The callback is on its way to a queue that is not empty, or is running. -/
  watched : t.buffersP ≠ [] → t.place ≠ .ended → t.watching = true ∨ t.asyncSent = true
  busy : t.place = .write ∨ t.place = .pop → t.watching = true ∧ t.buffersP ≠ []

/-- Nothing has been sent yet. -/
theorem clientIoInv_start (sessionid : ℕ) (s : σ) :
    ClientIoInv (ClientIo.start sessionid s) where
  sending := nofun
  sent := nofun
  frames := ⟨[], rfl, rfl⟩
  watched h := absurd rfl h
  busy h := by simp [ClientIo.start] at h

/-- The frames of a message go behind those on the queue. -/
theorem ClientIoInv.clientSend {t : ClientIo σ} (h : ClientIoInv t) (W : SslWriter σ)
    (m : ClientMessage) : ClientIoInv (clientIoStep W t (.clientSend m)) := by
  simp only [clientIoStep]
  split
  · refine ⟨fun b hb => ?_, h.sent, h.frames, h.watched, h.busy⟩
    exact ⟨m, t.sessionid, (Option.mem_some_iff.mp hb).symm⟩
  · exact h

/-- A frame that is put on the queue wakes the event loop. -/
theorem ClientIoInv.push {t : ClientIo σ} (h : ClientIoInv t) (W : SslWriter σ) :
    ClientIoInv (clientIoStep W t .push) := by
  simp only [clientIoStep]
  cases hsend : t.sending with
  | none => exact h
  | some b =>
      obtain ⟨done, hsent, hwire⟩ := h.frames
      refine ⟨nofun, fun b' hb' => ?_, ⟨done, ?_, hwire⟩, fun _ _ => .inr rfl, fun hplace => ?_⟩
      · obtain hb' | hb' := List.mem_append.mp hb'
        · exact h.sent b' hb'
        · exact List.mem_singleton.mp hb' ▸ h.sending b hsend
      · simp only [ClientIo.unwritten] at hsent ⊢
        rw [hsent, List.append_assoc]
        split
        · rename_i hpop
          rw [List.tail_append_of_ne_nil (h.busy (.inr hpop)).2]
        · rfl
      · exact ⟨(h.busy hplace).1, by simp⟩

/-- A look at the queue changes nothing that has been written. -/
theorem ClientIoInv.lookAtQueue {t : ClientIo σ} (h : ClientIoInv t) (W : SslWriter σ) :
    ClientIoInv (clientIoStep W t .lookAtQueue) := by
  simp only [clientIoStep, loopIoStep]
  split
  · rename_i hidle
    obtain ⟨done, hsent, hwire⟩ := h.frames
    split
    · rename_i hempty
      have hnil := List.isEmpty_iff.mp hempty
      refine ⟨h.sending, h.sent, ⟨done, hsent, hwire⟩, fun hne => absurd hnil hne, ?_⟩
      simp [hidle.1]
    · rename_i hne
      refine ⟨h.sending, h.sent, ⟨done, ?_, hwire⟩, fun _ _ => .inl hidle.2,
        fun _ => ⟨hidle.2, fun hnil => hne (List.isEmpty_iff.mpr hnil)⟩⟩
      simpa [ClientIo.unwritten, hidle.1] using hsent
  · exact h

/-- **A call of `socket_write`** puts the first frame behind the others on the wire, or leaves the
queue and the wire as they are. -/
theorem ClientIoInv.socketWrite {t : ClientIo σ} (h : ClientIoInv t) (W : WholeWriter σ) :
    ClientIoInv (clientIoStep W.toSslWriter t .socketWrite) := by
  simp only [clientIoStep, loopIoStep]
  split
  · rename_i b rest hplace hqueue
    obtain ⟨done, hsent, hwire⟩ := h.frames
    have hbusy := h.busy (.inl hplace)
    rw [ClientIo.unwritten, hplace, if_neg (by decide), hqueue] at hsent
    have hb : b.Unwritten :=
      (h.sent b (hsent ▸ List.mem_append_right done List.mem_cons_self)).unwritten
    rcases hssl : W.sslWrite t.ssl.1 b.wire with ⟨n | error, s'⟩
    · obtain ⟨b', hwrite⟩ := socketWrite_of_written W t.ssl.2 hb hssl
      simp only [Prod.mk.eta] at hwrite
      simp only [hwrite]
      refine ⟨h.sending, h.sent, ⟨done ++ [b], ?_, ?_⟩, fun _ _ => .inl hbusy.1,
        fun _ => ⟨hbusy.1, List.cons_ne_nil _ _⟩⟩
      · simp [ClientIo.unwritten, hsent]
      · simp [hwire]
    · obtain ⟨r, hr, hwrite⟩ := socketWrite_of_failed W t.ssl.2 hb hssl
      simp only [Prod.mk.eta] at hwrite
      simp only [hwrite]
      rcases r with e | finish
      · refine ⟨h.sending, h.sent, ⟨done, ?_, hwire⟩, fun _ hne => absurd rfl hne, ?_⟩
        · simp [ClientIo.unwritten, hsent]
        · simp
      · obtain rfl : finish = false := by simpa using hr
        refine ⟨h.sending, h.sent, ⟨done, ?_, hwire⟩, fun _ _ => .inl hbusy.1, ?_⟩
        · simp [ClientIo.unwritten, hsent]
        · simp
  · exact h

/-- The frame that is taken off the queue is the one that has been written. -/
theorem ClientIoInv.pop {t : ClientIo σ} (h : ClientIoInv t) (W : SslWriter σ) :
    ClientIoInv (clientIoStep W t .pop) := by
  simp only [clientIoStep, loopIoStep]
  split
  · rename_i hpop
    obtain ⟨done, hsent, hwire⟩ := h.frames
    refine ⟨h.sending, h.sent, ⟨done, ?_, hwire⟩, fun _ _ => .inl (h.busy (.inr hpop)).1, ?_⟩
    · simpa [ClientIo.unwritten, hpop] using hsent
    · simp
  · exact h

/-- **Every step** keeps the frames in order and the event loop awake. -/
theorem ClientIoInv.step {t : ClientIo σ} (h : ClientIoInv t) (W : WholeWriter σ)
    (e : ClientIoEvent) : ClientIoInv (clientIoStep W.toSslWriter t e) := by
  cases e with
  | clientSend m => exact h.clientSend _ m
  | push => exact h.push _
  | startWrite =>
      simp only [clientIoStep, loopIoStep]
      split
      · exact ⟨h.sending, h.sent, h.frames, fun _ _ => .inl rfl,
          fun hplace => ⟨rfl, (h.busy hplace).2⟩⟩
      · exact h
  | read b =>
      simp only [clientIoStep, loopIoStep]
      split
      · exact ⟨h.sending, h.sent, h.frames, h.watched, h.busy⟩
      · exact h
  | lookAtQueue => exact h.lookAtQueue _
  | socketWrite => exact h.socketWrite W
  | pop => exact h.pop _

/-- The state that a run of the client leads to. -/
def ClientIo.run (W : SslWriter σ) (t : ClientIo σ) (es : List ClientIoEvent) : ClientIo σ :=
  es.foldl (clientIoStep W) t

/-- In every run the stream is what has been taken off the queue. -/
theorem ClientIoInv.run {t : ClientIo σ} (h : ClientIoInv t) (W : WholeWriter σ)
    (es : List ClientIoEvent) : ClientIoInv (t.run W.toSslWriter es) :=
  inv_foldl_of_step (fun _ e h => h.step W e) es h

/-! ### Numbers -/

/-- The frames of messages that are numbered from `c` on. -/
def numberFrames : ℕ → List ClientMessage → List Buffer
  | _, [] => []
  | c, m :: ms => (Yijian.clientSend c m.buffer).1 :: numberFrames (clientSend c m.buffer).2 ms

/-- All frames that have a number, in the order in which they got it. -/
def ClientIo.numbered (t : ClientIo σ) : List Buffer := t.sent ++ t.sending.toList

/-- The step sets the counter. -/
def ClientIoEvent.resets : ClientIoEvent → Bool
  | .read b => b.datatype == ChatType.clientconnectres.code
  | _ => false

/-- What a step of the event loop leaves alone. -/
theorem loopIoStep_frame (W : SslWriter σ) (t : ClientIo σ) {e : ClientIoEvent}
    (he : e.resets = false) :
    (loopIoStep W t e).numbered = t.numbered ∧ (loopIoStep W t e).sessionid = t.sessionid := by
  cases e with
  | read b =>
      have hne : b.datatype ≠ ChatType.clientconnectres.code := by
        simpa [ClientIoEvent.resets] using he
      simp only [loopIoStep, clientReadCallback, if_neg hne]
      split <;> exact ⟨rfl, rfl⟩
  | socketWrite =>
      simp only [loopIoStep]
      split
      · split <;> exact ⟨rfl, rfl⟩
      · exact ⟨rfl, rfl⟩
  | lookAtQueue =>
      simp only [loopIoStep]
      split
      · split <;> exact ⟨rfl, rfl⟩
      · exact ⟨rfl, rfl⟩
  | startWrite | pop =>
      simp only [loopIoStep]
      split <;> exact ⟨rfl, rfl⟩
  | clientSend m | push => exact ⟨rfl, rfl⟩

/-- **The order of the numbers is the order of the queue.** As long as no answer to a
ClientConnect is read, the frames that are numbered go on from the counter, and are put on the
queue one by one in that order. -/
theorem numbered_run (W : SslWriter σ) (t : ClientIo σ) {es : List ClientIoEvent}
    (hes : ∀ e ∈ es, e.resets = false) :
    ∃ ms, (t.run W es).numbered = t.numbered ++ numberFrames t.sessionid ms := by
  induction es generalizing t with
  | nil => exact ⟨[], (List.append_nil _).symm⟩
  | cons e es ih =>
      obtain ⟨ms, hms⟩ := ih (clientIoStep W t e) fun e he => hes e (List.mem_cons_of_mem _ he)
      rw [ClientIo.run, List.foldl_cons, ← ClientIo.run, hms]
      have hloop (e : ClientIoEvent) (he : e.resets = false)
          (hstep : clientIoStep W t e = loopIoStep W t e) :
          ∃ ms', (clientIoStep W t e).numbered ++
            numberFrames (clientIoStep W t e).sessionid ms =
              t.numbered ++ numberFrames t.sessionid ms' := by
        obtain ⟨hnum, hid⟩ := loopIoStep_frame W t he
        exact ⟨ms, by rw [hstep, hnum, hid]⟩
      cases e with
      | clientSend m =>
          simp only [clientIoStep]
          split
          · rename_i hnone
            refine ⟨m :: ms, ?_⟩
            simp [ClientIo.numbered, Option.isNone_iff_eq_none.mp hnone, numberFrames]
          · exact ⟨ms, rfl⟩
      | push =>
          simp only [clientIoStep]
          cases hsend : t.sending with
          | none => exact ⟨ms, by simp [ClientIo.numbered, hsend]⟩
          | some b => exact ⟨ms, by simp [ClientIo.numbered, hsend]⟩
      | _ => exact hloop _ (hes _ List.mem_cons_self) rfl

/-! ### The event loop by itself -/

/-- The connection never fails. -/
def WholeWriter.Writes (W : WholeWriter σ) : Prop :=
  ∀ s bytes, bytes ≠ [] → ∃ s', W.sslWrite s bytes = (.written bytes.length, s')

/-- The connection that always writes. -/
def alwaysWrites : WholeWriter (List UInt8) where
  toSslWriter := fullWriter .wantWrite
  whole := by
    intro s bytes n s' h
    simp only [fullWriter] at h
    split at h
    · cases h
    · simpa using (Prod.mk.inj h).1.symm

/-- No call of it fails. -/
theorem alwaysWrites_writes : alwaysWrites.Writes :=
  fun s bytes hne => ⟨s ++ bytes, if_neg hne⟩

/-- One turn of the event loop. -/
def loopTurn : List ClientIoEvent := [.startWrite, .lookAtQueue, .socketWrite, .pop]

/-- The frame that the callback is at is written and taken off. -/
theorem run_write (W : WholeWriter σ) (hW : W.Writes) {t : ClientIo σ} {b : Buffer}
    {rest : List Buffer} (hplace : t.place = .write) (hqueue : t.buffersP = b :: rest)
    (hb : b.Unwritten) :
    let t' := t.run W.toSslWriter [.socketWrite, .pop]
    t'.place = .idle ∧ t'.buffersP = rest ∧ t'.sent = t.sent := by
  have hne : b.wire ≠ [] := by
    rw [← List.length_pos_iff, Buffer.wire, Memory.length_load, hb.size]
    exact hb.remain_pos
  obtain ⟨s', hssl⟩ := hW t.ssl.1 b.wire hne
  obtain ⟨b', hwrite⟩ := socketWrite_of_written W t.ssl.2 hb hssl
  simp only [Prod.mk.eta] at hwrite
  simp [ClientIo.run, clientIoStep, loopIoStep, hplace, hqueue, hwrite]

/-- **One turn of the event loop** writes one frame. -/
theorem ClientIoInv.loopTurn {t : ClientIo σ} (h : ClientIoInv t) (W : WholeWriter σ)
    (hW : W.Writes) (hplace : t.place ≠ .ended) :
    let t' := t.run W.toSslWriter loopTurn
    t'.place = .idle ∧ t'.buffersP = t.buffersP.tail ∧ t'.sent = t.sent := by
  obtain ⟨done, hsent, -⟩ := h.frames
  cases hat : t.place with
  | ended => exact absurd hat hplace
  | pop =>
      simp [ClientIo.run, Yijian.loopTurn, clientIoStep, loopIoStep, hat]
  | write =>
      obtain ⟨b, rest, hqueue⟩ := List.exists_cons_of_ne_nil (h.busy (.inl hat)).2
      have hb := (h.sent b (by simp [hsent, ClientIo.unwritten, hat, hqueue])).unwritten
      have hrun : t.run W.toSslWriter Yijian.loopTurn =
          t.run W.toSslWriter [.socketWrite, .pop] := by
        simp [ClientIo.run, Yijian.loopTurn, clientIoStep, loopIoStep, hat]
      rw [hrun, hqueue]
      exact run_write W hW hat hqueue hb
  | idle =>
      cases hqueue : t.buffersP with
      | nil =>
          cases hasync : t.asyncSent <;> cases hwatch : t.watching <;>
            simp [ClientIo.run, Yijian.loopTurn, clientIoStep, loopIoStep, hat, hqueue, hasync,
              hwatch]
      | cons b rest =>
          have hb := (h.sent b (by simp [hsent, ClientIo.unwritten, hat, hqueue])).unwritten
          have hlook : ∃ t₁ : ClientIo σ,
              t.run W.toSslWriter [.startWrite, .lookAtQueue] = t₁ ∧ t₁.place = .write ∧
                t₁.buffersP = b :: rest ∧ t₁.sent = t.sent := by
            obtain hwatch | hasync := h.watched (by simp [hqueue]) hplace
            · cases hasync : t.asyncSent <;>
                simp [ClientIo.run, clientIoStep, loopIoStep, hat, hqueue, hasync, hwatch]
            · simp [ClientIo.run, clientIoStep, loopIoStep, hat, hqueue, hasync]
          obtain ⟨t₁, hrun, hplace₁, hqueue₁, hsent₁⟩ := hlook
          have hturn : t.run W.toSslWriter Yijian.loopTurn =
              t₁.run W.toSslWriter [.socketWrite, .pop] := by
            rw [← hrun]
            rfl
          rw [hturn, ← hsent₁]
          exact run_write W hW hplace₁ hqueue₁ hb

/-- The turns empty the queue. -/
theorem ClientIoInv.loopTurns {t : ClientIo σ} (h : ClientIoInv t) (W : WholeWriter σ)
    (hW : W.Writes) (hplace : t.place ≠ .ended) {n : ℕ} (hn : t.buffersP.length ≤ n) :
    let t' := t.run W.toSslWriter (List.replicate (n + 1) Yijian.loopTurn).flatten
    t'.place = .idle ∧ t'.buffersP = [] ∧ t'.sent = t.sent := by
  induction n generalizing t with
  | zero =>
      obtain ⟨hidle, htail, hsent⟩ := h.loopTurn W hW hplace
      rw [List.length_eq_zero_iff.mp (Nat.le_zero.mp hn)] at htail
      simpa using ⟨hidle, htail, hsent⟩
  | succ n ih =>
      obtain ⟨hidle, htail, hsent⟩ := h.loopTurn W hW hplace
      have hrest := ih (h.run W Yijian.loopTurn) (by rw [hidle]; decide)
        (by rw [htail, List.length_tail]; omega)
      rw [hsent] at hrest
      have hrun : t.run W.toSslWriter (List.replicate (n + 1 + 1) Yijian.loopTurn).flatten =
          (t.run W.toSslWriter Yijian.loopTurn).run W.toSslWriter
            (List.replicate (n + 1) Yijian.loopTurn).flatten := by
        rw [List.replicate_succ, List.flatten_cons, ClientIo.run, List.foldl_append]
        rfl
      rw [hrun]
      exact hrest

/-! ### The stream of a client -/

/-- **The stream of a client.** In every state that the threads and the event loop can reach, in
whatever order they take their steps, the bytes on the wire are the frames that were put on the
queue, whole and in order, but for those that still wait; the event loop has not forgotten these:
where nothing is going on and the client has not ended, none waits. Unless the answer to a
ClientConnect was read, the frames are numbered one by one in that order. -/
theorem client_stream (W : WholeWriter σ) (sessionid : ℕ) (s : σ) (es : List ClientIoEvent) :
    let t := (ClientIo.start sessionid s).run W.toSslWriter es
    (∃ done, t.sent = done ++ t.unwritten ∧ t.ssl.2 = (done.map Buffer.wire).flatten) ∧
      (t.place = .idle → t.watching = false → t.asyncSent = false →
        t.ssl.2 = (t.sent.map Buffer.wire).flatten) ∧
      ((∀ e ∈ es, e.resets = false) →
        ∃ ms, t.sent ++ t.sending.toList = numberFrames sessionid ms) := by
  intro t
  have h := (clientIoInv_start sessionid s).run W es
  refine ⟨h.frames, fun hidle hwatch hasync => ?_, fun hes =>
    numbered_run W.toSslWriter (ClientIo.start sessionid s) hes⟩
  obtain ⟨done, hsent, hwire⟩ := h.frames
  have hnil : t.buffersP = [] := by
    by_contra hne
    obtain hw | ha := h.watched hne (by rw [hidle]; decide)
    · exact Bool.false_ne_true (hwatch.symm.trans hw)
    · exact Bool.false_ne_true (hasync.symm.trans ha)
  rw [ClientIo.unwritten, hidle, if_neg (by decide), hnil, List.append_nil] at hsent
  rw [hsent, hwire]

/-- A ping and the message behind it, both of which are written: the numbers are those from 100
on, and no answer to a ClientConnect is read. -/
def twoFrames : List ClientIoEvent :=
  [.clientSend (emptyMessage .ping (by decide)), .push, .startWrite, .lookAtQueue,
    .clientSend (emptyMessage .queryuserversion (by decide)), .push, .socketWrite, .pop,
    .startWrite, .lookAtQueue, .socketWrite, .pop, .lookAtQueue]

/-- The stream of two frames: behind them the event loop waits, and both are on the wire. -/
theorem client_stream_twoFrames :
    let t := (ClientIo.start 100 []).run alwaysWrites.toSslWriter twoFrames
    t.ssl.2 = (t.sent.map Buffer.wire).flatten ∧ t.sent.length = 2 ∧
      ∃ ms, t.sent ++ t.sending.toList = numberFrames 100 ms := by
  obtain ⟨-, hwritten, hnumbers⟩ := client_stream alwaysWrites 100 [] twoFrames
  exact ⟨hwritten (by decide) (by decide) (by decide), by decide, hnumbers (by decide)⟩

/-- **The event loop writes everything**: from every reachable state, whatever has failed on the
way there, on a connection that does not fail from then on, one turn for each frame of the queue
and one more leave nothing to write. `W` is the connection up to that state, `W'` the one from
there on. -/
theorem client_drains (W W' : WholeWriter σ) (hW' : W'.Writes) (sessionid : ℕ) (s : σ)
    (es : List ClientIoEvent) :
    let t := (ClientIo.start sessionid s).run W.toSslWriter es
    t.place ≠ .ended →
      let t' := t.run W'.toSslWriter (List.replicate (t.buffersP.length + 1) loopTurn).flatten
      t'.buffersP = [] ∧ t'.ssl.2 = (t.sent.map Buffer.wire).flatten := by
  intro t hplace t'
  have h := (clientIoInv_start sessionid s).run W es
  obtain ⟨hidle, hnil, hsent⟩ := h.loopTurns W' hW' hplace (Nat.le_refl _)
  obtain ⟨done, hdone, hwire⟩ := (h.run W' _).frames
  refine ⟨hnil, ?_⟩
  rw [ClientIo.unwritten, hidle, if_neg (by decide), hnil, List.append_nil] at hdone
  rw [← hsent, hdone, hwire]

/-- The connection while it shakes hands: no call writes. -/
def shakesHands : WholeWriter (List UInt8) where
  sslWrite := fun sent _ => (.failed .wantConnect, sent)
  written_le := fun h => by cases h
  whole := fun h => by cases h

/-- Two pings that are put on the queue while the connection shakes hands, the second of them
behind a call that has written nothing. -/
theorem client_drains_pings :
    let t := (ClientIo.start 100 []).run shakesHands.toSslWriter
      [.clientSend (emptyMessage .ping (by decide)), .push, .startWrite, .lookAtQueue,
        .socketWrite, .clientSend (emptyMessage .ping (by decide)), .push]
    t.place ≠ .ended ∧ t.ssl.2 = [] ∧
      let t' := t.run alwaysWrites.toSslWriter
        (List.replicate (t.buffersP.length + 1) loopTurn).flatten
      t'.buffersP = [] ∧ t'.ssl.2 = (t.sent.map Buffer.wire).flatten :=
  ⟨by decide, by decide,
    client_drains shakesHands alwaysWrites alwaysWrites_writes 100 [] _ (by decide)⟩

/-! ### The other end -/

/-- The frame as it arrives: the header has 15 bits for the number, and a number beyond them takes
away the mark of the last frame. -/
def Buffer.arrived (b : Buffer) : Buffer :=
  b.setSessionid (b.sessionId % 2 ^ 15) (decide (b.sessionId % 2 ^ 16 < 2 ^ 15))

/-- A frame arrives with its number and its flag as the sixteen bits can hold them. -/
theorem arrived_setSessionid (b : Buffer) (sessionid : ℕ) (isLast : Bool) :
    (b.setSessionid sessionid isLast).arrived =
      b.setSessionid (sessionid % 2 ^ 15) (decide (sessionid % 2 ^ 16 < 2 ^ 15)) :=
  Buffer.setSessionid_setSessionid ..

/-- The bytes of a last frame are those of a number of 16 bits. -/
theorem wire_setSessionid_true (b : Buffer) (sessionid : ℕ) :
    (b.setSessionid sessionid true).wire = (b.setSessionid (sessionid % 2 ^ 16) true).wire := by
  have hmod : (sessionid % 2 ^ 16 + bufferLastFlag) % 2 ^ 16 =
      (sessionid + bufferLastFlag) % 2 ^ 16 := Nat.mod_add_mod _ _ _
  simp only [Buffer.setSessionid, Buffer.wire, Buffer.size, if_true, hmod]

/-- A frame of a client arrives with the bytes that were sent. -/
theorem FromClient.wire_arrived {b : Buffer} (h : FromClient b) : b.arrived.wire = b.wire := by
  obtain ⟨m, sessionid, rfl⟩ := h
  have hmod : sessionid % 2 ^ 16 % 2 ^ 15 = sessionid % 2 ^ 15 := by omega
  have hlast : (true ^^ decide (2 ^ 15 ≤ sessionid % 2 ^ 16)) =
      decide (sessionid % 2 ^ 16 < 2 ^ 15) := by
    rw [Bool.true_xor, Bool.eq_iff_iff, Bool.not_eq_true', decide_eq_false_iff_not,
      decide_eq_true_iff, not_le]
  rw [Yijian.clientSend, arrived_setSessionid]
  simp only
  rw [wire_setSessionid_true, wire_setSessionid_mod _ (Nat.mod_lt _ (by decide)), hmod, hlast]

/-- A number that fits the header arrives as it is. -/
theorem FromClient.arrived_eq {b : Buffer} (h : FromClient b) (hnum : b.sessionId ≤ maxSessionID) :
    b.arrived = b := by
  obtain ⟨m, sessionid, rfl⟩ := h
  have hlt : sessionid < 2 ^ 15 := Nat.lt_succ_of_le hnum
  have hlast : decide (sessionid % 2 ^ 16 < 2 ^ 15) = true := by
    rw [decide_eq_true_iff]
    omega
  rw [Yijian.clientSend, arrived_setSessionid, hlast, Nat.mod_eq_of_lt hlt]

/-- The frame that arrives is one that fits the header. -/
theorem FromClient.exists_sentFrame {b : Buffer} (h : FromClient b) :
    ∃ f : SentFrame, f.buffer = b.arrived := by
  obtain ⟨m, sessionid, rfl⟩ := h
  refine ⟨⟨m.u, sessionid % 2 ^ 15, decide (sessionid % 2 ^ 16 < 2 ^ 15), m.type, m.data, ?_,
    m.data_le⟩, ?_⟩
  · rw [maxSessionID_eq]
    omega
  · rw [Yijian.clientSend, arrived_setSessionid]
    rfl

/-- The frames of a client are frames of one of its messages. -/
theorem exists_sentFrames {bs : List Buffer} (h : ∀ b ∈ bs, FromClient b) :
    ∃ fs : List SentFrame, fs.map SentFrame.buffer = bs.map Buffer.arrived := by
  induction bs with
  | nil => exact ⟨[], rfl⟩
  | cons b bs ih =>
      obtain ⟨f, hf⟩ := (h b List.mem_cons_self).exists_sentFrame
      obtain ⟨fs, hfs⟩ := ih fun b hb => h b (List.mem_cons_of_mem _ hb)
      exact ⟨f :: fs, by rw [List.map_cons, List.map_cons, hf, hfs]⟩

/-- **From the queue of a client to the buffers of a server.** Whatever the threads of the client
do, and however the bytes that have been written arrive: the server reads back the frames in the
order in which they were put on the queue, each by a fresh buffer, if and only if every one of
them meets the condition of the reader. A frame with a number of 15 bits is read as it was put on
the queue; behind them a frame arrives with the lower bits, and not as the last one of its
message. -/
theorem client_frames_read (W : WholeWriter σ) (sessionid : ℕ) (s : σ)
    (es : List ClientIoEvent) :
    let t := (ClientIo.start sessionid s).run W.toSslWriter es
    ∃ (done : List Buffer) (fs : List SentFrame), t.sent = done ++ t.unwritten ∧
      fs.map SentFrame.buffer = done.map Buffer.arrived ∧
      (∀ b ∈ done, b.sessionId ≤ maxSessionID → b.arrived = b) ∧
      ∀ (blocks : List Uninit) (segs : List (List UInt8)), blocks.length = fs.length →
        segs.flatten = t.ssl.2 →
          (RoundTrip (blocks.zip fs) segs ↔ FramesReadable segs 0 (blocks.zip fs)) := by
  intro t
  have h := (clientIoInv_start sessionid s).run W es
  obtain ⟨done, hsent, hwire⟩ := h.frames
  have hdone : ∀ b ∈ done, FromClient b := fun b hb =>
    h.sent b (hsent ▸ List.mem_append_left _ hb)
  obtain ⟨fs, hfs⟩ := exists_sentFrames hdone
  refine ⟨done, fs, hsent, hfs, fun b hb hnum => (hdone b hb).arrived_eq hnum,
    fun blocks segs hlen hsegs => ?_⟩
  have hbytes : fs.map SentFrame.wire = done.map Buffer.wire :=
    calc fs.map SentFrame.wire
        = (fs.map SentFrame.buffer).map Buffer.wire := (List.map_map ..).symm
      _ = (done.map Buffer.arrived).map Buffer.wire := by rw [hfs]
      _ = done.map fun b => b.arrived.wire := List.map_map ..
      _ = done.map Buffer.wire := List.map_congr_left fun b hb => (hdone b hb).wire_arrived
  have hzip : (blocks.zip fs).map (fun p => p.2.wire) = fs.map SentFrame.wire := by
    rw [show (fun p : Uninit × SentFrame => p.2.wire) = SentFrame.wire ∘ Prod.snd from rfl,
      ← List.map_map, List.map_snd_zip (Nat.le_of_eq hlen.symm)]
  refine roundTrip_iff (blocks.zip fs) segs ?_
  rw [hsegs, hzip, hbytes, hwire]

/-- A ping with the last number of 15 bits and a message with the number behind it, from the
queue to the wire. -/
theorem client_frames_read_twoFrames :
    let t := (ClientIo.start 32767 []).run alwaysWrites.toSslWriter twoFrames
    t.unwritten = [] ∧ t.sent.map (fun b => (b.sessionId, b.isLastBuffer)) =
        [(32767, true), (32768, true)] ∧
      t.sent.map (fun b => (b.arrived.sessionId, b.arrived.isLastBuffer)) =
        [(32767, true), (0, false)] ∧
      ∃ (done : List Buffer) (fs : List SentFrame), t.sent = done ++ t.unwritten ∧
        fs.map SentFrame.buffer = done.map Buffer.arrived ∧
        (∀ b ∈ done, b.sessionId ≤ maxSessionID → b.arrived = b) ∧
        ∀ (blocks : List Uninit) (segs : List (List UInt8)), blocks.length = fs.length →
          segs.flatten = t.ssl.2 →
            (RoundTrip (blocks.zip fs) segs ↔ FramesReadable segs 0 (blocks.zip fs)) :=
  ⟨by decide, by decide, by decide, client_frames_read alwaysWrites 32767 [] twoFrames⟩

end Yijian
