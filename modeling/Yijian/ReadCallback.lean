import Yijian.Lib.Runs
import Yijian.Transport
import Yijian.Typemap

/-!
# The Read Callback

`connection_read_callback` (`libev_server.cxx`) runs when bytes have arrived on a
connection. It reads into the last buffer of `buffer_sp_v`; a complete frame that is not
the last one of its message gets a new buffer behind it, and the last frame hands the
vector on: to the peer server list, or to a worker together with a session number. The
callback catches what the reader throws: six codes close the connection, every other code
is logged and the buffer stays where it is for the next callback.

## Convention

`ReadIo` is the `Read_IO` of the source with the members that this path reads: the session number,
the mark of a connected client, the ids of user and device, and what a ClientConnect tells of the
versions. The vector of buffers is a list, whose last buffer is the one being read. The counter is
raised in the callback, before any worker has looked at the message: it counts the messages that
should have carried a number, not those that were accepted. The six codes are `closesConnection`
here; every other code, known or not, leaves the connection open, and its watcher active.

## Main results

* `assignSessionid_expected`: the number handed to a worker is the number the connection
  expects, and only numbered messages change the counter.
* `requests_inBlock_iff`: in a run of callbacks on arbitrary input all requests stay
  inside the block exactly when no callback runs on a buffer whose header declares a frame
  that is longer than the block.
-/

namespace Yijian

open Runs

variable {σ : Type}

/-- `struct Read_IO`: the vector of frames being received and the connection info. -/
structure ReadIo where
  bufferSpV : List Buffer
  isConnect : Bool
  sessionid : ℕ
  userid : String
  uuid : String
  appVersion : String
  clientVersion : String

/-- A new `Read_IO`; `sessionid` has no initialiser. -/
def ReadIo.new (sessionid : ℕ) : ReadIo where
  bufferSpV := []
  isConnect := false
  sessionid := sessionid
  userid := ""
  uuid := ""
  appVersion := ""
  clientVersion := ""

/-! ### The session number -/

/-- The session number of a message that was read: numbered messages take the counter,
which is set back to the smallest number when it stands at the largest and moves on
otherwise; other messages get 0. -/
def assignSessionid (sessionid : ℕ) (datatype : UInt8) : ℕ × ℕ :=
  if missingCheck datatype then
    if sessionid = maxSessionID then (minSessionID, minSessionID)
    else (sessionid, (sessionid + 1) % 2 ^ 16)
  else
    (0, sessionid)

/-- The number that the next numbered message will be compared with. -/
def expectedSessionid (sessionid : ℕ) : ℕ :=
  if sessionid = maxSessionID then minSessionID else sessionid

/-- A numbered message is compared with the expected number. -/
theorem assignSessionid_expected {datatype : UInt8} (h : missingCheck datatype = true)
    (sessionid : ℕ) :
    (assignSessionid sessionid datatype).1 = expectedSessionid sessionid := by
  rw [assignSessionid, if_pos h, expectedSessionid]
  split <;> rfl

/-- Other messages do not move the counter. -/
theorem assignSessionid_unchecked {datatype : UInt8} (h : missingCheck datatype = false)
    (sessionid : ℕ) : assignSessionid sessionid datatype = (0, sessionid) := by
  rw [assignSessionid, if_neg (by simp [h])]

/-! ### The callback -/

/-- What a callback does besides updating its connection. -/
inductive ReadOutcome
  | unfinished
  | serverConnect
  | serverDisconnect
  | sentWork (spVec : List Buffer) (sessionid : ℕ)
  | closed (e : SystemError)
  | logged (e : SystemError)

/-- A connection as the read callback sees it; `watching` is whether its read watcher is
active. -/
structure ReadConn (σ : Type) where
  io : ReadIo
  ssl : σ
  requests : List Request
  watching : Bool

/-- The codes on which the callback closes the connection. -/
def closesConnection (e : SystemError) : Bool :=
  [20002, 20003, 20005, 20006, 20007, 20008].contains e.code

/-- The branch of the callback after a frame has been read into the last buffer `back` of
the vector; `u` is what a new buffer finds. -/
def frameRead (u : Uninit) (io : ReadIo) (back : Buffer) : ReadOutcome × ReadIo :=
  if back.isLastBuffer then
    if back.datatype = ChatType.serverconnect.code then
      (.serverConnect, { io with bufferSpV := [] })
    else if back.datatype = ChatType.serverdisconnect.code then
      (.serverDisconnect, { io with bufferSpV := [] })
    else
      let (sessionid, counter) := assignSessionid io.sessionid back.datatype
      (.sentWork io.bufferSpV sessionid, { io with sessionid := counter, bufferSpV := [] })
  else
    (.unfinished, { io with bufferSpV := io.bufferSpV ++ [Buffer.new u] })

/-- The counter after a frame: the last frame of a message may take a number. -/
def counterAfter (sessionid : ℕ) (back : Buffer) : ℕ :=
  if back.isLastBuffer then (assignSessionid sessionid back.datatype).2 else sessionid

/-- What a complete frame does to the connection: it moves the vector and the counter. The
types that the event loop handles itself are not numbered. -/
theorem frameRead_io (u : Uninit) (io : ReadIo) (back : Buffer) :
    ∃ v, (frameRead u io back).2 =
      { io with bufferSpV := v, sessionid := counterAfter io.sessionid back } := by
  rw [frameRead, counterAfter]
  by_cases hlast : back.isLastBuffer = true
  · rw [if_pos hlast, if_pos hlast]
    by_cases hconn : back.datatype = ChatType.serverconnect.code
    · rw [if_pos hconn, hconn, assignSessionid_unchecked missingCheck_server.1]
      exact ⟨[], rfl⟩
    · rw [if_neg hconn]
      by_cases hdis : back.datatype = ChatType.serverdisconnect.code
      · rw [if_pos hdis, hdis, assignSessionid_unchecked missingCheck_server.2]
        exact ⟨[], rfl⟩
      · rw [if_neg hdis]
        exact ⟨[], rfl⟩
  · rw [if_neg hlast, if_neg hlast]
    exact ⟨_, rfl⟩

/-- The last frame of a numbered message hands the vector on with its number. -/
theorem frameRead_checked (u : Uninit) (io : ReadIo) {back : Buffer}
    (hlast : back.isLastBuffer = true) (hcheck : missingCheck back.datatype = true) :
    frameRead u io back =
      (.sentWork io.bufferSpV (expectedSessionid io.sessionid),
        { io with bufferSpV := [], sessionid := counterAfter io.sessionid back }) := by
  have hconn : back.datatype ≠ ChatType.serverconnect.code := by
    intro heq
    rw [heq, missingCheck_server.1] at hcheck
    cases hcheck
  have hdis : back.datatype ≠ ChatType.serverdisconnect.code := by
    intro heq
    rw [heq, missingCheck_server.2] at hcheck
    cases hcheck
  rw [frameRead, if_pos hlast, if_neg hconn, if_neg hdis, counterAfter, if_pos hlast,
    ← assignSessionid_expected hcheck]

/-- `connection_read_callback`. The two `Uninit` are what a buffer constructed before the
read, or after it, finds. -/
def connectionReadCallback (S : SslReader σ) (c : ReadConn σ) (u : Uninit × Uninit) :
    ReadOutcome × ReadConn σ :=
  let back := c.io.bufferSpV.getLastD (Buffer.new u.1)
  let (r, st) := socketRead S ⟨back, c.ssl, c.requests⟩
  let io := { c.io with bufferSpV := c.io.bufferSpV.dropLast ++ [st.buf] }
  match r with
  | .ok true =>
      let (outcome, io) := frameRead u.2 io st.buf
      (outcome, ⟨io, st.ssl, st.requests, c.watching⟩)
  | .ok false => (.unfinished, ⟨io, st.ssl, st.requests, c.watching⟩)
  | .error e =>
      if closesConnection e then (.closed e, ⟨io, st.ssl, st.requests, false⟩)
      else (.logged e, ⟨io, st.ssl, st.requests, c.watching⟩)

/-- One callback; a connection whose watcher has been stopped gets none. -/
def readStep (S : SslReader σ) (c : ReadConn σ) (u : Uninit × Uninit) : ReadConn σ :=
  if c.watching then (connectionReadCallback S c u).2 else c

/-- A connection that nothing has been read from. -/
def ReadConn.new (sessionid : ℕ) (ssl : σ) : ReadConn σ where
  io := ReadIo.new sessionid
  ssl := ssl
  requests := []
  watching := true

/-! ### The memory bound -/

/-- The buffer in use is in one of its phases. -/
def BackPhase (io : ReadIo) : Prop :=
  ∀ b, io.bufferSpV.getLast? = some b → Phase b

/-- The buffer in use has an evaluated header that declares a frame longer than the
block. -/
def BackOverlong (io : ReadIo) : Prop :=
  ∃ b, io.bufferSpV.getLast? = some b ∧ Overlong b

/-- What a new buffer does not meet, the buffer that a callback reads into meets only as the
buffer in use. -/
theorem exists_back_iff {P : Buffer → Prop} {u : Uninit} (hnew : ¬ P (Buffer.new u)) (io : ReadIo) :
    P (io.bufferSpV.getLastD (Buffer.new u)) ↔ ∃ b, io.bufferSpV.getLast? = some b ∧ P b := by
  rw [List.getLastD_eq_getLast?]
  cases hlast : io.bufferSpV.getLast? with
  | none =>
      refine ⟨fun h => absurd h hnew, ?_⟩
      rintro ⟨b, hb, -⟩
      cases hb
  | some b =>
      refine ⟨fun h => ⟨b, rfl, h⟩, ?_⟩
      rintro ⟨b', hb', h⟩
      obtain rfl := Option.some.inj hb'
      exact h

/-- The buffer that a callback reads into is in one of its phases, and overlong only if
the buffer in use before the callback was. -/
theorem phase_back {io : ReadIo} (h : BackPhase io) (u : Uninit) :
    Phase (io.bufferSpV.getLastD (Buffer.new u)) ∧
      (Overlong (io.bufferSpV.getLastD (Buffer.new u)) ↔ BackOverlong io) := by
  have hnew := headerPhase_new u
  refine ⟨?_, exists_back_iff hnew.not_overlong io⟩
  by_contra hnot
  obtain ⟨b, hb, hnot⟩ := (exists_back_iff (P := fun b => ¬ Phase b)
    (fun hnophase => hnophase (.header 0 hnew)) io).mp hnot
  exact hnot (h b hb)

/-- The phase of a connection is that of its last buffer. -/
theorem backPhase_append {io : ReadIo} {v : List Buffer} {b : Buffer} (h : Phase b) :
    BackPhase { io with bufferSpV := v ++ [b] } := by
  intro b' hb'
  rw [List.getLast?_concat] at hb'
  obtain rfl := Option.some.inj hb'
  exact h

/-- A connection without buffers is at the beginning of a frame. -/
theorem backPhase_of_nil {io : ReadIo} (h : io.bufferSpV = []) : BackPhase io := by
  intro b hb
  rw [h] at hb
  cases hb

/-- Handing a frame on leaves an empty vector or a fresh buffer. -/
theorem backPhase_frameRead (u : Uninit) (io : ReadIo) (back : Buffer) :
    BackPhase (frameRead u io back).2 := by
  rw [frameRead]
  split
  · split
    · exact backPhase_of_nil rfl
    · split
      · exact backPhase_of_nil rfl
      · exact backPhase_of_nil rfl
  · exact backPhase_append (.header 0 (headerPhase_new u))

/-- The requests of a callback are those of its one call of `socket_read`. -/
theorem connectionReadCallback_requests (S : SslReader σ) (c : ReadConn σ)
    (u : Uninit × Uninit) :
    (connectionReadCallback S c u).2.requests =
      (socketRead S ⟨c.io.bufferSpV.getLastD (Buffer.new u.1), c.ssl, c.requests⟩).2.requests := by
  rw [connectionReadCallback]
  rcases socketRead S ⟨c.io.bufferSpV.getLastD (Buffer.new u.1), c.ssl, c.requests⟩ with
    ⟨e | finish, st⟩
  · simp only
    split <;> rfl
  · cases finish <;> rfl

/-- **One callback** on a buffer that is not overlong keeps the phases. -/
theorem backPhase_callback {S : SslReader σ} {c : ReadConn σ} (u : Uninit × Uninit)
    (h : BackPhase c.io) (hfit : ¬ BackOverlong c.io) :
    BackPhase (connectionReadCallback S c u).2.io := by
  obtain ⟨hphase, hiff⟩ := phase_back h u.1
  obtain ⟨hphase', -⟩ := socketRead_spec S
    ⟨c.io.bufferSpV.getLastD (Buffer.new u.1), c.ssl, c.requests⟩ hphase
    (fun hover => hfit (hiff.mp hover))
  rw [connectionReadCallback]
  rcases hread : socketRead S ⟨c.io.bufferSpV.getLastD (Buffer.new u.1), c.ssl, c.requests⟩
    with ⟨e | finish, st⟩ <;> rw [hread] at hphase'
  · simp only
    split <;> exact backPhase_append hphase'
  · cases finish with
    | true => exact backPhase_frameRead _ _ _
    | false => exact backPhase_append hphase'

/-- **Memory bound of the reader, exactly.** On any connection, whatever is received in
whatever pieces, all requests of a run of callbacks stay inside the block of their buffer
if and only if no callback runs on a buffer whose evaluated header declares a frame that
is longer than the block. -/
theorem requests_inBlock_iff (S : SslReader σ) (sessionid : ℕ) (ssl : σ)
    (us : List (Uninit × Uninit)) :
    Always (readStep S) (fun c => ∀ r ∈ c.requests, r.InBlock) (ReadConn.new sessionid ssl) us ↔
      StepsMeet (readStep S) (fun c _ => c.watching = true → ¬ BackOverlong c.io)
        (ReadConn.new sessionid ssl) us := by
  refine always_iff_stepsMeet (I := fun c => BackPhase c.io) ?_ ?_
    (backPhase_of_nil rfl) (by simp [ReadConn.new])
  · intro c u hphase _ hfit
    rw [readStep]
    split
    · rename_i hwatch
      exact backPhase_callback u hphase (hfit hwatch)
    · exact hphase
  · intro c u hphase hin
    obtain ⟨hback, hiff⟩ := phase_back hphase u.1
    rw [readStep]
    split
    · rename_i hwatch
      rw [connectionReadCallback_requests]
      constructor
      · intro hall _ hover
        obtain ⟨r, hr, hout⟩ := socketRead_overlong S
          ⟨c.io.bufferSpV.getLastD (Buffer.new u.1), c.ssl, c.requests⟩ hback
          (hiff.mpr hover)
        exact hout (hall r hr)
      · intro hfit
        obtain ⟨-, new, hnew, hinew⟩ := socketRead_spec S
          ⟨c.io.bufferSpV.getLastD (Buffer.new u.1), c.ssl, c.requests⟩ hback
          (fun hover => hfit hwatch (hiff.mp hover))
        rw [hnew]
        intro r hr
        rcases List.mem_append.mp hr with hr | hr
        · exact hin r hr
        · exact hinew r hr
    · rename_i hwatch
      exact ⟨fun _ hwatch' => absurd hwatch' hwatch, fun _ => hin⟩

/-- What a constructor finds in a block of zeros at the address 0. -/
def Uninit.zero : Uninit where
  headerPos := 0
  heap := fun _ => 0
  dataType := 0
  dataEncodeLength := 0
  dataLength := 0
  sessionId := 0
  remainDataLength := 0

/-- A header that declares 16383 bytes is rejected by the first callback; the second one
asks for all of them. -/
theorem requests_not_inBlock :
    ¬ Always (readStep segmentReader) (fun c => ∀ r ∈ c.requests, r.InBlock)
      (ReadConn.new minSessionID [[128, 100, 6, 255, 127]])
      [(Uninit.zero, Uninit.zero), (Uninit.zero, Uninit.zero)] := by
  intro h
  have hout := h.last ⟨0, 5, 16383⟩ (by decide)
  exact absurd hout (by decide)

end Yijian
