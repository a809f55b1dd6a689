import Yijian.Lib.Chunks
import Yijian.RoundTrip

/-!
# Fragmentation and Reassembly

A message that is longer than the data of one frame is sent as several: `yijianBuffer`
cuts the serialized message into frames, the mounting functions number them and mark the
last one, the read callback collects frames in `buffer_sp_v` until the last one has
arrived, and `dispatch` puts the data of the vector together.

## Convention

A message is a type and its serialization; which object it is the serialization of plays no role
here, since `SerializeAsString` and `ParseFromArray` are the library's. `substr` is the one of
`std::string`: it takes at most the length it is given, and throws behind the end, where the loop
never asks. Each frame is numbered and marked before it is put on the wire, and then no more; a
mounting that shares its frames with another one is in `Yijian.FanOut`. The receiving half is given
frame by frame: which segments the bytes arrive in, and what the fresh blocks hold, is a matter of
`Yijian.RoundTrip`, and is assumed to have gone well here.

## Main results

* `yijianBuffer_eq`: the loop of `yijianBuffer`, whose length argument is the whole length
  on the last turn, cuts the message into `Chunks.chunks`.
* `view_deliver`: a buffer that holds the bytes of a frame shows the frame that was sent.
* `reassembly`: whatever messages are sent one behind the other, the same messages are
  dispatched.
-/

namespace Yijian

/-! ### Cutting a message -/

/-- The constant of `yijianBuffer`. -/
def maxlength : ℕ := MessageType.message.size - paddingLength

/-- A frame holds something. -/
theorem maxlength_pos : 0 < maxlength := by decide

@[simp] theorem maxlength_eq : maxlength = 1019 := rfl

/-- `std::string::substr`, for a position inside the string. -/
def substr (s : List UInt8) (pos length : ℕ) : List UInt8 := (s.drop pos).take length

/-- The loop of `yijianBuffer`; `u i` is what the constructor of the buffer of the turn `i`
finds. Every turn but the last one takes a byte, so `fuel` bounds the turns. -/
def yijianBufferLoop (u : ℕ → Uninit) (type : UInt8) (dataString : List UInt8) :
    (fuel i pos : ℕ) → Except SystemError (List Buffer)
  | 0, _, _ => .ok []
  | fuel + 1, i, pos =>
      let length :=
        if maxlength * (i + 1) > dataString.length then dataString.length else maxlength
      match Buffer.buffer (u i) type (substr dataString pos length) with
      | (.error e, _) => .error e
      | (.ok (), b) =>
          if pos + length < dataString.length then
            (yijianBufferLoop u type dataString fuel (i + 1) (pos + length)).map (b :: ·)
          else
            .ok [b]

/-- `yijianBuffer`, on the type and the serialized content of a message. -/
def yijianBuffer (u : ℕ → Uninit) (type : UInt8) (dataString : List UInt8) :
    Except SystemError (List Buffer) :=
  yijianBufferLoop u type dataString (dataString.length + 1) 0 0

/-- Buffers holding the pieces of a message, from the turn `i` on. -/
def encodeAll (u : ℕ → Uninit) (type : UInt8) : ℕ → List (List UInt8) → List Buffer
  | _, [] => []
  | i, c :: cs => (Buffer.buffer (u i) type c).2 :: encodeAll u type (i + 1) cs

/-- The loop encodes the chunks that are left. -/
theorem yijianBufferLoop_eq (u : ℕ → Uninit) (type : UInt8) (dataString : List UInt8)
    {fuel i pos : ℕ} (hpos : pos = maxlength * i) (hle : pos ≤ dataString.length)
    (hfuel : dataString.length - pos < fuel) :
    yijianBufferLoop u type dataString fuel i pos =
      .ok (encodeAll u type i (Chunks.chunks maxlength (dataString.drop pos))) := by
  have hmax : maxlength = 1019 := rfl
  induction fuel generalizing i pos with
  | zero => omega
  | succ fuel ih =>
      have hmul : maxlength * (i + 1) = pos + 1019 := by
        rw [hpos, hmax, Nat.mul_succ]
      have hcut := Chunks.chunks_eq maxlength_pos (dataString.drop pos)
      rw [List.length_drop, hmax] at hcut
      rw [yijianBufferLoop, hmul]
      by_cases hlast : pos + 1019 > dataString.length
      · -- the length argument is too large, `substr` stops at the end
        have hsub : substr dataString pos dataString.length = dataString.drop pos := by
          rw [substr, List.take_of_length_le (by rw [List.length_drop]; omega)]
        rw [if_pos hlast, hsub, Buffer.buffer_ok _ _ (by rw [List.length_drop]; omega)]
        simp only
        rw [if_neg (by omega), hmax, hcut, if_pos (by omega), encodeAll, encodeAll]
      · have hsub : (substr dataString pos maxlength).length ≤ 1019 := List.length_take_le _ _
        rw [if_neg hlast, Buffer.buffer_ok _ _ hsub]
        simp only
        by_cases hmore : pos + maxlength < dataString.length
        · rw [if_pos hmore, ih (by rw [hpos, Nat.mul_succ]) (by omega) (by omega)]
          rw [hmax] at hmore ⊢
          rw [hcut, if_neg (by omega), encodeAll, List.drop_drop]
          rfl
        · have hall : substr dataString pos maxlength = dataString.drop pos := by
            rw [substr, List.take_of_length_le (by rw [List.length_drop]; omega)]
          rw [if_neg hmore]
          rw [hmax] at hmore hall ⊢
          rw [hcut, if_pos (by omega), encodeAll, encodeAll, hall]

/-- **The frames of a message** hold the pieces of 1019 bytes. -/
theorem yijianBuffer_eq (u : ℕ → Uninit) (type : UInt8) (dataString : List UInt8) :
    yijianBuffer u type dataString =
      .ok (encodeAll u type 0 (Chunks.chunks maxlength dataString)) :=
  yijianBufferLoop_eq u type dataString rfl (Nat.zero_le _) (Nat.lt_succ_self _)

/-! ### Numbering the frames -/

/-- The requester branch of `mountBuffer2Node`: every frame is numbered and marked as not
the last one, then the last one is marked. -/
def markFrames (sessionid : ℕ) (bufSpV : List Buffer) : List Buffer :=
  let bufSpV := bufSpV.map (·.setSessionid sessionid false)
  bufSpV.dropLast ++ (bufSpV.getLast?.map (·.setSessionid sessionid true)).toList

/-- A single frame is the last one. -/
theorem markFrames_singleton (sessionid : ℕ) (b : Buffer) :
    markFrames sessionid [b] = [b.setSessionid sessionid true] := by
  simp [markFrames, Buffer.setSessionid_setSessionid]

/-- Any other frame is not. -/
theorem markFrames_cons_cons (sessionid : ℕ) (b b' : Buffer) (bs : List Buffer) :
    markFrames sessionid (b :: b' :: bs) =
      b.setSessionid sessionid false :: markFrames sessionid (b' :: bs) := by
  simp [markFrames]

/-! ### Receiving the frames -/

/-- The buffer `b` once all bytes of a frame are in its block and its header has been
evaluated. -/
def deliver (b : Buffer) (bytes : List UInt8) : Buffer :=
  (parseHeader
    { b with
      heap := b.heap.store b.headerPos bytes
      currentPos := b.headerPos + bytes.length
      parseLength := 5 - bytes.length
      isParseMsgReaded := true }).2

/-- **A delivered frame** shows what was sent, whatever the block of the buffer holds. -/
theorem view_deliver (u : Uninit) (f : SentFrame) :
    (deliver (Buffer.new u) f.wire).view = f.view := by
  have hdeliver : deliver (Buffer.new u) f.wire =
      (parseHeader (headerReadBuf u (f.wire.take f.wire.length))).2 := by
    rw [List.take_length]
    rfl
  have hlen := f.length_wire
  have hpos := Leb128.length_encode_pos f.data.length
  have hbody := bodyAt_parseLengthField u f (k := f.wire.length) (by omega) (Nat.le_refl _)
  have hdec := decodingVarLength_take u f (k := f.wire.length) (by omega) (fun _ => by omega)
  rw [hdeliver, parseHeader_of_decode hdec]
  exact view_of_bodyAt hbody

/-- The branch of the read callback in which a frame is complete: the vector that has been
accumulated if the frame is the last one, and the connection afterwards. -/
def receiveFrame (u : Uninit × Uninit) (io : ReadIo) (bytes : List UInt8) :
    Option (List Buffer) × ReadIo :=
  let back := deliver (io.bufferSpV.getLastD (Buffer.new u.1)) bytes
  let io := { io with bufferSpV := io.bufferSpV.dropLast ++ [back] }
  (if back.isLastBuffer then some io.bufferSpV else none, (frameRead u.2 io back).2)

/-- The vectors that are accumulated from the frames; `us i` is what the buffers
constructed for the frame `i` find. -/
def receiveAll (us : ℕ → Uninit × Uninit) : ℕ → ReadIo → List (List UInt8) → List (List Buffer)
  | _, _, [] => []
  | i, io, bytes :: rest =>
      let (spVec, io) := receiveFrame (us i) io bytes
      spVec.toList ++ receiveAll us (i + 1) io rest

/-- What `dispatch` takes from the vector: the type and the session id of the last frame,
and the data of all frames together. -/
def dispatchInput (spvec : List Buffer) : Option (UInt8 × ℕ × List UInt8) :=
  spvec.getLast?.map fun back =>
    (back.datatype, back.sessionId, (spvec.map Buffer.data).flatten)

/-- The callback has accumulated the frames `acc`; a buffer behind them is fresh. -/
def Collecting (io : ReadIo) (acc : List Buffer) : Prop :=
  acc = [] ∧ io.bufferSpV = [] ∨ ∃ u, io.bufferSpV = acc ++ [Buffer.new u]

/-- **One frame** is put behind the accumulated ones. -/
theorem receiveFrame_spec {io : ReadIo} {acc : List Buffer} (h : Collecting io acc)
    (u : Uninit × Uninit) (bytes : List UInt8) :
    ∃ v io', Collecting io' (if (deliver (Buffer.new v) bytes).isLastBuffer then []
        else acc ++ [deliver (Buffer.new v) bytes]) ∧
      receiveFrame u io bytes =
        (if (deliver (Buffer.new v) bytes).isLastBuffer then
            some (acc ++ [deliver (Buffer.new v) bytes])
          else none, io') := by
  have hvec : ∃ v, io.bufferSpV.getLastD (Buffer.new u.1) = Buffer.new v ∧
      io.bufferSpV.dropLast = acc := by
    rcases h with ⟨rfl, hnil⟩ | ⟨v, hvec⟩
    · exact ⟨u.1, by rw [hnil]; rfl, by rw [hnil]; rfl⟩
    · exact ⟨v, by rw [hvec, List.getLastD_concat], by rw [hvec, List.dropLast_concat]⟩
  obtain ⟨v, hback, hacc⟩ := hvec
  refine ⟨v, (receiveFrame u io bytes).2, ?_, ?_⟩
  · rw [receiveFrame, hback, hacc]
    simp only [frameRead]
    cases hlast : (deliver (Buffer.new v) bytes).isLastBuffer with
    | true =>
        refine Or.inl ⟨rfl, ?_⟩
        simp only [if_true]
        split
        · rfl
        · split <;> rfl
    | false => exact Or.inr ⟨u.2, rfl⟩
  · rw [receiveFrame, hback, hacc]

/-! ### Messages -/

/-- A message to be sent. -/
structure Message where
  type : UInt8
  sessionid : ℕ
  payload : List UInt8
  sessionid_le : sessionid ≤ maxSessionID

/-- What is to be dispatched for a message. -/
def Message.content (m : Message) : UInt8 × ℕ × List UInt8 := (m.type, m.sessionid, m.payload)

/-- The frames of a message as they are put on a write queue. -/
def sendMessage (u : ℕ → Uninit) (m : Message) : Except SystemError (List Buffer) :=
  (yijianBuffer u m.type m.payload).map (markFrames m.sessionid)

/-- The frames of several messages, one behind the other. -/
def sendAll : List ((ℕ → Uninit) × Message) → Except SystemError (List Buffer)
  | [] => .ok []
  | (u, m) :: ms => do
      let bufs ← sendMessage u m
      let rest ← sendAll ms
      return bufs ++ rest

/-- A message becomes the marked frames of its chunks. -/
theorem sendMessage_eq (u : ℕ → Uninit) (m : Message) :
    sendMessage u m =
      .ok (markFrames m.sessionid
        (encodeAll u m.type 0 (Chunks.chunks maxlength m.payload))) := by
  rw [sendMessage, yijianBuffer_eq]
  rfl

/-- What is sent for several messages. -/
def frameList : List ((ℕ → Uninit) × Message) → List Buffer
  | [] => []
  | (u, m) :: ms =>
      markFrames m.sessionid (encodeAll u m.type 0 (Chunks.chunks maxlength m.payload)) ++
        frameList ms

/-- No message is refused. -/
theorem sendAll_eq (ms : List ((ℕ → Uninit) × Message)) : sendAll ms = .ok (frameList ms) := by
  induction ms with
  | nil => rfl
  | cons p ms ih =>
      rw [sendAll, sendMessage_eq, ih]
      rfl

/-- What is delivered of one piece of a message. -/
theorem deliver_piece (u v : Uninit) (type : UInt8) {sessionid : ℕ}
    (hid : sessionid ≤ maxSessionID) {c : List UInt8} (hc : c.length ≤ 1019) (isLast : Bool) :
    (deliver (Buffer.new v)
        ((Buffer.buffer u type c).2.setSessionid sessionid isLast).wire).view =
      ⟨sessionid, isLast, type, c.length, c⟩ :=
  view_deliver v ⟨u, sessionid, isLast, type, c, hid, hc⟩

/-- **One message**: its frames are put behind the frames that are already accumulated, and
the vector is handed on with the last of them. -/
theorem receiveAll_pieces (us : ℕ → Uninit × Uninit) (u : ℕ → Uninit) (type : UInt8)
    {sessionid : ℕ} (hid : sessionid ≤ maxSessionID) {cs : List (List UInt8)} (hne : cs ≠ [])
    (hcs : ∀ c ∈ cs, c.length ≤ 1019) (i j : ℕ) {io : ReadIo} {acc : List Buffer}
    (hio : Collecting io acc) (rest : List (List UInt8)) :
    ∃ i' io' spVec, Collecting io' [] ∧
      receiveAll us i io
          ((markFrames sessionid (encodeAll u type j cs)).map Buffer.wire ++ rest) =
        spVec :: receiveAll us i' io' rest ∧
      dispatchInput spVec =
        some (type, sessionid, (acc.map Buffer.data).flatten ++ cs.flatten) := by
  induction cs generalizing i j io acc with
  | nil => exact absurd rfl hne
  | cons c cs ih =>
      have hc := hcs c List.mem_cons_self
      cases cs with
      | nil =>
          obtain ⟨v, io', hio', hstep⟩ := receiveFrame_spec hio (us i)
            ((Buffer.buffer (u j) type c).2.setSessionid sessionid true).wire
          have hview := deliver_piece (u j) v type hid hc true
          generalize deliver (Buffer.new v) _ = back at hio' hstep hview
          simp only [Buffer.view, FrameView.mk.injEq] at hview
          obtain ⟨hsession, hlast, htype, -, hdata⟩ := hview
          simp only [hlast, if_true] at hio' hstep
          refine ⟨i + 1, io', acc ++ [back], hio', ?_, ?_⟩
          · rw [encodeAll, encodeAll, markFrames_singleton, List.map_singleton,
              List.singleton_append, receiveAll, hstep]
            rfl
          · rw [dispatchInput, List.getLast?_concat, Option.map_some, htype, hsession]
            simp [hdata]
      | cons c' cs =>
          obtain ⟨v, io', hio', hstep⟩ := receiveFrame_spec hio (us i)
            ((Buffer.buffer (u j) type c).2.setSessionid sessionid false).wire
          have hview := deliver_piece (u j) v type hid hc false
          generalize deliver (Buffer.new v) _ = back at hio' hstep hview
          simp only [Buffer.view, FrameView.mk.injEq] at hview
          obtain ⟨-, hlast, -, -, hdata⟩ := hview
          simp only [hlast, Bool.false_eq_true, if_false] at hio' hstep
          obtain ⟨i', io'', spVec, hio'', hrun, hinput⟩ := ih (by simp)
            (fun c hmem => hcs c (List.mem_cons_of_mem _ hmem)) (i + 1) (j + 1) hio'
          refine ⟨i', io'', spVec, hio'', ?_, ?_⟩
          · rw [encodeAll, encodeAll, markFrames_cons_cons, List.map_cons, List.cons_append,
              receiveAll, hstep]
            exact hrun
          · rw [hinput]
            simp [hdata]

/-- Several messages. -/
theorem receiveAll_frameList (us : ℕ → Uninit × Uninit) (ms : List ((ℕ → Uninit) × Message))
    (i : ℕ) {io : ReadIo} (hio : Collecting io []) :
    (receiveAll us i io ((frameList ms).map Buffer.wire)).map dispatchInput =
      ms.map fun p => some p.2.content := by
  induction ms generalizing i io with
  | nil => rfl
  | cons p ms ih =>
      obtain ⟨u, m⟩ := p
      obtain ⟨i', io', spVec, hio', hrun, hinput⟩ := receiveAll_pieces us u m.type
        m.sessionid_le (Chunks.chunks_ne_nil maxlength_pos m.payload)
        (fun c hc => Chunks.length_le_of_mem_chunks maxlength_pos hc) i 0 hio
        ((frameList ms).map Buffer.wire)
      rw [frameList, List.map_append, hrun, List.map_cons, hinput, ih i' hio',
        Chunks.flatten_chunks maxlength_pos]
      rfl

/-- Every chunk becomes a frame. -/
theorem length_encodeAll (u : ℕ → Uninit) (type : UInt8) (i : ℕ) (cs : List (List UInt8)) :
    (encodeAll u type i cs).length = cs.length := by
  induction cs generalizing i with
  | nil => rfl
  | cons c cs ih => rw [encodeAll, List.length_cons, ih, List.length_cons]

/-- Every frame of a message holds 1019 bytes at most. -/
theorem dataSize_of_mem_encodeAll (u : ℕ → Uninit) (type : UInt8) {i : ℕ}
    {cs : List (List UInt8)} (hcs : ∀ c ∈ cs, c.length ≤ 1019) {b : Buffer}
    (hb : b ∈ encodeAll u type i cs) : b.dataSize ≤ 1019 := by
  induction cs generalizing i with
  | nil => cases hb
  | cons c cs ih =>
      have hc := hcs c List.mem_cons_self
      rw [encodeAll] at hb
      rcases List.mem_cons.mp hb with rfl | hb
      · rw [Buffer.buffer_eq _ _ hc]
        exact hc
      · exact ih (fun c hmem => hcs c (List.mem_cons_of_mem _ hmem)) hb

/-- **Fragmentation and reassembly.** Whatever messages are sent one behind the other, and
whatever the blocks of the buffers on both sides hold: the frames that are accumulated up
to the last one of each message are dispatched as the same messages, and a message of `n`
bytes takes `n / 1019` frames, rounded up but at least one, of 1019 bytes at most. -/
theorem reassembly (ms : List ((ℕ → Uninit) × Message)) (us : ℕ → Uninit × Uninit)
    (sessionid : ℕ) :
    (∃ frames, sendAll ms = .ok frames ∧
        (receiveAll us 0 (ReadIo.new sessionid) (frames.map Buffer.wire)).map dispatchInput =
          ms.map fun p => some p.2.content) ∧
      ∀ u : ℕ → Uninit, ∀ m : Message, ∃ bufs, yijianBuffer u m.type m.payload = .ok bufs ∧
        (∀ b ∈ bufs, b.dataSize ≤ 1019) ∧
        bufs.length = max 1 ((m.payload.length + 1018) / 1019) := by
  refine ⟨⟨frameList ms, sendAll_eq ms, receiveAll_frameList us ms 0 (Or.inl ⟨rfl, rfl⟩)⟩, ?_⟩
  intro u m
  refine ⟨_, yijianBuffer_eq u m.type m.payload, fun b hb => ?_, ?_⟩
  · exact dataSize_of_mem_encodeAll u m.type
      (fun c hc => Chunks.length_le_of_mem_chunks maxlength_pos hc) hb
  · rw [length_encodeAll, Chunks.length_chunks maxlength_pos]
    rfl

end Yijian
