import Yijian.ReadCallback

/-!
# The Framing Round Trip

Frames that were built by `buffer::encoding` and `buffer::set_sessionid` are sent one
behind the other and arrive in segments; a fresh buffer is driven for each of them by
calling `socket_read` until it returns true (`Drives`), and again after every error on
which the callback keeps the buffer.

The header has four bytes, or five when the data are longer than 127 bytes. The scan for
its end starts one byte behind the first length byte, so it looks at a byte of the data or
at a byte that has not been received.

## Convention

The reader is driven as the callbacks drive it: a call that returns false, or throws one of the
errors on which the callback keeps the buffer, is followed by another call on the same buffer, and
a call that throws anything else ends the matter. `ReadsBack` asks for both that the frame is shown
and that the bytes behind it are all left for the next buffer. What the fresh blocks hold is part
of the statement: `malloc` may give a block in which an earlier frame is still to be seen.

## Where the condition comes from

The scan looks for a byte below 128 among those at the place of the length field and one beyond,
from the second byte of the field on. A length below 128 has one byte, and so it is the first byte
of the data, or the content of the block, that ends the header. Whether it has arrived depends on
where a segment ends. The condition on the segments speaks of nothing else.

## Main results

* `drives_body`: once the header is evaluated with the declared length, the frame is read
  to its end and nothing behind it.
* `frame_readable_iff`: the segments and block contents from which a frame is read back.
* `roundTrip_iff`: a list of frames is read back exactly when each of its frames can be.
-/

namespace Yijian

open Segments

/-! ### Frames -/

/-- A frame that is sent: what `encoding` and `set_sessionid` are called with, and what
the constructor found. -/
structure SentFrame where
  sender : Uninit
  sessionid : ℕ
  isLast : Bool
  type : UInt8
  data : List UInt8
  sessionid_le : sessionid ≤ maxSessionID
  length_le : data.length ≤ 1019

/-- What a handler can see of a frame. -/
structure FrameView where
  sessionid : ℕ
  isLast : Bool
  type : UInt8
  dataSize : ℕ
  data : List UInt8
deriving DecidableEq, Repr

/-- What a handler sees of a buffer. -/
def Buffer.view (b : Buffer) : FrameView where
  sessionid := b.sessionId
  isLast := b.isLastBuffer
  type := b.datatype
  dataSize := b.dataSize
  data := b.data

namespace SentFrame

/-- The buffer that is written to the socket. -/
def buffer (f : SentFrame) : Buffer :=
  (Buffer.buffer f.sender f.type f.data).2.setSessionid f.sessionid f.isLast

/-- The bytes that are written to the socket. -/
def wire (f : SentFrame) : List UInt8 := f.buffer.wire

/-- What a handler is meant to see. -/
def view (f : SentFrame) : FrameView where
  sessionid := f.sessionid
  isLast := f.isLast
  type := f.type
  dataSize := f.data.length
  data := f.data

/-- What a frame is on the wire. -/
theorem wire_eq (f : SentFrame) :
    f.wire = Buffer.frameBytes f.sessionid f.isLast f.type f.data :=
  Buffer.wire_setSessionid f.sender f.type f.length_le f.sessionid_le f.isLast

end SentFrame

/-! ### Driving a buffer -/

variable {σ : Type}

/-- The buffer is kept for another call. -/
def keepsBuffer : Except SystemError Bool → Bool
  | .ok finish => !finish
  | .error e => !closesConnection e

/-- `socket_read` is called again and again until it returns true. -/
inductive Drives (S : SslReader σ) : ReadState σ → ReadState σ → Prop
  | finish {st st' : ReadState σ} (h : socketRead S st = (.ok true, st')) : Drives S st st'
  | again {st st₁ st' : ReadState σ} {r : Except SystemError Bool}
      (h : socketRead S st = (r, st₁)) (hr : keepsBuffer r = true)
      (hrest : Drives S st₁ st') : Drives S st st'

/-- The frames are read back one after the other, each by a fresh buffer, and each buffer
leaves exactly the bytes of the later frames. -/
def RoundTrip : List (Uninit × SentFrame) → List (List UInt8) → Prop
  | [], segs => segs.flatten = []
  | (u, f) :: fs, segs =>
      ∃ st', Drives segmentReader ⟨Buffer.new u, segs, []⟩ st' ∧ st'.buf.view = f.view ∧
        st'.ssl.flatten = (fs.map fun p => p.2.wire).flatten ∧ RoundTrip fs st'.ssl

/-- What the reader needs to read a frame back: `stop` is whether a segment ends behind
the fourth byte of the frame. The block of the receiving buffer is looked at behind the
bytes that were received. -/
def FrameReadable (u : Uninit) (f : SentFrame) (stop : Prop) : Prop :=
  match f.data with
  | [] => stop ∧ (u.heap (u.headerPos + 4)).toNat < 128
  | byte :: bytes =>
      if bytes.length + 1 < 128 then
        stop ∧ (u.heap (u.headerPos + 4)).toNat < 128 ∨ byte.toNat < 128 ∨
          (u.heap (u.headerPos + 5)).toNat < 128
      else
        stop → 128 ≤ (u.heap (u.headerPos + 4)).toNat ∨
          (u.heap (u.headerPos + 4)).toNat = (bytes.length + 1) / 128

/-- Every frame of the list, the first of which starts at `offset`, can be read back. -/
def FramesReadable (segs : List (List UInt8)) : ℕ → List (Uninit × SentFrame) → Prop
  | _, [] => True
  | offset, (u, f) :: fs =>
      FrameReadable u f (EndsAt segs (offset + 4)) ∧
        FramesReadable segs (offset + f.wire.length) fs

/-! ### Rules for driving -/

/-- A run depends on its first call only. -/
theorem drives_of_socketRead_eq {S : SslReader σ} {st st₁ st' : ReadState σ}
    (h : socketRead S st = socketRead S st₁) : Drives S st st' ↔ Drives S st₁ st' := by
  constructor <;> rintro (hfin | ⟨hagain, hr, hrest⟩)
  · exact .finish (h ▸ hfin)
  · exact .again (h ▸ hagain) hr hrest
  · exact .finish (h.symm ▸ hfin)
  · exact .again (h.symm ▸ hagain) hr hrest

/-- A call that does not return true is followed by another. -/
theorem drives_iff_of_keepsBuffer {S : SslReader σ} {st st₁ st' : ReadState σ}
    {r : Except SystemError Bool} (h : socketRead S st = (r, st₁))
    (hr : keepsBuffer r = true) : Drives S st st' ↔ Drives S st₁ st' := by
  constructor
  · rintro (hfin | ⟨hagain, -, hrest⟩)
    · rw [h, Prod.mk.injEq] at hfin
      rw [hfin.1] at hr
      cases hr
    · rw [h, Prod.mk.injEq] at hagain
      obtain ⟨-, rfl⟩ := hagain
      exact hrest
  · exact .again h hr

/-- A set of states that calls do not leave and in which no call returns true is not
driven to an end. -/
theorem not_drives {S : SslReader σ} {P : ReadState σ → Prop}
    (hP : ∀ st, P st → (socketRead S st).1 ≠ .ok true ∧ P (socketRead S st).2)
    {st st' : ReadState σ} (h : P st) : ¬ Drives S st st' := by
  intro hdrives
  induction hdrives with
  | finish hfin =>
      have hne := (hP _ h).1
      rw [hfin] at hne
      exact hne rfl
  | again hagain _ _ ih =>
      refine ih ?_
      have hnext := (hP _ h).2
      rwa [hagain] at hnext

/-- What every call keeps holds at the end. -/
theorem inv_drives {S : SslReader σ} {P : ReadState σ → Prop}
    (hP : ∀ st, P st → P (socketRead S st).2) {st st' : ReadState σ} (h : P st)
    (hdrives : Drives S st st') : P st' := by
  induction hdrives with
  | finish hfin =>
      have hnext := hP _ h
      rwa [hfin] at hnext
  | again hagain _ _ ih =>
      refine ih ?_
      have hnext := hP _ h
      rwa [hagain] at hnext

/-- The turn that evaluates the header goes on with the data as another call would. -/
theorem socketRead_eq_of_turn {S : SslReader σ} {st st₁ : ReadState σ}
    (h : socketReadTurn S st = (.ok true, st₁)) (hfin : st₁.buf.isFinish = false) :
    socketRead S st = socketRead S st₁ := by
  rw [← socketReadLoop_eq S 1 st, socketReadLoop, h]
  simp only [hfin, Bool.not_false, Bool.and_self, if_true]
  rfl

/-! ### The data -/

/-- The header of `f` is evaluated and `k` bytes of the frame have been stored. -/
structure BodyAt (u : Uninit) (f : SentFrame) (k : ℕ) (b : Buffer) : Prop where
  headerPos : b.headerPos = u.headerPos
  isParseFinish : b.isParseFinish = true
  sessionId : b.sessionId = f.sessionid
  isLastBuf : b.isLastBuf = f.isLast
  dataType : b.dataType = f.type
  dataLength : b.dataLength = f.data.length
  dataPos : b.dataPos + f.data.length = u.headerPos + f.wire.length
  currentPos : b.currentPos = u.headerPos + k
  remainDataLength : b.remainDataLength + k = f.wire.length
  heap : b.heap = u.heap.store u.headerPos (f.wire.take k)

/-- The bytes of a frame. -/
theorem SentFrame.length_wire (f : SentFrame) :
    f.wire.length = 3 + (Leb128.encode f.data.length).length + f.data.length := by
  rw [f.wire_eq, Buffer.length_frameBytes]

/-- A frame fits into a block. -/
theorem SentFrame.length_wire_le (f : SentFrame) : f.wire.length ≤ 1024 := by
  have henc := Buffer.length_encode_le f.length_le
  have hlen := f.length_le
  rw [f.length_wire]
  omega

/-- The data are the end of the frame. -/
theorem SentFrame.wire_eq_append (f : SentFrame) : ∃ header, f.wire = header ++ f.data := by
  refine ⟨Buffer.htons (if f.isLast then f.sessionid + bufferLastFlag else f.sessionid) ++
    f.type :: Leb128.encode f.data.length, ?_⟩
  rw [f.wire_eq, Buffer.frameBytes, Buffer.body, List.append_assoc, List.cons_append]

/-- What a handler sees once the whole frame is stored. -/
theorem view_of_bodyAt {u : Uninit} {f : SentFrame} {b : Buffer}
    (h : BodyAt u f f.wire.length b) : b.view = f.view := by
  have hdata : b.data = f.data := by
    obtain ⟨header, hwire⟩ := f.wire_eq_append
    have hpos : b.dataPos = u.headerPos + header.length := by
      have hpos := h.dataPos
      rw [hwire, List.length_append] at hpos
      omega
    rw [Buffer.data, Buffer.dataSize, h.dataLength, h.heap, hpos, List.take_length, hwire,
      Memory.load_store_append]
  simp only [Buffer.view, SentFrame.view, Buffer.isLastBuffer, Buffer.datatype,
    Buffer.dataSize, h.sessionId, h.isLastBuf, h.dataType, h.dataLength, hdata]

/-- The buffer after a data request that stored `bytes`. -/
def afterRemain (b : Buffer) (bytes : List UInt8) : Buffer :=
  { b with
    heap := b.heap.store b.currentPos bytes
    currentPos := b.currentPos + bytes.length
    endPos := b.currentPos + bytes.length
    remainDataLength := b.remainDataLength - bytes.length
    isFinish := b.remainDataLength - bytes.length == 0 }

/-- Storing the next bytes of the frame. -/
theorem BodyAt.afterRemain {u : Uninit} {f : SentFrame} {k : ℕ} {b : Buffer}
    (h : BodyAt u f k b) {bytes more : List UInt8} (hdrop : f.wire.drop k = bytes ++ more) :
    BodyAt u f (k + bytes.length) (afterRemain b bytes) where
  headerPos := h.headerPos
  isParseFinish := h.isParseFinish
  sessionId := h.sessionId
  isLastBuf := h.isLastBuf
  dataType := h.dataType
  dataLength := h.dataLength
  dataPos := h.dataPos
  currentPos := by rw [← Nat.add_assoc, ← h.currentPos, Yijian.afterRemain]
  remainDataLength := by
    have hremain := h.remainDataLength
    have hlen : bytes.length + more.length = f.wire.length - k := by
      rw [← List.length_append, ← hdrop, List.length_drop]
    simp only [Yijian.afterRemain]
    omega
  heap := by
    have hremain := h.remainDataLength
    have htake := take_append_of_drop_eq hdrop
    have hk : (f.wire.take k).length = k := List.length_take_of_le (by omega)
    rw [← htake, Memory.store_append, hk, ← h.heap, ← h.currentPos, Yijian.afterRemain]

/-- A call on an evaluated header is one request for data. -/
theorem socketRead_of_isParseFinish {S : SslReader σ} {st : ReadState σ}
    (hparse : st.buf.isParseFinish = true) (hfin : st.buf.isFinish = false) :
    socketRead S st =
      match readRemain S st with
      | (.error e, st') => (.error e, st')
      | (.ok (), st') => (.ok st'.buf.isFinish, st') := by
  rw [socketRead, socketReadLoop, socketReadTurn, if_neg (by simp [hparse]), if_pos hfin]
  rcases readRemain S st with ⟨e | _, st'⟩ <;> simp

/-- Nothing is missing: the call returns true. -/
theorem socketRead_segment_zero {b : Buffer} (hparse : b.isParseFinish = true)
    (hfin : b.isFinish = false) (hzero : b.remainDataLength = 0) (segs : List (List UInt8))
    (reqs : List Request) :
    ∃ reqs', socketRead segmentReader ⟨b, segs, reqs⟩ =
      (.ok true, ⟨afterRemain b [], segs, reqs'⟩) := by
  refine ⟨reqs ++ [⟨b.headerPos, b.currentPos, 0⟩], ?_⟩
  have hsub : subWrap 64 (b.remainDataLength : ℤ) ((0 : ℕ) : ℤ) = b.remainDataLength := by
    have hsub := subWrap_of_le (w := 64) (a := b.remainDataLength) (b := (0 : ℕ))
      (by omega) (by omega)
    omega
  have hread : socketReadAt segmentReader ⟨b, segs, reqs⟩ b.currentPos b.remainDataLength =
      (.ok 0, ⟨b, segs, reqs ++ [⟨b.headerPos, b.currentPos, 0⟩]⟩) := by
    rw [hzero, socketReadAt_segment_zero]
  rw [socketRead_of_isParseFinish hparse hfin, readRemain, hread]
  simp only [hsub]
  simp only [afterRemain, Memory.store_nil, hzero, List.length_nil, Nat.add_zero,
    Nat.sub_zero, beq_self_eq_true]

/-- Some bytes are missing: the call takes one read of the stream. -/
theorem socketRead_segment {b : Buffer} (hparse : b.isParseFinish = true)
    (hfin : b.isFinish = false) (hpos : 0 < b.remainDataLength)
    (hlt : b.remainDataLength < 2 ^ 31) (segs : List (List UInt8)) (reqs : List Request) :
    ∃ reqs', socketRead segmentReader ⟨b, segs, reqs⟩ =
      if (Segments.read b.remainDataLength segs).1 = [] then
        (.error ⟨20012, "read later"⟩,
          ⟨b, (Segments.read b.remainDataLength segs).2, reqs'⟩)
      else
        (.ok (afterRemain b (Segments.read b.remainDataLength segs).1).isFinish,
          ⟨afterRemain b (Segments.read b.remainDataLength segs).1,
            (Segments.read b.remainDataLength segs).2, reqs'⟩) := by
  refine ⟨reqs ++ [⟨b.headerPos, b.currentPos, b.remainDataLength⟩], ?_⟩
  have hle := length_read_le b.remainDataLength segs
  have hsub : subWrap 64 (b.remainDataLength : ℤ)
      ((Segments.read b.remainDataLength segs).1.length : ℕ) =
        b.remainDataLength - (Segments.read b.remainDataLength segs).1.length := by
    have hsub := subWrap_of_le (w := 64) (a := b.remainDataLength)
      (b := (Segments.read b.remainDataLength segs).1.length) (by omega) (by omega)
    omega
  rw [socketRead_of_isParseFinish hparse hfin, readRemain]
  simp only [socketReadAt_segment hpos hlt]
  by_cases hnil : (Segments.read b.remainDataLength segs).1 = []
  · simp only [hnil, if_true, Memory.store_nil]
  · simp only [if_neg hnil, hsub, afterRemain]

/-- **Reading the data.** Once the header is evaluated with the length that was sent, the
frame is read to its end and nothing behind it, however it arrives. -/
theorem drives_body {u : Uninit} {f : SentFrame} {rest : List UInt8} {k : ℕ} {b : Buffer}
    {segs : List (List UInt8)} (h : BodyAt u f k b) (hfin : b.isFinish = false)
    (hsegs : segs.flatten = f.wire.drop k ++ rest) (reqs : List Request) :
    ∃ st', Drives segmentReader ⟨b, segs, reqs⟩ st' ∧ st'.buf.view = f.view ∧
      st'.ssl.flatten = rest := by
  induction hw : weight segs using Nat.strong_induction_on generalizing k b segs reqs with
  | _ w ih =>
      have hremain := h.remainDataLength
      have hle := f.length_wire_le
      rcases Nat.eq_zero_or_pos b.remainDataLength with hzero | hpos
      · obtain ⟨reqs', hcall⟩ := socketRead_segment_zero h.isParseFinish hfin hzero segs reqs
        have hk : k = f.wire.length := by omega
        have hnil : f.wire.drop k = [] ++ f.wire.drop k := rfl
        have hbody := h.afterRemain hnil
        rw [List.length_nil, Nat.add_zero, hk] at hbody
        refine ⟨_, .finish hcall, view_of_bodyAt hbody, ?_⟩
        rw [hsegs, hk, List.drop_length, List.nil_append]
      · obtain ⟨reqs', hcall⟩ :=
          socketRead_segment h.isParseFinish hfin hpos (by omega) segs reqs
        have htaken := length_read_le b.remainDataLength segs
        obtain ⟨more, hdrop, hrest⟩ := exists_eq_append_of_length_le
          ((read_flatten b.remainDataLength segs).trans hsegs) (by rw [List.length_drop]; omega)
        have hne : segs ≠ [] := by
          rintro rfl
          have hlen := congrArg List.length hsegs
          rw [List.length_append, List.length_drop, List.flatten_nil, List.length_nil] at hlen
          omega
        have hlt := weight_read_lt hpos hne
        split at hcall
        · rename_i hnil
          rw [hnil, List.nil_append] at hdrop
          obtain ⟨st', hdrives, hview⟩ :=
            ih _ (hw ▸ hlt) h hfin (hdrop ▸ hrest) reqs' rfl
          exact ⟨st', .again hcall rfl hdrives, hview⟩
        · have hbody := h.afterRemain hdrop
          cases hfin' : (afterRemain b (Segments.read b.remainDataLength segs).1).isFinish with
          | true =>
              rw [hfin'] at hcall
              have hk : k + (Segments.read b.remainDataLength segs).1.length =
                  f.wire.length := by
                have hremain' := hbody.remainDataLength
                simp only [afterRemain, beq_iff_eq] at hfin'
                simp only [afterRemain] at hremain'
                omega
              have hmore : more = [] := by
                have hlen := congrArg List.length hdrop
                rw [List.length_append, List.length_drop] at hlen
                exact List.length_eq_zero_iff.mp (by omega)
              rw [hk] at hbody
              exact ⟨_, .finish hcall, view_of_bodyAt hbody, by rw [hrest, hmore, List.nil_append]⟩
          | false =>
              rw [hfin'] at hcall
              have hdrop' := drop_add_of_drop_eq hdrop
              obtain ⟨st', hdrives, hview⟩ :=
                ih _ (hw ▸ hlt) hbody hfin' (by rw [hrest, hdrop']) reqs' rfl
              exact ⟨st', .again hcall rfl hdrives, hview⟩

/-! ### The header -/

/-- The buffer that has received the bytes `bytes` and has not recognised the header. -/
def headerBuf (u : Uninit) (bytes : List UInt8) : Buffer :=
  { Buffer.new u with
    heap := u.heap.store u.headerPos bytes
    currentPos := u.headerPos + bytes.length
    parseLength := 5 - bytes.length }

/-- A buffer without bytes is a new one. -/
theorem headerBuf_nil (u : Uninit) : headerBuf u [] = Buffer.new u := by
  rw [headerBuf, Memory.store_nil]
  rfl

/-- Four bytes: the scan looks at the byte of the block behind them. -/
theorem lengthSeen_headerBuf_four (u : Uninit) {bytes : List UInt8} (h : bytes.length = 4) :
    lengthSeen (headerBuf u bytes) = true ↔ (u.heap (u.headerPos + 4)).toNat < 128 := by
  have hcount : (((u.headerPos + 4 : ℕ) : ℤ) - u.headerPos - (2 : ℕ) - (1 : ℕ)).toNat = 1 := by
    omega
  simp only [lengthSeen, headerBuf, Buffer.new, Buffer.reset, h, sessionidLength_eq,
    msgTypeLength_eq, varLength_eq, hcount, List.range_one, List.any_cons, List.any_nil,
    Bool.or_false, Nat.add_zero, beq_iff_eq]
  rw [show u.headerPos + 2 + 2 = u.headerPos + 4 by omega,
    Memory.store_of_le _ (by rw [h]), Leb128.shiftRight_7_eq_zero_iff]

/-- Five bytes: the scan looks at the last of them and at the byte of the block behind. -/
theorem lengthSeen_headerBuf_five (u : Uninit) {bytes : List UInt8} (h : bytes.length = 5)
    {byte : UInt8} (hbyte : bytes[4]? = some byte) :
    lengthSeen (headerBuf u bytes) = true ↔
      byte.toNat < 128 ∨ (u.heap (u.headerPos + 5)).toNat < 128 := by
  obtain ⟨hfour, rfl⟩ := List.getElem?_eq_some_iff.mp hbyte
  have hcount : (((u.headerPos + 5 : ℕ) : ℤ) - u.headerPos - (2 : ℕ) - (1 : ℕ)).toNat = 2 := by
    omega
  have hrange : List.range 2 = [0, 1] := rfl
  simp only [lengthSeen, headerBuf, Buffer.new, Buffer.reset, h, sessionidLength_eq,
    msgTypeLength_eq, varLength_eq, hcount, hrange, List.any_cons, List.any_nil,
    Bool.or_false, Nat.add_zero, Bool.or_eq_true, beq_iff_eq]
  rw [show u.headerPos + 2 + 2 = u.headerPos + 4 by omega,
    show u.headerPos + 4 + 1 = u.headerPos + 5 by omega,
    Memory.store_add _ _ hfour, Memory.store_of_le _ (by rw [h]),
    Leb128.shiftRight_7_eq_zero_iff, Leb128.shiftRight_7_eq_zero_iff]

/-- Three bytes are no header. -/
theorem lengthSeen_headerBuf_of_lt (u : Uninit) {bytes : List UInt8} (h : bytes.length < 4) :
    lengthSeen (headerBuf u bytes) = false := by
  rw [Bool.eq_false_iff]
  intro hseen
  have hle := le_currentPos_of_lengthSeen hseen
  simp only [headerBuf, Buffer.new, Buffer.reset] at hle
  omega

/-- The buffer in which the header has been recognised. -/
def headerReadBuf (u : Uninit) (bytes : List UInt8) : Buffer :=
  { headerBuf u bytes with isParseMsgReaded := true }

/-- The request for what is missing of the header behind `bytes`. -/
def headerRequest (u : Uninit) (bytes : List UInt8) : Request :=
  ⟨u.headerPos, u.headerPos + bytes.length, 5 - (bytes.length : ℤ)⟩

/-- Header bytes that arrive are stored behind the others. -/
theorem readHeader_of_stored {S : SslReader σ} (u : Uninit) {bytes more : List UInt8}
    (hlen : bytes.length ≤ 5) {ssl ssl' : σ}
    (hread : S.sslRead ssl (5 - (bytes.length : ℤ)) = (.stored more, ssl'))
    (reqs : List Request) :
    readHeader S ⟨headerBuf u bytes, ssl, reqs⟩ =
      (.ok (), ⟨headerScan (headerBuf u (bytes ++ more)), ssl',
        reqs ++ [headerRequest u bytes]⟩) := by
  have hmore := (S.stored_le hread).2
  have hcount : toInt (5 - bytes.length) = 5 - (bytes.length : ℤ) := by
    rw [toInt_of_lt (by omega)]
    omega
  have hcall : socketReadAt S ⟨headerBuf u bytes, ssl, reqs⟩ (headerBuf u bytes).currentPos
      (headerBuf u bytes).parseLength =
        (.ok more.length,
          ⟨{ headerBuf u bytes with heap := u.heap.store u.headerPos (bytes ++ more) }, ssl',
            reqs ++ [headerRequest u bytes]⟩) := by
    rw [show (headerBuf u bytes).parseLength = 5 - bytes.length from rfl, socketReadAt]
    simp only [hcount, hread]
    rw [Memory.store_append]
    rfl
  have hsub : subWrap 8 ((5 - bytes.length : ℕ) : ℤ) (more.length : ℕ) =
      5 - (bytes ++ more).length := by
    have hsub := subWrap_of_le (w := 8) (a := (5 - bytes.length : ℕ)) (b := more.length)
      (by omega) (by omega)
    rw [List.length_append]
    omega
  have hbuf : headerBuf u (bytes ++ more) =
      { headerBuf u bytes with
        heap := u.heap.store u.headerPos (bytes ++ more)
        currentPos := (headerBuf u bytes).currentPos + more.length
        parseLength := subWrap 8 (headerBuf u bytes).parseLength more.length } := by
    rw [show (headerBuf u bytes).parseLength = 5 - bytes.length from rfl, hsub]
    simp only [headerBuf, List.length_append, Nat.add_assoc]
  rw [readHeader, hcall]
  simp only [hbuf]

/-- A request that fails leaves the buffer as it was. Where the failure counts as zero bytes
the scan is made again. -/
theorem readHeader_of_failed {S : SslReader σ} (u : Uninit) {bytes : List UInt8}
    (hlen : bytes.length ≤ 5) {ssl ssl' : σ} {error : SslError}
    (hread : S.sslRead ssl (5 - (bytes.length : ℤ)) = (.failed error, ssl'))
    (hscan : ∀ n, readFailure error = .ok n → lengthSeen (headerBuf u bytes) = false)
    (reqs : List Request) :
    readHeader S ⟨headerBuf u bytes, ssl, reqs⟩ =
      ((readFailure error).map fun _ => (),
        ⟨headerBuf u bytes, ssl', reqs ++ [headerRequest u bytes]⟩) := by
  have hcount : toInt (5 - bytes.length) = 5 - (bytes.length : ℤ) := by
    rw [toInt_of_lt (by omega)]
    omega
  have hcall : socketReadAt S ⟨headerBuf u bytes, ssl, reqs⟩ (headerBuf u bytes).currentPos
      (headerBuf u bytes).parseLength =
        (readFailure error,
          ⟨headerBuf u bytes, ssl', reqs ++ [headerRequest u bytes]⟩) := by
    rw [show (headerBuf u bytes).parseLength = 5 - bytes.length from rfl, socketReadAt]
    simp only [hcount, hread]
    rfl
  rw [readHeader, hcall]
  cases hfail : readFailure error with
  | error e => rfl
  | ok readed =>
      have hzero : readed = 0 := by
        cases error <;> simp [readFailure] at hfail <;> exact hfail.symm
      have hsub : subWrap 8 ((5 - bytes.length : ℕ) : ℤ) ((0 : ℕ) : ℤ) = 5 - bytes.length := by
        have hsub := subWrap_of_le (w := 8) (a := (5 - bytes.length : ℕ)) (b := (0 : ℕ))
          (by omega) (by omega)
        omega
      have hbuf : { headerBuf u bytes with
          currentPos := (headerBuf u bytes).currentPos + 0
          parseLength := subWrap 8 ((headerBuf u bytes).parseLength : ℕ) ((0 : ℕ) : ℤ) } =
            headerBuf u bytes := by
        rw [show (headerBuf u bytes).parseLength = 5 - bytes.length from rfl, hsub]
        rfl
      rw [hzero]
      simp only
      rw [hbuf, headerScan, hscan readed hfail, if_neg Bool.false_ne_true]
      rfl

/-- The header request is one read of the stream for what is missing of five bytes. -/
theorem readHeader_headerBuf (u : Uninit) (bytes : List UInt8) (h : bytes.length < 5)
    (segs : List (List UInt8)) (reqs : List Request) :
    ∃ reqs', readHeader segmentReader ⟨headerBuf u bytes, segs, reqs⟩ =
      if (Segments.read (5 - bytes.length) segs).1 = [] then
        (.error ⟨20012, "read later"⟩,
          ⟨headerBuf u bytes, (Segments.read (5 - bytes.length) segs).2, reqs'⟩)
      else
        (.ok (),
          ⟨headerScan (headerBuf u (bytes ++ (Segments.read (5 - bytes.length) segs).1)),
            (Segments.read (5 - bytes.length) segs).2, reqs'⟩) := by
  refine ⟨reqs ++ [headerRequest u bytes], ?_⟩
  have hread := segmentRead_of_pos (n := 5 - bytes.length) (by omega) segs
  rw [show ((5 - bytes.length : ℕ) : ℤ) = 5 - (bytes.length : ℤ) by omega] at hread
  generalize Segments.read (5 - bytes.length) segs = p at hread ⊢
  obtain ⟨_ | ⟨byte, more⟩, segs'⟩ := p
  · rw [if_pos rfl]
    exact readHeader_of_failed u h.le hread (fun n hn => by cases hn) reqs
  · rw [if_neg (List.cons_ne_nil byte more)]
    exact readHeader_of_stored u h.le hread reqs

/-- A header that is parsed finishes nothing. -/
theorem isFinish_parseHeader (b : Buffer) : (parseHeader b).2.isFinish = b.isFinish := by
  rw [parseHeader]
  rcases Buffer.decodingVarLength (parseSession b).heap
      ((parseSession b).headerPos + sessionidLength + msgTypeLength) with e | ⟨n, next⟩
  · rfl
  · simp only
    split <;> rfl

/-- The evaluation of a recognised header, and the data request behind it. -/
def readOn (b : Buffer) (segs : List (List UInt8)) (reqs : List Request) :
    Except SystemError Bool × ReadState (List (List UInt8)) :=
  match parseHeader b with
  | (.error e, b) => (.error e, ⟨b, segs, reqs⟩)
  | (.ok (), b) => socketRead segmentReader ⟨b, segs, reqs⟩

/-- **A call before the header is recognised.** -/
theorem socketRead_headerBuf (u : Uninit) (bytes : List UInt8) (h : bytes.length < 5)
    (segs : List (List UInt8)) (reqs : List Request) :
    ∃ reqs', socketRead segmentReader ⟨headerBuf u bytes, segs, reqs⟩ =
      if (Segments.read (5 - bytes.length) segs).1 = [] then
        (.error ⟨20012, "read later"⟩,
          ⟨headerBuf u bytes, (Segments.read (5 - bytes.length) segs).2, reqs'⟩)
      else if lengthSeen (headerBuf u (bytes ++ (Segments.read (5 - bytes.length) segs).1)) then
        readOn (headerReadBuf u (bytes ++ (Segments.read (5 - bytes.length) segs).1))
          (Segments.read (5 - bytes.length) segs).2 reqs'
      else
        (.ok false,
          ⟨headerBuf u (bytes ++ (Segments.read (5 - bytes.length) segs).1),
            (Segments.read (5 - bytes.length) segs).2, reqs'⟩) := by
  obtain ⟨reqs', hhead⟩ := readHeader_headerBuf u bytes h segs reqs
  refine ⟨reqs', ?_⟩
  have hturn : socketReadTurn segmentReader ⟨headerBuf u bytes, segs, reqs⟩ =
      match readHeader segmentReader ⟨headerBuf u bytes, segs, reqs⟩ with
      | (.error e, st) => (.error e, st)
      | (.ok (), st) => readParse st := by
    rw [socketReadTurn, if_pos (by rfl), if_pos (by rfl)]
    rcases readHeader segmentReader ⟨headerBuf u bytes, segs, reqs⟩ with ⟨e | _, st⟩ <;> rfl
  rw [hhead] at hturn
  generalize Segments.read (5 - bytes.length) segs = p at hturn ⊢
  obtain ⟨taken, segs'⟩ := p
  simp only at hturn ⊢
  by_cases hnil : taken = []
  · simp only [if_pos hnil] at hturn ⊢
    rw [socketRead, socketReadLoop, hturn]
  rw [if_neg hnil] at hturn ⊢
  cases hseen : lengthSeen (headerBuf u (bytes ++ taken)) with
  | false =>
      simp only [headerScan, hseen, Bool.false_eq_true, if_false] at hturn ⊢
      rw [readParse, if_neg (by exact Bool.false_ne_true)] at hturn
      rw [socketRead, socketReadLoop, hturn]
      rfl
  | true =>
      simp only [headerScan, hseen, if_true] at hturn ⊢
      rw [readParse, if_pos (by rfl)] at hturn
      simp only at hturn
      rw [readOn, headerReadBuf]
      rcases hparse : parseHeader { headerBuf u (bytes ++ taken) with isParseMsgReaded := true }
        with ⟨e | _, b⟩
      · rw [hparse] at hturn
        rw [socketRead, socketReadLoop, hturn]
      · rw [hparse] at hturn
        have hfin := isFinish_parseHeader
          { headerBuf u (bytes ++ taken) with isParseMsgReaded := true }
        rw [hparse] at hfin
        exact socketRead_eq_of_turn hturn hfin

/-! ### The header that was sent -/

/-- The two bytes of the session id. -/
def SentFrame.sessionBytes (f : SentFrame) : List UInt8 :=
  Buffer.htons (if f.isLast then f.sessionid + bufferLastFlag else f.sessionid)

/-- A frame with a length field of one byte. -/
theorem SentFrame.wire_of_lt (f : SentFrame) (h : f.data.length < 128) :
    f.wire = f.sessionBytes ++ f.type :: UInt8.ofNat f.data.length :: f.data := by
  rw [f.wire_eq, Buffer.frameBytes, Buffer.body, Leb128.encode_of_lt h, List.singleton_append]
  rfl

/-- A frame with a length field of two bytes. -/
theorem SentFrame.wire_of_le (f : SentFrame) (h : 128 ≤ f.data.length) :
    f.wire = f.sessionBytes ++ f.type :: (UInt8.ofNat (f.data.length % 128) ||| 128) ::
      UInt8.ofNat (f.data.length / 128) :: f.data := by
  have hle := f.length_le
  rw [f.wire_eq, Buffer.frameBytes, Buffer.body, Leb128.encode_of_le_of_lt h (by omega)]
  rfl

/-- `htons` and `ntohs` are inverse to each other. -/
theorem ntohs_store_htons (m : Memory UInt8) (pos : ℕ) {n : ℕ} (h : n < 2 ^ 16)
    (bytes : List UInt8) : Buffer.ntohs (m.store pos (Buffer.htons n ++ bytes)) pos = n := by
  have hlen : 1 < (Buffer.htons n ++ bytes).length := by
    rw [List.length_append, Buffer.length_htons]
    omega
  have h0 := Memory.store_add m pos (Nat.zero_lt_of_lt hlen)
  have h1 := Memory.store_add m pos hlen
  rw [Nat.add_zero] at h0
  simp only [Buffer.htons, List.cons_append, List.nil_append, List.getElem_cons_zero,
    List.getElem_cons_succ] at h0 h1
  rw [Buffer.ntohs, Buffer.htons, List.cons_append, List.cons_append, List.nil_append, h0, h1,
    Leb128.toNat_ofNat_of_lt (by omega), Leb128.toNat_ofNat_of_lt (by omega)]
  omega

/-- The members that the header sets before the length field are those that were sent. -/
theorem parseSession_headerReadBuf (u : Uninit) (f : SentFrame) (bytes : List UInt8) :
    parseSession (headerReadBuf u (f.sessionBytes ++ f.type :: bytes)) =
      { headerReadBuf u (f.sessionBytes ++ f.type :: bytes) with
        isLastBuf := f.isLast
        sessionId := f.sessionid
        dataType := f.type } := by
  have hid := f.sessionid_le
  rw [maxSessionID_eq] at hid
  have hsession : Buffer.ntohs (u.heap.store u.headerPos (f.sessionBytes ++ f.type :: bytes))
      u.headerPos = if f.isLast then f.sessionid + 32768 else f.sessionid := by
    rw [SentFrame.sessionBytes, ntohs_store_htons _ _ (by rw [bufferLastFlag_eq]; split <;> omega),
      bufferLastFlag_eq]
  have htype : u.heap.store u.headerPos (f.sessionBytes ++ f.type :: bytes)
      (u.headerPos + 2) = f.type := by
    have hlen : f.sessionBytes.length = 2 := rfl
    rw [Memory.store_add _ _ (by rw [List.length_append, List.length_cons]; omega),
      List.getElem_append_right (by omega)]
    simp [hlen]
  simp only [parseSession, headerReadBuf, headerBuf, Buffer.new, Buffer.reset,
    sessionidLength_eq, bufferLastFlag_eq, hsession, htype]
  cases f.isLast with
  | true => simp
  | false => simp; omega

/-- The same for the part of the frame that has been received. -/
theorem parseSession_take (u : Uninit) (f : SentFrame) {k : ℕ} (hk : 3 ≤ k) :
    parseSession (headerReadBuf u (f.wire.take k)) =
      { headerReadBuf u (f.wire.take k) with
        isLastBuf := f.isLast
        sessionId := f.sessionid
        dataType := f.type } := by
  have htake : f.wire.take k =
      f.sessionBytes ++ f.type :: (Leb128.encode f.data.length ++ f.data).take (k - 3) := by
    obtain ⟨k, rfl⟩ := Nat.exists_eq_add_of_le' hk
    rw [f.wire_eq, Buffer.frameBytes, Buffer.body, Nat.add_sub_cancel]
    rfl
  rw [htake, parseSession_headerReadBuf]

/-- A header with a length that can be decoded is refused if the message is too long. -/
theorem parseHeader_of_decode {b : Buffer} {n next : ℕ}
    (h : Buffer.decodingVarLength b.heap (b.headerPos + 3) = .ok (n, next)) :
    parseHeader b =
      (if overBufferSize (parseLengthField (parseSession b) n next) then
          .error ⟨20000, "transfer data over buffer size"⟩
        else .ok (),
        parseLengthField (parseSession b) n next) := by
  have hdec : Buffer.decodingVarLength (parseSession b).heap
      ((parseSession b).headerPos + sessionidLength + msgTypeLength) = .ok (n, next) := h
  rw [parseHeader]
  simp only [hdec]
  split <;> rfl

/-- Whether or not the size check throws, the buffer is driven on from the evaluated
header: the callback keeps a buffer on which the check has failed. -/
theorem drives_iff_of_readOn {st st' : ReadState (List (List UInt8))} {b : Buffer}
    {segs : List (List UInt8)} {reqs : List Request} {n next : ℕ}
    (hcall : socketRead segmentReader st = readOn b segs reqs)
    (h : Buffer.decodingVarLength b.heap (b.headerPos + 3) = .ok (n, next)) :
    Drives segmentReader st st' ↔
      Drives segmentReader ⟨parseLengthField (parseSession b) n next, segs, reqs⟩ st' := by
  rw [readOn, parseHeader_of_decode h] at hcall
  cases hsize : overBufferSize (parseLengthField (parseSession b) n next) with
  | true =>
      rw [hsize] at hcall
      exact drives_iff_of_keepsBuffer hcall rfl
  | false =>
      rw [hsize] at hcall
      exact drives_of_socketRead_eq hcall

/-- The evaluated header, where the declared length is the one that was sent. -/
theorem bodyAt_parseLengthField (u : Uninit) (f : SentFrame) {k : ℕ} (hk : 4 ≤ k)
    (hle : k ≤ f.wire.length) :
    BodyAt u f k
      (parseLengthField (parseSession (headerReadBuf u (f.wire.take k))) f.data.length
        (u.headerPos + (f.wire.length - f.data.length))) := by
  have hlen := f.length_wire
  have hwle := f.length_wire_le
  have htake : (f.wire.take k).length = k := List.length_take_of_le hle
  rw [parseSession_take u f (by omega)]
  refine ⟨rfl, rfl, rfl, rfl, rfl, rfl, ?_, ?_, ?_, rfl⟩
  · simp only [parseLengthField]
    omega
  · simp only [parseLengthField, headerReadBuf, headerBuf, htake]
  · simp only [parseLengthField, headerReadBuf, headerBuf, htake]
    have henc := Buffer.length_encode_le f.length_le
    have hsub := subWrap_of_le (w := 64) (a := (f.data.length : ℤ))
      (b := ((u.headerPos + k : ℕ) : ℤ) -
        ((u.headerPos + (f.wire.length - f.data.length) : ℕ) : ℤ)) (by omega) (by omega)
    omega

/-- A byte of the header that has been received. -/
theorem heap_headerReadBuf (u : Uninit) (f : SentFrame) {k i : ℕ} (hik : i < k) {byte : UInt8}
    (h : f.wire[i]? = some byte) :
    (headerReadBuf u (f.wire.take k)).heap (u.headerPos + i) = byte := by
  obtain ⟨hi, rfl⟩ := List.getElem?_eq_some_iff.mp h
  have hlen : i < (f.wire.take k).length := by
    rw [List.length_take]
    omega
  rw [headerReadBuf, headerBuf]
  simp only
  rw [Memory.store_add _ _ hlen, List.getElem_take]

/-- A length field of one byte. -/
theorem decodingVarLength_of_lt (u : Uninit) (f : SentFrame) (h : f.data.length < 128) {k : ℕ}
    (hk : 4 ≤ k) :
    Buffer.decodingVarLength (headerReadBuf u (f.wire.take k)).heap (u.headerPos + 3) =
      .ok (f.data.length, u.headerPos + 4) := by
  have hwire : f.wire[3]? = some (UInt8.ofNat f.data.length) := by
    rw [f.wire_of_lt h]
    rfl
  have h3 := heap_headerReadBuf u f (k := k) (by omega) hwire
  have hlt := Leb128.toNat_ofNat_of_lt (n := f.data.length) (by omega)
  rw [Buffer.decodingVarLength_eq, h3, hlt, if_pos h]

/-- A length field of two bytes. -/
theorem decodingVarLength_of_le (u : Uninit) (f : SentFrame) (h : 128 ≤ f.data.length) {k : ℕ}
    (hk : 4 ≤ k) {byte : UInt8}
    (h4 : (headerReadBuf u (f.wire.take k)).heap (u.headerPos + 4) = byte)
    (hlt : byte.toNat < 128) :
    Buffer.decodingVarLength (headerReadBuf u (f.wire.take k)).heap (u.headerPos + 3) =
      .ok (f.data.length % 128 + 128 * byte.toNat, u.headerPos + 5) := by
  have hwire : f.wire[3]? = some (UInt8.ofNat (f.data.length % 128) ||| 128) := by
    rw [f.wire_of_le h]
    rfl
  have h3 := heap_headerReadBuf u f (k := k) (by omega) hwire
  have hbyte := Leb128.toNat_ofNat_or_128 (n := f.data.length % 128) (by omega)
  rw [Buffer.decodingVarLength_eq, h3, h4, hbyte, if_neg (by omega), if_pos hlt]
  congr 2
  omega

/-- The length field, where the bytes that were received reach behind it. -/
theorem decodingVarLength_take (u : Uninit) (f : SentFrame) {k : ℕ} (hk : 4 ≤ k)
    (hk5 : 128 ≤ f.data.length → 5 ≤ k) :
    Buffer.decodingVarLength (headerReadBuf u (f.wire.take k)).heap (u.headerPos + 3) =
      .ok (f.data.length, u.headerPos + (f.wire.length - f.data.length)) := by
  have hlen := f.length_wire
  rcases Nat.lt_or_ge f.data.length 128 with hlt | hge
  · rw [Leb128.encode_of_lt hlt, List.length_singleton] at hlen
    rw [decodingVarLength_of_lt u f hlt hk, show f.wire.length - f.data.length = 4 by omega]
  · have hle := f.length_le
    rw [Leb128.encode_of_le_of_lt hge (by omega)] at hlen
    simp only [List.length_cons, List.length_nil] at hlen
    have hwire : f.wire[4]? = some (UInt8.ofNat (f.data.length / 128)) := by
      rw [f.wire_of_le hge]
      rfl
    have h4 := heap_headerReadBuf u f (k := k) (hk5 hge) hwire
    have hbyte := Leb128.toNat_ofNat_of_lt (n := f.data.length / 128) (by omega)
    rw [decodingVarLength_of_le u f hge hk h4 (by omega), hbyte, Nat.mod_add_div,
      show f.wire.length - f.data.length = 5 by omega]

/-! ### What every call keeps -/

/-- The declared length of an evaluated header does not change. -/
theorem dataLength_socketRead {S : SslReader σ} {n : ℕ} (st : ReadState σ)
    (h : st.buf.isParseFinish = true ∧ st.buf.dataLength = n) :
    (socketRead S st).2.buf.isParseFinish = true ∧ (socketRead S st).2.buf.dataLength = n := by
  cases hfin : st.buf.isFinish with
  | true =>
      rw [socketRead, socketReadLoop, socketReadTurn, if_neg (by simp [h.1]),
        if_neg (by simp [hfin])]
      exact h
  | false =>
      rw [socketRead_of_isParseFinish h.1 hfin, readRemain]
      cases hread : socketReadAt S st st.buf.currentPos st.buf.remainDataLength with
      | mk r st' =>
          cases r with
          | error e =>
              obtain ⟨hbuf, -⟩ := socketReadAt_error hread
              simp only [hbuf]
              exact h
          | ok readed =>
              obtain ⟨bytes, -, -, hbuf, -⟩ := socketReadAt_ok hread
              simp only [hbuf]
              exact h

/-- The connection of `st'` has read a part of `segs`. -/
def Reads (segs : List (List UInt8)) (st' : ReadState (List (List UInt8))) : Prop :=
  ∃ taken, Advances segs taken st'.ssl

/-- A call that leaves the stream alone. -/
theorem Reads.of_ssl_eq {segs : List (List UInt8)} {st' : ReadState (List (List UInt8))}
    (h : st'.ssl = segs) : Reads segs st' :=
  ⟨[], h ▸ .refl segs⟩

/-- Two calls one after the other. -/
theorem Reads.trans {segs : List (List UInt8)} {st₂ st₃ : ReadState (List (List UInt8))}
    (h₁ : Reads segs st₂) (h₂ : Reads st₂.ssl st₃) : Reads segs st₃ := by
  obtain ⟨xs, hxs⟩ := h₁
  obtain ⟨ys, hys⟩ := h₂
  exact ⟨xs ++ ys, hxs.trans hys⟩

/-- One call of `SSL_read` takes the next part of the stream. -/
theorem advances_segmentRead (segs : List (List UInt8)) (n : ℤ) :
    ∃ taken, Advances segs taken (segmentRead segs n).2 := by
  rw [segmentRead]
  split
  · exact ⟨[], .refl segs⟩
  split
  · exact ⟨[], .refl segs⟩
  have hadv := advances_read n.toNat segs
  rcases hpair : Segments.read n.toNat segs with ⟨_ | ⟨byte, bytes⟩, segs'⟩ <;>
    rw [hpair] at hadv <;> exact ⟨_, hadv⟩

/-- A call takes the next part of the stream. -/
theorem reads_socketRead (st : ReadState (List (List UInt8))) :
    Reads st.ssl (socketRead segmentReader st).2 := by
  refine inv_socketRead (P := fun segs => ∃ taken, Advances st.ssl taken segs) ?_ ⟨[], .refl _⟩
  rintro segs n ⟨xs, hxs⟩
  obtain ⟨ys, hys⟩ := advances_segmentRead segs n
  exact ⟨xs ++ ys, hxs.trans hys⟩

/-- Driving a buffer takes the next part of the stream. -/
theorem reads_drives {st st' : ReadState (List (List UInt8))}
    (h : Drives segmentReader st st') : Reads st.ssl st' :=
  inv_drives (P := Reads st.ssl) (fun st₁ hst₁ => hst₁.trans (reads_socketRead st₁))
    (.of_ssl_eq rfl) h

/-- What follows the header is read from the stream. -/
theorem reads_readOn (b : Buffer) (segs : List (List UInt8)) (reqs : List Request) :
    Reads segs (readOn b segs reqs).2 := by
  rw [readOn]
  rcases parseHeader b with ⟨e | _, b'⟩
  · exact .of_ssl_eq rfl
  · exact reads_socketRead ⟨b', segs, reqs⟩

/-! ### Reading one frame back -/

/-- Driving the buffer reads the frame back and leaves exactly the bytes `rest`. -/
def ReadsBack (f : SentFrame) (rest : List UInt8) (st : ReadState (List (List UInt8))) : Prop :=
  ∃ st', Drives segmentReader st st' ∧ st'.buf.view = f.view ∧ st'.ssl.flatten = rest

/-- A call that has taken a byte of a later frame does not leave it. -/
theorem not_readsBack_of_length {f : SentFrame} {rest : List UInt8}
    {st : ReadState (List (List UInt8))} (segs : List (List UInt8))
    (h : Reads segs (socketRead segmentReader st).2)
    (hlt : segs.flatten.length < rest.length) : ¬ ReadsBack f rest st := by
  rintro ⟨st', hdrives, -, hrest⟩
  have hreads : Reads segs st' := by
    cases hdrives with
    | finish hcall => rwa [hcall] at h
    | again hcall _ hrest =>
        rw [hcall] at h
        exact h.trans (reads_drives hrest)
  obtain ⟨taken, hadv⟩ := hreads
  have hlen := hadv.length_flatten
  rw [hrest] at hlen
  omega

/-- The header was recognised after four bytes. -/
theorem readsBack_four (u : Uninit) (f : SentFrame) {rest : List UInt8}
    {segs : List (List UInt8)} {reqs : List Request} {st : ReadState (List (List UInt8))}
    (hcall : socketRead segmentReader st = readOn (headerReadBuf u (f.wire.take 4)) segs reqs)
    (hsegs : segs.flatten = f.wire.drop 4 ++ rest)
    (hseen : (u.heap (u.headerPos + 4)).toNat < 128) :
    ReadsBack f rest st ↔
      f.data.length < 128 ∨ (u.heap (u.headerPos + 4)).toNat = f.data.length / 128 := by
  have hlen := f.length_wire
  rcases Nat.lt_or_ge f.data.length 128 with hlt | hge
  · have hbody := bodyAt_parseLengthField u f (Nat.le_refl 4)
      (by have := Leb128.length_encode_pos f.data.length; omega)
    obtain ⟨st', hdrives, hview⟩ := drives_body hbody rfl hsegs reqs
    have hdec := decodingVarLength_take u f (Nat.le_refl 4) (fun hge => by omega)
    exact iff_of_true ⟨st', (drives_iff_of_readOn hcall hdec).mpr hdrives, hview⟩ (Or.inl hlt)
  · rw [Leb128.encode_of_le_of_lt hge (by have := f.length_le; omega)] at hlen
    have h4 : (headerReadBuf u (f.wire.take 4)).heap (u.headerPos + 4) =
        u.heap (u.headerPos + 4) := by
      refine Memory.store_of_le _ ?_
      rw [List.length_take]
      omega
    have hdec := decodingVarLength_of_le u f hge (Nat.le_refl 4) h4 hseen
    constructor
    · rintro ⟨st', hdrives, hview, -⟩
      have hlength := inv_drives (dataLength_socketRead (S := segmentReader)) ⟨rfl, rfl⟩
        ((drives_iff_of_readOn hcall hdec).mp hdrives)
      have hsize := congrArg FrameView.dataSize hview
      simp only [Buffer.view, SentFrame.view, Buffer.dataSize, hlength.2, parseLengthField]
        at hsize
      omega
    · rintro (hlt | heq)
      · omega
      · have hbody := bodyAt_parseLengthField u f (Nat.le_refl 4)
          (by simp only [List.length_cons, List.length_nil] at hlen; omega)
        simp only [List.length_cons, List.length_nil] at hlen
        rw [show f.wire.length - f.data.length = 5 by omega] at hbody
        obtain ⟨st', hdrives, hview⟩ := drives_body hbody rfl hsegs reqs
        rw [heq, Nat.mod_add_div] at hdec
        exact ⟨st', (drives_iff_of_readOn hcall hdec).mpr hdrives, hview⟩

/-- The header was recognised after five bytes, all of them of the frame. -/
theorem readsBack_five (u : Uninit) (f : SentFrame) {rest : List UInt8}
    {segs : List (List UInt8)} {reqs : List Request} {st : ReadState (List (List UInt8))}
    (hcall : socketRead segmentReader st = readOn (headerReadBuf u (f.wire.take 5)) segs reqs)
    (hsegs : segs.flatten = f.wire.drop 5 ++ rest) (hpos : 0 < f.data.length) :
    ReadsBack f rest st := by
  have hlen := f.length_wire
  have henc := Leb128.length_encode_pos f.data.length
  have hbody := bodyAt_parseLengthField u f (k := 5) (by omega) (by omega)
  obtain ⟨st', hdrives, hview⟩ := drives_body hbody rfl hsegs reqs
  have hdec := decodingVarLength_take u f (k := 5) (by omega) (fun _ => Nat.le_refl 5)
  exact ⟨st', (drives_iff_of_readOn hcall hdec).mpr hdrives, hview⟩

/-- A header that is not recognised and of which nothing is missing: nothing is asked for, and
the scan sees what it has seen. -/
theorem socketRead_unrecognised {st : ReadState (List (List UInt8))}
    (hparse : st.buf.isParseFinish = false) (hread : st.buf.isParseMsgReaded = false)
    (hfin : st.buf.isFinish = false) (hseen : lengthSeen st.buf = false)
    (hzero : st.buf.parseLength = 0) :
    socketRead segmentReader st =
      (.ok false, { st with requests :=
        st.requests ++ [⟨st.buf.headerPos, st.buf.currentPos, 0⟩] }) := by
  have hrequest : socketReadAt segmentReader st st.buf.currentPos st.buf.parseLength =
      (.ok 0, { st with requests :=
        st.requests ++ [⟨st.buf.headerPos, st.buf.currentPos, 0⟩] }) := by
    rw [hzero, socketReadAt_segment_zero]
  have hsub : subWrap 8 (st.buf.parseLength : ℤ) ((0 : ℕ) : ℤ) = st.buf.parseLength := by
    rw [hzero]
    rfl
  have hheader : readHeader segmentReader st =
      (.ok (), { st with requests :=
        st.requests ++ [⟨st.buf.headerPos, st.buf.currentPos, 0⟩] }) := by
    rw [readHeader, hrequest]
    simp only [hsub, Nat.add_zero, headerScan, hseen, Bool.false_eq_true, if_false]
  have hturn : socketReadTurn segmentReader st =
      (.ok false, { st with requests :=
        st.requests ++ [⟨st.buf.headerPos, st.buf.currentPos, 0⟩] }) := by
    rw [socketReadTurn, if_pos hparse, if_pos hread, hheader]
    simp only [readParse, hread, Bool.false_eq_true, if_false]
  rw [socketRead, socketReadLoop, hturn]
  simp only [Bool.false_and, Bool.false_eq_true, if_false, hfin]

/-- A header of five bytes that the scan does not recognise is never recognised: the
buffer asks for no bytes from then on. -/
theorem not_drives_headerBuf_five (u : Uninit) {bytes : List UInt8} (h : bytes.length = 5)
    (hseen : lengthSeen (headerBuf u bytes) = false) (segs : List (List UInt8))
    (reqs : List Request) (st' : ReadState (List (List UInt8))) :
    ¬ Drives segmentReader ⟨headerBuf u bytes, segs, reqs⟩ st' := by
  have hzero : (headerBuf u bytes).parseLength = 0 := by
    rw [headerBuf, h]
  refine not_drives (P := fun st => st.buf = headerBuf u bytes) ?_ rfl
  rintro ⟨b, segs, reqs⟩ rfl
  have hcall : socketRead segmentReader ⟨headerBuf u bytes, segs, reqs⟩ =
      (.ok false, ⟨headerBuf u bytes, segs,
        reqs ++ [⟨(headerBuf u bytes).headerPos, (headerBuf u bytes).currentPos, 0⟩]⟩) :=
    socketRead_unrecognised rfl rfl rfl hseen hzero
  rw [hcall]
  exact ⟨by simp, rfl⟩

/-- A header of four bytes that the scan does not recognise waits for the next byte, also
where there is none. -/
theorem not_drives_headerBuf_end (u : Uninit) {bytes : List UInt8} (h : bytes.length = 4)
    (reqs : List Request) (st' : ReadState (List (List UInt8))) :
    ¬ Drives segmentReader ⟨headerBuf u bytes, [], reqs⟩ st' := by
  refine not_drives (P := fun st => st.buf = headerBuf u bytes ∧ st.ssl = []) ?_ ⟨rfl, rfl⟩
  rintro ⟨b, segs, reqs⟩ ⟨rfl, rfl⟩
  obtain ⟨reqs', hcall⟩ := socketRead_headerBuf u bytes (by omega) [] reqs
  rw [if_pos (by rfl)] at hcall
  rw [hcall]
  exact ⟨by simp, rfl, rfl⟩

/-! ### What the condition comes to -/

/-- The header is recognised after four bytes. -/
theorem frameReadable_of_stop {u : Uninit} {f : SentFrame} {stop : Prop} (hstop : stop)
    (hseen : (u.heap (u.headerPos + 4)).toNat < 128) :
    FrameReadable u f stop ↔
      f.data.length < 128 ∨ (u.heap (u.headerPos + 4)).toNat = f.data.length / 128 := by
  rw [FrameReadable]
  cases hdata : f.data with
  | nil => simp [hstop, hseen]
  | cons byte bytes =>
      simp only [List.length_cons]
      split
      · rename_i hlt
        exact iff_of_true (Or.inl ⟨hstop, hseen⟩) (Or.inl hlt)
      · rename_i hge
        constructor
        · intro h
          rcases h hstop with h | h
          · omega
          · exact Or.inr h
        · rintro (h | h) _
          · omega
          · exact Or.inr h

/-- The header is not recognised after four bytes. -/
theorem frameReadable_of_not {u : Uninit} {f : SentFrame} {stop : Prop}
    (hstop : stop → 128 ≤ (u.heap (u.headerPos + 4)).toNat) :
    FrameReadable u f stop ↔
      ∃ byte bytes, f.data = byte :: bytes ∧
        (f.data.length < 128 → byte.toNat < 128 ∨ (u.heap (u.headerPos + 5)).toNat < 128) := by
  rw [FrameReadable]
  cases hdata : f.data with
  | nil =>
      refine iff_of_false ?_ (by simp)
      rintro ⟨h, hseen⟩
      have := hstop h
      omega
  | cons byte bytes =>
      simp only [List.length_cons]
      split
      · rename_i hlt
        constructor
        · rintro (⟨h, hseen⟩ | h)
          · have := hstop h
            omega
          · exact ⟨byte, bytes, rfl, fun _ => h⟩
        · rintro ⟨_, _, heq, h⟩
          obtain ⟨rfl, rfl⟩ := List.cons.inj heq
          exact Or.inr (h hlt)
      · rename_i hge
        exact iff_of_true (fun h => Or.inl (hstop h)) ⟨byte, bytes, rfl, fun h => absurd h hge⟩

/-- Where the stream ends in front of the next byte, the frame has no data. -/
theorem length_eq_four_of_drop {f : SentFrame} {rest : List UInt8} {k : ℕ} (hk : k ≤ 4)
    (h : f.wire.drop k ++ rest = []) : k = 4 ∧ f.wire.length = 4 ∧ f.data = [] := by
  have hlen := f.length_wire
  obtain ⟨hdrop, -⟩ := List.append_eq_nil_iff.mp h
  have hle := List.drop_eq_nil_iff.mp hdrop
  rcases Nat.lt_or_ge f.data.length 128 with hlt | hge
  · rw [Leb128.encode_of_lt hlt, List.length_singleton] at hlen
    exact ⟨by omega, by omega, List.length_eq_zero_iff.mp (by omega)⟩
  · omega

/-- The fifth byte of a frame with data: the first byte of its data, or the high digit of its
length. -/
theorem SentFrame.exists_wire_four (f : SentFrame) {byte : UInt8} {bytes : List UInt8}
    (hdata : f.data = byte :: bytes) :
    ∃ byte₄, f.wire[4]? = some byte₄ ∧
      (byte₄.toNat < 128 ↔ f.data.length < 128 → byte.toNat < 128) := by
  rcases Nat.lt_or_ge f.data.length 128 with hlt | hge
  · refine ⟨byte, ?_, by simp [hlt]⟩
    rw [f.wire_of_lt hlt, hdata]
    rfl
  · have hle := f.length_le
    refine ⟨UInt8.ofNat (f.data.length / 128), ?_, ?_⟩
    · rw [f.wire_of_le hge]
      rfl
    · rw [Leb128.toNat_ofNat_of_lt (by omega)]
      exact iff_of_true (by omega) (fun hlt => by omega)

/-- With the fifth byte of a frame the header is recognised, or it is not, by the byte that is read
there and the byte behind it in the block. -/
theorem lengthSeen_take_five (u : Uninit) (f : SentFrame) {byte : UInt8} {bytes : List UInt8}
    (hdata : f.data = byte :: bytes) (hlen : 5 ≤ f.wire.length) :
    lengthSeen (headerBuf u (f.wire.take 5)) = true ↔
      (f.data.length < 128 → byte.toNat < 128 ∨ (u.heap (u.headerPos + 5)).toNat < 128) := by
  obtain ⟨byte₄, hbyte₄, hbyte⟩ := f.exists_wire_four hdata
  have hfive : (f.wire.take 5)[4]? = some byte₄ := by
    rw [List.getElem?_take_of_lt (by omega), hbyte₄]
  rw [lengthSeen_headerBuf_five u (List.length_take_of_le hlen) hfive, hbyte]
  constructor
  · exact fun h hlt => h.imp_left fun hsmall => hsmall hlt
  · intro h
    by_cases hlt : f.data.length < 128
    · exact (h hlt).imp_left fun hsmall _ => hsmall
    · exact Or.inl fun h => absurd h hlt

/-- A header that five bytes have been read of. -/
theorem readsBack_of_five (u : Uninit) (f : SentFrame) {rest taken : List UInt8} {k : ℕ}
    {segs : List (List UInt8)} {reqs : List Request} {st : ReadState (List (List UInt8))}
    (hk : k ≤ 4) (hlen : k + taken.length = 5)
    (hflat : taken ++ segs.flatten = f.wire.drop k ++ rest)
    (hcall : socketRead segmentReader st =
      if lengthSeen (headerBuf u (f.wire.take k ++ taken)) then
        readOn (headerReadBuf u (f.wire.take k ++ taken)) segs reqs
      else
        (.ok false, ⟨headerBuf u (f.wire.take k ++ taken), segs, reqs⟩)) :
    ReadsBack f rest st ↔
      ∃ byte bytes, f.data = byte :: bytes ∧
        (f.data.length < 128 → byte.toNat < 128 ∨ (u.heap (u.headerPos + 5)).toNat < 128) := by
  have hwire := f.length_wire
  have hflen := congrArg List.length hflat
  rw [List.length_append, List.length_append, List.length_drop] at hflen
  cases hdata : f.data with
  | nil =>
      rw [hdata, List.length_nil, Leb128.encode_of_lt (by omega), List.length_singleton] at hwire
      refine iff_of_false (not_readsBack_of_length segs ?_ (by omega)) (by simp)
      rw [hcall]
      split
      · exact reads_readOn _ segs reqs
      · exact .of_ssl_eq rfl
  | cons byte bytes =>
      have hpos : 0 < f.data.length := by
        rw [hdata]
        exact Nat.zero_lt_succ _
      have henc : 0 < (Leb128.encode f.data.length).length := Leb128.length_encode_pos _
      obtain ⟨more, hdrop, hrest⟩ := exists_eq_append_of_length_le hflat
        (by rw [List.length_drop]; omega)
      have htake := take_append_of_drop_eq hdrop
      rw [hlen] at htake
      rw [← drop_add_of_drop_eq hdrop, hlen] at hrest
      have hlen5 : 5 ≤ f.wire.length := by omega
      rw [htake] at hcall
      have hcond : (∃ byte' bytes', f.data = byte' :: bytes' ∧
          (f.data.length < 128 → byte'.toNat < 128 ∨ (u.heap (u.headerPos + 5)).toNat < 128)) ↔
            lengthSeen (headerBuf u (f.wire.take 5)) = true := by
        rw [lengthSeen_take_five u f hdata hlen5, hdata]
        constructor
        · rintro ⟨_, _, heq, h⟩
          obtain ⟨rfl, rfl⟩ := List.cons.inj heq
          exact h
        · exact fun h => ⟨byte, bytes, rfl, h⟩
      rw [← hdata, hcond]
      cases hfive : lengthSeen (headerBuf u (f.wire.take 5)) with
      | true =>
          rw [hfive, if_pos rfl] at hcall
          exact iff_of_true (readsBack_five u f hcall hrest hpos) rfl
      | false =>
          rw [hfive, if_neg Bool.false_ne_true] at hcall
          refine iff_of_false ?_ Bool.false_ne_true
          rintro ⟨st', hdrives, -⟩
          exact not_drives_headerBuf_five u (List.length_take_of_le hlen5) hfive _ _ _
            ((drives_iff_of_keepsBuffer hcall rfl).mp hdrives)

/-- A call that ends the turn, with the buffer kept, leaves to the next calls what there is to
read back. -/
theorem readsBack_iff_of_keepsBuffer {f : SentFrame} {rest : List UInt8}
    {st st₁ : ReadState (List (List UInt8))} {r : Except SystemError Bool}
    (hcall : socketRead segmentReader st = (r, st₁)) (hr : keepsBuffer r = true) :
    ReadsBack f rest st ↔ ReadsBack f rest st₁ := by
  rw [ReadsBack, ReadsBack]
  simp only [drives_iff_of_keepsBuffer hcall hr]

/-- A header that has its four bytes and is not recognised has a large byte of the block behind
them. -/
theorem le_heap_of_not_lengthSeen (u : Uninit) (f : SentFrame)
    (hunseen : lengthSeen (headerBuf u (f.wire.take 4)) = false) :
    128 ≤ (u.heap (u.headerPos + 4)).toNat := by
  have hwire := f.length_wire
  have henc : 0 < (Leb128.encode f.data.length).length := Leb128.length_encode_pos _
  have hfour := lengthSeen_headerBuf_four u (List.length_take_of_le (by omega) :
    (f.wire.take 4).length = 4)
  rw [hunseen] at hfour
  by_contra hlt
  exact Bool.false_ne_true (hfour.mpr (by omega))

/-- A stream that has ended behind a frame without data: the header is never recognised. -/
theorem readsBack_headerBuf_end (u : Uninit) (f : SentFrame) {rest : List UInt8} {k : ℕ}
    (hk : k ≤ 4) (hunseen : lengthSeen (headerBuf u (f.wire.take k)) = false)
    (hend : f.wire.drop k ++ rest = []) (stop : Prop) (reqs : List Request) :
    ReadsBack f rest ⟨headerBuf u (f.wire.take k), [], reqs⟩ ↔ FrameReadable u f stop := by
  obtain ⟨rfl, -, hdata⟩ := length_eq_four_of_drop hk hend
  have hbig := le_heap_of_not_lengthSeen u f hunseen
  have hwire := f.length_wire
  have henc : 0 < (Leb128.encode f.data.length).length := Leb128.length_encode_pos _
  refine iff_of_false ?_ ?_
  · rintro ⟨st', hdrives, -⟩
    exact not_drives_headerBuf_end u (List.length_take_of_le (by omega)) reqs st' hdrives
  · rw [FrameReadable, hdata]
    rintro ⟨-, hseen⟩
    omega

/-- A call that has received some of the header, and less than five bytes of it: it goes on
where the header is not recognised yet, and stops at four bytes where it is. -/
theorem readsBack_of_fewer (u : Uninit) (f : SentFrame) {rest taken : List UInt8} {k : ℕ}
    {segs segs' : List (List UInt8)} {reqs : List Request} {st : ReadState (List (List UInt8))}
    (hlt : k + taken.length < 5) (hflat : taken ++ segs'.flatten = f.wire.drop k ++ rest)
    (hends : EndsAt segs' (4 - (k + taken.length)) ↔ EndsAt segs (4 - k))
    (hcall : socketRead segmentReader st =
      if lengthSeen (headerBuf u (f.wire.take k ++ taken)) then
        readOn (headerReadBuf u (f.wire.take k ++ taken)) segs' reqs
      else
        (.ok false, ⟨headerBuf u (f.wire.take k ++ taken), segs', reqs⟩))
    (hnext : lengthSeen (headerBuf u (f.wire.take (k + taken.length))) = false →
      segs'.flatten = f.wire.drop (k + taken.length) ++ rest →
        (ReadsBack f rest ⟨headerBuf u (f.wire.take (k + taken.length)), segs', reqs⟩ ↔
          FrameReadable u f (EndsAt segs' (4 - (k + taken.length))))) :
    ReadsBack f rest st ↔ FrameReadable u f (EndsAt segs (4 - k)) := by
  have hwire := f.length_wire
  have henc : 0 < (Leb128.encode f.data.length).length := Leb128.length_encode_pos _
  obtain ⟨more, hdrop, hrest⟩ := exists_eq_append_of_length_le hflat
    (by rw [List.length_drop]; omega)
  rw [take_append_of_drop_eq hdrop] at hcall
  rw [← drop_add_of_drop_eq hdrop] at hrest
  cases hseen : lengthSeen (headerBuf u (f.wire.take (k + taken.length))) with
  | false =>
      rw [hseen, if_neg Bool.false_ne_true] at hcall
      rw [readsBack_iff_of_keepsBuffer hcall rfl, hnext hseen hrest, hends]
  | true =>
      have htake : (f.wire.take (k + taken.length)).length = k + taken.length :=
        List.length_take_of_le (by omega)
      have hk4 : k + taken.length = 4 := by
        by_contra hne
        rw [lengthSeen_headerBuf_of_lt u (by omega)] at hseen
        cases hseen
      rw [hseen, if_pos rfl, hk4] at hcall
      rw [hk4] at hends hrest hseen htake
      have hsmall := (lengthSeen_headerBuf_four u htake).mp hseen
      rw [readsBack_four u f hcall hrest hsmall,
        frameReadable_of_stop (hends.mp (endsAt_zero segs')) hsmall]

/-- **The header, however it arrives.** From a header of which four bytes at most have been
received, the frame is read back exactly if the reader's condition is met. -/
theorem readsBack_headerBuf (u : Uninit) (f : SentFrame) {rest : List UInt8} {k : ℕ}
    (hk : k ≤ 4) {segs : List (List UInt8)}
    (hunseen : lengthSeen (headerBuf u (f.wire.take k)) = false)
    (hsegs : segs.flatten = f.wire.drop k ++ rest) (reqs : List Request) :
    ReadsBack f rest ⟨headerBuf u (f.wire.take k), segs, reqs⟩ ↔
      FrameReadable u f (EndsAt segs (4 - k)) := by
  induction hw : weight segs using Nat.strong_induction_on generalizing k segs reqs with
  | _ w ih =>
      have hwire := f.length_wire
      have henc : 0 < (Leb128.encode f.data.length).length := Leb128.length_encode_pos _
      have htakelen : (f.wire.take k).length = k := List.length_take_of_le (by omega)
      obtain ⟨reqs', hcall⟩ := socketRead_headerBuf u (f.wire.take k) (by omega) segs reqs
      rw [htakelen] at hcall
      have hadv := advances_read (5 - k) segs
      have hle := length_read_le (5 - k) segs
      have hshort : (Segments.read (5 - k) segs).1.length < 5 - k →
          EndsAt segs (Segments.read (5 - k) segs).1.length := endsAt_length_read
      have hcross : ∀ m, 0 < m → EndsAt segs m → (Segments.read (5 - k) segs).1.length ≤ m :=
        fun m hm => length_read_le_of_endsAt (5 - k) hm
      have hprogress : segs ≠ [] → weight (Segments.read (5 - k) segs).2 < weight segs :=
        weight_read_lt (by omega)
      generalize Segments.read (5 - k) segs = p at hcall hadv hle hshort hcross hprogress
      obtain ⟨taken, segs'⟩ := p
      simp only at hcall hadv hle hshort hcross hprogress
      have hflat := hadv.flatten_eq.trans hsegs
      by_cases hend : segs = []
      · subst hend
        exact readsBack_headerBuf_end u f hk hunseen hsegs.symm _ reqs
      by_cases hnil : taken = []
      · -- nothing has arrived yet
        subst hnil
        rw [if_pos rfl] at hcall
        have hends : EndsAt segs' (4 - k) ↔ EndsAt segs (4 - k) :=
          hadv.endsAt_sub_iff (Nat.zero_le _) fun _ => endsAt_zero segs
        rw [readsBack_iff_of_keepsBuffer hcall rfl,
          ih _ (hw ▸ hprogress hend) hk hunseen hflat reqs' rfl, hends]
      · rw [if_neg hnil] at hcall
        have hpos := List.length_pos_iff.mpr hnil
        rcases Nat.lt_or_ge (k + taken.length) 5 with hlt | hge
        · have hends : EndsAt segs' (4 - (k + taken.length)) ↔ EndsAt segs (4 - k) := by
            rw [← Nat.sub_sub]
            exact hadv.endsAt_sub_iff (by omega) fun _ => hshort (by omega)
          exact readsBack_of_fewer u f hlt hflat hends hcall fun hseen hrest =>
            ih _ (hw ▸ hprogress hend) (by omega) hseen hrest reqs' rfl
        · have hlen : k + taken.length = 5 := by omega
          rw [readsBack_of_five u f hk hlen hflat hcall, frameReadable_of_not]
          intro hstop
          rcases Nat.lt_or_ge k 4 with hk4 | hk4
          · have := hcross (4 - k) (by omega) hstop
            omega
          · obtain rfl : k = 4 := Nat.le_antisymm hk hk4
            exact le_heap_of_not_lengthSeen u f hunseen

/-- **One frame, exactly.** A fresh buffer that is driven on a stream starting with a frame
reads the frame back, and nothing behind it, if and only if the condition of the reader
is met. -/
theorem frame_readable_iff (u : Uninit) (f : SentFrame) {rest : List UInt8}
    {segs : List (List UInt8)} (hsegs : segs.flatten = f.wire ++ rest) (reqs : List Request) :
    ReadsBack f rest ⟨Buffer.new u, segs, reqs⟩ ↔ FrameReadable u f (EndsAt segs 4) := by
  have hseen : lengthSeen (headerBuf u (f.wire.take 0)) = false :=
    lengthSeen_headerBuf_of_lt u (by simp)
  have hframe := readsBack_headerBuf u f (k := 0) (Nat.zero_le 4) hseen hsegs reqs
  rwa [List.take_zero, headerBuf_nil] at hframe

/-! ### A list of frames -/

/-- The frames from the offset `offset` of the stream on, of which `left` is left. -/
theorem roundTrip_iff_of_endsAt (segs : List (List UInt8)) (fs : List (Uninit × SentFrame))
    (offset : ℕ) {left : List (List UInt8)}
    (hends : ∀ {k}, 0 < k → (EndsAt left k ↔ EndsAt segs (offset + k)))
    (hleft : left.flatten = (fs.map fun p => p.2.wire).flatten) :
    RoundTrip fs left ↔ FramesReadable segs offset fs := by
  induction fs generalizing offset left with
  | nil => exact iff_of_true hleft trivial
  | cons p fs ih =>
      obtain ⟨u, f⟩ := p
      rw [List.map_cons, List.flatten_cons] at hleft
      simp only at hleft
      have hframe := frame_readable_iff u f hleft []
      rw [hends (by omega)] at hframe
      have hnext : ∀ st', Drives segmentReader ⟨Buffer.new u, left, []⟩ st' →
          st'.ssl.flatten = (fs.map fun p => p.2.wire).flatten →
            (RoundTrip fs st'.ssl ↔ FramesReadable segs (offset + f.wire.length) fs) := by
        intro st' hdrives hrest
        obtain ⟨taken, hadv⟩ := reads_drives hdrives
        have hlen := hadv.length_flatten
        rw [hrest, hleft, List.length_append] at hlen
        refine ih _ (fun hk => ?_) hrest
        rw [hadv.endsAt_iff hk, hends (by omega), show taken.length = f.wire.length by omega,
          Nat.add_assoc]
      rw [FramesReadable, ← hframe]
      constructor
      · rintro ⟨st', hdrives, hview, hrest, hfs⟩
        exact ⟨⟨st', hdrives, hview, hrest⟩, (hnext st' hdrives hrest).mp hfs⟩
      · rintro ⟨⟨st', hdrives, hview, hrest⟩, hfs⟩
        exact ⟨st', hdrives, hview, hrest, (hnext st' hdrives hrest).mpr hfs⟩

/-- **Framing round trip, exactly.** However the bytes of a list of frames arrive, and
whatever the blocks of the receiving buffers hold, the frames are read back one by one if
and only if every one of them meets the condition of the reader. -/
theorem roundTrip_iff (fs : List (Uninit × SentFrame)) (segs : List (List UInt8))
    (hsegs : segs.flatten = (fs.map fun p => p.2.wire).flatten) :
    RoundTrip fs segs ↔ FramesReadable segs 0 fs :=
  roundTrip_iff_of_endsAt segs fs 0 (fun _ => by rw [Nat.zero_add]) hsegs

/-- A frame with the session id 100 and one byte of data. -/
def SentFrame.single (byte : UInt8) : SentFrame where
  sender := Uninit.zero
  sessionid := minSessionID
  isLast := true
  type := ChatType.nodemessage.code
  data := [byte]
  sessionid_le := by decide
  length_le := by
    rw [List.length_singleton]
    decide

/-- A block that is full of bytes with the high bit. -/
def Uninit.high : Uninit := { Uninit.zero with heap := fun _ => 255 }

/-- Two frames that arrive at once, the second one in two parts. -/
theorem roundTrip_single :
    RoundTrip [(Uninit.high, SentFrame.single 1), (Uninit.zero, SentFrame.single 200)]
      [[128, 100, 30, 1, 1, 128, 100, 30], [], [1, 200]] :=
  (roundTrip_iff _ _ (by decide)).mpr
    ⟨Or.inr (Or.inl (by decide)), Or.inr (Or.inr (by decide)), trivial⟩

/-- One byte of data with the high bit in a block that holds such bytes: the header is
never recognised. -/
theorem not_roundTrip_single :
    [[128, 100, 30, 1, 200]].flatten = (SentFrame.single 200).wire ∧
      ¬ RoundTrip [(Uninit.high, SentFrame.single 200)] [[128, 100, 30, 1, 200]] := by
  refine ⟨by decide, ?_⟩
  rw [roundTrip_iff_of_endsAt [[128, 100, 30, 1, 200]] _ 0
    (fun _ => by rw [Nat.zero_add]) (by decide)]
  rintro ⟨hframe, -⟩
  exact absurd hframe (by simp only [FrameReadable, SentFrame.single]; decide)

end Yijian
