import Yijian.RoundTrip

/-!
# Progress of the Reader

The read watcher of a connection is level-triggered: as long as a received byte is unread,
the loop calls `connection_read_callback` again. A callback that takes nothing, finishes
nothing and does not close the connection is called again on the same bytes, and there are
two states in which every callback is one of these. A header that was recognised and whose
length field is rejected is rejected again by every later callback, without a request; and
five received bytes that the scan does not recognise leave a request for no bytes.

Here bytes arrive while callbacks run: `SocketEvent` is the arrival of a segment, or a
callback. A segment that arrives is not empty.

## Convention

A callback makes progress if it takes a byte, completes a frame, or closes the connection. The
connection here holds the bytes that have arrived, so a request for bytes gets one if there is
one: the library is assumed to keep none back. Runs are finite and of any length, and how often the
watcher fires is the number of callbacks at a moment with an unread byte; "finitely many" is a bound
by the bytes that have arrived, for every run, not only that there is no infinite one. The
condition of the result is asked of the state before a callback. A run that meets it up to a point
is bounded up to that point.

## Main results

* `waiting_socketRead`: the states of the buffer that a call leaves for the next one.
* `unread_socketRead_lt`: outside the two states a call takes a byte if one is unread.
* `socketRead_stuck`: in the two states a call takes nothing, and leaves the buffer there.
* `reader_progress_iff`: the callbacks of a run make progress, and a finite input triggers
  finitely many of them, exactly as long as no callback with an unread byte runs in one of
  the two states.
-/

namespace Yijian

open Runs Segments

/-! ### Arrivals and callbacks -/

/-- What happens on a connection: a segment arrives, or the read callback runs. -/
inductive SocketEvent
  | arrive (byte : UInt8) (bytes : List UInt8)
  | callback (u : Uninit × Uninit)

/-- The bytes that have arrived and have not been read. -/
def ReadConn.unread (c : ReadConn (List (List UInt8))) : ℕ := c.ssl.flatten.length

/-- One event on a connection. -/
def socketStep (c : ReadConn (List (List UInt8))) : SocketEvent → ReadConn (List (List UInt8))
  | .arrive byte bytes => { c with ssl := c.ssl ++ [byte :: bytes] }
  | .callback u => readStep segmentReader c u

/-- The callback is one that the loop makes because a received byte is unread. -/
def Fires (c : ReadConn (List (List UInt8))) : SocketEvent → Prop
  | .arrive _ _ => False
  | .callback _ => c.watching = true ∧ 0 < c.unread

instance (c : ReadConn (List (List UInt8))) (e : SocketEvent) : Decidable (Fires c e) :=
  match e with
  | .arrive _ _ => inferInstanceAs (Decidable False)
  | .callback _ => inferInstanceAs (Decidable (_ ∧ _))

/-- The buffer and the connection that a callback reads with. -/
def ReadConn.readState {σ : Type} (c : ReadConn σ) (u : Uninit) : ReadState σ :=
  ⟨c.io.bufferSpV.getLastD (Buffer.new u), c.ssl, c.requests⟩

/-- A callback with an unread byte takes a byte, completes a frame, or closes the
connection. -/
def Progress (c : ReadConn (List (List UInt8))) : SocketEvent → Prop
  | .arrive _ _ => True
  | .callback u =>
      c.watching = true → 0 < c.unread →
        (connectionReadCallback segmentReader c u).2.unread < c.unread ∨
        (socketRead segmentReader (c.readState u.1)).1 = .ok true ∨
        ∃ e, (connectionReadCallback segmentReader c u).1 = .closed e

/-- The number of callbacks that the unread bytes of a run trigger. -/
def firings (c : ReadConn (List (List UInt8))) (es : List SocketEvent) : ℕ :=
  count socketStep Fires c es

/-- Both bytes of the length field announce another one. -/
def LengthRejected (b : Buffer) : Prop :=
  128 ≤ (b.heap (b.headerPos + 3)).toNat ∧ 128 ≤ (b.heap (b.headerPos + 4)).toNat

/-- The header cannot be evaluated and nothing of it is asked for: it was recognised and
its length field is rejected, or all five bytes were received and it was not recognised. -/
def HeaderStuck (b : Buffer) : Prop :=
  b.isParseFinish = false ∧
    (b.isParseMsgReaded = true ∧ LengthRejected b ∨
      b.isParseMsgReaded = false ∧ b.parseLength = 0)

/-- The buffer in use holds such a header. -/
def BackStuck (io : ReadIo) : Prop :=
  ∃ b, io.bufferSpV.getLast? = some b ∧ HeaderStuck b

/-- No callback with an unread byte runs on such a header. -/
def NotStuck (c : ReadConn (List (List UInt8))) (e : SocketEvent) : Prop :=
  Fires c e → ¬ BackStuck c.io

/-! ### The buffer between two calls -/

variable {σ : Type}

/-- The header is evaluated; the remaining length may be zero, or may have wrapped. -/
structure Evaluated (b : Buffer) : Prop where
  isParseFinish : b.isParseFinish = true
  isFinish : b.isFinish = false
  remain : b.remainDataLength < 2 ^ 31 ∨ b.remainDataLength = 2 ^ 64 - 1

/-- The states of a buffer that is kept for another call. -/
inductive Waiting (b : Buffer) : Prop
  | header (k : ℕ) (h : HeaderPhase b k) (hseen : lengthSeen b = false)
  | rejected (h : HeaderRead b) (hlength : LengthRejected b)
  | body (h : Evaluated b) (hpos : 0 < b.remainDataLength) (hlt : b.remainDataLength < 2 ^ 31)

/-- What a turn leaves: a buffer for the next call, or one whose data it goes on with. -/
def TurnLeaves : Except SystemError Bool → Buffer → Prop
  | .ok true, b => Evaluated b
  | _, b => Waiting b

/-- A new buffer waits for its header. -/
theorem waiting_new (u : Uninit) : Waiting (Buffer.new u) := by
  have h := headerPhase_new u
  refine .header 0 h ?_
  by_contra hseen
  have hle := le_currentPos_of_lengthSeen (by simpa using hseen)
  have hpos := h.currentPos
  omega

/-- A new buffer is not stuck. -/
theorem not_headerStuck_new (u : Uninit) : ¬ HeaderStuck (Buffer.new u) := by
  rintro ⟨-, ⟨hread, -⟩ | ⟨-, hzero⟩⟩
  · cases hread
  · cases hzero

/-- A body is read behind an evaluated header. -/
theorem BodyPhase.evaluated {b : Buffer} (h : BodyPhase b) : Evaluated b := by
  refine ⟨h.isParseFinish, h.isFinish, ?_⟩
  have hge := h.le_currentPos
  have hlt := h.dataLength_lt
  have hle := h.dataPos_le
  rcases h.cursor with hcur | ⟨hwrap, -, -⟩
  · exact Or.inl (by omega)
  · exact Or.inr hwrap

/-- A wrapped length passes the comparison with the size of the block. -/
theorem remain_of_overBufferSize {b : Buffer} (h : Evaluated b) (htype : b.bufferType = .message)
    (hover : overBufferSize b = true) :
    0 < b.remainDataLength ∧ b.remainDataLength < 2 ^ 31 := by
  simp only [overBufferSize, htype, MessageType.size, paddingLength_eq, gt_iff_lt,
    decide_eq_true_eq] at hover
  have hremain := h.remain
  omega

/-- What evaluating a recognised header comes to. -/
theorem parseHeader_cases {b : Buffer} (h : HeaderRead b) :
    LengthRejected b ∧
        parseHeader b = (.error ⟨20001, "Malformed Remaining Length"⟩, parseSession b) ∨
      ∃ b', Evaluated b' ∧ (parseHeader b = (.ok (), b') ∨
        ∃ e, parseHeader b = (.error e, b') ∧ 0 < b'.remainDataLength ∧
          b'.remainDataLength < 2 ^ 31) := by
  rw [parseHeader]
  cases hdec : Buffer.decodingVarLength (parseSession b).heap
      ((parseSession b).headerPos + sessionidLength + msgTypeLength) with
  | error e =>
      left
      rw [Buffer.decodingVarLength_eq] at hdec
      split at hdec
      · cases hdec
      · rename_i hlow
        split at hdec
        · cases hdec
        · rename_i hhigh
          obtain rfl := Except.error.inj hdec
          refine ⟨⟨?_, ?_⟩, rfl⟩
          · exact Nat.le_of_not_lt hlow
          · exact Nat.le_of_not_lt hhigh
  | ok p =>
      right
      obtain ⟨n, next⟩ := p
      obtain ⟨hn, hnext⟩ := Buffer.decodingVarLength_ok hdec
      have heval := (bodyPhase_parseLengthField h hn hnext).evaluated
      refine ⟨_, heval, ?_⟩
      simp only
      cases hsize : overBufferSize (parseLengthField (parseSession b) n next) with
      | true => exact Or.inr ⟨_, rfl, remain_of_overBufferSize heval h.bufferType hsize⟩
      | false => exact Or.inl rfl

/-- The header part of a turn. -/
theorem turnLeaves_readParse {st : ReadState σ}
    (h : (∃ k, HeaderPhase st.buf k ∧ lengthSeen st.buf = false) ∨ HeaderRead st.buf) :
    TurnLeaves (readParse st).1 (readParse st).2.buf := by
  rcases h with ⟨k, h, hseen⟩ | h
  · rw [readParse, if_neg (by rw [h.isParseMsgReaded]; exact Bool.false_ne_true)]
    exact .header k h hseen
  · rw [readParse, if_pos h.isParseMsgReaded]
    rcases parseHeader_cases h with ⟨hlength, hparse⟩ | ⟨b', heval, hparse | ⟨e, hparse, hpos, hlt⟩⟩
    · rw [hparse]
      exact .rejected ⟨h.isParseMsgReaded, h.isParseFinish, h.isFinish, h.le_currentPos,
        h.currentPos_le, h.dataPos, h.bufferType⟩ hlength
    · rw [hparse]
      exact heval
    · rw [hparse]
      exact .body heval hpos hlt

/-- A header that is not recognised by the scan. -/
theorem lengthSeen_headerScan {b : Buffer} (h : (headerScan b).isParseMsgReaded = false) :
    lengthSeen (headerScan b) = false := by
  rw [headerScan] at h ⊢
  split at h
  · cases h
  · rename_i hseen
    rw [if_neg hseen]
    exact Bool.eq_false_iff.mpr hseen

/-- A turn on a header that is not recognised yet. -/
theorem turnLeaves_header (S : SslReader σ) {st : ReadState σ} {k : ℕ}
    (h : HeaderPhase st.buf k) (hseen : lengthSeen st.buf = false) :
    TurnLeaves (socketReadTurn S st).1 (socketReadTurn S st).2.buf := by
  obtain ⟨-, -, hphase⟩ := readHeader_spec (S := S) h
  rw [socketReadTurn, if_pos h.isParseFinish, if_pos h.isParseMsgReaded]
  rw [readHeader] at hphase ⊢
  rcases hread : socketReadAt S st st.buf.currentPos st.buf.parseLength with ⟨e | readed, st'⟩
  · obtain ⟨hbuf, -⟩ := socketReadAt_error hread
    exact .header k (hbuf ▸ h) (hbuf ▸ hseen)
  · rw [hread] at hphase
    refine turnLeaves_readParse (hphase.imp_left ?_)
    rintro ⟨k', hk'⟩
    exact ⟨k', hk', lengthSeen_headerScan hk'.isParseMsgReaded⟩

/-- A turn on a recognised header. -/
theorem turnLeaves_read (S : SslReader σ) {st : ReadState σ} (h : HeaderRead st.buf) :
    TurnLeaves (socketReadTurn S st).1 (socketReadTurn S st).2.buf := by
  rw [socketReadTurn, if_pos h.isParseFinish, if_neg (by simp [h.isParseMsgReaded])]
  exact turnLeaves_readParse (Or.inr h)

/-- A request of `-1` bytes fails with an error that closes the connection. -/
theorem socketRead_wrapped {st : ReadState (List (List UInt8))} (h : Evaluated st.buf)
    (hwrap : st.buf.remainDataLength = 2 ^ 64 - 1) :
    keepsBuffer (socketRead segmentReader st).1 = false := by
  have hread : socketReadAt segmentReader st st.buf.currentPos st.buf.remainDataLength =
      (.error ⟨20008, "unknow error"⟩, { st with requests :=
        st.requests ++ [⟨st.buf.headerPos, st.buf.currentPos, -1⟩] }) := by
    rw [hwrap, socketReadAt, toInt_wrapped]
    rfl
  rw [socketRead_of_isParseFinish h.isParseFinish h.isFinish, readRemain, hread]
  rfl

/-- A call on an evaluated header. -/
theorem waiting_socketRead_body {st : ReadState (List (List UInt8))} (h : Evaluated st.buf)
    (hkeep : keepsBuffer (socketRead segmentReader st).1 = true) :
    Waiting (socketRead segmentReader st).2.buf := by
  obtain ⟨b, segs, reqs⟩ := st
  rcases h.remain with hlt | hwrap
  · rcases Nat.eq_zero_or_pos b.remainDataLength with hzero | hpos
    · obtain ⟨reqs', heq⟩ := socketRead_segment_zero h.isParseFinish h.isFinish hzero segs reqs
      rw [heq] at hkeep
      cases hkeep
    · obtain ⟨reqs', heq⟩ := socketRead_segment h.isParseFinish h.isFinish hpos hlt segs reqs
      rw [heq] at hkeep ⊢
      split
      · exact .body h hpos hlt
      · rename_i hne
        rw [if_neg hne] at hkeep
        have hfin : (afterRemain b (Segments.read b.remainDataLength segs).1).isFinish = false := by
          simpa [keepsBuffer] using hkeep
        have hmissing : b.remainDataLength - (Segments.read b.remainDataLength segs).1.length ≠ 0 :=
          by simpa [afterRemain] using hfin
        refine .body ⟨h.isParseFinish, hfin, Or.inl ?_⟩ (Nat.pos_of_ne_zero hmissing) ?_
        · exact Nat.lt_of_le_of_lt (Nat.sub_le _ _) hlt
        · exact Nat.lt_of_le_of_lt (Nat.sub_le _ _) hlt
  · rw [socketRead_wrapped h hwrap] at hkeep
    cases hkeep

/-- A call whose first turn is over. -/
theorem waiting_socketRead_of_turn {st : ReadState (List (List UInt8))}
    (h : TurnLeaves (socketReadTurn segmentReader st).1 (socketReadTurn segmentReader st).2.buf)
    (hkeep : keepsBuffer (socketRead segmentReader st).1 = true) :
    Waiting (socketRead segmentReader st).2.buf := by
  rcases hturn : socketReadTurn segmentReader st with ⟨e | isContine, st₁⟩ <;> rw [hturn] at h
  · rw [socketRead, socketReadLoop, hturn]
    exact h
  cases isContine with
  | false =>
      rw [socketRead, socketReadLoop, hturn]
      exact h
  | true =>
      rw [socketRead_eq_of_turn hturn h.isFinish] at hkeep ⊢
      exact waiting_socketRead_body h hkeep

/-- **The states between two calls.** A buffer that a call leaves for the next one waits for
bytes of its header or of its data, or its length field was rejected. -/
theorem waiting_socketRead {st : ReadState (List (List UInt8))} (h : Waiting st.buf)
    (hkeep : keepsBuffer (socketRead segmentReader st).1 = true) :
    Waiting (socketRead segmentReader st).2.buf := by
  cases h with
  | header k h hseen =>
      exact waiting_socketRead_of_turn (turnLeaves_header segmentReader h hseen) hkeep
  | rejected h hlength => exact waiting_socketRead_of_turn (turnLeaves_read segmentReader h) hkeep
  | body h hpos hlt => exact waiting_socketRead_body h hkeep

/-! ### Progress of a call -/

/-- No call makes bytes. -/
theorem length_flatten_segmentRead_le (segs : List (List UInt8)) (n : ℤ) :
    (segmentReader.sslRead segs n).2.flatten.length ≤ segs.flatten.length := by
  obtain ⟨taken, htaken⟩ := advances_segmentRead segs n
  have hlength := htaken.length_flatten
  change (segmentRead segs n).2.flatten.length ≤ _
  omega

/-- What a call leaves has arrived. -/
theorem arrived_segmentRead {segs : List (List UInt8)} (h : Arrived segs) (n : ℤ) :
    Arrived (segmentReader.sslRead segs n).2 := by
  change Arrived (segmentRead segs n).2
  rw [segmentRead]
  split
  · exact h
  split
  · exact h
  have harr := h.read n.toNat
  rcases hread : Segments.read n.toNat segs with ⟨_ | ⟨byte, bytes⟩, segs'⟩ <;>
    rw [hread] at harr <;> exact harr

/-- A waiting buffer that is not stuck asks for some bytes. -/
theorem Waiting.requested {b : Buffer} (h : Waiting b) (hstuck : ¬ HeaderStuck b) :
    ∃ n, b.requested = some n ∧ 0 < n ∧ n < 2 ^ 31 := by
  rw [Buffer.requested]
  cases h with
  | header k h hseen =>
      have hk := h.le_five
      have hlength := h.parseLength
      have hpos : b.parseLength ≠ 0 := fun hzero =>
        hstuck ⟨h.isParseFinish, Or.inr ⟨h.isParseMsgReaded, hzero⟩⟩
      exact ⟨b.parseLength, by rw [if_pos h.isParseFinish, if_pos h.isParseMsgReaded],
        by omega, by omega⟩
  | rejected h hlength =>
      exact absurd ⟨h.isParseFinish, Or.inl ⟨h.isParseMsgReaded, hlength⟩⟩ hstuck
  | body h hpos hlt =>
      exact ⟨b.remainDataLength, by rw [if_neg (by simp [h.isParseFinish]), if_pos h.isFinish],
        hpos, hlt⟩

/-- A request for some bytes takes one read of the stream. -/
theorem sslRead_segment_of_pos {n : ℕ} (hpos : 0 < n) (segs : List (List UInt8)) :
    (segmentReader.sslRead segs n).2 = (Segments.read n segs).2 := by
  rw [segmentRead_of_pos hpos]
  rcases Segments.read n segs with ⟨_ | ⟨byte, bytes⟩, segs⟩ <;> rfl

/-- **A call makes progress** on a buffer that is not stuck: it takes a byte that has
arrived. -/
theorem unread_socketRead_lt {st : ReadState (List (List UInt8))} (h : Waiting st.buf)
    (hstuck : ¬ HeaderStuck st.buf) (harr : Arrived st.ssl) (hne : st.ssl ≠ []) :
    (socketRead segmentReader st).2.ssl.flatten.length < st.ssl.flatten.length := by
  obtain ⟨n, hrequest, hpos, hlt⟩ := h.requested hstuck
  have hint := toInt_of_lt hlt
  have hturn := socketReadTurn_ssl_of_requested segmentReader hrequest
  rw [hint, sslRead_segment_of_pos hpos] at hturn
  refine inv_socketRead_of_turn
    (P := fun segs : List (List UInt8) => segs.flatten.length < st.ssl.flatten.length) ?_ ?_
  · intro segs m hsegs
    exact Nat.lt_of_le_of_lt (length_flatten_segmentRead_le segs m) hsegs
  · rw [hturn]
    exact harr.length_flatten_read_lt hne hpos

/-- A rejected length field is decoded again and rejected again, without a request. -/
theorem socketRead_rejected {st : ReadState (List (List UInt8))} (h : HeaderRead st.buf)
    (hlength : LengthRejected st.buf) :
    socketRead segmentReader st =
      (.error ⟨20001, "Malformed Remaining Length"⟩, { st with buf := parseSession st.buf }) := by
  have hlow : ¬ (st.buf.heap (st.buf.headerPos + 3)).toNat < 128 := Nat.not_lt.mpr hlength.1
  have hhigh : ¬ (st.buf.heap (st.buf.headerPos + 4)).toNat < 128 := Nat.not_lt.mpr hlength.2
  have herror : Buffer.decodingVarLength (parseSession st.buf).heap
      ((parseSession st.buf).headerPos + sessionidLength + msgTypeLength) =
        .error ⟨20001, "Malformed Remaining Length"⟩ := by
    rw [Buffer.decodingVarLength_eq]
    exact (if_neg hlow).trans (if_neg hhigh)
  have hparse : parseHeader st.buf =
      (.error ⟨20001, "Malformed Remaining Length"⟩, parseSession st.buf) := by
    rw [parseHeader]
    simp only [herror]
  have hturn : socketReadTurn segmentReader st =
      (.error ⟨20001, "Malformed Remaining Length"⟩,
        { st with buf := parseSession st.buf }) := by
    rw [socketReadTurn, if_pos h.isParseFinish, if_neg (by simp [h.isParseMsgReaded]), readParse,
      if_pos h.isParseMsgReaded, hparse]
  rw [socketRead, socketReadLoop, hturn]

/-- **A call on a stuck buffer** takes nothing, neither finishes nor closes, and leaves the
buffer stuck. -/
theorem socketRead_stuck {st : ReadState (List (List UInt8))} (h : Waiting st.buf)
    (hstuck : HeaderStuck st.buf) :
    keepsBuffer (socketRead segmentReader st).1 = true ∧
      (socketRead segmentReader st).2.ssl = st.ssl ∧
      HeaderStuck (socketRead segmentReader st).2.buf := by
  cases h with
  | header k h hseen =>
      obtain ⟨hparse, ⟨hread, -⟩ | ⟨hread, hzero⟩⟩ := hstuck
      · rw [h.isParseMsgReaded] at hread
        cases hread
      · rw [socketRead_unrecognised h.isParseFinish h.isParseMsgReaded h.isFinish hseen hzero]
        exact ⟨rfl, rfl, hparse, Or.inr ⟨hread, hzero⟩⟩
  | rejected h hlength =>
      rw [socketRead_rejected h hlength]
      exact ⟨rfl, rfl, h.isParseFinish, Or.inl ⟨h.isParseMsgReaded, hlength⟩⟩
  | body h hpos hlt =>
      have hparse := hstuck.1
      rw [h.isParseFinish] at hparse
      cases hparse

/-! ### The callback -/

/-- A callback reads what its `socket_read` reads. -/
theorem connectionReadCallback_ssl (S : SslReader σ) (c : ReadConn σ) (u : Uninit × Uninit) :
    (connectionReadCallback S c u).2.ssl = (socketRead S (c.readState u.1)).2.ssl := by
  rw [connectionReadCallback, ReadConn.readState]
  rcases socketRead S ⟨c.io.bufferSpV.getLastD (Buffer.new u.1), c.ssl, c.requests⟩ with
    ⟨e | finish, st⟩
  · simp only
    split <;> rfl
  · cases finish <;> rfl

/-- A callback whose read neither completes a frame nor closes the connection keeps the
buffer. -/
theorem connectionReadCallback_of_keeps {S : SslReader σ} {c : ReadConn σ} {u : Uninit × Uninit}
    (h : keepsBuffer (socketRead S (c.readState u.1)).1 = true) :
    (connectionReadCallback S c u).2.io.bufferSpV.getLast? =
        some (socketRead S (c.readState u.1)).2.buf ∧
      (connectionReadCallback S c u).2.watching = c.watching ∧
      ∀ e, (connectionReadCallback S c u).1 ≠ .closed e := by
  rw [connectionReadCallback]
  rw [ReadConn.readState] at h ⊢
  rcases hread : socketRead S ⟨c.io.bufferSpV.getLastD (Buffer.new u.1), c.ssl, c.requests⟩
    with ⟨e | finish, st⟩ <;> rw [hread] at h
  · have hopen : closesConnection e = false := by simpa [keepsBuffer] using h
    simp only [hopen, Bool.false_eq_true, if_false]
    exact ⟨List.getLast?_concat, trivial, fun e' he' => by cases he'⟩
  · cases finish with
    | false => exact ⟨List.getLast?_concat, rfl, fun e' he' => by cases he'⟩
    | true => cases h

/-- Any other callback stops the watcher, or leaves a new buffer or none. -/
theorem connectionReadCallback_of_not_keeps {S : SslReader σ} {c : ReadConn σ}
    {u : Uninit × Uninit} (h : keepsBuffer (socketRead S (c.readState u.1)).1 = false) :
    (connectionReadCallback S c u).2.watching = false ∨
      ∀ b, (connectionReadCallback S c u).2.io.bufferSpV.getLast? = some b →
        b = Buffer.new u.2 := by
  rw [connectionReadCallback]
  rw [ReadConn.readState] at h
  rcases hread : socketRead S ⟨c.io.bufferSpV.getLastD (Buffer.new u.1), c.ssl, c.requests⟩
    with ⟨e | finish, st⟩ <;> rw [hread] at h
  · have hclosed : closesConnection e = true := by simpa [keepsBuffer] using h
    simp only [hclosed, if_true]
    exact Or.inl trivial
  · cases finish with
    | false => cases h
    | true =>
        refine Or.inr fun b hb => ?_
        simp only [frameRead] at hb
        split at hb
        · split at hb
          · cases hb
          · split at hb
            · cases hb
            · cases hb
        · rw [List.getLast?_concat] at hb
          exact (Option.some.inj hb).symm

/-! ### Runs -/

/-- What every run keeps: no segment that arrived is empty, and the buffer in use of a
watched connection waits. -/
structure ReadInv (c : ReadConn (List (List UInt8))) : Prop where
  arrived : Arrived c.ssl
  waiting : c.watching = true → ∀ b, c.io.bufferSpV.getLast? = some b → Waiting b

/-- A new connection waits for its first frame. -/
theorem readInv_new (sessionid : ℕ) : ReadInv (ReadConn.new sessionid []) where
  arrived := arrived_nil
  waiting := by
    intro _ b hb
    cases hb

/-- Under the invariant the last buffer waits while the watcher is on. -/
theorem ReadInv.waiting_back {c : ReadConn (List (List UInt8))} (h : ReadInv c)
    (hwatch : c.watching = true) (u : Uninit) : Waiting (c.readState u).buf := by
  by_contra hnot
  obtain ⟨b, hb, hnot⟩ := (exists_back_iff (P := fun b => ¬ Waiting b)
    (fun hnew => hnew (waiting_new u)) c.io).mp hnot
  exact hnot (h.waiting hwatch b hb)

/-- Whether a callback finds its header stuck is told by the buffer behind. -/
theorem headerStuck_readState_iff (c : ReadConn σ) (u : Uninit) :
    HeaderStuck (c.readState u).buf ↔ BackStuck c.io :=
  exists_back_iff (not_headerStuck_new u) c.io

/-- Where there is something unread there is a segment. -/
theorem ReadConn.ssl_ne_nil {c : ReadConn (List (List UInt8))} (h : 0 < c.unread) :
    c.ssl ≠ [] := by
  intro hnil
  rw [ReadConn.unread, hnil] at h
  exact Nat.lt_irrefl 0 h

/-- Every step keeps the invariant. -/
theorem readInv_step {c : ReadConn (List (List UInt8))} (h : ReadInv c) (e : SocketEvent) :
    ReadInv (socketStep c e) := by
  cases e with
  | arrive byte bytes => exact ⟨h.arrived.append (List.cons_ne_nil byte bytes), h.waiting⟩
  | callback u =>
      rw [socketStep, readStep]
      split
      · rename_i hwatch
        have hwait := h.waiting_back hwatch u.1
        constructor
        · rw [connectionReadCallback_ssl]
          exact inv_socketRead (P := Arrived) (fun _ n hsegs => arrived_segmentRead hsegs n)
            h.arrived
        · intro hwatch' b hb
          cases hkeep : keepsBuffer (socketRead segmentReader (c.readState u.1)).1 with
          | true =>
              obtain ⟨hback, -, -⟩ := connectionReadCallback_of_keeps hkeep
              rw [hback] at hb
              obtain rfl := Option.some.inj hb
              exact waiting_socketRead hwait hkeep
          | false =>
              rcases connectionReadCallback_of_not_keeps hkeep with hstop | hnew
              · rw [hstop] at hwatch'
                cases hwatch'
              · rw [hnew b hb]
                exact waiting_new u.2
      · exact h

/-- A callback that is not stuck takes a byte that is unread. -/
theorem unread_callback_lt {c : ReadConn (List (List UInt8))} (h : ReadInv c)
    {u : Uninit × Uninit} (hwatch : c.watching = true) (hunread : 0 < c.unread)
    (hstuck : ¬ BackStuck c.io) :
    (connectionReadCallback segmentReader c u).2.unread < c.unread := by
  rw [ReadConn.unread, connectionReadCallback_ssl]
  exact unread_socketRead_lt (h.waiting_back hwatch u.1)
    (fun hback => hstuck ((headerStuck_readState_iff c u.1).mp hback)) h.arrived
    (ReadConn.ssl_ne_nil hunread)

/-- **One event.** A callback makes progress exactly where it is not stuck. -/
theorem progress_iff {c : ReadConn (List (List UInt8))} (h : ReadInv c) (e : SocketEvent) :
    Progress c e ↔ NotStuck c e := by
  cases e with
  | arrive byte bytes => exact ⟨fun _ hfires => hfires.elim, fun _ => trivial⟩
  | callback u =>
      constructor
      · rintro hprogress ⟨hwatch, hunread⟩ hstuck
        obtain ⟨hkeep, hssl, -⟩ := socketRead_stuck (h.waiting_back hwatch u.1)
          ((headerStuck_readState_iff c u.1).mpr hstuck)
        obtain ⟨-, -, hopen⟩ := connectionReadCallback_of_keeps hkeep
        rcases hprogress hwatch hunread with hless | hfinish | ⟨e, hclosed⟩
        · rw [ReadConn.unread, connectionReadCallback_ssl, hssl] at hless
          exact Nat.lt_irrefl _ hless
        · rw [hfinish] at hkeep
          cases hkeep
        · exact hopen e hclosed
      · intro hnot hwatch hunread
        exact Or.inl (unread_callback_lt h hwatch hunread (hnot ⟨hwatch, hunread⟩))

/-- The bytes that an event adds. -/
def SocketEvent.received : SocketEvent → ℕ
  | .arrive _ bytes => bytes.length + 1
  | .callback _ => 0

/-- A callback that is not stuck pays for itself with a byte that was received. -/
theorem unread_step_le {c : ReadConn (List (List UInt8))} (h : ReadInv c) {e : SocketEvent}
    (hnot : NotStuck c e) :
    (socketStep c e).unread + (if Fires c e then 1 else 0) ≤ c.unread + e.received := by
  cases e with
  | arrive byte bytes =>
      rw [if_neg (fun hfires : Fires c (.arrive byte bytes) => hfires)]
      simp [socketStep, ReadConn.unread, SocketEvent.received]
  | callback u =>
      rw [socketStep, readStep, SocketEvent.received]
      by_cases hfires : Fires c (.callback u)
      · have hless := unread_callback_lt h (u := u) hfires.1 hfires.2 (hnot hfires)
        rw [if_pos hfires, if_pos hfires.1]
        omega
      · rw [if_neg hfires]
        split
        · have hle : (connectionReadCallback segmentReader c u).2.unread ≤ c.unread := by
            rw [ReadConn.unread, connectionReadCallback_ssl]
            refine inv_socketRead
              (P := fun segs : List (List UInt8) => segs.flatten.length ≤ c.unread) ?_ ?_
            · intro segs n hsegs
              exact Nat.le_trans (length_flatten_segmentRead_le segs n) hsegs
            · exact Nat.le_refl c.unread
          omega
        · omega

/-- **Finitely many callbacks.** As long as no callback is stuck, the unread bytes trigger no
more callbacks than bytes were received. -/
theorem firings_le {c : ReadConn (List (List UInt8))} (h : ReadInv c) {es : List SocketEvent}
    (hnot : StepsMeet socketStep NotStuck c es) :
    firings c es ≤ c.unread + (es.map SocketEvent.received).sum :=
  (hnot.of_inv (fun _ e hinv hmeets => ⟨readInv_step hinv e, unread_step_le hinv hmeets⟩)
    h).count_le

/-- The connection is watched, a byte is unread, and the callbacks are stuck. -/
structure Livelocked (c : ReadConn (List (List UInt8))) : Prop where
  inv : ReadInv c
  watching : c.watching = true
  unread_pos : 0 < c.unread
  stuck : BackStuck c.io

/-- **No way out.** Neither callbacks nor further bytes end it. -/
theorem Livelocked.step {c : ReadConn (List (List UInt8))} (h : Livelocked c) (e : SocketEvent) :
    Livelocked (socketStep c e) := by
  have hinv := readInv_step h.inv e
  cases e with
  | arrive byte bytes =>
      refine ⟨hinv, h.watching, ?_, h.stuck⟩
      simp [socketStep, ReadConn.unread]
  | callback u =>
      obtain ⟨hkeep, hssl, hstuck⟩ := socketRead_stuck (h.inv.waiting_back h.watching u.1)
        ((headerStuck_readState_iff c u.1).mpr h.stuck)
      obtain ⟨hback, hwatch, -⟩ := connectionReadCallback_of_keeps hkeep
      rw [socketStep, readStep, if_pos h.watching] at hinv ⊢
      refine ⟨hinv, hwatch.trans h.watching, ?_, ⟨_, hback, hstuck⟩⟩
      rw [ReadConn.unread, connectionReadCallback_ssl, hssl]
      exact h.unread_pos

/-- Every callback of a livelocked connection is triggered again. -/
theorem Livelocked.firings_eq {c : ReadConn (List (List UInt8))} (h : Livelocked c)
    (us : List (Uninit × Uninit)) : firings c (us.map .callback) = us.length := by
  have hfires : StepsMeet socketStep Fires c (us.map .callback) := by
    induction us generalizing c with
    | nil => trivial
    | cons u us ih => exact ⟨⟨h.watching, h.unread_pos⟩, ih (h.step (.callback u))⟩
  rw [firings, hfires.count_eq, List.length_map]

/-- **Progress of the reader, exactly.** Bytes arrive in any segments while callbacks run. Every
callback with an unread byte takes a byte, completes a frame or closes the connection if and only
if none of them runs on a header that is stuck; and the bytes that have arrived trigger finitely
many callbacks if and only if none of these does, however many follow. -/
theorem reader_progress_iff (sessionid : ℕ) (es : List SocketEvent) :
    (StepsMeet socketStep Progress (ReadConn.new sessionid []) es ↔
      StepsMeet socketStep NotStuck (ReadConn.new sessionid []) es) ∧
    ((∃ bound, ∀ us : List (Uninit × Uninit),
        firings (ReadConn.new sessionid []) (es ++ us.map SocketEvent.callback) ≤ bound) ↔
      ∀ us : List (Uninit × Uninit),
        StepsMeet socketStep NotStuck (ReadConn.new sessionid []) (es ++ us.map .callback)) := by
  have hnew := readInv_new sessionid
  refine ⟨stepsMeet_congr (I := ReadInv) (fun c e hinv => readInv_step hinv e)
    (fun c e hinv => progress_iff hinv e) hnew, ?_, ?_⟩
  · rintro ⟨bound, hbound⟩ us
    by_contra hstuck
    obtain ⟨es₁, e, es₂, hes, hnot⟩ := exists_of_not_stepsMeet hstuck
    -- the run is livelocked from the stuck callback on
    have hlive : Livelocked (es₁.foldl socketStep (ReadConn.new sessionid [])) := by
      have hinv := inv_foldl_of_step (I := ReadInv) (fun c e hinv => readInv_step hinv e) es₁ hnew
      simp only [NotStuck, Classical.not_imp, not_not] at hnot
      obtain ⟨hfires, hback⟩ := hnot
      cases e with
      | arrive byte bytes => exact hfires.elim
      | callback u => exact ⟨hinv, hfires.1, hfires.2, hback⟩
    have hend : Livelocked ((es ++ us.map SocketEvent.callback).foldl socketStep
        (ReadConn.new sessionid [])) := by
      rw [hes, List.foldl_append]
      exact inv_foldl_of_step (I := Livelocked) (fun c e h => h.step e) (e :: es₂) hlive
    have hmore := hbound (us ++ List.replicate (bound + 1) (Uninit.zero, Uninit.zero))
    rw [List.map_append, ← List.append_assoc, firings, count_append] at hmore
    have hmany := hend.firings_eq (List.replicate (bound + 1) (Uninit.zero, Uninit.zero))
    rw [List.length_replicate, firings] at hmany
    omega
  · intro hnot
    refine ⟨(es.map SocketEvent.received).sum, fun us => ?_⟩
    have hle := firings_le hnew (hnot us)
    have hcallbacks : ((us.map SocketEvent.callback).map SocketEvent.received).sum = 0 := by
      rw [List.sum_eq_zero_iff_forall_eq_nat]
      intro x hx
      obtain ⟨e, he, rfl⟩ := List.mem_map.mp hx
      obtain ⟨u, -, rfl⟩ := List.mem_map.mp he
      rfl
    rw [List.map_append, List.sum_append, hcallbacks] at hle
    simpa [ReadConn.unread, ReadConn.new] using hle

/-- The second callback finds a length field that the first one rejected, and a byte that it
does not read. -/
theorem not_progress_rejected :
    ¬ StepsMeet socketStep Progress (ReadConn.new minSessionID [])
      [.arrive 128 [100, 6, 200, 200, 1], .callback (Uninit.zero, Uninit.zero),
        .callback (Uninit.zero, Uninit.zero)] := by
  rintro ⟨-, -, hprogress, -⟩
  rcases hprogress (by decide) (by decide) with hless | hfinish | ⟨e, hclosed⟩
  · exact absurd hless (by decide)
  · cases hfinish
  · cases hclosed

end Yijian
