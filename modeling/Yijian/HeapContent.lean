import Yijian.RoundTrip

/-!
# The Content of the Fresh Block

The constructor of a buffer leaves the block it got from `malloc` as it is. Two buffers that
differ only in what their blocks held are read from the same connection, call by call. The
scan for the end of the length field looks one byte behind what has arrived, so what the
block held decides whether a header is recognised when exactly four bytes have arrived, and
when five have arrived the last of which announces another one.

## Relation to `Yijian.RoundTrip`

There the stream consists of frames that were encoded, and the blocks are part of the condition.
Here the stream is whatever the connection gives, malformed headers and failures included, and the
question is only whether two blocks can be told apart by it. The proof is a simulation of one call
by the other: `Alike` relates two readers that have the same members and whose blocks agree where
later calls look, in three shapes, for a header that is arriving, one that is recognised and one
that is evaluated. Where the header arrives in the bad way, two blocks that show it are given.

## Main results

* `Alike.turn`: where the header does not arrive so, a turn of the reader keeps two such
  buffers alike and makes the same request in both.
* `heapIrrelevant_iff`: what the block held never shows exactly if the header does not
  arrive so.
-/

namespace Yijian

variable {σ : Type}

/-! ### Two runs -/

/-- The buffer and the connection after `calls` calls of `socket_read`, whatever these
returned or threw. -/
def afterCalls (S : SslReader σ) (st : ReadState σ) : (calls : ℕ) → ReadState σ
  | 0 => st
  | calls + 1 => (socketRead S (afterCalls S st calls)).2

/-- The call that follows `calls` others on a fresh buffer. -/
def nextCall (S : SslReader σ) (s : σ) (u : Uninit) (calls : ℕ) :
    Except SystemError Bool × ReadState σ :=
  socketRead S (afterCalls S ⟨Buffer.new u, s, []⟩ calls)

/-- What two calls have in common if nothing but the content of the blocks differs. -/
structure SameOutcome (p p' : Except SystemError Bool × ReadState σ) : Prop where
  result : p'.1 = p.1
  requests : p'.2.requests = p.2.requests
  isParseMsgReaded : p'.2.buf.isParseMsgReaded = p.2.buf.isParseMsgReaded
  isParseFinish : p'.2.buf.isParseFinish = p.2.buf.isParseFinish
  isFinish : p'.2.buf.isFinish = p.2.buf.isFinish
  isLastBuf : p'.2.buf.isLastBuf = p.2.buf.isLastBuf
  sessionId : p'.2.buf.sessionId = p.2.buf.sessionId
  dataType : p'.2.buf.dataType = p.2.buf.dataType
  dataLength : p'.2.buf.dataLength = p.2.buf.dataLength
  remainDataLength : p'.2.buf.remainDataLength = p.2.buf.remainDataLength

/-- What the block held before shows in no call. -/
def HeapIrrelevant (S : SslReader σ) (s : σ) (u : Uninit) : Prop :=
  ∀ (heap heap' : Memory UInt8) (calls : ℕ),
    SameOutcome (nextCall S s { u with heap := heap } calls)
      (nextCall S s { u with heap := heap' } calls)

/-! ### How a header arrives -/

/-- The connection, and the bytes that have arrived on it, after `reads` requests for what
is missing of the five bytes of a header. -/
def headerArrival (S : SslReader σ) (s : σ) : (reads : ℕ) → σ × List UInt8
  | 0 => (s, [])
  | reads + 1 =>
      let (s, bytes) := headerArrival S s reads
      match S.sslRead s (5 - (bytes.length : ℤ)) with
      | (.stored more, s) => (s, bytes ++ more)
      | (.failed _, s) => (s, bytes)

/-- There are at most three header bytes, or all five and the last one ends the length
field. -/
def HeaderWhole (bytes : List UInt8) : Prop :=
  bytes.length ≤ 3 ∨ ∃ byte, bytes[4]? = some byte ∧ byte.toNat < 128

/-- So it is after every request. -/
def HeaderArrivesWhole (S : SslReader σ) (s : σ) : Prop :=
  ∀ reads, HeaderWhole (headerArrival S s reads).2

/-- One request for header bytes, without the buffer. -/
theorem headerArrival_succ (S : SslReader σ) (s : σ) (reads : ℕ) :
    headerArrival S s (reads + 1) =
      match S.sslRead (headerArrival S s reads).1
          (5 - ((headerArrival S s reads).2.length : ℤ)) with
      | (.stored more, s') => (s', (headerArrival S s reads).2 ++ more)
      | (.failed _, s') => (s', (headerArrival S s reads).2) := rfl

/-- No more than five bytes arrive. -/
theorem length_headerArrival_le (S : SslReader σ) (s : σ) (reads : ℕ) :
    (headerArrival S s reads).2.length ≤ 5 := by
  induction reads with
  | zero => exact Nat.zero_le 5
  | succ reads ih =>
      rw [headerArrival_succ]
      split
      · rename_i more s' hread
        have hle := (S.stored_le hread).2
        rw [List.length_append]
        omega
      · exact ih

/-! ### The header request -/

/-- A turn in front of the length reads the header and parses it. -/
theorem socketReadTurn_headerBuf (S : SslReader σ) (u : Uninit) (bytes : List UInt8) (ssl : σ)
    (reqs : List Request) :
    socketReadTurn S ⟨headerBuf u bytes, ssl, reqs⟩ =
      match readHeader S ⟨headerBuf u bytes, ssl, reqs⟩ with
      | (.error e, st) => (.error e, st)
      | (.ok (), st) => readParse st := by
  rw [socketReadTurn]
  refine (if_pos rfl).trans ((if_pos rfl).trans ?_)
  rcases readHeader S ⟨headerBuf u bytes, ssl, reqs⟩ with ⟨e | _, st⟩ <;> rfl

/-- A turn before the header is recognised, where no byte arrives. -/
theorem socketReadTurn_of_failed {S : SslReader σ} (u : Uninit) {bytes : List UInt8}
    (hlen : bytes.length ≤ 3) {ssl ssl' : σ} {error : SslError}
    (hread : S.sslRead ssl (5 - (bytes.length : ℤ)) = (.failed error, ssl'))
    (reqs : List Request) :
    socketReadTurn S ⟨headerBuf u bytes, ssl, reqs⟩ =
      ((readFailure error).map fun _ => false,
        ⟨headerBuf u bytes, ssl', reqs ++ [headerRequest u bytes]⟩) := by
  rw [socketReadTurn_headerBuf, readHeader_of_failed u (by omega) hread
    fun _ _ => lengthSeen_headerBuf_of_lt u (by omega)]
  cases readFailure error with
  | error e => rfl
  | ok readed => rfl

/-- A turn before the header is recognised, where some bytes arrive. -/
theorem socketReadTurn_of_stored {S : SslReader σ} (u : Uninit) {bytes more : List UInt8}
    (hlen : bytes.length ≤ 5) {ssl ssl' : σ}
    (hread : S.sslRead ssl (5 - (bytes.length : ℤ)) = (.stored more, ssl'))
    (reqs : List Request) :
    socketReadTurn S ⟨headerBuf u bytes, ssl, reqs⟩ =
      if lengthSeen (headerBuf u (bytes ++ more)) then
        readParse ⟨headerReadBuf u (bytes ++ more), ssl', reqs ++ [headerRequest u bytes]⟩
      else
        (.ok false, ⟨headerBuf u (bytes ++ more), ssl', reqs ++ [headerRequest u bytes]⟩) := by
  rw [socketReadTurn_headerBuf, readHeader_of_stored u hlen hread]
  simp only [headerScan]
  split
  · rfl
  · rw [readParse, if_neg (by exact Bool.false_ne_true)]

/-- A turn on a recognised header. -/
theorem socketReadTurn_of_isParseMsgReaded {S : SslReader σ} {st : ReadState σ}
    (hread : st.buf.isParseMsgReaded = true) (hparse : st.buf.isParseFinish = false) :
    socketReadTurn S st = readParse st := by
  rw [socketReadTurn, if_pos hparse, if_neg (by simp [hread])]

/-- A turn on an evaluated header. -/
theorem socketReadTurn_of_isParseFinish {S : SslReader σ} {st : ReadState σ}
    (hparse : st.buf.isParseFinish = true) :
    socketReadTurn S st =
      if st.buf.isFinish = false then
        match readRemain S st with
        | (.error e, st) => (.error e, st)
        | (.ok (), st) => (.ok false, st)
      else (.ok false, st) := by
  rw [socketReadTurn]
  exact if_neg (by simp [hparse])

/-! ### Two buffers that differ in the block -/

/-- Evaluating a header looks at its five bytes only. -/
theorem parseHeader_heap {b : Buffer} {heap : Memory UInt8}
    (h : ∀ i < 5, heap (b.headerPos + i) = b.heap (b.headerPos + i)) :
    parseHeader { b with heap := heap } =
      ((parseHeader b).1, { (parseHeader b).2 with heap := heap }) := by
  have hsession : parseSession { b with heap := heap } = { parseSession b with heap := heap } := by
    have h0 := h 0 (by omega)
    have h1 := h 1 (by omega)
    have h2 := h 2 (by omega)
    simp only [Nat.add_zero] at h0
    simp only [parseSession, Buffer.ntohs, sessionidLength_eq, h0, h1, h2]
    rfl
  have hdec : Buffer.decodingVarLength heap (b.headerPos + sessionidLength + msgTypeLength) =
      Buffer.decodingVarLength b.heap (b.headerPos + sessionidLength + msgTypeLength) := by
    have h3 := h 3 (by omega)
    have h4 := h 4 (by omega)
    simp only [sessionidLength_eq, msgTypeLength_eq, Buffer.decodingVarLength_eq,
      Nat.add_assoc, h3, h4]
  rw [parseHeader, parseHeader, hsession]
  simp only [show (parseSession b).headerPos = b.headerPos from rfl,
    show (parseSession b).heap = b.heap from rfl, hdec]
  rcases Buffer.decodingVarLength b.heap (b.headerPos + sessionidLength + msgTypeLength) with
    e | ⟨n, next⟩
  · rfl
  · simp only
    by_cases hover : overBufferSize (parseLengthField (parseSession b) n next) = true
    · rw [if_pos hover]
      exact if_pos hover
    · rw [if_neg hover]
      exact if_neg hover

/-- A request for data does not look at the block. -/
theorem readRemain_heap (S : SslReader σ) (b : Buffer) (heap : Memory UInt8) (ssl : σ)
    (reqs : List Request) :
    ∃ heap', readRemain S ⟨{ b with heap := heap }, ssl, reqs⟩ =
      ((readRemain S ⟨b, ssl, reqs⟩).1,
        ⟨{ (readRemain S ⟨b, ssl, reqs⟩).2.buf with heap := heap' },
          (readRemain S ⟨b, ssl, reqs⟩).2.ssl, (readRemain S ⟨b, ssl, reqs⟩).2.requests⟩) := by
  simp only [readRemain, socketReadAt]
  rcases S.sslRead ssl (toInt b.remainDataLength) with ⟨bytes | error, ssl'⟩
  · exact ⟨heap.store b.currentPos bytes, rfl⟩
  · refine ⟨heap, ?_⟩
    simp only
    cases readFailure error with
    | error e => rfl
    | ok readed => rfl

/-- Reading a body parses nothing. -/
theorem isParseFinish_readRemain (S : SslReader σ) (st : ReadState σ) :
    (readRemain S st).2.buf.isParseFinish = st.buf.isParseFinish := by
  simp only [readRemain, socketReadAt]
  rcases S.sslRead st.ssl (toInt st.buf.remainDataLength) with ⟨bytes | error, ssl'⟩
  · rfl
  · simp only
    cases readFailure error with
    | error e => rfl
    | ok readed => rfl

/-- Two readers of the same connection that differ in the block only, and there not in the
bytes that later calls look at. -/
inductive Alike (S : SslReader σ) (s : σ) : ReadState σ → ReadState σ → Prop
  | arriving (u : Uninit) (heap : Memory UInt8) (reads : ℕ) (reqs : List Request)
      (h : (headerArrival S s reads).2.length ≤ 3) :
      Alike S s ⟨headerBuf u (headerArrival S s reads).2, (headerArrival S s reads).1, reqs⟩
        ⟨headerBuf { u with heap := heap } (headerArrival S s reads).2,
          (headerArrival S s reads).1, reqs⟩
  | read (b : Buffer) (heap : Memory UInt8) (ssl : σ) (reqs : List Request)
      (hread : b.isParseMsgReaded = true) (hparse : b.isParseFinish = false)
      (h : ∀ i < 5, heap (b.headerPos + i) = b.heap (b.headerPos + i)) :
      Alike S s ⟨b, ssl, reqs⟩ ⟨{ b with heap := heap }, ssl, reqs⟩
  | parsed (b : Buffer) (heap : Memory UInt8) (ssl : σ) (reqs : List Request)
      (h : b.isParseFinish = true) :
      Alike S s ⟨b, ssl, reqs⟩ ⟨{ b with heap := heap }, ssl, reqs⟩

/-- Alike buffers are finished alike. -/
theorem Alike.isFinish {S : SslReader σ} {s : σ} {st st' : ReadState σ} (h : Alike S s st st') :
    st'.buf.isFinish = st.buf.isFinish := by
  cases h <;> rfl

/-- Evaluating a header leaves it unevaluated, with the block as it was, or evaluates it. -/
theorem isParseFinish_parseHeader (b : Buffer) :
    (parseHeader b).2.isParseFinish = true ∨ (parseHeader b).2 = parseSession b := by
  rw [parseHeader]
  rcases Buffer.decodingVarLength (parseSession b).heap
      ((parseSession b).headerPos + sessionidLength + msgTypeLength) with e | ⟨n, next⟩
  · exact Or.inr rfl
  · refine Or.inl ?_
    simp only
    split <;> rfl

/-- The evaluation of a recognised header keeps two readers alike. -/
theorem Alike.readParse {S : SslReader σ} {s : σ} {b : Buffer} {heap : Memory UInt8}
    (ssl : σ) (reqs : List Request) (hread : b.isParseMsgReaded = true)
    (hparse : b.isParseFinish = false)
    (h : ∀ i < 5, heap (b.headerPos + i) = b.heap (b.headerPos + i)) :
    (Yijian.readParse ⟨{ b with heap := heap }, ssl, reqs⟩).1 =
        (Yijian.readParse ⟨b, ssl, reqs⟩).1 ∧
      Alike S s (Yijian.readParse ⟨b, ssl, reqs⟩).2
        (Yijian.readParse ⟨{ b with heap := heap }, ssl, reqs⟩).2 := by
  have hnext : Alike S s ⟨(parseHeader b).2, ssl, reqs⟩
      ⟨{ (parseHeader b).2 with heap := heap }, ssl, reqs⟩ := by
    rcases isParseFinish_parseHeader b with hfin | hsame
    · exact .parsed _ heap ssl reqs hfin
    · rw [hsame]
      exact .read _ heap ssl reqs hread hparse h
  rw [Yijian.readParse, Yijian.readParse, if_pos hread, if_pos hread, parseHeader_heap h]
  revert hnext
  rcases parseHeader b with ⟨e | _, b'⟩
  · exact fun hnext => ⟨rfl, hnext⟩
  · exact fun hnext => ⟨rfl, hnext⟩

/-- A turn that reads on in a header does the same in both blocks: with what has arrived then, the
header is not recognised in either, or in both and from the bytes that were read. -/
theorem Alike.turn_arriving {S : SslReader σ} {s : σ} (hwhole : HeaderArrivesWhole S s)
    (u : Uninit) (heap : Memory UInt8) (reads : ℕ) (reqs : List Request)
    (hlen : (headerArrival S s reads).2.length ≤ 3) :
    let st : ReadState σ :=
      ⟨headerBuf u (headerArrival S s reads).2, (headerArrival S s reads).1, reqs⟩
    let st' : ReadState σ := ⟨headerBuf { u with heap := heap } (headerArrival S s reads).2,
      (headerArrival S s reads).1, reqs⟩
    (socketReadTurn S st').1 = (socketReadTurn S st).1 ∧
      Alike S s (socketReadTurn S st).2 (socketReadTurn S st').2 := by
  intro st st'
  have hnext := hwhole (reads + 1)
  have hsucc := headerArrival_succ S s reads
  have harriving (hlen' : (headerArrival S s (reads + 1)).2.length ≤ 3) :=
    Alike.arriving (S := S) (s := s) u heap (reads + 1)
      (reqs ++ [headerRequest u (headerArrival S s reads).2]) hlen'
  rcases hread : S.sslRead (headerArrival S s reads).1
      (5 - ((headerArrival S s reads).2.length : ℤ)) with ⟨more | error, ssl'⟩
  · rw [hread] at hsucc
    simp only at hsucc
    rw [hsucc] at hnext
    rw [socketReadTurn_of_stored u (by omega) hread,
      socketReadTurn_of_stored { u with heap := heap } (by omega) hread]
    rcases hnext with hthree | ⟨byte, hbyte, hlt⟩
    · have hseen := fun u => lengthSeen_headerBuf_of_lt u (Nat.lt_succ_of_le hthree)
      rw [if_neg (by rw [hseen]; exact Bool.false_ne_true),
        if_neg (by rw [hseen]; exact Bool.false_ne_true)]
      have halike := harriving (by rw [hsucc]; exact hthree)
      rw [hsucc] at halike
      exact ⟨rfl, halike⟩
    · have hle := length_headerArrival_le S s (reads + 1)
      obtain ⟨hfour, -⟩ := List.getElem?_eq_some_iff.mp hbyte
      rw [hsucc] at hle
      have hfive : ((headerArrival S s reads).2 ++ more).length = 5 := by
        simp only at hle hfour
        omega
      have hseen := fun u =>
        (lengthSeen_headerBuf_five u hfive hbyte).mpr (Or.inl hlt)
      rw [if_pos (hseen u), if_pos (hseen { u with heap := heap })]
      refine Alike.readParse (b := headerReadBuf u _) ssl' _ rfl rfl fun i hi => ?_
      change heap.store u.headerPos _ (u.headerPos + i) =
        u.heap.store u.headerPos _ (u.headerPos + i)
      rw [Memory.store_add _ _ (by omega), Memory.store_add _ _ (by omega)]
  · rw [hread] at hsucc
    simp only at hsucc
    rw [socketReadTurn_of_failed u hlen hread,
      socketReadTurn_of_failed { u with heap := heap } hlen hread]
    have halike := harriving (by rw [hsucc]; exact hlen)
    rw [hsucc] at halike
    exact ⟨rfl, halike⟩

/-- A turn in the body of a frame, or behind it, asks for bytes and looks at none. -/
theorem Alike.turn_parsed (S : SslReader σ) (s : σ) (b : Buffer) (heap : Memory UInt8) (ssl : σ)
    (reqs : List Request) (hparse : b.isParseFinish = true) :
    (socketReadTurn S ⟨{ b with heap := heap }, ssl, reqs⟩).1 =
        (socketReadTurn S ⟨b, ssl, reqs⟩).1 ∧
      Alike S s (socketReadTurn S ⟨b, ssl, reqs⟩).2
        (socketReadTurn S ⟨{ b with heap := heap }, ssl, reqs⟩).2 := by
  obtain ⟨heap', hremain⟩ := readRemain_heap S b heap ssl reqs
  have hfin : (readRemain S ⟨b, ssl, reqs⟩).2.buf.isParseFinish = true := by
    rw [isParseFinish_readRemain]
    exact hparse
  have halike := Alike.parsed (S := S) (s := s) _ heap' (readRemain S ⟨b, ssl, reqs⟩).2.ssl
    (readRemain S ⟨b, ssl, reqs⟩).2.requests hfin
  have hturn : socketReadTurn S ⟨{ b with heap := heap }, ssl, reqs⟩ = _ :=
    socketReadTurn_of_isParseFinish hparse
  rw [hturn, socketReadTurn_of_isParseFinish hparse]
  simp only
  split
  · rw [hremain]
    revert halike
    rcases readRemain S ⟨b, ssl, reqs⟩ with ⟨e | _, st⟩
    · exact fun halike => ⟨rfl, halike⟩
    · exact fun halike => ⟨rfl, halike⟩
  · exact ⟨rfl, .parsed b heap ssl reqs hparse⟩

/-- **A turn of the reader** does the same on two buffers that differ in the block only,
and keeps them so. -/
theorem Alike.turn {S : SslReader σ} {s : σ} (hwhole : HeaderArrivesWhole S s)
    {st st' : ReadState σ} (h : Alike S s st st') :
    (socketReadTurn S st').1 = (socketReadTurn S st).1 ∧
      Alike S s (socketReadTurn S st).2 (socketReadTurn S st').2 := by
  cases h with
  | arriving u heap reads reqs hlen => exact Alike.turn_arriving hwhole u heap reads reqs hlen
  | read b heap ssl reqs hread hparse hheap =>
      have hturn : socketReadTurn S ⟨{ b with heap := heap }, ssl, reqs⟩ =
          Yijian.readParse ⟨{ b with heap := heap }, ssl, reqs⟩ :=
        socketReadTurn_of_isParseMsgReaded hread hparse
      rw [hturn, socketReadTurn_of_isParseMsgReaded hread hparse]
      exact Alike.readParse ssl reqs hread hparse hheap
  | parsed b heap ssl reqs hparse => exact Alike.turn_parsed S s b heap ssl reqs hparse

/-- **A call** does the same, too. -/
theorem Alike.socketRead {S : SslReader σ} {s : σ} (hwhole : HeaderArrivesWhole S s)
    {st st' : ReadState σ} (h : Alike S s st st') :
    (Yijian.socketRead S st').1 = (Yijian.socketRead S st).1 ∧
      Alike S s (Yijian.socketRead S st).2 (Yijian.socketRead S st').2 := by
  have hloop : ∀ fuel {st st' : ReadState σ}, Alike S s st st' →
      (socketReadLoop S fuel st').1 = (socketReadLoop S fuel st).1 ∧
        Alike S s (socketReadLoop S fuel st).2 (socketReadLoop S fuel st').2 := by
    intro fuel
    induction fuel with
    | zero =>
        intro st st' h
        exact ⟨by rw [socketReadLoop, socketReadLoop, h.isFinish], h⟩
    | succ fuel ih =>
        intro st st' h
        obtain ⟨hresult, hnext⟩ := h.turn hwhole
        rw [socketReadLoop, socketReadLoop]
        rcases hturn : socketReadTurn S st with ⟨e | isContine, st₁⟩ <;>
          rcases hturn' : socketReadTurn S st' with ⟨e' | isContine', st₁'⟩ <;>
          rw [hturn, hturn'] at hresult hnext
        · exact ⟨hresult, hnext⟩
        · cases hresult
        · cases hresult
        · obtain rfl : isContine' = isContine := Except.ok.inj hresult
          have hfinish : st₁'.buf.isFinish = st₁.buf.isFinish := hnext.isFinish
          simp only [hfinish]
          split
          · exact ih hnext
          · exact ⟨rfl, hnext⟩
  exact hloop 2 h

/-- Two readers that are alike do the same in every call. -/
theorem Alike.sameOutcome {S : SslReader σ} {s : σ} (hwhole : HeaderArrivesWhole S s)
    {st st' : ReadState σ} (h : Alike S s st st') :
    SameOutcome (Yijian.socketRead S st) (Yijian.socketRead S st') := by
  obtain ⟨hresult, hnext⟩ := h.socketRead hwhole
  revert hresult hnext
  generalize Yijian.socketRead S st = p
  generalize Yijian.socketRead S st' = p'
  intro hresult hnext
  obtain ⟨r, st₁⟩ := p
  obtain ⟨r', st₁'⟩ := p'
  cases hnext <;> exact ⟨hresult, rfl, rfl, rfl, rfl, rfl, rfl, rfl, rfl, rfl⟩

/-- Calls keep buffers alike, if the header arrives whole. -/
theorem Alike.afterCalls {S : SslReader σ} {s : σ} (hwhole : HeaderArrivesWhole S s)
    {st st' : ReadState σ} (h : Alike S s st st') (calls : ℕ) :
    Alike S s (Yijian.afterCalls S st calls) (Yijian.afterCalls S st' calls) := by
  induction calls with
  | zero => exact h
  | succ calls ih => exact (ih.socketRead hwhole).2

/-- New buffers are alike, whatever is in their blocks. -/
theorem Alike.new (S : SslReader σ) (s : σ) (u : Uninit) (heap : Memory UInt8) :
    Alike S s ⟨Buffer.new u, s, []⟩ ⟨Buffer.new { u with heap := heap }, s, []⟩ := by
  have h := Alike.arriving (S := S) (s := s) u heap 0 [] (Nat.zero_le 3)
  rwa [headerArrival, headerBuf_nil, headerBuf_nil] at h

/-! ### Headers whose reading depends on the block -/

/-- While at most three header bytes arrive, a call makes one request. -/
theorem afterCalls_of_le_three {S : SslReader σ} {s : σ} (u : Uninit) {calls : ℕ}
    (h : (headerArrival S s calls).2.length ≤ 3) :
    ∃ reqs, afterCalls S ⟨Buffer.new u, s, []⟩ calls =
      ⟨headerBuf u (headerArrival S s calls).2, (headerArrival S s calls).1, reqs⟩ := by
  induction calls with
  | zero => exact ⟨[], by rw [headerArrival, headerBuf_nil, afterCalls]⟩
  | succ calls ih =>
      have hsucc := headerArrival_succ S s calls
      rcases hread : S.sslRead (headerArrival S s calls).1
          (5 - ((headerArrival S s calls).2.length : ℤ)) with ⟨more | error, ssl'⟩ <;>
        rw [hread] at hsucc <;> simp only at hsucc <;> rw [hsucc] at h ⊢
      · have hlen : (headerArrival S s calls).2.length ≤ 3 := by
          simp only [List.length_append] at h
          omega
        obtain ⟨reqs, hcalls⟩ := ih hlen
        have hseen := lengthSeen_headerBuf_of_lt u (Nat.lt_succ_of_le h)
        have hturn := socketReadTurn_of_stored u (by omega) hread reqs
        rw [if_neg (by rw [hseen]; exact Bool.false_ne_true)] at hturn
        rw [afterCalls, hcalls, socketRead, socketReadLoop, hturn]
        exact ⟨_, rfl⟩
      · obtain ⟨reqs, hcalls⟩ := ih h
        have hturn := socketReadTurn_of_failed u h hread reqs
        rw [afterCalls, hcalls, socketRead, socketReadLoop, hturn]
        cases readFailure error with
        | error e => exact ⟨_, rfl⟩
        | ok readed => exact ⟨_, rfl⟩

/-- Reading a body leaves the length as it is. -/
theorem isParseMsgReaded_readRemain (S : SslReader σ) (st : ReadState σ) :
    (readRemain S st).2.buf.isParseMsgReaded = st.buf.isParseMsgReaded := by
  simp only [readRemain, socketReadAt]
  rcases S.sslRead st.ssl (toInt st.buf.remainDataLength) with ⟨bytes | error, ssl'⟩
  · rfl
  · simp only
    cases readFailure error with
    | error e => rfl
    | ok readed => rfl

/-- Parsing leaves the length as it is. -/
theorem isParseMsgReaded_readParse (st : ReadState σ) :
    (readParse st).2.buf.isParseMsgReaded = st.buf.isParseMsgReaded := by
  have hheader : (parseHeader st.buf).2.isParseMsgReaded = st.buf.isParseMsgReaded := by
    rw [parseHeader]
    rcases Buffer.decodingVarLength (parseSession st.buf).heap
        ((parseSession st.buf).headerPos + sessionidLength + msgTypeLength) with e | ⟨n, next⟩
    · rfl
    · simp only
      split <;> rfl
  rw [readParse]
  split
  · revert hheader
    rcases parseHeader st.buf with ⟨e | _, b⟩
    · exact id
    · exact id
  · rfl

/-- A recognised header stays recognised. -/
theorem isParseMsgReaded_turn (S : SslReader σ) {st : ReadState σ}
    (h : st.buf.isParseMsgReaded = true) :
    (socketReadTurn S st).2.buf.isParseMsgReaded = true := by
  cases hparse : st.buf.isParseFinish with
  | false =>
      rw [socketReadTurn_of_isParseMsgReaded h hparse, isParseMsgReaded_readParse, h]
  | true =>
      have hremain := isParseMsgReaded_readRemain S st
      rw [socketReadTurn_of_isParseFinish hparse]
      split
      · rw [h] at hremain
        revert hremain
        rcases readRemain S st with ⟨e | _, st'⟩
        · exact id
        · exact id
      · exact h

/-- The call that brings header bytes recognises the header if the scan does. -/
theorem isParseMsgReaded_socketRead {S : SslReader σ} (u : Uninit) {bytes more : List UInt8}
    (hlen : bytes.length ≤ 5) {ssl ssl' : σ}
    (hread : S.sslRead ssl (5 - (bytes.length : ℤ)) = (.stored more, ssl'))
    (reqs : List Request) :
    (socketRead S ⟨headerBuf u bytes, ssl, reqs⟩).2.buf.isParseMsgReaded =
      lengthSeen (headerBuf u (bytes ++ more)) := by
  have hturn := socketReadTurn_of_stored u hlen hread reqs
  cases hseen : lengthSeen (headerBuf u (bytes ++ more)) with
  | false =>
      rw [hseen, if_neg Bool.false_ne_true] at hturn
      rw [socketRead, socketReadLoop, hturn]
      rfl
  | true =>
      rw [hseen, if_pos rfl] at hturn
      have hfirst := isParseMsgReaded_readParse
        ⟨headerReadBuf u (bytes ++ more), ssl', reqs ++ [headerRequest u bytes]⟩
      rw [← hturn] at hfirst
      rw [socketRead, socketReadLoop]
      rcases hcall : socketReadTurn S ⟨headerBuf u bytes, ssl, reqs⟩ with ⟨e | isContine, st₁⟩ <;>
        rw [hcall] at hfirst
      · exact hfirst
      · simp only
        split
        · have hsecond := isParseMsgReaded_turn S hfirst
          rw [socketReadLoop]
          rcases hcall' : socketReadTurn S st₁ with ⟨e | isContine', st₂⟩ <;>
            rw [hcall'] at hsecond
          · exact hsecond
          · simp only [socketReadLoop]
            split <;> exact hsecond
        · exact hfirst

/-- Otherwise the scan sees the end of the length field in a block of zeros, and does not
see it in a block of ones. -/
theorem lengthSeen_of_not_headerWhole (u : Uninit) {bytes : List UInt8}
    (hbad : ¬ HeaderWhole bytes) (hle : bytes.length ≤ 5) :
    lengthSeen (headerBuf { u with heap := fun _ => 0 } bytes) = true ∧
      lengthSeen (headerBuf { u with heap := fun _ => 255 } bytes) = false := by
  obtain ⟨hthree, hlast⟩ := not_or.mp hbad
  have hzero : (0 : UInt8).toNat < 128 := by decide
  have hones : ¬ (255 : UInt8).toNat < 128 := by decide
  rcases Nat.lt_or_ge bytes.length 5 with hlt | hge
  · have hfour : bytes.length = 4 := by omega
    refine ⟨(lengthSeen_headerBuf_four _ hfour).mpr hzero, ?_⟩
    rw [Bool.eq_false_iff, Ne, lengthSeen_headerBuf_four _ hfour]
    exact hones
  · have hfive : bytes.length = 5 := by omega
    have hbyte : bytes[4]? = some bytes[4] := List.getElem?_eq_getElem (by omega)
    refine ⟨(lengthSeen_headerBuf_five _ hfive hbyte).mpr (Or.inr hzero), ?_⟩
    rw [Bool.eq_false_iff, Ne, lengthSeen_headerBuf_five _ hfive hbyte]
    rintro (hlow | hlow)
    · exact hlast ⟨_, hbyte, hlow⟩
    · exact hones hlow

/-- If the block never shows, a request after which the header has arrived as it should is
followed by another one. -/
theorem HeapIrrelevant.headerWhole_succ {S : SslReader σ} {s : σ} {u : Uninit}
    (h : HeapIrrelevant S s u) {reads : ℕ} (hwhole : HeaderWhole (headerArrival S s reads).2) :
    HeaderWhole (headerArrival S s (reads + 1)).2 := by
  have hsucc := headerArrival_succ S s reads
  have hle := length_headerArrival_le S s (reads + 1)
  rcases hread : S.sslRead (headerArrival S s reads).1
      (5 - ((headerArrival S s reads).2.length : ℤ)) with ⟨more | error, ssl'⟩ <;>
    rw [hread] at hsucc <;> simp only at hsucc
  · rcases hwhole with hthree | ⟨byte, hbyte, -⟩
    · by_contra hbad
      obtain ⟨reqs, hcalls⟩ := afterCalls_of_le_three { u with heap := fun _ => 0 } hthree
      obtain ⟨reqs', hcalls'⟩ := afterCalls_of_le_three { u with heap := fun _ => 255 } hthree
      have hflag := (h (fun _ => 0) (fun _ => 255) reads).isParseMsgReaded
      rw [nextCall, nextCall, hcalls, hcalls',
        isParseMsgReaded_socketRead _ (by omega) hread,
        isParseMsgReaded_socketRead _ (by omega) hread] at hflag
      rw [hsucc] at hbad hle
      obtain ⟨hzeros, hones⟩ := lengthSeen_of_not_headerWhole u hbad hle
      rw [hzeros, hones] at hflag
      cases hflag
    · -- nothing is missing, and a call that stores no byte fails
      obtain ⟨hfour, -⟩ := List.getElem?_eq_some_iff.mp hbyte
      obtain ⟨hpos, hmore⟩ := S.stored_le hread
      omega
  · rw [hsucc]
    exact hwhole

/-- **What the block held shows** in no call exactly if the header arrives without a stop
behind its fourth byte, and without a fifth byte that announces another one. -/
theorem heapIrrelevant_iff (S : SslReader σ) (s : σ) (u : Uninit) :
    HeapIrrelevant S s u ↔ HeaderArrivesWhole S s := by
  constructor
  · intro hirrelevant reads
    induction reads with
    | zero => exact Or.inl (Nat.zero_le 3)
    | succ reads ih => exact hirrelevant.headerWhole_succ ih
  · intro hwhole heap heap' calls
    have halike := (Alike.new S s { u with heap := heap } heap').afterCalls hwhole calls
    exact halike.sameOutcome hwhole

/-- A segment ends behind the fourth byte of a frame with one byte of data: the byte behind
it in the block decides whether the header is recognised. -/
theorem not_heapIrrelevant_four :
    ¬ HeapIrrelevant segmentReader [[128, 100, 3, 1], [7]] Uninit.zero := by
  intro h
  have hflag := (h (fun _ => 0) (fun _ => 255) 0).isParseMsgReaded
  exact absurd hflag (by decide)

end Yijian
