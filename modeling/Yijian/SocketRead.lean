import Yijian.Buffer

/-!
# Reading a Frame from a Socket

`buffer::socket_read(SSL*)` is resumable: each call asks the connection for what is
missing of the header, or of the data, and returns whether the frame is complete. The
header is asked for in one request of five bytes, although a header has four or five; the
bytes of the data that came with it are subtracted from what remains to be read.

`SSL_read` is code outside the repository. `SslReader` is what the reader relies on: a
call stores some of the received bytes at the address it is given, at least one and at
most as many as it was asked for, or fails.

Every call of `SSL_read` is recorded in `ReadState.requests`.

## Convention

The arithmetic is that of the source. What remains to be read is a `size_t` from which the code
subtracts what has been read already, also where that is more (`subWrap`), and which it hands to
`SSL_read` as an `int` (`toInt`), which is negative from `2 ^ 31` on. A request is the address and
the count of one call, and is in the block if every byte it may store is. That is a property of the
request and not of what was received, so a peer that sends little is no excuse. The session number,
the type and the length are read from the block, where a byte that has not arrived is whatever the
block held. The loop of the source is run on fuel, and is shown not to run out of it.

## Main results

* `Phase`: the states a buffer can be in between two calls, whatever was received.
* `socketRead_spec`: a call keeps the buffer in one of these states, and every request it
  makes stays inside the block unless the header that was parsed before the call declares
  a frame that is longer than the block (`Overlong`).
* `socketRead_overlong`: on an overlong buffer the call asks for bytes beyond the block.
-/

namespace Yijian

/-! ### The receiving half of a connection -/

/-- The values of `SSL_get_error` that the reader and the writer distinguish; a failed
system call leaves its `errno`. -/
inductive SslError
  | zeroReturn
  | wantRead
  | wantWrite
  | wantConnect
  | wantAccept
  | wantX509Lookup
  | syscall (errno : ℤ)
  | other (error : ℤ)
deriving DecidableEq, Repr

/-- The result of a call of `SSL_read`: the bytes it stored, or the error that
`SSL_get_error` reports after it. -/
inductive SslRead
  | stored (bytes : List UInt8)
  | failed (error : SslError)
deriving DecidableEq, Repr

/-- A connection as the reader sees it: `sslRead s n` is `SSL_read(ssl, pos, n)` in the
connection state `s`. -/
structure SslReader (σ : Type) where
  sslRead : σ → ℤ → SslRead × σ
  /-- A successful call stores between one byte and the requested number. -/
  stored_le : ∀ {s : σ} {n : ℤ} {bytes : List UInt8} {s' : σ},
    sslRead s n = (.stored bytes, s') → 0 < bytes.length ∧ (bytes.length : ℤ) ≤ n

/-- The conversion of a `std::size_t` to the `int` parameter of `SSL_read`. -/
def toInt (n : ℕ) : ℤ := (n : ℤ).bmod (2 ^ 32)

/-- One call of `SSL_read`: the block of the buffer, and the range asked for. -/
structure Request where
  headerPos : ℕ
  pos : ℕ
  count : ℤ
deriving DecidableEq, Repr

/-- The range lies inside the block that the constructor allocated. -/
def Request.InBlock (r : Request) : Prop :=
  r.headerPos ≤ r.pos ∧ (r.pos : ℤ) + r.count ≤ r.headerPos + 1024

instance (r : Request) : Decidable r.InBlock :=
  inferInstanceAs (Decidable (_ ∧ _))

/-- A buffer and the connection it is read from. -/
structure ReadState (σ : Type) where
  buf : Buffer
  ssl : σ
  requests : List Request

variable {σ : Type}

/-- The failing branch of `buffer::socket_read(SSL*, char*, size_t)`: what it throws, or
zero bytes while the handshake is not over. -/
def readFailure : SslError → Except SystemError ℕ
  | .zeroReturn => .error ⟨20005, "connection has been closed"⟩
  | .wantRead => .error ⟨20012, "read later"⟩
  | .wantConnect => .ok 0
  | .wantAccept => .ok 0
  | .wantX509Lookup => .error ⟨20006, "SSL_ERROR_WANT_X509_LOOKUP"⟩
  | .syscall _ => .error ⟨20007, "SSL_ERROR_SYSCALL"⟩
  | .wantWrite => .error ⟨20008, "unknow error"⟩
  | .other _ => .error ⟨20008, "unknow error"⟩

/-- `buffer::socket_read(SSL*, char*, size_t)`. -/
def socketReadAt (S : SslReader σ) (st : ReadState σ) (pos count : ℕ) :
    Except SystemError ℕ × ReadState σ :=
  let requests := st.requests ++ [⟨st.buf.headerPos, pos, toInt count⟩]
  match S.sslRead st.ssl (toInt count) with
  | (.stored bytes, ssl) =>
      (.ok bytes.length,
        { buf := { st.buf with heap := st.buf.heap.store pos bytes }
          ssl := ssl
          requests := requests })
  | (.failed error, ssl) =>
      (readFailure error, { st with ssl := ssl, requests := requests })

/-! ### `buffer::socket_read(SSL*)` -/

/-- Subtraction of unsigned integers of `w` bits. -/
def subWrap (w : ℕ) (a b : ℤ) : ℕ := ((a - b) % 2 ^ w).toNat

/-- The scan for the last byte of the length field. The first byte it looks at is the one
after the first length byte. -/
def lengthSeen (b : Buffer) : Bool :=
  let loopCount : ℤ := (b.currentPos : ℤ) - b.headerPos - sessionidLength - msgTypeLength
  (List.range loopCount.toNat).any fun i =>
    b.heap (b.headerPos + sessionidLength + varLength + i) >>> 7 == 0

/-- The flag that the scan sets. -/
def headerScan (b : Buffer) : Buffer :=
  if lengthSeen b then { b with isParseMsgReaded := true } else b

/-- The header request and the bookkeeping after it. -/
def readHeader (S : SslReader σ) (st : ReadState σ) :
    Except SystemError Unit × ReadState σ :=
  match socketReadAt S st st.buf.currentPos st.buf.parseLength with
  | (.error e, st) => (.error e, st)
  | (.ok readed, st) =>
      let b := { st.buf with
        currentPos := st.buf.currentPos + readed
        parseLength := subWrap 8 st.buf.parseLength readed }
      (.ok (), { st with buf := headerScan b })

/-- The session id, the last flag and the type byte of a header that was read. -/
def parseSession (b : Buffer) : Buffer :=
  let sessionid := Buffer.ntohs b.heap b.headerPos
  { b with
    isLastBuf := sessionid ≥ bufferLastFlag
    sessionId := if sessionid ≥ bufferLastFlag then sessionid - bufferLastFlag else sessionid
    dataType := b.heap (b.headerPos + sessionidLength) }

/-- The members that an accepted length field sets: `n` bytes of data from `next` on. -/
def parseLengthField (b : Buffer) (n next : ℕ) : Buffer :=
  { b with
    dataLength := n
    dataEncodeLength := next - b.dataPos
    dataPos := next
    remainDataLength := subWrap 64 n ((b.currentPos : ℤ) - next)
    isParseFinish := true }

/-- The comparison of the remaining length with the size of the block. -/
def overBufferSize (b : Buffer) : Bool :=
  (b.remainDataLength + paddingLength) % 2 ^ 64 > b.bufferType.size

/-- The evaluation of a header that was read. The flag `isParseFinish_` is set before the
length is compared with the size of the block. -/
def parseHeader (b : Buffer) : Except SystemError Unit × Buffer :=
  let b := parseSession b
  match Buffer.decodingVarLength b.heap (b.headerPos + sessionidLength + msgTypeLength) with
  | .error e => (.error e, b)
  | .ok (n, next) =>
      let b := parseLengthField b n next
      if overBufferSize b then (.error ⟨20000, "transfer data over buffer size"⟩, b)
      else (.ok (), b)

/-- The request for the remaining data and the bookkeeping after it. -/
def readRemain (S : SslReader σ) (st : ReadState σ) :
    Except SystemError Unit × ReadState σ :=
  match socketReadAt S st st.buf.currentPos st.buf.remainDataLength with
  | (.error e, st) => (.error e, st)
  | (.ok readed, st) =>
      let b := { st.buf with
        currentPos := st.buf.currentPos + readed
        endPos := st.buf.currentPos + readed
        remainDataLength := subWrap 64 st.buf.remainDataLength readed }
      (.ok (), { st with buf := { b with isFinish := b.remainDataLength == 0 } })

/-- The rest of a turn once the header has been asked for. -/
def readParse (st : ReadState σ) : Except SystemError Bool × ReadState σ :=
  if st.buf.isParseMsgReaded then
    match parseHeader st.buf with
    | (.error e, b) => (.error e, { st with buf := b })
    | (.ok (), b) => (.ok true, { st with buf := b })
  else
    (.ok false, st)

/-- One turn of the loop of `buffer::socket_read(SSL*)`, with the value it leaves in
`isContine`. -/
def socketReadTurn (S : SslReader σ) (st : ReadState σ) :
    Except SystemError Bool × ReadState σ :=
  if st.buf.isParseFinish = false then
    if st.buf.isParseMsgReaded = false then
      match readHeader S st with
      | (.error e, st) => (.error e, st)
      | (.ok (), st) => readParse st
    else
      readParse st
  else if st.buf.isFinish = false then
    match readRemain S st with
    | (.error e, st) => (.error e, st)
    | (.ok (), st) => (.ok false, st)
  else
    (.ok false, st)

/-- The loop of `buffer::socket_read(SSL*)`. Only the turn that parses the header asks for
another one, so two turns are all the fuel it can use (`socketReadLoop_eq`). -/
def socketReadLoop (S : SslReader σ) :
    (fuel : ℕ) → ReadState σ → Except SystemError Bool × ReadState σ
  | 0, st => (.ok st.buf.isFinish, st)
  | fuel + 1, st =>
      match socketReadTurn S st with
      | (.error e, st) => (.error e, st)
      | (.ok isContine, st) =>
          if isContine && !st.buf.isFinish then socketReadLoop S fuel st
          else (.ok st.buf.isFinish, st)

/-- `buffer::socket_read(SSL*)`. -/
def socketRead (S : SslReader σ) (st : ReadState σ) :
    Except SystemError Bool × ReadState σ :=
  socketReadLoop S 2 st

/-! ### The states between two calls -/

/-- The header is not recognised yet: `k` of the five bytes asked for have arrived. -/
structure HeaderPhase (b : Buffer) (k : ℕ) : Prop where
  le_five : k ≤ 5
  isParseMsgReaded : b.isParseMsgReaded = false
  isParseFinish : b.isParseFinish = false
  isFinish : b.isFinish = false
  currentPos : b.currentPos = b.headerPos + k
  parseLength : b.parseLength = 5 - k
  dataPos : b.dataPos = b.headerPos
  bufferType : b.bufferType = .message

/-- The header is recognised and not evaluated, or its length field was rejected. -/
structure HeaderRead (b : Buffer) : Prop where
  isParseMsgReaded : b.isParseMsgReaded = true
  isParseFinish : b.isParseFinish = false
  isFinish : b.isFinish = false
  le_currentPos : b.headerPos + 4 ≤ b.currentPos
  currentPos_le : b.currentPos ≤ b.headerPos + 5
  dataPos : b.dataPos = b.headerPos
  bufferType : b.bufferType = .message

/-- The header is evaluated and data are missing. The cursor and the remaining length
together reach the end of the declared frame, unless a frame without data was read one
byte too far and the remaining length has wrapped below zero. -/
structure BodyPhase (b : Buffer) : Prop where
  isParseFinish : b.isParseFinish = true
  isFinish : b.isFinish = false
  le_currentPos : b.headerPos + 4 ≤ b.currentPos
  dataLength_lt : b.dataLength < 16384
  dataPos_le : b.dataPos ≤ b.headerPos + 5
  cursor : b.currentPos + b.remainDataLength = b.dataPos + b.dataLength ∨
    b.remainDataLength = 2 ^ 64 - 1 ∧ b.dataLength = 0 ∧ b.currentPos = b.dataPos + 1

/-- The states of a buffer in between two calls of `socket_read`. -/
inductive Phase (b : Buffer) : Prop
  | header (k : ℕ) (h : HeaderPhase b k)
  | read (h : HeaderRead b)
  | body (h : BodyPhase b)
  | finished (hparse : b.isParseFinish = true) (h : b.isFinish = true)

/-- The evaluated header declares a frame that is longer than the block, and data are
missing. -/
def Overlong (b : Buffer) : Prop :=
  b.isParseFinish = true ∧ b.isFinish = false ∧
    b.headerPos + 1024 < b.dataPos + b.dataLength

instance (b : Buffer) : Decidable (Overlong b) :=
  inferInstanceAs (Decidable (_ ∧ _ ∧ _))

/-- A fresh buffer has received nothing. -/
theorem headerPhase_new (u : Uninit) : HeaderPhase (Buffer.new u) 0 where
  le_five := Nat.zero_le 5
  isParseMsgReaded := rfl
  isParseFinish := rfl
  isFinish := rfl
  currentPos := rfl
  parseLength := rfl
  dataPos := rfl
  bufferType := rfl

/-- A header that is not recognised yet declares nothing. -/
theorem HeaderPhase.not_overlong {b : Buffer} {k : ℕ} (h : HeaderPhase b k) :
    ¬ Overlong b := by
  rintro ⟨hfin, -, -⟩
  rw [h.isParseFinish] at hfin
  cases hfin

/-- A header that is not evaluated declares nothing. -/
theorem HeaderRead.not_overlong {b : Buffer} (h : HeaderRead b) : ¬ Overlong b := by
  rintro ⟨hfin, -, -⟩
  rw [h.isParseFinish] at hfin
  cases hfin

/-! ### One call of `SSL_read` -/

/-- A call that returns has stored as many bytes as it says, none of them behind the
requested range. -/
theorem socketReadAt_ok {S : SslReader σ} {st st' : ReadState σ} {pos count readed : ℕ}
    (h : socketReadAt S st pos count = (.ok readed, st')) :
    ∃ bytes : List UInt8, bytes.length = readed ∧
      (readed = 0 ∨ (readed : ℤ) ≤ toInt count) ∧
      st'.buf = { st.buf with heap := st.buf.heap.store pos bytes } ∧
      st'.requests = st.requests ++ [⟨st.buf.headerPos, pos, toInt count⟩] := by
  simp only [socketReadAt] at h
  split at h
  · rename_i bytes ssl hread
    obtain ⟨rfl, rfl⟩ := by simpa only [Prod.mk.injEq, Except.ok.injEq] using h
    exact ⟨bytes, rfl, Or.inr (S.stored_le hread).2, rfl, rfl⟩
  · rename_i error ssl hread
    obtain ⟨hfail, rfl⟩ := by simpa only [Prod.mk.injEq] using h
    have hzero : readed = 0 := by
      cases error <;> simp [readFailure] at hfail <;> exact hfail.symm
    exact ⟨[], hzero.symm, Or.inl hzero, by simp, rfl⟩

/-- A call that throws has stored nothing. -/
theorem socketReadAt_error {S : SslReader σ} {st st' : ReadState σ} {pos count : ℕ}
    {e : SystemError} (h : socketReadAt S st pos count = (.error e, st')) :
    st'.buf = st.buf ∧
      st'.requests = st.requests ++ [⟨st.buf.headerPos, pos, toInt count⟩] := by
  simp only [socketReadAt] at h
  split at h
  · simp at h
  · obtain ⟨-, rfl⟩ := by simpa only [Prod.mk.injEq] using h
    exact ⟨rfl, rfl⟩

/-- A request is one call of `SSL_read`. -/
theorem socketReadAt_ssl (S : SslReader σ) (st : ReadState σ) (pos count : ℕ) :
    (socketReadAt S st pos count).2.ssl = (S.sslRead st.ssl (toInt count)).2 := by
  rw [socketReadAt]
  rcases S.sslRead st.ssl (toInt count) with ⟨bytes | error, ssl⟩ <;> rfl

/-- A small number is the same as an `int`. -/
theorem toInt_of_lt {n : ℕ} (h : n < 2 ^ 31) : toInt n = n :=
  Int.bmod_eq_of_le (by omega) (by omega)

/-- The wrapped length is passed to `SSL_read` as `-1`. -/
theorem toInt_wrapped : toInt (2 ^ 64 - 1) = -1 := by
  rfl

/-- A subtraction that does not wrap. -/
theorem subWrap_of_le {w : ℕ} {a b : ℤ} (hba : b ≤ a) (h : a - b < 2 ^ w) :
    (subWrap w a b : ℤ) = a - b := by
  have hnonneg : 0 ≤ a - b := Int.sub_nonneg_of_le hba
  rw [subWrap, Int.emod_eq_of_lt hnonneg h, Int.toNat_of_nonneg hnonneg]

/-- A subtraction that wraps once. -/
theorem subWrap_of_lt {w : ℕ} {a b : ℤ} (hab : a < b) (h : b - a ≤ 2 ^ w) :
    (subWrap w a b : ℤ) = a - b + 2 ^ w := by
  have hmod : (a - b) % 2 ^ w = a - b + 2 ^ w := by
    rw [← Int.add_emod_right, Int.emod_eq_of_lt (by omega) (by omega)]
  rw [subWrap, hmod, Int.toNat_of_nonneg (by omega)]

/-! ### The header -/

/-- The scan recognises nothing before the first length byte has arrived. -/
theorem le_currentPos_of_lengthSeen {b : Buffer} (h : lengthSeen b = true) :
    b.headerPos + 4 ≤ b.currentPos := by
  by_contra hlt
  simp only [lengthSeen, sessionidLength_eq, msgTypeLength_eq] at h
  rw [show ((b.currentPos : ℤ) - b.headerPos - (2 : ℕ) - (1 : ℕ)).toNat = 0 by omega] at h
  simp at h

/-- The header request asks for what is missing of five bytes. -/
theorem readHeader_spec {S : SslReader σ} {st : ReadState σ} {k : ℕ}
    (h : HeaderPhase st.buf k) :
    (readHeader S st).2.requests =
        st.requests ++ [⟨st.buf.headerPos, st.buf.headerPos + k, 5 - k⟩] ∧
      (readHeader S st).2.buf.headerPos = st.buf.headerPos ∧
      ((∃ k', HeaderPhase (readHeader S st).2.buf k') ∨ HeaderRead (readHeader S st).2.buf) := by
  have hk := h.le_five
  have hcount : toInt st.buf.parseLength = 5 - (k : ℤ) := by
    rw [h.parseLength, toInt_of_lt (by omega)]
    omega
  rw [readHeader]
  cases hread : socketReadAt S st st.buf.currentPos st.buf.parseLength with
  | mk r st' =>
      cases r with
      | error e =>
          obtain ⟨hbuf, hreq⟩ := socketReadAt_error hread
          simp only [hbuf, hreq, hcount, h.currentPos, true_and]
          exact Or.inl ⟨k, h⟩
      | ok readed =>
          obtain ⟨bytes, hlen, hle, hbuf, hreq⟩ := socketReadAt_ok hread
          have hk' : k + readed ≤ 5 := by omega
          have hparse : subWrap 8 st.buf.parseLength readed = 5 - (k + readed) := by
            have hsub := subWrap_of_le (w := 8) (a := st.buf.parseLength) (b := readed)
              (by rw [h.parseLength]; omega) (by rw [h.parseLength]; omega)
            rw [h.parseLength] at hsub ⊢
            omega
          simp only [hbuf, hreq, hcount, h.currentPos, true_and]
          rw [headerScan]
          split
          · rename_i hseen
            have hge := le_currentPos_of_lengthSeen hseen
            simp only at hge
            exact ⟨rfl, Or.inr ⟨rfl, h.isParseFinish, h.isFinish, hge, by simp only; omega,
              h.dataPos, h.bufferType⟩⟩
          · exact ⟨rfl, Or.inl ⟨k + readed, hk', h.isParseMsgReaded, h.isParseFinish,
              h.isFinish, Nat.add_assoc _ _ _, hparse, h.dataPos, h.bufferType⟩⟩

/-- What an accepted length field leaves to be read. -/
theorem bodyPhase_parseLengthField {b : Buffer} (h : HeaderRead b) {n next : ℕ}
    (hn : n < 16384) (hnext : next = b.headerPos + 4 ∧ n < 128 ∨ next = b.headerPos + 5) :
    BodyPhase (parseLengthField (parseSession b) n next) := by
  have hle := h.le_currentPos
  have hge := h.currentPos_le
  have hcursor : b.currentPos + subWrap 64 n ((b.currentPos : ℤ) - next) = next + n ∨
      subWrap 64 n ((b.currentPos : ℤ) - next) = 2 ^ 64 - 1 ∧ n = 0 ∧
        b.currentPos = next + 1 := by
    rcases le_or_gt ((b.currentPos : ℤ) - next) n with hsub | hsub
    · have := subWrap_of_le (w := 64) hsub (by omega)
      omega
    · have := subWrap_of_lt (w := 64) hsub (by omega)
      omega
  exact ⟨rfl, h.isFinish, hle, hn, by simp only [parseLengthField, parseSession]; omega, hcursor⟩

/-- A frame that passes the size check fits into the block. -/
theorem BodyPhase.not_overlong {b : Buffer} (h : BodyPhase b) (htype : b.bufferType = .message)
    (hcur : b.currentPos ≤ b.headerPos + 5) (hsize : overBufferSize b = false) :
    ¬ Overlong b := by
  rintro ⟨-, -, hover⟩
  have hcursor := h.cursor
  have hlt := h.dataLength_lt
  have hle := h.dataPos_le
  have hge := h.le_currentPos
  simp only [overBufferSize, htype, MessageType.size, paddingLength_eq, gt_iff_lt,
    decide_eq_false_iff_not] at hsize
  omega

/-- **Evaluating a header** either rejects its length field, leaving the buffer as it was
for the next attempt, or enters the data phase; and it returns only if the declared frame
fits into the block. -/
theorem parseHeader_spec {b : Buffer} (h : HeaderRead b) :
    (parseHeader b).2.headerPos = b.headerPos ∧
      ((∃ e, (parseHeader b).1 = .error e ∧ HeaderRead (parseHeader b).2) ∨
        BodyPhase (parseHeader b).2 ∧
          ((parseHeader b).1 = .ok () → ¬ Overlong (parseHeader b).2)) := by
  rw [parseHeader]
  cases hdec : Buffer.decodingVarLength (parseSession b).heap
      ((parseSession b).headerPos + sessionidLength + msgTypeLength) with
  | error e =>
      exact ⟨rfl, Or.inl ⟨e, rfl, h.isParseMsgReaded, h.isParseFinish, h.isFinish,
        h.le_currentPos, h.currentPos_le, h.dataPos, h.bufferType⟩⟩
  | ok p =>
      obtain ⟨n, next⟩ := p
      obtain ⟨hn, hnext⟩ := Buffer.decodingVarLength_ok hdec
      have hbody := bodyPhase_parseLengthField h hn hnext
      simp only
      cases hsize : overBufferSize (parseLengthField (parseSession b) n next) with
      | true => exact ⟨rfl, Or.inr ⟨hbody, fun hok => by simp at hok⟩⟩
      | false =>
          exact ⟨rfl, Or.inr ⟨hbody, fun _ => hbody.not_overlong h.bufferType
            h.currentPos_le hsize⟩⟩

/-! ### The data -/

/-- **The data request** asks for the rest of the declared frame, or for `-1` bytes where
the remaining length has wrapped. -/
theorem readRemain_spec {S : SslReader σ} {st : ReadState σ} (h : BodyPhase st.buf) :
    ∃ count : ℤ,
      (readRemain S st).2.requests =
          st.requests ++ [⟨st.buf.headerPos, st.buf.currentPos, count⟩] ∧
        (st.buf.currentPos + count = st.buf.dataPos + st.buf.dataLength ∨
          count = -1 ∧ st.buf.dataLength = 0) ∧
        (readRemain S st).2.buf.headerPos = st.buf.headerPos ∧
        (readRemain S st).2.buf.dataPos = st.buf.dataPos ∧
        (readRemain S st).2.buf.dataLength = st.buf.dataLength ∧
        (BodyPhase (readRemain S st).2.buf ∨
          (readRemain S st).2.buf.isParseFinish = true ∧
            (readRemain S st).2.buf.isFinish = true) := by
  have hlt := h.dataLength_lt
  have hle := h.dataPos_le
  have hge := h.le_currentPos
  refine ⟨toInt st.buf.remainDataLength, ?_⟩
  have hcount : st.buf.currentPos + toInt st.buf.remainDataLength =
        st.buf.dataPos + st.buf.dataLength ∧
        toInt st.buf.remainDataLength = st.buf.remainDataLength ∨
      toInt st.buf.remainDataLength = -1 ∧ st.buf.dataLength = 0 := by
    rcases h.cursor with hcur | ⟨hwrap, hzero, -⟩
    · have := toInt_of_lt (n := st.buf.remainDataLength) (by omega)
      omega
    · rw [hwrap]
      exact Or.inr ⟨toInt_wrapped, hzero⟩
  rw [readRemain]
  cases hread : socketReadAt S st st.buf.currentPos st.buf.remainDataLength with
  | mk r st' =>
      cases r with
      | error e =>
          obtain ⟨hbuf, hreq⟩ := socketReadAt_error hread
          simp only [hbuf, hreq, true_and]
          exact ⟨hcount.imp_left And.left, Or.inl h⟩
      | ok readed =>
          obtain ⟨bytes, hlen, hreaded, hbuf, hreq⟩ := socketReadAt_ok hread
          simp only [hbuf, hreq, true_and]
          refine ⟨hcount.imp_left And.left, ?_⟩
          have hsub : (subWrap 64 st.buf.remainDataLength readed : ℤ) =
              st.buf.remainDataLength - readed :=
            subWrap_of_le (by omega) (by have := h.cursor; omega)
          cases hzero : subWrap 64 (st.buf.remainDataLength : ℤ) readed == 0 with
          | true => exact Or.inr ⟨h.isParseFinish, rfl⟩
          | false =>
              refine Or.inl ⟨h.isParseFinish, rfl, by simp only; omega, hlt, hle, ?_⟩
              have := h.cursor
              simp only
              omega

/-! ### The loop -/

/-- How many bytes a turn asks for, if it makes a request. -/
def Buffer.requested (b : Buffer) : Option ℕ :=
  if b.isParseFinish = false then
    if b.isParseMsgReaded = false then some b.parseLength else none
  else if b.isFinish = false then some b.remainDataLength
  else none

/-- Evaluating the header asks for nothing. -/
theorem readParse_ssl (st : ReadState σ) : (readParse st).2.ssl = st.ssl := by
  rw [readParse]
  split
  · rcases parseHeader st.buf with ⟨e | _, b⟩ <;> rfl
  · rfl

/-- A turn makes one request, or none. -/
theorem socketReadTurn_ssl (S : SslReader σ) (st : ReadState σ) :
    (socketReadTurn S st).2.ssl =
      match st.buf.requested with
      | none => st.ssl
      | some count => (S.sslRead st.ssl (toInt count)).2 := by
  rw [socketReadTurn, Buffer.requested]
  split
  · split
    · rw [readHeader]
      simp only [← socketReadAt_ssl S st st.buf.currentPos st.buf.parseLength]
      rcases socketReadAt S st st.buf.currentPos st.buf.parseLength with ⟨e | readed, st'⟩
      · rfl
      · exact readParse_ssl _
    · exact readParse_ssl st
  · split
    · rw [readRemain]
      simp only [← socketReadAt_ssl S st st.buf.currentPos st.buf.remainDataLength]
      rcases socketReadAt S st st.buf.currentPos st.buf.remainDataLength with ⟨e | readed, st'⟩ <;>
        rfl
    · rfl

/-- A turn that requests something makes one call of `SSL_read`. -/
theorem socketReadTurn_ssl_of_requested (S : SslReader σ) {st : ReadState σ} {count : ℕ}
    (h : st.buf.requested = some count) :
    (socketReadTurn S st).2.ssl = (S.sslRead st.ssl (toInt count)).2 := by
  rw [socketReadTurn_ssl, h]

/-- What every call of `SSL_read` keeps of the connection, a turn keeps. -/
theorem inv_turn {S : SslReader σ} {P : σ → Prop} (hP : ∀ s n, P s → P (S.sslRead s n).2)
    {st : ReadState σ} (h : P st.ssl) : P (socketReadTurn S st).2.ssl := by
  rw [socketReadTurn_ssl]
  cases st.buf.requested with
  | none => exact h
  | some count => exact hP st.ssl (toInt count) h

/-- What every call of `SSL_read` keeps of the connection, the calls behind the first turn
keep. -/
theorem inv_socketRead_of_turn {S : SslReader σ} {P : σ → Prop}
    (hP : ∀ s n, P s → P (S.sslRead s n).2) {st : ReadState σ}
    (h : P (socketReadTurn S st).2.ssl) : P (socketRead S st).2.ssl := by
  rw [socketRead, socketReadLoop]
  rcases hturn : socketReadTurn S st with ⟨e | isContine, st'⟩ <;> rw [hturn] at h
  · exact h
  simp only
  split
  · have h' := inv_turn hP h
    rw [socketReadLoop]
    rcases hturn' : socketReadTurn S st' with ⟨e | isContine', st''⟩ <;> rw [hturn'] at h'
    · exact h'
    · simp only [socketReadLoop]
      split <;> exact h'
  · exact h

/-- What every call of `SSL_read` keeps of the connection, a call of `socket_read` keeps. -/
theorem inv_socketRead {S : SslReader σ} {P : σ → Prop} (hP : ∀ s n, P s → P (S.sslRead s n).2)
    {st : ReadState σ} (h : P st.ssl) : P (socketRead S st).2.ssl :=
  inv_socketRead_of_turn hP (inv_turn hP h)

/-- A turn in the data phase does not ask for another turn. -/
theorem socketReadTurn_ne_true {S : SslReader σ} {st : ReadState σ}
    (h : st.buf.isParseFinish = true) : (socketReadTurn S st).1 ≠ .ok true := by
  simp only [socketReadTurn, h, Bool.true_eq_false, if_false]
  split
  · rcases readRemain S st with ⟨e | _, st'⟩ <;> simp
  · simp

/-- A header that is evaluated without an error is marked as evaluated. -/
theorem isParseFinish_of_parseHeader {b : Buffer} (h : (parseHeader b).1 = .ok ()) :
    (parseHeader b).2.isParseFinish = true := by
  rw [parseHeader] at h ⊢
  cases hdec : Buffer.decodingVarLength (parseSession b).heap
      ((parseSession b).headerPos + sessionidLength + msgTypeLength) with
  | error e =>
      simp only [hdec] at h
      cases h
  | ok p =>
      obtain ⟨n, next⟩ := p
      simp only [hdec] at h ⊢
      split <;> rfl

/-- The turn that asks for another one has evaluated the header. -/
theorem isParseFinish_of_readParse {st : ReadState σ} (h : (readParse st).1 = .ok true) :
    (readParse st).2.buf.isParseFinish = true := by
  rw [readParse] at h ⊢
  split at h
  · rename_i hread
    rw [if_pos hread]
    rcases hparse : parseHeader st.buf with ⟨e | _, b⟩
    · simp [hparse] at h
    · have := isParseFinish_of_parseHeader (b := st.buf) (by rw [hparse])
      rwa [hparse] at this
  · simp at h

/-- A turn that finishes has parsed the header. -/
theorem isParseFinish_of_turn {S : SslReader σ} {st : ReadState σ}
    (h : (socketReadTurn S st).1 = .ok true) :
    (socketReadTurn S st).2.buf.isParseFinish = true := by
  by_cases hfin : st.buf.isParseFinish = false
  · simp only [socketReadTurn, hfin, if_true] at h ⊢
    split at h
    · rename_i hread
      rw [if_pos hread]
      rcases hhead : readHeader S st with ⟨e | _, st'⟩
      · simp [hhead] at h
      · simp only [hhead] at h ⊢
        exact isParseFinish_of_readParse h
    · rename_i hread
      rw [if_neg hread]
      exact isParseFinish_of_readParse h
  · exact absurd h (socketReadTurn_ne_true (by simpa using hfin))

/-- Two turns are all the loop ever makes. -/
theorem socketReadLoop_eq (S : SslReader σ) (fuel : ℕ) (st : ReadState σ) :
    socketReadLoop S (fuel + 2) st = socketRead S st := by
  rw [socketRead, socketReadLoop, socketReadLoop]
  rcases hturn : socketReadTurn S st with ⟨e | isContine, st'⟩
  · rfl
  cases isContine with
  | false => rfl
  | true =>
      have hfin : st'.buf.isParseFinish = true := by
        have hasked : (socketReadTurn S st).1 = .ok true := by rw [hturn]
        have hfin := isParseFinish_of_turn hasked
        rwa [hturn] at hfin
      simp only [Bool.true_and]
      split
      · have hne := socketReadTurn_ne_true (S := S) hfin
        rw [socketReadLoop, socketReadLoop]
        rcases hturn' : socketReadTurn S st' with ⟨e | isContine, st''⟩
        · rfl
        cases isContine with
        | false => rfl
        | true =>
            rw [hturn'] at hne
            exact absurd rfl hne
      · rfl

/-- The requests that a state has beyond another are all inside the block. -/
def ExtendsInBlock (st st' : ReadState σ) : Prop :=
  ∃ new, st'.requests = st.requests ++ new ∧ ∀ r ∈ new, r.InBlock

/-- Nothing is requested. -/
theorem ExtendsInBlock.refl (st : ReadState σ) : ExtendsInBlock st st :=
  ⟨[], (List.append_nil _).symm, by simp⟩

/-- Nothing more is requested. -/
theorem ExtendsInBlock.of_requests_eq {st st' : ReadState σ}
    (h : st'.requests = st.requests) : ExtendsInBlock st st' :=
  ⟨[], by rw [h, List.append_nil], by simp⟩

/-- Requests behind requests. -/
theorem ExtendsInBlock.trans {st₁ st₂ st₃ : ReadState σ} (h₁ : ExtendsInBlock st₁ st₂)
    (h₂ : ExtendsInBlock st₂ st₃) : ExtendsInBlock st₁ st₃ := by
  obtain ⟨new₁, heq₁, hin₁⟩ := h₁
  obtain ⟨new₂, heq₂, hin₂⟩ := h₂
  refine ⟨new₁ ++ new₂, by rw [heq₂, heq₁, List.append_assoc], fun r hr => ?_⟩
  rcases List.mem_append.mp hr with hr | hr
  · exact hin₁ r hr
  · exact hin₂ r hr

/-- The header part of a turn. -/
theorem readParse_spec (st : ReadState σ)
    (h : (∃ k, HeaderPhase st.buf k) ∨ HeaderRead st.buf) :
    Phase (readParse st).2.buf ∧ (readParse st).2.requests = st.requests ∧
      ((readParse st).1 = .ok true → ¬ Overlong (readParse st).2.buf) := by
  rcases h with ⟨k, h⟩ | h
  · rw [readParse, if_neg (by rw [h.isParseMsgReaded]; exact Bool.false_ne_true)]
    exact ⟨.header k h, rfl, fun _ => h.not_overlong⟩
  · obtain ⟨-, hspec⟩ := parseHeader_spec h
    rw [readParse, if_pos h.isParseMsgReaded]
    rcases hparse : parseHeader st.buf with ⟨e | _, b⟩ <;> rw [hparse] at hspec
    · refine ⟨?_, rfl, fun hok => by simp at hok⟩
      rcases hspec with ⟨-, -, hread⟩ | ⟨hbody, -⟩
      · exact .read hread
      · exact .body hbody
    · rcases hspec with ⟨e, he, -⟩ | ⟨hbody, hfit⟩
      · cases he
      · exact ⟨.body hbody, rfl, fun _ => hfit rfl⟩

/-- **One turn.** It keeps the buffer in one of its phases, and its requests stay inside
the block unless the buffer was overlong before. -/
theorem socketReadTurn_spec {S : SslReader σ} {st : ReadState σ} (h : Phase st.buf)
    (hfit : ¬ Overlong st.buf) :
    Phase (socketReadTurn S st).2.buf ∧ ExtendsInBlock st (socketReadTurn S st).2 ∧
      ((socketReadTurn S st).1 = .ok true → ¬ Overlong (socketReadTurn S st).2.buf) := by
  cases h with
  | header k h =>
      obtain ⟨hreq, -, hphase⟩ := readHeader_spec (S := S) h
      have hk := h.le_five
      have hext : ExtendsInBlock st (readHeader S st).2 := by
        refine ⟨_, hreq, fun r hr => ?_⟩
        obtain rfl := List.mem_singleton.mp hr
        exact ⟨Nat.le_add_right _ _, by push_cast; omega⟩
      simp only [socketReadTurn, h.isParseFinish, h.isParseMsgReaded, if_true]
      rcases hhead : readHeader S st with ⟨e | _, st'⟩ <;> rw [hhead] at hphase hext
      · refine ⟨?_, hext, fun hok => by simp at hok⟩
        rcases hphase with ⟨k', hk'⟩ | hread
        · exact .header k' hk'
        · exact .read hread
      · obtain ⟨hphase', hreq', hfit'⟩ := readParse_spec st' hphase
        exact ⟨hphase', hext.trans (.of_requests_eq hreq'), hfit'⟩
  | read h =>
      obtain ⟨hphase', hreq', hfit'⟩ := readParse_spec st (Or.inr h)
      simp only [socketReadTurn, h.isParseFinish, h.isParseMsgReaded, if_true,
        Bool.true_eq_false, if_false]
      exact ⟨hphase', .of_requests_eq hreq', hfit'⟩
  | body h =>
      have hne := socketReadTurn_ne_true (S := S) h.isParseFinish
      obtain ⟨count, hreq, hcount, -, -, -, hphase⟩ := readRemain_spec (S := S) h
      have hge := h.le_currentPos
      have hlt := h.dataLength_lt
      have hle := h.dataPos_le
      have hcur := h.cursor
      have hend : st.buf.dataPos + st.buf.dataLength ≤ st.buf.headerPos + 1024 := by
        by_contra hover
        exact hfit ⟨h.isParseFinish, h.isFinish, by omega⟩
      have hext : ExtendsInBlock st (readRemain S st).2 := by
        refine ⟨_, hreq, fun r hr => ?_⟩
        obtain rfl := List.mem_singleton.mp hr
        exact ⟨by simp only; omega, by simp only; omega⟩
      refine ⟨?_, ?_, fun hok => absurd hok hne⟩
      · simp only [socketReadTurn, h.isParseFinish, h.isFinish, if_true, Bool.true_eq_false,
          if_false]
        rcases hremain : readRemain S st with ⟨e | _, st'⟩ <;> rw [hremain] at hphase
        all_goals
          rcases hphase with hbody | ⟨hparse, hfinish⟩
          · exact .body hbody
          · exact .finished hparse hfinish
      · simp only [socketReadTurn, h.isParseFinish, h.isFinish, if_true, Bool.true_eq_false,
          if_false]
        rcases hremain : readRemain S st with ⟨e | _, st'⟩ <;> rw [hremain] at hext
        all_goals exact hext
  | finished hparse h =>
      simp only [socketReadTurn, hparse, h, Bool.true_eq_false, if_false]
      exact ⟨.finished hparse h, .refl st, fun hok => by simp at hok⟩

/-- **One call of `socket_read`.** It keeps the buffer in one of its phases, and its
requests stay inside the block unless the buffer was overlong before. -/
theorem socketRead_spec (S : SslReader σ) (st : ReadState σ) (h : Phase st.buf)
    (hfit : ¬ Overlong st.buf) :
    Phase (socketRead S st).2.buf ∧ ExtendsInBlock st (socketRead S st).2 := by
  obtain ⟨hphase, hext, hfit'⟩ := socketReadTurn_spec (S := S) h hfit
  rw [socketRead, socketReadLoop]
  rcases hturn : socketReadTurn S st with ⟨e | isContine, st'⟩ <;>
    rw [hturn] at hphase hext hfit'
  · exact ⟨hphase, hext⟩
  simp only
  split
  · rename_i hcontine
    have hcontine : isContine = true := (Bool.and_eq_true_iff.mp hcontine).1
    obtain ⟨hphase', hext', -⟩ := socketReadTurn_spec (S := S) hphase
      (hfit' (by rw [hcontine]))
    rw [socketReadLoop]
    rcases hturn' : socketReadTurn S st' with ⟨e | isContine', st''⟩ <;>
      rw [hturn'] at hphase' hext'
    · exact ⟨hphase', hext.trans hext'⟩
    · simp only [socketReadLoop]
      split <;> exact ⟨hphase', hext.trans hext'⟩
  · exact ⟨hphase, hext⟩

/-- **A call on an overlong buffer** makes a request that ends behind the block. -/
theorem socketRead_overlong (S : SslReader σ) (st : ReadState σ) (h : Phase st.buf)
    (hover : Overlong st.buf) :
    ∃ r ∈ (socketRead S st).2.requests, ¬ r.InBlock := by
  obtain ⟨hparse, hfinish, hlong⟩ := hover
  cases h with
  | header k h => exact absurd ⟨hparse, hfinish, hlong⟩ h.not_overlong
  | read h => exact absurd ⟨hparse, hfinish, hlong⟩ h.not_overlong
  | finished _ h =>
      rw [h] at hfinish
      cases hfinish
  | body h =>
      obtain ⟨count, hreq, hcount, -⟩ := readRemain_spec (S := S) h
      have hlt := h.dataLength_lt
      have hle := h.dataPos_le
      have hge := h.le_currentPos
      have hcur := h.cursor
      refine ⟨⟨st.buf.headerPos, st.buf.currentPos, count⟩, ?_, ?_⟩
      · rw [socketRead, socketReadLoop, socketReadTurn, if_neg (by simp [hparse]),
          if_pos hfinish]
        rcases hremain : readRemain S st with ⟨e | _, st'⟩ <;> rw [hremain] at hreq
        all_goals
          simp only [Bool.false_and, Bool.false_eq_true, if_false]
          rw [hreq]
          exact List.mem_append_right _ (List.mem_singleton.mpr rfl)
      · rintro ⟨-, hend⟩
        simp only at hend
        omega

end Yijian
