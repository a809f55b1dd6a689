import Yijian.Lib.Leb128
import Yijian.Lib.Memory

/-!
# The Frame Buffer

`Buffer` is the object that carries one frame between a socket and a message handler
(`buffer_yi.h`, `buffer_yi.cxx`). A frame is a big-endian session id whose top bit marks
the last frame of a message, one type byte, a base-128 length field and the data. The
pointers `header_pos_`, `data_pos_`, `current_pos_` and `end_pos_` are addresses, and
`heap` is what the block that the constructor got from `malloc` holds, indexed by
address; the constructor initialises neither the block nor the fields collected in
`Uninit`. The read and write halves of the class that talk to a socket are in
`Yijian.SocketRead` and `Yijian.SocketWrite`.

## Convention

Addresses and lengths are natural numbers; where the source computes in `size_t` and could wrap, the
function that does so says it (`toInt` and `subWrap` in `Yijian.SocketRead`). `int` and the 16 and
32 bits of numbers on the wire are kept, with their arithmetic modulo a power of two, as the code
has it. A member without an initialiser is a value of `Uninit` and may be anything, and so may the
content of the block. The counter `noread_count_`, which nothing reads, is left out, and so are
`makeReWrite`, which nobody calls, and the reading and writing on a plain file descriptor, whose
callers are commented out.

## Main results

* `decodingVarLength_eq`: the length decoder looks at two bytes at most and rejects
  exactly the fields whose first two bytes both announce another one.
* `encodingVarLength_eq`: the length encoder stores the base-128 digits of the length.
* `buffer_eq`, `wire_setSessionid`: what an encoded buffer holds, and what a numbered one
  puts on the wire.
-/

namespace Yijian

/-- `std::system_error`, as far as a handler looks at it: the value of its error code and
the text given with it. The `what()` of the library puts `: ` and the message of the code behind
the text; that message is the library's, and is left out wherever a text is passed on. -/
structure SystemError where
  code : ℤ
  what : String
deriving DecidableEq, Repr

/-! ### Constants of `buffer_yi.h` -/

def minSessionID : ℕ := 100
def maxSessionID : ℕ := 32767
def msgTypeLength : ℕ := 1
def varLength : ℕ := 2
def sessionidLength : ℕ := 2
def paddingLength : ℕ := sessionidLength + msgTypeLength + varLength
def bufferLastFlag : ℕ := 32768

@[simp] theorem minSessionID_eq : minSessionID = 100 := rfl
@[simp] theorem maxSessionID_eq : maxSessionID = 32767 := rfl
@[simp] theorem msgTypeLength_eq : msgTypeLength = 1 := rfl
@[simp] theorem varLength_eq : varLength = 2 := rfl
@[simp] theorem sessionidLength_eq : sessionidLength = 2 := rfl
@[simp] theorem paddingLength_eq : paddingLength = 5 := rfl
@[simp] theorem bufferLastFlag_eq : bufferLastFlag = 32768 := rfl

/-- The block sizes a buffer can be constructed with. -/
inductive MessageType
  | message
  | multimedia
deriving DecidableEq, Repr

/-- The enumeration is used as a size. -/
def MessageType.size : MessageType → ℕ
  | .message => 1024
  | .multimedia => 1024 * 4

/-- `class buffer`. -/
structure Buffer where
  isParseMsgReaded : Bool
  isParseFinish : Bool
  isFinish : Bool
  isLastBuf : Bool
  dataType : UInt8
  dataEncodeLength : ℕ
  dataLength : ℕ
  bufferType : MessageType
  headerPos : ℕ
  endPos : ℕ
  dataPos : ℕ
  currentPos : ℕ
  sessionId : ℕ
  parseLength : ℕ
  remainDataLength : ℕ
  heap : Memory UInt8

/-- What the constructor finds and does not overwrite: the address and content of the
fresh block, and the members without an initialiser. -/
structure Uninit where
  headerPos : ℕ
  heap : Memory UInt8
  dataType : UInt8
  dataEncodeLength : ℕ
  dataLength : ℕ
  sessionId : ℕ
  remainDataLength : ℕ

namespace Buffer

/-- `buffer::reset`. -/
def reset (b : Buffer) : Buffer :=
  { b with
    dataPos := b.headerPos
    endPos := b.headerPos
    currentPos := b.headerPos
    isFinish := false
    isParseFinish := false }

/-- The constructor `buffer(Message_Type type = Message_Type::message)`. -/
def new (u : Uninit) (type : MessageType := .message) : Buffer :=
  reset
    { isParseMsgReaded := false
      isParseFinish := false
      isFinish := false
      isLastBuf := false
      dataType := u.dataType
      dataEncodeLength := u.dataEncodeLength
      dataLength := u.dataLength
      bufferType := type
      headerPos := u.headerPos
      endPos := u.headerPos
      dataPos := u.headerPos
      currentPos := u.headerPos
      sessionId := u.sessionId
      parseLength := paddingLength
      remainDataLength := u.remainDataLength
      heap := u.heap }

/-! ### Accessors -/

/-- `buffer::size`. -/
def size (b : Buffer) : ℕ := b.endPos - b.headerPos

/-- `buffer::datatype`. -/
def datatype (b : Buffer) : UInt8 := b.dataType

/-- `buffer::data_size`. -/
def dataSize (b : Buffer) : ℕ := b.dataLength

/-- `buffer::isLast_buffer`. -/
def isLastBuffer (b : Buffer) : Bool := b.isLastBuf

/-- The bytes that `data()` and `data_size()` give to the caller. -/
def data (b : Buffer) : List UInt8 := b.heap.load b.dataPos b.dataSize

/-- The bytes of the encoded frame, `[header_pos_, end_pos_)`. -/
def wire (b : Buffer) : List UInt8 := b.heap.load b.headerPos b.size

/-! ### The length field -/

/-- The loop of `buffer::decoding_var_length`. The multiplier leaves the range of the
test after three turns, so three turns are all the fuel it can use. -/
def decodingVarLengthLoop (m : Memory UInt8) :
    (fuel pos multiplier value : ℕ) → Except SystemError (ℕ × ℕ)
  | 0, _, _, _ => .error ⟨20001, "Malformed Remaining Length"⟩
  | fuel + 1, pos, multiplier, value =>
      let encodeByte := m pos
      let value := (value + (encodeByte &&& 127).toNat * multiplier) % 2 ^ 32
      let multiplier := multiplier * 128
      if multiplier > 128 * 128 then
        .error ⟨20001, "Malformed Remaining Length"⟩
      else if encodeByte &&& 128 ≠ 0 then
        decodingVarLengthLoop m fuel (pos + 1) multiplier value
      else
        .ok (value, pos + 1)

/-- `buffer::decoding_var_length`. -/
def decodingVarLength (m : Memory UInt8) (pos : ℕ) : Except SystemError (ℕ × ℕ) :=
  decodingVarLengthLoop m 3 pos 1 0

/-- The loop of `buffer::encoding_var_length`; the length loses a digit on every turn. -/
def encodingVarLengthLoop :
    (fuel : ℕ) → Memory UInt8 → (pos length : ℕ) → Memory UInt8 × ℕ
  | 0, m, pos, _ => (m, pos)
  | fuel + 1, m, pos, length =>
      let encodeByte := UInt8.ofNat (length % 128)
      let length := length / 128
      let encodeByte := if length > 0 then encodeByte ||| 128 else encodeByte
      let m := m.store pos [encodeByte]
      if length > 0 then encodingVarLengthLoop fuel m (pos + 1) length else (m, pos + 1)

/-- `buffer::encoding_var_length`, with the memory it writes. -/
def encodingVarLength (m : Memory UInt8) (pos length : ℕ) : Memory UInt8 × ℕ :=
  encodingVarLengthLoop (length + 1) m pos length

/-! ### Session id and encoding -/

/-- `htons` followed by the copy to memory: the high byte comes first. -/
def htons (n : ℕ) : List UInt8 := [UInt8.ofNat (n / 256), UInt8.ofNat (n % 256)]

/-- `ntohs` of the two bytes at `pos`. -/
def ntohs (m : Memory UInt8) (pos : ℕ) : ℕ := (m pos).toNat * 256 + (m (pos + 1)).toNat

/-- `buffer::set_sessionid`. -/
def setSessionid (b : Buffer) (sessionid : ℕ) (isLast : Bool) : Buffer :=
  let locSessionid := if isLast then (sessionid + bufferLastFlag) % 2 ^ 16 else sessionid
  { b with
    isLastBuf := isLast
    heap := b.heap.store b.headerPos (htons locSessionid)
    sessionId := sessionid }

/-- `buffer::encoding`. The length is recorded before it is checked. -/
def encoding (b : Buffer) (type : UInt8) (data : List UInt8) :
    Except SystemError Unit × Buffer :=
  let b := { b with dataLength := data.length }
  if b.dataLength > 1024 - paddingLength then
    (.error ⟨20011, "Malformed Length"⟩, b)
  else
    let current := b.currentPos + sessionidLength
    let heap := b.heap.store current [type]
    let current := current + 1
    let (heap, currentEnd) := encodingVarLength heap current (b.dataLength % 2 ^ 32)
    let heap := heap.store currentEnd data
    (.ok (),
      { b with
        heap := heap
        dataEncodeLength := currentEnd - current
        dataPos := currentEnd
        remainDataLength := sessionidLength + 1 + (currentEnd - current) + b.dataLength
        endPos := currentEnd + b.dataLength
        currentPos := b.headerPos
        dataType := type })

/-- `buffer::Buffer`: a new buffer holding one encoded frame. -/
def buffer (u : Uninit) (type : UInt8) (data : List UInt8) :
    Except SystemError Unit × Buffer :=
  (new u).encoding type data

/-! ### The length decoder -/

/-- **The decoder, in closed form.** It accepts a field of one or two bytes and rejects
the field whose first two bytes both announce another one. -/
theorem decodingVarLength_eq (m : Memory UInt8) (pos : ℕ) :
    decodingVarLength m pos =
      if (m pos).toNat < 128 then .ok ((m pos).toNat, pos + 1)
      else if (m (pos + 1)).toNat < 128 then
        .ok ((m pos).toNat % 128 + 128 * (m (pos + 1)).toNat, pos + 2)
      else .error ⟨20001, "Malformed Remaining Length"⟩ := by
  have h0 := (m pos).toNat_lt
  simp only [decodingVarLength, decodingVarLengthLoop, Leb128.toNat_and_127,
    Leb128.and_128_ne_zero_iff]
  by_cases h1 : (m pos).toNat < 128
  · rw [if_neg (by omega), if_neg (by omega), if_pos h1]
    congr 2
    omega
  · rw [if_neg (by omega), if_pos (by omega), if_neg h1]
    by_cases h2 : (m (pos + 1)).toNat < 128
    · rw [if_neg (by omega), if_neg (by omega), if_pos h2]
      congr 2
      omega
    · rw [if_neg (by omega), if_pos (by omega), if_pos (by omega), if_neg h2]

/-- What an accepted length field tells: where the data starts, and a length of at most
two digits. -/
theorem decodingVarLength_ok {m : Memory UInt8} {pos n next : ℕ}
    (h : decodingVarLength m pos = .ok (n, next)) :
    n < 16384 ∧ (next = pos + 1 ∧ n < 128 ∨ next = pos + 2) := by
  rw [decodingVarLength_eq] at h
  have h0 := (m pos).toNat_lt
  have h1 := (m (pos + 1)).toNat_lt
  split at h
  · simp only [Except.ok.injEq, Prod.mk.injEq] at h
    omega
  · split at h
    · simp only [Except.ok.injEq, Prod.mk.injEq] at h
      omega
    · cases h

/-! ### The length encoder -/

/-- The loop writes the digits of the length one behind the other. -/
theorem encodingVarLengthLoop_eq (fuel : ℕ) (m : Memory UInt8) (pos length : ℕ)
    (h : length < fuel) :
    encodingVarLengthLoop fuel m pos length =
      (m.store pos (Leb128.encode length), pos + (Leb128.encode length).length) := by
  induction fuel generalizing m pos length with
  | zero => omega
  | succ fuel ih =>
      simp only [encodingVarLengthLoop]
      by_cases hlt : length < 128
      · rw [if_neg (by omega), if_neg (by omega), Leb128.encode_of_lt hlt,
          Nat.mod_eq_of_lt hlt, List.length_singleton]
      · rw [if_pos (by omega), if_pos (by omega), ih _ _ _ (by omega), Leb128.encode_eq length,
          if_neg hlt, Memory.store_cons m pos _ (Leb128.encode (length / 128)),
          List.length_cons, Nat.add_assoc, Nat.add_comm 1]

/-- **The encoder stores the base-128 digits** and returns the address after them. -/
theorem encodingVarLength_eq (m : Memory UInt8) (pos length : ℕ) :
    encodingVarLength m pos length =
      (m.store pos (Leb128.encode length), pos + (Leb128.encode length).length) :=
  encodingVarLengthLoop_eq _ m pos length (Nat.lt_succ_self length)

/-- The length field of a length that fits a frame. -/
theorem length_encode_le {n : ℕ} (h : n ≤ 1019) : (Leb128.encode n).length ≤ 2 := by
  rcases Nat.lt_or_ge n 128 with hlt | hge
  · rw [Leb128.encode_of_lt hlt]
    exact Nat.le_succ 1
  · rw [Leb128.encode_of_le_of_lt hge (by omega)]
    exact Nat.le_refl 2

/-! ### What an encoded frame looks like -/

/-- The bytes between the session id and the end of the frame. -/
def body (type : UInt8) (data : List UInt8) : List UInt8 :=
  type :: (Leb128.encode data.length ++ data)

/-- The bytes of the frame with the session id `sessionid` and the flag `isLast`. -/
def frameBytes (sessionid : ℕ) (isLast : Bool) (type : UInt8) (data : List UInt8) :
    List UInt8 :=
  htons (if isLast then sessionid + bufferLastFlag else sessionid) ++ body type data

@[simp] theorem length_htons (n : ℕ) : (htons n).length = 2 := rfl

/-- The bytes of a body. -/
theorem length_body (type : UInt8) (data : List UInt8) :
    (body type data).length = 1 + (Leb128.encode data.length).length + data.length := by
  simp only [body, List.length_cons, List.length_append]
  omega

/-- The bytes of a frame. -/
theorem length_frameBytes (sessionid : ℕ) (isLast : Bool) (type : UInt8)
    (data : List UInt8) :
    (frameBytes sessionid isLast type data).length =
      3 + (Leb128.encode data.length).length + data.length := by
  rw [frameBytes, List.length_append, length_htons, length_body]
  omega

/-- **Encoding into a fresh buffer.** Data of at most 1019 bytes are stored behind the
place of the session id, and the cursor is back at the header. -/
theorem buffer_eq (u : Uninit) (type : UInt8) {data : List UInt8}
    (h : data.length ≤ 1019) :
    buffer u type data =
      (.ok (),
        { new u with
          heap := u.heap.store (u.headerPos + 2) (body type data)
          dataLength := data.length
          dataEncodeLength := (Leb128.encode data.length).length
          dataPos := u.headerPos + 3 + (Leb128.encode data.length).length
          remainDataLength := 3 + (Leb128.encode data.length).length + data.length
          endPos := u.headerPos + 3 + (Leb128.encode data.length).length + data.length
          currentPos := u.headerPos
          dataType := type }) := by
  have hmod : data.length % 2 ^ 32 = data.length := Nat.mod_eq_of_lt (by omega)
  have hheap : (((u.heap.store (u.headerPos + 2) [type]).store (u.headerPos + 2 + 1)
        (Leb128.encode data.length)).store
          (u.headerPos + 2 + 1 + (Leb128.encode data.length).length) data) =
      u.heap.store (u.headerPos + 2) (body type data) := by
    rw [body, Memory.store_cons _ _ type (Leb128.encode data.length ++ data),
      Memory.store_append]
  rw [buffer, encoding]
  simp only [new, reset, encodingVarLength_eq, hmod, paddingLength_eq, sessionidLength_eq]
  rw [if_neg (by omega), hheap, Nat.add_sub_cancel_left]

/-- Data that fit a frame are accepted. -/
theorem buffer_ok (u : Uninit) (type : UInt8) {data : List UInt8} (h : data.length ≤ 1019) :
    buffer u type data = (.ok (), (buffer u type data).2) := by
  rw [buffer_eq u type h]

/-- Data of more than 1019 bytes are refused with 20011. -/
theorem buffer_error (u : Uninit) (type : UInt8) {data : List UInt8}
    (h : 1019 < data.length) :
    buffer u type data =
      (.error ⟨20011, "Malformed Length"⟩, { new u with dataLength := data.length }) := by
  rw [buffer, encoding]
  exact if_pos (by rw [paddingLength_eq]; exact h)

/-- Numbering a frame again overwrites the number and the flag. -/
theorem setSessionid_setSessionid (b : Buffer) (sessionid sessionid' : ℕ) (isLast isLast' : Bool) :
    (b.setSessionid sessionid isLast).setSessionid sessionid' isLast' =
      b.setSessionid sessionid' isLast' := by
  simp only [setSessionid]
  rw [Memory.store_store _ _ (by rw [length_htons, length_htons])]

/-- **The wire image** of an encoded and numbered frame. -/
theorem wire_setSessionid (u : Uninit) (type : UInt8) {data : List UInt8}
    (h : data.length ≤ 1019) {sessionid : ℕ} (hid : sessionid ≤ maxSessionID)
    (isLast : Bool) :
    ((buffer u type data).2.setSessionid sessionid isLast).wire =
      frameBytes sessionid isLast type data := by
  have hmod : (if isLast then (sessionid + bufferLastFlag) % 2 ^ 16 else sessionid) =
      if isLast then sessionid + bufferLastFlag else sessionid := by
    rw [maxSessionID_eq] at hid
    rw [Nat.mod_eq_of_lt (by rw [bufferLastFlag_eq]; omega)]
  have hlen : u.headerPos + 3 + (Leb128.encode data.length).length + data.length -
      u.headerPos = (frameBytes sessionid isLast type data).length := by
    rw [length_frameBytes]
    omega
  rw [buffer_eq u type h, wire, size]
  simp only [setSessionid, new, reset, hmod, hlen]
  rw [Memory.load_eq_iff]
  intro i hi
  rw [frameBytes] at hi
  simp only [frameBytes]
  rcases Nat.lt_or_ge i 2 with h2 | h2
  · rw [Memory.store_add _ _ (by rwa [length_htons]), List.getElem_append_left (by simpa using h2)]
  · obtain ⟨j, rfl⟩ : ∃ j, i = 2 + j := ⟨i - 2, by omega⟩
    have hj : j < (body type data).length := by
      rw [List.length_append, length_htons] at hi
      omega
    rw [Memory.store_of_le _ (by rw [length_htons]; omega), ← Nat.add_assoc,
      Memory.store_add _ _ hj, List.getElem_append_right (by rw [length_htons]; omega)]
    simp only [length_htons, Nat.add_sub_cancel_left]

end Buffer

end Yijian
