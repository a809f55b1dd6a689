import Yijian.Fragment
import Yijian.Lib.Loops

/-!
# The Wire Format

The length field of a frame is written by `encoding_var_length`, whose loop ends when no
digit is left, and read by `decoding_var_length`, whose loop ends at a byte without the
high bit or when the multiplier is over `128 * 128`, which it tests after it has added the
byte. A frame is two bytes of session id and last flag, one byte of type, the length field
and the data, and nothing marks its end.

## Convention

The two loops of the source are stated twice: as functions on fuel, with which a buffer is computed,
and as turns with an end test behind them, whose states are listed. The second is what termination
and the bytes that are looked at are read off; that both compute the same is shown by the number of
turns. The digits are those of `Lib.Leb128`. Lengths are `uint32_t`: the decoder is asked about
every sequence of bytes, also those that no encoder has written, and accepts a second byte that
adds nothing.

## Main results

* `leaves_encodingTurn`, `leaves_decodingTurn`: both loops end, and the bytes that the
  decoder looks at.
* `lengthField_codec`: what the decoder makes of an encoded length and of any bytes.
* `frame_selfDelimiting`, `wireFormat`: a frame fits its block and shows what was
  encoded, and frames put in a row can be told apart.
-/

namespace Yijian

namespace Buffer

/-! ### The turns of the two loops -/

/-- What a turn of `decoding_var_length` starts from. -/
structure DecodingState where
  pos : ℕ
  multiplier : ℕ
  value : ℕ
deriving DecidableEq, Repr

/-- One turn of `decoding_var_length`, which looks at the byte at `pos`. -/
def decodingTurn (m : Memory UInt8) (s : DecodingState) :
    DecodingState ⊕ Except SystemError (ℕ × ℕ) :=
  let encodeByte := m s.pos
  let value := (s.value + (encodeByte &&& 127).toNat * s.multiplier) % 2 ^ 32
  let multiplier := s.multiplier * 128
  if multiplier > 128 * 128 then .inr (.error ⟨20001, "Malformed Remaining Length"⟩)
  else if encodeByte &&& 128 ≠ 0 then .inl ⟨s.pos + 1, multiplier, value⟩
  else .inr (.ok (value, s.pos + 1))

/-- What a turn of `encoding_var_length` starts from. -/
structure EncodingState where
  heap : Memory UInt8
  pos : ℕ
  length : ℕ

/-- One turn of `encoding_var_length`. -/
def encodingTurn (s : EncodingState) : EncodingState ⊕ (Memory UInt8 × ℕ) :=
  let encodeByte := UInt8.ofNat (s.length % 128)
  let length := s.length / 128
  let encodeByte := if length > 0 then encodeByte ||| 128 else encodeByte
  let heap := s.heap.store s.pos [encodeByte]
  if length > 0 then .inl ⟨heap, s.pos + 1, length⟩ else .inr (heap, s.pos + 1)

/-- The loop of the decoder, on the state of a turn. -/
def decodingLoop (m : Memory UInt8) (fuel : ℕ) (s : DecodingState) :
    Except SystemError (ℕ × ℕ) :=
  decodingVarLengthLoop m fuel s.pos s.multiplier s.value

/-- The loop of the encoder, on the state of a turn. -/
def encodingLoop (fuel : ℕ) (s : EncodingState) : Memory UInt8 × ℕ :=
  encodingVarLengthLoop fuel s.heap s.pos s.length

/-- The loop is its first turn and the rest. -/
theorem decodingLoop_succ (m : Memory UInt8) (fuel : ℕ) (s : DecodingState) :
    decodingLoop m (fuel + 1) s = (decodingTurn m s).elim (decodingLoop m fuel) id := by
  simp only [decodingLoop, decodingVarLengthLoop, decodingTurn]
  split
  · rfl
  · split <;> rfl

/-- The loop is its first turn and the rest. -/
theorem encodingLoop_succ (fuel : ℕ) (s : EncodingState) :
    encodingLoop (fuel + 1) s = (encodingTurn s).elim (encodingLoop fuel) id := by
  simp only [encodingLoop, encodingVarLengthLoop, encodingTurn]
  split <;> rfl

/-! ### Both loops end -/

/-- The turns of the encoder are as many as the bytes that it stores. -/
theorem exists_leaves_encodingTurn (m : Memory UInt8) (pos length : ℕ) :
    ∃ visited r, Loops.Leaves encodingTurn ⟨m, pos, length⟩ visited r ∧
      visited.length = (Leb128.encode length).length := by
  induction length using Nat.strongRecOn generalizing m pos with
  | ind length ih =>
      rw [Leb128.encode_eq]
      by_cases hlt : length < 128
      · have hturn : encodingTurn ⟨m, pos, length⟩ =
            .inr (m.store pos [UInt8.ofNat (length % 128)], pos + 1) := by
          have hzero : ¬ length / 128 > 0 := by omega
          simp only [encodingTurn, if_neg hzero]
        exact ⟨_, _, .leave hturn, by rw [if_pos hlt]; rfl⟩
      · have hturn : encodingTurn ⟨m, pos, length⟩ =
            .inl ⟨m.store pos [UInt8.ofNat (length % 128) ||| 128], pos + 1, length / 128⟩ := by
          have hpos : length / 128 > 0 := by omega
          simp only [encodingTurn, if_pos hpos]
        obtain ⟨visited, r, hleaves, hlen⟩ := ih (length / 128) (by omega) _ _
        exact ⟨_, _, .again hturn hleaves, by rw [if_neg hlt, List.length_cons, hlen]; rfl⟩

/-- **The encoder ends**, after one turn for every byte that it stores. -/
theorem leaves_encodingTurn (m : Memory UInt8) (pos length : ℕ) :
    ∃ visited, Loops.Leaves encodingTurn ⟨m, pos, length⟩ visited
        (encodingVarLength m pos length) ∧
      visited.length = (Leb128.encode length).length := by
  obtain ⟨visited, r, hleaves, hlen⟩ := exists_leaves_encodingTurn m pos length
  have hfuel : visited.length ≤ length + 1 := by
    rw [hlen]
    exact Leb128.length_encode_le_of_lt_pow (Nat.zero_lt_succ _)
      (Nat.lt_trans (Nat.lt_succ_self _) (Nat.lt_pow_self (by omega)))
  have hr : encodingVarLength m pos length = r :=
    hleaves.fuel_eq encodingLoop_succ hfuel
  exact ⟨visited, hr ▸ hleaves, hlen⟩

/-- A turn of the decoder that asks for another one moves on by one byte. -/
theorem decodingTurn_inl {m : Memory UInt8} {s s' : DecodingState}
    (h : decodingTurn m s = .inl s') :
    s'.pos = s.pos + 1 ∧ s'.multiplier = s.multiplier * 128 := by
  simp only [decodingTurn] at h
  split at h
  · cases h
  · split at h
    · obtain rfl := Sum.inl.inj h
      exact ⟨rfl, rfl⟩
    · cases h

/-- The decoder takes no more turns than the multiplier needs to pass its limit. -/
theorem exists_leaves_decodingTurn (m : Memory UInt8) {n : ℕ} {s : DecodingState}
    (h : 128 * 128 < s.multiplier * 128 ^ (n + 1)) :
    ∃ visited r, Loops.Leaves (decodingTurn m) s visited r ∧ visited.length ≤ n + 1 := by
  induction n generalizing s with
  | zero =>
      rw [Nat.zero_add, pow_one] at h
      exact ⟨_, _, .leave (if_pos h), Nat.le_refl _⟩
  | succ n ih =>
      cases hturn : decodingTurn m s with
      | inr r => exact ⟨_, _, .leave hturn, Nat.succ_le_succ (Nat.zero_le _)⟩
      | inl s' =>
          rw [pow_succ', ← Nat.mul_assoc, ← (decodingTurn_inl hturn).2] at h
          obtain ⟨visited, r, hleaves, hlen⟩ := ih h
          exact ⟨_, _, .again hturn hleaves, Nat.succ_le_succ hlen⟩

/-- The decoder looks at one byte after the other. -/
theorem map_pos_of_leaves {m : Memory UInt8} {s : DecodingState}
    {visited : List DecodingState} {r : Except SystemError (ℕ × ℕ)}
    (h : Loops.Leaves (decodingTurn m) s visited r) :
    visited.map DecodingState.pos = List.range' s.pos visited.length := by
  induction h with
  | leave _ => rfl
  | again hturn _ ih =>
      rw [List.map_cons, ih, List.length_cons, List.range'_succ, (decodingTurn_inl hturn).1]

/-- **The decoder ends** after three turns at most, and looks at the bytes from its start
on, one in every turn. -/
theorem leaves_decodingTurn (m : Memory UInt8) (pos : ℕ) :
    ∃ visited, Loops.Leaves (decodingTurn m) ⟨pos, 1, 0⟩ visited (decodingVarLength m pos) ∧
      visited.length ≤ 3 ∧
      visited.map DecodingState.pos = List.range' pos visited.length := by
  obtain ⟨visited, r, hleaves, hlen⟩ :=
    exists_leaves_decodingTurn m (n := 2) (s := ⟨pos, 1, 0⟩)
      (show 128 * 128 < 1 * 128 ^ 3 by decide)
  have hr : decodingVarLength m pos = r := hleaves.fuel_eq (decodingLoop_succ m) hlen
  exact ⟨visited, hr ▸ hleaves, hlen, map_pos_of_leaves hleaves⟩

/-! ### Decoding what was stored -/

/-- A small byte is the whole length. -/
theorem decodingVarLength_store_of_lt (m : Memory UInt8) (pos : ℕ) {byte : UInt8}
    (h : byte.toNat < 128) (rest : List UInt8) :
    decodingVarLength (m.store pos (byte :: rest)) pos = .ok (byte.toNat, pos + 1) := by
  have hbyte : m.store pos (byte :: rest) pos = byte :=
    Memory.store_add m pos (show 0 < (byte :: rest).length from Nat.zero_lt_succ _)
  rw [decodingVarLength_eq, hbyte, if_pos h]

/-- A large byte needs a small one behind it. -/
theorem decodingVarLength_store_of_le (m : Memory UInt8) (pos : ℕ) {byte : UInt8}
    (h : 128 ≤ byte.toNat) (byte' : UInt8) (rest : List UInt8) :
    decodingVarLength (m.store pos (byte :: byte' :: rest)) pos =
      if byte'.toNat < 128 then .ok (byte.toNat % 128 + 128 * byte'.toNat, pos + 2)
      else .error ⟨20001, "Malformed Remaining Length"⟩ := by
  have hbyte : m.store pos (byte :: byte' :: rest) pos = byte :=
    Memory.store_add m pos (show 0 < (byte :: byte' :: rest).length from Nat.zero_lt_succ _)
  have hbyte' : m.store pos (byte :: byte' :: rest) (pos + 1) = byte' :=
    Memory.store_add m pos (show 1 < (byte :: byte' :: rest).length from
      Nat.succ_lt_succ (Nat.zero_lt_succ _))
  rw [decodingVarLength_eq, hbyte, hbyte', if_neg (Nat.not_lt.mpr h)]

/-- **Decoding an encoded length**, whatever follows it. -/
theorem decodingVarLength_encode (m : Memory UInt8) (pos n : ℕ) (rest : List UInt8) :
    decodingVarLength (m.store pos (Leb128.encode n ++ rest)) pos =
      if n < 16384 then .ok (n, pos + (Leb128.encode n).length)
      else .error ⟨20001, "Malformed Remaining Length"⟩ := by
  rcases Nat.lt_or_ge n 128 with hlt | hge
  · have hbyte : (UInt8.ofNat n).toNat = n := Leb128.toNat_ofNat_of_lt (by omega)
    rw [Leb128.encode_of_lt hlt, List.singleton_append,
      decodingVarLength_store_of_lt m pos (by omega) rest, hbyte, if_pos (by omega)]
    rfl
  have hbyte : (UInt8.ofNat (n % 128) ||| 128).toNat = n % 128 + 128 :=
    Leb128.toNat_ofNat_or_128 (Nat.mod_lt _ (by omega))
  rcases Nat.lt_or_ge n 16384 with hlt | hge'
  · have hbyte' : (UInt8.ofNat (n / 128)).toNat = n / 128 := Leb128.toNat_ofNat_of_lt (by omega)
    have hvalue : (n % 128 + 128) % 128 + 128 * (n / 128) = n := by omega
    rw [Leb128.encode_of_le_of_lt hge hlt, List.cons_append, List.singleton_append,
      decodingVarLength_store_of_le m pos (by omega), hbyte, hbyte', if_pos (by omega), hvalue,
      if_pos hlt]
    rfl
  · have hbyte' : (UInt8.ofNat (n / 128 % 128) ||| 128).toNat = n / 128 % 128 + 128 :=
      Leb128.toNat_ofNat_or_128 (Nat.mod_lt _ (by omega))
    rw [Leb128.encode_eq n, if_neg (by omega), Leb128.encode_eq (n / 128), if_neg (by omega),
      List.cons_append, List.cons_append, decodingVarLength_store_of_le m pos (by omega), hbyte',
      if_neg (by omega), if_neg (by omega)]

/-! ### The bytes that the decoder consumes -/

/-- The bytes that `encoding_var_length` puts at `pos`. -/
def encodedLength (m : Memory UInt8) (pos length : ℕ) : List UInt8 :=
  let (heap, next) := encodingVarLength m pos length
  heap.load pos (next - pos)

/-- The bytes of a length, wherever they are written. -/
theorem encodedLength_eq (m : Memory UInt8) (pos length : ℕ) :
    encodedLength m pos length = Leb128.encode length := by
  simp only [encodedLength, encodingVarLength_eq, Nat.add_sub_cancel_left, Memory.load_store]

/-- A length of two bytes that ends in a zero byte. -/
def NonMinimal (bytes : List UInt8) : Prop :=
  ∃ byte : UInt8, 128 ≤ byte.toNat ∧ bytes = [byte, 0]

/-- Two bytes of which the first one announces the second are the encoding of their value
unless the second one is zero. -/
theorem encode_two_iff {byte byte' : UInt8} (h : 128 ≤ byte.toNat) (h' : byte'.toNat < 128) :
    [byte, byte'] = Leb128.encode (byte.toNat % 128 + 128 * byte'.toNat) ↔ byte' ≠ 0 := by
  have hlt := byte.toNat_lt
  rw [ne_eq, ← UInt8.toNat_inj]
  change _ ↔ ¬ byte'.toNat = 0
  constructor
  · intro heq hzero
    rw [hzero, Leb128.encode_of_lt (by omega)] at heq
    simp at heq
  · intro hne
    rw [Leb128.encode_of_le_of_lt (by omega) (by omega), List.cons_eq_cons, List.cons_eq_cons]
    refine ⟨UInt8.toNat_inj.mp ?_, UInt8.toNat_inj.mp ?_, rfl⟩
    · rw [Leb128.toNat_ofNat_or_128 (by omega)]
      omega
    · rw [Leb128.toNat_ofNat_of_lt (by omega)]
      omega

/-- **What the decoder consumes** of a string of bytes is what the encoder writes for the
value, unless it is a length of two bytes that ends in zero. -/
theorem consumed_eq_encode_iff (m : Memory UInt8) (pos : ℕ) (byte byte' : UInt8)
    (rest : List UInt8) {n next : ℕ}
    (h : decodingVarLength (m.store pos (byte :: byte' :: rest)) pos = .ok (n, next)) :
    n < 16384 ∧ ((byte :: byte' :: rest).take (next - pos) = Leb128.encode n ↔
      ¬ NonMinimal ((byte :: byte' :: rest).take (next - pos))) := by
  refine ⟨(decodingVarLength_ok h).1, ?_⟩
  rcases Nat.lt_or_ge byte.toNat 128 with hlt | hge
  · rw [decodingVarLength_store_of_lt m pos hlt] at h
    simp only [Except.ok.injEq, Prod.mk.injEq] at h
    obtain ⟨rfl, rfl⟩ := h
    rw [Nat.add_sub_cancel_left, List.take_succ_cons, List.take_zero, Leb128.encode_of_lt hlt,
      UInt8.ofNat_toNat]
    refine iff_of_true rfl ?_
    rintro ⟨_, _, heq⟩
    cases heq
  · rw [decodingVarLength_store_of_le m pos hge] at h
    split at h
    · rename_i hlt'
      simp only [Except.ok.injEq, Prod.mk.injEq] at h
      obtain ⟨rfl, rfl⟩ := h
      rw [Nat.add_sub_cancel_left, List.take_succ_cons, List.take_succ_cons, List.take_zero,
        encode_two_iff hge hlt']
      refine not_congr ⟨?_, ?_⟩
      · rintro rfl
        exact ⟨byte, hge, rfl⟩
      · rintro ⟨_, _, heq⟩
        exact (List.cons_eq_cons.mp (List.cons_eq_cons.mp heq).2).1
    · cases h

/-- The decoder accepts a string of bytes exactly if one of the first two bytes ends the
length. -/
theorem decodingVarLength_isOk_iff (m : Memory UInt8) (pos : ℕ) (byte byte' : UInt8)
    (rest : List UInt8) :
    (∃ n next, decodingVarLength (m.store pos (byte :: byte' :: rest)) pos = .ok (n, next)) ↔
      byte &&& 128 = 0 ∨ byte' &&& 128 = 0 := by
  have hand (b : UInt8) : b &&& 128 = 0 ↔ b.toNat < 128 := by
    rw [← not_iff_not, ← ne_eq, Leb128.and_128_ne_zero_iff, Nat.not_lt]
  rw [hand, hand]
  rcases Nat.lt_or_ge byte.toNat 128 with hlt | hge
  · exact iff_of_true ⟨_, _, decodingVarLength_store_of_lt m pos hlt _⟩ (Or.inl hlt)
  · rw [decodingVarLength_store_of_le m pos hge, or_iff_right (Nat.not_lt.mpr hge)]
    by_cases hlt' : byte'.toNat < 128
    · exact iff_of_true ⟨_, _, if_pos hlt'⟩ hlt'
    · rw [if_neg hlt']
      refine iff_of_false ?_ hlt'
      rintro ⟨_, _, heq⟩
      cases heq

/-- **The length field codec.** The encoder ends for every length, and the decoder gives
back the length and the address behind its encoding when the length is below 16384, and
rejects it otherwise. On any bytes the decoder looks at three of them at most, accepts
exactly if one of the first two ends the length, and what it consumes is what the encoder
writes for the value unless it is a length of two bytes that ends in zero. -/
theorem lengthField_codec (m : Memory UInt8) (pos : ℕ) :
    (∀ (n : UInt32) (rest : List UInt8),
      (∃ visited, Loops.Leaves encodingTurn ⟨m, pos, n.toNat⟩ visited
        (encodingVarLength m pos n.toNat)) ∧
      ∀ heap next, encodingVarLength m pos n.toNat = (heap, next) →
        decodingVarLength (heap.store next rest) pos =
          if n.toNat < 16384 then .ok (n.toNat, next)
          else .error ⟨20001, "Malformed Remaining Length"⟩) ∧
    ∀ (byte byte' byte'' : UInt8) (rest bytes : List UInt8),
      bytes = byte :: byte' :: byte'' :: rest →
      (∃ visited, Loops.Leaves (decodingTurn (m.store pos bytes)) ⟨pos, 1, 0⟩ visited
          (decodingVarLength (m.store pos bytes) pos) ∧
        visited.length ≤ 3 ∧
        visited.map DecodingState.pos = List.range' pos visited.length) ∧
      ((∃ n next, decodingVarLength (m.store pos bytes) pos = .ok (n, next)) ↔
        byte &&& 128 = 0 ∨ byte' &&& 128 = 0) ∧
      ∀ n next, decodingVarLength (m.store pos bytes) pos = .ok (n, next) →
        n < 16384 ∧ ∀ (m' : Memory UInt8) (pos' : ℕ),
          (bytes.take (next - pos) = encodedLength m' pos' n ↔
            ¬ NonMinimal (bytes.take (next - pos))) := by
  refine ⟨fun n rest => ⟨?_, fun heap next h => ?_⟩, ?_⟩
  · obtain ⟨visited, hleaves, -⟩ := leaves_encodingTurn m pos n.toNat
    exact ⟨visited, hleaves⟩
  · rw [encodingVarLength_eq, Prod.mk.injEq] at h
    obtain ⟨rfl, rfl⟩ := h
    rw [← Memory.store_append, decodingVarLength_encode]
  · rintro byte byte' byte'' rest bytes rfl
    refine ⟨leaves_decodingTurn _ pos, decodingVarLength_isOk_iff m pos byte byte' _, ?_⟩
    intro n next h
    obtain ⟨hlt, hiff⟩ := consumed_eq_encode_iff m pos byte byte' _ h
    refine ⟨hlt, fun m' pos' => ?_⟩
    rw [encodedLength_eq]
    exact hiff

/-! ### Refusing and storing -/

/-- Any buffer refuses the data that do not fit, and no others. -/
theorem encoding_fst (b : Buffer) (type : UInt8) (data : List UInt8) :
    (b.encoding type data).1 =
      if 1019 < data.length then .error ⟨20011, "Malformed Length"⟩ else .ok () := by
  rw [encoding]
  simp only [paddingLength_eq, Nat.reduceSub, gt_iff_lt]
  by_cases h : 1019 < data.length
  · rw [if_pos h, if_pos h]
  · rw [if_neg h, if_neg h]

/-- **Refused** is what is longer than 1019 bytes. -/
theorem encoding_eq_error_iff (b : Buffer) (type : UInt8) (data : List UInt8) :
    (b.encoding type data).1 = .error ⟨20011, "Malformed Length"⟩ ↔ 1019 < data.length := by
  rw [encoding_fst]
  split <;> simp [*]

/-- **Encoded** is what has 1019 bytes at most. -/
theorem encoding_eq_ok_iff (b : Buffer) (type : UInt8) (data : List UInt8) :
    (b.encoding type data).1 = .ok () ↔ data.length ≤ 1019 := by
  rw [encoding_fst, ← Nat.not_lt]
  split <;> simp [*]

end Buffer

namespace SentFrame

/-- Encoding leaves the header where it is. -/
theorem headerPos_buffer (f : SentFrame) : f.buffer.headerPos = f.sender.headerPos := by
  rw [buffer, Buffer.buffer_eq _ _ f.length_le]
  rfl

/-- The remaining length is the length of the frame. -/
theorem headerPos_add_remainDataLength (f : SentFrame) :
    f.buffer.headerPos + f.buffer.remainDataLength = f.buffer.endPos := by
  rw [buffer, Buffer.buffer_eq _ _ f.length_le]
  simp only [Buffer.setSessionid, Buffer.new, Buffer.reset]
  omega

/-- Nothing is written outside of the block. -/
theorem heap_buffer_of_outside (f : SentFrame) {a : ℕ}
    (h : a < f.sender.headerPos ∨ f.sender.headerPos + 1024 ≤ a) :
    f.buffer.heap a = f.sender.heap a := by
  have hbody := Buffer.length_body f.type f.data
  have hlen := Buffer.length_encode_le f.length_le
  have hdata := f.length_le
  rw [buffer, Buffer.buffer_eq _ _ f.length_le]
  simp only [Buffer.setSessionid, Buffer.new, Buffer.reset]
  rcases h with hlt | hge
  · rw [Memory.store_of_lt _ _ hlt, Memory.store_of_lt _ _ (by omega)]
  · rw [Memory.store_of_le _ (by rw [Buffer.length_htons]; omega),
      Memory.store_of_le _ (by omega)]

/-! ### Frames in a row -/

/-- The session id and the last flag as one number. -/
def number (f : SentFrame) : Fin 65536 :=
  ⟨if f.isLast then f.sessionid + bufferLastFlag else f.sessionid, by
    have hid := f.sessionid_le
    rw [maxSessionID_eq] at hid
    rw [bufferLastFlag_eq]
    split <;> omega⟩

/-- What a frame is encoded from. -/
def content (f : SentFrame) : Fin 65536 × UInt8 × List UInt8 := (f.number, f.type, f.data)

end SentFrame

/-- The bytes of a frame: the number, the type, and the data behind their length. -/
def frameCode (p : Fin 65536 × UInt8 × List UInt8) : List UInt8 :=
  Buffer.htons p.1 ++ ([p.2.1] ++ (Leb128.encode p.2.2.length ++ p.2.2))

/-- What is seen of a frame with the given content. -/
def contentView (p : Fin 65536 × UInt8 × List UInt8) : FrameView where
  sessionid := p.1 % bufferLastFlag
  isLast := decide (bufferLastFlag ≤ p.1)
  type := p.2.1
  dataSize := p.2.2.length
  data := p.2.2

/-- A frame on the wire is the code of its content. -/
theorem SentFrame.wire_eq_frameCode (f : SentFrame) : f.wire = frameCode f.content :=
  f.wire_eq

/-- A frame shows its content. -/
theorem SentFrame.view_eq_contentView (f : SentFrame) : f.view = contentView f.content := by
  have hid := f.sessionid_le
  rw [maxSessionID_eq] at hid
  have hmod : f.sessionid % 32768 = f.sessionid := Nat.mod_eq_of_lt (by omega)
  have hnot : ¬ 32768 ≤ f.sessionid := by omega
  cases hlast : f.isLast with
  | true => simp [view, contentView, content, number, hlast, hmod]
  | false => simp [view, contentView, content, number, hlast, hmod, hnot]

/-- The two bytes of a number tell it. -/
theorem htons_injective : Function.Injective fun n : Fin 65536 => Buffer.htons n := by
  intro a b h
  obtain ⟨hhigh, hlow⟩ := List.cons_eq_cons.mp h
  have hhigh := congrArg UInt8.toNat hhigh
  have hlow := congrArg UInt8.toNat (List.cons_eq_cons.mp hlow).1
  rw [UInt8.toNat_ofNat', UInt8.toNat_ofNat'] at hhigh hlow
  exact Fin.ext (by omega)

/-- **A frame is self-delimiting**: its two first parts have a fixed length, and the length
field tells where it ends and where the data end. -/
theorem frame_selfDelimiting : Codes.SelfDelimiting frameCode :=
  (Codes.selfDelimiting_of_length_eq (fun _ => Buffer.length_htons _) htons_injective).append
    ((Codes.selfDelimiting_of_length_eq (fun _ => List.length_singleton)
      List.singleton_injective).append Leb128.selfDelimiting_encode.lengthPrefixed)

/-- No frame is empty. -/
theorem frameCode_ne_nil (p : Fin 65536 × UInt8 × List UInt8) : frameCode p ≠ [] :=
  List.cons_ne_nil _ _

/-- Frames put in a row can be told apart. -/
theorem map_view_eq_of_flatMap_wire_eq {fs gs : List SentFrame}
    (h : fs.flatMap SentFrame.wire = gs.flatMap SentFrame.wire) :
    fs.map SentFrame.view = gs.map SentFrame.view := by
  have hwire : SentFrame.wire = frameCode ∘ SentFrame.content :=
    funext SentFrame.wire_eq_frameCode
  have hview : SentFrame.view = contentView ∘ SentFrame.content :=
    funext SentFrame.view_eq_contentView
  have hcode : (fs.map SentFrame.content).flatMap frameCode =
      (gs.map SentFrame.content).flatMap frameCode := by
    rw [List.flatMap_map, List.flatMap_map]
    rwa [hwire] at h
  rw [hview, ← List.map_map, ← List.map_map,
    frame_selfDelimiting.flatMap_injective frameCode_ne_nil hcode]

/-- **The wire format.** Data are refused with 20011 exactly if they are longer than 1019
bytes. Otherwise the numbered frame has at most 1024 bytes, all of them inside the block,
the remaining length reaches from `header_pos_` to `end_pos_`, and a buffer that holds the
frame shows the session id, the flag, the type and the data. Lists of frames that put the
same bytes on the wire are equal. -/
theorem wireFormat :
    (∀ (b : Buffer) (type : UInt8) (data : List UInt8),
      ((b.encoding type data).1 = .error ⟨20011, "Malformed Length"⟩ ↔ 1019 < data.length) ∧
      ((b.encoding type data).1 = .ok () ↔ data.length ≤ 1019)) ∧
    (∀ f : SentFrame,
      f.wire.length ≤ 1024 ∧
      (∀ a, a < f.buffer.headerPos ∨ f.buffer.headerPos + 1024 ≤ a →
        f.buffer.heap a = f.sender.heap a) ∧
      f.buffer.headerPos + f.buffer.remainDataLength = f.buffer.endPos ∧
      ∀ u : Uninit, (deliver (Buffer.new u) f.wire).view =
        ⟨f.sessionid, f.isLast, f.type, f.data.length, f.data⟩) ∧
    ∀ fs gs : List SentFrame, fs.flatMap SentFrame.wire = gs.flatMap SentFrame.wire →
      fs.map SentFrame.view = gs.map SentFrame.view := by
  refine ⟨fun b type data => ⟨b.encoding_eq_error_iff type data, b.encoding_eq_ok_iff type data⟩,
    fun f => ⟨f.length_wire_le, ?_, f.headerPos_add_remainDataLength, fun u => ?_⟩, ?_⟩
  · intro a ha
    rw [f.headerPos_buffer] at ha
    exact f.heap_buffer_of_outside ha
  · exact view_deliver u f
  · intro fs gs h
    exact map_view_eq_of_flatMap_wire_eq h

end Yijian
