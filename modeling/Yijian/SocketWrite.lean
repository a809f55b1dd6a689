import Yijian.Lib.Chunks
import Yijian.SocketRead

/-!
# Writing a Frame to a Socket

`buffer::socket_write(SSL*)` asks the connection to write what remains of the frame from
the cursor on. It subtracts what was written from the remaining length; the cursor stays
where it is.

`SSL_write` is code outside the repository. `SslWriter` is what the writer relies on: a
call writes at least one of the bytes it is given, from the first one on, or fails.
`fullWriter` is the connection that always writes all of them.

## Relation to `Yijian.SocketRead`

The two halves of the class are alike but for one line: the reader moves its cursor behind what it
has read, and the writer leaves it where it is. A write that takes the whole frame does not show
it, and so most of the development goes on with connections that write a frame whole (`fullWriter`,
and `WholeWriter` in `Yijian.ClientWriter`): that a write which succeeds has taken everything is
the default of the library, and the line of the server that would change it is commented out. This
module is about the others. The counts of the writes are then a parameter, whose sum may be at most
the length of the frame, and the wire is what they come to, byte by byte.

## Main results

* `socketWrite_fullWriter`: a frame that remains is written at once and is finished.
* `socketWrite_fullWriter_empty`: a frame of which nothing remains writes nothing.
* `writesExactly_iff`: written in several pieces, a frame reaches the other end unchanged
  exactly if every piece repeats the first bytes of the frame.
-/

namespace Yijian

/-- The result of a call of `SSL_write`: the number of bytes it wrote, or the error that
`SSL_get_error` reports after it. -/
inductive SslWrite
  | written (n : ℕ)
  | failed (error : SslError)
deriving DecidableEq, Repr

/-- A connection as the writer sees it: `sslWrite s bytes` is `SSL_write` of `bytes` in the
connection state `s`. -/
structure SslWriter (σ : Type) where
  sslWrite : σ → List UInt8 → SslWrite × σ
  /-- A successful call writes between one byte and all of them. -/
  written_le : ∀ {s : σ} {bytes : List UInt8} {n : ℕ} {s' : σ},
    sslWrite s bytes = (.written n, s') → 0 < n ∧ n ≤ bytes.length

variable {σ : Type}

/-- The failing branch of `buffer::socket_write(SSL*, char*, size_t)`: what it throws, or
zero bytes while the handshake is not over. -/
def writeFailure : SslError → Except SystemError ℕ
  | .zeroReturn => .error ⟨20009, "connection has been closed"⟩
  | .wantWrite => .error ⟨20024, "write again now"⟩
  | .wantConnect => .ok 0
  | .wantAccept => .ok 0
  | .wantX509Lookup => .error ⟨20020, "SSL_ERROR_WANT_X509_LOOKUP"⟩
  | .syscall errno => .error ⟨20022, "SSL_ERROR_SYSCALL no: " ++ toString errno⟩
  | .wantRead => .error ⟨20023, "other error no: " ++ toString 2⟩
  | .other error => .error ⟨20023, "other error no: " ++ toString error⟩

/-- `buffer::socket_write(SSL*, char*, size_t)`. -/
def socketWriteAt (W : SslWriter σ) (s : σ) (m : Memory UInt8) (pos count : ℕ) :
    Except SystemError ℕ × σ :=
  match W.sslWrite s (m.load pos (toInt count).toNat) with
  | (.written n, s) => (.ok n, s)
  | (.failed error, s) => (writeFailure error, s)

/-- `buffer::socket_write(SSL*)`. -/
def socketWrite (W : SslWriter σ) (s : σ) (b : Buffer) : Except SystemError Bool × σ × Buffer :=
  match socketWriteAt W s b.heap b.currentPos b.remainDataLength with
  | (.error e, s) => (.error e, s, b)
  | (.ok writed, s) =>
      let b := { b with remainDataLength := subWrap 64 b.remainDataLength writed }
      let b := { b with isFinish := b.remainDataLength == 0 || b.isFinish }
      (.ok b.isFinish, s, b)

/-- A connection that writes all bytes it is given to the list of the sent ones; where it
is given none it writes none and reports `error`. -/
def fullWriter (error : SslError) : SslWriter (List UInt8) where
  sslWrite sent bytes :=
    if bytes = [] then (.failed error, sent) else (.written bytes.length, sent ++ bytes)
  written_le := by
    intro sent bytes n sent' h
    split at h
    · cases h
    · rename_i hne
      obtain ⟨hn, -⟩ : bytes.length = n ∧ _ := by simpa using h
      exact ⟨hn ▸ List.length_pos_iff.mpr hne, Nat.le_of_eq hn.symm⟩

/-- The bytes that remain of a frame. -/
def Buffer.remaining (b : Buffer) : List UInt8 := b.heap.load b.currentPos b.remainDataLength

/-- **A frame that remains** is written at once and is finished. -/
theorem socketWrite_fullWriter (error : SslError) (sent : List UInt8) {b : Buffer}
    (hpos : 0 < b.remainDataLength) (hlt : b.remainDataLength < 2 ^ 31) :
    socketWrite (fullWriter error) sent b =
      (.ok true, sent ++ b.remaining, { b with remainDataLength := 0, isFinish := true }) := by
  have hne : b.remaining ≠ [] := by
    rw [← List.length_pos_iff, Buffer.remaining, Memory.length_load]
    exact hpos
  have hsub : subWrap 64 (b.remainDataLength : ℤ) (b.remainDataLength : ℤ) = 0 := by
    have hsub := subWrap_of_le (w := 64) (Int.le_refl (b.remainDataLength : ℤ)) (by omega)
    omega
  have hwrite : socketWriteAt (fullWriter error) sent b.heap b.currentPos b.remainDataLength =
      (.ok b.remainDataLength, sent ++ b.remaining) := by
    rw [socketWriteAt, toInt_of_lt hlt, Int.toNat_natCast]
    simp only [fullWriter]
    rw [Buffer.remaining] at hne ⊢
    rw [if_neg hne, Memory.length_load]
  rw [socketWrite, hwrite]
  simp only [hsub, beq_self_eq_true, Bool.true_or]

/-- **A frame of which nothing remains** writes nothing: it counts as finished, or the
error that the connection reports for an empty write is thrown. -/
theorem socketWrite_fullWriter_empty (error : SslError) (sent : List UInt8) {b : Buffer}
    (hzero : b.remainDataLength = 0) :
    socketWrite (fullWriter error) sent b =
      match writeFailure error with
      | .ok _ => (.ok true, sent, { b with isFinish := true })
      | .error e => (.error e, sent, b) := by
  have hwrite : socketWriteAt (fullWriter error) sent b.heap b.currentPos b.remainDataLength =
      (writeFailure error, sent) := by
    have hint : (toInt 0).toNat = 0 := by
      rw [toInt_of_lt (by norm_num)]
      rfl
    rw [socketWriteAt, hzero, hint, Memory.load_zero]
    rfl
  rw [socketWrite, hwrite]
  cases hfail : writeFailure error with
  | error e => rfl
  | ok n =>
      have hn : n = 0 := by
        cases error <;> simp [writeFailure] at hfail <;> exact hfail.symm
      have hsub : subWrap 64 (b.remainDataLength : ℤ) (n : ℤ) = b.remainDataLength := by
        have hsub := subWrap_of_le (w := 64) (a := b.remainDataLength) (b := n)
          (by omega) (by omega)
        omega
      simp only [hsub]
      simp only [hzero, beq_self_eq_true, Bool.true_or]

/-! ### Short writes -/

/-- A connection that writes the given numbers of bytes, one number a call, and keeps the
bytes that were written. Without a number that fits, it asks to be called again. -/
def countedWriter : SslWriter (List ℕ × List UInt8) where
  sslWrite
    | ([], sent), _ => (.failed .wantWrite, ([], sent))
    | (n :: counts, sent), bytes =>
        if 0 < n ∧ n ≤ bytes.length then (.written n, (counts, sent ++ bytes.take n))
        else (.failed .wantWrite, (n :: counts, sent))
  written_le := by
    rintro ⟨_ | ⟨m, counts⟩, sent⟩ bytes n s' h
    · cases h
    · simp only at h
      split at h
      · rename_i hm
        obtain ⟨rfl, -⟩ : m = n ∧ _ := by simpa using h
        exact hm
      · cases h

/-- `socket_write` called until it returns true, at most `calls` times. -/
def socketWriteUntil (W : SslWriter σ) :
    (calls : ℕ) → σ → Buffer → Except SystemError Bool × σ × Buffer
  | 0, s, b => (.ok false, s, b)
  | calls + 1, s, b =>
      match socketWrite W s b with
      | (.ok false, s, b) => socketWriteUntil W calls s b
      | r => r

/-- The calls for a frame on a connection that writes `counts`. -/
def writeCounts (b : Buffer) (counts : List ℕ) :
    Except SystemError Bool × (List ℕ × List UInt8) × Buffer :=
  socketWriteUntil countedWriter counts.length (counts, []) b

/-- The frames that are written: encoded, and numbered before they are sent. -/
inductive EncodedFrame : Buffer → Prop
  | encoding (u : Uninit) (type : UInt8) (data : List UInt8)
      (h : (Buffer.buffer u type data).1 = .ok ()) : EncodedFrame (Buffer.buffer u type data).2
  | setSessionid {b : Buffer} (h : EncodedFrame b) (sessionid : ℕ) (isLast : Bool) :
      EncodedFrame (b.setSessionid sessionid isLast)

/-- A frame of which nothing was written yet. -/
structure Buffer.Unwritten (b : Buffer) : Prop where
  currentPos : b.currentPos = b.headerPos
  endPos : b.endPos = b.headerPos + b.remainDataLength
  remain_pos : 0 < b.remainDataLength
  remain_lt : b.remainDataLength < 2 ^ 31
  isFinish : b.isFinish = false

/-- Nothing of an encoded frame has been written. -/
theorem EncodedFrame.unwritten {b : Buffer} (h : EncodedFrame b) : b.Unwritten := by
  induction h with
  | encoding u type data h =>
      have hlen : data.length ≤ 1019 := by
        by_contra hlong
        rw [Buffer.buffer_error u type (by omega)] at h
        cases h
      have hfield := Buffer.length_encode_le hlen
      rw [Buffer.buffer_eq u type hlen]
      exact
        { currentPos := rfl
          endPos := by simp only [Buffer.new, Buffer.reset]; omega
          remain_pos := by simp only; omega
          remain_lt := by simp only; omega
          isFinish := rfl }
  | setSessionid _ sessionid isLast ih =>
      exact ⟨ih.currentPos, ih.endPos, ih.remain_pos, ih.remain_lt, ih.isFinish⟩

/-- A frame that has not been written remains whole. -/
theorem Buffer.Unwritten.size {b : Buffer} (h : b.Unwritten) : b.size = b.remainDataLength := by
  rw [Buffer.size, h.endPos, Nat.add_sub_cancel_left]

/-- **One short write** sends the first bytes from the cursor on, and leaves the cursor
where it was. -/
theorem socketWrite_countedWriter {n : ℕ} {counts : List ℕ} {sent : List UInt8} {b : Buffer}
    (hpos : 0 < n) (hle : n ≤ b.remainDataLength) (hlt : b.remainDataLength < 2 ^ 31)
    (hfin : b.isFinish = false) :
    socketWrite countedWriter (n :: counts, sent) b =
      (.ok (decide (n = b.remainDataLength)),
        (counts, sent ++ b.heap.load b.currentPos n),
        { b with
          remainDataLength := b.remainDataLength - n
          isFinish := decide (n = b.remainDataLength) }) := by
  have hsub : subWrap 64 (b.remainDataLength : ℤ) (n : ℤ) = b.remainDataLength - n := by
    have hsub := subWrap_of_le (w := 64) (a := b.remainDataLength) (b := n) (by omega) (by omega)
    omega
  have htake : (b.heap.load b.currentPos b.remainDataLength).take n =
      b.heap.load b.currentPos n := by
    obtain ⟨rest, hrest⟩ := Nat.exists_eq_add_of_le hle
    rw [hrest, Memory.load_add, List.take_left' (Memory.length_load _ _ _)]
  have hdone : (b.remainDataLength - n == 0 || b.isFinish) =
      decide (n = b.remainDataLength) := by
    rw [hfin, Bool.or_false, Bool.eq_iff_iff, beq_iff_eq, decide_eq_true_iff]
    omega
  have hwrite : socketWriteAt countedWriter (n :: counts, sent) b.heap b.currentPos
      b.remainDataLength = (.ok n, (counts, sent ++ b.heap.load b.currentPos n)) := by
    rw [socketWriteAt, toInt_of_lt hlt, Int.toNat_natCast]
    simp only [countedWriter, Memory.length_load]
    rw [if_pos ⟨hpos, hle⟩, htake]
  rw [socketWrite, hwrite]
  simp only [hsub, hdone]

/-- **The calls for a frame.** They return true as soon as the counts make up what
remained, and every one of them has sent the bytes from the cursor on. -/
theorem socketWriteUntil_countedWriter {counts : List ℕ} (sent : List UInt8) {b : Buffer}
    (hpos : ∀ n ∈ counts, 0 < n) (hsum : counts.sum ≤ b.remainDataLength)
    (hremain : 0 < b.remainDataLength) (hlt : b.remainDataLength < 2 ^ 31)
    (hfin : b.isFinish = false) :
    (socketWriteUntil countedWriter counts.length (counts, sent) b).1 =
        .ok (decide (counts.sum = b.remainDataLength)) ∧
      (socketWriteUntil countedWriter counts.length (counts, sent) b).2.1.2 =
        sent ++ counts.flatMap fun n => b.heap.load b.currentPos n := by
  induction counts generalizing sent b with
  | nil =>
      have hne : ¬ ([] : List ℕ).sum = b.remainDataLength := by
        rw [List.sum_nil]
        omega
      rw [decide_eq_false hne, List.flatMap_nil, List.append_nil]
      exact ⟨rfl, rfl⟩
  | cons n counts ih =>
      rw [List.sum_cons] at hsum ⊢
      have hn : 0 < n := hpos n List.mem_cons_self
      have hcounts : ∀ m ∈ counts, 0 < m := fun m hm => hpos m (List.mem_cons_of_mem _ hm)
      rw [List.length_cons, socketWriteUntil,
        socketWrite_countedWriter hn (by omega) hlt hfin, List.flatMap_cons, ← List.append_assoc]
      by_cases hdone : n = b.remainDataLength
      · -- the frame is finished, and no count is left
        obtain rfl : counts = [] := by
          rcases counts with _ | ⟨m, counts⟩
          · rfl
          · have hm : 0 < m := hcounts m List.mem_cons_self
            rw [List.sum_cons] at hsum
            omega
        have hsum' : n + ([] : List ℕ).sum = b.remainDataLength := by
          rw [List.sum_nil, hdone, Nat.add_zero]
        rw [decide_eq_true hdone, decide_eq_true hsum', List.flatMap_nil, List.append_nil]
        exact ⟨rfl, rfl⟩
      · obtain ⟨hreturns, hsent⟩ := ih (sent ++ b.heap.load b.currentPos n)
          (b := { b with remainDataLength := b.remainDataLength - n, isFinish := false })
          hcounts (by simp only; omega) (by simp only; omega) (by simp only; omega) rfl
        have hsum' : (n + counts.sum = b.remainDataLength) ↔
            counts.sum = b.remainDataLength - n := by omega
        rw [decide_eq_false hdone]
        exact ⟨hreturns.trans (by simp only [hsum']), hsent⟩

/-- What the calls for a frame are to do, having written `counts`: put the first bytes of
the frame on the wire, and return true exactly when all of them are written. -/
structure WritesExactly (b : Buffer) (counts : List ℕ) : Prop where
  returns : (writeCounts b counts).1 = .ok (decide (counts.sum = b.size))
  sent : (writeCounts b counts).2.1.2 = b.wire.take counts.sum

/-- Every write sends bytes that agree with the first bytes of the frame. The first write
always does. -/
def RepeatsBeginning (frame : List UInt8) (counts : List ℕ) : Prop :=
  ∀ before n after, counts = before ++ n :: after →
    (frame.drop before.sum).take n = frame.take n

/-- **Writing a frame in pieces.** Every write starts at the beginning of the frame, so the
frame is written as it is exactly if the pieces repeat its first bytes. -/
theorem writesExactly_iff {b : Buffer} (hb : EncodedFrame b) {counts : List ℕ}
    (hpos : ∀ n ∈ counts, 0 < n) (hsum : counts.sum ≤ b.size) :
    WritesExactly b counts ↔ RepeatsBeginning b.wire counts := by
  have hnew := hb.unwritten
  rw [hnew.size] at hsum
  obtain ⟨hreturns, hsent⟩ := socketWriteUntil_countedWriter [] hpos hsum hnew.remain_pos
    hnew.remain_lt hnew.isFinish
  have hpiece : ∀ n ∈ counts, b.heap.load b.currentPos n = b.wire.take n := by
    intro n hn
    have hle : n ≤ counts.sum := by
      obtain ⟨before, after, hsplit⟩ := List.append_of_mem hn
      rw [hsplit, List.sum_append, List.sum_cons]
      omega
    obtain ⟨rest, hrest⟩ := Nat.exists_eq_add_of_le (hle.trans hsum)
    rw [Buffer.wire, hnew.size, hrest, hnew.currentPos, Memory.load_add,
      List.take_left' (Memory.length_load _ _ _)]
  have hwire : b.wire.length = b.remainDataLength := by
    rw [Buffer.wire, Memory.length_load, hnew.size]
  rw [List.nil_append, List.flatMap_congr hpiece] at hsent
  have hiff := Chunks.flatMap_take_eq_drop_iff b.wire counts (k := 0) (by omega)
  simp only [List.drop_zero, Nat.zero_add] at hiff
  rw [← hnew.size] at hreturns
  constructor
  · rintro ⟨-, hexact⟩
    exact hiff.mp (hsent.symm.trans hexact)
  · intro hrepeats
    exact ⟨hreturns, hsent.trans (hiff.mpr hrepeats)⟩

/-- The frame of an empty message of the type 3 with the number 100 as its last frame. -/
def shortFrame : Buffer :=
  (Buffer.buffer ⟨0, fun _ => 0, 0, 0, 0, 0, 0⟩ 3 []).2.setSessionid 100 true

/-- Four frame bytes that are written one and three at a time: the second write sends the
first byte again and leaves out the last one. -/
theorem writesExactly_shortFrame : ¬ WritesExactly shortFrame [1, 3] := by
  intro h
  have hsent : [128, 128, 100, 3] = [128, 100, 3, (0 : UInt8)] := h.sent
  exact absurd hsent (by decide)

/-- A frame of three zero bytes of the type 0 with the number 0 that others follow: all its
bytes but the length are zero. -/
def zeroFrame : Buffer :=
  (Buffer.buffer ⟨0, fun _ => 0, 0, 0, 0, 0, 0⟩ 0 [0, 0, 0]).2.setSessionid 0 false

/-- The bytes of `zeroFrame` from the fifth on are those at its beginning. -/
theorem repeatsBeginning_zeroFrame : RepeatsBeginning zeroFrame.wire [4, 1, 2] := by
  have hiff := Chunks.flatMap_take_eq_drop_iff zeroFrame.wire [4, 1, 2] (k := 0) (by decide)
  simp only [List.drop_zero, Nat.zero_add] at hiff
  exact hiff.mp (by decide)

/-- Short writes on both sides of the condition: two of `shortFrame`, which are not exact, and
three of `zeroFrame`, which are. -/
theorem writesExactly_iff_shortFrame :
    (WritesExactly shortFrame [1, 3] ↔ RepeatsBeginning shortFrame.wire [1, 3]) ∧
      WritesExactly zeroFrame [4, 1, 2] :=
  ⟨writesExactly_iff (.setSessionid (.encoding ⟨0, fun _ => 0, 0, 0, 0, 0, 0⟩ 3 [] rfl) 100 true)
      (by decide) (by decide),
    (writesExactly_iff
      (.setSessionid (.encoding ⟨0, fun _ => 0, 0, 0, 0, 0, 0⟩ 0 [0, 0, 0] rfl) 0 false)
      (by decide) (by decide)).mpr repeatsBeginning_zeroFrame⟩

end Yijian
