import Yijian.Lib.Segments
import Yijian.SocketRead

/-!
# A Connection that Receives Segments

`segmentReader` is the connection on which the bytes of a finite stream arrive in given
segments. A request for `n` bytes is answered with at least one byte and at most `n` of
the segment that has arrived, with "read later" where nothing has arrived, and with
nothing where nothing was asked for. Every sequence of results that a connection can give
on the stream is that of some list of segments.

## Convention

On the reading side this is the only connection that is a fixed one. Elsewhere `SslReader` is a
parameter, and the results hold of any connection that keeps its promise. A round trip needs to
know which bytes arrive, and a connection that may answer as it likes tells nothing about them. The
bytes are stored at the address that the caller gives, and nothing else in memory changes. "Read
later" is the error on which the read callback keeps the buffer; other errors belong to other
connections.
-/

namespace Yijian

open Segments

/-- `SSL_read` on a stream that arrives in segments. -/
def segmentRead (segs : List (List UInt8)) (n : ℤ) : SslRead × List (List UInt8) :=
  if n < 0 then
    -- `SSL_ERROR_SSL`: a negative length is refused
    (.failed (.other 1), segs)
  else if n = 0 then
    -- nothing was asked for: the wrapper returns 0
    (.failed .wantAccept, segs)
  else
    match Segments.read n.toNat segs with
    | ([], segs) => (.failed .wantRead, segs)
    | (byte :: bytes, segs) => (.stored (byte :: bytes), segs)

/-- The receiving half of the connection. -/
def segmentReader : SslReader (List (List UInt8)) where
  sslRead := segmentRead
  stored_le := by
    intro segs n bytes segs' h
    rw [segmentRead] at h
    split at h
    · cases h
    split at h
    · cases h
    have hle := length_read_le n.toNat segs
    split at h
    · cases h
    · rename_i hread
      rw [hread] at hle
      obtain ⟨rfl, -⟩ : _ ∧ _ := by simpa using h
      exact ⟨Nat.zero_lt_succ _, by simp only at hle; omega⟩

variable {st : ReadState (List (List UInt8))}

/-- Asking for nothing changes nothing. -/
theorem socketReadAt_segment_zero (pos : ℕ) :
    socketReadAt segmentReader st pos 0 =
      (.ok 0, { st with requests := st.requests ++ [⟨st.buf.headerPos, pos, 0⟩] }) := by
  have hzero : toInt 0 = 0 := toInt_of_lt (by norm_num)
  have hread : segmentReader.sslRead st.ssl 0 = (.failed .wantAccept, st.ssl) := by
    change segmentRead st.ssl 0 = _
    rw [segmentRead, if_neg (by omega), if_pos rfl]
  simp only [socketReadAt, hzero, hread, readFailure]

/-- A call that asks for something gets bytes, or is told to come back. -/
theorem segmentRead_of_pos {n : ℕ} (hpos : 0 < n) (segs : List (List UInt8)) :
    segmentReader.sslRead segs n =
      match Segments.read n segs with
      | ([], segs) => (.failed .wantRead, segs)
      | (byte :: bytes, segs) => (.stored (byte :: bytes), segs) := by
  change segmentRead segs n = _
  rw [segmentRead, if_neg (by omega), if_neg (by omega), Int.toNat_natCast]

/-- A request for some bytes takes one read of the stream. -/
theorem socketReadAt_segment {count : ℕ} (hpos : 0 < count) (hlt : count < 2 ^ 31) (pos : ℕ) :
    socketReadAt segmentReader st pos count =
      (if (Segments.read count st.ssl).1 = [] then .error ⟨20012, "read later"⟩
        else .ok (Segments.read count st.ssl).1.length,
        { buf := { st.buf with heap := st.buf.heap.store pos (Segments.read count st.ssl).1 }
          ssl := (Segments.read count st.ssl).2
          requests := st.requests ++ [⟨st.buf.headerPos, pos, count⟩] }) := by
  rw [socketReadAt]
  simp only [toInt_of_lt hlt, segmentRead_of_pos hpos]
  rcases Segments.read count st.ssl with ⟨_ | ⟨byte, bytes⟩, segs⟩
  · simp [readFailure]
  · simp

end Yijian
