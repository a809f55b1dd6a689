import Yijian.Fragment
import Yijian.SessionNumbers

/-!
# The Numbers of a Client

A client takes its counter from the answer to its ClientConnect, and `client_send` numbers
every message with it, whatever the type. The server numbers the types of `missing_check` only,
and expects 0 for the others. The counter of the client runs through all of `uint16_t`, that of
the server goes back to 100 behind 32767.

Client and server are joined by the frames on their way, in both directions as bytes. What else
the server does between two frames of the client is free.

## Convention

The counters start where the answer to a ClientConnect sets them, which the client does when it
reads that answer, whatever has been sent in between. A frame of the client is numbered once, when
`client_send` takes it, and travels as bytes: the mark of a last frame is added to the number in 16
bits, so what arrives of a large number is a smaller one, without the mark. The condition is
on each delivery, by the numbers of the two sides before it and by the type of the message. It
counts the messages without a number too, which move the counter of the client and not the one of
the server.

## Main results

* `NumbersAgree.verdict_ne`: what agreement means for the tasks of the workers.
* `deliver_setSessionid`: what arrives of a number that has more than 15 bits.
* `ClientInv.deliver`: what a delivery does to the counters of the two, and when they agree.
* `Connected.numbers_agree_iff`: when no message of a run is answered with 11010.
* `not_numbers_agree`: a message without number, and the number 32767.
-/

namespace Yijian

open Runs

/-! ### The client -/

/-- `client_send`: the frame is marked as the last one of its message. -/
def clientSend (sessionid : ℕ) (b : Buffer) : Buffer × ℕ :=
  (b.setSessionid sessionid true, (sessionid + 1) % 2 ^ 16)

/-- The read callback of the client, on a complete frame. -/
def clientReadCallback (sessionid : ℕ) (b : Buffer) : ℕ :=
  if b.datatype = ChatType.clientconnectres.code then b.sessionId else sessionid

/-- The counter of the client after frames that it has read, each into a new buffer; `v j` is
what the buffer of the frame `j` finds. -/
def clientReceive (v : ℕ → Uninit) : (j sessionid : ℕ) → List (List UInt8) → ℕ
  | _, sessionid, [] => sessionid
  | j, sessionid, bytes :: rest =>
      clientReceive v (j + 1)
        (clientReadCallback sessionid (deliver (Buffer.new (v j)) bytes)) rest

/-- A message of a client, which fits a frame. The two types that the event loop handles
itself are sent by servers. -/
structure ClientMessage where
  u : Uninit
  type : UInt8
  data : List UInt8
  data_le : data.length ≤ 1019
  type_ne : type ≠ ChatType.serverconnect.code ∧ type ≠ ChatType.serverdisconnect.code

/-- The buffer of the message. -/
def ClientMessage.buffer (m : ClientMessage) : Buffer := (Buffer.buffer m.u m.type m.data).2

/-- The type is one of `missing_check`. -/
def ClientMessage.checked (m : ClientMessage) : Bool := missingCheck m.type

/-! ### The client and the server -/

variable {ι : Type} [DecidableEq ι]

/-- The server, the counter of the client, and the frames on their way to the server. -/
structure ClientRun (ι : Type) where
  server : Server ι
  sessionid : ℕ
  wire : List (List UInt8)

/-- A step of the two: the client sends a message, the server reads the next frame, or it does
something that neither reads from the connection `i` nor connects it. -/
inductive ClientEvent (ι : Type) (i : ι)
  | send (m : ClientMessage)
  | deliver (u : Uninit × Uninit)
  | server (e : Event ι) (h : ¬ e.readsFrom i ∧ ¬ e.connects i)

/-- One step. -/
def clientStep (extra : Reply → ℕ) (i : ι) (t : ClientRun ι) : ClientEvent ι i → ClientRun ι
  | .send m =>
      { t with
        sessionid := (clientSend t.sessionid m.buffer).2
        wire := t.wire ++ [(clientSend t.sessionid m.buffer).1.wire] }
  | .deliver u =>
      match t.wire with
      | [] => t
      | bytes :: rest =>
          { t with
            server := step extra t.server (.frame i (deliver (Buffer.new u.1) bytes) u.2)
            wire := rest }
  | .server e _ => { t with server := step extra t.server e }

/-- The messages that are delivered, with those on their way at first. -/
def delivered {i : ι} : List ClientMessage → List (ClientEvent ι i) → List ClientMessage
  | _, [] => []
  | pending, .send m :: es => delivered (pending ++ [m]) es
  | [], .deliver _ :: es => delivered [] es
  | m :: pending, .deliver _ :: es => m :: delivered pending es
  | pending, .server _ _ :: es => delivered pending es

/-! ### What is answered -/

/-- What `dispatch` decides on a task. -/
def Work.verdict (isConnect : Bool) (w : Work) : Option Verdict :=
  w.spVec.getLast?.map fun back =>
    dispatchGate isConnect back.datatype back.sessionId w.sessionid

/-- The tasks that a frame on the connection `i` leads to. -/
def Server.handed (s : Server ι) (i : ι) (back : Buffer) (u : Uninit) : List Work :=
  match s.nodes i with
  | none => []
  | some node => if node.watching then (readComplete u node.io back).1.work else []

/-- The tasks that a step leads to. -/
def ClientRun.handed {i : ι} (t : ClientRun ι) : ClientEvent ι i → List Work
  | .send _ => []
  | .deliver u =>
      match t.wire with
      | [] => []
      | bytes :: _ => t.server.handed i (deliver (Buffer.new u.1) bytes) u.2
  | .server _ _ => []

/-- The message that a step delivers is never answered with the error 11010, whenever it is
dispatched. -/
def NumbersAgree (i : ι) (t : ClientRun ι) (e : ClientEvent ι i) : Prop :=
  ∀ w ∈ t.handed e, ∀ isConnect errmsg, w.verdict isConnect ≠ some (.reject 11010 errmsg)

omit [DecidableEq ι] in
/-- What `dispatch` decides on a task depends on the task and the connection. -/
theorem Server.verdict_eq (s : Server ι) (i : ι) (k : ℕ) :
    s.verdict i k = (s.nodes i).bind fun node =>
      (node.work[k]?).bind (Work.verdict node.io.isConnect) := by
  rw [Server.verdict]
  cases s.nodes i with
  | none => rfl
  | some node =>
      cases hw : node.work[k]? with
      | none => simp [hw]
      | some w => cases hback : w.spVec.getLast? <;> simp [hw, hback, Work.verdict]

/-- A frame puts its tasks behind those of the connection. -/
theorem work_frame (extra : Reply → ℕ) {s : Server ι} {i : ι} {node : Node}
    (hnode : s.nodes i = some node) (back : Buffer) (u : Uninit) :
    ∃ node', (step extra s (.frame i back u)).nodes i = some node' ∧
      node'.work = node.work ++ s.handed i back u := by
  rw [step, readFrame, Server.handed, hnode]
  cases hwatch : node.watching with
  | false => exact ⟨node, by simp [hwatch, hnode], by simp [hwatch]⟩
  | true =>
      simp only [hwatch, if_true]
      exact ⟨_, s.setNode_self i _, rfl⟩

/-- **What the tasks come to**: where the numbers agree, `dispatch` will not decide on 11010 for
any task that the delivery has put behind those of the connection. -/
theorem NumbersAgree.verdict_ne (extra : Reply → ℕ) {i : ι} {t : ClientRun ι} {u : Uninit × Uninit}
    (h : NumbersAgree i t (.deliver u)) {node : Node} (hnode : t.server.nodes i = some node)
    {k : ℕ} (hk : node.work.length ≤ k) (errmsg : String) :
    (clientStep extra i t (.deliver u)).server.verdict i k ≠ some (.reject 11010 errmsg) := by
  rw [NumbersAgree] at h
  simp only [ClientRun.handed] at h
  rw [clientStep, Server.verdict_eq]
  cases hwire : t.wire with
  | nil =>
      simp only [hnode, Option.bind_some, List.getElem?_eq_none hk, Option.bind_none]
      exact nofun
  | cons bytes rest =>
      simp only [hwire] at h
      obtain ⟨node', hnode', hwork⟩ := work_frame extra hnode
        (Yijian.deliver (Buffer.new u.1) bytes) u.2
      simp only [hnode', Option.bind_some, hwork, List.getElem?_append_right hk]
      cases hw : (t.server.handed i (Yijian.deliver (Buffer.new u.1) bytes)
          u.2)[k - node.work.length]? with
      | none => exact nofun
      | some w => exact h w (List.mem_of_getElem? hw) node'.io.isConnect errmsg

/-- A message is answered with 11010 if it has another number than the server gives it. -/
theorem dispatchGate_ne_wrong {isConnect : Bool} {datatype : UInt8}
    {dataSessionid sessionid : ℕ} :
    (∀ errmsg, dispatchGate isConnect datatype dataSessionid sessionid ≠ .reject 11010 errmsg) ↔
      sessionid = dataSessionid := by
  rw [dispatchGate]
  split
  · rename_i heq
    refine iff_of_true (fun errmsg h => ?_) heq
    split at h <;> split at h <;> simp at h
  · rename_i hne
    exact iff_of_false (fun h => h _ rfl) hne

/-! ### Numbers on the wire -/

/-- The header has 15 bits for the number; a number with 16 bits flips the flag. -/
theorem wire_setSessionid_mod (b : Buffer) {sessionid : ℕ} (hlt : sessionid < 2 ^ 16)
    (isLast : Bool) :
    (b.setSessionid sessionid isLast).wire =
      (b.setSessionid (sessionid % 2 ^ 15) (isLast ^^ decide (2 ^ 15 ≤ sessionid))).wire := by
  have hflag : bufferLastFlag = 2 ^ 15 := rfl
  have hloc : (if isLast then (sessionid + bufferLastFlag) % 2 ^ 16 else sessionid) =
      if isLast ^^ decide (2 ^ 15 ≤ sessionid) then
        (sessionid % 2 ^ 15 + bufferLastFlag) % 2 ^ 16
      else sessionid % 2 ^ 15 := by
    rw [hflag]
    by_cases hbig : 2 ^ 15 ≤ sessionid
    · rw [decide_eq_true hbig]
      cases isLast <;> simp <;> omega
    · rw [decide_eq_false hbig]
      cases isLast <;> simp <;> omega
  simp only [Buffer.setSessionid, hloc]
  rfl

/-- **A number that arrives** has 15 bits. -/
theorem deliver_setSessionid (u v : Uninit) (type : UInt8) {sessionid : ℕ}
    (hlt : sessionid < 2 ^ 16) {c : List UInt8} (hc : c.length ≤ 1019) (isLast : Bool) :
    (deliver (Buffer.new v)
        ((Buffer.buffer u type c).2.setSessionid sessionid isLast).wire).view =
      ⟨sessionid % 2 ^ 15, isLast ^^ decide (2 ^ 15 ≤ sessionid), type, c.length, c⟩ := by
  rw [wire_setSessionid_mod _ hlt]
  have hid : sessionid % 2 ^ 15 ≤ maxSessionID := by
    rw [maxSessionID_eq]
    omega
  exact deliver_piece u v type hid hc _

/-! ### The two counters -/

/-- The counter of the server after a message that arrives with the counter `c` of the client:
behind 32767 the frame is not the last one of its message. -/
def counterBehind (x c : ℕ) (m : ClientMessage) : ℕ :=
  if c < 2 ^ 15 ∧ m.checked = true then nextCounter x else x

/-- The frames of messages that are numbered from `c` on. -/
def wireOf : ℕ → List ClientMessage → List (List UInt8)
  | _, [] => []
  | c, m :: ms => (m.buffer.setSessionid c true).wire :: wireOf ((c + 1) % 2 ^ 16) ms

/-- The last message has the last number. -/
theorem wireOf_append (c : ℕ) (ms : List ClientMessage) (m : ClientMessage) (hlt : c < 2 ^ 16) :
    wireOf c (ms ++ [m]) =
      wireOf c ms ++ [(m.buffer.setSessionid ((c + ms.length) % 2 ^ 16) true).wire] := by
  induction ms generalizing c with
  | nil =>
      rw [List.nil_append, wireOf, wireOf, wireOf, List.length_nil, Nat.add_zero,
        Nat.mod_eq_of_lt hlt, List.nil_append]
  | cons m' ms ih =>
      have hnext : ((c + 1) % 2 ^ 16 + ms.length) % 2 ^ 16 = (c + (m' :: ms).length) % 2 ^ 16 := by
        rw [List.length_cons, Nat.mod_add_mod, Nat.add_assoc, Nat.add_comm 1]
      rw [List.cons_append, wireOf, ih _ (Nat.mod_lt _ (by decide)), hnext, wireOf,
        List.cons_append]

/-- The counter of the server stands at `x`, and the frames on their way are those of the
messages `pending`, numbered from `c` on. -/
structure ClientInv (i : ι) (x c : ℕ) (pending : List ClientMessage) (t : ClientRun ι) : Prop where
  node : ∃ node, t.server.nodes i = some node ∧ node.watching = true ∧ node.io.sessionid = x
  wire : t.wire = wireOf c pending
  sessionid : t.sessionid = (c + pending.length) % 2 ^ 16
  lt : c < 2 ^ 16

/-- The last frame of a message of a client becomes a task, with 0 or the number that is
expected. -/
theorem work_readComplete (u : Uninit) (io : ReadIo) {back : Buffer}
    (hne : back.datatype ≠ ChatType.serverconnect.code ∧
      back.datatype ≠ ChatType.serverdisconnect.code) :
    (readComplete u io back).1.work =
      if back.isLastBuffer then
        [⟨io.bufferSpV.dropLast ++ [back],
          if missingCheck back.datatype then expectedSessionid io.sessionid else 0⟩]
      else [] := by
  rw [readComplete, frameRead]
  split
  · rw [if_neg hne.1, if_neg hne.2]
    cases hcheck : missingCheck back.datatype with
    | true =>
        have hassign := assignSessionid_expected hcheck io.sessionid
        simp only [ReadOutcome.work, hassign, if_true]
    | false =>
        have hassign := congrArg Prod.fst (assignSessionid_unchecked hcheck io.sessionid)
        simp only [ReadOutcome.work, hassign, Bool.false_eq_true, if_false]
  · rfl

/-- **A message that arrives** moves the counter of the server if its frame is the last one,
and has the number of its task exactly if the counters agree. -/
theorem message_arrives (u v : Uninit) (io : ReadIo) (m : ClientMessage) {c : ℕ}
    (hlt : c < 2 ^ 16) :
    counterAfter io.sessionid
        (deliver (Buffer.new v) (m.buffer.setSessionid c true).wire) =
        counterBehind io.sessionid c m ∧
      ((∀ w ∈ (readComplete u io
          (deliver (Buffer.new v) (m.buffer.setSessionid c true).wire)).1.work,
        ∀ isConnect errmsg, w.verdict isConnect ≠ some (.reject 11010 errmsg)) ↔
      (c < 2 ^ 15 → c = if m.checked then expectedSessionid io.sessionid else 0)) := by
  have hview : (deliver (Buffer.new v) (m.buffer.setSessionid c true).wire).view =
      ⟨c % 2 ^ 15, true ^^ decide (2 ^ 15 ≤ c), m.type, m.data.length, m.data⟩ :=
    deliver_setSessionid m.u v m.type hlt m.data_le true
  generalize deliver (Buffer.new v) (m.buffer.setSessionid c true).wire = back at hview ⊢
  simp only [Buffer.view, FrameView.mk.injEq] at hview
  obtain ⟨hid, hlast, htype, -, -⟩ := hview
  have hlast' : back.isLastBuffer = decide (c < 2 ^ 15) := by
    rw [hlast, Bool.true_xor, ← decide_not, decide_eq_decide, Nat.not_le]
  rw [work_readComplete u io (htype ▸ m.type_ne), counterAfter_eq, numbered, hlast', htype,
    counterBehind, ClientMessage.checked]
  constructor
  · simp only [Bool.and_eq_true, decide_eq_true_eq]
  · by_cases hc : c < 2 ^ 15
    · rw [if_pos (decide_eq_true hc)]
      simp only [List.mem_singleton, forall_eq, Work.verdict, List.getLast?_concat,
        Option.map_some, ne_eq, Option.some.injEq, hid]
      have hgate := fun isConnect : Bool => @dispatchGate_ne_wrong isConnect back.datatype
        (c % 2 ^ 15) (if missingCheck m.type then expectedSessionid io.sessionid else 0)
      constructor
      · intro h _
        exact (Nat.mod_eq_of_lt hc).symm.trans ((hgate true).mp (h true)).symm
      · intro h isConnect
        exact (hgate isConnect).mpr ((h hc).symm.trans (Nat.mod_eq_of_lt hc).symm)
    · rw [if_neg (by simpa using hc)]
      exact iff_of_true (List.forall_mem_nil _) fun h => absurd h hc

/-- A message that is sent takes the next number, behind those on their way. -/
theorem ClientInv.send {i : ι} {x c : ℕ} {pending : List ClientMessage} {t : ClientRun ι}
    (h : ClientInv i x c pending t) (extra : Reply → ℕ) (m : ClientMessage) :
    ClientInv i x c (pending ++ [m]) (clientStep extra i t (.send m)) := by
  refine ⟨h.node, ?_, ?_, h.lt⟩
  · rw [wireOf_append _ _ _ h.lt, ← h.wire, ← h.sessionid]
    rfl
  · change (t.sessionid + 1) % 2 ^ 16 = _
    rw [h.sessionid, List.length_append, List.length_singleton, Nat.mod_add_mod, Nat.add_assoc]

/-- What else the server does leaves the counters alone. -/
theorem ClientInv.server {i : ι} {x c : ℕ} {pending : List ClientMessage} {t : ClientRun ι}
    (h : ClientInv i x c pending t) (extra : Reply → ℕ) {e : Event ι}
    (he : ¬ e.readsFrom i ∧ ¬ e.connects i) :
    ClientInv i x c pending (clientStep extra i t (.server e he)) := by
  obtain ⟨node, hnode, hwatch, hx⟩ := h.node
  obtain ⟨node', hnode', hstep⟩ := nodeStep extra t.server e hnode
  have hkept : node'.watching = node.watching ∧ node'.io.sessionid = node.io.sessionid := by
    cases hstep with
    | quiet hread hquiet => exact ⟨hquiet.watching, hquiet.sessionid⟩
    | frame hwatch => exact absurd rfl he.1
    | closed => exact absurd rfl he.1
    | task hquiet hlt => exact ⟨hquiet.watching, hquiet.sessionid⟩
    | connect hfind husers hquiet hlt => exact absurd rfl he.2
  exact ⟨⟨node', hnode', hkept.1.trans hwatch, hkept.2.trans hx⟩, h.wire, h.sessionid, h.lt⟩

/-- **A delivery** moves both counters, and its message is answered right exactly if they
agree. -/
theorem ClientInv.deliver {i : ι} {x c : ℕ} {m : ClientMessage} {pending : List ClientMessage}
    {t : ClientRun ι} (h : ClientInv i x c (m :: pending) t) (extra : Reply → ℕ)
    (u : Uninit × Uninit) :
    ClientInv i (counterBehind x c m) ((c + 1) % 2 ^ 16) pending
        (clientStep extra i t (.deliver u)) ∧
      (NumbersAgree i t (.deliver u) ↔
        (c < 2 ^ 15 → c = if m.checked then expectedSessionid x else 0)) := by
  obtain ⟨node, hnode, hwatch, hx⟩ := h.node
  obtain ⟨hcounter, hagree⟩ := message_arrives u.2 u.1 node.io m h.lt
  have hwire := h.wire
  rw [wireOf] at hwire
  rw [hx] at hcounter hagree
  constructor
  · refine ⟨?_, ?_, ?_, Nat.mod_lt _ (by decide)⟩
    · simp only [clientStep, hwire]
      obtain ⟨node', hnode', hstep⟩ := nodeStep extra t.server
        (.frame i (Yijian.deliver (Buffer.new u.1) (m.buffer.setSessionid c true).wire) u.2) hnode
      refine ⟨node', hnode', ?_⟩
      cases hstep with
      | quiet hread hquiet => exact absurd (hread rfl) (by simp [hwatch])
      | frame _ => exact ⟨hwatch, (congrArg₂ counterAfter hx rfl).trans hcounter⟩
    · simp only [clientStep, hwire]
    · simp only [clientStep, hwire]
      rw [h.sessionid, List.length_cons, Nat.mod_add_mod, Nat.add_assoc, Nat.add_comm 1]
  · simp only [NumbersAgree, ClientRun.handed, hwire, Server.handed, hnode, hwatch, if_true, hagree]

/-! ### Which runs agree -/

/-- Each message has the number that the server expects, from the counters `x` and `c` on. -/
def Expected : (x c : ℕ) → List ClientMessage → Prop
  | _, _, [] => True
  | x, c, m :: ms =>
      (c < 2 ^ 15 → c = if m.checked then expectedSessionid x else 0) ∧
        Expected (counterBehind x c m) ((c + 1) % 2 ^ 16) ms

/-- **The runs that agree** are those whose messages have the numbers that are expected. -/
theorem ClientInv.agree_iff {extra : Reply → ℕ} {i : ι} {x c : ℕ} {pending : List ClientMessage}
    {t : ClientRun ι} (h : ClientInv i x c pending t) (es : List (ClientEvent ι i)) :
    StepsMeet (clientStep extra i) (NumbersAgree i) t es ↔ Expected x c (delivered pending es) := by
  induction es generalizing x c pending t with
  | nil => cases pending <;> exact iff_of_true trivial trivial
  | cons e es ih =>
      rw [stepsMeet_cons]
      cases e with
      | send m =>
          rw [ih (h.send extra m), delivered, and_iff_right]
          exact fun _ hw => nomatch hw
      | server e he =>
          rw [ih (h.server extra he), delivered, and_iff_right]
          exact fun _ hw => nomatch hw
      | deliver u =>
          cases pending with
          | nil =>
              have hstep : clientStep extra i t (.deliver u) = t := by
                simp only [clientStep, h.wire, wireOf]
              rw [hstep, ih h, delivered, and_iff_right]
              simp [NumbersAgree, ClientRun.handed, h.wire, wireOf]
          | cons m pending =>
              obtain ⟨hinv, hagree⟩ := h.deliver extra u
              rw [ih hinv, hagree, delivered, Expected]

/-- From a number between 1 and 32767 on, the two agree as long as all messages are numbered and
the number 32767 is not reached. -/
theorem expected_self_iff {x : ℕ} (hpos : 0 < x) (hle : x ≤ 32767) (ms : List ClientMessage) :
    Expected x x ms ↔ (∀ m ∈ ms, m.checked = true) ∧ x + ms.length ≤ 32767 := by
  have hmax : maxSessionID = 32767 := rfl
  have hmin : minSessionID = 100 := rfl
  induction ms generalizing x with
  | nil => simp [Expected, hle]
  | cons m ms ih =>
      have hlt : x < 2 ^ 15 := by omega
      rw [Expected, List.forall_mem_cons, List.length_cons, counterBehind]
      cases hchecked : m.checked with
      | false =>
          rw [if_neg Bool.false_ne_true]
          refine iff_of_false (fun h => ?_) fun h => Bool.false_ne_true h.1.1
          exact absurd (h.1 hlt) (by omega)
      | true =>
          rw [if_pos rfl, if_pos ⟨hlt, rfl⟩, expectedSessionid, nextCounter]
          by_cases hlast : x = maxSessionID
          · rw [if_pos hlast]
            refine iff_of_false (fun h => ?_) (fun h => ?_)
            · exact absurd (h.1 hlt) (by omega)
            · omega
          · have hnext : Expected (x + 1) (x + 1) ms ↔
                (∀ m ∈ ms, m.checked = true) ∧ x + 1 + ms.length ≤ 32767 :=
              ih (by omega) (by omega)
            rw [if_neg hlast, if_neg hlast, Nat.mod_eq_of_lt (by omega), hnext, Nat.add_assoc,
              Nat.add_comm 1]
            simp

/-- Behind an unchecked message that has the right number nothing else has. -/
theorem expected_one_iff {x : ℕ} (hx : x = 0 ∨ x = 2 ^ 15) (ms : List ClientMessage) :
    Expected x 1 ms ↔ ms = [] := by
  have hmax : maxSessionID = 32767 := rfl
  cases ms with
  | nil => exact iff_of_true trivial rfl
  | cons m ms =>
      refine iff_of_false (fun h => ?_) (List.cons_ne_nil m ms)
      have hone := h.1 (by decide)
      have hexpected : expectedSessionid x = x := if_neg (by omega)
      rw [hexpected] at hone
      split at hone <;> omega

/-- What it takes for the messages to have the numbers that are expected, when `n` has been
announced: all are of checked types, and the numbers from `n` on do not reach 32767; or there
is a single one of an unchecked type, and the counter of the client starts with 0. -/
def NumbersFit (n : ℕ) (ms : List ClientMessage) : Prop :=
  ms = [] ∨ ((∀ m ∈ ms, m.checked = true) ∧ n + ms.length ≤ 32767) ∨
    ((n = 0 ∨ n = 2 ^ 15) ∧ ∃ m, ms = [m] ∧ m.checked = false)

/-- **The condition**, from the number that has been announced on. -/
theorem expected_iff_numbersFit {n : ℕ} (hlt : n < 2 ^ 16) (ms : List ClientMessage) :
    Expected n (n % 2 ^ 15) ms ↔ NumbersFit n ms := by
  have hmax : maxSessionID = 32767 := rfl
  cases ms with
  | nil => exact iff_of_true trivial (.inl rfl)
  | cons m ms =>
      rw [NumbersFit, List.length_cons, or_iff_right (List.cons_ne_nil m ms)]
      by_cases hmid : 0 < n ∧ n ≤ 32767
      · rw [Nat.mod_eq_of_lt (by omega), expected_self_iff hmid.1 hmid.2, List.length_cons]
        exact (or_iff_left fun h => by omega).symm
      · have hstart : n % 2 ^ 15 < 2 ^ 15 := Nat.mod_lt _ (by decide)
        have hexpected : expectedSessionid n = n := if_neg (by omega)
        rw [Expected, counterBehind, hexpected]
        cases hchecked : m.checked with
        | false =>
            -- the message has the right number only if the client starts with 0
            rw [if_neg Bool.false_ne_true, if_neg fun h => Bool.false_ne_true h.2]
            by_cases hzero : n = 0 ∨ n = 2 ^ 15
            · have hmod : n % 2 ^ 15 = 0 := by omega
              rw [hmod, Nat.zero_add, Nat.mod_eq_of_lt (by decide), expected_one_iff hzero]
              simpa [hchecked] using fun _ => hzero
            · refine iff_of_false (fun h => ?_) ?_
              · have hmod := h.1 hstart
                omega
              · rintro (⟨hall, -⟩ | ⟨hn, -⟩)
                · exact Bool.false_ne_true (hchecked.symm.trans (hall m List.mem_cons_self))
                · exact hzero hn
        | true =>
            rw [if_pos rfl, if_pos ⟨hstart, rfl⟩]
            by_cases hzero : n = 0
            · have hnext : Expected 1 1 ms ↔ (∀ m ∈ ms, m.checked = true) ∧ 1 + ms.length ≤ 32767 :=
                expected_self_iff (by decide) (by decide) ms
              have hcounter : nextCounter 0 = 1 := rfl
              rw [hzero, Nat.zero_mod, Nat.zero_add, Nat.mod_eq_of_lt (by decide), hcounter, hnext]
              simp [hchecked, Nat.add_comm 1]
            · refine iff_of_false (fun h => ?_) ?_
              · have hmod := h.1 hstart
                omega
              · rintro (⟨-, hle⟩ | ⟨-, m', hm', hunchecked⟩)
                · omega
                · obtain ⟨rfl, -⟩ := List.cons.inj hm'
                  exact Bool.false_ne_true (hunchecked.symm.trans hchecked)

/-! ### A connection of a client -/

/-- The frames of the answer give the client the number in their header. -/
theorem clientReceive_pieces (v u : ℕ → Uninit) {n : ℕ} (hlt : n < 2 ^ 16)
    {cs : List (List UInt8)} (hne : cs ≠ []) (hcs : ∀ c ∈ cs, c.length ≤ 1019)
    (j k sessionid : ℕ) :
    clientReceive v j sessionid
      ((markFrames n (encodeAll u ChatType.clientconnectres.code k cs)).map Buffer.wire) =
        n % 2 ^ 15 := by
  have hread : ∀ (w : Uninit) (sid : ℕ) (c : List UInt8) (k : ℕ) (isLast : Bool),
      c.length ≤ 1019 →
      clientReadCallback sid (deliver (Buffer.new w) ((Buffer.buffer (u k)
        ChatType.clientconnectres.code c).2.setSessionid n isLast).wire) = n % 2 ^ 15 := by
    intro w sid c k isLast hc
    have hview := deliver_setSessionid (u k) w ChatType.clientconnectres.code hlt hc isLast
    generalize deliver (Buffer.new w) _ = back at hview ⊢
    simp only [Buffer.view, FrameView.mk.injEq] at hview
    rw [clientReadCallback, if_pos hview.2.2.1, hview.1]
  induction cs generalizing j k sessionid with
  | nil => exact absurd rfl hne
  | cons c cs ih =>
      have hc := hcs c List.mem_cons_self
      cases cs with
      | nil =>
          rw [encodeAll, encodeAll, markFrames_singleton, List.map_singleton, clientReceive,
            clientReceive, hread _ _ _ _ _ hc]
      | cons c' cs =>
          rw [encodeAll, encodeAll, markFrames_cons_cons, List.map_cons, clientReceive]
          exact ih (List.cons_ne_nil _ _) (fun d hd => hcs d (List.mem_cons_of_mem _ hd)) _ _ _

/-- A connection on which a ClientConnect is answered with a success. The worker numbers the
frames of the answer, `frames`, with the counter that it has set, and the client reads them;
its counter was `old` before. The server goes on reading the connection. -/
structure Connected (ι : Type) [DecidableEq ι] where
  extra : Reply → ℕ
  before : Server ι
  i : ι
  k : ℕ
  connect : ClientConnect
  db : DbAnswers
  info : ConnectInfo
  stored : ℤ
  res : ClientConnectRes
  rest : List (LogEntry ι)
  payload : List UInt8
  u : ℕ → Uninit
  frames : List Buffer
  v : ℕ → Uninit
  old : ℕ
  found : db.findUUID = .ok info
  user : info.users connect.userid = some stored
  answered : (step extra before (.work i k (.clientConnect connect db))).log =
    before.log ++ .handled i ChatType.clientconnect.code ::
      .mounted i (.clientConnectRes res) :: rest
  success : res.isSuccess = true
  framed : (yijianBuffer u ChatType.clientconnectres.code payload).map (markFrames res.sessionid) =
    .ok frames
  watching : ∀ node, (step extra before (.work i k (.clientConnect connect db))).nodes i =
    some node → node.watching = true

/-- Client and server when the client has read the answer, and has sent nothing since. -/
def Connected.start (c : Connected ι) : ClientRun ι where
  server := step c.extra c.before (.work c.i c.k (.clientConnect c.connect c.db))
  sessionid := clientReceive c.v 0 c.old (c.frames.map Buffer.wire)
  wire := []

/-- Both counters start with the number that is announced. -/
theorem Connected.inv_start (c : Connected ι) :
    ClientInv c.i c.res.sessionid (c.res.sessionid % 2 ^ 15) [] c.start ∧
      c.res.sessionid < 2 ^ 16 := by
  obtain ⟨hres, node, hnode, hcounter⟩ := counter_connect c.found c.user c.answered c.success
  have hlt : c.res.sessionid < 2 ^ 16 := by
    rw [hres]
    exact Nat.mod_lt _ (by decide)
  have hmod : c.res.sessionid % 2 ^ 15 < 2 ^ 16 :=
    (Nat.mod_lt _ (by decide)).trans (by decide)
  refine ⟨⟨⟨node, hnode, c.watching node hnode, hcounter.trans hres.symm⟩, rfl, ?_, hmod⟩, hlt⟩
  have hframes := c.framed
  rw [yijianBuffer_eq] at hframes
  have hframes' := (Except.ok.inj hframes).symm
  rw [Connected.start, List.length_nil, Nat.add_zero, Nat.mod_eq_of_lt hmod, hframes']
  exact clientReceive_pieces c.v c.u hlt (Chunks.chunks_ne_nil maxlength_pos c.payload)
    (fun _ hc => Chunks.length_le_of_mem_chunks maxlength_pos hc) 0 0 c.old

/-- **Client and server agree on session numbers** exactly in these runs. -/
theorem Connected.numbers_agree_iff (c : Connected ι) (es : List (ClientEvent ι c.i)) :
    StepsMeet (clientStep c.extra c.i) (NumbersAgree c.i) c.start es ↔
      NumbersFit c.res.sessionid (delivered [] es) := by
  obtain ⟨hinv, hlt⟩ := c.inv_start
  rw [hinv.agree_iff, expected_iff_numbersFit hlt]

/-! ### A login, and the last number -/

/-- The user `u` has connected with the number that follows `stored`. -/
def connectedClient (stored : ℤ) : Connected Unit where
  extra := fun _ => 0
  before := connecting
  i := ()
  k := 0
  connect := ⟨"u", "d", "", "", "", false⟩
  db := ⟨.ok ["d"], .ok { ConnectInfo.empty with users := fun _ => some stored }, .ok (), 0, none⟩
  info := { ConnectInfo.empty with users := fun _ => some stored }
  stored := stored
  res := ⟨true, 0, "", "", "", resumedSessionid stored⟩
  rest := []
  payload := [8, 1]
  u := fun _ => Uninit.zero
  frames := markFrames (resumedSessionid stored)
    (encodeAll (fun _ => Uninit.zero) ChatType.clientconnectres.code 0
      (Chunks.chunks maxlength [8, 1]))
  v := fun _ => Uninit.zero
  old := 0
  found := rfl
  user := rfl
  answered := rfl
  success := rfl
  framed := congrArg (Except.map _) (yijianBuffer_eq _ _ _)
  watching := by
    intro node hnode
    obtain rfl := Option.some.inj hnode
    rfl

/-- A message of some type without content. -/
def emptyMessage (type : ChatType)
    (h : type.code ≠ ChatType.serverconnect.code ∧ type.code ≠ ChatType.serverdisconnect.code) :
    ClientMessage :=
  ⟨Uninit.zero, type.code, [], Nat.zero_le _, h⟩

/-- A message is sent and delivered. -/
def sendsOne (m : ClientMessage) : List (ClientEvent Unit ()) :=
  [.send m, .deliver (Uninit.zero, Uninit.zero)]

/-- A login behind the ClientConnect has the number 100, where 0 is expected; and a message
with the number 32767 arrives where 100 is expected. -/
theorem not_numbers_agree :
    ¬ StepsMeet (clientStep (fun _ => 0) ()) (NumbersAgree ()) (connectedClient 99).start
        (sendsOne (emptyMessage .login (by decide))) ∧
      ¬ StepsMeet (clientStep (fun _ => 0) ()) (NumbersAgree ()) (connectedClient 32766).start
        (sendsOne (emptyMessage .nodemessage (by decide))) := by
  constructor
  · intro h
    have hexpected := ((connectedClient 99).inv_start.1.agree_iff _).mp h
    exact absurd (hexpected.1 (by decide)) (by decide)
  · intro h
    have hexpected := ((connectedClient 32766).inv_start.1.agree_iff _).mp h
    exact absurd (hexpected.1 (by decide)) (by decide)

end Yijian
