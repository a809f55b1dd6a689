import Yijian.Lib.Runs
import Yijian.Server

/-!
# Session Numbers

The event loop numbers the messages of a connection with the counter `sessionid`, which a
ClientConnect sets from the number that is stored for the user. The number that the next
numbered message will be compared with is announced to the client twice: in the answer to
its ClientConnect, and in the error 11010 that answers a message with a wrong number.

## Convention

The cycle goes from the number a client is told up to 32767 and on from 100. The counter of the
server is a `uint16_t`. Where it stands at the largest number it is set back to 100 without moving
on, so that 100 is expected twice; where a connect has set it beyond, it goes on to 65535 and wraps
to 0. All of this is kept: the number of a connect is stored as an `int`, goes through 16 bits and
is incremented there. A run is followed from one connect of a connection to the next; the other
connections, and the events that read nothing, may come in between in any number.

## Main results

* `nodeStep`: what a step can do to a connection.
* `sessionCycle_iff`: the expected number follows the cycle of session numbers from the
  announced one on, exactly as long as the counter stays below the largest number.
* `accepted_after_rejection_iff`: the number that a rejection announces is accepted next
  exactly when the rejected message met the counter at the largest number.
-/

namespace Yijian

open Runs

variable {ι : Type} [DecidableEq ι]

/-! ### What a step can do to a connection -/

/-- Nothing that the session number depends on has changed. -/
structure Quiet (node node' : Node) : Prop where
  sessionid : node'.io.sessionid = node.io.sessionid
  watching : node'.watching = node.watching
  work : node'.work = node.work
  isConnect : node.io.isConnect = true → node'.io.isConnect = true

/-- Nothing happens. -/
theorem Quiet.refl (node : Node) : Quiet node node := ⟨rfl, rfl, rfl, id⟩

/-- Two quiet steps are quiet. -/
theorem Quiet.trans {node₁ node₂ node₃ : Node} (h₁ : Quiet node₁ node₂)
    (h₂ : Quiet node₂ node₃) : Quiet node₁ node₃ :=
  ⟨h₂.sessionid.trans h₁.sessionid, h₂.watching.trans h₁.watching, h₂.work.trans h₁.work,
    fun h => h₂.isConnect (h₁.isConnect h)⟩

/-- The event completes a frame on the connection. -/
def Event.reads (i : ι) : Event ι → Prop
  | .frame j _ _ => j = i
  | _ => False

/-- The steps of the connection `i`. -/
inductive NodeStep (i : ι) (node : Node) : Event ι → Node → Prop
  /-- An event of another connection, a write, a mount, a frame that is not read. -/
  | quiet {e : Event ι} {node' : Node}
      (hread : e.reads i → node.watching = false)
      (h : Quiet node node') : NodeStep i node e node'
  /-- A complete frame. -/
  | frame {back : Buffer} {u : Uninit} {v : List Buffer} {tasks : List Work}
      (hwatch : node.watching = true) :
      NodeStep i node (.frame i back u)
        { node with
          io := { node.io with
            bufferSpV := v, sessionid := counterAfter node.io.sessionid back }
          work := node.work ++ tasks }
  /-- The end of reading. -/
  | closed : NodeStep i node (.readClosed i) { node with watching := false }
  /-- A task other than a ClientConnect. -/
  | task {k : ℕ} {h : Handling ι} {node' : Node} (hquiet : Quiet
      { node with work := node.work.eraseIdx k } node') (hlt : k < node.work.length) :
      NodeStep i node (.work i k h) node'
  /-- A ClientConnect. -/
  | connect {k : ℕ} {connect : ClientConnect} {db : DbAnswers} {info : ConnectInfo}
      {stored : ℤ} {node' : Node} (hfind : db.findUUID = .ok info)
      (husers : info.users connect.userid = some stored)
      (hquiet : Quiet { node with
        work := node.work.eraseIdx k, io := node.io.connect connect stored } node')
      (hlt : k < node.work.length) :
      NodeStep i node (.work i k (.clientConnect connect db)) node'

/-- Mounting is quiet. -/
theorem nodes_mountBuffer2Node (extra : Reply → ℕ) {s : Server ι}
    (mounts : List (ι × Reply)) {i : ι} {node : Node} (hnode : s.nodes i = some node) :
    ∃ node', (mountBuffer2Node extra s mounts).nodes i = some node' ∧ Quiet node node' :=
  ⟨{ node with buffersP := node.buffersP ++ framesFor extra mounts i },
    by simp [mountBuffer2Node, hnode], ⟨rfl, rfl, rfl, id⟩⟩

/-- A task of another connection is quiet. -/
theorem quiet_workTask (extra : Reply → ℕ) {s : Server ι} {i j : ι} (hij : i ≠ j)
    {node : Node} (hnode : s.nodes i = some node) (k : ℕ) (h : Handling ι) :
    ∃ node', (workTask extra s j k h).nodes i = some node' ∧ Quiet node node' := by
  have htask := taskStep extra s j k h
  generalize workTask extra s j k h = s' at htask
  cases htask with
  | idle => exact ⟨node, hnode, Quiet.refl node⟩
  | rejected hj => exact nodes_mountBuffer2Node extra _ ((s.setNode_of_ne hij _).trans hnode)
  | handled hj => exact nodes_mountBuffer2Node extra _ ((s.setNode_of_ne hij _).trans hnode)

/-- A task of the connection itself. -/
theorem nodeStep_workTask {extra : Reply → ℕ} {s : Server ι} {i : ι} {node : Node}
    (hnode : s.nodes i = some node) (k : ℕ) (h : Handling ι) :
    ∃ node', (workTask extra s i k h).nodes i = some node' ∧
      NodeStep i node (.work i k h) node' := by
  have htask := taskStep extra s i k h
  generalize workTask extra s i k h = s' at htask
  cases htask with
  | idle => exact ⟨node, hnode, .quiet False.elim (Quiet.refl node)⟩
  | @rejected node₁ w back errnum errmsg hnode₁ hw =>
      obtain rfl : node = node₁ := Option.some.inj (hnode.symm.trans hnode₁)
      obtain ⟨hlt, -⟩ := List.getElem?_eq_some_iff.mp hw
      obtain ⟨node', hnode', hquiet⟩ := nodes_mountBuffer2Node extra
        [(i, .error errnum errmsg)] (s.setNode_self i { node with work := node.work.eraseIdx k })
      exact ⟨node', hnode', .task hquiet hlt⟩
  | @handled node₁ w back io mounts hnode₁ hw hback hgate hrun =>
      obtain rfl : node = node₁ := Option.some.inj (hnode.symm.trans hnode₁)
      obtain ⟨hlt, -⟩ := List.getElem?_eq_some_iff.mp hw
      have hset : ({ s.setNode i { node with work := node.work.eraseIdx k, io := io }
          with log := s.log ++ [LogEntry.handled i back.datatype] } : Server ι).nodes i =
          some { node with work := node.work.eraseIdx k, io := io } :=
        s.setNode_self i _
      obtain ⟨node', hnode', hquiet⟩ := nodes_mountBuffer2Node extra mounts hset
      refine ⟨node', hnode', ?_⟩
      rcases dispatchType_cases hrun with
        rfl | ⟨connect, db, info, stored, rfl, hfind, husers, rfl⟩
      · exact .task hquiet hlt
      · exact .connect hfind husers hquiet hlt

omit [DecidableEq ι] in
/-- A step that leaves the connection alone. -/
theorem nodeStep_unchanged {s' : Server ι} {e : Event ι} {i : ι} {node : Node}
    (hnode : s'.nodes i = some node) (hread : e.reads i → node.watching = false) :
    ∃ node', s'.nodes i = some node' ∧ NodeStep i node e node' :=
  ⟨node, hnode, .quiet hread (Quiet.refl node)⟩

/-- An accept gives a node only to a connection without one. -/
theorem nodeStep_accept {s : Server ι} {i : ι} {node : Node} (hnode : s.nodes i = some node)
    (j : ι) (sessionid : UInt16) :
    ∃ node', (socketAcceptCallback s j sessionid).nodes i = some node' ∧
      NodeStep i node (.accept j sessionid) node' := by
  rw [socketAcceptCallback]
  cases hj : s.nodes j with
  | some nodej => exact nodeStep_unchanged hnode False.elim
  | none =>
      have hij : i ≠ j := by
        rintro rfl
        rw [hj] at hnode
        cases hnode
      exact nodeStep_unchanged ((Server.setNode_of_ne s hij _).trans hnode) False.elim

/-- A frame, on the connection or on another one. -/
theorem nodeStep_frame {s : Server ι} {i : ι} {node : Node} (hnode : s.nodes i = some node)
    (j : ι) (back : Buffer) (u : Uninit) :
    ∃ node', (readFrame s j back u).nodes i = some node' ∧
      NodeStep i node (.frame j back u) node' := by
  rcases readFrame_cases s j back u with
    ⟨hidle, heq⟩ | ⟨nodej, v, tasks, pinglist, hj, hw, hread⟩
  · rw [heq]
    refine nodeStep_unchanged hnode fun hji => hidle node ?_
    rw [hji, hnode]
  · rw [hread]
    by_cases hij : i = j
    · subst hij
      obtain rfl : node = nodej := Option.some.inj (hnode.symm.trans hj)
      exact ⟨_, Server.setNode_self s i _, .frame hw⟩
    · exact nodeStep_unchanged ((Server.setNode_of_ne s hij _).trans hnode) fun hji =>
        absurd hji.symm hij

/-- The end of reading, on the connection or on another one. -/
theorem nodeStep_readClosed {s : Server ι} {i : ι} {node : Node} (hnode : s.nodes i = some node)
    (j : ι) :
    ∃ node', (readClosed s j).nodes i = some node' ∧ NodeStep i node (.readClosed j) node' := by
  rw [readClosed]
  cases hj : s.nodes j with
  | none => exact nodeStep_unchanged hnode False.elim
  | some nodej =>
      simp only
      split
      · by_cases hij : i = j
        · subst hij
          obtain rfl : node = nodej := Option.some.inj (hnode.symm.trans hj)
          exact ⟨_, Server.setNode_self s i _, .closed⟩
        · exact nodeStep_unchanged ((Server.setNode_of_ne s hij _).trans hnode) False.elim
      · exact nodeStep_unchanged hnode False.elim

/-- A write takes a frame, and keeps the numbers. -/
theorem nodeStep_write {s : Server ι} {i : ι} {node : Node} (hnode : s.nodes i = some node)
    (j : ι) (r : WriteResult) :
    ∃ node', (connectionWriteCallback s j r).nodes i = some node' ∧
      NodeStep i node (.write j r) node' := by
  rw [connectionWriteCallback]
  cases hj : s.nodes j with
  | none => exact nodeStep_unchanged hnode False.elim
  | some nodej =>
      simp only
      cases nodej.buffersP with
      | nil => exact nodeStep_unchanged hnode False.elim
      | cons p rest =>
          by_cases hij : i = j
          · subst hij
            obtain rfl : node = nodej := Option.some.inj (hnode.symm.trans hj)
            refine ⟨_, Server.setNode_self s i _, .quiet False.elim ⟨rfl, rfl, rfl, fun h => ?_⟩⟩
            exact Bool.or_eq_true_iff.mpr (.inl h)
          · exact nodeStep_unchanged ((Server.setNode_of_ne s hij _).trans hnode) False.elim

/-- **What a step can do to a connection.** -/
theorem nodeStep (extra : Reply → ℕ) (s : Server ι) (e : Event ι) {i : ι} {node : Node}
    (hnode : s.nodes i = some node) :
    ∃ node', (step extra s e).nodes i = some node' ∧ NodeStep i node e node' := by
  cases e with
  | accept j sessionid => exact nodeStep_accept hnode j sessionid
  | frame j back u => exact nodeStep_frame hnode j back u
  | readClosed j => exact nodeStep_readClosed hnode j
  | write j r => exact nodeStep_write hnode j r
  | pingtime n => exact nodeStep_unchanged hnode False.elim
  | work j k h =>
      by_cases hij : i = j
      · subst hij
        exact nodeStep_workTask hnode k h
      · obtain ⟨node', hnode', hquiet⟩ := quiet_workTask extra hij hnode k h
        exact ⟨node', hnode', .quiet False.elim hquiet⟩

/-! ### The numbers of a connection -/

/-- The counter after a numbered message. -/
def nextCounter (sessionid : ℕ) : ℕ :=
  if sessionid = maxSessionID then minSessionID else (sessionid + 1) % 2 ^ 16

/-- The last frame of a numbered message. -/
def numbered (back : Buffer) : Bool := back.isLastBuffer && missingCheck back.datatype

/-- The counter moves with the last frame of a numbered message. -/
theorem counterAfter_eq (sessionid : ℕ) (back : Buffer) :
    counterAfter sessionid back =
      if numbered back then nextCounter sessionid else sessionid := by
  rw [counterAfter, numbered, assignSessionid, nextCounter]
  cases back.isLastBuffer <;> cases missingCheck back.datatype <;> grind

/-- A ClientConnect of the connection is dispatched. -/
def Event.connects (i : ι) : Event ι → Prop
  | .work j _ (.clientConnect _ _) => j = i
  | _ => False

/-- The event reads a numbered message of the connection. -/
def numberedRead (s : Server ι) (i : ι) : Event ι → Bool
  | .frame j back _ =>
      decide (j = i) && (s.nodes i).any (fun node => node.watching) && numbered back
  | _ => false

/-- The number of numbered messages of the connection that a run reads. -/
def numberedReads (extra : Reply → ℕ) (i : ι) : Server ι → List (Event ι) → ℕ
  | _, [] => 0
  | s, e :: es =>
      (numberedRead s i e).toNat + numberedReads extra i (step extra s e) es

/-- Between its connects, a connection counts its numbered messages. -/
theorem counter_step (extra : Reply → ℕ) {s : Server ι} {e : Event ι} {i : ι} {node : Node}
    (hnode : s.nodes i = some node) (he : ¬ e.connects i) :
    ∃ node', (step extra s e).nodes i = some node' ∧ node'.io.sessionid =
      if numberedRead s i e then nextCounter node.io.sessionid else node.io.sessionid := by
  obtain ⟨node', hnode', hstep⟩ := nodeStep extra s e hnode
  refine ⟨node', hnode', ?_⟩
  cases hstep with
  | quiet hread h =>
      rw [h.sessionid]
      cases e with
      | frame j back u =>
          by_cases hij : j = i
          · subst hij
            simp [numberedRead, hnode, hread rfl]
          · simp [numberedRead, hij]
      | _ => rfl
  | frame hwatch => simp [numberedRead, hnode, hwatch, counterAfter_eq]
  | closed => rfl
  | task hquiet hlt => exact hquiet.sessionid
  | connect hfind husers hquiet hlt => exact absurd rfl he

/-! ### The cycle of session numbers -/

/-- The cyclic successor of a session number. -/
def nextSessionID (x : ℕ) : ℕ := if x = maxSessionID then minSessionID else x + 1

/-- The server and the number that is due on one of its connections. -/
structure Tracked (ι : Type) where
  server : Server ι
  due : ℕ

/-- A step of the server; a numbered message makes the next number due. -/
def trackStep (extra : Reply → ℕ) (i : ι) (t : Tracked ι) (e : Event ι) : Tracked ι where
  server := step extra t.server e
  due := if numberedRead t.server i e then nextSessionID t.due else t.due

/-- The connection expects the number that is due, and it is a session number. -/
def OnCycle (i : ι) (t : Tracked ι) : Prop :=
  ∀ node, t.server.nodes i = some node →
    expectedSessionid node.io.sessionid = t.due ∧
      minSessionID ≤ t.due ∧ t.due ≤ maxSessionID

omit [DecidableEq ι] in
/-- A counter in the cycle stands where it is expected, except at the end. -/
theorem onCycle_iff {s : Server ι} {i : ι} {node : Node} (hnode : s.nodes i = some node) :
    OnCycle i ⟨s, node.io.sessionid⟩ ↔
      100 ≤ node.io.sessionid ∧ node.io.sessionid ≤ 32766 := by
  have hmax : maxSessionID = 32767 := rfl
  have hmin : minSessionID = 100 := rfl
  constructor
  · intro h
    obtain ⟨hexp, h100, hle⟩ := h node hnode
    simp only [expectedSessionid] at hexp h100 hle
    split at hexp <;> omega
  · rintro ⟨h100, hle⟩ node' hnode'
    obtain rfl : node = node' := Option.some.inj (hnode.symm.trans hnode')
    have hlt : node.io.sessionid ≠ maxSessionID := by omega
    rw [expectedSessionid, if_neg hlt]
    exact ⟨rfl, h100, Nat.le_succ_of_le hle⟩

/-- From a number in the cycle on, the cycle is followed until the counter reaches the
largest number. -/
theorem always_onCycle_iff (extra : Reply → ℕ) {i : ι} {es : List (Event ι)}
    {s : Server ι} {node : Node} (hnode : s.nodes i = some node)
    (hes : ∀ e ∈ es, ¬ e.connects i)
    (h : 100 ≤ node.io.sessionid ∧ node.io.sessionid ≤ 32766) :
    Always (trackStep extra i) (OnCycle i) ⟨s, node.io.sessionid⟩ es ↔
      node.io.sessionid + numberedReads extra i s es ≤ 32766 := by
  have hmax : maxSessionID = 32767 := rfl
  induction es generalizing s node with
  | nil =>
      rw [always_nil, onCycle_iff hnode, numberedReads]
      omega
  | cons e es ih =>
      obtain ⟨node', hnode', hcounter⟩ := counter_step extra hnode (hes e List.mem_cons_self)
      have htail : ∀ e' ∈ es, ¬ e'.connects i := fun e' he' => hes e' (List.mem_cons_of_mem e he')
      have hih (h' : 100 ≤ node'.io.sessionid ∧ node'.io.sessionid ≤ 32766) :
          Always (trackStep extra i) (OnCycle i) ⟨step extra s e, node'.io.sessionid⟩ es ↔
            node'.io.sessionid + numberedReads extra i (step extra s e) es ≤ 32766 :=
        ih hnode' htail h'
      rw [always_cons, onCycle_iff hnode, numberedReads, trackStep]
      cases hread : numberedRead s i e with
      | false =>
          rw [hread, if_neg Bool.false_ne_true] at hcounter
          rw [if_neg Bool.false_ne_true, ← hcounter, hih (hcounter ▸ h), Bool.toNat_false]
          omega
      | true =>
          rw [hread, if_pos rfl, nextCounter, if_neg (by omega),
            Nat.mod_eq_of_lt (by omega)] at hcounter
          have hlt : node.io.sessionid ≠ maxSessionID := by omega
          rw [if_pos rfl, nextSessionID, if_neg hlt, ← hcounter, Bool.toNat_true]
          by_cases hlast : node.io.sessionid = 32766
          · constructor
            · rintro ⟨-, halways⟩
              have hout := (onCycle_iff hnode').mp halways.head
              omega
            · omega
          · rw [hih (by omega)]
            omega

/-- A ClientConnect that is answered with a success sets the counter to the stored number
plus one, and announces it. -/
theorem counter_connect {extra : Reply → ℕ} {s : Server ι} {i : ι} {k : ℕ}
    {connect : ClientConnect} {db : DbAnswers} {info : ConnectInfo} {stored : ℤ}
    {res : ClientConnectRes} {rest : List (LogEntry ι)}
    (hfind : db.findUUID = .ok info) (husers : info.users connect.userid = some stored)
    (hlog : (step extra s (.work i k (.clientConnect connect db))).log =
      s.log ++ .handled i ChatType.clientconnect.code ::
        .mounted i (.clientConnectRes res) :: rest)
    (hsucc : res.isSuccess = true) :
    res.sessionid = resumedSessionid stored ∧
      ∃ node, (step extra s (.work i k (.clientConnect connect db))).nodes i = some node ∧
        node.io.sessionid = resumedSessionid stored := by
  rw [step] at hlog ⊢
  have htask := taskStep extra s i k (.clientConnect connect db)
  generalize workTask extra s i k (.clientConnect connect db) = s' at htask hlog ⊢
  cases htask with
  | idle => simpa using congrArg List.length hlog
  | rejected hnode hw hback hgate =>
      have hentries := List.append_cancel_left hlog
      cases hentries
  | @handled node w back io mounts hnode hw hback hgate hrun =>
      have hlog' : s.log ++ [.handled i back.datatype] ++
          mounts.map (fun m => LogEntry.mounted m.1 m.2) =
          s.log ++ .handled i ChatType.clientconnect.code ::
            .mounted i (.clientConnectRes res) :: rest := hlog
      rw [List.append_assoc, List.append_cancel_left_eq, List.singleton_append,
        List.cons.injEq] at hlog'
      simp only [dispatchType] at hrun
      split at hrun
      · obtain ⟨⟨io', replies⟩, hconn, heq⟩ := Option.map_eq_some_iff.mp hrun
        obtain ⟨rfl, rfl⟩ := Prod.mk.inj heq
        obtain ⟨-, hreplies⟩ := hlog'
        cases replies with
        | nil => cases hreplies
        | cons r tail =>
            obtain rfl : r = .clientConnectRes res := by
              injection hreplies with hentry
              injection hentry
            obtain ⟨info', stored', hfind', husers', hio, hres⟩ :=
              clientConnect_success hconn hsucc
            obtain rfl : info = info' := Except.ok.inj (hfind.symm.trans hfind')
            obtain rfl : stored = stored' := Option.some.inj (husers.symm.trans husers')
            have hset : ({ s.setNode i { node with work := node.work.eraseIdx k, io := io' }
                with log := s.log ++ [LogEntry.handled i back.datatype] } : Server ι).nodes i =
                some { node with work := node.work.eraseIdx k, io := io' } :=
              s.setNode_self i _
            obtain ⟨node', hnode', hquiet⟩ := nodes_mountBuffer2Node extra
              ((Reply.clientConnectRes res :: tail).map (i, ·)) hset
            exact ⟨hres, node', hnode', by rw [hquiet.sessionid, hio, ReadIo.connect]⟩
      · cases hrun

/-- **The cycle of session numbers, exactly.** After a ClientConnect that is answered with
a success, whatever number was stored, the connection expects the announced number and
from then on always the cyclic successor of the last one, if and only if the stored number
lies in the cycle and the counter does not reach the largest number. -/
theorem sessionCycle_iff (extra : Reply → ℕ) (s : Server ι) (i : ι) (k : ℕ)
    (connect : ClientConnect) (db : DbAnswers) (info : ConnectInfo) (stored : ℤ)
    (res : ClientConnectRes) (rest : List (LogEntry ι)) (es : List (Event ι))
    (hfind : db.findUUID = .ok info) (husers : info.users connect.userid = some stored)
    (hlog : (step extra s (.work i k (.clientConnect connect db))).log =
      s.log ++ .handled i ChatType.clientconnect.code ::
        .mounted i (.clientConnectRes res) :: rest)
    (hsucc : res.isSuccess = true) (hes : ∀ e ∈ es, ¬ e.connects i) :
    Always (trackStep extra i) (OnCycle i)
        ⟨step extra s (.work i k (.clientConnect connect db)), res.sessionid⟩ es ↔
      99 ≤ stored % 2 ^ 16 ∧
        stored % 2 ^ 16 + numberedReads extra i
          (step extra s (.work i k (.clientConnect connect db))) es ≤ 32765 := by
  obtain ⟨hres, node, hnode, hcounter⟩ := counter_connect hfind husers hlog hsucc
  rw [hres, ← hcounter]
  have hresumed : (100 ≤ node.io.sessionid ∧ node.io.sessionid ≤ 32766 ↔
      99 ≤ stored % 2 ^ 16 ∧ stored % 2 ^ 16 ≤ 32765) ∧
      (100 ≤ node.io.sessionid → (node.io.sessionid : ℤ) = stored % 2 ^ 16 + 1) := by
    rw [hcounter, resumedSessionid]
    omega
  by_cases hin : 100 ≤ node.io.sessionid ∧ node.io.sessionid ≤ 32766
  · rw [always_onCycle_iff extra hnode hes hin]
    omega
  · constructor
    · intro h
      exact absurd ((onCycle_iff hnode).mp h.head) hin
    · intro h
      omega

/-- A new connection that has read a ClientConnect. -/
def connecting : Server Unit :=
  [Event.accept () 0, .frame () (bareFrame 6 0) Uninit.zero].foldl (step fun _ => 0) Server.new

/-- A connection that takes over number 99. -/
theorem onCycle_connectAs :
    Always (trackStep (fun _ => 0) ()) (OnCycle ())
        ⟨step (fun _ => 0) connecting (.work () 0 (connectAs ["d"] 99)), 100⟩
        [.frame () (bareFrame 30 100) Uninit.zero] := by
  refine (sessionCycle_iff (fun _ => 0) connecting () 0 ⟨"u", "d", "", "", "", false⟩
    ⟨.ok ["d"], .ok { ConnectInfo.empty with users := fun _ => some 99 }, .ok (), 0, none⟩
    { ConnectInfo.empty with users := fun _ => some 99 } 99 ⟨true, 0, "", "", "", 100⟩ []
    [.frame () (bareFrame 30 100) Uninit.zero] rfl rfl rfl rfl ?_).mpr ?_
  · intro e he hconn
    obtain rfl := List.mem_singleton.mp he
    exact hconn
  · decide

/-- The stored number 32766 is resumed with 32767: that number is announced, and 100 is
expected. -/
theorem not_onCycle_connectAs :
    .mounted () (.clientConnectRes ⟨true, 0, "", "", "", 32767⟩) ∈
        (step (fun _ => 0) connecting (.work () 0 (connectAs ["d"] 32766))).log ∧
      ¬ Always (trackStep (fun _ => 0) ()) (OnCycle ())
        ⟨step (fun _ => 0) connecting (.work () 0 (connectAs ["d"] 32766)), 32767⟩ [] := by
  constructor
  · exact List.mem_of_getElem? (i := 1) rfl
  · intro h
    obtain ⟨hexp, -⟩ := h.head _ rfl
    exact absurd hexp (by decide)

/-! ### A rejection -/

/-- The number that the next numbered message of a connection will be compared with. -/
def Server.expected (s : Server ι) (i : ι) : Option ℕ :=
  (s.nodes i).map fun node => expectedSessionid node.io.sessionid

/-- The event is the end of a read on the connection. -/
def Event.readsFrom (i : ι) : Event ι → Prop
  | .frame j _ _ => j = i
  | .readClosed j => j = i
  | _ => False

/-- A numbered message takes the expected number and moves the counter. -/
theorem nodes_frame_numbered (extra : Reply → ℕ) {s : Server ι} {i : ι} {node : Node}
    (hnode : s.nodes i = some node) (hwatch : node.watching = true) {back : Buffer}
    (hback : numbered back = true) (u : Uninit) :
    (step extra s (.frame i back u)).nodes i = some { node with
      io := { node.io with bufferSpV := [], sessionid := nextCounter node.io.sessionid }
      work := node.work ++
        [⟨node.io.bufferSpV.dropLast ++ [back], expectedSessionid node.io.sessionid⟩] } := by
  obtain ⟨hlast, hcheck⟩ := Bool.and_eq_true_iff.mp hback
  rw [step, readFrame, hnode]
  simp only [hwatch, if_true]
  rw [readComplete_checked u node.io hlast hcheck, counterAfter_eq, if_pos hback]
  exact s.setNode_self i _

/-- On a connection without tasks, it is compared with the expected number. -/
theorem verdict_frame_numbered (extra : Reply → ℕ) {s : Server ι} {i : ι} {node : Node}
    (hnode : s.nodes i = some node) (hwatch : node.watching = true) (hidle : node.work = [])
    {back : Buffer} (hback : numbered back = true) (u : Uninit) :
    (step extra s (.frame i back u)).verdict i 0 =
      some (dispatchGate node.io.isConnect back.datatype back.sessionId
        (expectedSessionid node.io.sessionid)) := by
  rw [Server.verdict, nodes_frame_numbered extra hnode hwatch hback u, hidle]
  simp

/-- While nothing is read from it, a connection without tasks keeps its counter. -/
theorem quiet_run (extra : Reply → ℕ) {es : List (Event ι)} {s : Server ι} {i : ι}
    {node : Node} (hnode : s.nodes i = some node) (hidle : node.work = [])
    (hes : ∀ e ∈ es, ¬ e.readsFrom i) :
    ∃ node', (es.foldl (step extra) s).nodes i = some node' ∧ Quiet node node' := by
  induction es generalizing s node with
  | nil => exact ⟨node, hnode, Quiet.refl node⟩
  | cons e es ih =>
      obtain ⟨node₁, hnode₁, hstep⟩ := nodeStep extra s e hnode
      have hquiet : Quiet node node₁ := by
        cases hstep with
        | quiet hread h => exact h
        | frame hwatch => exact absurd rfl (hes _ List.mem_cons_self)
        | closed => exact absurd rfl (hes _ List.mem_cons_self)
        | task hquiet hlt => simp [hidle] at hlt
        | connect hfind husers hquiet hlt => simp [hidle] at hlt
      obtain ⟨node₂, hnode₂, hquiet₂⟩ := ih hnode₁ (hquiet.work.trans hidle)
        fun e' he' => hes e' (List.mem_cons_of_mem e he')
      exact ⟨node₂, hnode₂, hquiet.trans hquiet₂⟩

/-- A numbered message moves the expected number, unless the counter stands at the
largest number. -/
theorem expected_nextCounter_iff (c : ℕ) :
    expectedSessionid (nextCounter c) = expectedSessionid c ↔ c = maxSessionID := by
  have hmax : maxSessionID = 32767 := rfl
  have hmin : minSessionID = 100 := rfl
  rw [expectedSessionid, expectedSessionid, nextCounter]
  split <;> split <;> omega

/-- A message with a number other than the expected one is answered with the error 11010,
which announces the expected one. -/
theorem workTask_wrong (extra : Reply → ℕ) {s : Server ι} {i : ι} {node : Node}
    (hnode : s.nodes i = some node) {w : Work} (hwork : node.work = [w]) {back : Buffer}
    (hback : w.spVec.getLast? = some back) (hwrong : back.sessionId ≠ w.sessionid)
    (h : Handling ι) :
    workTask extra s i 0 h = mountBuffer2Node extra (s.setNode i { node with work := [] })
      [(i, .error 11010
        ("session id error, right id is " ++ toString w.sessionid ++ " ."))] := by
  have hw : node.work[0]? = some w := by rw [hwork]; rfl
  have hrest : node.work.eraseIdx 0 = [] := by rw [hwork]; rfl
  rw [workTask, hnode]
  simp only [hw]
  rw [dispatch, hback, hrest]
  simp only
  rw [dispatchGate, if_neg hwrong.symm]

/-- **A rejection and the session counter, exactly.** On a connected connection without
tasks, a numbered message with a wrong number is answered with the error 11010 that
announces the expected number. Whatever happens before the next read, the next numbered
message with that number is accepted, and the expected number is what it was before, if
and only if the wrong message met the counter at the largest number. -/
theorem accepted_after_rejection_iff (extra : Reply → ℕ) (s : Server ι) (i : ι) (node : Node)
    (hnode : s.nodes i = some node) (hconn : node.io.isConnect = true)
    (hwatch : node.watching = true) (hidle : node.work = []) (b₁ b₂ : Buffer)
    (u₁ u₂ : Uninit) (h : Handling ι) (es : List (Event ι))
    (hb₁ : numbered b₁ = true) (hb₂ : numbered b₂ = true)
    (hwrong : b₁.sessionId ≠ expectedSessionid node.io.sessionid)
    (hright : b₂.sessionId = expectedSessionid node.io.sessionid)
    (hes : ∀ e ∈ es, ¬ e.readsFrom i) :
    let read := step extra s (.frame i b₁ u₁)
    let rejected := step extra read (.work i 0 h)
    let later := es.foldl (step extra) rejected
    rejected.log = read.log ++ [.mounted i (.error 11010
        ("session id error, right id is " ++
          toString (expectedSessionid node.io.sessionid) ++ " ."))] ∧
      ((step extra later (.frame i b₂ u₂)).verdict i 0 = some .handle ↔
        node.io.sessionid = maxSessionID) ∧
      (later.expected i = s.expected i ↔ node.io.sessionid = maxSessionID) := by
  intro read rejected later
  set c := node.io.sessionid with hc
  have hread := nodes_frame_numbered extra hnode hwatch hb₁ u₁
  have hrejected := workTask_wrong extra hread (by rw [hidle]; rfl)
    (List.getLast?_concat) hwrong h
  obtain ⟨node₂, hnode₂, hquiet₂⟩ := nodes_mountBuffer2Node extra
    [(i, .error 11010 ("session id error, right id is " ++
      toString (expectedSessionid c) ++ " ."))]
    (read.setNode_self i { node with
      io := { node.io with bufferSpV := [], sessionid := nextCounter c }
      work := [] })
  rw [← hrejected] at hnode₂
  obtain ⟨node₃, hnode₃, hquiet₃⟩ := quiet_run extra hnode₂ hquiet₂.work hes
  have hnode₃ : later.nodes i = some node₃ := hnode₃
  have hquiet := hquiet₂.trans hquiet₃
  have hcounter : node₃.io.sessionid = nextCounter c := hquiet.sessionid
  refine ⟨?_, ?_, ?_⟩
  · have hlog : rejected.log = _ := congrArg Server.log hrejected
    rw [hlog]
    rfl
  · obtain ⟨-, hcheck⟩ := Bool.and_eq_true_iff.mp hb₂
    have hverdict := verdict_frame_numbered extra hnode₃ (hquiet.watching.trans hwatch)
      hquiet.work hb₂ u₂
    rw [hverdict, Option.some.injEq, dispatchGate_handle hcheck, hright, hcounter,
      expected_nextCounter_iff]
    constructor
    · rintro ⟨-, hmax, -⟩
      exact hmax
    · intro hmax
      refine ⟨hquiet.isConnect hconn, hmax, ?_⟩
      rw [hmax]
      decide
  · rw [Server.expected, Server.expected, hnode₃, hnode, Option.map_some, Option.map_some,
      Option.some.injEq, hcounter, expected_nextCounter_iff]

/-- A connection that has been answered with a success for the stored number, and marked as
connected. -/
def connected (stored : ℤ) : Server Unit :=
  [Event.work () 0 (connectAs ["d"] stored), .write () .finished].foldl (step fun _ => 0)
    connecting

/-- The node of `connected`. -/
def connectedNode (stored : ℤ) : Node where
  io := ⟨[], true, resumedSessionid stored, "u", "d", "", ""⟩
  watching := true
  work := []
  buffersP := []

/-- A number that is rejected in front of the largest one. -/
theorem accepted_after_rejection_last :
    ((step (fun _ => 0) (step (fun _ => 0) (step (fun _ => 0) (connected 32766)
        (.frame () (bareFrame 30 5) Uninit.zero)) (.work () 0 (.plain [])))
      (.frame () (bareFrame 30 100) Uninit.zero)).verdict () 0 = some .handle ↔
      resumedSessionid 32766 = maxSessionID) :=
  (accepted_after_rejection_iff (fun _ => 0) (connected 32766) () (connectedNode 32766)
    rfl rfl rfl rfl (bareFrame 30 5) (bareFrame 30 100) Uninit.zero Uninit.zero (.plain []) []
    (by decide) (by decide) (by decide) (by decide) (by simp)).2.1

/-- The connection expects 100: a message with the number 5 is answered with an error that
announces 100, and the message with the number 100 that follows is rejected as well. -/
theorem rejected_after_rejection :
    (connected 99).expected () = some 100 ∧
      (step (fun _ => 0) (connected 99) (.frame () (bareFrame 30 5) Uninit.zero)).verdict () 0 =
        some (.reject 11010 "session id error, right id is 100 .") ∧
      (step (fun _ => 0) (step (fun _ => 0) (step (fun _ => 0) (connected 99)
          (.frame () (bareFrame 30 5) Uninit.zero)) (.work () 0 (.plain [])))
        (.frame () (bareFrame 30 100) Uninit.zero)).verdict () 0 =
        some (.reject 11010 "session id error, right id is 101 .") := by
  decide

end Yijian
