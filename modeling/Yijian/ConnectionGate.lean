import Yijian.Lib.Runs
import Yijian.Server

/-!
# The Gate before the Numbered Messages

A numbered message is to be handled only on a connection that has been answered with a
successful ClientConnectRes. The workers look at `isConnect`, which the write callback
sets when it takes up a ClientConnectRes, whether it reports a success or not.

## Convention

A connection has been answered with a success once a worker has mounted a ClientConnectRes that
reports one, and a message has been handled once a worker has let it through; the log of the server
has both in their order. The condition on a step is that the frame which the write callback takes
up is not a ClientConnectRes with a failure, unless the connection has had a success before. The
number of a message, and whether its type needs one, are decided in the same place as the gate and
are followed in `Yijian.SessionNumbers`. All workers and all connections may take their steps in
any order; nothing about the database is assumed.

## Main results

* `GateInv`: what ties the flag and the write queues to the answers given.
* `gated_of_stepsMeet`: the gate holds in every run in which no ClientConnectRes that
  reports a failure is written on a connection without a success.
* `not_gated`: a refused connect opens the gate.
-/

namespace Yijian

open Runs

variable {ι : Type}

/-! ### The property -/

/-- The connection has been answered with a successful ClientConnectRes. -/
def Answered (log : List (LogEntry ι)) (i : ι) : Prop :=
  ∃ res : ClientConnectRes, res.isSuccess = true ∧ .mounted i (.clientConnectRes res) ∈ log

/-- Every numbered message that was handled came after such an answer on its
connection. -/
def Gated (log : List (LogEntry ι)) : Prop :=
  ∀ (log₁ : List (LogEntry ι)) (i : ι) (datatype : UInt8),
    log₁ ++ [.handled i datatype] <+: log → missingCheck datatype = true → Answered log₁ i

/-- A connection that has been answered stays so. -/
theorem Answered.append {log : List (LogEntry ι)} {i : ι} (h : Answered log i)
    (log' : List (LogEntry ι)) : Answered (log ++ log') i := by
  obtain ⟨res, hsucc, hmem⟩ := h
  exact ⟨res, hsucc, List.mem_append_left _ hmem⟩

/-- Nothing has been handled. -/
theorem gated_nil : Gated ([] : List (LogEntry ι)) := by
  intro log₁ i datatype hprefix
  simp at hprefix

/-- A handled message keeps the gate if it was let through properly. -/
theorem Gated.handled {log : List (LogEntry ι)} (h : Gated log) {i : ι} {datatype : UInt8}
    (hans : missingCheck datatype = true → Answered log i) :
    Gated (log ++ [.handled i datatype]) := by
  intro log₁ j t hprefix hcheck
  rcases List.prefix_concat_iff.mp hprefix with heq | hprefix
  · obtain ⟨rfl, hentry⟩ := List.append_inj' heq rfl
    cases hentry
    exact hans hcheck
  · exact h log₁ j t hprefix hcheck

/-- Mounting messages keeps the gate. -/
theorem Gated.mounted {log : List (LogEntry ι)} (h : Gated log) (mounts : List (ι × Reply)) :
    Gated (log ++ mounts.map fun m => .mounted m.1 m.2) := by
  induction mounts using List.reverseRecOn with
  | nil => simpa using h
  | append_singleton mounts m ih =>
      rw [List.map_append, List.map_singleton, ← List.append_assoc]
      intro log₁ j t hprefix hcheck
      rcases List.prefix_concat_iff.mp hprefix with heq | hprefix
      · obtain ⟨-, hentry⟩ := List.append_inj' heq rfl
        cases hentry
      · exact ih log₁ j t hprefix hcheck

/-! ### The invariant -/

/-- What a connection owes to the answers given to it: the flag, and the successful
answers in its write queue. -/
structure NodeInv (log : List (LogEntry ι)) (i : ι) (node : Node) : Prop where
  marked : node.io.isConnect = true → Answered log i
  queued : ∀ res : ClientConnectRes, .clientConnectRes res ∈ node.buffersP →
    res.isSuccess = true → Answered log i

/-- The invariant of the gate. -/
structure GateInv (s : Server ι) : Prop where
  gated : Gated s.log
  nodes : ∀ i node, s.nodes i = some node → NodeInv s.log i node

/-- A connection keeps its invariant when more is logged. -/
theorem NodeInv.append {log : List (LogEntry ι)} {i : ι} {node : Node}
    (h : NodeInv log i node) (log' : List (LogEntry ι)) : NodeInv (log ++ log') i node :=
  ⟨fun hmark => (h.marked hmark).append log',
    fun res hres hsucc => (h.queued res hres hsucc).append log'⟩

/-- The invariant looks at the flag and the write queue of a connection. -/
theorem NodeInv.congr {log : List (LogEntry ι)} {i : ι} {node node' : Node}
    (h : NodeInv log i node) (hconn : node'.io.isConnect = node.io.isConnect)
    (hbuf : node'.buffersP = node.buffersP) : NodeInv log i node' :=
  ⟨fun hmark => h.marked (hconn ▸ hmark), fun res hres => h.queued res (hbuf ▸ hres)⟩

/-- A server without connections. -/
theorem gateInv_new : GateInv (Server.new : Server ι) :=
  ⟨gated_nil, fun _ _ hnode => nomatch hnode⟩

variable [DecidableEq ι]

/-- The invariant after one connection has changed. -/
theorem GateInv.setNode {s : Server ι} (h : GateInv s) {i : ι} {node : Node}
    (hnode : NodeInv s.log i node) : GateInv (s.setNode i node) := by
  refine ⟨h.gated, fun j node' hj => ?_⟩
  by_cases hij : j = i
  · subst hij
    obtain rfl : node = node' := Option.some.inj ((s.setNode_self j node).symm.trans hj)
    exact hnode
  · exact h.nodes j node' ((s.setNode_of_ne hij node).symm.trans hj)

/-- A frame in a queue belongs to a reply that was mounted there. -/
theorem mem_framesFor {extra : Reply → ℕ} {mounts : List (ι × Reply)} {j : ι} {r : Reply}
    (h : r ∈ framesFor extra mounts j) : (j, r) ∈ mounts := by
  obtain ⟨⟨j', r'⟩, hm, hr⟩ := List.mem_flatMap.mp h
  split at hr
  · rename_i hj
    obtain rfl : j' = j := hj
    obtain rfl : r = r' := (List.mem_replicate.mp hr).2
    exact hm
  · cases hr

/-- Mounting keeps the invariant: what is mounted is recorded. -/
theorem GateInv.mount {s : Server ι} (h : GateInv s) (extra : Reply → ℕ)
    (mounts : List (ι × Reply)) : GateInv (mountBuffer2Node extra s mounts) := by
  refine ⟨h.gated.mounted mounts, fun j node' hj => ?_⟩
  obtain ⟨node, hnode, rfl⟩ := Option.map_eq_some_iff.mp hj
  have hinv := (h.nodes j node hnode).append (mounts.map fun m => .mounted m.1 m.2)
  refine ⟨hinv.marked, fun res hres hsucc => ?_⟩
  rcases List.mem_append.mp hres with hold | hnew
  · exact hinv.queued res hold hsucc
  · have hmem : .mounted j (.clientConnectRes res) ∈
        mounts.map (fun m => LogEntry.mounted m.1 m.2) :=
      List.mem_map.mpr ⟨(j, .clientConnectRes res), mem_framesFor hnew, rfl⟩
    exact ⟨res, hsucc, List.mem_append_right _ hmem⟩

/-! ### The steps -/

omit [DecidableEq ι] in
/-- A handler never marks its connection as connected. -/
theorem isConnect_of_dispatchType {datatype : UInt8} {h : Handling ι} {i : ι}
    {io io' : ReadIo} {mounts : List (ι × Reply)}
    (hrun : dispatchType datatype h i io = some (io', mounts)) :
    io'.isConnect = io.isConnect := by
  rcases dispatchType_cases hrun with rfl | ⟨connect, db, info, stored, -, -, -, rfl⟩
  · rfl
  · rfl

/-- A task keeps the invariant: the gate lets it pass, or rejects it. -/
theorem gateInv_workTask {extra : Reply → ℕ} {s : Server ι} (hinv : GateInv s) (i : ι)
    (k : ℕ) (h : Handling ι) : GateInv (workTask extra s i k h) := by
  have htask := taskStep extra s i k h
  generalize workTask extra s i k h = s' at htask
  cases htask with
  | idle => exact hinv
  | @rejected node w back errnum errmsg hnode =>
      have hset : GateInv (s.setNode i { node with work := node.work.eraseIdx k }) :=
        hinv.setNode ((hinv.nodes i node hnode).congr rfl rfl)
      exact hset.mount extra _
  | @handled node w back io mounts hnode hw hback hgate hrun =>
      refine GateInv.mount ?_ extra mounts
      have hown := hinv.nodes i node hnode
      have hset : GateInv (s.setNode i { node with work := node.work.eraseIdx k, io := io }) :=
        hinv.setNode (hown.congr (isConnect_of_dispatchType hrun) rfl)
      refine ⟨hset.gated.handled fun hcheck => ?_,
        fun j node' hj => (hset.nodes j node' hj).append _⟩
      exact hown.marked ((dispatchGate_handle hcheck).mp hgate).1

/-- The frame at the front of a write queue. -/
def Server.front (s : Server ι) (i : ι) : Option Reply :=
  (s.nodes i).bind fun node => node.buffersP.head?

/-- The condition on a step: a ClientConnectRes that reports a failure is taken up by the
write callback only on a connection that has been answered with a success. -/
def GateStep (s : Server ι) : Event ι → Prop
  | .write i _ => ∀ res : ClientConnectRes, s.front i = some (.clientConnectRes res) →
      res.isSuccess = false → Answered s.log i
  | _ => True

/-- A frame keeps the invariant. -/
theorem gateInv_frame {s : Server ι} (hinv : GateInv s) (i : ι) (back : Buffer) (u : Uninit) :
    GateInv (readFrame s i back u) := by
  rcases readFrame_cases s i back u with ⟨-, hsame⟩ | ⟨node, v, tasks, pinglist, hnode, -, hread⟩
  · rw [hsame]
    exact hinv
  · rw [hread]
    have hown : NodeInv s.log i { node with
        io := { node.io with
          bufferSpV := v, sessionid := counterAfter node.io.sessionid back }
        work := node.work ++ tasks } := (hinv.nodes i node hnode).congr rfl rfl
    have hset := hinv.setNode hown
    exact ⟨hset.gated, hset.nodes⟩

/-- A write keeps the invariant, if it does not open the gate too early. -/
theorem gateInv_write {s : Server ι} (hinv : GateInv s) (i : ι) (r : WriteResult)
    (hstep : GateStep s (.write i r)) : GateInv (connectionWriteCallback s i r) := by
  rw [connectionWriteCallback]
  cases hnode : s.nodes i with
  | none => exact hinv
  | some node =>
      have hown := hinv.nodes i node hnode
      simp only
      cases hbuf : node.buffersP with
      | nil => exact hinv
      | cons p rest =>
          have hset : GateInv (s.setNode i (nodeWrite p rest r node)) := by
            refine hinv.setNode ⟨fun hmark => ?_, fun res hres hsucc => ?_⟩
            · rcases Bool.or_eq_true_iff.mp hmark with hold | htype
              · exact hown.marked hold
              · obtain ⟨res, rfl⟩ :=
                  Reply.datatype_eq_clientconnectres.mp (beq_iff_eq.mp htype)
                cases hsucc : res.isSuccess with
                | true => exact hown.queued res (by simp [hbuf]) hsucc
                | false => exact hstep res (by simp [Server.front, hnode, hbuf]) hsucc
            · refine hown.queued res ?_ hsucc
              rw [hbuf]
              rw [nodeWrite] at hres
              split at hres
              · exact List.mem_cons_of_mem p hres
              · exact hres
          exact ⟨hset.gated, hset.nodes⟩

/-- **One step** that meets the condition keeps the invariant. -/
theorem gateInv_step {extra : Reply → ℕ} (s : Server ι) (e : Event ι) (hinv : GateInv s)
    (hstep : GateStep s e) : GateInv (step extra s e) := by
  cases e with
  | accept i sessionid =>
      rw [step, socketAcceptCallback]
      cases s.nodes i with
      | some node => exact hinv
      | none =>
          have hset : GateInv (s.setNode i ⟨ReadIo.new sessionid.toNat, true, [], []⟩) :=
            hinv.setNode ⟨fun hmark => (nomatch hmark), fun _ hres => (nomatch hres)⟩
          exact ⟨hset.gated, hset.nodes⟩
  | frame i back u => exact gateInv_frame hinv i back u
  | readClosed i =>
      rw [step, readClosed]
      cases hnode : s.nodes i with
      | none => exact hinv
      | some node =>
          have hset : GateInv (s.setNode i { node with watching := false }) :=
            hinv.setNode ((hinv.nodes i node hnode).congr rfl rfl)
          simp only
          split
          · exact ⟨hset.gated, hset.nodes⟩
          · exact hinv
  | work i k h => exact gateInv_workTask hinv i k h
  | write i r => exact gateInv_write hinv i r hstep
  | pingtime n => exact ⟨hinv.gated, hinv.nodes⟩

/-- **The connection gate.** In every run in which a ClientConnectRes that reports a
failure is written only on connections that have been answered with a success, every
numbered message that is handled comes after such an answer on its connection. -/
theorem gated_of_stepsMeet (extra : Reply → ℕ) (es : List (Event ι))
    (h : StepsMeet (step extra) GateStep (Server.new : Server ι) es) :
    Always (step extra) (fun s => Gated s.log) (Server.new : Server ι) es := by
  have hinv : Always (step extra) GateInv (Server.new : Server ι) es :=
    always_of_stepsMeet gateInv_step gateInv_new h
  intro es₁ es₂ heq
  exact (hinv es₁ es₂ heq).gated

/-! ### A connect and a refused connect -/

/-- A connect, the write of its answer, and a numbered message. -/
def connectRun (devices : List String) : List (Event Unit) :=
  [.accept () 100, .frame () (bareFrame 6 0) Uninit.zero, .work () 0 (connectAs devices 99),
    .write () .finished, .frame () (bareFrame 30 100) Uninit.zero, .work () 0 (.plain [])]

/-- The message is handled after the success. -/
theorem gated_connectRun :
    Always (step fun _ => 0) (fun s => Gated s.log) Server.new (connectRun ["d"]) := by
  refine gated_of_stepsMeet _ _ ⟨trivial, trivial, trivial, ?_, trivial, trivial, trivial⟩
  intro res hfront hfail
  have hres : res = ⟨true, 0, "", "", "", 100⟩ := by
    injection hfront with hreply
    injection hreply with hres
    exact hres.symm
  rw [hres] at hfail
  cases hfail

/-- The user does not have the device: the answer reports the failure, its write marks the
connection, and the message is handled. -/
theorem not_gated : ¬ Gated ((connectRun []).foldl (step fun _ => 0) Server.new).log := by
  intro h
  have hlog : ((connectRun []).foldl (step fun _ => 0) Server.new).log =
      [.handled () 6, .mounted () (connectFailure ⟨11003, "device not find"⟩)] ++
        [.handled () 30] := rfl
  rw [hlog] at h
  obtain ⟨res, hsucc, hmem⟩ := h _ () 30 List.prefix_rfl (by decide)
  rw [List.mem_cons, List.mem_singleton] at hmem
  rcases hmem with hmem | hmem
  · cases hmem
  · injection hmem with _ hreply
    injection hreply with hres
    rw [hres] at hsucc
    cases hsucc

end Yijian
