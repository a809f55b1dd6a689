import Yijian.Lib.Runs
import Yijian.Server

/-!
# The Routes of the Devices

`uuidnode_map_` is to route a uuid to the connection that completed the last answer to a
ClientConnect under it. Every handler edits the map by uuid. `Routed` runs the server beside
a map that is edited by connection: an answer completely written gives its connection the
uuid it carries and no other, and a connection that is dropped loses what it has.

## Convention

The abstract map is edited by connection and knows who the owner of each route is; the map of the
code is edited by uuid and does not. The uuid of a connection is the member of its `Read_IO` at the
moment of the edit, which a ClientConnect sets before it can fail, and which a second ClientConnect
on the same connection may replace. An edit that puts the current connection in for another one,
or takes out the route of another one, is where the two maps part. The statement is an equivalence
over runs with a condition on each step, which looks at the maps and the connection before it.

## Main results

* `routes_write_iff`, `routes_step_iff`: when a step keeps the two maps equal.
* `routes_eq_owner_iff`: the two maps are equal in every state of a run exactly if all its
  steps meet that condition.
-/

namespace Yijian

open Runs Routes

variable {ι : Type} [DecidableEq ι]

/-! ### The routes by connection -/

/-- What the write callback is to do to the routes of the connection `i`: it is dropped by
the answer to a ClientDisConnect and by a failed write, and routed by an answer to a
ClientConnect that is completely written. -/
def ownerWrite (datatype : UInt8) (uuid : String) (i : ι) (r : WriteResult)
    (m : String → Option ι) : String → Option ι :=
  if datatype = ChatType.clientdisconnectres.code ∨ r = .failed then remove i m
  else if datatype = ChatType.clientconnectres.code ∧ r = .finished then
    if uuid = "" then remove i m else claim uuid i m
  else m

/-- The routes by connection after an event. -/
def ownerStep (s : Server ι) (m : String → Option ι) : Event ι → String → Option ι
  | .readClosed i =>
      match s.nodes i with
      | none => m
      | some node => if node.watching then remove i m else m
  | .write i r =>
      match s.nodes i with
      | none => m
      | some node =>
          match node.buffersP with
          | [] => m
          | p :: _ => ownerWrite p.datatype node.io.uuid i r m
  | .pingtime n => removeAll (s.pinglist.take n) m
  | _ => m

/-- The server and its routes by connection. -/
structure Routed (ι : Type) where
  server : Server ι
  owner : String → Option ι

def Routed.new : Routed ι := ⟨Server.new, fun _ => none⟩

def routedStep (extra : Reply → ℕ) (t : Routed ι) (e : Event ι) : Routed ι where
  server := step extra t.server e
  owner := ownerStep t.server t.owner e

/-! ### The condition -/

/-- Under the uuid there is no other connection than `i`, and `i` is under no other
uuid. -/
def OwnKey (m : String → Option ι) (uuid : String) (i : ι) : Prop :=
  ∀ w j, m w = some j → (w = uuid ↔ j = i)

/-- The condition on the write of a frame. -/
def WriteOk (datatype : UInt8) (uuid : String) (i : ι) (r : WriteResult)
    (m : String → Option ι) : Prop :=
  if datatype = ChatType.clientdisconnectres.code ∨ r = .failed then OwnKey m uuid i
  else if datatype = ChatType.clientconnectres.code then
    if r = .finished then ∀ w, m w = some i → w = uuid
    else uuid = "" ∨ m uuid = some i
  else True

/-- The condition on a step: a connection is dropped only while its uuid routes to no other
connection and no other uuid routes to it; an answer to a ClientConnect is completely
written only on a connection that no other uuid routes to, and partly written only on one
that its uuid routes to already. -/
def RouteOk (s : Server ι) : Event ι → Prop
  | .readClosed i => ∀ node, s.nodes i = some node → node.watching = true →
      OwnKey s.uuidnodeMap node.io.uuid i
  | .write i r => ∀ node p rest, s.nodes i = some node → node.buffersP = p :: rest →
      WriteOk p.datatype node.io.uuid i r s.uuidnodeMap
  | .pingtime n => ∀ w j, s.uuidnodeMap w = some j →
      (w ∈ (s.pinglist.take n).map s.uuidOf ↔ j ∈ s.pinglist.take n)
  | _ => True

/-! ### The steps -/

omit [DecidableEq ι] in
/-- A route is deleted under its UUID where the empty one leads nowhere. -/
theorem deleteRoute_of_empty {m : String → Option ι} (hempty : m "" = none) (uuid : String) :
    deleteRoute uuid m = delete uuid m := by
  rw [deleteRoute]
  split
  · rename_i hu
    rw [hu, delete, ← hempty, Function.update_eq_self]
  · rfl

omit [DecidableEq ι] in
/-- The empty uuid is never routed. -/
theorem routeWrite_empty {m : String → Option ι} (hempty : m "" = none) (datatype : UInt8)
    (uuid : String) (i : ι) (r : WriteResult) :
    routeWrite datatype uuid i r m "" = none := by
  have hdelete : ∀ {m' : String → Option ι}, m' "" = none → deleteRoute uuid m' "" = none := by
    intro m' hm'
    rw [deleteRoute_of_empty hm', delete]
    simp [Function.update_apply, hm']
  have hbefore : routeBeforeWrite datatype uuid i m "" = none := by
    rw [routeBeforeWrite]
    split
    · split
      · exact hempty
      · rename_i hu
        rw [uuidnodePut, put_of_ne (Ne.symm hu), hempty]
    · split
      · exact hdelete hempty
      · exact hempty
  rw [routeWrite]
  split
  · exact hdelete hbefore
  · exact hbefore

omit [DecidableEq ι] in
/-- A write that drops its connection deletes the uuid. -/
theorem routeWrite_dropped {m : String → Option ι} (hempty : m "" = none) {datatype : UInt8}
    (uuid : String) (i : ι) {r : WriteResult}
    (hdrop : datatype = ChatType.clientdisconnectres.code ∨ r = .failed) :
    routeWrite datatype uuid i r m = delete uuid m := by
  have hne : ChatType.clientdisconnectres.code ≠ ChatType.clientconnectres.code := by decide
  have hdelete := deleteRoute_of_empty hempty uuid
  have htwice : deleteRoute uuid (delete uuid m) = delete uuid m := by
    rw [deleteRoute]
    split
    · rfl
    · exact delete_delete uuid m
  have hput (hu : uuid ≠ "") : deleteRoute uuid (put uuid i m) = delete uuid m := by
    rw [deleteRoute, if_neg hu]
    exact delete_put uuid i m
  rw [routeWrite, routeBeforeWrite, uuidnodePut, hdelete]
  rcases hdrop with rfl | rfl
  · rw [if_neg hne, if_pos rfl, htwice, ite_self]
  · rw [if_pos rfl]
    split
    · split
      · exact hdelete
      · rename_i hu
        exact hput hu
    · split
      · exact htwice
      · exact hdelete

/-- **One write**, on equal maps. -/
theorem routes_write_iff {m : String → Option ι} (hempty : m "" = none) (datatype : UInt8)
    (uuid : String) (i : ι) (r : WriteResult) :
    routeWrite datatype uuid i r m = ownerWrite datatype uuid i r m ↔
      WriteOk datatype uuid i r m := by
  by_cases hdrop : datatype = ChatType.clientdisconnectres.code ∨ r = .failed
  · rw [routeWrite_dropped hempty uuid i hdrop, ownerWrite, if_pos hdrop, WriteOk,
      if_pos hdrop, delete_eq_remove_iff, OwnKey]
  · obtain ⟨hdis, hfail⟩ := not_or.mp hdrop
    rw [ownerWrite, WriteOk, if_neg hdrop, if_neg hdrop, routeWrite, if_neg hfail,
      routeBeforeWrite, if_neg hdis]
    by_cases hconn : datatype = ChatType.clientconnectres.code
    · rw [if_pos hconn, if_pos hconn]
      by_cases hfin : r = .finished
      · have hboth : datatype = ChatType.clientconnectres.code ∧ r = .finished :=
          ⟨hconn, hfin⟩
        rw [if_pos hfin, if_pos hboth]
        by_cases hu : uuid = ""
        · subst hu
          rw [if_pos rfl, if_pos rfl, eq_comm, remove_eq_self_iff]
          refine forall_congr' fun w => ⟨fun h hi => absurd hi h, fun h hi => ?_⟩
          rw [h hi, hempty] at hi
          cases hi
        · rw [if_neg hu, if_neg hu]
          exact put_eq_claim_iff
      · have hpart : ¬ (datatype = ChatType.clientconnectres.code ∧ r = .finished) :=
          fun h => hfin h.2
        rw [if_neg hfin, if_neg hpart]
        by_cases hu : uuid = ""
        · simp [hu]
        · rw [if_neg hu, or_iff_right hu]
          exact put_eq_self_iff
    · have hother : ¬ (datatype = ChatType.clientconnectres.code ∧ r = .finished) :=
        fun h => hconn h.1
      rw [if_neg hconn, if_neg hconn, if_neg hother, eq_self_iff_true]

/-- Reading and working leave the routes alone. -/
theorem uuidnodeMap_workTask (extra : Reply → ℕ) (s : Server ι) (i : ι) (k : ℕ)
    (h : Handling ι) : (workTask extra s i k h).uuidnodeMap = s.uuidnodeMap := by
  have htask := taskStep extra s i k h
  generalize workTask extra s i k h = s' at htask
  cases htask with
  | idle => rfl
  | rejected => rfl
  | handled => rfl

/-- Reading leaves the routes alone. -/
theorem uuidnodeMap_readFrame (s : Server ι) (i : ι) (back : Buffer) (u : Uninit) :
    (readFrame s i back u).uuidnodeMap = s.uuidnodeMap := by
  rcases readFrame_cases s i back u with ⟨-, heq⟩ | ⟨_, _, _, _, -, -, heq⟩
  · rw [heq]
  · rw [heq]
    rfl

/-- A write routes what it writes. -/
theorem uuidnodeMap_write {s : Server ι} {i : ι} {node : Node} {p : Reply}
    {rest : List Reply} (hnode : s.nodes i = some node) (hbuf : node.buffersP = p :: rest)
    (r : WriteResult) :
    (connectionWriteCallback s i r).uuidnodeMap =
      routeWrite p.datatype node.io.uuid i r s.uuidnodeMap := by
  rw [connectionWriteCallback, hnode]
  simp only [hbuf]

/-- The empty uuid is never routed. -/
theorem empty_step (extra : Reply → ℕ) {s : Server ι} (e : Event ι)
    (hempty : s.uuidnodeMap "" = none) : (step extra s e).uuidnodeMap "" = none := by
  cases e with
  | accept i sessionid =>
      rw [step, socketAcceptCallback]
      cases s.nodes i with
      | none => exact hempty
      | some node => exact hempty
  | frame i back u => rw [step, uuidnodeMap_readFrame, hempty]
  | readClosed i =>
      rw [step, readClosed]
      cases s.nodes i with
      | none => exact hempty
      | some node =>
          simp only
          split
          · simp only [uuidnodeDelete, delete, Function.update_apply, hempty, ite_self]
          · exact hempty
  | work i k h => rw [step, uuidnodeMap_workTask, hempty]
  | write i r =>
      rw [step]
      cases hnode : s.nodes i with
      | none =>
          rw [connectionWriteCallback, hnode]
          exact hempty
      | some node =>
          cases hbuf : node.buffersP with
          | nil =>
              rw [connectionWriteCallback, hnode]
              simp only [hbuf]
              exact hempty
          | cons p rest => rw [uuidnodeMap_write hnode hbuf, routeWrite_empty hempty]
  | pingtime n =>
      simp only [step, pingtimeCallback, deleteAll_apply, hempty, ite_self]

/-- **One step**, on equal maps. -/
theorem routes_step_iff (extra : Reply → ℕ) {s : Server ι} (e : Event ι)
    (hempty : s.uuidnodeMap "" = none) :
    (step extra s e).uuidnodeMap = ownerStep s s.uuidnodeMap e ↔ RouteOk s e := by
  cases e with
  | accept i sessionid =>
      refine iff_of_true ?_ trivial
      rw [step, socketAcceptCallback]
      cases s.nodes i with
      | none => rfl
      | some node => rfl
  | frame i back u =>
      refine iff_of_true ?_ trivial
      rw [step, uuidnodeMap_readFrame]
      rfl
  | readClosed i =>
      rw [step, readClosed, ownerStep, RouteOk]
      cases hnode : s.nodes i with
      | none => simp
      | some node =>
          simp only [Option.some.injEq, forall_eq']
          cases hwatch : node.watching with
          | false => simp
          | true =>
              simp only [if_true, true_imp_iff]
              exact delete_eq_remove_iff
  | work i k h =>
      refine iff_of_true ?_ trivial
      rw [step, uuidnodeMap_workTask]
      rfl
  | write i r =>
      rw [step, ownerStep, RouteOk]
      cases hnode : s.nodes i with
      | none =>
          rw [connectionWriteCallback, hnode]
          simp
      | some node =>
          cases hbuf : node.buffersP with
          | nil =>
              rw [connectionWriteCallback, hnode]
              simp only [hbuf, true_iff]
              rintro node' p rest hnode' hbuf'
              obtain rfl := Option.some.inj hnode'
              rw [hbuf] at hbuf'
              cases hbuf'
          | cons p rest =>
              rw [uuidnodeMap_write hnode hbuf]
              simp only [hbuf]
              rw [routes_write_iff hempty]
              constructor
              · rintro hok node' p' rest' hnode' hbuf'
                obtain rfl := Option.some.inj hnode'
                obtain ⟨rfl, rfl⟩ := List.cons.inj (hbuf.symm.trans hbuf')
                exact hok
              · intro hok
                exact hok node p rest rfl hbuf
  | pingtime n =>
      rw [step, pingtimeCallback, ownerStep, RouteOk]
      exact deleteAll_eq_removeAll_iff

/-- **The routing table, exactly.** In every state of a run, the map routes a uuid to the
connection that completed the last answer to a ClientConnect under it and has not been
dropped or given another uuid since, if and only if every step of the run meets the
condition `RouteOk`. -/
theorem routes_eq_owner_iff (extra : Reply → ℕ) (es : List (Event ι)) :
    Always (routedStep extra) (fun t => t.server.uuidnodeMap = t.owner) Routed.new es ↔
      StepsMeet (routedStep extra) (fun t e => RouteOk t.server e) Routed.new es := by
  refine always_iff_stepsMeet (I := fun t => t.server.uuidnodeMap "" = none) ?_ ?_ rfl rfl
  · intro t e hempty _ _
    exact empty_step extra e hempty
  · intro t e hempty heq
    rw [routedStep, ← heq]
    exact routes_step_iff extra e hempty

/-! ### Two connections of one device -/

/-- The events that connect the device `d` on the connection `i`. -/
def connectEvents (i : Bool) : List (Event Bool) :=
  [.accept i 0, .frame i (bareFrame 6 0) Uninit.zero, .work i 0 (connectAs ["d"] 99),
    .write i .finished]

/-- The device connects, connects again on a new connection, and the old connection is
dropped for its overdue ping: the new connection is not routed any more. -/
theorem not_routes_eq_owner :
    ¬ Always (routedStep fun _ => 0) (fun t => t.server.uuidnodeMap = t.owner) Routed.new
      (connectEvents false ++ connectEvents true ++ [.pingtime 1]) := by
  intro h
  have hroute := congrFun h.last "d"
  exact absurd hroute (by decide)

end Yijian
