import Yijian.ConnectionGate

/-!
# A Connect that Fails

`dispatch(chat::ClientConnect&)` is answered with a ClientConnectRes that reports a failure
where the user or the device is not found, and where an operation on the database fails. It
sets the fields of the current node before `updateUUID`, which can fail; and the write
callback, which takes the answer up later, looks at the type of a frame only: it marks the
connection and routes its uuid, whatever the answer reports.

## Convention

A connect fails if its answer reports a failure. A ClientConnect that ends the process, because its
user has no number in the document of the device, has no answer, and is no failed connect. Three
things are to be as they were (`standing`): the current node, the mark of the connection, and the
routes. The first is decided in the handler, the others when the frame is taken up, which may be at
any later time, with other frames in front of it. Both moments are steps of a run, in which the
other steps leave these three things alone; the condition is on the state before the request.

## Main results

* `clientConnect_io`: the current node that a ClientConnect leaves behind.
* `standing_write`: what taking up an answer to a ClientConnect does.
* `failed_connect_iff`: the failed connects that leave the connection and the routes as they
  were.
-/

namespace Yijian

open Runs

variable {ι : Type}

/-! ### What a connect is about -/

/-- The fields of a connection that a connect is about, and the routes. -/
@[ext]
structure Standing (ι : Type) where
  userid : String
  uuid : String
  sessionid : ℕ
  clientVersion : String
  appVersion : String
  isConnect : Bool
  uuidnodeMap : String → Option ι

/-- The fields of a `Read_IO`. -/
def ReadIo.standing (io : ReadIo) (uuidnodeMap : String → Option ι) : Standing ι where
  userid := io.userid
  uuid := io.uuid
  sessionid := io.sessionid
  clientVersion := io.clientVersion
  appVersion := io.appVersion
  isConnect := io.isConnect
  uuidnodeMap := uuidnodeMap

/-- The standing of a connection. -/
def Server.standing (s : Server ι) (i : ι) : Option (Standing ι) :=
  (s.nodes i).map fun node => node.io.standing s.uuidnodeMap

/-- The routes once an answer to a ClientConnect has been taken up. -/
def routed (uuid : String) (i : ι) (m : String → Option ι) : String → Option ι :=
  if uuid = "" then m else uuidnodePut uuid i m

/-- The standing of the connection `i` once an answer to a ClientConnect has been taken up. -/
def Standing.answered (i : ι) (t : Standing ι) : Standing ι :=
  { t with
    isConnect := true
    uuidnodeMap := routed t.uuid i t.uuidnodeMap }

/-- To route a device twice is to route it once. -/
theorem routed_routed (uuid : String) (i : ι) (m : String → Option ι) :
    routed uuid i (routed uuid i m) = routed uuid i m := by
  unfold routed
  split
  · rfl
  · rw [uuidnodePut, uuidnodePut, Routes.put, Routes.put, Function.update_idem]

/-- The routes stay as they are if the uuid is empty or leads to the connection already. -/
theorem routed_eq_self_iff {uuid : String} {i : ι} {m : String → Option ι} :
    routed uuid i m = m ↔ uuid = "" ∨ m uuid = some i := by
  unfold routed
  by_cases hu : uuid = ""
  · rw [if_pos hu]
    exact iff_of_true rfl (Or.inl hu)
  · rw [if_neg hu, uuidnodePut, Routes.put, Function.update_eq_self_iff, or_iff_right hu, eq_comm]

/-- A second answer changes nothing. -/
theorem Standing.answered_answered (i : ι) (t : Standing ι) :
    (t.answered i).answered i = t.answered i :=
  Standing.ext rfl rfl rfl rfl rfl rfl (routed_routed t.uuid i t.uuidnodeMap)

/-! ### The handler -/

/-- The stored session number that a ClientConnect sets the current node with, if it gets so
far. -/
def DbAnswers.assigned (db : DbAnswers) (connect : ClientConnect) : Option ℤ :=
  match db.queryUser, db.findUUID with
  | .ok devices, .ok info =>
      if devices.contains connect.uuid then info.users connect.userid else none
  | _, _ => none

/-- **The current node after a ClientConnect**, however it is answered. -/
theorem clientConnect_io {connect : ClientConnect} {db : DbAnswers} {io io' : ReadIo}
    {replies : List Reply} (h : clientConnect connect db io = some (io', replies)) :
    io' = (db.assigned connect).elim io (io.connect connect) := by
  unfold clientConnect at h
  cases hquery : db.queryUser with
  | error e =>
      rw [hquery] at h
      rw [DbAnswers.assigned, hquery]
      exact (Prod.mk.inj (Option.some.inj h)).1.symm
  | ok devices =>
      rw [hquery] at h
      cases hfind : db.findUUID with
      | error e =>
          rw [hfind] at h
          rw [DbAnswers.assigned, hquery, hfind]
          simp only at h ⊢
          split at h <;> exact (Prod.mk.inj (Option.some.inj h)).1.symm
      | ok info =>
          rw [hfind] at h
          rw [DbAnswers.assigned, hquery, hfind]
          simp only at h ⊢
          split at h
          · rename_i hlisted
            rw [if_pos hlisted]
            cases husers : info.users connect.userid with
            | none =>
                rw [husers] at h
                cases h
            | some stored =>
                rw [husers] at h
                simp only at h
                split at h <;> exact (Prod.mk.inj (Option.some.inj h)).1.symm
          · rename_i hlisted
            rw [if_neg hlisted]
            exact (Prod.mk.inj (Option.some.inj h)).1.symm

variable [DecidableEq ι]

/-! ### The write of an answer -/

/-- The step takes up, and does not fail to write, the answer `res` on the connection. -/
def TakesUp (i : ι) (res : ClientConnectRes) (s : Server ι) (e : Event ι) : Prop :=
  ∃ r, e = .write i r ∧ r ≠ .failed ∧ s.front i = some (.clientConnectRes res)

/-- **Taking up an answer** marks and routes the connection, whatever the answer reports. -/
theorem standing_write {extra : Reply → ℕ} {i : ι} {res : ClientConnectRes} {s : Server ι}
    {e : Event ι} (h : TakesUp i res s e) :
    (step extra s e).standing i = (s.standing i).map (Standing.answered i) := by
  obtain ⟨r, rfl, hr, hfront⟩ := h
  obtain ⟨node, hnode, hhead⟩ := Option.bind_eq_some_iff.mp hfront
  obtain ⟨rest, hbuf⟩ : ∃ rest, node.buffersP = .clientConnectRes res :: rest := by
    cases hbuf : node.buffersP with
    | nil =>
        rw [hbuf] at hhead
        cases hhead
    | cons p rest =>
        rw [hbuf, List.head?_cons, Option.some.injEq] at hhead
        exact ⟨rest, by rw [hhead]⟩
  have hroute : routeWrite (Reply.clientConnectRes res).datatype node.io.uuid i r s.uuidnodeMap =
      routed node.io.uuid i s.uuidnodeMap := by
    rw [routeWrite, if_neg hr]
    rfl
  have hmark : (nodeWrite (.clientConnectRes res) rest r node).io =
      { node.io with isConnect := true } := by
    simp [nodeWrite, Reply.datatype]
  rw [step, connectionWriteCallback, Server.standing, Server.standing, hnode]
  simp only [hbuf, hroute]
  rw [Server.setNode]
  simp only [Function.update_self, Option.map_some, hmark]
  rfl

/-! ### A failed connect -/

/-- A ClientConnect that is handled in a state that a run reaches, and answered with a failure,
and the run up to some step behind the one that takes up the answer. The other steps behind
the request may be any that leave the standing of the connection as it is. -/
structure FailedConnect (ι : Type) [DecidableEq ι] (extra : Reply → ℕ) where
  before : List (Event ι)
  i : ι
  k : ℕ
  connect : ClientConnect
  db : DbAnswers
  node : Node
  w : Work
  back : Buffer
  io : ReadIo
  replies : List Reply
  res : ClientConnectRes
  after : List (Event ι)
  nodes_eq : (before.foldl (step extra) Server.new).nodes i = some node
  work_eq : node.work[k]? = some w
  back_eq : w.spVec.getLast? = some back
  datatype_eq : back.datatype = ChatType.clientconnect.code
  handle : dispatchGate node.io.isConnect back.datatype back.sessionId w.sessionid = .handle
  answered : clientConnect connect db node.io = some (io, replies)
  mem_replies : .clientConnectRes res ∈ replies
  failed : res.isSuccess = false
  steps : StepsMeet (step extra)
    (fun s e => TakesUp i res s e ∨ (step extra s e).standing i = s.standing i)
    (step extra (before.foldl (step extra) Server.new) (.work i k (.clientConnect connect db)))
    after
  written : ∃ es₁ e es₂, after = es₁ ++ e :: es₂ ∧ TakesUp i res
    (es₁.foldl (step extra) (step extra (before.foldl (step extra) Server.new)
      (.work i k (.clientConnect connect db)))) e

namespace FailedConnect

variable {extra : Reply → ℕ}

/-- The state in which the request is handled. -/
def start (f : FailedConnect ι extra) : Server ι := f.before.foldl (step extra) Server.new

/-- The state when it has been handled. -/
def handled (f : FailedConnect ι extra) : Server ι :=
  step extra f.start (.work f.i f.k (.clientConnect f.connect f.db))

/-- The state when the answer has been written. -/
def finish (f : FailedConnect ι extra) : Server ι := f.after.foldl (step extra) f.handled

/-- The connection was marked and routed already, if it has a uuid, and the fields that the
handler sets, if it gets so far, had the values that it sets. -/
def Harmless (f : FailedConnect ι extra) : Prop :=
  f.node.io.isConnect = true ∧
    (f.node.io.uuid = "" ∨ f.start.uuidnodeMap f.node.io.uuid = some f.i) ∧
    ∀ stored, f.db.assigned f.connect = some stored →
      f.node.io.userid = f.connect.userid ∧ f.node.io.uuid = f.connect.uuid ∧
        f.node.io.sessionid = resumedSessionid stored ∧
        f.node.io.clientVersion = f.connect.clientversion ∧
        f.node.io.appVersion = f.connect.appversion

/-- Where the connection stands in front of the ClientConnect. -/
theorem standing_start (f : FailedConnect ι extra) :
    f.start.standing f.i = some (f.node.io.standing f.start.uuidnodeMap) := by
  rw [Server.standing, start, f.nodes_eq]
  rfl

/-- Where the connection stands behind it. -/
theorem standing_handled (f : FailedConnect ι extra) :
    f.handled.standing f.i = some (f.io.standing f.start.uuidnodeMap) := by
  have hnodes : f.start.nodes f.i = some f.node := f.nodes_eq
  have hrun : dispatchType f.back.datatype (.clientConnect f.connect f.db) f.i f.node.io =
      some (f.io, f.replies.map (f.i, ·)) := by
    rw [dispatchType, if_pos f.datatype_eq, f.answered]
    rfl
  rw [handled, step, workTask, hnodes]
  simp only [f.work_eq, dispatch, f.back_eq, f.handle, hrun]
  simp only [Server.standing, mountBuffer2Node, Server.setNode, Function.update_self,
    Option.map_some]

/-- Behind the request, the answer is taken up once or more. -/
theorem standing_finish (f : FailedConnect ι extra) :
    f.finish.standing f.i = some ((f.io.standing f.start.uuidnodeMap).answered f.i) := by
  have hidem : ∀ t : Option (Standing ι), (t.map (Standing.answered f.i)).map
      (Standing.answered f.i) = t.map (Standing.answered f.i) := by
    intro t
    rw [Option.map_map]
    congr 1
    exact funext fun t => t.answered_answered f.i
  obtain ⟨es₁, e, es₂, hafter, htakes⟩ := f.written
  have hsteps := f.steps
  rw [hafter] at hsteps
  have hobserved := StepsMeet.observe_of_mem (A := TakesUp f.i f.res)
    (g := fun s => s.standing f.i) hidem (fun s e h => standing_write h) hsteps htakes
  rw [← hafter] at hobserved
  change f.finish.standing f.i = (f.handled.standing f.i).map (Standing.answered f.i) at hobserved
  rw [hobserved, f.standing_handled]
  rfl

omit [DecidableEq ι] in
/-- When the standing after an answer is the one before the request. -/
theorem standing_answered_iff (i : ι) (io io' : ReadIo) (m : String → Option ι) :
    (io'.standing m).answered i = io.standing m ↔
      (io'.userid = io.userid ∧ io'.uuid = io.uuid ∧ io'.sessionid = io.sessionid ∧
        io'.clientVersion = io.clientVersion ∧ io'.appVersion = io.appVersion) ∧
      io.isConnect = true ∧ (io.uuid = "" ∨ m io.uuid = some i) := by
  rw [Standing.ext_iff]
  change io'.userid = io.userid ∧ io'.uuid = io.uuid ∧ io'.sessionid = io.sessionid ∧
    io'.clientVersion = io.clientVersion ∧ io'.appVersion = io.appVersion ∧
    true = io.isConnect ∧ routed io'.uuid i m = m ↔ _
  rw [routed_eq_self_iff]
  constructor
  · rintro ⟨huserid, huuid, hsession, hclient, happ, hconnect, hroute⟩
    exact ⟨⟨huserid, huuid, hsession, hclient, happ⟩, hconnect.symm, huuid ▸ hroute⟩
  · rintro ⟨⟨huserid, huuid, hsession, hclient, happ⟩, hconnect, hroute⟩
    exact ⟨huserid, huuid, hsession, hclient, happ, hconnect.symm, huuid ▸ hroute⟩

/-- **The failed connects that leave the connection as it was**: it was marked and routed
before, and nothing new was set. -/
theorem failed_connect_iff (f : FailedConnect ι extra) :
    f.finish.standing f.i = f.start.standing f.i ↔ f.Harmless := by
  have hio := clientConnect_io f.answered
  rw [f.standing_finish, f.standing_start, Option.some.injEq, standing_answered_iff, Harmless,
    and_comm, and_assoc, hio]
  refine and_congr_right fun _ => and_congr_right fun _ => ?_
  cases f.db.assigned f.connect with
  | none =>
      refine iff_of_true ⟨rfl, rfl, rfl, rfl, rfl⟩ ?_
      rintro stored ⟨⟩
  | some stored =>
      constructor
      · rintro ⟨huserid, huuid, hsession, hclient, happ⟩ stored' hstored
        obtain rfl := Option.some.inj hstored
        exact ⟨huserid.symm, huuid.symm, hsession.symm, hclient.symm, happ.symm⟩
      · intro h
        obtain ⟨huserid, huuid, hsession, hclient, happ⟩ := h stored rfl
        exact ⟨huserid.symm, huuid.symm, hsession.symm, hclient.symm, happ.symm⟩

end FailedConnect

/-! ### A device that is not found -/

/-- A new connection asks to be connected for a device that the user does not have. -/
def deviceNotFound : FailedConnect Unit fun _ => 0 where
  before := [.accept () 100, .frame () (bareFrame 6 0) Uninit.zero]
  i := ()
  k := 0
  connect := ⟨"u", "d", "", "", "", false⟩
  db := ⟨.ok [], .error ⟨40030, ""⟩, .ok (), 0, none⟩
  node := ⟨ReadIo.new 100, true, [⟨[bareFrame 6 0], 0⟩], []⟩
  w := ⟨[bareFrame 6 0], 0⟩
  back := bareFrame 6 0
  io := ReadIo.new 100
  replies := [connectFailure ⟨11003, "device not find"⟩]
  res := ⟨false, 11003, "device not find", "", "", 0⟩
  after := [.write () .finished]
  nodes_eq := rfl
  work_eq := rfl
  back_eq := rfl
  datatype_eq := rfl
  handle := rfl
  answered := rfl
  mem_replies := List.mem_cons_self
  failed := rfl
  steps := ⟨Or.inl ⟨.finished, rfl, by decide, rfl⟩, trivial⟩
  written := ⟨[], .write () .finished, [], rfl, .finished, rfl, by decide, rfl⟩

/-- The connection is marked by the answer that refuses it. -/
theorem deviceNotFound_standing :
    deviceNotFound.finish.standing deviceNotFound.i ≠
      deviceNotFound.start.standing deviceNotFound.i := by
  intro h
  rw [deviceNotFound.standing_finish, deviceNotFound.standing_start, Option.some.injEq] at h
  have hmark : true = false := congrArg Standing.isConnect h
  cases hmark

end Yijian
