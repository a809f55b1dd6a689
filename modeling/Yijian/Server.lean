import Yijian.Lib.Routes
import Yijian.ReadCallback

/-!
# The Event Loop and its Workers

The server is an event loop and a pool of workers. The loop accepts connections, reads
complete messages and numbers them, hands them to the workers, writes the frames that the
workers have mounted, and drops the connections whose ping is overdue. A worker checks
the number of a message against the number it carries (`dispatch`) and runs the handler
of its type. `uuidnode_map_` routes the uuid of a device to its connection.

Every callback and every task of a worker is one step. Tasks of one connection are
dispatched in any order. What the database answers to a handler, what the write of a frame
comes to and how many connections are overdue is part of the event.

A connection is released by its last reference, which may be held by a task. The model
never releases one; its events may go on after it has been dropped.

`extra r` is the number of frames that the serialised reply `r` takes behind its first.

## What is left out

The workers of the server share their tables of handlers: `dispatch(type, header, length)` fills a
static map on its first call, under a `once_flag` that is not static, so every call fills it again,
with closures over its own arguments. Two workers that do so at a time race on the map; that is a
matter of memory and not of this model, in which a handler is found by its type and gets its own
message. Also left out are the signals, the setup of the sockets and of TLS, and the list of the
peer servers, which has a model of its own (`Yijian.PeerList`). Times are not told here: how many
connections at the front of the ping list are overdue is chosen by the event, and
`Yijian.IdleExpiry` says which they are.
-/

namespace Yijian

/-! ### Replies -/

/-- A type of message whose writing has no effect on its connection. -/
abbrev PlainType :=
  {type : ChatType // type ≠ .clientconnectres ∧ type ≠ .clientdisconnectres}

/-- `chat::ClientConnectRes`. -/
structure ClientConnectRes where
  isSuccess : Bool
  eNo : ℤ
  eMsg : String
  userid : String
  uuid : String
  sessionid : ℕ
deriving DecidableEq

/-- What a worker mounts. Of the messages that only pass through the write queue the
type is kept. -/
inductive Reply
  | error (errnum : ℤ) (errmsg : String)
  | clientConnectRes (res : ClientConnectRes)
  | clientDisConnectRes (uuid : String)
  | plain (type : PlainType)
deriving DecidableEq

/-- `p->datatype()` of each frame of a reply. -/
def Reply.datatype : Reply → UInt8
  | .error _ _ => ChatType.error.code
  | .clientConnectRes _ => ChatType.clientconnectres.code
  | .clientDisConnectRes _ => ChatType.clientdisconnectres.code
  | .plain type => type.1.code

/-- No other type has the code of a ClientConnectRes. -/
theorem ChatType.eq_clientconnectres {type : ChatType}
    (h : type.code = ChatType.clientconnectres.code) : type = .clientconnectres := by
  revert h
  cases type <;> decide

/-- Only the answers to a ClientConnect have the type that opens the gate. -/
theorem Reply.datatype_eq_clientconnectres {r : Reply} :
    r.datatype = ChatType.clientconnectres.code ↔ ∃ res, r = .clientConnectRes res := by
  constructor
  · intro h
    cases r with
    | error _ _ =>
        have htype : ChatType.error = .clientconnectres := ChatType.eq_clientconnectres h
        cases htype
    | clientConnectRes res => exact ⟨res, rfl⟩
    | clientDisConnectRes _ =>
        have htype : ChatType.clientdisconnectres = .clientconnectres :=
          ChatType.eq_clientconnectres h
        cases htype
    | plain type => exact absurd (ChatType.eq_clientconnectres h) type.2.1
  · rintro ⟨res, rfl⟩
    rfl

/-! ### The connect info of a device -/

/-- `chat::ConnectInfo`, the document of a device in the collection `connectInfo`; `users`
holds the last session number of each user. -/
structure ConnectInfo where
  uuid : String
  userid : String
  islogin : Bool
  isconnected : Bool
  isrecivenoti : Bool
  servername : String
  users : String → Option ℤ
  clientversion : String
  osversion : String
  appversion : String

/-- A message that nothing has been set in. -/
def ConnectInfo.empty : ConnectInfo where
  uuid := ""
  userid := ""
  islogin := false
  isconnected := false
  isrecivenoti := false
  servername := ""
  users := fun _ => none
  clientversion := ""
  osversion := ""
  appversion := ""

/-! ### The handlers that touch the connection -/

/-- `chat::ClientConnect`. -/
structure ClientConnect where
  userid : String
  uuid : String
  clientversion : String
  appversion : String
  osversion : String
  isrecivenoti : Bool

/-- `chat::ClientDisConnect`. -/
structure ClientDisConnect where
  userid : String
  uuid : String

/-- What the database answers to the two handlers: the devices of the user, `connectInfo_`
after `findUUID`, the end of `updateUUID`, and for a connect the number of unread nodes
with the error that ended their query. -/
structure DbAnswers where
  queryUser : Except SystemError (List String)
  findUUID : Except SystemError ConnectInfo
  updateUUID : Except SystemError Unit
  unreadNodes : ℕ × Option SystemError

/-- The counter that a connection resumes with: the stored number goes through `uint16_t`
and is incremented there. -/
def resumedSessionid (stored : ℤ) : ℕ := ((stored % 2 ^ 16).toNat + 1) % 2 ^ 16

/-- The answer to a ClientConnect that threw, with the text of the exception as `SystemError.what`
has it. -/
def connectFailure (e : SystemError) : Reply :=
  .clientConnectRes ⟨false, e.code, e.what, "", "", 0⟩

/-- `connectInfo_` when a ClientConnect stores it. -/
def ConnectInfo.connect (info : ConnectInfo) (connect : ClientConnect) : ConnectInfo :=
  { info with
    isconnected := true
    isrecivenoti := connect.isrecivenoti
    clientversion := connect.clientversion
    appversion := connect.appversion
    osversion := connect.osversion }

/-- The current node when a ClientConnect has set it. -/
def ReadIo.connect (io : ReadIo) (connect : ClientConnect) (stored : ℤ) : ReadIo :=
  { io with
    userid := connect.userid
    uuid := connect.uuid
    sessionid := resumedSessionid stored
    clientVersion := connect.clientversion
    appVersion := connect.appversion }

/-- `dispatch(chat::ClientConnect&)`: the current node afterwards and the replies mounted
on it. `none`: the user has no session number, where `Map::at` ends the process. -/
def clientConnect (connect : ClientConnect) (db : DbAnswers) (io : ReadIo) :
    Option (ReadIo × List Reply) :=
  match db.queryUser with
  | .error e => some (io, [connectFailure e])
  | .ok devices =>
      if devices.contains connect.uuid then
        match db.findUUID with
        | .error e => some (io, [connectFailure e])
        | .ok info =>
            match info.users connect.userid with
            | none => none
            | some stored =>
                let io := io.connect connect stored
                match db.updateUUID with
                | .error e => some (io, [connectFailure e])
                | .ok () =>
                    let res := ⟨true, 0, "", info.userid, info.uuid, io.sessionid⟩
                    let noti := .plain ⟨.nodemessagenoti, by decide⟩
                    some (io, .clientConnectRes res ::
                      (List.replicate db.unreadNodes.1 noti ++
                        (db.unreadNodes.2.map connectFailure).toList))
      else some (io, [connectFailure ⟨11003, "device not find"⟩])

/-- What a ClientConnect can do to the current node: nothing, or set it with a stored
session number. -/
theorem clientConnect_cases {connect : ClientConnect} {db : DbAnswers} {io io' : ReadIo}
    {replies : List Reply} (h : clientConnect connect db io = some (io', replies)) :
    io' = io ∨ ∃ info stored, db.findUUID = .ok info ∧
      info.users connect.userid = some stored ∧ io' = io.connect connect stored := by
  unfold clientConnect at h
  split at h
  · simp_all
  · split at h
    · split at h
      · simp_all
      · rename_i info hfind
        split at h
        · cases h
        · rename_i stored husers
          right
          refine ⟨info, stored, hfind, husers, ?_⟩
          split at h <;> simp_all
    · simp_all

/-- A ClientConnect that is answered with a success has set the current node, and announces
the counter it has set. -/
theorem clientConnect_success {connect : ClientConnect} {db : DbAnswers} {io io' : ReadIo}
    {res : ClientConnectRes} {replies : List Reply}
    (h : clientConnect connect db io = some (io', .clientConnectRes res :: replies))
    (hsucc : res.isSuccess = true) :
    ∃ info stored, db.findUUID = .ok info ∧ info.users connect.userid = some stored ∧
      io' = io.connect connect stored ∧ res.sessionid = resumedSessionid stored := by
  have hfail : ∀ {e : SystemError} {io₁ : ReadIo}, some (io₁, [connectFailure e]) ≠
      some (io', Reply.clientConnectRes res :: replies) := by
    intro e io₁ heq
    simp only [connectFailure, Option.some.injEq, Prod.mk.injEq, List.cons.injEq,
      Reply.clientConnectRes.injEq] at heq
    rw [← heq.2.1] at hsucc
    cases hsucc
  unfold clientConnect at h
  split at h
  · exact absurd h hfail
  · split at h
    · split at h
      · exact absurd h hfail
      · rename_i info hfind
        split at h
        · cases h
        · rename_i stored husers
          refine ⟨info, stored, hfind, husers, ?_⟩
          split at h
          · exact absurd h hfail
          · simp only [Option.some.injEq, Prod.mk.injEq, List.cons.injEq,
              Reply.clientConnectRes.injEq] at h
            exact ⟨h.1.symm, by rw [← h.2.1, ReadIo.connect]⟩
    · exact absurd h hfail

/-- `errorBuffer` of what was thrown, with the text as `SystemError.what` has it. -/
def errorBuffer (e : SystemError) : Reply := .error e.code e.what

/-- `dispatch(chat::ClientDisConnect&)`; the current node stays as it is. -/
def clientDisConnect (disconnect : ClientDisConnect) (db : DbAnswers) : List Reply :=
  match db.queryUser with
  | .error e => [errorBuffer e]
  | .ok devices =>
      if devices.contains disconnect.uuid then
        match db.findUUID with
        | .error e => [errorBuffer e]
        | .ok info =>
            match db.updateUUID with
            | .error e => [errorBuffer e]
            | .ok () => [.clientDisConnectRes info.uuid]
      else [errorBuffer ⟨11004, "device not find"⟩]

/-! ### The gate -/

/-- What `dispatch(node, spvec, session_id)` decides on a message. -/
inductive Verdict
  | handle
  | reject (errnum : ℤ) (errmsg : String)
deriving DecidableEq

/-- The checks of `dispatch(node, spvec, session_id)`: `sessionid` comes from the event
loop, `dataSessionid` from the message. -/
def dispatchGate (isConnect : Bool) (datatype : UInt8) (dataSessionid sessionid : ℕ) :
    Verdict :=
  if sessionid = dataSessionid then
    if minSessionID ≤ sessionid then
      if isConnect && missingCheck datatype then .handle
      else .reject 11011 "need connect first or msg type can not pair the session id"
    else
      if !missingCheck datatype then .handle
      else .reject 11013 "session need < MinSessionIDmsg type can not pair the session id"
  else .reject 11010 ("session id error, right id is " ++ toString sessionid ++ " .")

/-- A numbered message is handled only on a connection that is marked as connected, with
the number that the event loop gave it. -/
theorem dispatchGate_handle {isConnect : Bool} {datatype : UInt8}
    {dataSessionid sessionid : ℕ} (hcheck : missingCheck datatype = true) :
    dispatchGate isConnect datatype dataSessionid sessionid = .handle ↔
      isConnect = true ∧ sessionid = dataSessionid ∧ minSessionID ≤ sessionid := by
  rw [dispatchGate, hcheck]
  by_cases hnum : sessionid = dataSessionid
  · subst hnum
    rw [if_pos rfl]
    by_cases hmin : minSessionID ≤ sessionid
    · rw [if_pos hmin]
      cases isConnect <;> simp_all
    · rw [if_neg hmin]
      simp_all
  · rw [if_neg hnum]
    simp [hnum]

/-! ### The state of the server -/

variable {ι : Type}

/-- A task of a worker: the frames of a message and the number of the event loop. -/
structure Work where
  spVec : List Buffer
  sessionid : ℕ

/-- A connection: its `Read_IO`, whether its read watcher is active, the tasks not yet
dispatched and the write queue `buffers_p`. -/
structure Node where
  io : ReadIo
  watching : Bool
  work : List Work
  buffersP : List Reply

/-- What the workers have done. -/
inductive LogEntry (ι : Type)
  | handled (i : ι) (datatype : UInt8)
  | mounted (i : ι) (r : Reply)

/-- The state of the server. `log` grows at its end. -/
structure Server (ι : Type) where
  nodes : ι → Option Node
  pinglist : List ι
  uuidnodeMap : String → Option ι
  log : List (LogEntry ι)

def Server.new : Server ι where
  nodes := fun _ => none
  pinglist := []
  uuidnodeMap := fun _ => none
  log := []

/-- What a worker finds out in handling a message. A handler that neither connects nor
disconnects leaves the connections alone and mounts messages anywhere. -/
inductive Handling (ι : Type)
  | clientConnect (connect : ClientConnect) (db : DbAnswers)
  | clientDisConnect (disconnect : ClientDisConnect) (db : DbAnswers)
  | plain (mounts : List (ι × PlainType))

/-- What comes of the write of a frame. -/
inductive WriteResult
  | finished
  | unfinished
  | failed
deriving DecidableEq

/-- A step of the server. -/
inductive Event (ι : Type)
  /-- `socket_accept_callback`; `sessionid` is what the new `Read_IO` finds. -/
  | accept (i : ι) (sessionid : UInt16)
  /-- `connection_read_callback` where `socket_read` has completed the frame `back`. -/
  | frame (i : ι) (back : Buffer) (u : Uninit)
  /-- `connection_read_callback` where `socket_read` threw one of the six codes. -/
  | readClosed (i : ι)
  /-- A worker dispatches the task `k` of the connection. -/
  | work (i : ι) (k : ℕ) (h : Handling ι)
  /-- `connection_write_callback`. -/
  | write (i : ι) (r : WriteResult)
  /-- `pingtime_callback` that finds the first `n` connections of the list overdue. -/
  | pingtime (n : ℕ)

section Step

variable [DecidableEq ι]

def Server.setNode (s : Server ι) (i : ι) (node : Node) : Server ι :=
  { s with nodes := Function.update s.nodes i (some node) }

@[simp] theorem Server.setNode_self (s : Server ι) (i : ι) (node : Node) :
    (s.setNode i node).nodes i = some node := by
  simp [Server.setNode]

/-- The other connections keep their nodes. -/
theorem Server.setNode_of_ne (s : Server ι) {i j : ι} (hij : i ≠ j) (node : Node) :
    (s.setNode j node).nodes i = s.nodes i := by
  simp [Server.setNode, hij]

/-! ### Reading -/

/-- `ping_erase`. -/
def pingErase (i : ι) (pinglist : List ι) : List ι := pinglist.erase i

/-- `ping_append`. -/
def pingAppend (i : ι) (pinglist : List ι) : List ι := pinglist ++ [i]

/-- `ping_move2back`. -/
def pingMove2back (i : ι) (pinglist : List ι) : List ι :=
  if i ∈ pinglist then pingAppend i (pingErase i pinglist) else pinglist

/-- `uuidnode_put`. -/
def uuidnodePut (uuid : String) (i : ι) (m : String → Option ι) : String → Option ι :=
  Routes.put uuid i m

/-- `uuidnode_delete`. -/
def uuidnodeDelete (uuid : String) (m : String → Option ι) : String → Option ι :=
  Routes.delete uuid m

/-- `socket_accept_callback`. -/
def socketAcceptCallback (s : Server ι) (i : ι) (sessionid : UInt16) : Server ι :=
  match s.nodes i with
  | some _ => s
  | none =>
      { s.setNode i ⟨ReadIo.new sessionid.toNat, true, [], []⟩ with
        pinglist := pingAppend i s.pinglist }

/-- The task that a read callback hands to the workers. -/
def ReadOutcome.work : ReadOutcome → List Work
  | .sentWork spVec sessionid => [⟨spVec, sessionid⟩]
  | _ => []

/-- The ping list after a read callback; a peer server is taken off it. -/
def ReadOutcome.pinglist (i : ι) (pinglist : List ι) : ReadOutcome → List ι
  | .serverConnect => pingErase i pinglist
  | _ => pinglist

/-- What the read callback does with its `Read_IO` once the frame `back` is complete. -/
def readComplete (u : Uninit) (io : ReadIo) (back : Buffer) : ReadOutcome × ReadIo :=
  frameRead u { io with bufferSpV := io.bufferSpV.dropLast ++ [back] } back

/-- A complete frame goes to the buffers and moves the counter. -/
theorem readComplete_io (u : Uninit) (io : ReadIo) (back : Buffer) :
    ∃ v, (readComplete u io back).2 =
      { io with bufferSpV := v, sessionid := counterAfter io.sessionid back } :=
  frameRead_io u { io with bufferSpV := io.bufferSpV.dropLast ++ [back] } back

/-- The last frame of a numbered message becomes a task with the expected number. -/
theorem readComplete_checked (u : Uninit) (io : ReadIo) {back : Buffer}
    (hlast : back.isLastBuffer = true) (hcheck : missingCheck back.datatype = true) :
    readComplete u io back =
      (.sentWork (io.bufferSpV.dropLast ++ [back]) (expectedSessionid io.sessionid),
        { io with bufferSpV := [], sessionid := counterAfter io.sessionid back }) :=
  frameRead_checked u { io with bufferSpV := io.bufferSpV.dropLast ++ [back] } hlast hcheck

/-- The read callback of the connection `i` with a complete frame. -/
def readFrame (s : Server ι) (i : ι) (back : Buffer) (u : Uninit) : Server ι :=
  match s.nodes i with
  | none => s
  | some node =>
      if node.watching then
        let out := readComplete u node.io back
        { s.setNode i { node with io := out.2, work := node.work ++ out.1.work } with
          pinglist := out.1.pinglist i s.pinglist }
      else s

/-- What a complete frame can do: nothing, where the connection is not read; else it moves
the vector and the counter of the connection and adds to its tasks. -/
theorem readFrame_cases (s : Server ι) (i : ι) (back : Buffer) (u : Uninit) :
    ((∀ node, s.nodes i = some node → node.watching = false) ∧ readFrame s i back u = s) ∨
      ∃ node v tasks pinglist, s.nodes i = some node ∧ node.watching = true ∧
        readFrame s i back u =
          { s.setNode i { node with
              io := { node.io with
                bufferSpV := v, sessionid := counterAfter node.io.sessionid back }
              work := node.work ++ tasks } with
            pinglist := pinglist } := by
  rw [readFrame]
  cases hnode : s.nodes i with
  | none => exact .inl ⟨fun _ h => (nomatch h), rfl⟩
  | some node =>
      cases hwatch : node.watching with
      | false =>
          refine .inl ⟨fun node' h => ?_, by simp [hwatch]⟩
          obtain rfl : node = node' := Option.some.inj h
          exact hwatch
      | true =>
          right
          obtain ⟨v, hio⟩ := readComplete_io u node.io back
          refine ⟨node, v, (readComplete u node.io back).1.work,
            (readComplete u node.io back).1.pinglist i s.pinglist, rfl, hwatch, ?_⟩
          simp only [hwatch, if_true, hio]

/-- The error branch of the read callback. -/
def readClosed (s : Server ι) (i : ι) : Server ι :=
  match s.nodes i with
  | none => s
  | some node =>
      if node.watching then
        { s.setNode i { node with watching := false } with
          pinglist := pingErase i s.pinglist
          uuidnodeMap := uuidnodeDelete node.io.uuid s.uuidnodeMap }
      else s

/-! ### Working -/

/-- The frames of the replies that are mounted on the connection `j`. -/
def framesFor (extra : Reply → ℕ) (mounts : List (ι × Reply)) (j : ι) : List Reply :=
  mounts.flatMap fun m => if m.1 = j then List.replicate (extra m.2 + 1) m.2 else []

/-- `mountBuffer2Node` of all the replies of a handler. -/
def mountBuffer2Node (extra : Reply → ℕ) (s : Server ι) (mounts : List (ι × Reply)) :
    Server ι :=
  { s with
    nodes := fun j => (s.nodes j).map fun node =>
      { node with buffersP := node.buffersP ++ framesFor extra mounts j }
    log := s.log ++ mounts.map fun m => .mounted m.1 m.2 }

/-- `dispatch(type, header, length)`: the handler of the type, with the current node
afterwards and what it mounts. `none`: not the handler of the type, or the end of the
process. -/
def dispatchType (datatype : UInt8) (h : Handling ι) (i : ι) (io : ReadIo) :
    Option (ReadIo × List (ι × Reply)) :=
  match h with
  | .clientConnect connect db =>
      if datatype = ChatType.clientconnect.code then
        (clientConnect connect db io).map fun (io, replies) => (io, replies.map (i, ·))
      else none
  | .clientDisConnect disconnect db =>
      if datatype = ChatType.clientdisconnect.code then
        some (io, (clientDisConnect disconnect db).map (i, ·))
      else none
  | .plain mounts =>
      if datatype = ChatType.clientconnect.code ∨ datatype = ChatType.clientdisconnect.code
      then none
      else some (io, mounts.map fun m => (m.1, .plain m.2))

omit [DecidableEq ι] in
/-- What a handler can do to its connection: nothing, or connect it. -/
theorem dispatchType_cases {datatype : UInt8} {h : Handling ι} {i : ι} {io io' : ReadIo}
    {mounts : List (ι × Reply)} (hrun : dispatchType datatype h i io = some (io', mounts)) :
    io' = io ∨ ∃ connect db info stored, h = .clientConnect connect db ∧
      db.findUUID = .ok info ∧ info.users connect.userid = some stored ∧
      io' = io.connect connect stored := by
  cases h with
  | clientConnect connect db =>
      simp only [dispatchType] at hrun
      split at hrun
      · obtain ⟨⟨io₁, replies⟩, hconn, heq⟩ := Option.map_eq_some_iff.mp hrun
        obtain ⟨rfl, -⟩ := Prod.mk.inj heq
        rcases clientConnect_cases hconn with hsame | ⟨info, stored, hfind, husers, hset⟩
        · exact .inl hsame
        · exact .inr ⟨connect, db, info, stored, rfl, hfind, husers, hset⟩
      · cases hrun
  | clientDisConnect disconnect db =>
      simp only [dispatchType] at hrun
      split at hrun
      · obtain ⟨rfl, -⟩ := Prod.mk.inj (Option.some.inj hrun)
        exact .inl rfl
      · cases hrun
  | plain mounts' =>
      simp only [dispatchType] at hrun
      split at hrun
      · cases hrun
      · obtain ⟨rfl, -⟩ := Prod.mk.inj (Option.some.inj hrun)
        exact .inl rfl

/-- `dispatch(node, spvec, session_id)` of the task `w` of the connection `i`; `node` is
the connection without the task. -/
def dispatch (extra : Reply → ℕ) (s : Server ι) (i : ι) (node : Node) (w : Work)
    (h : Handling ι) : Server ι :=
  match w.spVec.getLast? with
  | none => s
  | some back =>
      match dispatchGate node.io.isConnect back.datatype back.sessionId w.sessionid with
      | .reject errnum errmsg =>
          mountBuffer2Node extra (s.setNode i node) [(i, .error errnum errmsg)]
      | .handle =>
          match dispatchType back.datatype h i node.io with
          | none => s
          | some (io, mounts) =>
              mountBuffer2Node extra
                { s.setNode i { node with io := io } with
                  log := s.log ++ [.handled i back.datatype] } mounts

/-- What `dispatch` will decide on a task. -/
def Server.verdict (s : Server ι) (i : ι) (k : ℕ) : Option Verdict := do
  let node ← s.nodes i
  let w ← node.work[k]?
  let back ← w.spVec.getLast?
  return dispatchGate node.io.isConnect back.datatype back.sessionId w.sessionid

/-- A worker takes up the task `k` of the connection `i`. -/
def workTask (extra : Reply → ℕ) (s : Server ι) (i : ι) (k : ℕ) (h : Handling ι) :
    Server ι :=
  match s.nodes i with
  | none => s
  | some node =>
      match node.work[k]? with
      | none => s
      | some w => dispatch extra s i { node with work := node.work.eraseIdx k } w h

/-- What a task can come to. -/
inductive TaskStep (extra : Reply → ℕ) (s : Server ι) (i : ι) (k : ℕ) (h : Handling ι) :
    Server ι → Prop
  /-- There is no such task, or the handler is not the one of its type. -/
  | idle : TaskStep extra s i k h s
  /-- The message is answered with an error. -/
  | rejected {node : Node} {w : Work} {back : Buffer} {errnum : ℤ} {errmsg : String}
      (hnode : s.nodes i = some node) (hw : node.work[k]? = some w)
      (hback : w.spVec.getLast? = some back)
      (hgate : dispatchGate node.io.isConnect back.datatype back.sessionId w.sessionid =
        .reject errnum errmsg) :
      TaskStep extra s i k h
        (mountBuffer2Node extra (s.setNode i { node with work := node.work.eraseIdx k })
          [(i, .error errnum errmsg)])
  /-- The message is handled. -/
  | handled {node : Node} {w : Work} {back : Buffer} {io : ReadIo} {mounts : List (ι × Reply)}
      (hnode : s.nodes i = some node) (hw : node.work[k]? = some w)
      (hback : w.spVec.getLast? = some back)
      (hgate : dispatchGate node.io.isConnect back.datatype back.sessionId w.sessionid =
        .handle)
      (hrun : dispatchType back.datatype h i node.io = some (io, mounts)) :
      TaskStep extra s i k h
        (mountBuffer2Node extra
          { s.setNode i { node with work := node.work.eraseIdx k, io := io } with
            log := s.log ++ [.handled i back.datatype] } mounts)

/-- **What a task does**: nothing, or it is rejected, or it is handled. -/
theorem taskStep (extra : Reply → ℕ) (s : Server ι) (i : ι) (k : ℕ) (h : Handling ι) :
    TaskStep extra s i k h (workTask extra s i k h) := by
  rw [workTask]
  cases hnode : s.nodes i with
  | none => exact .idle
  | some node =>
      simp only
      cases hw : node.work[k]? with
      | none => exact .idle
      | some w =>
          simp only [dispatch]
          cases hback : w.spVec.getLast? with
          | none => exact .idle
          | some back =>
              simp only
              cases hgate : dispatchGate node.io.isConnect back.datatype back.sessionId
                  w.sessionid with
              | reject errnum errmsg => exact .rejected hnode hw hback hgate
              | handle =>
                  simp only
                  cases hrun : dispatchType back.datatype h i node.io with
                  | none => exact .idle
                  | some out => exact .handled hnode hw hback hgate hrun

/-! ### Writing -/

/-- The routing side of `deleteReadio`. -/
def deleteRoute (uuid : String) (m : String → Option ι) : String → Option ι :=
  if uuid = "" then m else uuidnodeDelete uuid m

/-- What the write callback does to the routes before the frame is written. -/
def routeBeforeWrite (datatype : UInt8) (uuid : String) (i : ι) (m : String → Option ι) :
    String → Option ι :=
  if datatype = ChatType.clientconnectres.code then
    if uuid = "" then m else uuidnodePut uuid i m
  else if datatype = ChatType.clientdisconnectres.code then deleteRoute uuid m
  else m

/-- What the write callback does to the routes. -/
def routeWrite (datatype : UInt8) (uuid : String) (i : ι) (r : WriteResult)
    (m : String → Option ι) : String → Option ι :=
  if r = .failed then deleteRoute uuid (routeBeforeWrite datatype uuid i m)
  else routeBeforeWrite datatype uuid i m

/-- What the write callback does to the ping list; `deleteReadio` takes the connection
off it. -/
def pingWrite (datatype : UInt8) (uuid : String) (i : ι) (r : WriteResult)
    (pinglist : List ι) : List ι :=
  if uuid ≠ "" ∧ (datatype = ChatType.clientdisconnectres.code ∨ r = .failed) then
    pingErase i (pingMove2back i pinglist)
  else pingMove2back i pinglist

/-- The connection after the write callback has taken up the frame `p` before `rest`: the
answer to a ClientConnect marks it as connected, a complete write pops the frame. -/
def nodeWrite (p : Reply) (rest : List Reply) (r : WriteResult) (node : Node) : Node :=
  { node with
    io := { node.io with
      isConnect := node.io.isConnect || p.datatype == ChatType.clientconnectres.code }
    buffersP := if r = .finished then rest else p :: rest }

/-- `connection_write_callback`. -/
def connectionWriteCallback (s : Server ι) (i : ι) (r : WriteResult) : Server ι :=
  match s.nodes i with
  | none => s
  | some node =>
      match node.buffersP with
      | [] => s
      | p :: rest =>
          { s.setNode i (nodeWrite p rest r node) with
            pinglist := pingWrite p.datatype node.io.uuid i r s.pinglist
            uuidnodeMap := routeWrite p.datatype node.io.uuid i r s.uuidnodeMap }

/-! ### The ping timer -/

/-- The uuid of a connection. -/
def Server.uuidOf (s : Server ι) (i : ι) : String :=
  ((s.nodes i).map (fun node => node.io.uuid)).getD ""

/-- `pingtime_callback` when the first `n` connections are overdue. -/
def pingtimeCallback (s : Server ι) (n : ℕ) : Server ι :=
  { s with
    pinglist := s.pinglist.drop n
    uuidnodeMap := Routes.deleteAll s.uuidOf (s.pinglist.take n) s.uuidnodeMap }

/-- One step of the server. -/
def step (extra : Reply → ℕ) (s : Server ι) : Event ι → Server ι
  | .accept i sessionid => socketAcceptCallback s i sessionid
  | .frame i back u => readFrame s i back u
  | .readClosed i => readClosed s i
  | .work i k h => workTask extra s i k h
  | .write i r => connectionWriteCallback s i r
  | .pingtime n => pingtimeCallback s n

end Step

/-! ### A message and a connect -/

/-- The frame of a message without data. -/
def bareFrame (datatype : UInt8) (sessionid : ℕ) : Buffer :=
  { Buffer.new Uninit.zero with
    isLastBuf := true, dataType := datatype, sessionId := sessionid }

/-- The user `u` connects the device `d`; the user has the devices and the session number
given. -/
def connectAs (devices : List String) (stored : ℤ) : Handling ι :=
  .clientConnect ⟨"u", "d", "", "", "", false⟩
    ⟨.ok devices, .ok { ConnectInfo.empty with users := fun _ => some stored }, .ok (), 0, none⟩

end Yijian
