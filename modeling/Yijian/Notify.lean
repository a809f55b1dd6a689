import Yijian.Devices
import Yijian.Lib.Runs

/-!
# Notifications to the Devices of a User

A handler notifies a user by name. `mountBuffer2Node(NodeUser)` takes the documents of the
devices that the user is the last to have logged in on, and mounts the message on the
connections that these devices are routed to. `System` puts the server, the two collections
and the `connectInfo_` of the worker threads together; all operations on the database
succeed. Beside them it keeps what the requests say about each device: who logged in on it
last, whether that user has logged out, whether it is connected (`Presence`).

## Convention

The presence is what the requests say, by history: it is changed where a handler has come to its
end, and has no look at the documents. Operations of the database do not fail here, which leaves
the interleaving: Logins, Logouts, connects and disconnects of any users on any devices, on
any worker thread, whose `connectInfo_` may hold whatever an earlier request has left. The
notifications looked at are those that a handler sends by the name of a user. Whether a frame that
is mounted is also written is a matter of the write queues, and how many frames it has of the
payload; neither is told here.

## Main results

* `SystemInv.systemStep`: the documents record the presence of the devices.
* `mem_mountTargets`, `nodup_mountTargets`: a message is mounted where the devices lead to
  on which the user is present.
* `notifications_exact`: the runs whose notifications reach exactly the right connections.
* `not_notifies_login`: a Login notifies the user of the connection, not the one who has
  logged in.
-/

namespace Yijian

open Documents Runs

/-! ### Addressing -/

/-- `traverseDevices`: where a message is mounted for one device. -/
def traverseDevices {ι : Type} (uuid : String) (m : String → Option ι) (info : ConnectInfo) :
    Option ι :=
  if info.isconnected then if uuid = info.uuid then none else m info.uuid else none

/-- `mountBuffer2Node(NodeUser)` of a request on the device `uuid`. -/
def mountTargets {ι : Type} (db : DeviceDb) (m : String → Option ι) (uuid touserid : String) :
    List ι :=
  (db.devices touserid).filterMap (traverseDevices uuid m)

/-! ### Requests -/

/-- A request, as it is parsed from the data. For the last three, what the database makes of
it is part of the request. -/
inductive ChatRequest
  | login (m : Login)
  | logout (m : Logout)
  | clientConnect (m : ClientConnect) (unread : ℕ)
  | clientDisConnect (m : ClientDisConnect)
  | addFriend (inviterID inviteeID : String) (db : Except SystemError Unit)
  | addFriendAuthorize (inviterID inviteeID : String) (isAgree : Bool)
      (db : Except SystemError Unit)
  | nodeMessage (touserid_outer : String) (insert update : Except SystemError Unit)

/-- The type of a request. -/
def ChatRequest.type : ChatRequest → ChatType
  | .login _ => .login
  | .logout _ => .logout
  | .clientConnect _ _ => .clientconnect
  | .clientDisConnect _ => .clientdisconnect
  | .addFriend _ _ _ => .addfriend
  | .addFriendAuthorize _ _ _ _ => .addfriendauthorize
  | .nodeMessage _ _ _ => .nodemessage

/-- A notification: the user it is for, the user it is addressed to, and its type. -/
structure Noti where
  user : String
  touserid : String
  type : PlainType

/-- A `mountBuffer2Node`, to the connection of the request or to a user. -/
inductive Mount
  | self (type : PlainType)
  | user (noti : Noti)

/-- The notification that is mounted. -/
def Mount.noti : Mount → Option Noti
  | .self _ => none
  | .user noti => some noti

/-- What a request has done to a device. -/
inductive Done
  | login (userid uuid : String)
  | logout (uuid : String)
  | connect (uuid : String)
  | disconnect (uuid : String)

/-- What a handler does. The answers to ClientConnect and ClientDisConnect are not among its
mounts: they go with the connection. -/
structure Effect where
  state : DbState
  done : Option Done
  mounts : List Mount

/-- The notifications of a handler. -/
def Effect.notis (effect : Effect) : List Noti := effect.mounts.filterMap Mount.noti

/-- `mountBuffer2Node` of an error. -/
def mountError : Mount := .self ⟨.error, by decide⟩

/-- `dispatch(chat::Login&)`: the answer goes to the current node, the notification to the
user of the current node. -/
def loginEffect (m : Login) (io : ReadIo) (s : DbState) : Effect :=
  match dispatchLogin m (fun _ => none) s with
  | (.error _, s) => ⟨s, none, [.self ⟨.loginres, by decide⟩]⟩
  | (.ok userid, s) =>
      ⟨s, some (.login userid m.uuid),
        [.self ⟨.loginres, by decide⟩, .user ⟨userid, io.userid, ⟨.loginnoti, by decide⟩⟩]⟩

/-- `dispatch(chat::Logout&)`. -/
def logoutEffect (canon : String → Except SystemError String) (m : Logout) (sessionid : ℕ)
    (s : DbState) : Effect :=
  match dispatchLogout canon m sessionid (fun _ => none) s with
  | (.error _, s) => ⟨s, none, [mountError]⟩
  | (.ok uuid, s) => ⟨s, some (.logout uuid), [.self ⟨.logoutres, by decide⟩]⟩

/-- `dispatch(chat::ClientConnect&)`, as far as the database goes. -/
def connectEffect (m : ClientConnect) (answers : DbAnswers) (s : DbState) : Effect :=
  match storeConnect m answers s with
  | (stored, s) => ⟨s, if stored then some (.connect m.uuid) else none, []⟩

/-- `dispatch(chat::ClientDisConnect&)`, as far as the database goes. -/
def disconnectEffect (m : ClientDisConnect) (sessionid : ℕ) (answers : DbAnswers)
    (s : DbState) : Effect :=
  match storeDisConnect m sessionid answers s with
  | (stored, s) => ⟨s, if stored then some (.disconnect m.uuid) else none, []⟩

/-- What `dispatch(chat::AddFriend&)` mounts. -/
def addFriendMounts (inviterID inviteeID : String) (db : Except SystemError Unit)
    (io : ReadIo) : List Mount :=
  if inviterID = "" ∨ inviteeID = "" ∨ inviterID ≠ io.userid then [mountError]
  else
    match db with
    | .error _ => [mountError]
    | .ok () =>
        [.self ⟨.addfriendres, by decide⟩,
          .user ⟨inviteeID, inviteeID, ⟨.addfriendnoti, by decide⟩⟩,
          .user ⟨inviterID, inviterID, ⟨.addfriendnoti, by decide⟩⟩]

/-- What `dispatch(chat::AddFriendAuthorize&)` mounts: a refusal is not answered. -/
def authorizeMounts (inviterID inviteeID : String) (isAgree : Bool)
    (db : Except SystemError Unit) (io : ReadIo) : List Mount :=
  if inviterID = "" ∨ inviteeID = "" ∨ inviteeID ≠ io.userid then [mountError]
  else if isAgree then
    match db with
    | .error _ => [mountError]
    | .ok () =>
        [.self ⟨.addfriendauthorizeres, by decide⟩,
          .user ⟨inviterID, inviterID, ⟨.addfriendauthorizenoti, by decide⟩⟩,
          .user ⟨inviteeID, inviteeID, ⟨.addfriendauthorizenoti, by decide⟩⟩]
  else []

/-- A notification does not open or close the connection. -/
theorem nodemessagenoti_plain : ChatType.nodemessagenoti ≠ .clientconnectres ∧
    ChatType.nodemessagenoti ≠ .clientdisconnectres := by decide

/-- What `dispatch(chat::NodeMessage&)` to a user mounts, with the ends of `insertMessage`
and of `updateUnreadIncrement`. A message without `touserid_outer` notifies a group, which
is not modelled here. -/
def nodeMessageMounts (touserid_outer : String) (insert update : Except SystemError Unit)
    (io : ReadIo) : List Mount :=
  match insert with
  | .error _ => [mountError]
  | .ok () =>
      if touserid_outer = "" then [.self ⟨.nodemessageres, by decide⟩]
      else
        let friend : Mount :=
          match update with
          | .error _ => mountError
          | .ok () =>
              .user ⟨touserid_outer, touserid_outer, ⟨.nodemessagenoti, nodemessagenoti_plain⟩⟩
        [.self ⟨.nodemessageres, by decide⟩,
          .user ⟨io.userid, io.userid, ⟨.nodemessagenoti, nodemessagenoti_plain⟩⟩, friend]

/-- The answers of the database that the handlers of the connection see. -/
def ChatRequest.answers (canon : String → Except SystemError String) (s : DbState) :
    ChatRequest → DbAnswers
  | .clientConnect m unread => dbAnswers canon m.userid m.uuid unread (fun _ => none) s
  | .clientDisConnect m => dbAnswers canon m.userid m.uuid 0 (fun _ => none) s
  | _ => dbAnswers canon "" "" 0 (fun _ => none) s

/-- What the handler of a request does, on a connection that has `io`. -/
def ChatRequest.effect (canon : String → Except SystemError String) (io : ReadIo)
    (sessionid : ℕ) (s : DbState) (r : ChatRequest) : Effect :=
  match r with
  | .login m => loginEffect m io s
  | .logout m => logoutEffect canon m sessionid s
  | .clientConnect m _ => connectEffect m (r.answers canon s) s
  | .clientDisConnect m => disconnectEffect m sessionid (r.answers canon s) s
  | .addFriend inviterID inviteeID db =>
      ⟨s, none, addFriendMounts inviterID inviteeID db io⟩
  | .addFriendAuthorize inviterID inviteeID isAgree db =>
      ⟨s, none, authorizeMounts inviterID inviteeID isAgree db io⟩
  | .nodeMessage touserid_outer insert update =>
      ⟨s, none, nodeMessageMounts touserid_outer insert update io⟩

/-! ### The system -/

/-- What a request says about the devices. -/
def presenceStep (p : String → Option Presence) : Done → String → Option Presence
  | .login userid uuid => Function.update p uuid (some ⟨userid, true, false⟩)
  | .logout uuid => Function.update p uuid
      ((p uuid).map fun q => { q with isLogin := false, isConnected := false })
  | .connect uuid => Function.update p uuid
      ((p uuid).map fun q => { q with isConnected := true })
  | .disconnect uuid => Function.update p uuid
      ((p uuid).map fun q => { q with isConnected := false })

variable {ι θ : Type}

/-- The server, the collections, `connectInfo_` of each worker thread, and the presence of
the devices. -/
structure System (ι θ : Type) where
  server : Server ι
  db : DeviceDb
  current : θ → ConnectInfo
  presence : String → Option Presence

/-- Users of any kind before the first login. -/
def System.new (users : List Account) : System ι θ where
  server := Server.new
  db := ⟨users.map fun user => { user with devices := [] }, []⟩
  current := fun _ => ConnectInfo.empty
  presence := fun _ => none

/-- A step of the system: one of the event loop, or a request `r` that the thread `t` finds
in the task `k` of the connection `i`. -/
inductive SystemEvent (ι θ : Type)
  | loop (e : Event ι)
  | request (i : ι) (k : ℕ) (t : θ) (r : ChatRequest)

/-- A task that is let through to the handler of the type of `r`: its connection and its
session number. -/
def Server.handles (s : Server ι) (i : ι) (k : ℕ) (r : ChatRequest) : Option (ReadIo × ℕ) := do
  let node ← s.nodes i
  let w ← node.work[k]?
  let back ← w.spVec.getLast?
  if dispatchGate node.io.isConnect back.datatype back.sessionId w.sessionid = .handle ∧
      back.datatype = r.type.code then
    some (node.io, w.sessionid)
  else none

/-- The database when the handler starts: `dispatch` stores the number of a checked
message. -/
def System.dbState (s : System ι θ) (t : θ) (io : ReadIo) (sessionid : ℕ) (r : ChatRequest) :
    DbState where
  current := s.current t
  db := if missingCheck r.type.code then s.db.updateSessionID io.uuid io.userid sessionid
    else s.db

/-- The effect of a request, where it is handled. -/
def System.effect (canon : String → Except SystemError String) (s : System ι θ) (i : ι)
    (k : ℕ) (t : θ) (r : ChatRequest) : Option (ReadIo × Effect) :=
  (s.server.handles i k r).map fun (io, sessionid) =>
    (io, r.effect canon io sessionid (s.dbState t io sessionid r))

/-- The notifications of a step with the device of the request and the connections that each
of them is mounted on. -/
def System.notifications (canon : String → Except SystemError String) (s : System ι θ) :
    SystemEvent ι θ → List (String × Noti × List ι)
  | .loop _ => []
  | .request i k t r =>
      match s.effect canon i k t r with
      | none => []
      | some (io, effect) => effect.notis.map fun noti =>
          (io.uuid, noti, mountTargets effect.state.db s.server.uuidnodeMap io.uuid noti.touserid)

/-- The messages that a `mountBuffer2Node` of the connection `i` queues. -/
def Mount.queue (i : ι) (uuid : String) (db : DeviceDb) (m : String → Option ι) :
    Mount → List (ι × PlainType)
  | .self type => [(i, type)]
  | .user noti => (mountTargets db m uuid noti.touserid).map (·, noti.type)

/-- What the worker finds out in handling a request. -/
def ChatRequest.handling (r : ChatRequest) (answers : DbAnswers) (mounts : List (ι × PlainType)) :
    Handling ι :=
  match r with
  | .clientConnect m _ => .clientConnect m answers
  | .clientDisConnect m => .clientDisConnect m answers
  | _ => .plain mounts

variable [DecidableEq ι] [DecidableEq θ]

/-- A worker thread handles a request. -/
def System.request (canon : String → Except SystemError String) (extra : Reply → ℕ)
    (s : System ι θ) (i : ι) (k : ℕ) (t : θ) (r : ChatRequest) : System ι θ :=
  match s.server.handles i k r with
  | none =>
      match s.server.verdict i k with
      | some (.reject _ _) => { s with server := workTask extra s.server i k (.plain []) }
      | _ => s
  | some (io, sessionid) =>
      let start := s.dbState t io sessionid r
      let effect := r.effect canon io sessionid start
      let mounts := effect.mounts.flatMap
        (Mount.queue i io.uuid effect.state.db s.server.uuidnodeMap)
      { server := workTask extra s.server i k (r.handling (r.answers canon start) mounts)
        db := effect.state.db
        current := Function.update s.current t effect.state.current
        presence := (effect.done.map (presenceStep s.presence)).getD s.presence }

/-- One step of the system; tasks are dispatched by requests only. -/
def systemStep (canon : String → Except SystemError String) (extra : Reply → ℕ)
    (s : System ι θ) : SystemEvent ι θ → System ι θ
  | .loop (.work _ _ _) => s
  | .loop e => { s with server := step extra s.server e }
  | .request i k t r => s.request canon extra i k t r

/-! ### Where a message is mounted -/

omit [DecidableEq ι] [DecidableEq θ] in
/-- The message goes to the connections that the documents lead to in the routes. -/
theorem mountTargets_eq_join (db : DeviceDb) (m : String → Option ι) (uuid touserid : String) :
    mountTargets db m uuid touserid =
      join ConnectInfo.uuid
        (fun doc => (doc.userid == touserid && doc.servername == serverName && doc.islogin) &&
          doc.isconnected)
        (fun w => if uuid = w then none else m w) db.connectInfo := by
  rw [mountTargets, DeviceDb.devices, join, List.filterMap_filter, List.filterMap_filter]
  congr 1
  funext doc
  rw [traverseDevices]
  cases doc.isconnected <;> simp

/-- A document names the user, as logged in and connected. -/
theorem DocsInv.presence_iff {db : DeviceDb} (h : DocsInv db) {touserid w : String} :
    (∃ doc, lookup ConnectInfo.uuid w db.connectInfo = some doc ∧
        ((doc.userid == touserid && doc.servername == serverName && doc.islogin) &&
          doc.isconnected) = true) ↔
      db.presence w = some ⟨touserid, true, true⟩ := by
  rw [DeviceDb.presence, DeviceDb.device]
  constructor
  · rintro ⟨doc, hdoc, hp⟩
    simp only [Bool.and_eq_true, beq_iff_eq] at hp
    obtain ⟨⟨⟨huser, -⟩, hlogin⟩, hconnected⟩ := hp
    rw [hdoc, Option.map_some, ConnectInfo.presence, huser, hlogin, hconnected]
  · intro hpresence
    obtain ⟨doc, hdoc, heq⟩ := Option.map_eq_some_iff.mp hpresence
    obtain ⟨huser, hlogin, hconnected⟩ := Presence.mk.inj heq
    have hserver : doc.servername = serverName := h.server doc (mem_of_lookup hdoc)
    exact ⟨doc, hdoc, by simp [huser, hlogin, hconnected, hserver]⟩

omit [DecidableEq ι] [DecidableEq θ] in
/-- The connections that a notification is mounted on. -/
theorem mem_mountTargets {db : DeviceDb} (h : DocsInv db) {m : String → Option ι}
    {uuid touserid : String} {j : ι} :
    j ∈ mountTargets db m uuid touserid ↔
      ∃ w, (w ≠ uuid ∧ m w = some j) ∧ db.presence w = some ⟨touserid, true, true⟩ := by
  rw [mountTargets_eq_join, mem_join h.nodup]
  refine exists_congr fun w => and_congr ?_ h.presence_iff
  by_cases hw : uuid = w
  · simp [hw]
  · simp [hw, Ne.symm hw]

omit [DecidableEq ι] [DecidableEq θ] in
/-- None of them gets it twice, unless two devices of the user share a connection. -/
theorem nodup_mountTargets {db : DeviceDb} (h : DocsInv db) {m : String → Option ι}
    {uuid touserid : String} :
    (mountTargets db m uuid touserid).Nodup ↔
      ∀ w w' j, (w ≠ uuid ∧ m w = some j) → (w' ≠ uuid ∧ m w' = some j) →
        db.presence w = some ⟨touserid, true, true⟩ →
        db.presence w' = some ⟨touserid, true, true⟩ → w = w' := by
  rw [mountTargets_eq_join, nodup_join h.nodup]
  refine forall_congr' fun w => forall_congr' fun w' => forall_congr' fun j => ?_
  rw [h.presence_iff, h.presence_iff]
  by_cases hw : uuid = w
  · simp [hw]
  · by_cases hw' : uuid = w'
    · simp [hw']
    · simp [hw, hw', Ne.symm hw, Ne.symm hw']

/-! ### The documents record the presence -/

/-- The documents are well formed and record the presence of the devices. -/
structure SystemInv (s : System ι θ) : Prop where
  db : DbInv s.db
  presence : s.presence = s.db.presence

/-- What an effect has done to the devices is what it says. -/
structure Effect.Records (s : DbState) (effect : Effect) : Prop where
  db : DbInv effect.state.db
  presence : effect.state.db.presence =
    (effect.done.map (presenceStep s.db.presence)).getD s.db.presence

/-- A Login records the presence it makes. -/
theorem loginEffect_records (m : Login) (io : ReadIo) {s : DbState} (h : DbInv s.db) :
    (loginEffect m io s).Records s := by
  rw [loginEffect]
  generalize hrun : dispatchLogin m (fun _ => none) s = out
  obtain ⟨r, s'⟩ := out
  obtain ⟨hdb, ⟨e, rfl, hpresence⟩ | ⟨userid, rfl, hpresence⟩⟩ := dispatchLogin_spec h hrun
  · exact ⟨hdb, hpresence⟩
  · exact ⟨hdb, hpresence⟩

/-- A Logout records the presence it makes. -/
theorem logoutEffect_records (canon : String → Except SystemError String) (m : Logout)
    (sessionid : ℕ) {s : DbState} (h : DbInv s.db) :
    (logoutEffect canon m sessionid s).Records s := by
  rw [logoutEffect]
  generalize hrun : dispatchLogout canon m sessionid (fun _ => none) s = out
  obtain ⟨r, s'⟩ := out
  obtain ⟨hdb, ⟨e, rfl, hpresence⟩ | ⟨rfl, hpresence⟩⟩ := dispatchLogout_spec h hrun
  · exact ⟨hdb, hpresence⟩
  · exact ⟨hdb, hpresence⟩

/-- A ClientConnect records the presence it makes. -/
theorem connectEffect_records (canon : String → Except SystemError String) (m : ClientConnect)
    (unread : ℕ) {s : DbState} (h : DbInv s.db) :
    (connectEffect m (dbAnswers canon m.userid m.uuid unread (fun _ => none) s) s).Records s := by
  rw [connectEffect]
  generalize hrun : storeConnect m _ s = out
  obtain ⟨stored, s'⟩ := out
  obtain ⟨hdb, hpresence⟩ := storeConnect_spec h hrun
  cases stored <;> exact ⟨hdb, hpresence⟩

/-- A ClientDisConnect records the presence it makes. -/
theorem disconnectEffect_records (canon : String → Except SystemError String)
    (m : ClientDisConnect) (sessionid : ℕ) {s : DbState} (h : DbInv s.db) :
    (disconnectEffect m sessionid
      (dbAnswers canon m.userid m.uuid 0 (fun _ => none) s) s).Records s := by
  rw [disconnectEffect]
  generalize hrun : storeDisConnect m sessionid _ s = out
  obtain ⟨stored, s'⟩ := out
  obtain ⟨hdb, hpresence⟩ := storeDisConnect_spec h hrun
  cases stored <;> exact ⟨hdb, hpresence⟩

/-- What a request has done to the devices is what it says. -/
theorem ChatRequest.effect_records (canon : String → Except SystemError String) (io : ReadIo)
    (sessionid : ℕ) {s : DbState} (h : DbInv s.db) (r : ChatRequest) :
    (r.effect canon io sessionid s).Records s := by
  cases r with
  | login m => exact loginEffect_records m io h
  | logout m => exact logoutEffect_records canon m sessionid h
  | clientConnect m unread => exact connectEffect_records canon m unread h
  | clientDisConnect m => exact disconnectEffect_records canon m sessionid h
  | addFriend inviterID inviteeID db => exact ⟨h, rfl⟩
  | addFriendAuthorize inviterID inviteeID isAgree db => exact ⟨h, rfl⟩
  | nodeMessage touserid_outer insert update => exact ⟨h, rfl⟩

omit [DecidableEq ι] [DecidableEq θ] in
/-- Storing the number of the message comes before the handler and is not seen. -/
theorem SystemInv.dbState {s : System ι θ} (h : SystemInv s) (t : θ) (io : ReadIo)
    (sessionid : ℕ) (r : ChatRequest) :
    DbInv (s.dbState t io sessionid r).db ∧
      (s.dbState t io sessionid r).db.presence = s.presence := by
  rw [System.dbState, h.presence]
  split
  · exact ⟨h.db.updateSessionID _ _ _, presence_updateSessionID s.db _ _ _⟩
  · exact ⟨h.db, rfl⟩

/-- Every request keeps the invariant. -/
theorem SystemInv.request {s : System ι θ} (h : SystemInv s)
    (canon : String → Except SystemError String) (extra : Reply → ℕ) (i : ι) (k : ℕ) (t : θ)
    (r : ChatRequest) : SystemInv (s.request canon extra i k t r) := by
  rw [System.request]
  cases hhandles : s.server.handles i k r with
  | none =>
      simp only
      split
      · exact ⟨h.db, h.presence⟩
      · exact h
  | some out =>
      obtain ⟨io, sessionid⟩ := out
      obtain ⟨hdb, hpresence⟩ := h.dbState t io sessionid r
      obtain ⟨hdb', hpresence'⟩ := r.effect_records canon io sessionid hdb
      exact ⟨hdb', by rw [hpresence', hpresence]⟩

/-- **The documents record the presence**, whatever is requested. -/
theorem SystemInv.systemStep {s : System ι θ} (h : SystemInv s)
    (canon : String → Except SystemError String) (extra : Reply → ℕ) (e : SystemEvent ι θ) :
    SystemInv (systemStep canon extra s e) := by
  cases e with
  | loop e => cases e <;> exact ⟨h.db, h.presence⟩
  | request i k t r => exact h.request canon extra i k t r

omit [DecidableEq ι] [DecidableEq θ] in
/-- A server without connections. -/
theorem systemInv_new (users : List Account) : SystemInv (System.new users : System ι θ) := by
  refine ⟨⟨⟨List.nodup_nil, fun _ hdoc => (nomatch hdoc)⟩, ?_⟩, rfl⟩
  intro user huser uuid huuid
  obtain ⟨old, -, rfl⟩ := List.mem_map.mp huser
  cases huuid

/-! ### Reaching the right connections -/

/-- The device that a Login is on. -/
def SystemEvent.loginDevice : SystemEvent ι θ → Option String
  | .request _ _ _ (.login m) => some m.uuid
  | _ => none

/-- The user is the last that has logged in on the device, and has neither logged out nor
disconnected it since; the Login of this step is one more. -/
def System.Present (s : System ι θ) (e : SystemEvent ι θ) (userid w : String) : Prop :=
  e.loginDevice ≠ some w ∧ s.presence w = some ⟨userid, true, true⟩

/-- The device `w`, other than the one of the request, is routed to `j`. -/
def System.Routed (s : System ι θ) (own w : String) (j : ι) : Prop :=
  w ≠ own ∧ s.server.uuidnodeMap w = some j

/-- The user whose messages the connection takes. -/
def System.userOf (s : System ι θ) (j : ι) : Option String :=
  (s.server.nodes j).map fun node => node.io.userid

/-- Every notification of the step is mounted on the routed connections of its user, other
than the requesting device, once each, and on no other. -/
def NotifiesExactly (canon : String → Except SystemError String) (s : System ι θ)
    (e : SystemEvent ι θ) : Prop :=
  ∀ own noti js, (own, noti, js) ∈ s.notifications canon e →
    js.Nodup ∧ ∀ j, j ∈ js ↔ (∃ w, s.Routed own w j) ∧ s.userOf j = some noti.user

/-- For every notification of the step, a connection of its user is routed from exactly one
device that the addressed user is present on, any other connection from none. -/
def AddressesRight (canon : String → Except SystemError String) (s : System ι θ)
    (e : SystemEvent ι θ) : Prop :=
  ∀ own noti js, (own, noti, js) ∈ s.notifications canon e → ∀ w j, s.Routed own w j →
    (s.userOf j = some noti.user ∧ ∃! w', s.Routed own w' j ∧ s.Present e noti.touserid w') ∨
      (s.userOf j ≠ some noti.user ∧
        ∀ w', s.Routed own w' j → ¬ s.Present e noti.touserid w')

omit [DecidableEq ι] [DecidableEq θ] in
/-- After a request that notifies, a user is present where it was, but not on the device of
a Login. -/
theorem ChatRequest.effect_present {canon : String → Except SystemError String} {io : ReadIo}
    {sessionid : ℕ} {s : DbState} (h : DbInv s.db) {r : ChatRequest} {noti : Noti}
    (hnoti : noti ∈ (r.effect canon io sessionid s).notis) {i : ι} {k : ℕ} {t : θ}
    (userid w : String) :
    (r.effect canon io sessionid s).state.db.presence w = some ⟨userid, true, true⟩ ↔
      (SystemEvent.request i k t r).loginDevice ≠ some w ∧
        s.db.presence w = some ⟨userid, true, true⟩ := by
  cases r with
  | login m =>
      simp only [ChatRequest.effect, loginEffect] at hnoti ⊢
      generalize hrun : dispatchLogin m (fun _ => none) s = out at hnoti ⊢
      obtain ⟨r, s'⟩ := out
      obtain ⟨-, ⟨e, rfl, -⟩ | ⟨userid', rfl, hpresence⟩⟩ := dispatchLogin_spec h hrun
      · cases hnoti
      · simp only [SystemEvent.loginDevice, hpresence]
        by_cases hw : w = m.uuid
        · simp [hw]
        · simp [hw, Ne.symm hw]
  | logout m =>
      simp only [ChatRequest.effect, logoutEffect] at hnoti
      split at hnoti <;> cases hnoti
  | clientConnect m unread => cases hnoti
  | clientDisConnect m => cases hnoti
  | addFriend inviterID inviteeID db => simp [ChatRequest.effect, SystemEvent.loginDevice]
  | addFriendAuthorize inviterID inviteeID isAgree db =>
      simp [ChatRequest.effect, SystemEvent.loginDevice]
  | nodeMessage touserid_outer insert update =>
      simp [ChatRequest.effect, SystemEvent.loginDevice]

omit [DecidableEq ι] [DecidableEq θ] in
/-- A notification is mounted where the devices of the addressed user lead to. -/
theorem SystemInv.notifications_spec {s : System ι θ} (h : SystemInv s)
    {canon : String → Except SystemError String} {e : SystemEvent ι θ} {own : String}
    {noti : Noti} {js : List ι} (hmem : (own, noti, js) ∈ s.notifications canon e) :
    ∃ db, DocsInv db ∧ js = mountTargets db s.server.uuidnodeMap own noti.touserid ∧
      ∀ w, db.presence w = some ⟨noti.touserid, true, true⟩ ↔
        s.Present e noti.touserid w := by
  cases e with
  | loop e => cases hmem
  | request i k t r =>
      simp only [System.notifications, System.effect] at hmem
      cases hhandles : s.server.handles i k r with
      | none =>
          rw [hhandles] at hmem
          cases hmem
      | some out =>
          obtain ⟨io, sessionid⟩ := out
          rw [hhandles] at hmem
          simp only [Option.map_some] at hmem
          obtain ⟨noti', hnoti, heq⟩ := List.mem_map.mp hmem
          cases heq
          obtain ⟨hdb, hpresence⟩ := h.dbState t io sessionid r
          refine ⟨_, (r.effect_records canon io sessionid hdb).db.toDocsInv, rfl, ?_⟩
          intro w
          rw [System.Present, ← hpresence]
          exact ChatRequest.effect_present hdb hnoti _ w

omit [DecidableEq ι] [DecidableEq θ] in
/-- A notification reaches exactly the right connections where presence and connections
agree. -/
theorem SystemInv.notifiesExactly_iff {s : System ι θ} (h : SystemInv s)
    (canon : String → Except SystemError String) (e : SystemEvent ι θ) :
    NotifiesExactly canon s e ↔ AddressesRight canon s e := by
  refine forall_congr' fun own => forall_congr' fun noti => forall_congr' fun js =>
    forall_congr' fun hmem => ?_
  obtain ⟨db, hdocs, rfl, hpresent⟩ := h.notifications_spec hmem
  have hmount : ∀ j, j ∈ mountTargets db s.server.uuidnodeMap own noti.touserid ↔
      ∃ w, s.Routed own w j ∧ s.Present e noti.touserid w := by
    intro j
    rw [mem_mountTargets hdocs]
    exact exists_congr fun w => and_congr Iff.rfl (hpresent w)
  rw [nodup_mountTargets hdocs]
  simp only [hpresent, hmount]
  constructor
  · rintro ⟨honce, hreach⟩ w j hroute
    by_cases huser : s.userOf j = some noti.user
    · obtain ⟨w', hroute', hpresent'⟩ := (hreach j).mpr ⟨⟨w, hroute⟩, huser⟩
      refine .inl ⟨huser, w', ⟨hroute', hpresent'⟩, ?_⟩
      rintro w'' ⟨hroute'', hpresent''⟩
      exact honce w'' w' j hroute'' hroute' hpresent'' hpresent'
    · refine .inr ⟨huser, fun w' hroute' hpresent' => huser ?_⟩
      exact ((hreach j).mp ⟨w', hroute', hpresent'⟩).2
  · intro hright
    constructor
    · intro w w' j hroute hroute' hw hw'
      rcases hright w j hroute with ⟨-, v, -, hunique⟩ | ⟨-, hnone⟩
      · exact (hunique w ⟨hroute, hw⟩).trans (hunique w' ⟨hroute', hw'⟩).symm
      · exact absurd hw (hnone w hroute)
    · intro j
      constructor
      · rintro ⟨w, hroute, hw⟩
        rcases hright w j hroute with ⟨huser, -⟩ | ⟨-, hnone⟩
        · exact ⟨⟨w, hroute⟩, huser⟩
        · exact absurd hw (hnone w hroute)
      · rintro ⟨⟨w, hroute⟩, huser⟩
        rcases hright w j hroute with ⟨-, hone⟩ | ⟨hother, -⟩
        · exact hone.exists
        · exact absurd huser hother

/-- **The notifications of a run reach exactly the right connections** if and only if, at
each of them, presence and connections agree. -/
theorem notifications_exact (canon : String → Except SystemError String) (extra : Reply → ℕ)
    (users : List Account) (es : List (SystemEvent ι θ)) :
    StepsMeet (systemStep canon extra) (NotifiesExactly canon) (System.new users) es ↔
      StepsMeet (systemStep canon extra) (AddressesRight canon) (System.new users) es :=
  stepsMeet_congr (fun _ e hs => hs.systemStep canon extra e)
    (fun _ e hs => hs.notifiesExactly_iff canon e) (systemInv_new users)

/-! ### A Login from a second device -/

/-- A user. -/
def ann : Account := ⟨"ann", "1", "86", "pw", []⟩

/-- The user logs in on a device. -/
def annLogin (uuid : String) : ChatRequest := .login ⟨"1", "86", "pw", uuid⟩

/-- The user connects the phone. -/
def annConnect : ChatRequest := .clientConnect ⟨"ann", "phone", "", "", "", false⟩ 0

/-- The connection `i` sends a request that the thread handles at once. -/
def sends (i : ℕ) (r : ChatRequest) : List (SystemEvent ℕ Unit) :=
  [.loop (.frame i (bareFrame r.type.code 0) Uninit.zero), .request i 0 () r]

/-- The phone logs in and connects, and is routed. -/
def phoneRun : List (SystemEvent ℕ Unit) :=
  .loop (.accept 1 0) :: sends 1 (annLogin "phone") ++ sends 1 annConnect ++
    [.loop (.write 1 .finished), .loop (.write 1 .finished)]

/-- Then a message of a Login arrives on a second connection. -/
def tabletRun : List (SystemEvent ℕ Unit) :=
  phoneRun ++
    [.loop (.accept 2 0), .loop (.frame 2 (bareFrame ChatType.login.code 0) Uninit.zero)]

/-- The phone, which is routed to a connection of the user, gets no LoginNoti: it is
addressed to the user of a connection that nobody has connected. -/
theorem not_notifies_login :
    ¬ StepsMeet (systemStep (fun id => .ok id) (fun _ => 0)) (NotifiesExactly (fun id => .ok id))
      (System.new [ann]) (tabletRun ++ [.request 2 0 () (annLogin "tablet")]) := by
  rw [stepsMeet_append]
  rintro ⟨-, hlast, -⟩
  have hexact := (hlast "" ⟨"ann", "", ⟨.loginnoti, by decide⟩⟩ [] (List.mem_singleton.mpr rfl)).2 1
  have hreach := hexact.mpr ⟨⟨"phone", by decide, rfl⟩, rfl⟩
  cases hreach

end Yijian
