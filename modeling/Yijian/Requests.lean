import Yijian.Devices
import Yijian.Lib.Runs

/-!
# Requests on the Devices

Runs of Login, Logout, ClientConnect and ClientDisConnect among other requests, on any
connections and by any worker threads. Every operation on the database may fail: the event
of a request says which. `Service` puts the server, the two collections and the
`connectInfo_` of the worker threads together, and keeps the history of what the requests
have come to.

## Convention

The handlers of the four requests are functions here, from the documents and the thread's
`connectInfo_` to those behind them, in the order of the operations of the source: that these are
the programs of `Yijian.Handlers`, with the mounted messages, is `Yijian.Agreement`. The other
requests leave these two collections alone and may mount what they like. The history has a deed for
what has come to its end: a login, a logout, a connect, an accepted message. A request that fails
has no deed, but may have written something. No assumption is made on which documents the two
collections hold to begin with, other than that there are no devices yet.

## Main results

* `loginStep`, `logoutStep`, `connectStep`, `disconnectStep`: what each handler may write.
* `serviceStep_cases`: a step does to the collections what its handler does, or nothing.
-/

namespace Yijian

open Documents Runs

/-! ### What a handler writes -/

/-- The devices of a user with one more, unless it is there. -/
def DeviceDb.addDevice (db : DeviceDb) (user : Account) (uuid : String) : DeviceDb :=
  if user.devices.contains uuid then db else db.insertDevice user.id uuid

@[simp] theorem addDevice_connectInfo (db : DeviceDb) (user : Account) (uuid : String) :
    (db.addDevice user uuid).connectInfo = db.connectInfo := by
  rw [DeviceDb.addDevice]
  split <;> rfl

@[simp] theorem device_addDevice (db : DeviceDb) (user : Account) (uuid uuid' : String) :
    (db.addDevice user uuid).device uuid' = db.device uuid' := by
  rw [DeviceDb.device, addDevice_connectInfo, DeviceDb.device]

/-- What a Login can come to. -/
inductive LoginStep (m : Login) (fault : ℕ → Option SystemError) (s : DbState) :
    Except SystemError String → DeviceDb → Prop
  /-- It is refused, or fails before anything is stored. -/
  | refused (e : SystemError) : LoginStep m fault s (.error e) s.db
  /-- The device is added to the user, but its connect info is not stored. -/
  | cut (e : SystemError) {user : Account}
      (hquery : s.db.queryPhone m.phoneNo m.countryCode = .ok user)
      (hpassword : user.password = m.password)
      (hnew : user.devices.contains m.uuid = false) (hinsert : fault 0 = none ∧ fault 1 = none)
      (hcut : ¬ (fault 2 = none ∧ fault 3 = none)) :
      LoginStep m fault s (.error e) (s.db.insertDevice user.id m.uuid)
  /-- The connect info of the device is updated. -/
  | updated {user : Account} {doc : ConnectInfo}
      (hquery : s.db.queryPhone m.phoneNo m.countryCode = .ok user)
      (hdoc : s.db.device m.uuid = some doc) :
      LoginStep m fault s (.ok user.id) ((s.db.addDevice user m.uuid).updateUUID
        ((s.db.findUUID m.uuid s.current).login m.uuid user.id (addUser doc.users user.id)))
  /-- The connect info of the device is inserted. -/
  | inserted {user : Account} {db : DeviceDb}
      (hquery : s.db.queryPhone m.phoneNo m.countryCode = .ok user)
      (hdoc : s.db.device m.uuid = none)
      (hinsert : (s.db.addDevice user m.uuid).insertUUID
        (s.current.login m.uuid user.id (addUser (fun _ => none) user.id)) = some db) :
      LoginStep m fault s (.ok user.id) db

/-- Once the device is in the list of its user, a Login stores its connect info or is cut. -/
theorem storeLogin_step {m : Login} {user : Account} {fault : ℕ → Option SystemError}
    {s : DbState} (hquery : s.db.queryPhone m.phoneNo m.countryCode = .ok user)
    (hfail : ∀ e, ¬ (fault 2 = none ∧ fault 3 = none) →
      LoginStep m fault s (.error e) (s.db.addDevice user m.uuid)) :
    fault 2 = none →
    LoginStep m fault s
      (storeLogin m user.id fault { s with db := s.db.addDevice user m.uuid }).1
      (storeLogin m user.id fault { s with db := s.db.addDevice user m.uuid }).2.db := by
  intro hfind
  rw [storeLogin, device_addDevice]
  cases hdoc : s.db.device m.uuid with
  | some doc =>
      simp only
      cases hstore : fault 3 with
      | some e => exact hfail _ (fun h => by simp [hstore] at h)
      | none =>
          have hfound : (s.db.addDevice user m.uuid).findUUID m.uuid s.current =
              s.db.findUUID m.uuid s.current := by
            rw [DeviceDb.findUUID, device_addDevice, DeviceDb.findUUID]
          simp only [hfound]
          exact .updated hquery hdoc
  | none =>
      simp only
      have hinsert : (s.db.addDevice user m.uuid).insertUUID
          (s.current.login m.uuid user.id (addUser (fun _ => none) user.id)) = some _ :=
        insertUUID_of_device ((device_addDevice s.db user m.uuid m.uuid).trans hdoc)
      cases hstore : fault 3 with
      | some e => exact hfail _ (fun h => by simp [hstore] at h)
      | none =>
          rw [hinsert]
          exact .inserted hquery hdoc hinsert

/-- **A Login** without a step that stores nothing. -/
theorem loginStep (m : Login) (fault : ℕ → Option SystemError) (s : DbState) :
    LoginStep m fault s (dispatchLogin m fault s).1 (dispatchLogin m fault s).2.db := by
  rw [dispatchLogin]
  cases hquery : s.db.queryPhone m.phoneNo m.countryCode with
  | error e =>
      cases hfault : fault 0 <;> exact .refused _
  | ok user =>
      cases hfault₀ : fault 0 with
      | some e => exact .refused _
      | none =>
          simp only [attempt]
          split
          · rename_i hpassword
            cases hfault₁ : fault 1 with
            | some e => exact .refused _
            | none =>
                have hfail : ∀ e, ¬ (fault 2 = none ∧ fault 3 = none) →
                    LoginStep m fault s (.error e) (s.db.addDevice user m.uuid) := by
                  intro e hcut
                  rw [DeviceDb.addDevice]
                  split
                  · exact .refused e
                  · rename_i hnew
                    exact .cut e hquery hpassword (Bool.eq_false_iff.mpr hnew)
                      ⟨hfault₀, hfault₁⟩ hcut
                have hstate : (if user.devices.contains m.uuid then s
                    else { s with db := s.db.insertDevice user.id m.uuid }) =
                    { s with db := s.db.addDevice user m.uuid } := by
                  rw [DeviceDb.addDevice]
                  split <;> rfl
                simp only [hstate]
                cases hfault₂ : fault 2 with
                | some e => exact hfail e (fun h => by simp [hfault₂] at h)
                | none => exact storeLogin_step hquery hfail hfault₂
          · exact .refused _

/-- The device is one of the user, and none of the three operations of the handler fails. -/
def Finds (canon : String → Except SystemError String) (fault : ℕ → Option SystemError)
    (db : DeviceDb) (userid uuid : String) : Prop :=
  (∃ user, db.queryUser canon userid = .ok user ∧ user.devices.contains uuid = true) ∧
    fault 0 = none ∧ fault 1 = none ∧ fault 2 = none

/-- `connectInfo_` when a Logout stores it: the number goes under the uuid. -/
def ConnectInfo.logout (info : ConnectInfo) (uuid : String) (sessionid : ℕ) : ConnectInfo :=
  { info with
    isconnected := false
    islogin := false
    users := Function.update info.users uuid (some (sessionid : ℤ)) }

/-- `connectInfo_` when a ClientDisConnect stores it. -/
def ConnectInfo.disconnect (info : ConnectInfo) (userid : String) (sessionid : ℕ) :
    ConnectInfo :=
  { info with
    isconnected := false
    users := Function.update info.users userid (some (sessionid : ℤ)) }

/-- **A Logout** stores the connect info of its device, or fails. -/
theorem logoutStep (canon : String → Except SystemError String) (m : Logout) (sessionid : ℕ)
    (fault : ℕ → Option SystemError) (s : DbState) :
    (Finds canon fault s.db m.userid m.uuid ∧
        (dispatchLogout canon m sessionid fault s).1 = .ok m.uuid ∧
        (dispatchLogout canon m sessionid fault s).2.db =
          s.db.updateUUID ((s.db.findUUID m.uuid s.current).logout m.uuid sessionid)) ∨
      (¬ Finds canon fault s.db m.userid m.uuid ∧
        (∃ e, (dispatchLogout canon m sessionid fault s).1 = .error e) ∧
        (dispatchLogout canon m sessionid fault s).2.db = s.db) := by
  rw [dispatchLogout]
  cases hfault₀ : fault 0 with
  | some e => exact .inr ⟨fun h => by simp [h.2.1] at hfault₀, ⟨e, rfl⟩, rfl⟩
  | none =>
      simp only [attempt]
      cases hquery : s.db.queryUser canon m.userid with
      | error e =>
          refine .inr ⟨?_, ⟨e, rfl⟩, rfl⟩
          rintro ⟨⟨user, huser, -⟩, -⟩
          rw [hquery] at huser
          cases huser
      | ok user =>
          simp only
          by_cases huuid : user.devices.contains m.uuid = true
          · rw [if_pos huuid]
            cases hfault₁ : fault 1 with
            | some e => exact .inr ⟨fun h => by simp [h.2.2.1] at hfault₁, ⟨e, rfl⟩, rfl⟩
            | none =>
                simp only
                cases hfault₂ : fault 2 with
                | some e => exact .inr ⟨fun h => by simp [h.2.2.2] at hfault₂, ⟨_, rfl⟩, rfl⟩
                | none =>
                    exact .inl ⟨⟨⟨user, hquery, huuid⟩, hfault₀, hfault₁, hfault₂⟩, rfl, rfl⟩
          · rw [if_neg huuid]
            refine .inr ⟨?_, ⟨_, rfl⟩, rfl⟩
            rintro ⟨⟨user', huser, huuid'⟩, -⟩
            rw [hquery] at huser
            obtain rfl := Except.ok.inj huser
            exact huuid huuid'

/-- What the database answers to a handler that finds its device. -/
theorem Finds.answers {canon : String → Except SystemError String}
    {fault : ℕ → Option SystemError} {s : DbState} {userid uuid : String}
    (h : Finds canon fault s.db userid uuid) (unread : ℕ) :
    ∃ devices, devices.contains uuid = true ∧
      (dbAnswers canon userid uuid unread fault s).queryUser = .ok devices ∧
      (dbAnswers canon userid uuid unread fault s).findUUID =
        .ok (s.db.findUUID uuid s.current) ∧
      (dbAnswers canon userid uuid unread fault s).updateUUID = .ok () := by
  obtain ⟨⟨user, hquery, huuid⟩, hfault₀, hfault₁, hfault₂⟩ := h
  refine ⟨user.devices, huuid, ?_, ?_, ?_⟩
  · simp [dbAnswers, attempt, hfault₀, hquery, Except.map]
  · simp [dbAnswers, attempt, hfault₁]
  · simp [dbAnswers, attempt, hfault₂]

/-- A query of the user that succeeds. -/
theorem query_of_answers {canon : String → Except SystemError String}
    {fault : ℕ → Option SystemError} {s : DbState} {userid uuid : String} {unread : ℕ}
    {devices : List String}
    (hquery : (dbAnswers canon userid uuid unread fault s).queryUser = .ok devices) :
    fault 0 = none ∧ ∃ user, s.db.queryUser canon userid = .ok user ∧ devices = user.devices := by
  cases hfault₀ : fault 0 with
  | some e => simp [dbAnswers, attempt, hfault₀] at hquery
  | none =>
      cases huser : s.db.queryUser canon userid with
      | error e => simp [dbAnswers, attempt, hfault₀, huser, Except.map] at hquery
      | ok user =>
          simp only [dbAnswers, attempt, hfault₀, huser, Except.map] at hquery
          exact ⟨rfl, user, rfl, (Except.ok.inj hquery).symm⟩

/-- A lookup of the device that succeeds. -/
theorem find_of_answers {canon : String → Except SystemError String}
    {fault : ℕ → Option SystemError} {s : DbState} {userid uuid : String} {unread : ℕ}
    {found : ConnectInfo}
    (hfind : (dbAnswers canon userid uuid unread fault s).findUUID = .ok found) :
    fault 1 = none ∧ found = s.db.findUUID uuid s.current := by
  cases hfault₁ : fault 1 with
  | some e => simp [dbAnswers, attempt, hfault₁] at hfind
  | none =>
      simp only [dbAnswers, attempt, hfault₁] at hfind
      exact ⟨rfl, (Except.ok.inj hfind).symm⟩

/-- A handler that all the answers let through finds its device. -/
theorem finds_of_answers {canon : String → Except SystemError String}
    {fault : ℕ → Option SystemError} {s : DbState} {userid uuid : String} {unread : ℕ}
    {devices : List String} {found : ConnectInfo}
    (hquery : (dbAnswers canon userid uuid unread fault s).queryUser = .ok devices)
    (huuid : devices.contains uuid = true)
    (hfind : (dbAnswers canon userid uuid unread fault s).findUUID = .ok found)
    (hupdate : (dbAnswers canon userid uuid unread fault s).updateUUID = .ok ()) :
    Finds canon fault s.db userid uuid := by
  obtain ⟨hfault₀, user, huser, rfl⟩ := query_of_answers hquery
  obtain ⟨hfault₁, -⟩ := find_of_answers hfind
  cases hfault₂ : fault 2 with
  | some e => simp [dbAnswers, attempt, hfault₂] at hupdate
  | none => exact ⟨⟨user, huser, huuid⟩, hfault₀, hfault₁, hfault₂⟩

/-- **A ClientDisConnect** stores the connect info of its device, or fails. -/
theorem disconnectStep (canon : String → Except SystemError String) (m : ClientDisConnect)
    (sessionid : ℕ) (fault : ℕ → Option SystemError) (s : DbState) :
    (Finds canon fault s.db m.userid m.uuid ∧
        (storeDisConnect m sessionid (dbAnswers canon m.userid m.uuid 0 fault s) s).2.db =
          s.db.updateUUID ((s.db.findUUID m.uuid s.current).disconnect m.userid sessionid)) ∨
      (¬ Finds canon fault s.db m.userid m.uuid ∧
        (storeDisConnect m sessionid (dbAnswers canon m.userid m.uuid 0 fault s) s).2.db =
          s.db) := by
  by_cases hfinds : Finds canon fault s.db m.userid m.uuid
  · obtain ⟨devices, huuid, hquery, hfind, hupdate⟩ := hfinds.answers 0
    refine .inl ⟨hfinds, ?_⟩
    simp only [storeDisConnect, hquery, hfind, huuid, if_true, hupdate]
    rfl
  · refine .inr ⟨hfinds, ?_⟩
    rw [storeDisConnect]
    split
    · rename_i devices found hquery hfind
      split
      · rename_i huuid
        cases hupdate : (dbAnswers canon m.userid m.uuid 0 fault s).updateUUID with
        | error e => rfl
        | ok _ => exact absurd (finds_of_answers hquery huuid hfind hupdate) hfinds
      · rfl
    · rfl

/-- A ClientConnect that finds its device is granted where the user has a number there. -/
def Grants (canon : String → Except SystemError String) (fault : ℕ → Option SystemError)
    (s : DbState) (m : ClientConnect) : Prop :=
  Finds canon fault s.db m.userid m.uuid ∧
    ((s.db.findUUID m.uuid s.current).users m.userid).isSome = true

/-- **A ClientConnect** stores the connect info of its device, or fails. -/
theorem connectStep (canon : String → Except SystemError String) (m : ClientConnect)
    (unread : ℕ) (fault : ℕ → Option SystemError) (s : DbState) :
    (Grants canon fault s m ∧
        (storeConnect m (dbAnswers canon m.userid m.uuid unread fault s) s).1 = true ∧
        (storeConnect m (dbAnswers canon m.userid m.uuid unread fault s) s).2.db =
          s.db.updateUUID ((s.db.findUUID m.uuid s.current).connect m)) ∨
      (¬ Grants canon fault s m ∧
        (storeConnect m (dbAnswers canon m.userid m.uuid unread fault s) s).1 = false ∧
        (storeConnect m (dbAnswers canon m.userid m.uuid unread fault s) s).2.db = s.db) := by
  by_cases hgrants : Grants canon fault s m
  · obtain ⟨hfinds, husers⟩ := hgrants
    obtain ⟨devices, huuid, hquery, hfind, hupdate⟩ := hfinds.answers unread
    obtain ⟨stored, hstored⟩ := Option.isSome_iff_exists.mp husers
    refine .inl ⟨⟨hfinds, husers⟩, ?_, ?_⟩
    · simp only [storeConnect, hquery, hfind, huuid, if_true, hstored, hupdate]
    · simp only [storeConnect, hquery, hfind, huuid, if_true, hstored, hupdate]
  · refine .inr ⟨hgrants, ?_⟩
    rw [storeConnect]
    split
    · rename_i devices found hquery hfind
      split
      · rename_i huuid
        split
        · exact ⟨rfl, rfl⟩
        · rename_i stored hstored
          cases hupdate : (dbAnswers canon m.userid m.uuid unread fault s).updateUUID with
          | error e => exact ⟨rfl, rfl⟩
          | ok _ =>
              have hfinds := finds_of_answers hquery huuid hfind hupdate
              obtain ⟨_, _, _, hfind', _⟩ := hfinds.answers unread
              obtain rfl := Except.ok.inj (hfind.symm.trans hfind')
              exact absurd ⟨hfinds, Option.isSome_of_mem hstored⟩ hgrants
      · exact ⟨rfl, rfl⟩
    · exact ⟨rfl, rfl⟩

/-- The handler mounts a ClientConnectRes that reports a success. -/
def SendsSuccess (m : ClientConnect) (answers : DbAnswers) (io : ReadIo) : Prop :=
  ∃ io' replies res, clientConnect m answers io = some (io', replies) ∧
    Reply.clientConnectRes res ∈ replies ∧ res.isSuccess = true

/-- A success is sent exactly where the request is granted. -/
theorem sendsSuccess_iff (canon : String → Except SystemError String) (m : ClientConnect)
    (unread : ℕ) (fault : ℕ → Option SystemError) (s : DbState) (io : ReadIo) :
    SendsSuccess m (dbAnswers canon m.userid m.uuid unread fault s) io ↔
      Grants canon fault s m := by
  constructor
  · rintro ⟨io', replies, res, hrun, hmem, hsucc⟩
    have hfail : ∀ {e : SystemError} {io₁ : ReadIo},
        some (io₁, [connectFailure e]) ≠ some (io', replies) := by
      intro e io₁ heq
      obtain ⟨-, rfl⟩ := Prod.mk.inj (Option.some.inj heq)
      obtain rfl := Reply.clientConnectRes.inj (List.mem_singleton.mp hmem)
      cases hsucc
    unfold clientConnect at hrun
    split at hrun
    · exact absurd hrun hfail
    · rename_i devices hquery
      split at hrun
      · rename_i huuid
        split at hrun
        · exact absurd hrun hfail
        · rename_i found hfind
          split at hrun
          · cases hrun
          · rename_i stored hstored
            split at hrun
            · exact absurd hrun hfail
            · rename_i hupdate
              have hfinds := finds_of_answers hquery huuid hfind hupdate
              obtain ⟨_, _, _, hfind', _⟩ := hfinds.answers unread
              obtain rfl := Except.ok.inj (hfind.symm.trans hfind')
              exact ⟨hfinds, Option.isSome_of_mem hstored⟩
      · exact absurd hrun hfail
  · rintro ⟨hfinds, husers⟩
    obtain ⟨devices, huuid, hquery, hfind, hupdate⟩ := hfinds.answers unread
    obtain ⟨stored, hstored⟩ := Option.isSome_iff_exists.mp husers
    simp only [SendsSuccess, clientConnect, hquery, huuid, if_true, hfind, hstored, hupdate]
    exact ⟨_, _, _, rfl, List.mem_cons_self, rfl⟩

/-! ### The service -/

variable {ι θ : Type}

/-- A request, as it is parsed from the data; of those that leave the devices alone, what
they mount. -/
inductive DeviceRequest (ι : Type)
  | login (m : Login)
  | logout (m : Logout)
  | clientConnect (m : ClientConnect) (unread : ℕ)
  | clientDisConnect (m : ClientDisConnect)
  | other (mounts : List (ι × PlainType))

/-- The request may come in a message of the type. -/
def DeviceRequest.fits : DeviceRequest ι → UInt8 → Bool
  | .login _, type => type == ChatType.login.code
  | .logout _, type => type == ChatType.logout.code
  | .clientConnect _ _, type => type == ChatType.clientconnect.code
  | .clientDisConnect _, type => type == ChatType.clientdisconnect.code
  | .other _, type =>
      !([ChatType.login, .logout, .clientconnect, .clientdisconnect].map
        ChatType.code).contains type

/-- What a request has come to: a checked message was accepted from a connection of a user
on a device; a Login succeeded; a Logout named a user and a device; a ClientConnect was
answered with a success. The last three name the user by the id of its document. -/
inductive Deed
  | accepted (userid uuid : String) (sessionid : ℕ)
  | login (id uuid : String)
  | logout (id uuid : String)
  | connect (id uuid : String)
deriving DecidableEq

/-- The deed of a request that names the user `userid`. -/
def named (canon : String → Except SystemError String) (userid uuid : String)
    (deed : String → String → Deed) : List Deed :=
  match canon userid with
  | .error _ => []
  | .ok id => [deed id uuid]

/-- What the handler of a request does to `connectInfo_` and to the collections, and what it
has come to. -/
def DeviceRequest.run (canon : String → Except SystemError String) (sessionid : ℕ)
    (fault : ℕ → Option SystemError) (s : DbState) : DeviceRequest ι → DbState × List Deed
  | .login m =>
      match dispatchLogin m fault s with
      | (.error _, s) => (s, [])
      | (.ok id, s) => (s, [.login id m.uuid])
  | .logout m =>
      ((dispatchLogout canon m sessionid fault s).2, named canon m.userid m.uuid .logout)
  | .clientConnect m unread =>
      match storeConnect m (dbAnswers canon m.userid m.uuid unread fault s) s with
      | (false, s) => (s, [])
      | (true, s) => (s, named canon m.userid m.uuid .connect)
  | .clientDisConnect m =>
      ((storeDisConnect m sessionid (dbAnswers canon m.userid m.uuid 0 fault s) s).2, [])
  | .other _ => (s, [])

/-- What the worker finds out in handling a request. A Login and a Logout leave the current node
alone; the LoginRes and LogoutRes that they mount, and the LoginNoti, are no messages of the
queues here, and nothing that is said of these runs looks at them. -/
def DeviceRequest.handling (canon : String → Except SystemError String)
    (fault : ℕ → Option SystemError) (s : DbState) : DeviceRequest ι → Handling ι
  | .clientConnect m unread =>
      .clientConnect m (dbAnswers canon m.userid m.uuid unread fault s)
  | .clientDisConnect m => .clientDisConnect m (dbAnswers canon m.userid m.uuid 0 fault s)
  | .other mounts => .plain mounts
  | _ => .plain []

/-- The server, the collections, `connectInfo_` of each worker thread, and the history. -/
structure Service (ι θ : Type) where
  server : Server ι
  db : DeviceDb
  current : θ → ConnectInfo
  history : List Deed

/-- Users of any kind before the first login. -/
def Service.new (users : List Account) : Service ι θ where
  server := Server.new
  db := ⟨users.map fun user => { user with devices := [] }, []⟩
  current := fun _ => ConnectInfo.empty
  history := []

/-- A request `r` that the thread `t` finds in the task `k` of the connection `i`;
`numberFault` and `fault` are what the operations on the database throw. -/
structure RequestEvent (ι θ : Type) where
  i : ι
  k : ℕ
  t : θ
  r : DeviceRequest ι
  numberFault : Option SystemError
  fault : ℕ → Option SystemError

/-- A step of the service. -/
inductive ServiceEvent (ι θ : Type)
  | loop (e : Event ι)
  | request (q : RequestEvent ι θ)

/-- No operation on the database fails in the step. -/
def ServiceEvent.NoFault : ServiceEvent ι θ → Prop
  | .loop _ => True
  | .request q => q.numberFault = none ∧ q.fault = fun _ => none

/-- A task that the gate lets through: its connection, its type and its number. -/
def Server.task (s : Server ι) (i : ι) (k : ℕ) : Option (ReadIo × UInt8 × ℕ) := do
  let node ← s.nodes i
  let w ← node.work[k]?
  let back ← w.spVec.getLast?
  if dispatchGate node.io.isConnect back.datatype back.sessionId w.sessionid = .handle then
    some (node.io, back.datatype, w.sessionid)
  else none

/-- The task of a request, where its handler is run. -/
def Service.handles (s : Service ι θ) (q : RequestEvent ι θ) : Option (ReadIo × UInt8 × ℕ) :=
  (s.server.task q.i q.k).filter fun task => q.r.fits task.2.1

/-- The database when the handler starts: `dispatch` stores the number of a checked
message, and goes on where that fails. -/
def Service.start (s : Service ι θ) (q : RequestEvent ι θ) (task : ReadIo × UInt8 × ℕ) :
    DbState where
  current := s.current q.t
  db :=
    if missingCheck task.2.1 && q.numberFault.isNone then
      s.db.updateSessionID task.1.uuid task.1.userid task.2.2
    else s.db

/-- The deed of a message that `dispatch` accepts. -/
def accepts (task : ReadIo × UInt8 × ℕ) : List Deed :=
  if missingCheck task.2.1 then [.accepted task.1.userid task.1.uuid task.2.2] else []

variable [DecidableEq ι] [DecidableEq θ]

/-- A worker thread handles a request. -/
def Service.request (canon : String → Except SystemError String) (extra : Reply → ℕ)
    (s : Service ι θ) (q : RequestEvent ι θ) : Service ι θ :=
  match s.handles q with
  | none =>
      match s.server.verdict q.i q.k with
      | some (.reject _ _) => { s with server := workTask extra s.server q.i q.k (.plain []) }
      | _ => s
  | some task =>
      let start := s.start q task
      let done := q.r.run canon task.2.2 q.fault start
      { server := workTask extra s.server q.i q.k (q.r.handling canon q.fault start)
        db := done.1.db
        current := Function.update s.current q.t done.1.current
        history := s.history ++ accepts task ++ done.2 }

/-- One step of the service; tasks are dispatched by requests only. -/
def serviceStep (canon : String → Except SystemError String) (extra : Reply → ℕ)
    (s : Service ι θ) : ServiceEvent ι θ → Service ι θ
  | .loop (.work _ _ _) => s
  | .loop e => { s with server := step extra s.server e }
  | .request q => s.request canon extra q

/-- What a step does to the collections and the history: nothing, or what its handler
does. -/
theorem serviceStep_cases (canon : String → Except SystemError String) (extra : Reply → ℕ)
    (s : Service ι θ) (e : ServiceEvent ι θ) :
    ((serviceStep canon extra s e).db = s.db ∧
        (serviceStep canon extra s e).history = s.history ∧
        ∀ q, e = .request q → s.handles q = none) ∨
      ∃ q task, e = .request q ∧ s.handles q = some task ∧
        (serviceStep canon extra s e).db =
          (q.r.run canon task.2.2 q.fault (s.start q task)).1.db ∧
        (serviceStep canon extra s e).history = s.history ++ accepts task ++
          (q.r.run canon task.2.2 q.fault (s.start q task)).2 := by
  cases e with
  | loop e =>
      refine .inl ⟨?_, ?_, fun q h => (nomatch h)⟩
      · cases e <;> rfl
      · cases e <;> rfl
  | request q =>
      simp only [serviceStep, Service.request]
      cases hhandles : s.handles q with
      | none =>
          refine .inl ⟨?_, ?_, ?_⟩
          · simp only
            split <;> rfl
          · simp only
            split <;> rfl
          · rintro q' heq
            obtain rfl := ServiceEvent.request.inj heq
            exact hhandles
      | some task => exact .inr ⟨q, task, rfl, hhandles, rfl, rfl⟩

/-! ### A user with a phone -/

/-- A user. -/
def maria : Account := ⟨"maria", "1", "86", "pw", []⟩

/-- The connection sends a message that the worker handles at once. -/
def asks (type : ChatType) (sessionid : ℕ) (fault : ℕ → Option SystemError)
    (r : DeviceRequest Unit) : List (ServiceEvent Unit Unit) :=
  [.loop (.frame () (bareFrame type.code sessionid) Uninit.zero),
    .request ⟨(), 0, (), r, none, fault⟩]

/-- The user logs in on the phone. -/
def phoneLogin (fault : ℕ → Option SystemError) : List (ServiceEvent Unit Unit) :=
  .loop (.accept () 0) :: asks .login 0 fault (.login ⟨"1", "86", "pw", "phone"⟩)

/-- The user connects the phone. -/
def phoneConnect : ClientConnect := ⟨"maria", "phone", "", "", "", false⟩

/-- The phone is connected. -/
def phoneConnected : List (ServiceEvent Unit Unit) :=
  phoneLogin (fun _ => none) ++
    asks .clientconnect 0 (fun _ => none) (.clientConnect phoneConnect 0) ++
    [.loop (.write () .finished), .loop (.write () .finished)]

/-- Nothing fails. -/
theorem noFault_phoneConnected : ∀ e ∈ phoneConnected, e.NoFault := by
  simp [phoneConnected, phoneLogin, asks, ServiceEvent.NoFault]

end Yijian
