import Yijian.Replies

/-!
# Agreement

The handlers that touch the connection and the documents of the devices are modelled more than
once: as the programs they are, over any database client, and as functions on what matters to
the runs of the server. The programs do what the functions say.

## Relations

Three descriptions of one code meet here. `Yijian.Server` has a ClientConnect and a
ClientDisConnect as functions of what the database has answered, since the runs of the server are
about the connection. `Yijian.Devices` has the four handlers as functions on the collections, since
the runs there are about the documents. `Yijian.Handlers` has the programs. `DbAnswers` of the
first is filled in from the answers of a `DbClient`; `Mirrors` says that a `DbClient` answers as
the collections of the second do, with the same failures at the same operations, and
`DbClient.mirror` makes one from any collections. What is asked of the two sides is the answers, the
thread's `connectInfo_` and the current node. The documents that a program leaves behind are those
of its calls, which are the subject of `Yijian.DeviceDocuments`.

## Main results

* `dispatchClientConnect_shows`, `dispatchClientDisConnect_shows`: the two handlers do to the
  current node, and mount, what the model of the connection says.
* `dispatchLogin_shows`, `dispatchLogout_shows`, `DbClient.Mirrors.answers_eq`: over a client
  that answers as the collections do, the handlers leave in `connectInfo_`, and mount, what the
  model of the collections says.
* `handlers_agree`: all four handlers, over any client that answers as the collections do.
-/

namespace Yijian

open Attempts Documents

/-! ### The model of the connection -/

variable {client : DbClient} {t : Turn}

/-- What the database answers to the two handlers that the model of the connection has. -/
def DbClient.answers (client : DbClient) (userid uuid : String) (current : ConnectInfo)
    (store : ConnectInfo → ConnectInfo) : DbAnswers where
  queryUser := (client.queryUser 0 userid).map fun user => user.devices.map Device.uuid
  findUUID := (client.findUUID 1 uuid current).1.map fun _ => (client.findUUID 1 uuid current).2
  updateUUID := client.updateUUID 2 (store (client.findUUID 1 uuid current).2)
  unreadNodes := ((client.unreadNodes 3 userid).1.length, (client.unreadNodes 3 userid).2)

/-- The reply that the model of the connection has for a mounted message. -/
def Mounted.Shows : Mounted → Reply → Prop
  | self (.error errnum errmsg), .error errnum' errmsg' => errnum = errnum' ∧ errmsg = errmsg'
  | self (.clientConnectRes res), .clientConnectRes res' => res = res'
  | self (.clientDisConnectRes uuid), .clientDisConnectRes uuid' => uuid = uuid'
  | self r, .plain type => r.dispatchType = type.1
  | _, _ => False

/-- A user lists a device by its UUID. -/
theorem User.listsDevice_eq (user : User) (uuid : String) :
    (user.devices.map Device.uuid).contains uuid = user.listsDevice uuid := by
  rw [List.contains_eq_any_beq, List.any_map, listsDevice]
  exact congrArg user.devices.any (funext fun device => BEq.comm)

/-- The unread nodes are plain messages, in front of what else is mounted. -/
theorem shows_unreadNoti {ms : List Mounted} {replies : List Reply} {p : PlainType}
    (hp : p.1 = .nodemessagenoti) (h : List.Forall₂ Mounted.Shows ms replies)
    (rows : List (String × ℤ × ℤ)) :
    List.Forall₂ Mounted.Shows (rows.flatMap (unreadNoti t) ++ ms)
      (List.replicate rows.length (.plain p) ++ replies) := by
  induction rows with
  | nil => exact h
  | cons row rows ih => exact .cons hp.symm ih

/-- **A ClientDisConnect** mounts the replies that the model of the connection has for it. -/
theorem dispatchClientDisConnect_shows {disconnect : ClientDisConnect} (hcalls : t.calls = 0)
    (hmounted : t.mounted = []) :
    Ends (client.dispatchClientDisConnect disconnect) t
      (fun _ t' => t'.node = t.node ∧ List.Forall₂ Mounted.Shows t'.mounted
        (clientDisConnect disconnect (client.answers disconnect.userid disconnect.uuid
          t.connectInfo fun info => info.disconnect disconnect.userid t.sessionid)))
      fun _ _ => False := by
  rw [DbClient.dispatchClientDisConnect, respond, catchSystem, ends_tryCatch]
  unfold clientDisConnect DbClient.answers
  cases hquery : client.queryUser 0 disconnect.userid with
  | error e =>
      simp [DbClient.findDevice, ends_call, Except.map, errorResponse, errorBuffer,
        Mounted.Shows, *]
  | ok user =>
      simp only [Except.map, User.listsDevice_eq]
      cases hdevice : user.listsDevice disconnect.uuid with
      | false =>
          simp [DbClient.findDevice, ends_call, ends_throwIf, errorResponse, errorBuffer,
            Mounted.Shows, *]
      | true =>
          cases hfound : (client.findUUID 1 disconnect.uuid t.connectInfo).1 with
          | error e =>
              simp [DbClient.findDevice, ends_call, ends_throwIf, ends_findInfo, errorResponse,
                errorBuffer, Mounted.Shows, *]
          | ok isFind =>
              generalize hstore : client.updateUUID 2 _ = stored
              cases stored with
              | error e =>
                  simp [DbClient.findDevice, ends_call, ends_throwIf, ends_findInfo,
                    ends_setInfo, errorResponse, errorBuffer, Mounted.Shows, *]
              | ok _ =>
                  simp [DbClient.findDevice, ends_call, ends_throwIf, ends_findInfo,
                    ends_setInfo, Mounted.Shows, *]

/-- **A ClientConnect** does to the current node what the model of the connection says, and
mounts the replies it has; where the process ends, it ends in both. -/
theorem dispatchClientConnect_shows {connect : ClientConnect} (hcalls : t.calls = 0)
    (hmounted : t.mounted = []) :
    let answers := client.answers connect.userid connect.uuid t.connectInfo (·.connect connect)
    Ends (client.dispatchClientConnect connect) t
      (fun _ t' => ∃ replies, clientConnect connect answers t.node = some (t'.node, replies) ∧
        List.Forall₂ Mounted.Shows t'.mounted replies)
      fun _ _ => clientConnect connect answers t.node = none := by
  intro answers
  rw [DbClient.dispatchClientConnect, catchSystem, ends_tryCatch]
  simp only [clientConnect, answers, DbClient.answers]
  cases hquery : client.queryUser 0 connect.userid with
  | error e =>
      simp [DbClient.findDevice, ends_call, Except.map, connectFailure, Mounted.Shows, *]
  | ok user =>
      simp only [Except.map, User.listsDevice_eq]
      cases hdevice : user.listsDevice connect.uuid with
      | false =>
          simp [DbClient.findDevice, ends_call, ends_throwIf, connectFailure, Mounted.Shows, *]
      | true =>
          cases hfound : (client.findUUID 1 connect.uuid t.connectInfo).1 with
          | error e =>
              simp [DbClient.findDevice, ends_call, ends_throwIf, ends_findInfo, connectFailure,
                Mounted.Shows, *]
          | ok isFind =>
              cases husers : (client.findUUID 1 connect.uuid t.connectInfo).2.users
                  connect.userid with
              | none =>
                  simp [DbClient.findDevice, ends_call, ends_throwIf, ends_findInfo, *]
              | some stored =>
                  generalize hstore : client.updateUUID 2 _ = stored
                  cases stored with
                  | error e =>
                      simp [DbClient.findDevice, ends_call, ends_throwIf, ends_findInfo,
                        ends_setInfo, connectFailure, Mounted.Shows, *]
                  | ok _ =>
                      have hnotis : ∀ (t' : Turn) {ms : List Mounted} {replies : List Reply},
                          List.Forall₂ Mounted.Shows ms replies →
                          List.Forall₂ Mounted.Shows
                            ((client.unreadNodes 3 connect.userid).1.flatMap (unreadNoti t') ++ ms)
                            (List.replicate (client.unreadNodes 3 connect.userid).1.length
                              (.plain ⟨.nodemessagenoti, by decide⟩) ++ replies) :=
                        fun _ _ _ h => shows_unreadNoti rfl h _
                      cases hunread : (client.unreadNodes 3 connect.userid).2 with
                      | none =>
                          have hrest := fun t' => hnotis t' .nil
                          simp only [List.append_nil] at hrest
                          simp [DbClient.findDevice, ends_call, ends_throwIf, ends_findInfo,
                            ends_setInfo, ends_cursor, Mounted.Shows, *]
                      | some e =>
                          simp [DbClient.findDevice, ends_call, ends_throwIf, ends_findInfo,
                            ends_setInfo, ends_cursor, Mounted.Shows, connectFailure, *]

/-! ### The model of the collections -/

/-- The document of a user, as far as devices go. -/
def User.account (user : User) : Account where
  id := user.id
  phoneNo := user.phoneno
  countryCode := user.countrycode
  password := user.password
  devices := user.devices.map Device.uuid

/-- The client answers the calls of one dispatch as the collections of `s` do, where the call
`n` fails with `fault n`. -/
structure DbClient.Mirrors (client : DbClient) (canon : String → Except SystemError String)
    (fault : ℕ → Option SystemError) (s : DbState) : Prop where
  queryPhone : ∀ phoneNo countryCode,
    (client.queryPhone 0 phoneNo countryCode).map User.account =
      attempt (fault 0) (s.db.queryPhone phoneNo countryCode)
  queryUser : ∀ userID, (client.queryUser 0 userID).map User.account =
    attempt (fault 0) (s.db.queryUser canon userID)
  updateDevice : ∀ userID device, client.updateDevice 1 userID device =
    attempt ((fault 1).map fun _ => ⟨40000, "update user device failure"⟩) (.ok ())
  insertDevice : ∀ userID device, client.insertDevice 1 userID device =
    attempt ((fault 1).map fun _ => ⟨40001, "insert user device failure"⟩) (.ok ())
  findUUID : ∀ n uuid info, client.findUUID n uuid info =
    match fault n with
    | some e => (.error e, info)
    | none => (.ok (s.db.device uuid).isSome, s.db.findUUID uuid info)
  updateUUID : ∀ n info, client.updateUUID n info =
    attempt ((fault n).map fun _ => ⟨40031, "connection update failure"⟩) (.ok ())
  insertUUID : ∀ n info, client.insertUUID n info =
    if fault n = none ∧ (s.db.insertUUID info).isSome then .ok ()
    else .error ⟨40030, "connection insert failure"⟩
  unreadNodes : ∀ userid, (client.unreadNodes 3 userid).2 = fault 3

variable {canon : String → Except SystemError String} {fault : ℕ → Option SystemError}
  {s : DbState}

/-- The answers of such a client to the handlers of the connection. -/
theorem DbClient.Mirrors.answers_eq (h : client.Mirrors canon fault s) (userid uuid : String)
    (store : ConnectInfo → ConnectInfo) :
    client.answers userid uuid s.current store =
      dbAnswers canon userid uuid (client.unreadNodes 3 userid).1.length fault s := by
  rw [answers, dbAnswers, DbAnswers.mk.injEq]
  refine ⟨?_, ?_, h.updateUUID _ _, congrArg _ (h.unreadNodes userid)⟩
  · have hattempt : attempt (fault 0) ((s.db.queryUser canon userid).map Account.devices) =
        (attempt (fault 0) (s.db.queryUser canon userid)).map Account.devices := by
      cases fault 0 <;> rfl
    rw [hattempt, ← h.queryUser]
    cases client.queryUser 0 userid <;> rfl
  · rw [h.findUUID]
    cases fault 1 <;> rfl

/-- **A Logout** leaves in `connectInfo_`, and answers, what the model of the collections says. -/
theorem dispatchLogout_shows (h : client.Mirrors canon fault s) {logout : Logout}
    (hcalls : t.calls = 0) (hmounted : t.mounted = []) (hinfo : t.connectInfo = s.current) :
    let out := dispatchLogout canon logout t.sessionid fault s
    Ends (client.dispatchLogout logout) t
      (fun _ t' => t'.connectInfo = out.2.current ∧
        t'.mounted = [.self (match out.1 with
          | .ok uuid => .logoutRes uuid
          | .error e => errorResponse e)])
      fun _ _ => False := by
  intro out
  rw [DbClient.dispatchLogout, respond, catchSystem, ends_tryCatch]
  have hquery := h.queryUser logout.userid
  simp only [out, dispatchLogout, ← hquery]
  cases huser : client.queryUser 0 logout.userid with
  | error e => simp [DbClient.findDevice, ends_call, Except.map, *]
  | ok user =>
      simp only [Except.map, User.account, User.listsDevice_eq]
      cases hdevice : user.listsDevice logout.uuid with
      | false => simp [DbClient.findDevice, ends_call, ends_throwIf, errorResponse, *]
      | true =>
          cases hfind : fault 1 with
          | some e =>
              simp [DbClient.findDevice, ends_call, ends_throwIf, ends_findInfo, h.findUUID, *]
          | none =>
              cases hstore : fault 2 <;>
                simp [DbClient.findDevice, ends_call, ends_throwIf, ends_findInfo, ends_setInfo,
                  h.findUUID, h.updateUUID, attempt, ConnectInfo.logout, *]

/-- The store of a Login depends on the documents of the devices and on `connectInfo_`. -/
theorem storeLogin_congr {s' : DbState} (hdocs : s'.db.connectInfo = s.db.connectInfo)
    (hcurrent : s'.current = s.current) (login : Login) (userid : String)
    (fault : ℕ → Option SystemError) :
    (storeLogin login userid fault s').1 = (storeLogin login userid fault s).1 ∧
      (storeLogin login userid fault s').2.current =
        (storeLogin login userid fault s).2.current := by
  have hdevice : s'.db.device login.uuid = s.db.device login.uuid := by
    rw [DeviceDb.device, hdocs, DeviceDb.device]
  have hfound : s'.db.findUUID login.uuid s.current = s.db.findUUID login.uuid s.current := by
    rw [DeviceDb.findUUID, hdevice, DeviceDb.findUUID]
  simp only [storeLogin, hdevice, hcurrent, hfound, DeviceDb.insertUUID, hdocs]
  cases s.db.device login.uuid with
  | some doc => cases fault 3 <;> exact ⟨rfl, rfl⟩
  | none =>
      cases fault 3 with
      | some e => exact ⟨rfl, rfl⟩
      | none => cases insertUnique ConnectInfo.uuid _ s.db.connectInfo <;> exact ⟨rfl, rfl⟩

/-- A Login that is stored has logged in the user it is stored for. -/
theorem storeLogin_ok {login : Login} {userid id : String}
    (h : (storeLogin login userid fault s).1 = .ok id) : id = userid := by
  simp only [storeLogin] at h
  split at h
  · split at h
    · cases h
    · exact (Except.ok.inj h).symm
  · split at h
    · exact (Except.ok.inj h).symm
    · cases h

/-- Over a client that mirrors the collections, the calls that store the connect info of a
device do what `storeLogin` says. -/
theorem ends_storeLogin_mirrors (h : client.Mirrors canon fault s) (t : Turn) (login : Login)
    (userid : String) (hcalls : t.calls = 2) (hinfo : t.connectInfo = s.current)
    (hfind : fault 2 = none) {Q : Unit → Turn → Prop} {E : Thrown → Turn → Prop} :
    Ends (client.storeLogin userid login.uuid) t Q E ↔
      match (storeLogin login userid fault s).1 with
      | .ok _ => Q () (t.next.next.setInfo (storeLogin login userid fault s).2.current)
      | .error e =>
          E (.system e) (t.next.next.setInfo (storeLogin login userid fault s).2.current) := by
  have hturn : ∀ info info', ((t.setInfo info).next.setInfo info').next =
      t.next.next.setInfo info' := fun _ _ => rfl
  rw [DbClient.storeLogin, ends_bind, ends_findInfo, h.findUUID, hcalls, hfind, hinfo]
  simp only [storeLogin]
  cases hdoc : s.db.device login.uuid with
  | some doc =>
      have hfound := users_findUUID hdoc s.current
      cases hstore : fault 3 <;>
        simp [ends_call, ends_setInfo, h.updateUUID, attempt, Unique.forall_iff, *]
  | none =>
      have hsame : s.db.findUUID login.uuid s.current = s.current := by
        simp only [DeviceDb.findUUID, hdoc]
      cases hinsert : s.db.insertUUID
          (s.current.login login.uuid userid (addUser (fun _ => none) userid)) <;>
        cases hstore : fault 3 <;>
          simp [ends_call, ends_setInfo, h.insertUUID, Unique.forall_iff, *]

/-- The part of a Login that the model of the collections reads. -/
@[simps] def Chat.Login.toLogin (login : Chat.Login) : Yijian.Login where
  phoneNo := login.phoneno
  countryCode := login.countrycode
  password := login.password
  uuid := login.device.uuid

/-- What is mounted for a Login that has come to this, on a node with the uuid `uuid`: behind a
success also what its notifications come to. -/
def LoginAnswered (uuid : String) : Except SystemError String → List Mounted → Prop
  | .ok id, ms => ∃ rest, ms = .self (.loginRes true id uuid 0 "") :: rest
  | .error e, ms => ms = [.self (.loginRes false "" "" e.code e.what)]

/-- The device of a Login is stored as a new one or over the old one. -/
theorem DbClient.Mirrors.storeDevice_eq (h : client.Mirrors canon fault s) (user : User)
    (device : Device) :
    client.storeDevice 1 user device =
      attempt ((fault 1).map fun _ =>
        if user.listsDevice device.uuid then ⟨40000, "update user device failure"⟩
        else ⟨40001, "insert user device failure"⟩) (.ok ()) := by
  rw [DbClient.storeDevice, h.updateDevice, h.insertDevice]
  cases user.listsDevice device.uuid <;> rfl

/-- A new device of a user is no change of the devices that are stored. -/
theorem DbState.after_insertDevice (s : DbState) (known : Bool) (id uuid : String) :
    (if known then s else { s with db := s.db.insertDevice id uuid }).current = s.current ∧
      (if known then s else { s with db := s.db.insertDevice id uuid }).db.connectInfo =
        s.db.connectInfo := by
  cases known
  · exact ⟨rfl, rfl⟩
  · exact ⟨rfl, rfl⟩

/-- **A Login** leaves in `connectInfo_`, and answers, what the model of the collections says. -/
theorem dispatchLogin_shows (h : client.Mirrors canon fault s) {login : Chat.Login}
    (hcalls : t.calls = 0) (hmounted : t.mounted = []) (hinfo : t.connectInfo = s.current) :
    let out := dispatchLogin login.toLogin fault s
    Ends (client.dispatchLogin login) t
      (fun _ t' => t'.connectInfo = out.2.current ∧ LoginAnswered t.node.uuid out.1 t'.mounted)
      fun _ _ => False := by
  intro out
  rw [DbClient.dispatchLogin, catchSystem, ends_tryCatch]
  have hquery := h.queryPhone login.phoneno login.countrycode
  simp only [out, dispatchLogin, Chat.Login.toLogin_phoneNo, Chat.Login.toLogin_countryCode,
    Chat.Login.toLogin_password, Chat.Login.toLogin_uuid, ← hquery]
  cases huser : client.queryPhone 0 login.phoneno login.countrycode with
  | error e => simp [ends_call, Except.map, LoginAnswered, *]
  | ok user =>
      simp only [Except.map, User.account, User.listsDevice_eq]
      by_cases hpassword : user.password = login.password
      · have hdevice := h.storeDevice_eq user login.device
        generalize user.listsDevice login.device.uuid = known at hdevice ⊢
        cases hfault₁ : fault 1 with
        | some e => simp [ends_call, ends_throwIf, attempt, LoginAnswered, *]
        | none =>
            generalize hlisted : (if known then s
              else { s with db := s.db.insertDevice user.id login.device.uuid }) = s'
            have hsame := s.after_insertDevice known user.id login.device.uuid
            rw [hlisted] at hsame
            cases hfault₂ : fault 2 with
            | some e =>
                simp [ends_call, ends_throwIf, DbClient.storeLogin, ends_findInfo, h.findUUID,
                  attempt, LoginAnswered, *]
            | none =>
                have hends := ends_storeLogin_mirrors h t.next.next login.toLogin user.id
                have hcongr := storeLogin_congr hsame.2 hsame.1 login.toLogin user.id fault
                rw [Chat.Login.toLogin_uuid] at hends
                cases hstore : (storeLogin login.toLogin user.id fault s).1 with
                | error e =>
                    simp [ends_call, ends_throwIf, attempt, LoginAnswered, Unique.forall_iff, *]
                | ok id =>
                    obtain rfl := storeLogin_ok hstore
                    simp [ends_call, ends_throwIf, attempt, LoginAnswered, Unique.forall_iff,
                      DbClient.mountUser, ends_cursor, *]
      · simp [ends_call, ends_throwIf, LoginAnswered, *]

/-! ### The four handlers -/

/-- The handlers of the device, at the start of a dispatch, do what is said of them on the
collections of `s`: a Login and a Logout leave in `connectInfo_`, and answer, what the model of
the collections says, and a ClientConnect and a ClientDisConnect do to the current node, and
mount, what the model of the connection says of the answers of the collections. -/
structure DbClient.HandlesAs (client : DbClient) (canon : String → Except SystemError String)
    (fault : ℕ → Option SystemError) (s : DbState) (node : ReadIo) (sessionid peers : ℕ) :
    Prop where
  login : ∀ login : Chat.Login,
    Ends (client.dispatchLogin login) (.start s.current node sessionid peers)
      (fun _ t' => t'.connectInfo = (Yijian.dispatchLogin login.toLogin fault s).2.current ∧
        LoginAnswered node.uuid (Yijian.dispatchLogin login.toLogin fault s).1 t'.mounted)
      fun _ _ => False
  logout : ∀ logout : Logout,
    Ends (client.dispatchLogout logout) (.start s.current node sessionid peers)
      (fun _ t' =>
        t'.connectInfo = (Yijian.dispatchLogout canon logout sessionid fault s).2.current ∧
          t'.mounted = [.self (match (Yijian.dispatchLogout canon logout sessionid fault s).1 with
            | .ok uuid => .logoutRes uuid
            | .error e => errorResponse e)])
      fun _ _ => False
  connect : ∀ connect : ClientConnect,
    let answers := dbAnswers canon connect.userid connect.uuid
      (client.unreadNodes 3 connect.userid).1.length fault s
    Ends (client.dispatchClientConnect connect) (.start s.current node sessionid peers)
      (fun _ t' => ∃ replies, clientConnect connect answers node = some (t'.node, replies) ∧
        List.Forall₂ Mounted.Shows t'.mounted replies)
      fun _ _ => clientConnect connect answers node = none
  disconnect : ∀ disconnect : ClientDisConnect,
    let answers := dbAnswers canon disconnect.userid disconnect.uuid
      (client.unreadNodes 3 disconnect.userid).1.length fault s
    Ends (client.dispatchClientDisConnect disconnect) (.start s.current node sessionid peers)
      (fun _ t' => t'.node = node ∧
        List.Forall₂ Mounted.Shows t'.mounted (clientDisConnect disconnect answers))
      fun _ _ => False

/-- **The handlers over the collections**: whichever calls fail, they do what the models of the
collections and of the connection say. -/
theorem handlers_agree (h : client.Mirrors canon fault s) (node : ReadIo) (sessionid peers : ℕ) :
    client.HandlesAs canon fault s node sessionid peers where
  login _ := dispatchLogin_shows h rfl rfl rfl
  logout _ := dispatchLogout_shows h rfl rfl rfl
  connect connect := by
    rw [← h.answers_eq connect.userid connect.uuid (·.connect connect)]
    exact dispatchClientConnect_shows rfl rfl
  disconnect disconnect := by
    rw [← h.answers_eq disconnect.userid disconnect.uuid
      fun info => info.disconnect disconnect.userid sessionid]
    exact dispatchClientDisConnect_shows rfl rfl

/-- A user with the account, and nothing else. -/
def Account.user (account : Account) : User :=
  ⟨account.id, "", "", "", "", true, account.phoneNo, account.countryCode, account.password, 0, 1,
    [], [], [], account.devices.map fun uuid => ⟨0, "", "", uuid⟩⟩

/-- The user of an account has that account. -/
theorem Account.account_user (account : Account) : account.user.account = account := by
  simp [user, User.account, Function.comp_def]

/-- The client with the collections of `s` behind its calls. -/
def DbClient.mirror (client : DbClient) (canon : String → Except SystemError String)
    (fault : ℕ → Option SystemError) (s : DbState) : DbClient :=
  { client with
    queryPhone := fun n phoneNo countryCode =>
      (attempt (fault n) (s.db.queryPhone phoneNo countryCode)).map Account.user
    queryUser := fun n userID => (attempt (fault n) (s.db.queryUser canon userID)).map Account.user
    updateDevice := fun n _ _ =>
      attempt ((fault n).map fun _ => ⟨40000, "update user device failure"⟩) (.ok ())
    insertDevice := fun n _ _ =>
      attempt ((fault n).map fun _ => ⟨40001, "insert user device failure"⟩) (.ok ())
    findUUID := fun n uuid info =>
      match fault n with
      | some e => (.error e, info)
      | none => (.ok (s.db.device uuid).isSome, s.db.findUUID uuid info)
    updateUUID := fun n _ =>
      attempt ((fault n).map fun _ => ⟨40031, "connection update failure"⟩) (.ok ())
    insertUUID := fun n info =>
      if fault n = none ∧ (s.db.insertUUID info).isSome then .ok ()
      else .error ⟨40030, "connection insert failure"⟩
    unreadNodes := fun n userid => ((client.unreadNodes n userid).1, fault n) }

/-- The client that is made from the collections mirrors them. -/
theorem DbClient.mirrors_mirror (client : DbClient) (canon : String → Except SystemError String)
    (fault : ℕ → Option SystemError) (s : DbState) :
    (client.mirror canon fault s).Mirrors canon fault s := by
  have hmap (r : Except SystemError Account) : (r.map Account.user).map User.account = r := by
    cases r with
    | error e => rfl
    | ok account => exact congrArg Except.ok account.account_user
  constructor
  · exact fun _ _ => hmap _
  · exact fun _ => hmap _
  all_goals intros; rfl

/-- The collections with a user and the phone that the user is logged in on. -/
def onePhone : DbState where
  current := .empty
  db := ⟨[⟨idA, "", "", "", ["phone"]⟩],
    [{ ConnectInfo.empty with
      uuid := "phone"
      userid := idA
      islogin := true
      servername := serverName
      users := fun userid => if userid = idA then some 100 else none }]⟩

/-- The handlers over these collections, where the fourth call of each dispatch fails. -/
theorem handlers_agree_onePhone :
    (lostDevices.mirror .ok (failsAt 3) onePhone).HandlesAs .ok (failsAt 3) onePhone
      (ReadIo.new 0) 0 1 :=
  handlers_agree (lostDevices.mirrors_mirror .ok (failsAt 3) onePhone) (ReadIo.new 0) 0 1

end Yijian
