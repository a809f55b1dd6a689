import Yijian.Lib.Documents
import Yijian.Server

/-!
# The Devices of the Users

The collection `user` holds the devices that each user has logged in on, and the collection
`connectInfo` one document for each device: who logged in on it last, whether the login
holds, whether it is connected. Login, Logout, ClientConnect and ClientDisConnect keep these
documents; `devices` reads them to find the devices of a user.

`canon` is `bsoncxx::oid` of a string, back as a string. `fault n` is what the operation
number `n` of a handler on the database throws. `connectInfo_` belongs to the worker thread
and keeps what the last request has left in it.

## Convention

A document of a device is the record `ConnectInfo`, which is also what the thread has as
`connectInfo_`; the map of the users in it is a function. The first document with a uuid is the one
that is found and updated. Operations are numbered through a handler, reads included, and each may
throw before it has done anything. What they throw is any error of the driver, and the handlers
do not tell one from another. Object ids are texts in this module: `canon` takes a text to the id
that the driver makes of it and back to the text of this id, which is the same in lower case.
-/

namespace Yijian

open Documents

/-! ### The collections -/

/-- A document of the collection `user`, as far as devices go. -/
structure Account where
  id : String
  phoneNo : String
  countryCode : String
  password : String
  devices : List String

/-- The two collections. -/
structure DeviceDb where
  user : List Account
  connectInfo : List ConnectInfo

/-- The operation throws what it is told to. -/
def attempt {α : Type} (fault : Option SystemError) (r : Except SystemError α) :
    Except SystemError α :=
  match fault with
  | some e => .error e
  | none => r

/-- `SERVER_NAME`. -/
def serverName : String := "yijian_1"

/-- `queryUser` by phone. -/
def DeviceDb.queryPhone (db : DeviceDb) (phoneNo countryCode : String) :
    Except SystemError Account :=
  match findOne (fun user => user.countryCode == countryCode && user.phoneNo == phoneNo)
      db.user with
  | none => .error ⟨40002, "no this user"⟩
  | some user => .ok user

/-- `queryUser` by id. -/
def DeviceDb.queryUser (canon : String → Except SystemError String) (db : DeviceDb)
    (userID : String) : Except SystemError Account :=
  match canon userID with
  | .error e => .error e
  | .ok id =>
      match lookup Account.id id db.user with
      | none => .error ⟨40003, "no this user"⟩
      | some user => .ok user

/-- `insertDevice`. -/
def DeviceDb.insertDevice (db : DeviceDb) (userID uuid : String) : DeviceDb :=
  { db with
    user := updateOne (fun user => user.id == userID)
      (fun user => { user with devices := user.devices ++ [uuid] }) db.user }

/-- The document of a device. -/
def DeviceDb.device (db : DeviceDb) (uuid : String) : Option ConnectInfo :=
  lookup ConnectInfo.uuid uuid db.connectInfo

/-- `connectInfo_` after `findUUID`: three fields are not read, and nothing is where there is
no document. -/
def DeviceDb.findUUID (db : DeviceDb) (uuid : String) (current : ConnectInfo) : ConnectInfo :=
  match db.device uuid with
  | none => current
  | some doc =>
      { doc with
        servername := serverName
        clientversion := current.clientversion
        osversion := current.osversion
        appversion := current.appversion }

/-- `updateUUID`. -/
def DeviceDb.updateUUID (db : DeviceDb) (info : ConnectInfo) : DeviceDb :=
  { db with
    connectInfo := updateOne (fun doc => doc.uuid == info.uuid)
      (fun _ => { info with servername := serverName }) db.connectInfo }

/-- `insertUUID`; the index on `UUID` is unique. -/
def DeviceDb.insertUUID (db : DeviceDb) (info : ConnectInfo) : Option DeviceDb :=
  (insertUnique ConnectInfo.uuid { info with servername := serverName } db.connectInfo).map
    fun docs => { db with connectInfo := docs }

/-- `updateSessionID`. -/
def DeviceDb.updateSessionID (db : DeviceDb) (uuid userid : String) (sessionid : ℕ) :
    DeviceDb :=
  { db with
    connectInfo := updateOne (fun doc => doc.uuid == uuid && (doc.users userid).isSome)
      (fun doc => { doc with users := Function.update doc.users userid (some (sessionid : ℤ)) })
      db.connectInfo }

/-- `devices` of a user: the documents that `find` returns. -/
def DeviceDb.devices (db : DeviceDb) (touserid : String) : List ConnectInfo :=
  db.connectInfo.filter fun doc =>
    doc.userid == touserid && doc.servername == serverName && doc.islogin

/-! ### The handlers -/

/-- What a handler leaves of `connectInfo_` and of the collections. -/
structure DbState where
  current : ConnectInfo
  db : DeviceDb

/-- `chat::Login`; `uuid` is that of its device. -/
structure Login where
  phoneNo : String
  countryCode : String
  password : String
  uuid : String

/-- `connectInfo_` when a Login stores it. -/
def ConnectInfo.login (info : ConnectInfo) (uuid userid : String)
    (users : String → Option ℤ) : ConnectInfo :=
  { info with
    uuid := uuid
    userid := userid
    islogin := true
    isconnected := false
    isrecivenoti := false
    servername := serverName
    users := users }

/-- The users of a device with one more: a user that is there keeps its number. -/
def addUser (users : String → Option ℤ) (userid : String) : String → Option ℤ :=
  if (users userid).isSome then users
  else Function.update users userid (some (minSessionID : ℤ))

/-- The part of `dispatch(chat::Login&)` that stores the connect info of the device. -/
def storeLogin (login : Login) (userid : String) (fault : ℕ → Option SystemError)
    (s : DbState) : Except SystemError String × DbState :=
  match s.db.device login.uuid with
  | some doc =>
      let info := (s.db.findUUID login.uuid s.current).login login.uuid userid
        (addUser doc.users userid)
      match fault 3 with
      | some _ => (.error ⟨40031, "connection update failure"⟩, ⟨info, s.db⟩)
      | none => (.ok userid, ⟨info, s.db.updateUUID info⟩)
  | none =>
      let info := s.current.login login.uuid userid (addUser (fun _ => none) userid)
      match fault 3, s.db.insertUUID info with
      | none, some db => (.ok userid, ⟨info, db⟩)
      | _, _ => (.error ⟨40030, "connection insert failure"⟩, ⟨info, s.db⟩)

/-- `dispatch(chat::Login&)` up to its answer: the id of the user that has logged in, or
what it throws. -/
def dispatchLogin (login : Login) (fault : ℕ → Option SystemError) (s : DbState) :
    Except SystemError String × DbState :=
  match attempt (fault 0) (s.db.queryPhone login.phoneNo login.countryCode) with
  | .error e => (.error e, s)
  | .ok user =>
      if user.password = login.password then
        let known := user.devices.contains login.uuid
        match fault 1 with
        | some _ =>
            (.error (if known then ⟨40000, "update user device failure"⟩
              else ⟨40001, "insert user device failure"⟩), s)
        | none =>
            let s := if known then s else { s with db := s.db.insertDevice user.id login.uuid }
            match fault 2 with
            | some e => (.error e, s)
            | none => storeLogin login user.id fault s
      else (.error ⟨11001, "password or account error"⟩, s)

/-- `chat::Logout`. -/
structure Logout where
  userid : String
  uuid : String

/-- `dispatch(chat::Logout&)` up to its answer. -/
def dispatchLogout (canon : String → Except SystemError String) (logout : Logout)
    (sessionid : ℕ) (fault : ℕ → Option SystemError) (s : DbState) :
    Except SystemError String × DbState :=
  match attempt (fault 0) (s.db.queryUser canon logout.userid) with
  | .error e => (.error e, s)
  | .ok user =>
      if user.devices.contains logout.uuid then
        match fault 1 with
        | some e => (.error e, s)
        | none =>
            let found := s.db.findUUID logout.uuid s.current
            let info := { found with
              isconnected := false
              islogin := false
              users := Function.update found.users logout.uuid (some (sessionid : ℤ)) }
            match fault 2 with
            | some _ => (.error ⟨40031, "connection update failure"⟩, ⟨info, s.db⟩)
            | none => (.ok logout.uuid, ⟨info, s.db.updateUUID info⟩)
      else (.error ⟨11002, "device not find"⟩, s)

/-- What the database answers to a ClientConnect or a ClientDisConnect. -/
def dbAnswers (canon : String → Except SystemError String) (userid uuid : String)
    (unread : ℕ) (fault : ℕ → Option SystemError) (s : DbState) : DbAnswers where
  queryUser := attempt (fault 0) ((s.db.queryUser canon userid).map Account.devices)
  findUUID := attempt (fault 1) (.ok (s.db.findUUID uuid s.current))
  updateUUID :=
    attempt ((fault 2).map fun _ => ⟨40031, "connection update failure"⟩) (.ok ())
  unreadNodes := (unread, fault 3)

/-- The database after a ClientConnect with these answers, and whether it was stored. -/
def storeConnect (connect : ClientConnect) (answers : DbAnswers) (s : DbState) :
    Bool × DbState :=
  match answers.queryUser, answers.findUUID with
  | .ok devices, .ok found =>
      if devices.contains connect.uuid then
        match found.users connect.userid with
        | none => (false, { s with current := found })
        | some _ =>
            let info := found.connect connect
            match answers.updateUUID with
            | .error _ => (false, ⟨info, s.db⟩)
            | .ok () => (true, ⟨info, s.db.updateUUID info⟩)
      else (false, s)
  | _, _ => (false, s)

/-- The database after a ClientDisConnect with these answers, and whether it was stored. -/
def storeDisConnect (disconnect : ClientDisConnect) (sessionid : ℕ) (answers : DbAnswers)
    (s : DbState) : Bool × DbState :=
  match answers.queryUser, answers.findUUID with
  | .ok devices, .ok found =>
      if devices.contains disconnect.uuid then
        let info := { found with
          isconnected := false
          users := Function.update found.users disconnect.userid (some (sessionid : ℤ)) }
        match answers.updateUUID with
        | .error _ => (false, ⟨info, s.db⟩)
        | .ok () => (true, ⟨info, s.db.updateUUID info⟩)
      else (false, s)
  | _, _ => (false, s)

/-! ### What the handlers do to the documents -/

/-- What a document says about its device. -/
structure Presence where
  user : String
  isLogin : Bool
  isConnected : Bool
deriving DecidableEq

def ConnectInfo.presence (info : ConnectInfo) : Presence :=
  ⟨info.userid, info.islogin, info.isconnected⟩

/-- The documents of the devices: one for each, of this server. -/
structure DocsInv (db : DeviceDb) : Prop where
  nodup : (db.connectInfo.map ConnectInfo.uuid).Nodup
  server : ∀ doc ∈ db.connectInfo, doc.servername = serverName

/-- The collections are well formed: every device of every user has its document. -/
structure DbInv (db : DeviceDb) : Prop extends DocsInv db where
  devices : ∀ user ∈ db.user, ∀ uuid ∈ user.devices, (db.device uuid).isSome = true

/-- What the documents say about a device. -/
def DeviceDb.presence (db : DeviceDb) (uuid : String) : Option Presence :=
  (db.device uuid).map ConnectInfo.presence

/-- A device has a presence if it is stored. -/
theorem isSome_presence (db : DeviceDb) (uuid : String) :
    (db.presence uuid).isSome = (db.device uuid).isSome :=
  Option.isSome_map

/-! #### `updateUUID` -/

/-- Storing a connect info is seen under its uuid. -/
theorem device_updateUUID (db : DeviceDb) (info : ConnectInfo) (uuid : String) :
    (db.updateUUID info).device uuid =
      if uuid = info.uuid then (db.device uuid).map fun _ => { info with servername := serverName }
      else db.device uuid := by
  rw [DeviceDb.device, DeviceDb.updateUUID]
  exact lookup_updateOne (by intros; rfl) uuid db.connectInfo

/-- An update stores no new device. -/
theorem isSome_device_updateUUID (db : DeviceDb) (info : ConnectInfo) (uuid : String) :
    ((db.updateUUID info).device uuid).isSome = (db.device uuid).isSome := by
  rw [device_updateUUID]
  split
  · rw [Option.isSome_map]
  · rfl

/-- Storing a connect info keeps one document for each device. -/
theorem DocsInv.updateUUID {db : DeviceDb} (h : DocsInv db) (info : ConnectInfo) :
    DocsInv (db.updateUUID info) := by
  have hkeys : (db.updateUUID info).connectInfo.map ConnectInfo.uuid =
      db.connectInfo.map ConnectInfo.uuid := by
    refine map_updateOne (g := ConnectInfo.uuid) ?_ db.connectInfo
    intro doc hdoc
    exact (beq_iff_eq.mp hdoc).symm
  refine ⟨hkeys ▸ h.nodup, ?_⟩
  intro doc hdoc
  rcases mem_updateOne hdoc with hold | ⟨old, -, -, rfl⟩
  · exact h.server doc hold
  · rfl

/-- Storing a connect info keeps the collections well formed. -/
theorem DbInv.updateUUID {db : DeviceDb} (h : DbInv db) (info : ConnectInfo) :
    DbInv (db.updateUUID info) := by
  refine ⟨h.toDocsInv.updateUUID info, ?_⟩
  intro user huser uuid huuid
  rw [isSome_device_updateUUID]
  exact h.devices user huser uuid huuid

/-- Where the device has a document, storing a connect info sets its presence. -/
theorem presence_updateUUID {db : DeviceDb} {info doc : ConnectInfo}
    (hdoc : db.device info.uuid = some doc) :
    (db.updateUUID info).presence =
      Function.update db.presence info.uuid (some info.presence) := by
  funext uuid
  rw [DeviceDb.presence, device_updateUUID]
  by_cases h : uuid = info.uuid
  · subst h
    rw [if_pos rfl, hdoc, Function.update_self]
    rfl
  · rw [if_neg h, Function.update_of_ne h]
    rfl

/-- `connectInfo_` after `findUUID` says what the document says. -/
theorem findUUID_of_device {db : DeviceDb} {uuid : String} {doc : ConnectInfo}
    (hdoc : db.device uuid = some doc) (current : ConnectInfo) :
    (db.findUUID uuid current).uuid = uuid ∧
      (db.findUUID uuid current).presence = doc.presence := by
  have hkey : doc.uuid = uuid := key_of_lookup (κ := String) hdoc
  simp only [DeviceDb.findUUID, hdoc]
  exact ⟨hkey, rfl⟩

/-- The users that are found are the stored ones. -/
theorem users_findUUID {db : DeviceDb} {uuid : String} {doc : ConnectInfo}
    (hdoc : db.device uuid = some doc) (current : ConnectInfo) :
    (db.findUUID uuid current).users = doc.users := by
  simp only [DeviceDb.findUUID, hdoc]

/-- A handler that finds the connect info of a device, sets fields of it and stores it
again does the same to the presence of the device. -/
theorem presence_store {db : DeviceDb} {uuid : String} {doc info : ConnectInfo}
    {g : Presence → Presence} (current : ConnectInfo) (hdoc : db.device uuid = some doc)
    (huuid : info.uuid = (db.findUUID uuid current).uuid)
    (hg : info.presence = g (db.findUUID uuid current).presence) :
    (db.updateUUID info).presence =
      Function.update db.presence uuid ((db.presence uuid).map g) := by
  obtain ⟨hfound, hpresence⟩ := findUUID_of_device hdoc current
  rw [hfound] at huuid
  subst huuid
  rw [presence_updateUUID hdoc, hg, hpresence, DeviceDb.presence, hdoc]
  rfl

/-! #### `insertUUID` and `insertDevice` -/

/-- Where the device has no document, its connect info is inserted. -/
theorem insertUUID_of_device {db : DeviceDb} {info : ConnectInfo}
    (hdoc : db.device info.uuid = none) :
    db.insertUUID info = some { db with
      connectInfo := db.connectInfo ++ [{ info with servername := serverName }] } := by
  have hkey : info.uuid ∉ db.connectInfo.map ConnectInfo.uuid := lookup_eq_none_iff.mp hdoc
  rw [DeviceDb.insertUUID, insertUnique, if_neg hkey, Option.map_some]

/-- An inserted connect info is seen under its uuid. -/
theorem device_insertUUID {db db' : DeviceDb} {info : ConnectInfo}
    (hdoc : db.device info.uuid = none) (hinsert : db.insertUUID info = some db')
    (uuid : String) :
    db'.device uuid =
      if uuid = info.uuid then some { info with servername := serverName }
      else db.device uuid := by
  rw [insertUUID_of_device hdoc] at hinsert
  obtain rfl := Option.some.inj hinsert
  rw [DeviceDb.device, lookup_append_singleton]
  by_cases h : uuid = info.uuid
  · subst h
    rw [if_pos rfl, if_pos rfl]
    exact (congrArg (Option.or · _) hdoc).trans (Option.none_or)
  · rw [if_neg (Ne.symm h), if_neg h, Option.or_none]
    rfl

/-- A new device has a UUID of its own. -/
theorem DocsInv.insertUUID {db db' : DeviceDb} (h : DocsInv db) {info : ConnectInfo}
    (hdoc : db.device info.uuid = none) (hinsert : db.insertUUID info = some db') :
    DocsInv db' := by
  have hkey : info.uuid ∉ db.connectInfo.map ConnectInfo.uuid := lookup_eq_none_iff.mp hdoc
  rw [insertUUID_of_device hdoc] at hinsert
  obtain rfl := Option.some.inj hinsert
  constructor
  · rw [List.map_append, List.map_singleton, ← List.concat_eq_append]
    exact List.Nodup.concat hkey h.nodup
  · intro doc hdoc
    rcases List.mem_append.mp hdoc with hold | hnew
    · exact h.server doc hold
    · rw [List.mem_singleton.mp hnew]

/-- The devices of the users after `insertDevice`. -/
theorem mem_insertDevice {db : DeviceDb} {userID uuid uuid' : String} {user : Account}
    (huser : user ∈ (db.insertDevice userID uuid).user) (huuid : uuid' ∈ user.devices) :
    uuid' = uuid ∨ ∃ old ∈ db.user, uuid' ∈ old.devices := by
  rcases mem_updateOne huser with hold | ⟨old, hold, -, rfl⟩
  · exact .inr ⟨user, hold, huuid⟩
  · rcases List.mem_append.mp huuid with hmem | hmem
    · exact .inr ⟨old, hold, hmem⟩
    · exact .inl (List.mem_singleton.mp hmem)

/-! #### `updateSessionID` -/

/-- Storing the number of a message says nothing about the devices. -/
theorem presence_updateSessionID (db : DeviceDb) (uuid userid : String) (sessionid : ℕ) :
    (db.updateSessionID uuid userid sessionid).presence = db.presence := by
  funext uuid'
  rw [DeviceDb.presence, DeviceDb.device, DeviceDb.updateSessionID]
  exact map_lookup_updateOne (by intros; rfl) (by intros; rfl) uuid' db.connectInfo

/-- A number that is stored leaves the UUIDs. -/
theorem DocsInv.updateSessionID {db : DeviceDb} (h : DocsInv db) (uuid userid : String)
    (sessionid : ℕ) : DocsInv (db.updateSessionID uuid userid sessionid) := by
  have hkeys : (db.updateSessionID uuid userid sessionid).connectInfo.map ConnectInfo.uuid =
      db.connectInfo.map ConnectInfo.uuid := by
    rw [DeviceDb.updateSessionID]
    exact map_updateOne (by intros; rfl) db.connectInfo
  refine ⟨hkeys ▸ h.nodup, ?_⟩
  intro doc hdoc
  rcases mem_updateOne hdoc with hold | ⟨old, hold, -, rfl⟩
  · exact h.server doc hold
  · exact h.server old hold

/-- A number that is stored leaves the presence. -/
theorem DbInv.updateSessionID {db : DeviceDb} (h : DbInv db) (uuid userid : String)
    (sessionid : ℕ) : DbInv (db.updateSessionID uuid userid sessionid) := by
  refine ⟨h.toDocsInv.updateSessionID uuid userid sessionid, ?_⟩
  intro user huser uuid' huuid
  rw [← isSome_presence, presence_updateSessionID, isSome_presence]
  exact h.devices user huser uuid' huuid

/-- The number of a message goes under its user, in the document of its device. -/
theorem DocsInv.device_updateSessionID {db : DeviceDb} (h : DocsInv db)
    (uuid userid : String) (sessionid : ℕ) (uuid' : String) :
    (db.updateSessionID uuid userid sessionid).device uuid' =
      (db.device uuid').map fun doc =>
        if doc.uuid == uuid && (doc.users userid).isSome then
          { doc with users := Function.update doc.users userid (some (sessionid : ℤ)) }
        else doc := by
  rw [DeviceDb.device, DeviceDb.updateSessionID]
  refine lookup_updateOne_of_nodup (k := uuid) h.nodup ?_ (by intros; rfl) uuid'
  intro doc hdoc
  exact beq_iff_eq.mp (Bool.and_eq_true_iff.mp hdoc).1

/-! #### The handlers -/

/-- A device of a user that `queryUser` returns has a document. -/
theorem DbInv.device_of_query {db : DeviceDb} (h : DbInv db)
    {canon : String → Except SystemError String} {userID : String} {user : Account}
    (hquery : db.queryUser canon userID = .ok user) {uuid : String}
    (huuid : user.devices.contains uuid = true) : ∃ doc, db.device uuid = some doc := by
  rw [DeviceDb.queryUser] at hquery
  split at hquery
  · cases hquery
  · split at hquery
    · cases hquery
    · rename_i user' hlookup
      obtain rfl := Except.ok.inj hquery
      exact Option.isSome_iff_exists.mp
        (h.devices _ (mem_of_lookup hlookup) uuid (List.contains_iff_mem.mp huuid))

/-- A Logout without failing operations. -/
theorem dispatchLogout_spec {canon : String → Except SystemError String} {logout : Logout}
    {sessionid : ℕ} {s s' : DbState} (h : DbInv s.db) {r : Except SystemError String}
    (hrun : dispatchLogout canon logout sessionid (fun _ => none) s = (r, s')) :
    DbInv s'.db ∧ ((∃ e, r = .error e ∧ s'.db.presence = s.db.presence) ∨
      (r = .ok logout.uuid ∧ s'.db.presence = Function.update s.db.presence logout.uuid
        ((s.db.presence logout.uuid).map fun q =>
          { q with isLogin := false, isConnected := false }))) := by
  rw [dispatchLogout, attempt] at hrun
  cases hquery : s.db.queryUser canon logout.userid with
  | error e =>
      rw [hquery] at hrun
      obtain ⟨rfl, rfl⟩ := Prod.mk.inj hrun
      exact ⟨h, .inl ⟨e, rfl, rfl⟩⟩
  | ok user =>
      rw [hquery] at hrun
      simp only at hrun
      split at hrun
      · rename_i huuid
        obtain ⟨doc, hdoc⟩ := h.device_of_query hquery huuid
        obtain ⟨rfl, rfl⟩ := Prod.mk.inj hrun
        exact ⟨h.updateUUID _, .inr ⟨rfl, presence_store s.current hdoc rfl rfl⟩⟩
      · obtain ⟨rfl, rfl⟩ := Prod.mk.inj hrun
        exact ⟨h, .inl ⟨_, rfl, rfl⟩⟩

/-- A Login that stores the connect info of its device, which any user may have by then. -/
theorem storeLogin_spec {login : Login} {userid : String} {s s' : DbState}
    (hdocs : DocsInv s.db)
    (hdevices : ∀ user ∈ s.db.user, ∀ uuid ∈ user.devices,
      uuid = login.uuid ∨ (s.db.device uuid).isSome = true)
    {r : Except SystemError String}
    (hrun : storeLogin login userid (fun _ => none) s = (r, s')) :
    DbInv s'.db ∧ r = .ok userid ∧ s'.db.presence =
      Function.update s.db.presence login.uuid (some ⟨userid, true, false⟩) := by
  rw [storeLogin] at hrun
  cases hdoc : s.db.device login.uuid with
  | some doc =>
      rw [hdoc] at hrun
      obtain ⟨rfl, rfl⟩ := Prod.mk.inj hrun
      have hsome : (s.db.device login.uuid).isSome = true := Option.isSome_of_mem hdoc
      refine ⟨⟨hdocs.updateUUID _, ?_⟩, rfl, presence_updateUUID hdoc⟩
      intro user huser uuid huuid
      rw [isSome_device_updateUUID]
      rcases hdevices user huser uuid huuid with rfl | hold
      · exact hsome
      · exact hold
  | none =>
      rw [hdoc] at hrun
      generalize hinfo : s.current.login login.uuid userid _ = info at hrun
      have huuid : info.uuid = login.uuid := hinfo ▸ rfl
      have hpresence : info.presence = ⟨userid, true, false⟩ := hinfo ▸ rfl
      have hnone : s.db.device info.uuid = none := huuid.symm ▸ hdoc
      have hinsert := insertUUID_of_device hnone
      simp only [hinsert] at hrun
      obtain ⟨rfl, rfl⟩ := Prod.mk.inj hrun
      have hdevice := device_insertUUID hnone hinsert
      refine ⟨⟨hdocs.insertUUID hnone hinsert, ?_⟩, rfl, ?_⟩
      · intro user huser uuid hmem
        rw [hdevice]
        split
        · rfl
        · rename_i hne
          rcases hdevices user huser uuid hmem with rfl | hold
          · exact absurd huuid.symm hne
          · exact hold
      · funext uuid
        rw [DeviceDb.presence, hdevice, huuid]
        by_cases h : uuid = login.uuid
        · subst h
          rw [if_pos rfl, Function.update_self, ← hpresence]
          rfl
        · rw [if_neg h, Function.update_of_ne h]
          rfl

/-- A Login without failing operations. -/
theorem dispatchLogin_spec {login : Login} {s s' : DbState} (h : DbInv s.db)
    {r : Except SystemError String} (hrun : dispatchLogin login (fun _ => none) s = (r, s')) :
    DbInv s'.db ∧ ((∃ e, r = .error e ∧ s'.db.presence = s.db.presence) ∨
      ∃ userid, r = .ok userid ∧ s'.db.presence =
        Function.update s.db.presence login.uuid (some ⟨userid, true, false⟩)) := by
  rw [dispatchLogin, attempt] at hrun
  cases hquery : s.db.queryPhone login.phoneNo login.countryCode with
  | error e =>
      rw [hquery] at hrun
      obtain ⟨rfl, rfl⟩ := Prod.mk.inj hrun
      exact ⟨h, .inl ⟨e, rfl, rfl⟩⟩
  | ok user =>
      rw [hquery] at hrun
      simp only at hrun
      split at hrun
      · split at hrun
        · obtain ⟨hinv, hr, hpresence⟩ := storeLogin_spec h.toDocsInv
            (fun user huser uuid huuid => .inr (h.devices user huser uuid huuid)) hrun
          exact ⟨hinv, .inr ⟨user.id, hr, hpresence⟩⟩
        · have hdevices : ∀ owner ∈ (s.db.insertDevice user.id login.uuid).user,
              ∀ uuid ∈ owner.devices, uuid = login.uuid ∨ (s.db.device uuid).isSome = true := by
            intro owner howner uuid huuid
            rcases mem_insertDevice howner huuid with rfl | ⟨old, hold, hmem⟩
            · exact .inl rfl
            · exact .inr (h.devices old hold uuid hmem)
          have hdocs : DocsInv (s.db.insertDevice user.id login.uuid) := ⟨h.nodup, h.server⟩
          obtain ⟨hinv, hr, hpresence⟩ := storeLogin_spec hdocs hdevices hrun
          exact ⟨hinv, .inr ⟨user.id, hr, hpresence⟩⟩
      · obtain ⟨rfl, rfl⟩ := Prod.mk.inj hrun
        exact ⟨h, .inl ⟨_, rfl, rfl⟩⟩

/-- The devices of the user in the answers of the database have documents. -/
theorem DbInv.device_of_answers {s : DbState} (h : DbInv s.db)
    {canon : String → Except SystemError String} {userid uuid uuid' : String} {unread : ℕ}
    {devices : List String}
    (hquery : (dbAnswers canon userid uuid unread (fun _ => none) s).queryUser = .ok devices)
    (huuid : devices.contains uuid' = true) : ∃ doc, s.db.device uuid' = some doc := by
  cases huser : s.db.queryUser canon userid with
  | error e =>
      simp only [dbAnswers, attempt, huser, Except.map] at hquery
      cases hquery
  | ok user =>
      simp only [dbAnswers, attempt, huser, Except.map] at hquery
      obtain rfl := Except.ok.inj hquery
      exact h.device_of_query huser huuid

/-- A ClientConnect without failing operations. -/
theorem storeConnect_spec {canon : String → Except SystemError String}
    {connect : ClientConnect} {unread : ℕ} {s s' : DbState} (h : DbInv s.db) {stored : Bool}
    (hrun : storeConnect connect
      (dbAnswers canon connect.userid connect.uuid unread (fun _ => none) s) s = (stored, s')) :
    DbInv s'.db ∧ s'.db.presence =
      if stored then Function.update s.db.presence connect.uuid
        ((s.db.presence connect.uuid).map fun q => { q with isConnected := true })
      else s.db.presence := by
  rw [storeConnect] at hrun
  split at hrun
  · rename_i devices found hquery hfind
    obtain rfl := Except.ok.inj hfind
    split at hrun
    · rename_i huuid
      obtain ⟨doc, hdoc⟩ := h.device_of_answers hquery huuid
      split at hrun
      · obtain ⟨rfl, rfl⟩ := Prod.mk.inj hrun
        exact ⟨h, rfl⟩
      · split at hrun
        · rename_i hfault
          cases hfault
        · obtain ⟨rfl, rfl⟩ := Prod.mk.inj hrun
          exact ⟨h.updateUUID _, presence_store s.current hdoc rfl rfl⟩
    · obtain ⟨rfl, rfl⟩ := Prod.mk.inj hrun
      exact ⟨h, rfl⟩
  · obtain ⟨rfl, rfl⟩ := Prod.mk.inj hrun
    exact ⟨h, rfl⟩

/-- A ClientDisConnect without failing operations. -/
theorem storeDisConnect_spec {canon : String → Except SystemError String}
    {disconnect : ClientDisConnect} {sessionid unread : ℕ} {s s' : DbState} (h : DbInv s.db)
    {stored : Bool}
    (hrun : storeDisConnect disconnect sessionid
      (dbAnswers canon disconnect.userid disconnect.uuid unread (fun _ => none) s) s =
        (stored, s')) :
    DbInv s'.db ∧ s'.db.presence =
      if stored then Function.update s.db.presence disconnect.uuid
        ((s.db.presence disconnect.uuid).map fun q => { q with isConnected := false })
      else s.db.presence := by
  rw [storeDisConnect] at hrun
  split at hrun
  · rename_i devices found hquery hfind
    obtain rfl := Except.ok.inj hfind
    split at hrun
    · rename_i huuid
      obtain ⟨doc, hdoc⟩ := h.device_of_answers hquery huuid
      split at hrun
      · rename_i hfault
        cases hfault
      · obtain ⟨rfl, rfl⟩ := Prod.mk.inj hrun
        exact ⟨h.updateUUID _, presence_store s.current hdoc rfl rfl⟩
    · obtain ⟨rfl, rfl⟩ := Prod.mk.inj hrun
      exact ⟨h, rfl⟩
  · obtain ⟨rfl, rfl⟩ := Prod.mk.inj hrun
    exact ⟨h, rfl⟩

end Yijian
