import Yijian.Lib.Runs
import Yijian.StoredDocuments

/-!
# Documents Read Back

What is written by one function is read by another. The calls are followed by records of what
they have written, and each record is compared with what its query returns.

## Convention

"Reads back" means that the query returns the very values that the call was given, for users by id
and by phone, for nodes, messages and media by their keys, whatever other calls come in between.
The runs are of calls that succeed, since a call that throws promises nothing. What a query should
return is what the calls have said so far (`Written`): a device that is set again, or a member that
is added, changes the record. The condition is on the calls, and names the kinds that do not read
back. The invariant relates each collection to the record of what was written and
is kept by every call, those that do not read back included; only at the end is it read off which
queries can succeed.

## Main results

* `storeInv_step`: what documents and records have to do with each other, whatever the calls.
* `readBack_iff`: when everything reads back.
* `read_back_iff`: the runs of successful calls in which everything reads back.
* `not_read_back`: nodes and media never do, nor does the nickname of a device.
-/

namespace Yijian

open Bson Documents Runs

variable {ω : Type}

/-! ### Calls and records -/

/-- A call that writes, with the object ids that the driver gives. -/
inductive StoreCall (ω : Type)
  | insertUser (enroll : Register) (id : ω)
  | insertDevice (userID : String) (device : Device)
  | updateDevice (userID : String) (device : Device)
  | addFriend (addfrd : AddFriend) (nodeId msgId : ω)
  | createGroup (cGroup : CreateGroup) (obj_id : ω)
  | addMembers2Group (groupMember : GroupAddMember)
  | insertMessage (message : NodeMessage) (id : ω)
  | insertMedia (media : Media)

/-- What a call does to the collections. -/
def StoreCall.call [DecidableEq ω] (ids : ObjectIds ω) (db : DocumentDb ω) :
    StoreCall ω → Except SystemError (DocumentDb ω)
  | .insertUser enroll id => (MongoClient.insertUser ids enroll id db).map Prod.snd
  | .insertDevice userID device => MongoClient.insertDevice ids userID device db
  | .updateDevice userID device => MongoClient.updateDevice ids userID device db
  | .addFriend addfrd nodeId msgId =>
      (MongoClient.addFriend ids addfrd nodeId msgId db).map Prod.snd
  | .createGroup cGroup obj_id => (MongoClient.createGroup ids cGroup obj_id db).map Prod.snd
  | .addMembers2Group groupMember =>
      (MongoClient.addMembers2Group ids groupMember db).map Prod.snd
  | .insertMessage message id => (MongoClient.insertMessage ids message id db).map Prod.snd
  | .insertMedia media => MongoClient.insertMedia media db

/-- The records of what has been written, and are thus to be read. -/
structure Written where
  users : List User
  nodes : List MessageNode
  messages : List NodeMessage
  media : List Media

/-- A user that has registered. -/
def Register.user (ids : ObjectIds ω) (enroll : Register) (id : ω) : User :=
  ⟨ids.toText id, "", enroll.nickname, "", "", true, enroll.phoneno, enroll.countrycode,
    enroll.password, 0, 1, [], [], [], []⟩

/-- The user with the id. -/
def User.hasId (id : String) (user : User) : Bool := user.id == id

/-- A new device of a user. -/
def User.addDevice (device : Device) (user : User) : User :=
  { user with devices := user.devices ++ [device] }

/-- The device has the UUID. -/
def Device.hasUUID (uuid : String) (device : Device) : Bool := device.uuid == uuid

/-- The user has a device with the UUID. -/
def User.hasDevice (uuid : String) (user : User) : Bool := user.devices.any (Device.hasUUID uuid)

/-- Other data of a device of a user. -/
def User.setDevice (device : Device) (user : User) : User :=
  { user with devices := updateOne (Device.hasUUID device.uuid) (fun _ => device) user.devices }

/-- The node with the id. -/
def MessageNode.hasId (id : String) (node : MessageNode) : Bool := node.id == id

/-- More members of a node. -/
def MessageNode.addMembers (membersid : List String) (node : MessageNode) : MessageNode :=
  { node with members := node.members ++ membersid }

/-- The number of messages in a node. -/
def countIn (tonodeid : String) (messages : List NodeMessage) : ℕ :=
  messages.countP fun m => m.tonodeid == tonodeid

/-- The message with the next number of its node. -/
def Written.post (ids : ObjectIds ω) (message : NodeMessage) (id : ω) (w : Written) : Written :=
  { w with messages := w.messages ++
    [{ message with id := ids.toText id, incrementid := countIn message.tonodeid w.messages }] }

/-- What a call writes, by its arguments. -/
def Written.step (ids : ObjectIds ω) (w : Written) : StoreCall ω → Written
  | .insertUser enroll id => { w with users := w.users ++ [enroll.user ids id] }
  | .insertDevice userID device =>
      match ids.oid userID with
      | .error _ => w
      | .ok id =>
          { w with
            users := updateOne (User.hasId (ids.toText id)) (User.addDevice device) w.users }
  | .updateDevice userID device =>
      match ids.oid userID with
      | .error _ => w
      | .ok id =>
          { w with
            users := updateOne
              (fun user => user.hasId (ids.toText id) && user.hasDevice device.uuid)
              (User.setDevice device) w.users }
  | .addFriend addfrd nodeId msgId =>
      let node := ids.toText nodeId
      Written.post ids ⟨"", addfrd.inviterID, node, 0, mediaText, addfrd.msg⟩ msgId
        { w with nodes := w.nodes ++ [⟨node, MessageNode.peer, addfrd.inviterID, "", 1, [],
          [addfrd.inviterID, addfrd.inviteeID]⟩] }
  | .createGroup cGroup obj_id =>
      { w with nodes := w.nodes ++ [⟨ids.toText obj_id, MessageNode.peer, cGroup.userid,
        cGroup.nickname, 1, [], cGroup.membersid⟩] }
  | .addMembers2Group groupMember =>
      match ids.oid groupMember.tonodeid with
      | .error _ => w
      | .ok id =>
          { w with
            nodes := updateOne (MessageNode.hasId (ids.toText id))
              (MessageNode.addMembers groupMember.membersid) w.nodes }
  | .insertMessage message id => w.post ids message id
  | .insertMedia media => { w with media := w.media ++ [media] }

/-- The collections, and the records of what has been written to them. -/
structure StoreRun (ω : Type) where
  db : DocumentDb ω
  written : Written

/-- The empty collections. -/
def StoreRun.new : StoreRun ω := ⟨⟨[], [], [], [], [], [], []⟩, ⟨[], [], [], []⟩⟩

/-- The call succeeds. -/
def StoreOk [DecidableEq ω] (ids : ObjectIds ω) (s : StoreRun ω) (e : StoreCall ω) : Prop :=
  ∃ db, e.call ids s.db = .ok db

/-- One call. The runs are those of calls that succeed; what others leave behind is not
followed. -/
def storeStep [DecidableEq ω] (ids : ObjectIds ω) (s : StoreRun ω) (e : StoreCall ω) :
    StoreRun ω :=
  match e.call ids s.db with
  | .error _ => s
  | .ok db => ⟨db, s.written.step ids e⟩

/-- The two nodes are the same; of the members it does not matter how often they are there. -/
structure MessageNode.Same (node node' : MessageNode) : Prop where
  id : node.id = node'.id
  authorize : node.authorize = node'.authorize
  creatorid : node.creatorid = node'.creatorid
  nickname : node.nickname = node'.nickname
  members : ∀ userid, userid ∈ node.members ↔ userid ∈ node'.members

/-- A query of a range passes the message on. -/
def InRange (query : QueryMessage) (m : NodeMessage) : Prop :=
  query.tonodeid = m.tonodeid ∧ MongoClient.inRange query (some m.incrementid) = true

/-- Every record is what its query returns. -/
structure ReadBack [DecidableEq ω] (ids : ObjectIds ω) (s : StoreRun ω) : Prop where
  users : ∀ user ∈ s.written.users, MongoClient.queryUser ids user.id s.db = .ok user ∧
    MongoClient.queryUserOfPhone ids user.phoneno user.countrycode s.db = .ok user
  nodes : ∀ node ∈ s.written.nodes, ∃ read,
    MongoClient.queryNode ids node.id s.db = .ok read ∧ read.Same node
  messages : ∀ m ∈ s.written.messages,
    MongoClient.queryMessage ids m.tonodeid m.incrementid s.db = .ok m ∧
      ∀ query, InRange query m →
        ∃ read, MongoClient.queryMessages ids query s.db = .ok read ∧ m ∈ read
  media : ∀ media ∈ s.written.media, MongoClient.queryMedia media.md5 s.db = .ok media

/-- The condition on a call: it writes no node and no media, and a new device of a user has
no nickname. -/
def WritesBack [DecidableEq ω] (ids : ObjectIds ω) (s : StoreRun ω) : StoreCall ω → Prop
  | .insertUser _ _ => True
  | .insertDevice userID device =>
      (∃ id, ids.oid userID = .ok id ∧ ∃ doc ∈ s.db.user, isOid "_id" id doc = true) →
        device.devicenickname = ""
  | .updateDevice _ _ => True
  | .addFriend _ _ _ => False
  | .createGroup _ _ => False
  | .addMembers2Group _ => True
  | .insertMessage _ _ => True
  | .insertMedia _ => False

/-! ### Documents of users -/

/-- What reads as a user has its id, its phone number and its devices. -/
theorem fields_of_userDocoument {ids : ObjectIds ω} {view : Fields ω} {user : User}
    (h : userDocoument ids view = .ok user) :
    (∃ id, oidOf "_id" view = some id ∧ user.id = ids.toText id) ∧
      (textOf "phoneNo" view = some user.phoneno ∧
        textOf "countryCode" view = some user.countrycode) ∧
      readArray deviceElement "devices" view = .ok user.devices := by
  simp only [userDocoument, userNodocNoarr, bind_eq_ok] at h
  obtain ⟨_, ⟨id, hid, _, -, _, -, _, -, _, -, _, -, cc, hcc, phone, hphone, _, -, _, -, _, -,
    hrest⟩, _, -, _, -, _, -, devices, hdevices, huser⟩ := h
  obtain rfl := Except.ok.inj hrest
  obtain rfl := Except.ok.inj huser
  exact ⟨⟨id, oidOf_of_getOid hid, rfl⟩, ⟨textOf_of_getUtf8 hphone, textOf_of_getUtf8 hcc⟩,
    hdevices⟩

/-- A user after an update of the devices. -/
theorem userDocoument_of_devices {ids : ObjectIds ω} {view view' : Fields ω} {user : User}
    (h : userDocoument ids view = .ok user)
    (hframe : ∀ other, "devices" ≠ other → get other view' = get other view)
    {devices : List Device} (hdevices : readArray deviceElement "devices" view' = .ok devices) :
    userDocoument ids view' = .ok { user with devices := devices } := by
  have hrest : userNodocNoarr ids view' = userNodocNoarr ids view := by
    simp (disch := decide) only [userNodocNoarr, getOid, getUtf8, getBool, getInt32, hframe]
  have harray : ∀ {α : Type} (f : Value ω → Except ElementError α) (name : String),
      "devices" ≠ name → readArray f name view' = readArray f name view := by
    intro α f name hne
    rw [readArray, getArray, hframe name hne, readArray, getArray]
  simp only [userDocoument, bind_eq_ok] at h ⊢
  obtain ⟨rest, huser, friends, hfriends, blacklist, hblacklist, groups, hgroups, _, -,
    hrfl⟩ := h
  obtain rfl := Except.ok.inj hrfl
  exact ⟨rest, hrest ▸ huser, friends, (harray _ _ (by decide)).trans hfriends, blacklist,
    (harray _ _ (by decide)).trans hblacklist, groups, (harray _ _ (by decide)).trans hgroups,
    devices, hdevices, rfl⟩

/-- A device element has the UUID that is read from it. -/
theorem matchesElement_of_deviceElement {uuid : String} {v : Value ω} {device : Device}
    (h : deviceElement v = .ok device) :
    matchesElement (isText "UUID" uuid) v = Device.hasUUID uuid device := by
  cases v with
  | document fields =>
      have hdevice : deviceDocument fields = .ok device := h
      simp only [deviceDocument, bind_eq_ok] at hdevice
      obtain ⟨os, -, model, -, nickname, -, uuid', huuid, hrfl⟩ := hdevice
      obtain rfl := Except.ok.inj hrfl
      rw [matchesElement, isText, textOf_of_getUtf8 huuid, Device.hasUUID, Bool.eq_iff_iff,
        decide_eq_true_iff, beq_iff_eq, Option.some.injEq]
  | _ => cases h

/-- What is read is the user, but for the nicknames of the devices. -/
structure User.Like (read user : User) : Prop where
  id : read.id = user.id
  phone : read.phoneno = user.phoneno ∧ read.countrycode = user.countrycode
  devices : read.devices.map Device.uuid = user.devices.map Device.uuid

/-- A user is like itself. -/
theorem User.Like.refl (user : User) : user.Like user := ⟨rfl, ⟨rfl, rfl⟩, rfl⟩

/-- The document reads as the user, but for the nicknames of the devices. -/
def ReadsLike (ids : ObjectIds ω) (view : Fields ω) (user : User) : Prop :=
  ∃ read, userDocoument ids view = .ok read ∧ read.Like user

variable [DecidableEq ω]

/-- A filter by id finds the document of the user with the id. -/
theorem ReadsLike.isOid {ids : ObjectIds ω} {view : Fields ω} {user : User}
    (h : ReadsLike ids view user) (id : ω) :
    isOid "_id" id view = user.hasId (ids.toText id) := by
  obtain ⟨read, hread, hlike⟩ := h
  obtain ⟨⟨id', hid', hreadid⟩, -, -⟩ := fields_of_userDocoument hread
  rw [Bson.isOid, hid', User.hasId, ← hlike.id, hreadid, Bool.eq_iff_iff, decide_eq_true_iff,
    beq_iff_eq, Option.some.injEq, ids.toText_inj]

omit [DecidableEq ω] in
/-- A filter by UUID finds the document of the user with the device. -/
theorem ReadsLike.hasElement {ids : ObjectIds ω} {view : Fields ω} {user : User}
    (h : ReadsLike ids view user) (uuid : String) :
    hasElement "devices" (isText "UUID" uuid) view = user.hasDevice uuid := by
  obtain ⟨read, hread, hlike⟩ := h
  obtain ⟨-, -, hdevices⟩ := fields_of_userDocoument hread
  have hany : ∀ devices : List Device,
      devices.any (Device.hasUUID uuid) = (devices.map Device.uuid).any (· == uuid) := by
    intro devices
    rw [List.any_map]
    rfl
  rw [hasElement_eq_any hdevices fun v device hv => matchesElement_of_deviceElement hv,
    User.hasDevice, hany, hlike.devices, ← hany]

/-! ### Users -/

/-- What the unique index on phone numbers sees. -/
def phoneKey (doc : Fields ω) : Option String × Option String :=
  (textOf "countryCode" doc, textOf "phoneNo" doc)

/-- The documents read as the users, but for nicknames, and the unique indexes are enforced. -/
structure UsersInv (ids : ObjectIds ω) (docs : List (Fields ω)) (users : List User) : Prop where
  like : List.Forall₂ (ReadsLike ids) docs users
  ids_unique : (docs.map (oidOf "_id")).Nodup
  phones_unique : (docs.map phoneKey).Nodup

/-- The documents read as the users. -/
def UsersRead (ids : ObjectIds ω) (docs : List (Fields ω)) (users : List User) : Prop :=
  List.Forall₂ (fun view user => userDocoument ids view = .ok user) docs users

/-- Users read back if their documents read as they are. -/
theorem UsersInv.readBack_iff {ids : ObjectIds ω} {db : DocumentDb ω} {users : List User}
    (h : UsersInv ids db.user users) :
    (∀ user ∈ users, MongoClient.queryUser ids user.id db = .ok user ∧
        MongoClient.queryUserOfPhone ids user.phoneno user.countrycode db = .ok user) ↔
      UsersRead ids db.user users := by
  refine forall_mem_iff_forall₂ h.like fun view hview user hlike => ?_
  obtain ⟨read, hread, hlike⟩ := hlike
  obtain ⟨⟨id, hid, hreadid⟩, ⟨hphone, hcountry⟩, -⟩ := fields_of_userDocoument hread
  have hfind : findOne (isOid "_id" id) db.user = some view :=
    (lookup_eq_some_iff h.ids_unique).mpr ⟨hview, hid⟩
  have hphones : findOne (fun doc => isText "countryCode" user.countrycode doc &&
      isText "phoneNo" user.phoneno doc) db.user = some view := by
    refine (findOne_pair _ _ _).trans ((lookup_eq_some_iff h.phones_unique).mpr ⟨hview, ?_⟩)
    rw [phoneKey, hphone, hcountry, hlike.phone.1, hlike.phone.2]
  have hquery : MongoClient.queryUser ids user.id db =
      (userDocoument ids view).mapError .element := by
    rw [MongoClient.queryUser, ← hlike.id, hreadid, ids.oid_toText]
    simp only [Except.mapError, bind, Except.bind, hfind]
  have hqueryPhone : MongoClient.queryUserOfPhone ids user.phoneno user.countrycode db =
      (userDocoument ids view).mapError .element := by
    rw [MongoClient.queryUserOfPhone, hphones]
  rw [hquery, hqueryPhone, mapError_eq_ok, and_self]

/-- A new user is read as it was written. -/
theorem UsersInv.insertUser {ids : ObjectIds ω} {enroll : Register} {id : ω} {db db' : DocumentDb ω}
    {r : String} {users : List User} (h : UsersInv ids db.user users)
    (hcall : MongoClient.insertUser ids enroll id db = .ok (r, db')) :
    ∃ docs, db' = { db with user := docs } ∧ UsersInv ids docs (users ++ [enroll.user ids id]) ∧
      (UsersRead ids db.user users → UsersRead ids docs (users ++ [enroll.user ids id])) := by
  simp only [MongoClient.insertUser, mapError_eq_ok, bind_eq_ok, insertDoc_ok] at hcall
  obtain ⟨docs, ⟨hfree, rfl⟩, hrfl⟩ := hcall
  obtain ⟨rfl, rfl⟩ := Prod.mk.inj (Except.ok.inj hrfl)
  refine ⟨_, rfl, ⟨?_, ?_, ?_⟩, fun hread => List.rel_append hread (.cons rfl .nil)⟩
  · exact List.rel_append h.like (.cons ⟨_, rfl, User.Like.refl _⟩ .nil)
  · refine nodup_append_singleton h.ids_unique fun d hd heq => hfree d hd ?_
    rw [Bool.or_eq_true]
    exact .inl (decide_eq_true heq)
  · refine nodup_append_singleton h.phones_unique fun d hd heq => hfree d hd ?_
    obtain ⟨hcountry, hphone⟩ := Prod.mk.inj heq
    rw [Bool.or_eq_true, Bool.and_eq_true]
    exact .inr ⟨decide_eq_true hphone, decide_eq_true hcountry⟩

omit [DecidableEq ω] in
/-- An update of the devices is not seen by the indexes. -/
theorem UsersInv.updateDevices {ids : ObjectIds ω} {docs docs' : List (Fields ω)}
    {users users' : List User} (h : UsersInv ids docs users) {p : Fields ω → Bool}
    {f : Fields ω → Option (Fields ω)} (hdocs : updateDoc p f docs = .ok docs')
    (hf : ∀ doc doc', f doc = some doc' →
      ∀ other, "devices" ≠ other → get other doc' = get other doc)
    (hlike : List.Forall₂ (ReadsLike ids) docs' users') : UsersInv ids docs' users' := by
  refine ⟨hlike, ?_, ?_⟩
  · rw [map_updateDoc (fun doc doc' hdoc' => ?_) hdocs]
    · exact h.ids_unique
    · rw [oidOf, hf doc doc' hdoc' _ (by decide), oidOf]
  · rw [map_updateDoc (fun doc doc' hdoc' => ?_) hdocs]
    · exact h.phones_unique
    · rw [phoneKey, textOf, textOf, hf doc doc' hdoc' _ (by decide),
        hf doc doc' hdoc' _ (by decide), phoneKey, textOf, textOf]

omit [DecidableEq ω] in
/-- A user after a new device. -/
theorem userDocoument_push {ids : ObjectIds ω} {view view' : Fields ω} {user : User}
    {v : Value ω} {device : Device} (h : userDocoument ids view = .ok user)
    (hv : deviceElement v = .ok device) (hview' : push "devices" v view = some view') :
    userDocoument ids view' = .ok (user.addDevice device) := by
  obtain ⟨-, -, hdevices⟩ := fields_of_userDocoument h
  obtain ⟨doc', hpush, hread, hframe⟩ := readArray_push hdevices hv
  obtain rfl := Option.some.inj (hpush.symm.trans hview')
  exact userDocoument_of_devices h hframe hread

omit [DecidableEq ω] in
/-- A user after an update of a device. -/
theorem userDocoument_setMatched {ids : ObjectIds ω} {view view' : Fields ω} {user : User}
    {v : Value ω} {device : Device} (h : userDocoument ids view = .ok user)
    (hv : deviceElement v = .ok device)
    (hview' : setMatched "devices" (isText "UUID" device.uuid) v view = some view') :
    userDocoument ids view' = .ok (user.setDevice device) := by
  obtain ⟨-, -, hdevices⟩ := fields_of_userDocoument h
  have helement : ∀ (v : Value ω) (device' : Device), deviceElement v = .ok device' →
      matchesElement (isText "UUID" device.uuid) v = Device.hasUUID device.uuid device' :=
    fun _ _ => matchesElement_of_deviceElement
  obtain ⟨doc', hset, hread, hframe⟩ := readArray_setMatched hdevices helement hv
  obtain rfl := Option.some.inj (hset.symm.trans hview')
  exact userDocoument_of_devices h hframe hread

/-- Users that are alike stay so with devices of one UUID. -/
theorem User.Like.addDevice {read user : User} (h : read.Like user) {device device' : Device}
    (huuid : device'.uuid = device.uuid) :
    (read.addDevice device').Like (user.addDevice device) := by
  refine ⟨h.id, h.phone, ?_⟩
  rw [User.addDevice, User.addDevice, List.map_append, List.map_append, h.devices,
    List.map_singleton, List.map_singleton, huuid]

/-- Other data of a device leave its UUID. -/
theorem User.map_uuid_setDevice (user : User) (device : Device) :
    (user.setDevice device).devices.map Device.uuid = user.devices.map Device.uuid := by
  refine map_updateOne (fun d hd => ?_) user.devices
  exact (beq_iff_eq.mp hd).symm

/-- Users that are alike stay so with the same data of a device. -/
theorem User.Like.setDevice {read user : User} (h : read.Like user) (device : Device) :
    (read.setDevice device).Like (user.setDevice device) :=
  ⟨h.id, h.phone, by rw [User.map_uuid_setDevice, User.map_uuid_setDevice, h.devices]⟩

/-- **A new device** is read without its nickname. -/
theorem UsersInv.push {ids : ObjectIds ω} {docs docs' : List (Fields ω)} {users : List User}
    (h : UsersInv ids docs users) {id : ω} {v : Value ω} {device : Device}
    (hv : deviceElement v = .ok { device with devicenickname := "" })
    (hdocs : updateDoc (isOid "_id" id) (Bson.push "devices" v) docs = .ok docs') :
    UsersInv ids docs' (updateOne (User.hasId (ids.toText id)) (User.addDevice device) users) ∧
      (UsersRead ids docs users →
        (UsersRead ids docs'
            (updateOne (User.hasId (ids.toText id)) (User.addDevice device) users) ↔
          ((∃ doc ∈ docs, isOid "_id" id doc = true) → device.devicenickname = ""))) := by
  have hmatch : ∀ view user, ReadsLike ids view user →
      isOid "_id" id view = user.hasId (ids.toText id) := fun view user hlike => hlike.isOid id
  have hmatch' : ∀ view user, userDocoument ids view = .ok user →
      isOid "_id" id view = user.hasId (ids.toText id) :=
    fun view user hread => hmatch view user ⟨user, hread, .refl user⟩
  rcases updateDoc_ok hdocs with ⟨hnone, rfl⟩ | ⟨doc, doc', hdoc, hdoc', rfl⟩
  · have hnobody : users.find? (User.hasId (ids.toText id)) = none := by
      rcases forall₂_find h.like hmatch with ⟨-, hnone'⟩ | ⟨doc, user, hsome, -⟩
      · exact hnone'
      · cases hnone.symm.trans hsome
    rw [updateOne_of_find_eq_none hnobody]
    refine ⟨h, fun hread => iff_of_true hread fun ⟨doc, hmem, hid⟩ => ?_⟩
    exact absurd hid (List.find?_eq_none.mp hnone doc hmem)
  · have hthere : ∃ doc ∈ docs, isOid "_id" id doc = true :=
      ⟨doc, List.mem_of_find?_eq_some hdoc, List.find?_some hdoc⟩
    refine ⟨h.updateDevices hdocs (fun _ _ hview' _ hne => get_of_push hne hview') ?_, ?_⟩
    · refine (forall₂_updateOne_iff h.like hmatch).mpr fun view user hview _ hlike => ?_
      obtain rfl := Option.some.inj (hdoc.symm.trans hview)
      obtain ⟨read, hread, hlike⟩ := hlike
      exact ⟨_, userDocoument_push hread hv hdoc', hlike.addDevice rfl⟩
    · intro hread
      rw [UsersRead, forall₂_updateOne_iff hread hmatch', imp_iff_right hthere]
      constructor
      · intro hnew
        rcases forall₂_find hread hmatch' with ⟨hnone, -⟩ | ⟨view, user, hview, huser, hreads⟩
        · cases hnone.symm.trans hdoc
        · obtain rfl := Option.some.inj (hdoc.symm.trans hview)
          have heq := (hnew doc user hdoc huser hreads).symm.trans
            (userDocoument_push hreads hv hdoc')
          have hdevices := congrArg User.devices (Except.ok.inj heq)
          have hdevice := List.singleton_inj.mp (List.append_cancel_left hdevices)
          exact congrArg Device.devicenickname hdevice
      · intro hempty view user hview _ hreads
        obtain rfl := Option.some.inj (hdoc.symm.trans hview)
        have hdevice : { device with devicenickname := "" } = device := by rw [← hempty]
        exact hdevice ▸ userDocoument_push hreads hv hdoc'

/-- Other data of a device are read as they are. -/
theorem UsersInv.setMatched {ids : ObjectIds ω} {docs docs' : List (Fields ω)} {users : List User}
    (h : UsersInv ids docs users) {id : ω} {v : Value ω} {device : Device}
    (hv : deviceElement v = .ok device)
    (hdocs : updateDoc
      (fun user => isOid "_id" id user && hasElement "devices" (isText "UUID" device.uuid) user)
      (Bson.setMatched "devices" (isText "UUID" device.uuid) v) docs = .ok docs') :
    UsersInv ids docs' (updateOne
        (fun user => user.hasId (ids.toText id) && user.hasDevice device.uuid)
        (User.setDevice device) users) ∧
      (UsersRead ids docs users → UsersRead ids docs' (updateOne
        (fun user => user.hasId (ids.toText id) && user.hasDevice device.uuid)
        (User.setDevice device) users)) := by
  have hmatch : ∀ view user, ReadsLike ids view user →
      (isOid "_id" id view && hasElement "devices" (isText "UUID" device.uuid) view) =
        (user.hasId (ids.toText id) && user.hasDevice device.uuid) := by
    intro view user hlike
    rw [hlike.isOid, hlike.hasElement]
  have hmatch' := fun view user (hread : userDocoument ids view = .ok user) =>
    hmatch view user ⟨user, hread, .refl user⟩
  rcases updateDoc_ok hdocs with ⟨hnone, rfl⟩ | ⟨doc, doc', hdoc, hdoc', rfl⟩
  · have hnobody : users.find? (fun user =>
        user.hasId (ids.toText id) && user.hasDevice device.uuid) = none := by
      rcases forall₂_find h.like hmatch with ⟨-, hnone'⟩ | ⟨doc, user, hsome, -⟩
      · exact hnone'
      · cases hnone.symm.trans hsome
    rw [updateOne_of_find_eq_none hnobody]
    exact ⟨h, fun hread => hread⟩
  · have hframe : ∀ view view', Bson.setMatched "devices" (isText "UUID" device.uuid) v view =
        some view' → ∀ other, "devices" ≠ other → get other view' = get other view :=
      fun _ _ hview' _ hne => get_of_setMatched hne hview'
    refine ⟨h.updateDevices hdocs hframe ?_, fun hread => ?_⟩
    · refine (forall₂_updateOne_iff h.like hmatch).mpr fun view user hview _ hlike => ?_
      obtain rfl := Option.some.inj (hdoc.symm.trans hview)
      obtain ⟨read, hread, hlike⟩ := hlike
      exact ⟨_, userDocoument_setMatched hread hv hdoc', hlike.setDevice device⟩
    · refine (forall₂_updateOne_iff hread hmatch').mpr fun view user hview _ hreads => ?_
      obtain rfl := Option.some.inj (hdoc.symm.trans hview)
      exact userDocoument_setMatched hreads hv hdoc'

/-- `insertDevice`, on the users. -/
theorem UsersInv.insertDevice {ids : ObjectIds ω} {userID : String} {device : Device}
    {db db' : DocumentDb ω} {users : List User} (h : UsersInv ids db.user users)
    (hcall : MongoClient.insertDevice ids userID device db = .ok db') :
    ∃ id docs, ids.oid userID = .ok id ∧ db' = { db with user := docs } ∧
      UsersInv ids docs
        (updateOne (User.hasId (ids.toText id)) (User.addDevice device) users) ∧
      (UsersRead ids db.user users →
        (UsersRead ids docs
            (updateOne (User.hasId (ids.toText id)) (User.addDevice device) users) ↔
          ((∃ doc ∈ db.user, isOid "_id" id doc = true) → device.devicenickname = ""))) := by
  simp only [MongoClient.insertDevice, mapError_eq_ok, bind_eq_ok] at hcall
  obtain ⟨id, hid, docs, hdocs, hrfl⟩ := hcall
  obtain rfl := Except.ok.inj hrfl
  exact ⟨id, docs, hid, rfl, h.push rfl hdocs⟩

/-- `updateDevice`, on the users. -/
theorem UsersInv.updateDevice {ids : ObjectIds ω} {userID : String} {device : Device}
    {db db' : DocumentDb ω} {users : List User} (h : UsersInv ids db.user users)
    (hcall : MongoClient.updateDevice ids userID device db = .ok db') :
    ∃ id docs, ids.oid userID = .ok id ∧ db' = { db with user := docs } ∧
      UsersInv ids docs (updateOne
        (fun user => user.hasId (ids.toText id) && user.hasDevice device.uuid)
        (User.setDevice device) users) ∧
      (UsersRead ids db.user users → UsersRead ids docs (updateOne
        (fun user => user.hasId (ids.toText id) && user.hasDevice device.uuid)
        (User.setDevice device) users)) := by
  simp only [MongoClient.updateDevice, mapError_eq_ok, bind_eq_ok] at hcall
  obtain ⟨id, hid, docs, hdocs, hrfl⟩ := hcall
  obtain rfl := Except.ok.inj hrfl
  exact ⟨id, docs, hid, rfl, h.setMatched rfl hdocs⟩

/-! ### Documents of messages -/

/-- What the unique index on messages sees. -/
def messageKey (doc : Fields ω) : Option String × Option ℤ :=
  (textOf "toNodeID" doc, numberOf "incrementID" doc)

omit [DecidableEq ω] in
/-- What reads as a message is found by its node and its number. -/
theorem messageKey_of_nodemessageDocument {ids : ObjectIds ω} {view : Fields ω} {m : NodeMessage}
    (h : nodemessageDocument ids view = .ok m) :
    messageKey view = (some m.tonodeid, some m.incrementid) := by
  simp only [nodemessageDocument, bind_eq_ok] at h
  obtain ⟨id, -, _, -, n, hn, k, hk, _, -, _, -, hrfl⟩ := h
  obtain rfl := Except.ok.inj hrfl
  rw [messageKey, textOf_of_getUtf8 hn, numberOf_of_getInt32 hk]

/-- The documents read as the messages, the unique index is enforced, and the count of a node
is the number of its messages. -/
structure MessagesInv (ids : ObjectIds ω) (counts docs : List (Fields ω))
    (messages : List NodeMessage) : Prop where
  reads : List.Forall₂ (fun view m => nodemessageDocument ids view = .ok m) docs messages
  unique : (docs.map messageKey).Nodup
  counts : ∀ n, (lookup (textOf "nodeID") (some n) counts).elim (countIn n messages = 0)
    fun doc => numberOf "count" doc = some (countIn n messages : ℤ)

omit [DecidableEq ω] in
/-- Every message is what its queries return. -/
theorem MessagesInv.readBack {ids : ObjectIds ω} {db : DocumentDb ω} {messages : List NodeMessage}
    (h : MessagesInv ids db.messageNodeCount db.nodeMessage messages) {m : NodeMessage}
    (hm : m ∈ messages) :
    MongoClient.queryMessage ids m.tonodeid m.incrementid db = .ok m ∧
      ∀ query, InRange query m →
        ∃ read, MongoClient.queryMessages ids query db = .ok read ∧ m ∈ read := by
  have hview : ∃ view ∈ db.nodeMessage, nodemessageDocument ids view = .ok m := by
    obtain ⟨i, hi, rfl⟩ := List.mem_iff_getElem.mp hm
    obtain ⟨hlength, hget⟩ := List.forall₂_iff_get.mp h.reads
    exact ⟨_, List.getElem_mem (hlength ▸ hi), hget i (hlength ▸ hi) hi⟩
  obtain ⟨view, hview, hread⟩ := hview
  have hkey := messageKey_of_nodemessageDocument hread
  constructor
  · have hfind : findOne (fun doc => isText "toNodeID" m.tonodeid doc &&
        isNumber "incrementID" m.incrementid doc) db.nodeMessage = some view :=
      (findOne_pair _ _ _).trans ((lookup_eq_some_iff h.unique).mpr ⟨hview, hkey⟩)
    rw [MongoClient.queryMessage, hfind]
    exact mapError_eq_ok.mpr hread
  · rintro query ⟨htonodeid, hrange⟩
    have hall : ∀ v ∈ db.nodeMessage, ∃ m, nodemessageDocument ids v = .ok m := by
      intro v hv
      obtain ⟨i, hi, rfl⟩ := List.mem_iff_getElem.mp hv
      obtain ⟨hlength, hget⟩ := List.forall₂_iff_get.mp h.reads
      exact ⟨_, hget i hi (hlength ▸ hi)⟩
    have hfound : ∀ v ∈ (db.nodeMessage.filter fun doc =>
        isText "toNodeID" query.tonodeid doc &&
          MongoClient.inRange query (numberOf "incrementID" doc)).mergeSort fun doc doc' =>
            decide ((numberOf "incrementID" doc').getD 0 ≤ (numberOf "incrementID" doc).getD 0),
        ∃ m, nodemessageDocument ids v = .ok m :=
      fun v hv => hall v (List.mem_filter.mp (List.mem_mergeSort.mp hv)).1
    obtain ⟨read, hread', hmem⟩ := mapM_ok_of_forall hfound
    obtain ⟨htext, hnumber⟩ := Prod.mk.inj hkey
    refine ⟨read, hread', hmem view (List.mem_mergeSort.mpr (List.mem_filter.mpr ⟨hview, ?_⟩)) m
      hread⟩
    rw [isText, htext, hnumber, hrange, htonodeid, decide_eq_true rfl]
    rfl

omit [DecidableEq ω] in
/-- A new node has no messages yet. -/
theorem MessagesInv.newCount {ids : ObjectIds ω} {counts counts' docs : List (Fields ω)}
    {messages : List NodeMessage} (h : MessagesInv ids counts docs messages) {n : String}
    (hcounts : insertDoc (isText "nodeID" n) [("nodeID", .utf8 n), ("count", .int32 0)] counts =
      .ok counts') : MessagesInv ids counts' docs messages := by
  obtain ⟨hfree, rfl⟩ := insertDoc_ok.mp hcounts
  refine ⟨h.reads, h.unique, fun n' => ?_⟩
  have hold := h.counts n'
  rw [lookup_append_singleton]
  cases hlook : lookup (textOf "nodeID") (some n') counts with
  | some doc =>
      rw [hlook] at hold
      exact hold
  | none =>
      rw [hlook] at hold
      have hnone : countIn n' messages = 0 := hold
      rw [Option.none_or]
      split
      · rw [Option.elim_some, hnone]
        rfl
      · exact hnone

/-- **A message gets the next number** of its node. -/
theorem MessagesInv.insertMessage {ids : ObjectIds ω} {message : NodeMessage} {id : ω}
    {db db' : DocumentDb ω} {r : NodeMessageRes} {messages : List NodeMessage}
    (h : MessagesInv ids db.messageNodeCount db.nodeMessage messages)
    (hcall : MongoClient.insertMessage ids message id db = .ok (r, db')) :
    ∃ counts docs, db' = { db with messageNodeCount := counts, nodeMessage := docs } ∧
      MessagesInv ids counts docs (messages ++ [{ message with
        id := ids.toText id, incrementid := countIn message.tonodeid messages }]) := by
  simp only [MongoClient.insertMessage, mapError_eq_ok, bind_eq_ok, insertDoc_ok] at hcall
  obtain ⟨doc, hdoc, counts, hcounts, k, hk, docs, ⟨hfree, rfl⟩, hrfl⟩ := hcall
  obtain ⟨rfl, rfl⟩ := Prod.mk.inj (Except.ok.inj hrfl)
  have hlook : lookup (textOf "nodeID") (some message.tonodeid) db.messageNodeCount = some doc := by
    cases hfind : findOne (isText "nodeID" message.tonodeid) db.messageNodeCount with
    | none => cases hfind ▸ hdoc
    | some doc' => exact hfind.trans (congrArg some (Except.ok.inj (hfind ▸ hdoc)))
  have hcount := h.counts message.tonodeid
  rw [hlook] at hcount
  obtain rfl := Option.some.inj ((numberOf_of_getInt32 hk).symm.trans hcount)
  refine ⟨_, _, rfl, List.rel_append h.reads (.cons rfl .nil), ?_, fun n => ?_⟩
  · refine nodup_append_singleton h.unique fun d hd heq => hfree d hd ?_
    obtain ⟨htext, hnumber⟩ := Prod.mk.inj heq
    rw [Bool.or_eq_true, Bool.and_eq_true]
    exact .inr ⟨decide_eq_true htext, decide_eq_true hnumber⟩
  · have hcountIn : ∀ m : NodeMessage,
        countIn n (messages ++ [m]) = countIn n messages + if m.tonodeid = n then 1 else 0 := by
      intro m
      rw [countIn, List.countP_append, List.countP_singleton, countIn]
      simp only [beq_iff_eq]
    rcases updateDoc_ok hcounts with ⟨hnone, -⟩ | ⟨doc₀, doc', hdoc₀, hinc, rfl⟩
    · cases hnone.symm.trans hlook
    · obtain rfl := Option.some.inj (hdoc₀.symm.trans hlook)
      rw [inc, get_of_getInt32 hk] at hinc
      obtain rfl := Option.some.inj hinc
      have hnode : textOf "nodeID" (set "count"
          (number ((countIn message.tonodeid messages : ℤ) + 1)) doc₀) = some message.tonodeid := by
        have hold : textOf "nodeID" doc₀ = some message.tonodeid := key_of_lookup hlook
        rw [textOf] at hold ⊢
        rwa [get_set_of_ne (by decide)]
      have hupdate : lookup (textOf "nodeID") (some n) (updateOne
          (isText "nodeID" message.tonodeid) (fun _ => set "count"
            (number ((countIn message.tonodeid messages : ℤ) + 1)) doc₀) db.messageNodeCount) = _ :=
        lookup_updateOne (fun _ _ => hnode) (some n) db.messageNodeCount
      rw [hcountIn, hupdate]
      by_cases hn : message.tonodeid = n
      · subst hn
        rw [if_pos rfl, if_pos rfl, hlook, Option.map_some, Option.elim_some, numberOf_set_number]
        rfl
      · have hne : ¬ some n = some message.tonodeid := fun heq => hn (Option.some.inj heq).symm
        rw [if_neg hne, if_neg hn]
        exact h.counts n

/-! ### Nodes and media -/

/-- No node has the field that a query of it reads. -/
def NoMembers (docs : List (Fields ω)) : Prop := ∀ doc ∈ docs, get "members" doc = none

/-- No media has the field that a query of it reads. -/
def NoType (docs : List (Fields ω)) : Prop := ∀ doc ∈ docs, get "type" doc = none

/-- A query of a node throws where there is no field `members`. -/
theorem NoMembers.queryNode {ids : ObjectIds ω} {db : DocumentDb ω} (h : NoMembers db.messageNode)
    (nodeID : String) (node : MessageNode) : MongoClient.queryNode ids nodeID db ≠ .ok node := by
  intro hquery
  simp only [MongoClient.queryNode, bind_eq_ok, mapError_eq_ok] at hquery
  obtain ⟨id, -, hquery⟩ := hquery
  split at hquery
  · cases hquery
  · rename_i view hview
    simp only [mapError_eq_ok, messagenodeDocument, bind_eq_ok] at hquery
    obtain ⟨_, -, _, -, _, -, _, -, _, -, _, -, members, hmembers, -⟩ := hquery
    obtain ⟨vs, hget, -⟩ := readArray_eq_ok_iff.mp hmembers
    cases (h view (List.mem_of_find?_eq_some hview)).symm.trans hget

omit [DecidableEq ω] in
/-- A query of media throws where there is no field `type`. -/
theorem NoType.queryMedia {db : DocumentDb ω} (h : NoType db.media) (md5 : String)
    (media : Media) : MongoClient.queryMedia md5 db ≠ .ok media := by
  intro hquery
  rw [MongoClient.queryMedia] at hquery
  split at hquery
  · cases hquery
  · rename_i doc hdoc
    simp only [mapError_eq_ok, bind_eq_ok] at hquery
    obtain ⟨type, htype, -⟩ := hquery
    cases (h doc (List.mem_of_find?_eq_some hdoc)).symm.trans (get_of_getInt32 htype)

/-! ### Runs -/

/-- What documents and records have to do with each other, whatever the calls. -/
structure StoreInv (ids : ObjectIds ω) (s : StoreRun ω) : Prop where
  users : UsersInv ids s.db.user s.written.users
  nodes : NoMembers s.db.messageNode
  messages : MessagesInv ids s.db.messageNodeCount s.db.nodeMessage s.written.messages
  media : NoType s.db.media

/-- The users read back as they are, and there is nothing else that does not. -/
def AllRead (ids : ObjectIds ω) (s : StoreRun ω) : Prop :=
  UsersRead ids s.db.user s.written.users ∧ s.written.nodes = [] ∧ s.written.media = []

/-- **When everything reads back**: the users as they are, and no nodes and no media. -/
theorem StoreInv.readBack_iff {ids : ObjectIds ω} {s : StoreRun ω} (h : StoreInv ids s) :
    ReadBack ids s ↔ AllRead ids s := by
  constructor
  · intro hread
    refine ⟨h.users.readBack_iff.mp hread.users, ?_, ?_⟩
    · refine List.eq_nil_iff_forall_not_mem.mpr fun node hnode => ?_
      obtain ⟨read, hquery, -⟩ := hread.nodes node hnode
      exact h.nodes.queryNode _ _ hquery
    · refine List.eq_nil_iff_forall_not_mem.mpr fun media hmedia => ?_
      exact h.media.queryMedia _ _ (hread.media media hmedia)
  · rintro ⟨husers, hnodes, hmedia⟩
    refine ⟨h.users.readBack_iff.mpr husers, ?_, fun m hm => h.messages.readBack hm, ?_⟩
    · rw [hnodes]
      exact fun _ hnode => nomatch hnode
    · rw [hmedia]
      exact fun _ hmedia => nomatch hmedia

/-- A call that succeeds is recorded. -/
theorem storeStep_of_call {ids : ObjectIds ω} {s : StoreRun ω} {e : StoreCall ω}
    {db : DocumentDb ω} (h : e.call ids s.db = .ok db) :
    storeStep ids s e = ⟨db, s.written.step ids e⟩ := by
  rw [storeStep, h]

omit [DecidableEq ω] in
/-- What a call leaves, without what it returns. -/
theorem snd_of_map_ok {β : Type} {x : Except SystemError (β × DocumentDb ω)} {db : DocumentDb ω}
    (h : x.map Prod.snd = .ok db) : ∃ r, x = .ok (r, db) := by
  cases x with
  | error e => cases h
  | ok out => exact ⟨out.1, congrArg Except.ok (Prod.ext rfl (Except.ok.inj h))⟩

/-- What a call that succeeds leaves is related again, and everything reads back in it, as before,
if and only if the call writes nothing that does not. -/
def CarriesOver (ids : ObjectIds ω) (s : StoreRun ω) (e : StoreCall ω) (db : DocumentDb ω) : Prop :=
  StoreInv ids ⟨db, s.written.step ids e⟩ ∧
    (AllRead ids s → (AllRead ids ⟨db, s.written.step ids e⟩ ↔ WritesBack ids s e))

section Calls

variable {ids : ObjectIds ω} {s : StoreRun ω} {db : DocumentDb ω}

/-- A new user reads back. -/
theorem StoreInv.insertUser (h : StoreInv ids s) {enroll : Register} {id : ω}
    (hcall : (StoreCall.insertUser enroll id).call ids s.db = .ok db) :
    CarriesOver ids s (.insertUser enroll id) db := by
  obtain ⟨r, hcall⟩ := snd_of_map_ok hcall
  obtain ⟨docs, rfl, husers, hread⟩ := h.users.insertUser hcall
  exact ⟨⟨husers, h.nodes, h.messages, h.media⟩, fun ⟨hold, hrest⟩ =>
    iff_of_true ⟨hread hold, hrest⟩ trivial⟩

/-- A new device reads back without a nickname. -/
theorem StoreInv.insertDevice (h : StoreInv ids s) {userID : String} {device : Device}
    (hcall : (StoreCall.insertDevice userID device).call ids s.db = .ok db) :
    CarriesOver ids s (.insertDevice userID device) db := by
  obtain ⟨id, docs, hid, rfl, husers, hread⟩ := h.users.insertDevice hcall
  simp only [CarriesOver, Written.step, WritesBack, hid, Except.ok.injEq, exists_eq_left']
  exact ⟨⟨husers, h.nodes, h.messages, h.media⟩, fun ⟨hold, hrest⟩ =>
    (and_iff_left hrest).trans (hread hold)⟩

/-- A device with other data reads back. -/
theorem StoreInv.updateDevice (h : StoreInv ids s) {userID : String} {device : Device}
    (hcall : (StoreCall.updateDevice userID device).call ids s.db = .ok db) :
    CarriesOver ids s (.updateDevice userID device) db := by
  obtain ⟨id, docs, hid, rfl, husers, hread⟩ := h.users.updateDevice hcall
  simp only [CarriesOver, Written.step, hid]
  exact ⟨⟨husers, h.nodes, h.messages, h.media⟩, fun ⟨hold, hrest⟩ =>
    iff_of_true ⟨hread hold, hrest⟩ trivial⟩

/-- The node of a request does not read back. -/
theorem StoreInv.addFriend (h : StoreInv ids s) {addfrd : AddFriend} {nodeId msgId : ω}
    (hcall : (StoreCall.addFriend addfrd nodeId msgId).call ids s.db = .ok db) :
    CarriesOver ids s (.addFriend addfrd nodeId msgId) db := by
  obtain ⟨r, hcall⟩ := snd_of_map_ok hcall
  simp only [MongoClient.addFriend, mapError_eq_ok, bind_eq_ok] at hcall
  obtain ⟨_, -, nodes, hnodes, _, -, counts, hcounts, _, -, out, hmessage, hrfl⟩ := hcall
  obtain ⟨-, rfl⟩ := Prod.mk.inj (Except.ok.inj hrfl)
  obtain ⟨counts', docs, hout, hmessages⟩ :=
    (h.messages.newCount hcounts).insertMessage hmessage
  rw [hout]
  refine ⟨⟨h.users, forall_mem_insertDoc h.nodes rfl hnodes, hmessages, h.media⟩, fun _ => ?_⟩
  exact iff_of_false (fun ⟨_, hnil, _⟩ => List.append_ne_nil_of_right_ne_nil _ (by simp) hnil)
    fun hfalse => hfalse

/-- The node of a group does not read back. -/
theorem StoreInv.createGroup (h : StoreInv ids s) {cGroup : CreateGroup} {obj_id : ω}
    (hcall : (StoreCall.createGroup cGroup obj_id).call ids s.db = .ok db) :
    CarriesOver ids s (.createGroup cGroup obj_id) db := by
  obtain ⟨r, hcall⟩ := snd_of_map_ok hcall
  simp only [MongoClient.createGroup, mapError_eq_ok, bind_eq_ok] at hcall
  obtain ⟨nodes, hnodes, counts, hcounts, _, -, hrfl⟩ := hcall
  obtain ⟨-, rfl⟩ := Prod.mk.inj (Except.ok.inj hrfl)
  refine ⟨⟨h.users, forall_mem_insertDoc h.nodes rfl hnodes, h.messages.newCount hcounts,
    h.media⟩, fun _ => ?_⟩
  exact iff_of_false (fun ⟨_, hnil, _⟩ => List.append_ne_nil_of_right_ne_nil _ (by simp) hnil)
    fun hfalse => hfalse

/-- More members make no new node. -/
theorem StoreInv.addMembers2Group (h : StoreInv ids s) {groupMember : GroupAddMember}
    (hcall : (StoreCall.addMembers2Group groupMember).call ids s.db = .ok db) :
    CarriesOver ids s (.addMembers2Group groupMember) db := by
  obtain ⟨r, hcall⟩ := snd_of_map_ok hcall
  simp only [MongoClient.addMembers2Group, mapError_eq_ok, bind_eq_ok] at hcall
  obtain ⟨id, hid, nodes, hnodes, _, -, hrfl⟩ := hcall
  obtain ⟨-, rfl⟩ := Prod.mk.inj (Except.ok.inj hrfl)
  have hnodes' : NoMembers nodes := by
    refine forall_mem_updateDoc h.nodes (fun doc doc' hdoc hdoc' => ?_) hnodes
    obtain ⟨doc₁, hset, hinc⟩ := Option.bind_eq_some_iff.mp hdoc'
    rw [get_of_inc (by decide) hinc, get_of_addToSet (by decide) hset, hdoc]
  simp only [CarriesOver, Written.step, hid]
  refine ⟨⟨h.users, hnodes', h.messages, h.media⟩, fun ⟨hold, hnil, hmedia⟩ => ?_⟩
  simp only [AllRead, hnil]
  exact iff_of_true ⟨hold, rfl, hmedia⟩ trivial

/-- A message reads back. -/
theorem StoreInv.insertMessage (h : StoreInv ids s) {message : NodeMessage} {id : ω}
    (hcall : (StoreCall.insertMessage message id).call ids s.db = .ok db) :
    CarriesOver ids s (.insertMessage message id) db := by
  obtain ⟨r, hcall⟩ := snd_of_map_ok hcall
  obtain ⟨counts, docs, rfl, hmessages⟩ := h.messages.insertMessage hcall
  exact ⟨⟨h.users, h.nodes, hmessages, h.media⟩, fun hold => iff_of_true hold trivial⟩

/-- Media do not read back. -/
theorem StoreInv.insertMedia (h : StoreInv ids s) {media : Media}
    (hcall : (StoreCall.insertMedia media).call ids s.db = .ok db) :
    CarriesOver ids s (.insertMedia media) db := by
  have hcall' : MongoClient.insertMedia media s.db = .ok db := hcall
  simp only [MongoClient.insertMedia, mapError_eq_ok, bind_eq_ok] at hcall'
  obtain ⟨docs, hdocs, hrfl⟩ := hcall'
  obtain rfl := Except.ok.inj hrfl
  refine ⟨⟨h.users, h.nodes, h.messages, forall_mem_insertDoc h.media rfl hdocs⟩, fun _ => ?_⟩
  exact iff_of_false (fun ⟨_, _, hnil⟩ => List.append_ne_nil_of_right_ne_nil _ (by simp) hnil)
    fun hfalse => hfalse

end Calls

/-- **What documents and records have to do with each other** is kept by every call that
succeeds, and everything reads back after it, as before it, under the condition. -/
theorem storeInv_step {ids : ObjectIds ω} {s : StoreRun ω} {e : StoreCall ω}
    (h : StoreInv ids s) (hok : StoreOk ids s e) :
    StoreInv ids (storeStep ids s e) ∧
      (ReadBack ids s → (ReadBack ids (storeStep ids s e) ↔ WritesBack ids s e)) := by
  obtain ⟨db, hcall⟩ := hok
  have hcarries : CarriesOver ids s e db := by
    cases e with
    | insertUser enroll id => exact h.insertUser hcall
    | insertDevice userID device => exact h.insertDevice hcall
    | updateDevice userID device => exact h.updateDevice hcall
    | addFriend addfrd nodeId msgId => exact h.addFriend hcall
    | createGroup cGroup obj_id => exact h.createGroup hcall
    | addMembers2Group groupMember => exact h.addMembers2Group hcall
    | insertMessage message id => exact h.insertMessage hcall
    | insertMedia media => exact h.insertMedia hcall
  rw [storeStep_of_call hcall, h.readBack_iff, hcarries.1.readBack_iff]
  exact hcarries

omit [DecidableEq ω] in
/-- Nothing has been written. -/
theorem storeInv_new (ids : ObjectIds ω) : StoreInv ids StoreRun.new :=
  ⟨⟨.nil, List.nodup_nil, List.nodup_nil⟩, List.forall_mem_nil _,
    ⟨.nil, List.nodup_nil, fun _ => rfl⟩, List.forall_mem_nil _⟩

/-- Messages are read as they are written, whatever the calls. -/
theorem messages_read_back (ids : ObjectIds ω) (es : List (StoreCall ω))
    (h : StepsMeet (storeStep ids) (StoreOk ids) StoreRun.new es) :
    Always (storeStep ids) (fun s => ∀ m ∈ s.written.messages,
      MongoClient.queryMessage ids m.tonodeid m.incrementid s.db = .ok m) StoreRun.new es := by
  have hinv : Always (storeStep ids) (StoreInv ids) StoreRun.new es :=
    always_of_stepsMeet (fun _ _ hs hok => (storeInv_step hs hok).1) (storeInv_new ids) h
  intro es₁ es₂ heq m hm
  exact ((hinv es₁ es₂ heq).messages.readBack hm).1

/-- **The runs in which everything reads back** are those that write no node and no media, and
no new device with a nickname. -/
theorem read_back_iff (ids : ObjectIds ω) (es : List (StoreCall ω))
    (h : StepsMeet (storeStep ids) (StoreOk ids) StoreRun.new es) :
    Always (storeStep ids) (ReadBack ids) StoreRun.new es ↔
      StepsMeet (storeStep ids) (WritesBack ids) StoreRun.new es := by
  refine h.always_iff (fun _ _ hs hok => (storeInv_step hs hok).1)
    (fun _ _ hs hok hread => (storeInv_step hs hok).2 hread) (storeInv_new ids) ?_
  exact (storeInv_new ids).readBack_iff.mpr ⟨.nil, rfl, rfl⟩

/-! ### A phone, a group and a picture -/

/-- 24 hexadecimal digits in lower case. -/
abbrev HexText := { text : String //
  text.length = 24 ∧ text.toList.all fun c => "0123456789abcdef".toList.contains c }

/-- Such texts as object ids. -/
def hexIds : ObjectIds HexText where
  toText id := id.1
  oid text := if h : _ then .ok ⟨text, h⟩ else .error ⟨8, "invalid oid"⟩
  oid_toText id := dif_pos id.2

def hexA : HexText := ⟨idA, by decide⟩

/-- A user registers. -/
def registers : StoreCall HexText := .insertUser ⟨"5550100", "86", "secret", "maria"⟩ hexA

/-- The user adds a phone, under a nickname or none. -/
def addsPhone (nickname : String) : StoreCall HexText :=
  .insertDevice idA ⟨1, "nexus", nickname, "phone"⟩

/-- The phone has a nickname from now on. -/
def namesPhone : StoreCall HexText := .updateDevice idA ⟨1, "nexus", "my phone", "phone"⟩

/-- A group of one member. -/
def foundsGroup : StoreCall HexText := .createGroup ⟨idB, "chess", [idB]⟩ hexA

/-- A picture. -/
def storesPicture : StoreCall HexText := .insertMedia ⟨"0cc1", "/pictures/0cc1", 2⟩

/-- A user, a phone without a nickname, and then a nickname for it. -/
theorem read_back_phone :
    Always (storeStep hexIds) (ReadBack hexIds) StoreRun.new
      [registers, addsPhone "", namesPhone] :=
  (read_back_iff hexIds [registers, addsPhone "", namesPhone]
    ⟨⟨_, rfl⟩, ⟨_, rfl⟩, ⟨_, rfl⟩, trivial⟩).mpr ⟨trivial, fun _ => rfl, trivial, trivial⟩

/-- The nickname of a new device is lost, and a group and a picture cannot be read. -/
theorem not_read_back :
    (StepsMeet (storeStep hexIds) (StoreOk hexIds) StoreRun.new
        [registers, addsPhone "my phone"] ∧
      ¬ ReadBack hexIds ([registers, addsPhone "my phone"].foldl (storeStep hexIds)
        StoreRun.new)) ∧
    (StepsMeet (storeStep hexIds) (StoreOk hexIds) StoreRun.new [foundsGroup] ∧
      ¬ ReadBack hexIds ([foundsGroup].foldl (storeStep hexIds) StoreRun.new)) ∧
    StepsMeet (storeStep hexIds) (StoreOk hexIds) StoreRun.new [storesPicture] ∧
      ¬ ReadBack hexIds ([storesPicture].foldl (storeStep hexIds) StoreRun.new) := by
  refine ⟨⟨⟨⟨_, rfl⟩, ⟨_, rfl⟩, trivial⟩, fun h => ?_⟩, ⟨⟨⟨_, rfl⟩, trivial⟩, fun h => ?_⟩,
    ⟨⟨_, rfl⟩, trivial⟩, fun h => ?_⟩
  · have hread := (h.users _ List.mem_cons_self).1
    have hdevice : (⟨1, "nexus", "", "phone"⟩ : Device) = ⟨1, "nexus", "my phone", "phone"⟩ :=
      List.singleton_inj.mp (congrArg User.devices (Except.ok.inj hread))
    exact absurd (congrArg Device.devicenickname hdevice) (by decide)
  · obtain ⟨node, hread, -⟩ := h.nodes _ List.mem_cons_self
    cases hread
  · have hread := h.media _ List.mem_cons_self
    cases hread

end Yijian
