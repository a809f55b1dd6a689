import Yijian.Lib.Bson
import Yijian.Members

/-!
# Stored Documents

The calls of `mongo_client` that write documents, and the queries that read them. What joins
the two are the names and types of the fields: a query throws where a field is missing or has
another type. Object ids come from the driver, and are part of the calls; the time of a call
and the time in an object id are left out.

## Main definitions

* `MongoClient.insertUser` up to `MongoClient.insertMedia`: the writers.
* `MongoClient.queryUser`, `queryNode`, `queryMessage`, `queryMedia`: the readers.

## Convention

Each writer builds its document with the names and types of the source, the misspelt ones included,
and each reader takes the fields it reads, with the types it reads them in, from the document that
it has found. The library of documents is `Yijian.Lib.Bson`. Inserts go through the unique indexes
that the script beside the sources creates. A call throws one error number of its own for whatever
goes wrong in it, and what was written before stays. Fields that no query reads are left out where
nothing depends on them, such as the times of creation; nothing that a query reads is.
-/

namespace Yijian

open Bson Documents

variable {ω : Type}

/-! ### Messages -/

/-- `chat::Register`. -/
structure Register where
  phoneno : String
  countrycode : String
  password : String
  nickname : String

/-- `chat::Device`. -/
structure Device where
  os : ℤ
  devicemodel : String
  devicenickname : String
  uuid : String
deriving DecidableEq

/-- `chat::User`. -/
structure User where
  id : String
  realname : String
  nickname : String
  icon : String
  description : String
  isMale : Bool
  phoneno : String
  countrycode : String
  password : String
  birthday : ℤ
  version : ℤ
  friends : List UserInfo
  blacklist : List String
  groupnodeids : List String
  devices : List Device
deriving DecidableEq

/-- `chat::MessageNode`. -/
structure MessageNode where
  id : String
  authorize : ℤ
  creatorid : String
  nickname : String
  version : ℤ
  managerids : List String
  members : List String

/-- `chat::MessageNode::peer`. -/
def MessageNode.peer : ℤ := 3

/-- `chat::NodeMessage`. -/
structure NodeMessage where
  id : String
  fromuserid : String
  tonodeid : String
  incrementid : ℤ
  type : ℤ
  content : String
deriving DecidableEq

/-- `chat::MediaType::TEXT`. -/
def mediaText : ℤ := 1

/-- `chat::QueryMessage`. -/
structure QueryMessage where
  tonodeid : String
  fromincrementid : ℤ
  toincrementid : ℤ

/-- `chat::Media`. -/
structure Media where
  md5 : String
  path : String
  type : ℤ

/-- `chat::CreateGroupRes`. -/
structure CreateGroupRes where
  tonodeid : String
  nickname : String

/-- `chat::NodeMessageRes`, without the fields that the dispatch fills in. -/
structure NodeMessageRes where
  id : String
  incrementid : ℤ

/-! ### The database -/

/-- Object ids and their texts: a text that an id has is read as this id. -/
structure ObjectIds (ω : Type) where
  toText : ω → String
  oid : String → Except SystemError ω
  oid_toText : ∀ id, oid (toText id) = .ok id

/-- The text of an object id tells it. -/
theorem ObjectIds.toText_inj (ids : ObjectIds ω) {i j : ω} :
    ids.toText i = ids.toText j ↔ i = j := by
  constructor
  · intro h
    have hoid := (ids.oid_toText i).symm.trans (congrArg ids.oid h)
    exact Except.ok.inj (hoid.trans (ids.oid_toText j))
  · exact congrArg ids.toText

/-- The collections. -/
structure DocumentDb (ω : Type) where
  user : List (Fields ω)
  addFriend : List (Fields ω)
  messageNode : List (Fields ω)
  messageNodeCount : List (Fields ω)
  nodeMessage : List (Fields ω)
  media : List (Fields ω)
  userUnread : List UserUnread

/-- Insert a document, unless it clashes with one under a unique index. -/
def insertDoc (clash : Fields ω → Bool) (doc : Fields ω) (docs : List (Fields ω)) :
    Except SystemError (List (Fields ω)) :=
  if docs.any clash then .error ⟨11000, "duplicate key"⟩ else .ok (docs ++ [doc])

/-- Update the first document that matches; the update may be refused. -/
def updateDoc (p : Fields ω → Bool) (f : Fields ω → Option (Fields ω))
    (docs : List (Fields ω)) : Except SystemError (List (Fields ω)) :=
  match findOne p docs with
  | none => .ok docs
  | some doc =>
      match f doc with
      | none => .error ⟨14, "type mismatch"⟩
      | some doc' => .ok (updateOne p (fun _ => doc') docs)

/-- A document is inserted behind the others if it clashes with none. -/
theorem insertDoc_ok {clash : Fields ω → Bool} {doc : Fields ω} {docs docs' : List (Fields ω)} :
    insertDoc clash doc docs = .ok docs' ↔
      (∀ d ∈ docs, ¬ clash d = true) ∧ docs' = docs ++ [doc] := by
  rw [insertDoc]
  split
  · rename_i h
    obtain ⟨d, hd, hclash⟩ := List.any_eq_true.mp h
    exact iff_of_false (fun h => nomatch h) fun h => h.1 d hd hclash
  · rename_i h
    have hnone : ∀ d ∈ docs, ¬ clash d = true :=
      fun d hd hclash => h (List.any_eq_true.mpr ⟨d, hd, hclash⟩)
    rw [and_iff_right hnone]
    exact ⟨fun h => (Except.ok.inj h).symm, fun h => h ▸ rfl⟩

/-- What every document has, and a new one too. -/
theorem forall_mem_insertDoc {clash : Fields ω → Bool} {doc : Fields ω}
    {docs docs' : List (Fields ω)} {P : Fields ω → Prop} (hdocs : ∀ doc ∈ docs, P doc)
    (hdoc : P doc) (h : insertDoc clash doc docs = .ok docs') : ∀ doc ∈ docs', P doc := by
  obtain ⟨-, rfl⟩ := insertDoc_ok.mp h
  intro d hd
  rcases List.mem_append.mp hd with hold | hnew
  · exact hdocs d hold
  · exact List.mem_singleton.mp hnew ▸ hdoc

/-- An update changes the first document that matches, or nothing. -/
theorem updateDoc_ok {p : Fields ω → Bool} {f : Fields ω → Option (Fields ω)}
    {docs docs' : List (Fields ω)} (h : updateDoc p f docs = .ok docs') :
    (docs.find? p = none ∧ docs' = docs) ∨
      ∃ doc doc', docs.find? p = some doc ∧ f doc = some doc' ∧
        docs' = updateOne p (fun _ => doc') docs := by
  rw [updateDoc, findOne] at h
  split at h
  · rename_i hnone
    exact .inl ⟨hnone, (Except.ok.inj h).symm⟩
  · rename_i doc hdoc
    split at h
    · cases h
    · rename_i doc' hdoc'
      exact .inr ⟨doc, doc', hdoc, hdoc', (Except.ok.inj h).symm⟩

/-- What every document has, and an update keeps, every document has after it. -/
theorem forall_mem_updateDoc {p : Fields ω → Bool} {f : Fields ω → Option (Fields ω)}
    {docs docs' : List (Fields ω)} {P : Fields ω → Prop} (hdocs : ∀ doc ∈ docs, P doc)
    (hf : ∀ doc doc', P doc → f doc = some doc' → P doc')
    (h : updateDoc p f docs = .ok docs') : ∀ doc ∈ docs', P doc := by
  rcases updateDoc_ok h with ⟨-, rfl⟩ | ⟨doc, doc', hfind, hdoc', rfl⟩
  · exact hdocs
  · intro d hd
    rcases mem_updateOne hd with hold | ⟨_, -, -, rfl⟩
    · exact hdocs d hold
    · exact hf doc d (hdocs doc (List.mem_of_find?_eq_some hfind)) hdoc'

/-- What an update keeps of each document. -/
theorem map_updateDoc {p : Fields ω → Bool} {f : Fields ω → Option (Fields ω)}
    {docs docs' : List (Fields ω)} {κ : Type} {key : Fields ω → κ}
    (hf : ∀ doc doc', f doc = some doc' → key doc' = key doc)
    (h : updateDoc p f docs = .ok docs') : docs'.map key = docs.map key := by
  rcases updateDoc_ok h with ⟨-, rfl⟩ | ⟨doc, doc', hfind, hdoc', rfl⟩
  · rfl
  · refine map_updateOne_find fun d hd => ?_
    obtain rfl := Option.some.inj (hfind.symm.trans hd)
    exact hf doc doc' hdoc'

/-- An update that the document it finds does not refuse. -/
theorem exists_updateDoc {p : Fields ω → Bool} {f : Fields ω → Option (Fields ω)}
    {docs : List (Fields ω)} (h : ∀ doc, docs.find? p = some doc → ∃ doc', f doc = some doc') :
    ∃ docs', updateDoc p f docs = .ok docs' := by
  rw [updateDoc, findOne]
  cases hfind : docs.find? p with
  | none => exact ⟨docs, rfl⟩
  | some doc =>
      obtain ⟨doc', hdoc'⟩ := h doc hfind
      simp only [hdoc']
      exact ⟨_, rfl⟩

/-- An update of documents that stand for records is one of the records. -/
theorem forall₂_updateDoc {ρ : Type} {R : Fields ω → ρ → Prop} {docs docs' : List (Fields ω)}
    {recs : List ρ} {p : Fields ω → Bool} {q : ρ → Bool} {f : Fields ω → Option (Fields ω)}
    {g : ρ → ρ} (h : List.Forall₂ R docs recs) (hp : ∀ doc r, R doc r → p doc = q r)
    (hf : ∀ doc doc' r, R doc r → q r = true → f doc = some doc' → R doc' (g r))
    (hdocs : updateDoc p f docs = .ok docs') : List.Forall₂ R docs' (updateOne q g recs) := by
  rcases updateDoc_ok hdocs with ⟨hnone, rfl⟩ | ⟨doc, doc', hdoc, hdoc', rfl⟩
  · rcases forall₂_find h hp with ⟨-, hnobody⟩ | ⟨doc, r, hsome, -⟩
    · rw [updateOne_of_find_eq_none hnobody]
      exact h
    · cases hnone.symm.trans hsome
  · refine (forall₂_updateOne_iff h hp).mpr fun view r hview hr hshown => ?_
    obtain rfl := Option.some.inj (hdoc.symm.trans hview)
    exact hf doc doc' r hshown (List.find?_some hr) hdoc'

/-- The documents after a bulk write that succeeds. -/
def bulkWritten (writes docs : List UserUnread) : Except SystemError (List UserUnread) :=
  match bulkWrite writes docs with
  | (r, docs) => r.map fun _ => docs

namespace MongoClient

/-! ### Writers -/

section Writers

variable [DecidableEq ω]

/-- `mongo_client::insertUser`; `id` is the object id that the driver gives the user. -/
def insertUser (ids : ObjectIds ω) (enroll : Register) (id : ω) (db : DocumentDb ω) :
    Except SystemError (String × DocumentDb ω) :=
  let doc_value : Fields ω :=
    [("_id", .oid id), ("realname", .utf8 ""), ("nickname", .utf8 enroll.nickname),
      ("icon", .utf8 ""), ("description", .utf8 ""), ("isMale", .bool true),
      ("countryCode", .utf8 enroll.countrycode), ("phoneNo", .utf8 enroll.phoneno),
      ("password", .utf8 enroll.password), ("birthday", .int32 0), ("version", .int32 1),
      ("friends", .array []), ("blacklist", .array []), ("groupNodeIDs", .array []),
      ("devices", .array [])]
  let clash := fun doc => isOid "_id" id doc ||
    (isText "phoneNo" enroll.phoneno doc && isText "countryCode" enroll.countrycode doc)
  Except.mapError (fun _ => ⟨40011, "insert user failure"⟩) do
    let user ← insertDoc clash doc_value db.user
    return (ids.toText id, { db with user := user })

/-- `mongo_client::updateDevice`. -/
def updateDevice (ids : ObjectIds ω) (userID : String) (device : Device) (db : DocumentDb ω) :
    Except SystemError (DocumentDb ω) :=
  let doc : Value ω := .document
    [("OS", .int32 device.os), ("deviceModel", .utf8 device.devicemodel),
      ("deviceNickname", .utf8 device.devicenickname), ("UUID", .utf8 device.uuid)]
  Except.mapError (fun _ => ⟨40000, "update user device failure"⟩) do
    let id ← ids.oid userID
    let user ← updateDoc
      (fun user => isOid "_id" id user && hasElement "devices" (isText "UUID" device.uuid) user)
      (setMatched "devices" (isText "UUID" device.uuid) doc) db.user
    return { db with user := user }

/-- `mongo_client::insertDevice`. -/
def insertDevice (ids : ObjectIds ω) (userID : String) (device : Device) (db : DocumentDb ω) :
    Except SystemError (DocumentDb ω) :=
  let doc : Value ω := .document
    [("OS", .int32 device.os), ("deviceModel", .utf8 device.devicemodel),
      ("UUID", .utf8 device.uuid)]
  Except.mapError (fun _ => ⟨40001, "insert user device failure"⟩) do
    let id ← ids.oid userID
    let user ← updateDoc (isOid "_id" id) (push "devices" doc) db.user
    return { db with user := user }

/-- `mongo_client::insertMessage`: the number of a message is the count before it. -/
def insertMessage (ids : ObjectIds ω) (message : NodeMessage) (id : ω) (db : DocumentDb ω) :
    Except SystemError (NodeMessageRes × DocumentDb ω) :=
  let byNode : Fields ω → Bool := isText "nodeID" message.tonodeid
  Except.mapError (fun _ => ⟨40051, "insert message failure"⟩) do
    let node_count ← (findOne byNode db.messageNodeCount).elim
      (.error ⟨40050, "not find tonodeid"⟩) .ok
    let messageNodeCount ← updateDoc byNode (inc "count" 1) db.messageNodeCount
    let incrementid ← (getInt32 "count" node_count).mapError fun _ => ⟨40051, "count"⟩
    let nodeMessage ← insertDoc
      (fun doc => isOid "_id" id doc ||
        (isText "toNodeID" message.tonodeid doc && isNumber "incrementID" incrementid doc))
      [("_id", .oid id), ("fromUserID", .utf8 message.fromuserid),
        ("toNodeID", .utf8 message.tonodeid), ("incrementID", .int32 incrementid),
        ("type", .int32 message.type), ("content", .utf8 message.content)] db.nodeMessage
    return (⟨ids.toText id, incrementid⟩,
      { db with messageNodeCount := messageNodeCount, nodeMessage := nodeMessage })

/-- `mongo_client::addFriend`, with the object ids of the node and of the message. -/
def addFriend (ids : ObjectIds ω) (addfrd : AddFriend) (nodeId msgId : ω) (db : DocumentDb ω) :
    Except SystemError (AddFriendRes × DocumentDb ω) :=
  let key := littleIDBigID addfrd.inviterID addfrd.inviteeID
  let msgNodeid := ids.toText nodeId
  let setStatus := fun status => set "status" (.utf8 status)
  Except.mapError (fun _ => ⟨40004, "add friend failure"⟩) do
    let addFriend ← insertDoc (isText "littleIDBigID" key)
      [("littleIDBigID", .utf8 key), ("inviter", .utf8 addfrd.inviterID),
        ("invitee", .utf8 addfrd.inviteeID), ("toNodeID", .utf8 ""), ("status", .utf8 "request")]
      db.addFriend
    let messageNode ← insertDoc (isOid "_id" nodeId)
      [("_id", .oid nodeId), ("authorize", .int32 MessageNode.peer),
        ("creatorID", .utf8 addfrd.inviterID), ("nickname", .utf8 ""), ("managerIDs", .array []),
        ("memebers", .array [.utf8 addfrd.inviterID, .utf8 addfrd.inviteeID])] db.messageNode
    let addFriend ← updateDoc (isText "littleIDBigID" key)
      (fun doc => some (setStatus "createNode" (set "toNodeID" (.utf8 msgNodeid) doc))) addFriend
    let messageNodeCount ← insertDoc (isText "nodeID" msgNodeid)
      [("nodeID", .utf8 msgNodeid), ("count", .int32 0)] db.messageNodeCount
    let addFriend ← updateDoc (isText "littleIDBigID" key)
      (fun doc => some (setStatus "createNodeCount" doc)) addFriend
    let (_, db) ← insertMessage ids ⟨"", addfrd.inviterID, msgNodeid, 0, mediaText, addfrd.msg⟩
      msgId { db with
        addFriend := addFriend, messageNode := messageNode, messageNodeCount := messageNodeCount }
    return (⟨addfrd.inviterID, addfrd.inviteeID, msgNodeid⟩, db)

/-- `mongo_client::createGroup`. -/
def createGroup (ids : ObjectIds ω) (cGroup : CreateGroup) (obj_id : ω) (db : DocumentDb ω) :
    Except SystemError (CreateGroupRes × DocumentDb ω) :=
  let nodeID := ids.toText obj_id
  Except.mapError (fun _ => ⟨40021, "create message node for group error"⟩) do
    let messageNode ← insertDoc (isOid "_id" obj_id)
      [("_id", .oid obj_id), ("authorize", .int32 MessageNode.peer),
        ("creatorID", .utf8 cGroup.userid), ("nickname", .utf8 cGroup.nickname),
        ("version", .int32 1), ("managerIDs", .array []),
        ("memebers", .array (cGroup.membersid.map .utf8))] db.messageNode
    let messageNodeCount ← insertDoc (isText "nodeID" nodeID)
      [("nodeID", .utf8 nodeID), ("count", .int32 0)] db.messageNodeCount
    let userUnread ← bulkWritten
      (cGroup.membersid.map fun memberid => .insertOne memberid nodeID 1 1) db.userUnread
    return (⟨nodeID, cGroup.nickname⟩, { db with
      messageNode := messageNode, messageNodeCount := messageNodeCount, userUnread := userUnread })

/-- `mongo_client::addMembers2Group`. -/
def addMembers2Group (ids : ObjectIds ω) (groupMember : GroupAddMember) (db : DocumentDb ω) :
    Except SystemError (String × DocumentDb ω) :=
  Except.mapError (fun _ => ⟨40022, "add group member failure"⟩) do
    let id ← ids.oid groupMember.tonodeid
    let messageNode ← updateDoc (isOid "_id" id)
      (fun doc => (addToSet "membersid" groupMember.membersid doc).bind (inc "version" 1))
      db.messageNode
    let userUnread ← bulkWritten
      (groupMember.membersid.map fun memberid => .insertOne memberid memberid 1 1) db.userUnread
    return (groupMember.tonodeid, { db with messageNode := messageNode, userUnread := userUnread })

/-- `mongo_client::insertMedia`. -/
def insertMedia (media : Media) (db : DocumentDb ω) : Except SystemError (DocumentDb ω) :=
  Except.mapError (fun _ => ⟨40061, "media insert failure"⟩) do
    let docs ← insertDoc (isText "md5" media.md5)
      [("md5", .utf8 media.md5), ("path", .utf8 media.path)] db.media
    return { db with media := docs }

end Writers

end MongoClient

/-! ### Reading documents -/

def userNodocNoarr (ids : ObjectIds ω) (view : Fields ω) : Except ElementError User := do
  let id ← getOid "_id" view
  let realname ← getUtf8 "realname" view
  let nickname ← getUtf8 "nickname" view
  let icon ← getUtf8 "icon" view
  let description ← getUtf8 "description" view
  let isMale ← getBool "isMale" view
  let countrycode ← getUtf8 "countryCode" view
  let phoneno ← getUtf8 "phoneNo" view
  let password ← getUtf8 "password" view
  let birthday ← getInt32 "birthday" view
  let version ← getInt32 "version" view
  return ⟨ids.toText id, realname, nickname, icon, description, isMale, phoneno, countrycode,
    password, birthday, version, [], [], [], []⟩

def userinfoDocument (userinfo_view : Fields ω) : Except ElementError UserInfo := do
  let tonodeid ← getUtf8 "toNodeID" userinfo_view
  let userid ← getUtf8 "userID" userinfo_view
  return ⟨userid, tonodeid⟩

/-- The nickname of a device, which may be missing. -/
def deviceNickname (device_view : Fields ω) : Except ElementError String :=
  if (get "deviceNickname" device_view).isSome then getUtf8 "deviceNickname" device_view
  else .ok ""

def deviceDocument (device_view : Fields ω) : Except ElementError Device := do
  let os ← getInt32 "OS" device_view
  let devicemodel ← getUtf8 "deviceModel" device_view
  let devicenickname ← deviceNickname device_view
  let uuid ← getUtf8 "UUID" device_view
  return ⟨os, devicemodel, devicenickname, uuid⟩

def messagenodeDocument (ids : ObjectIds ω) (messagenode_view : Fields ω) :
    Except ElementError MessageNode := do
  let id ← getOid "_id" messagenode_view
  let authorize ← getInt32 "authorize" messagenode_view
  let creatorid ← getUtf8 "creatorID" messagenode_view
  let nickname ← getUtf8 "nickname" messagenode_view
  let version ← getInt32 "version" messagenode_view
  let managerids ← readArray elementUtf8 "managerIDs" messagenode_view
  let members ← readArray elementUtf8 "members" messagenode_view
  return ⟨ids.toText id, authorize, creatorid, nickname, version, managerids, members⟩

def nodemessageDocument (ids : ObjectIds ω) (nodemessage_view : Fields ω) :
    Except ElementError NodeMessage := do
  let id ← getOid "_id" nodemessage_view
  let fromuserid ← getUtf8 "fromUserID" nodemessage_view
  let tonodeid ← getUtf8 "toNodeID" nodemessage_view
  let incrementid ← getInt32 "incrementID" nodemessage_view
  let type ← getInt32 "type" nodemessage_view
  let content ← getUtf8 "content" nodemessage_view
  return ⟨ids.toText id, fromuserid, tonodeid, incrementid, type, content⟩

/-- An element of the list of devices. -/
def deviceElement (it : Value ω) : Except ElementError Device :=
  elementDocument it >>= deviceDocument

def userDocoument (ids : ObjectIds ω) (user_view : Fields ω) : Except ElementError User := do
  let user ← userNodocNoarr ids user_view
  let friends ← readArray (fun it => elementDocument it >>= userinfoDocument) "friends" user_view
  let blacklist ← readArray elementUtf8 "blacklist" user_view
  let groupnodeids ← readArray elementUtf8 "groupNodeIDs" user_view
  let devices ← readArray deviceElement "devices" user_view
  return { user with
    friends := friends, blacklist := blacklist, groupnodeids := groupnodeids, devices := devices }

/-! ### Queries -/

/-- What a query throws. -/
inductive QueryError
  | system (e : SystemError)
  | element (e : ElementError)

namespace MongoClient

/-- `mongo_client::queryUser` by phone number. -/
def queryUserOfPhone (ids : ObjectIds ω) (phoneNo countryCode : String) (db : DocumentDb ω) :
    Except QueryError User :=
  match findOne (fun doc => isText "countryCode" countryCode doc && isText "phoneNo" phoneNo doc)
    db.user with
  | none => .error (.system ⟨40002, "no this user"⟩)
  | some user_view => (userDocoument ids user_view).mapError .element

/-- `mongo_client::queryUser` by id. -/
def queryUser [DecidableEq ω] (ids : ObjectIds ω) (userID : String) (db : DocumentDb ω) :
    Except QueryError User := do
  let id ← (ids.oid userID).mapError .system
  match findOne (isOid "_id" id) db.user with
  | none => .error (.system ⟨40003, "no this user"⟩)
  | some user_view => (userDocoument ids user_view).mapError .element

/-- `mongo_client::queryNode`. -/
def queryNode [DecidableEq ω] (ids : ObjectIds ω) (nodeID : String) (db : DocumentDb ω) :
    Except QueryError MessageNode := do
  let id ← (ids.oid nodeID).mapError .system
  match findOne (isOid "_id" id) db.messageNode with
  | none => .error (.system ⟨40023, "query message node failure"⟩)
  | some messagenode_view => (messagenodeDocument ids messagenode_view).mapError .element

/-- `mongo_client::queryMessage` of one message. -/
def queryMessage (ids : ObjectIds ω) (tonodeid : String) (incrementid : ℤ) (db : DocumentDb ω) :
    Except QueryError NodeMessage :=
  match findOne
    (fun doc => isText "toNodeID" tonodeid doc && isNumber "incrementID" incrementid doc)
    db.nodeMessage with
  | none => .error (.system ⟨40052, "missing message"⟩)
  | some view => (nodemessageDocument ids view).mapError .element

/-- The number of a message is in the range of a query. -/
def inRange (query : QueryMessage) : Option ℤ → Bool
  | none => false
  | some k =>
      decide (query.fromincrementid ≤ k) &&
        (query.toincrementid == 0 || decide (k < query.toincrementid))

/-- `mongo_client::queryMessage` of a range: the messages that are passed on, last ones first. -/
def queryMessages (ids : ObjectIds ω) (query : QueryMessage) (db : DocumentDb ω) :
    Except ElementError (List NodeMessage) :=
  let found := db.nodeMessage.filter fun doc =>
    isText "toNodeID" query.tonodeid doc && inRange query (numberOf "incrementID" doc)
  let cursor := found.mergeSort fun doc doc' =>
    decide ((numberOf "incrementID" doc').getD 0 ≤ (numberOf "incrementID" doc).getD 0)
  cursor.mapM (nodemessageDocument ids)

/-- `mongo_client::queryMedia`. -/
def queryMedia (md5 : String) (db : DocumentDb ω) : Except QueryError Media :=
  match findOne (isText "md5" md5) db.media with
  | none => .error (.system ⟨40062, "media not find"⟩)
  | some doc => Except.mapError .element do
      let type ← getInt32 "type" doc
      let md5 ← getUtf8 "md5" doc
      let path ← getUtf8 "path" doc
      return ⟨md5, path, type⟩

end MongoClient

end Yijian
