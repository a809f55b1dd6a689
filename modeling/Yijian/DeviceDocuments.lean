import Yijian.Devices
import Yijian.StoredDocuments
import Yijian.Turns

/-!
# Documents of Devices

The collection `connectInfo` as the driver keeps it. The users of a device, who each have a
session number, are an array of documents in the document of the device; the array is built from a
map, in the order in which the map is gone through, and is read into a map again. A session number
is stored back by the positional operator. The records that the handlers are modelled over have
the map itself.

## Convention

A map that is gone through has an order, which depends on the library and is none of the program's
business. `MapOrder` is any such order, and the document shows the record whatever it is. In the
array of users a user is looked up by position: the update names the element that the query has
found. Documents are never taken away, and the names and types of their fields are those with which
they are inserted, so that no query throws for a field. The run is of calls, with the failure of an
operation or none, and the calls are those that the handlers make of the records of
`Yijian.Devices`.

## Main results

* `ConnectInfo.Shown.findUUID`: what `findUUID` reads of a document.
* `shows_call`: a call does to the documents what it does to the records.
* `devices_refine_records`: in every run the queries read the records.
-/

namespace Yijian

open Bson Documents Runs

variable {ω : Type}

/-! ### The calls -/

/-- An order in which a map from users to session numbers is gone through. -/
structure MapOrder (users : String → Option ℤ) where
  entries : List (String × ℤ)
  nodup : (entries.map Prod.fst).Nodup
  lookup : ∀ userid, (lookup Prod.fst userid entries).map Prod.snd = users userid

/-- An element of the array of users. -/
def sessionValue (map : String × ℤ) : Value ω :=
  .document [("userID", .utf8 map.1), ("sessionID", .int32 map.2)]

/-- The fields that `insertUUID` and `updateUUID` store besides the key; `ts` is the time. -/
def connectFields (connectInfo : ConnectInfo) (order : MapOrder connectInfo.users) (ts : ℤ) :
    Fields ω :=
  [("userID", .utf8 connectInfo.userid), ("isLogin", .bool connectInfo.islogin),
    ("isConnected", .bool connectInfo.isconnected),
    ("isReciveNoti", .bool connectInfo.isrecivenoti), ("serverName", .utf8 serverName),
    ("users", .array (order.entries.map sessionValue)),
    ("clientVersion", .utf8 connectInfo.clientversion),
    ("OSVersion", .utf8 connectInfo.osversion), ("appVersion", .utf8 connectInfo.appversion),
    ("timestamp", .int64 ts)]

/-- The map that the elements are put into, one after the other. -/
def putUsers (entries : List (String × ℤ)) : String → Option ℤ :=
  entries.foldl (fun (musers : String → Option ℤ) map =>
    Function.update musers map.1 (some map.2)) fun _ => none

/-- An element of the array of users, as `findUUID` reads it. -/
def sessionElement (it : Value ω) : Except ElementError (String × ℤ) := do
  let doc ← elementDocument it
  let userid ← getUtf8 "userID" doc
  let sessionid ← getInt32 "sessionID" doc
  return (userid, sessionid)

/-- A row of `devices`. -/
def infoLittle (doc : Fields ω) : Except ElementError ConnectInfoLittle := do
  let uuid ← getUtf8 "UUID" doc
  let isconnected ← getBool "isConnected" doc
  let isrecivenoti ← getBool "isReciveNoti" doc
  return ⟨uuid, isconnected, isrecivenoti⟩

namespace MongoClient

/-- `mongo_client::insertUUID`; `id` is the object id that the driver gives the document. -/
def insertUUID [DecidableEq ω] (connectInfo : ConnectInfo) (order : MapOrder connectInfo.users)
    (ts : ℤ) (id : ω) (docs : List (Fields ω)) : Except SystemError (List (Fields ω)) :=
  Except.mapError (fun _ => ⟨40030, "connection insert failure"⟩)
    (insertDoc (fun doc => isOid "_id" id doc || isText "UUID" connectInfo.uuid doc)
      (("_id", .oid id) :: ("UUID", .utf8 connectInfo.uuid) :: connectFields connectInfo order ts)
      docs)

/-- `mongo_client::updateUUID`. -/
def updateUUID (connectInfo : ConnectInfo) (order : MapOrder connectInfo.users) (ts : ℤ)
    (docs : List (Fields ω)) : Except SystemError (List (Fields ω)) :=
  Except.mapError (fun _ => ⟨40031, "connection update failure"⟩)
    (updateDoc (isText "UUID" connectInfo.uuid)
      (fun doc => some (setAll (connectFields connectInfo order ts) doc)) docs)

/-- `mongo_client::updateSessionID`, up to what it catches. -/
def updateSessionID (uuid userid : String) (sessionid : ℕ) (docs : List (Fields ω)) :
    Except SystemError (List (Fields ω)) :=
  updateDoc (fun doc => isText "UUID" uuid doc && hasElement "users" (isText "userID" userid) doc)
    (setInMatched "users" (isText "userID" userid) "sessionID" (.int32 sessionid)) docs

/-- `mongo_client::findUUID`: whether there is a document, and `connectInfo` after it. -/
def findUUID (uuid : String) (connectInfo : ConnectInfo) (docs : List (Fields ω)) :
    Except ElementError (Bool × ConnectInfo) :=
  match findOne (isText "UUID" uuid) docs with
  | none => .ok (false, connectInfo)
  | some doc => do
      let userid ← getUtf8 "userID" doc
      let islogin ← getBool "isLogin" doc
      let isconnected ← getBool "isConnected" doc
      let isrecivenoti ← getBool "isReciveNoti" doc
      let users ← readArray sessionElement "users" doc
      return (true, { connectInfo with
        uuid := uuid
        userid := userid
        islogin := islogin
        isconnected := isconnected
        isrecivenoti := isrecivenoti
        servername := serverName
        users := putUsers users })

/-- The rows of the devices, here and logged in, of the users that are asked for. -/
def rowsOf (isUser : Fields ω → Bool) (docs : List (Fields ω)) :
    List ConnectInfoLittle × Option ElementError :=
  readRows infoLittle (docs.filter fun doc =>
    isUser doc && isText "serverName" serverName doc && isBool "isLogin" true doc)

/-- `mongo_client::devices` of a user. -/
def devices (touserid : String) (docs : List (Fields ω)) :
    List ConnectInfoLittle × Option ElementError :=
  rowsOf (isText "userID" touserid) docs

/-- `mongo_client::devices` of members. -/
def devicesOf (membersid : List String) (currentUserid : String) (docs : List (Fields ω)) :
    List ConnectInfoLittle × Option ElementError :=
  rowsOf (fun doc => (membersid.filter (· ≠ currentUserid)).any fun memberid =>
    isText "userID" memberid doc) docs

end MongoClient

/-- A call that writes to the collection. -/
inductive DeviceCall (ω : Type)
  | insertUUID (connectInfo : ConnectInfo) (order : MapOrder connectInfo.users) (ts : ℤ) (id : ω)
  | updateUUID (connectInfo : ConnectInfo) (order : MapOrder connectInfo.users) (ts : ℤ)
  | updateSessionID (uuid userid : String) (sessionid : ℕ)

/-- The call on the documents. -/
def DeviceCall.call [DecidableEq ω] :
    DeviceCall ω → List (Fields ω) → Except SystemError (List (Fields ω))
  | insertUUID connectInfo order ts id => MongoClient.insertUUID connectInfo order ts id
  | updateUUID connectInfo order ts => MongoClient.updateUUID connectInfo order ts
  | updateSessionID uuid userid sessionid => MongoClient.updateSessionID uuid userid sessionid

/-- The call on the records. -/
def DeviceCall.record : DeviceCall ω → DeviceDb → Option DeviceDb
  | insertUUID connectInfo _ _ _, db => db.insertUUID connectInfo
  | updateUUID connectInfo _ _, db => some (db.updateUUID connectInfo)
  | updateSessionID uuid userid sessionid, db => some (db.updateSessionID uuid userid sessionid)

/-! ### Documents of records -/

/-- The document is that of the record. -/
structure ConnectInfo.Shown (doc : Fields ω) (info : ConnectInfo) : Prop where
  uuid : get "UUID" doc = some (.utf8 info.uuid)
  server : info.servername = serverName
  fields : ∃ (order : MapOrder info.users) (ts : ℤ),
    ∀ field ∈ connectFields info order ts, get field.1 doc = some field.2

/-- The documents are those of the records. -/
def ConnectShows (docs : List (Fields ω)) (infos : List ConnectInfo) : Prop :=
  List.Forall₂ ConnectInfo.Shown docs infos

/-! ### Maps and their orders -/

/-- Entries of different users are read as they are. -/
theorem putUsers_apply {entries : List (String × ℤ)} (h : (entries.map Prod.fst).Nodup)
    (userid : String) :
    putUsers entries userid = (lookup Prod.fst userid entries).map Prod.snd := by
  have hread : ∀ (entries : List (String × ℤ)) (musers : String → Option ℤ) (userid : String),
      (entries.map Prod.fst).Nodup →
      entries.foldl (fun (musers : String → Option ℤ) map =>
          Function.update musers map.1 (some map.2)) musers userid =
        ((lookup Prod.fst userid entries).map Prod.snd).or (musers userid) := by
    intro entries
    induction entries with
    | nil => exact fun _ _ _ => rfl
    | cons map entries ih =>
        intro musers userid hnodup
        rw [List.map_cons, List.nodup_cons] at hnodup
        rw [List.foldl_cons, ih _ _ hnodup.2, lookup_cons]
        by_cases huser : map.1 = userid
        · have hnone : lookup Prod.fst userid entries = none :=
            lookup_eq_none_iff.mpr (huser ▸ hnodup.1)
          rw [hnone, if_pos huser, ← huser, Function.update_self]
          rfl
        · rw [if_neg huser, Function.update_of_ne (Ne.symm huser)]
  rw [putUsers, hread _ _ _ h, Option.or_none]

/-- A map that is read again is the same. -/
theorem MapOrder.putUsers_entries {users : String → Option ℤ} (order : MapOrder users) :
    putUsers order.entries = users := by
  funext userid
  rw [putUsers_apply order.nodup, order.lookup]

/-- Entries of different users are an order of the map that they make. -/
def MapOrder.ofEntries (entries : List (String × ℤ)) (h : (entries.map Prod.fst).Nodup) :
    MapOrder (putUsers entries) where
  entries := entries
  nodup := h
  lookup userid := (putUsers_apply h userid).symm

/-- The order after the update of a number. -/
def MapOrder.update {users : String → Option ℤ} (order : MapOrder users) {userid : String}
    (h : (users userid).isSome = true) (sessionid : ℤ) :
    MapOrder (Function.update users userid (some sessionid)) where
  entries := updateOne (fun map => map.1 == userid) (fun map => (map.1, sessionid)) order.entries
  nodup := by
    have hkeys : (updateOne (fun map => map.1 == userid) (fun map => (map.1, sessionid))
        order.entries).map Prod.fst = order.entries.map Prod.fst :=
      map_updateOne (by exact fun _ _ => rfl) order.entries
    rw [hkeys]
    exact order.nodup
  lookup := by
    intro userid'
    have hlookup : Documents.lookup Prod.fst userid' (updateOne (fun map => map.1 == userid)
        (fun map => (map.1, sessionid)) order.entries) =
        if userid' = userid then
          (Documents.lookup Prod.fst userid' order.entries).map fun map => (map.1, sessionid)
        else Documents.lookup Prod.fst userid' order.entries :=
      lookup_updateOne (by exact fun _ h => h) userid' order.entries
    rw [hlookup]
    by_cases huser : userid' = userid
    · obtain ⟨v, hv⟩ := Option.isSome_iff_exists.mp h
      have hmap := order.lookup userid
      rw [hv] at hmap
      obtain ⟨map, hlookup, -⟩ := Option.map_eq_some_iff.mp hmap
      rw [if_pos huser, huser, hlookup, Function.update_self]
      rfl
    · rw [if_neg huser, Function.update_of_ne huser]
      exact order.lookup userid'

/-! ### What is read of a document -/

/-- The fields that a device has besides its UUID. -/
theorem connectFields_names (info : ConnectInfo) (order : MapOrder info.users) (ts : ℤ) :
    (connectFields info order ts : Fields ω).map Prod.fst =
      ["userID", "isLogin", "isConnected", "isReciveNoti", "serverName", "users",
        "clientVersion", "OSVersion", "appVersion", "timestamp"] := rfl

/-- What `findUUID` makes of `connectInfo_`, and a row of `devices`. -/
def ConnectInfo.little (info : ConnectInfo) : ConnectInfoLittle :=
  ⟨info.uuid, info.isconnected, info.isrecivenoti⟩

section Reading

variable {doc : Fields ω} {info : ConnectInfo}

/-- A filter by UUID finds the document of the device. -/
theorem ConnectInfo.Shown.isText_uuid (h : info.Shown doc) (uuid : String) :
    isText "UUID" uuid doc = (info.uuid == uuid) :=
  isText_of_get h.uuid uuid

/-- The gets of a document, by name. -/
theorem ConnectInfo.Shown.gets (h : info.Shown doc) :
    get "userID" doc = some (.utf8 info.userid) ∧ get "isLogin" doc = some (.bool info.islogin) ∧
      get "isConnected" doc = some (.bool info.isconnected) ∧
      get "isReciveNoti" doc = some (.bool info.isrecivenoti) ∧
      get "serverName" doc = some (.utf8 serverName) ∧
      ∃ order : MapOrder info.users,
        get "users" doc = some (.array (order.entries.map sessionValue)) := by
  obtain ⟨order, ts, hfields⟩ := h.fields
  simp only [connectFields, List.forall_mem_cons] at hfields
  obtain ⟨huser, hlogin, hconnected, hnoti, hserver, husers, -⟩ := hfields
  exact ⟨huser, hlogin, hconnected, hnoti, hserver, order, husers⟩

/-- A filter by user finds the documents of the devices of the user. -/
theorem ConnectInfo.Shown.isText_userid (h : info.Shown doc) (userid : String) :
    isText "userID" userid doc = (info.userid == userid) :=
  isText_of_get h.gets.1 userid

/-- An element is that of a user by its first field. -/
theorem matchesElement_sessionValue (userid : String) (map : String × ℤ) :
    matchesElement (isText "userID" userid) (sessionValue map : Value ω) = (map.1 == userid) := by
  rw [sessionValue, matchesElement, isText, Bool.eq_iff_iff, decide_eq_true_iff, beq_iff_eq]
  exact ⟨fun h => Option.some.inj h, fun h => congrArg some h⟩

/-- The users are read as the map. -/
theorem ConnectInfo.Shown.hasElement (h : info.Shown doc) (userid : String) :
    hasElement "users" (isText "userID" userid) doc = (info.users userid).isSome := by
  obtain ⟨-, -, -, -, -, order, husers⟩ := h.gets
  rw [Bson.hasElement, husers, ← order.lookup, Option.isSome_map, Documents.lookup, findOne,
    List.isSome_find?]
  simp only [List.any_map]
  exact congrArg order.entries.any (funext fun map => matchesElement_sessionValue userid map)

/-- A filter by UUID and user finds the device where the user has a number. -/
theorem ConnectInfo.Shown.matches_user (h : info.Shown doc) (uuid userid : String) :
    (isText "UUID" uuid doc && Bson.hasElement "users" (isText "userID" userid) doc) =
      (info.uuid == uuid && (info.users userid).isSome) := by
  rw [h.isText_uuid, h.hasElement]

/-- **What `findUUID` reads** of a document. -/
theorem ConnectInfo.Shown.findUUID (h : info.Shown doc) (current : ConnectInfo)
    {docs : List (Fields ω)} (hdoc : findOne (isText "UUID" info.uuid) docs = some doc) :
    MongoClient.findUUID info.uuid current docs = .ok (true, { info with
      servername := serverName
      clientversion := current.clientversion
      osversion := current.osversion
      appversion := current.appversion }) := by
  obtain ⟨huser, hlogin, hconnected, hnoti, -, order, husers⟩ := h.gets
  have hread : readArray sessionElement "users" doc = .ok order.entries :=
    readArray_map husers fun _ => rfl
  rw [MongoClient.findUUID, hdoc]
  simp only [getUtf8, getBool, huser, hlogin, hconnected, hnoti, hread, bind, Except.bind, pure,
    Except.pure, order.putUsers_entries]

/-- What `devices` reads of a row. -/
theorem ConnectInfo.Shown.infoLittle (h : info.Shown doc) :
    Yijian.infoLittle doc = .ok info.little := by
  obtain ⟨-, -, hconnected, hnoti, -⟩ := h.gets
  simp only [Yijian.infoLittle, getUtf8, getBool, h.uuid, hconnected, hnoti, bind, Except.bind,
    pure, Except.pure, ConnectInfo.little]

end Reading

/-! ### What a call does to a document -/

/-- The new document. -/
theorem ConnectInfo.shown (info : ConnectInfo) (order : MapOrder info.users) (ts : ℤ) (id : ω) :
    ConnectInfo.Shown
      (("_id", .oid id) :: ("UUID", .utf8 info.uuid) :: connectFields info order ts)
      { info with servername := serverName } := by
  refine ⟨rfl, rfl, order, ts, ?_⟩
  simp [connectFields, get_cons]

/-- A document that is stored again. -/
theorem ConnectInfo.Shown.setAll {doc : Fields ω} {old info : ConnectInfo} (h : old.Shown doc)
    (huuid : old.uuid = info.uuid) (order : MapOrder info.users) (ts : ℤ) :
    ConnectInfo.Shown (Bson.setAll (connectFields info order ts) doc)
      { info with servername := serverName } := by
  refine ⟨?_, rfl, order, ts, fun field hfield => ?_⟩
  · rw [get_setAll_of_notMem (by rw [connectFields_names]; decide), h.uuid, huuid]
  · exact get_setAll_of_mem (by rw [connectFields_names]; decide) hfield doc

/-- A session number that is stored back. -/
theorem ConnectInfo.Shown.setSession {doc : Fields ω} {info : ConnectInfo} (h : info.Shown doc)
    {userid : String} (huser : (info.users userid).isSome = true) (sessionid : ℤ) :
    ∃ doc', setInMatched "users" (isText "userID" userid) "sessionID" (.int32 sessionid) doc =
        some doc' ∧
      ConnectInfo.Shown doc'
        { info with users := Function.update info.users userid (some sessionid) } := by
  obtain ⟨order, ts, hfields⟩ := h.fields
  have husers : get "users" doc = some (.array (order.entries.map sessionValue)) :=
    hfields ("users", .array (order.entries.map sessionValue)) (by simp [connectFields])
  refine ⟨Bson.set "users"
    (.array ((order.update huser sessionid).entries.map sessionValue)) doc, ?_, ?_, h.server,
    order.update huser sessionid, ts, ?_⟩
  · rw [setInMatched, husers]
    simp only
    rw [updateOne_map (matchesElement_sessionValue userid) fun map => ?_]
    · rfl
    · rfl
  · rw [get_set_of_ne (by decide)]
    exact h.uuid
  · simp only [connectFields, List.forall_mem_cons] at hfields ⊢
    simp [get_set, hfields]

/-! ### What a call does to the collection -/

section Calls

variable [DecidableEq ω] {docs docs' : List (Fields ω)} {db : DeviceDb}

omit [DecidableEq ω] in
/-- A UUID is stored if it is recorded. -/
theorem ConnectShows.mem_uuid (h : ConnectShows docs db.connectInfo) {uuid : String} :
    (∃ doc ∈ docs, isText "UUID" uuid doc = true) ↔
      uuid ∈ db.connectInfo.map ConnectInfo.uuid := by
  rcases forall₂_find h fun _ _ hshown => hshown.isText_uuid uuid with
    ⟨hdoc, hinfo⟩ | ⟨doc, info, hdoc, hinfo, hshown⟩
  · rw [List.find?_eq_none] at hdoc hinfo
    refine iff_of_false (fun ⟨doc, hmem, huuid⟩ => hdoc doc hmem huuid) fun hmem => ?_
    obtain ⟨info, hinfo', huuid⟩ := List.mem_map.mp hmem
    exact hinfo info hinfo' (beq_iff_eq.mpr huuid)
  · refine iff_of_true ⟨doc, List.mem_of_find?_eq_some hdoc, List.find?_some hdoc⟩ ?_
    have huuid : (info.uuid == uuid) = true :=
      List.find?_some (p := fun info : ConnectInfo => info.uuid == uuid) hinfo
    exact beq_iff_eq.mp huuid ▸ List.mem_map_of_mem (List.mem_of_find?_eq_some hinfo)

/-- **A call** does to the documents what it does to the records. -/
theorem shows_call (h : ConnectShows docs db.connectInfo) {c : DeviceCall ω}
    (hcall : c.call docs = .ok docs') :
    ∃ db', c.record db = some db' ∧ ConnectShows docs' db'.connectInfo := by
  cases c with
  | insertUUID info order ts id =>
      simp only [DeviceCall.call, MongoClient.insertUUID, mapError_eq_ok, insertDoc_ok] at hcall
      obtain ⟨hclash, rfl⟩ := hcall
      have hnew : info.uuid ∉ db.connectInfo.map ConnectInfo.uuid := by
        rw [← h.mem_uuid]
        rintro ⟨doc, hdoc, huuid⟩
        exact hclash doc hdoc (by rw [huuid, Bool.or_true])
      refine ⟨{ db with connectInfo := db.connectInfo ++ [{ info with servername := serverName }] },
        ?_, List.rel_append h (.cons (info.shown order ts id) .nil)⟩
      rw [DeviceCall.record, DeviceDb.insertUUID, insertUnique, if_neg hnew]
      rfl
  | updateUUID info order ts =>
      simp only [DeviceCall.call, MongoClient.updateUUID, mapError_eq_ok] at hcall
      refine ⟨_, rfl, forall₂_updateDoc h (fun _ _ hshown => hshown.isText_uuid _) ?_ hcall⟩
      intro doc doc' old hshown huuid hdoc'
      obtain rfl := Option.some.inj hdoc'
      exact hshown.setAll (beq_iff_eq.mp huuid) order ts
  | updateSessionID uuid userid sessionid =>
      refine ⟨_, rfl, forall₂_updateDoc h (fun _ _ hshown => hshown.matches_user _ _) ?_ hcall⟩
      intro doc doc' info hshown hmatch hdoc'
      rw [Bool.and_eq_true] at hmatch
      obtain ⟨doc'', hset, hshown'⟩ := hshown.setSession hmatch.2 sessionid
      obtain rfl := Option.some.inj (hset.symm.trans hdoc')
      exact hshown'

/-- No document has the object id that the call brings. -/
def DeviceCall.Fresh (docs : List (Fields ω)) : DeviceCall ω → Prop
  | insertUUID _ _ _ id => ∀ doc ∈ docs, isOid "_id" id doc = false
  | _ => True

/-- **A call returns** exactly when the records take it, and its object id is a new one. -/
theorem call_ok_iff (h : ConnectShows docs db.connectInfo) (c : DeviceCall ω) :
    (∃ docs', c.call docs = .ok docs') ↔ c.Fresh docs ∧ (c.record db).isSome = true := by
  cases c with
  | insertUUID info order ts id =>
      have hrecord : (db.insertUUID info).isSome = true ↔
          ¬ ∃ doc ∈ docs, isText "UUID" info.uuid doc = true := by
        rw [h.mem_uuid, DeviceDb.insertUUID, Option.isSome_map, insertUnique]
        split
        · rename_i hmem
          exact iff_of_false Bool.false_ne_true (not_not.mpr hmem)
        · rename_i hnew
          exact iff_of_true rfl hnew
      rw [DeviceCall.Fresh, DeviceCall.record, hrecord]
      simp only [DeviceCall.call, MongoClient.insertUUID, mapError_eq_ok, insertDoc_ok,
        exists_and_left, exists_eq, and_true, Bool.or_eq_true, not_or, Bool.not_eq_true,
        not_exists, not_and]
      exact forall₂_and
  | updateUUID info order ts =>
      refine iff_of_true ?_ ⟨trivial, rfl⟩
      obtain ⟨docs', hdocs'⟩ : ∃ docs', updateDoc (isText "UUID" info.uuid)
          (fun doc => some (setAll (connectFields info order ts) doc)) docs = .ok docs' :=
        exists_updateDoc fun _ _ => ⟨_, rfl⟩
      exact ⟨docs', mapError_eq_ok.mpr hdocs'⟩
  | updateSessionID uuid userid sessionid =>
      refine iff_of_true (exists_updateDoc fun doc hdoc => ?_) ⟨trivial, rfl⟩
      rcases forall₂_find h fun _ _ hshown => hshown.matches_user uuid userid with
        ⟨hnone, -⟩ | ⟨doc', info, hdoc', hinfo, hshown⟩
      · cases hnone.symm.trans hdoc
      · obtain rfl := Option.some.inj (hdoc.symm.trans hdoc')
        have hmatch := List.find?_some hinfo
        rw [Bool.and_eq_true] at hmatch
        obtain ⟨doc', hset, -⟩ := hshown.setSession hmatch.2 sessionid
        exact ⟨doc', hset⟩

end Calls

/-! ### What the queries read -/

section Queries

variable {docs : List (Fields ω)} {db : DeviceDb}

/-- **What `findUUID` makes** of `connectInfo_`. -/
theorem ConnectShows.findUUID (h : ConnectShows docs db.connectInfo) (uuid : String)
    (current : ConnectInfo) : MongoClient.findUUID uuid current docs =
      .ok ((db.device uuid).isSome, db.findUUID uuid current) := by
  rw [DeviceDb.findUUID, DeviceDb.device, Documents.lookup, findOne]
  rcases forall₂_find h fun _ _ hshown => hshown.isText_uuid uuid with
    ⟨hdoc, hinfo⟩ | ⟨doc, info, hdoc, hinfo, hshown⟩
  · rw [MongoClient.findUUID, findOne, hdoc, hinfo]
    rfl
  · have huuid : (info.uuid == uuid) = true :=
      List.find?_some (p := fun info : ConnectInfo => info.uuid == uuid) hinfo
    obtain rfl := beq_iff_eq.mp huuid
    rw [hshown.findUUID current hdoc, hinfo]
    rfl

/-- The records of the devices, here and logged in, of the users that are asked for. -/
def DeviceDb.rowsOf (isUser : String → Bool) (db : DeviceDb) : List ConnectInfo :=
  db.connectInfo.filter fun info =>
    isUser info.userid && info.servername == serverName && info.islogin

/-- **What `devices` reads**: the rows of the records, and it reads them all. -/
theorem ConnectShows.rowsOf (h : ConnectShows docs db.connectInfo)
    {isUser : Fields ω → Bool} {isUser' : String → Bool}
    (huser : ∀ doc info, ConnectInfo.Shown doc info → isUser doc = isUser' info.userid) :
    MongoClient.rowsOf isUser docs = ((db.rowsOf isUser').map ConnectInfo.little, none) := by
  have hrows : List.Forall₂ ConnectInfo.Shown
      (docs.filter fun doc => isUser doc && isText "serverName" serverName doc &&
        isBool "isLogin" true doc) (db.rowsOf isUser') := by
    refine List.rel_filter (fun {doc info} hshown => ?_) h
    obtain ⟨-, hlogin, -, -, hserver, -⟩ := hshown.gets
    simp [huser doc info hshown, isText, textOf, hserver, isBool, hlogin, hshown.server]
  refine readRows_of_forall₂ ?_
  rw [List.forall₂_map_right_iff]
  exact hrows.imp fun _ _ hshown => hshown.infoLittle

end Queries

/-! ### Runs -/

/-- The documents, and the records. -/
structure DeviceRun (ω : Type) where
  docs : List (Fields ω)
  records : DeviceDb

/-- The empty collection. -/
def DeviceRun.new (user : List Account) : DeviceRun ω := ⟨[], ⟨user, []⟩⟩

variable [DecidableEq ω]

/-- A call, which does nothing where it fails, with the fault or by itself. -/
def deviceStep (s : DeviceRun ω) (e : DeviceCall ω × Option SystemError) : DeviceRun ω :=
  match e.2, e.1.call s.docs with
  | none, .ok docs => ⟨docs, (e.1.record s.records).getD s.records⟩
  | _, _ => s

/-- Every step keeps documents and records together. -/
theorem shows_step {s : DeviceRun ω} (h : ConnectShows s.docs s.records.connectInfo)
    (e : DeviceCall ω × Option SystemError) :
    ConnectShows (deviceStep s e).docs (deviceStep s e).records.connectInfo := by
  rw [deviceStep]
  split
  · rename_i docs _ hcall
    obtain ⟨db', hrecord, hshows⟩ := shows_call h hcall
    rw [hrecord]
    exact hshows
  · exact h

/-- **The collection refines the records**: in every run, whatever fails, the calls that return are
those that the records take, and the queries read the records. -/
theorem devices_refine_records (user : List Account)
    (es : List (DeviceCall ω × Option SystemError)) :
    let s := es.foldl deviceStep (DeviceRun.new user)
    (∀ c : DeviceCall ω, (∃ docs, c.call s.docs = .ok docs) ↔
      c.Fresh s.docs ∧ (c.record s.records).isSome = true) ∧
    (∀ uuid current, MongoClient.findUUID uuid current s.docs =
      .ok ((s.records.device uuid).isSome, s.records.findUUID uuid current)) ∧
    (∀ touserid, MongoClient.devices touserid s.docs =
      ((s.records.devices touserid).map ConnectInfo.little, none)) ∧
    ∀ membersid currentUserid, MongoClient.devicesOf membersid currentUserid s.docs =
      ((s.records.rowsOf fun userid =>
        (membersid.filter (· ≠ currentUserid)).contains userid).map ConnectInfo.little, none) := by
  intro s
  have hshows : ConnectShows s.docs s.records.connectInfo :=
    inv_foldl_of_step (I := fun s : DeviceRun ω => ConnectShows s.docs s.records.connectInfo)
      (fun _ e h => shows_step h e) es .nil
  have hdevices (touserid : String) : MongoClient.rowsOf (isText "userID" touserid) s.docs =
      ((s.records.rowsOf (· == touserid)).map ConnectInfo.little, none) :=
    hshows.rowsOf fun _ _ hshown => hshown.isText_userid touserid
  refine ⟨fun c => call_ok_iff hshows c, fun uuid current => hshows.findUUID uuid current,
    hdevices, fun membersid currentUserid => hshows.rowsOf fun doc info hshown => ?_⟩
  simp only [hshown.isText_userid]
  exact List.contains_eq_any_beq.symm

/-- A phone that two users share, with the second one logged in. -/
def sharedPhone : ConnectInfo :=
  { ConnectInfo.empty with
    uuid := "phone"
    userid := "b"
    islogin := true
    users := putUsers [("a", 100), ("b", 0)] }

/-- The phone is stored; then the numbers of both users, the second time in vain; and then the
phone once more, which the index refuses. -/
def phoneCalls : List (DeviceCall ℕ × Option SystemError) :=
  let order : MapOrder sharedPhone.users := .ofEntries [("a", 100), ("b", 0)] (by decide)
  [(.insertUUID sharedPhone order 0 1, none), (.updateSessionID "phone" "b" 103, none),
    (.updateSessionID "phone" "a" 7, some ⟨13053, "no suitable servers found"⟩),
    (.insertUUID sharedPhone order 0 2, none)]

/-- What the queries read after the four calls. -/
theorem devices_refine_records_phoneCalls :
    let s := phoneCalls.foldl deviceStep (DeviceRun.new [])
    MongoClient.devices "b" s.docs = ([⟨"phone", false, false⟩], none) ∧
      ∃ found, MongoClient.findUUID "phone" .empty s.docs = .ok (true, found) ∧
        found.users "a" = some 100 ∧ found.users "b" = some 103 := by
  obtain ⟨-, hfind, hdevices, -⟩ := devices_refine_records (ω := ℕ) [] phoneCalls
  exact ⟨hdevices "b", _, hfind "phone" .empty, rfl, rfl⟩

end Yijian
