import Yijian.Confidential
import Yijian.FriendGraph
import Yijian.ReadBack

/-!
# Profiles

What the collection `user` is for: it keeps a profile of each user, which the user changes one
property at a time, and which grows by a friend when a request is agreed to. Each change counts
the version of the profile up by one. A client that has a profile asks for the version, and for
the profile only if the version is another one.

All calls that write to the collection are here, and any operation of them may fail. A profile
is a record; what becomes of it in a run is the list of changes that the calls have come to,
and what the documents are for is to read as the profiles. The devices of a user are no part
of the profile: they change without a new version.

## Relation to `Yijian.ReadBack`

There each value is followed from one call to one query. Here the collection as a whole has a
meaning, a list of profiles, and every call is one change of this list or none: a call that fails
may have come to its change or to nothing, but never to half of one, since each change is one update
of one document. This is what the version rests on. Adding a friend is two calls' worth of updates
on two users and comes to two changes, one of which may be missing.

## Main results

* `Shown.userDocoument`: what a document of a profile reads as, and when it reads no more.
* `shown_call`: a call changes the documents as it changes the profiles.
* `users_refine_profiles`: in every run the queries read the profiles.
* `cached_user_valid`: a user that is read again with the same version is the same.
-/

namespace Yijian

open Bson Documents Runs

variable {ω : Type}

/-! ### The calls -/

/-- The value of a property, as it is stored. -/
def PropertyValue.value : PropertyValue → Value ω
  | .bool b => .bool b
  | .int32 i => .int32 i
  | .utf8 s => .utf8 s

/-- The field and the value of a property, or what `mongo_client::setUserProperty` throws in front
of its update. -/
def propertyField (property : Chat.SetUserProperty) : Except Thrown (String × PropertyValue) :=
  match propertyString property.property with
  | none => .error (.system ⟨40012, "no this property"⟩)
  | some property_string =>
      if property_string.toList.take 2 = ['i', 's'] then
        .ok (property_string, .bool (property.value.toList.head? = some 't'))
      else if property_string = "birthday" then
        match stoi property.value with
        | none => .error .other
        | some birthday_ts => .ok (property_string, .int32 birthday_ts)
      else .ok (property_string, .utf8 property.value)

namespace MongoClient

section Calls

variable [DecidableEq ω]

/-- `mongo_client::setUserProperty`. -/
def setUserProperty (ids : ObjectIds ω) (userID : String) (property : Chat.SetUserProperty)
    (db : DocumentDb ω) : Except Thrown (DocumentDb ω) := do
  let (name, v) ← propertyField property
  let id ← (ids.oid userID).mapError .system
  let user ← (updateDoc (isOid "_id" id) (fun doc => inc "version" 1 (set name v.value doc))
    db.user).mapError .system
  return { db with user := user }

/-- A new friend in the document of a user. -/
def addToFriends (ids : ObjectIds ω) (userid : String) (info : UserInfo) (db : DocumentDb ω) :
    Except SystemError (DocumentDb ω) := do
  let id ← ids.oid userid
  let user ← updateDoc (isOid "_id" id)
    (fun doc => (addDocument "friends" [("toNodeID", info.toNodeID), ("userID", info.userID)]
      doc).bind (inc "version" 1)) db.user
  return { db with user := user }

/-- A new status of a request. -/
def setStatus (key status : String) (db : DocumentDb ω) : Except SystemError (DocumentDb ω) := do
  let addFriend ← updateDoc (isText "littleIDBigID" key)
    (fun doc => some (set "status" (.utf8 status) doc)) db.addFriend
  return { db with addFriend := addFriend }

/-- `mongo_client::insertUnreadNode`, which throws nothing. -/
def insertUnread (fault : Option SystemError) (userid tonodeid : String) (db : DocumentDb ω) :
    Except SystemError (DocumentDb ω) :=
  .ok { db with userUnread := insertUnreadNode fault userid tonodeid db.userUnread }

/-- The operations of `mongo_client::addFriendAuthorize` behind its checks. -/
def authorizeOps (ids : ObjectIds ω) (inviter invitee tonodeid : String)
    (fault : ℕ → Option SystemError) : List (DocumentDb ω → Except SystemError (DocumentDb ω)) :=
  let key := littleIDBigID inviter invitee
  [setStatus key "agree",
    addToFriends ids inviter ⟨invitee, tonodeid⟩,
    setStatus key "inviter",
    insertUnread (fault 3) inviter tonodeid,
    setStatus key "userUnreadInviter",
    addToFriends ids invitee ⟨inviter, tonodeid⟩,
    setStatus key "invitee",
    insertUnread (fault 7) invitee tonodeid,
    setStatus key "finish"]

/-- `mongo_client::addFriendAuthorize`; the operation with the number `n` fails with `fault n`,
the lookup in front of them with `lookup`. -/
def addFriendAuthorize (ids : ObjectIds ω) (inviter invitee : String)
    (lookup : Option SystemError) (fault : ℕ → Option SystemError) (db : DocumentDb ω) :
    Except QueryError Unit × DocumentDb ω :=
  match lookup with
  | some e => (.error (.system e), db)
  | none =>
      match findOne (isText "littleIDBigID" (littleIDBigID inviter invitee)) db.addFriend with
      | none => (.error (.system ⟨40008, "not find add friend request"⟩), db)
      | some doc =>
          match getUtf8 "status" doc with
          | .error e => (.error (.element e), db)
          | .ok status =>
              if status ≠ "createNodeCount" then
                (.error (.system ⟨40009, "add friend authorize info not consistently"⟩), db)
              else
                match getUtf8 "toNodeID" doc with
                | .error e => (.error (.element e), db)
                | .ok tonodeid =>
                    match run (thrown fault) (authorizeOps ids inviter invitee tonodeid fault)
                      db with
                    | (.error _, db) =>
                        (.error (.system ⟨40005, "add friend authorize failre"⟩), db)
                    | (.ok (), db) => (.ok (), db)

end Calls

end MongoClient

/-- A call of `mongo_client` that writes to the collection `user`, or one that writes to the
others. -/
inductive UserCall (ω : Type)
  | insertUser (enroll : Register) (id : ω)
  | insertDevice (userID : String) (device : Device)
  | updateDevice (userID : String) (device : Device)
  | setUserProperty (userID : String) (property : Chat.SetUserProperty)
  | addFriendAuthorize (inviter invitee : String) (fault : ℕ → Option SystemError)
  | others (db : DocumentDb ω)

/-- The documents after an operation that fails with `fault` or by itself, and whether it has been
done. -/
def attemptOn {ε : Type} (fault : Option SystemError) (r : Except ε (DocumentDb ω))
    (db : DocumentDb ω) : Bool × DocumentDb ω :=
  match fault, r with
  | none, .ok db' => (true, db')
  | _, _ => (false, db)

/-- What a call does to the collections, and whether it returns. -/
def UserCall.call [DecidableEq ω] (ids : ObjectIds ω) (fault : Option SystemError)
    (db : DocumentDb ω) : UserCall ω → Bool × DocumentDb ω
  | .insertUser enroll id =>
      attemptOn fault ((MongoClient.insertUser ids enroll id db).map Prod.snd) db
  | .insertDevice userID device =>
      attemptOn fault (MongoClient.insertDevice ids userID device db) db
  | .updateDevice userID device =>
      attemptOn fault (MongoClient.updateDevice ids userID device db) db
  | .setUserProperty userID property =>
      attemptOn fault (MongoClient.setUserProperty ids userID property db) db
  | .addFriendAuthorize inviter invitee faults =>
      match MongoClient.addFriendAuthorize ids inviter invitee fault faults db with
      | (.ok (), db) => (true, db)
      | (.error _, db) => (false, db)
  | .others db' => (true, { db' with user := db.user })

/-! ### The profiles -/

/-- A property of a user, with its value. -/
inductive UserProperty
  | realname (s : String)
  | nickname (s : String)
  | icon (s : String)
  | description (s : String)
  | isMale (b : Bool)
  | birthday (ts : ℤ)

/-- The field of a property. -/
def UserProperty.field : UserProperty → String × PropertyValue
  | .realname s => ("realname", .utf8 s)
  | .nickname s => ("nickname", .utf8 s)
  | .icon s => ("icon", .utf8 s)
  | .description s => ("description", .utf8 s)
  | .isMale b => ("isMale", .bool b)
  | .birthday ts => ("birthday", .int32 ts)

/-- The property that a request names, with a value that can be read. -/
def Chat.SetUserProperty.named (property : Chat.SetUserProperty) : Option UserProperty :=
  match property.property with
  | 0 => some (.realname property.value)
  | 1 => some (.nickname property.value)
  | 2 => some (.icon property.value)
  | 3 => some (.description property.value)
  | 4 => some (.isMale (property.value.toList.head? = some 't'))
  | 5 => (stoi property.value).map .birthday
  | _ => none

/-- The profile of a user; `changes` counts the changes since the user has registered. -/
structure Profile where
  id : String
  realname : String
  nickname : String
  icon : String
  description : String
  isMale : Bool
  phoneno : String
  countrycode : String
  password : String
  birthday : ℤ
  changes : ℕ
  friends : List UserInfo
deriving DecidableEq

/-- The profile of a user that has registered. -/
def Register.profile (enroll : Register) (id : String) : Profile :=
  ⟨id, "", enroll.nickname, "", "", true, enroll.phoneno, enroll.countrycode, enroll.password, 0,
    0, []⟩

namespace Profile

/-- The profile with the id. -/
def hasId (id : String) (profile : Profile) : Bool := profile.id == id

/-- The profile with the phone number. -/
def hasPhone (phoneNo countryCode : String) (profile : Profile) : Bool :=
  profile.countrycode == countryCode && profile.phoneno == phoneNo

/-- A change of a property. -/
def set (p : UserProperty) (profile : Profile) : Profile :=
  let profile := { profile with changes := profile.changes + 1 }
  match p with
  | .realname s => { profile with realname := s }
  | .nickname s => { profile with nickname := s }
  | .icon s => { profile with icon := s }
  | .description s => { profile with description := s }
  | .isMale b => { profile with isMale := b }
  | .birthday ts => { profile with birthday := ts }

/-- A friend, who is new or not. -/
def befriend (info : UserInfo) (profile : Profile) : Profile :=
  { profile with changes := profile.changes + 1, friends := addToSet info profile.friends }

/-- The user of a profile, with these devices. -/
def user (profile : Profile) (devices : List Device) : User :=
  ⟨profile.id, profile.realname, profile.nickname, profile.icon, profile.description,
    profile.isMale, profile.phoneno, profile.countrycode, profile.password, profile.birthday,
    profile.changes + 1, profile.friends, [], [], devices⟩

end Profile

/-- What happens to the profiles. -/
inductive ProfileAct
  | register (enroll : Register) (id : String)
  | set (id : String) (p : UserProperty)
  | befriend (id : String) (info : UserInfo)

/-- The profiles after it. -/
def ProfileAct.apply (profiles : List Profile) : ProfileAct → List Profile
  | .register enroll id => profiles ++ [enroll.profile id]
  | .set id p => updateOne (Profile.hasId id) (Profile.set p) profiles
  | .befriend id info => updateOne (Profile.hasId id) (Profile.befriend info) profiles

/-- What a call comes to, and whether it returns. A call that fails has done nothing, but for an
authorization, which may stop between the two friends or behind both. -/
inductive UserCall.ComesTo (ids : ObjectIds ω) : UserCall ω → Bool → List ProfileAct → Prop
  | failed (e : UserCall ω) : ComesTo ids e false []
  | insertUser (enroll : Register) (id : ω) :
      ComesTo ids (.insertUser enroll id) true [.register enroll (ids.toText id)]
  | insertDevice (userID : String) (device : Device) :
      ComesTo ids (.insertDevice userID device) true []
  | updateDevice (userID : String) (device : Device) :
      ComesTo ids (.updateDevice userID device) true []
  | setUserProperty {userID : String} {id : ω} (hid : ids.oid userID = .ok id)
      {property : Chat.SetUserProperty} {p : UserProperty} (hp : property.named = some p) :
      ComesTo ids (.setUserProperty userID property) true [.set (ids.toText id) p]
  | inviterOnly {inviter invitee : String} {i : ω} (hi : ids.oid inviter = .ok i)
      (fault : ℕ → Option SystemError) (tonodeid : String) :
      ComesTo ids (.addFriendAuthorize inviter invitee fault) false
        [.befriend (ids.toText i) ⟨invitee, tonodeid⟩]
  | friends {inviter invitee : String} {i e : ω} (hi : ids.oid inviter = .ok i)
      (he : ids.oid invitee = .ok e) (fault : ℕ → Option SystemError) (tonodeid : String)
      (returns : Bool) :
      ComesTo ids (.addFriendAuthorize inviter invitee fault) returns
        [.befriend (ids.toText i) ⟨invitee, tonodeid⟩,
          .befriend (ids.toText e) ⟨inviter, tonodeid⟩]
  | others (db : DocumentDb ω) : ComesTo ids (.others db) true []

/-! ### Documents of profiles -/

/-- A friend in the document of a user. -/
def UserInfo.value (info : UserInfo) : Value ω :=
  .document (textFields [("toNodeID", info.toNodeID), ("userID", info.userID)])

/-- The fields of a document that are the profile. -/
def Profile.fields (profile : Profile) : Fields ω :=
  [("realname", .utf8 profile.realname), ("nickname", .utf8 profile.nickname),
    ("icon", .utf8 profile.icon), ("description", .utf8 profile.description),
    ("isMale", .bool profile.isMale), ("countryCode", .utf8 profile.countrycode),
    ("phoneNo", .utf8 profile.phoneno), ("password", .utf8 profile.password),
    ("birthday", .int32 profile.birthday), ("version", number (profile.changes + 1 : ℕ)),
    ("friends", .array (profile.friends.map UserInfo.value)), ("blacklist", .array []),
    ("groupNodeIDs", .array [])]

/-- The document is one of the profile. -/
structure Profile.Shown (ids : ObjectIds ω) (view : Fields ω) (profile : Profile) : Prop where
  oid : ∃ id, get "_id" view = some (.oid id) ∧ profile.id = ids.toText id
  fields : ∀ field ∈ profile.fields, get field.1 view = some field.2
  devices : ∃ devices, readArray deviceElement "devices" view = .ok devices

/-- The documents are those of the profiles. -/
def Shows (ids : ObjectIds ω) (docs : List (Fields ω)) (profiles : List Profile) : Prop :=
  List.Forall₂ (Profile.Shown ids) docs profiles

/-- Friends that are stored alike are alike. -/
theorem UserInfo.value_inj {info info' : UserInfo} :
    (info.value : Value ω) = info'.value ↔ info = info' := by
  obtain ⟨userID, toNodeID⟩ := info
  obtain ⟨userID', toNodeID'⟩ := info'
  simp [UserInfo.value, textFields, and_comm]

/-- A friend is stored if it is in the list. -/
theorem UserInfo.value_mem {info : UserInfo} {friends : List UserInfo} :
    (info.value : Value ω) ∈ friends.map UserInfo.value ↔ info ∈ friends := by
  rw [List.mem_map]
  constructor
  · rintro ⟨info', hmem, heq⟩
    exact UserInfo.value_inj.mp heq ▸ hmem
  · exact fun hmem => ⟨info, hmem, rfl⟩

/-- The friends are read as they are. -/
theorem readArray_friends {view : Fields ω} {friends : List UserInfo}
    (h : get "friends" view = some (.array (friends.map UserInfo.value))) :
    readArray (fun it => elementDocument it >>= userinfoDocument) "friends" view =
      .ok friends :=
  readArray_map h fun _ => rfl

/-- The gets of a document, by name. -/
theorem Profile.Shown.get_iff {view : Fields ω} {profile : Profile} :
    (∀ field ∈ profile.fields, get field.1 view = some field.2) ↔
      get "realname" view = some (.utf8 profile.realname) ∧
      get "nickname" view = some (.utf8 profile.nickname) ∧
      get "icon" view = some (.utf8 profile.icon) ∧
      get "description" view = some (.utf8 profile.description) ∧
      get "isMale" view = some (.bool profile.isMale) ∧
      get "countryCode" view = some (.utf8 profile.countrycode) ∧
      get "phoneNo" view = some (.utf8 profile.phoneno) ∧
      get "password" view = some (.utf8 profile.password) ∧
      get "birthday" view = some (.int32 profile.birthday) ∧
      get "version" view = some (number (profile.changes + 1 : ℕ)) ∧
      get "friends" view = some (.array (profile.friends.map UserInfo.value)) ∧
      get "blacklist" view = some (.array []) ∧ get "groupNodeIDs" view = some (.array []) := by
  simp only [Profile.fields, List.forall_mem_cons, List.not_mem_nil, false_imp_iff,
    implies_true, and_true]

/-- **What a document of a profile reads as**: the user of the profile, while the version fits into
32 bits; later it reads no more. -/
theorem Profile.Shown.userDocoument {ids : ObjectIds ω} {view : Fields ω} {profile : Profile}
    (h : profile.Shown ids view) :
    ∃ devices, userDocoument ids view =
      if ((profile.changes + 1 : ℕ) : ℤ) < 2 ^ 31 then .ok (profile.user devices)
      else .error .need_element_type := by
  obtain ⟨⟨id, hid, hprofile⟩, hfields, devices, hdevices⟩ := h
  obtain ⟨hreal, hnick, hicon, hdesc, hmale, hcountry, hphone, hpass, hbirth, hversion, hfriends,
    hblack, hgroups⟩ := Profile.Shown.get_iff.mp hfields
  refine ⟨devices, ?_⟩
  have hblack' : readArray elementUtf8 "blacklist" view = .ok [] :=
    readArray_eq_ok_iff.mpr ⟨_, hblack, .nil⟩
  have hgroups' : readArray elementUtf8 "groupNodeIDs" view = .ok [] :=
    readArray_eq_ok_iff.mpr ⟨_, hgroups, .nil⟩
  simp only [Yijian.userDocoument, userNodocNoarr, getOid, getUtf8, getBool, hid, hreal, hnick,
    hicon, hdesc, hmale, hcountry, hphone, hpass, getInt32_number hversion,
    readArray_friends hfriends, hblack', hgroups', hdevices]
  split
  · simp only [getInt32, hbirth, bind, Except.bind, pure, Except.pure, Profile.user, hprofile]
    rfl
  · simp only [getInt32, hbirth, bind, Except.bind]

/-! ### What an update does to the profile -/

/-- An update of the devices leaves the profile alone. -/
theorem Profile.Shown.of_devices {ids : ObjectIds ω} {view view' : Fields ω} {profile : Profile}
    (h : profile.Shown ids view)
    (hframe : ∀ other, "devices" ≠ other → get other view' = get other view)
    {devices : List Device} (hdevices : readArray deviceElement "devices" view' = .ok devices) :
    profile.Shown ids view' := by
  obtain ⟨⟨id, hid, hprofile⟩, hfields, -⟩ := h
  refine ⟨⟨id, (hframe _ (by decide)).trans hid, hprofile⟩, fun field hfield => ?_, devices,
    hdevices⟩
  have hne : "devices" ≠ field.1 := by
    have hnames : ∀ name ∈ (profile.fields (ω := ω)).map Prod.fst, "devices" ≠ name := by
      simp [Profile.fields]
    exact hnames field.1 (List.mem_map_of_mem hfield)
  exact (hframe _ hne).trans (hfields field hfield)

/-- A new document shows a new profile. -/
theorem Register.shown (ids : ObjectIds ω) (enroll : Register) (id : ω) :
    (enroll.profile (ids.toText id)).Shown ids
      [("_id", .oid id), ("realname", .utf8 ""), ("nickname", .utf8 enroll.nickname),
        ("icon", .utf8 ""), ("description", .utf8 ""), ("isMale", .bool true),
        ("countryCode", .utf8 enroll.countrycode), ("phoneNo", .utf8 enroll.phoneno),
        ("password", .utf8 enroll.password), ("birthday", .int32 0), ("version", .int32 1),
        ("friends", .array []), ("blacklist", .array []), ("groupNodeIDs", .array []),
        ("devices", .array [])] := by
  have hnumber : number ((0 + 1 : ℕ) : ℤ) = (.int32 1 : Value ω) := if_pos (by decide)
  refine ⟨⟨id, rfl, rfl⟩, Profile.Shown.get_iff.mpr ?_, [], rfl⟩
  exact ⟨rfl, rfl, rfl, rfl, rfl, rfl, rfl, rfl, rfl, congrArg some hnumber.symm, rfl, rfl, rfl⟩

/-- What counting up the version does to a document in which the version is not touched. -/
theorem inc_version {view view' view'' : Fields ω} {profile : Profile}
    (hversion : get "version" view = some (number (profile.changes + 1 : ℕ)))
    (hview' : get "version" view' = get "version" view)
    (hinc : inc "version" 1 view' = some view'') :
    view'' = set "version" (number (profile.changes + 1 + 1 : ℕ)) view' := by
  rw [inc_number (hview'.trans hversion)] at hinc
  split at hinc
  · obtain rfl := Option.some.inj hinc
    rfl
  · cases hinc

/-- **A property** is set in the document as in the profile. -/
theorem Profile.Shown.set {ids : ObjectIds ω} {view view' : Fields ω} {profile : Profile}
    (h : profile.Shown ids view) (p : UserProperty)
    (hset : inc "version" 1 (Bson.set p.field.1 p.field.2.value view) = some view') :
    (profile.set p).Shown ids view' := by
  obtain ⟨⟨id, hid, hprofile⟩, hfields, devices, hdevices⟩ := h
  obtain ⟨hreal, hnick, hicon, hdesc, hmale, hcountry, hphone, hpass, hbirth, hversion, hfriends,
    hblack, hgroups⟩ := Profile.Shown.get_iff.mp hfields
  have hname : p.field.1 ≠ "version" ∧ p.field.1 ≠ "_id" ∧ p.field.1 ≠ "devices" := by
    cases p <;> simp [UserProperty.field]
  obtain rfl := inc_version hversion (get_set_of_ne hname.1 _ _) hset
  have hdevices' : get "devices" (Bson.set "version" (number (profile.changes + 1 + 1 : ℕ))
      (Bson.set p.field.1 p.field.2.value view)) = get "devices" view := by
    rw [get_set_of_ne (by decide), get_set_of_ne hname.2.2]
  refine ⟨⟨id, ?_, by cases p <;> exact hprofile⟩, Profile.Shown.get_iff.mpr ?_, devices, ?_⟩
  · rw [get_set_of_ne (by decide), get_set_of_ne hname.2.1, hid]
  · cases p <;>
      simp [UserProperty.field, PropertyValue.value, Profile.set, get_set, hreal, hnick, hicon,
        hdesc, hmale, hcountry, hphone, hpass, hbirth, hfriends, hblack, hgroups]
  · rw [readArray, getArray, hdevices', ← getArray, ← readArray, hdevices]

/-- A friend in the list of the document, who is new there or not. -/
theorem get_of_addFriend {view view' : Fields ω} {friends : List UserInfo} {info : UserInfo}
    (hfriends : get "friends" view = some (.array (friends.map UserInfo.value)))
    (hadd : addDocument "friends" [("toNodeID", info.toNodeID), ("userID", info.userID)] view =
      some view') :
    (∀ other, "friends" ≠ other → get other view' = get other view) ∧
      get "friends" view' = some (.array ((addToSet info friends).map UserInfo.value)) := by
  rw [Documents.addToSet]
  rcases addDocument_array hfriends with ⟨hmem, heq⟩ | ⟨hmem, heq⟩
  · obtain rfl := Option.some.inj (heq.symm.trans hadd)
    rw [if_pos (UserInfo.value_mem.mp hmem)]
    exact ⟨fun _ _ => rfl, hfriends⟩
  · obtain rfl := Option.some.inj (heq.symm.trans hadd)
    rw [if_neg fun hinfo => hmem (UserInfo.value_mem.mpr hinfo), List.map_append]
    exact ⟨fun other hne => get_set_of_ne hne _ _, get_set_self _ _ _⟩

/-- **A friend** is added to the document as to the profile. -/
theorem Profile.Shown.befriend {ids : ObjectIds ω} {view view' : Fields ω} {profile : Profile}
    (h : profile.Shown ids view) (info : UserInfo)
    (hadd : (addDocument "friends" [("toNodeID", info.toNodeID), ("userID", info.userID)]
      view).bind (inc "version" 1) = some view') :
    (profile.befriend info).Shown ids view' := by
  obtain ⟨⟨id, hid, hprofile⟩, hfields, devices, hdevices⟩ := h
  obtain ⟨hreal, hnick, hicon, hdesc, hmale, hcountry, hphone, hpass, hbirth, hversion, hfriends,
    hblack, hgroups⟩ := Profile.Shown.get_iff.mp hfields
  obtain ⟨view₁, hview₁, hinc⟩ := Option.bind_eq_some_iff.mp hadd
  obtain ⟨hother, hfriends₁⟩ := get_of_addFriend hfriends hview₁
  obtain rfl := inc_version hversion (hother _ (by decide)) hinc
  refine ⟨⟨id, ?_, hprofile⟩, Profile.Shown.get_iff.mpr ?_, devices, ?_⟩
  · rw [get_set_of_ne (by decide), hother _ (by decide), hid]
  · simp (disch := decide) [Profile.befriend, get_set, hother, hfriends₁, hreal, hnick, hicon,
      hdesc, hmale, hcountry, hphone, hpass, hbirth, hblack, hgroups]
  · rw [readArray, getArray, get_set_of_ne (by decide), hother _ (by decide), ← getArray,
      ← readArray, hdevices]

/-! ### What a call does to the profiles -/

/-- What `mongo_client::setUserProperty` stores is the property that the request names. -/
theorem propertyField_eq (property : Chat.SetUserProperty) :
    propertyField property =
      match propertyString property.property, property.named with
      | none, _ => .error (.system ⟨40012, "no this property"⟩)
      | some _, none => .error .other
      | some _, some p => .ok p.field := by
  obtain ⟨k, value⟩ := property
  cases hstring : propertyString k with
  | none => simp only [propertyField, hstring]
  | some property_string =>
      unfold propertyString at hstring
      split at hstring
      · rfl
      · rfl
      · rfl
      · rfl
      · rfl
      · rw [propertyField, Chat.SetUserProperty.named, propertyString]
        simp only [if_true]
        cases stoi value <;> rfl
      · cases hstring

/-- The field of a property is that of the property it names. -/
theorem named_of_propertyField {property : Chat.SetUserProperty} {name : String}
    {v : PropertyValue} (h : propertyField property = .ok (name, v)) :
    ∃ p, property.named = some p ∧ p.field = (name, v) := by
  rw [propertyField_eq] at h
  split at h
  · cases h
  · cases h
  · rename_i p _ hp
    exact ⟨p, hp, Except.ok.inj h⟩

section Calls

variable [DecidableEq ω] {ids : ObjectIds ω} {docs docs' : List (Fields ω)}
  {profiles : List Profile} {db db' : DocumentDb ω}

/-- A filter by id finds the document that shows the profile with the id. -/
theorem Profile.Shown.isOid {view : Fields ω} {profile : Profile} (h : profile.Shown ids view)
    (id : ω) : isOid "_id" id view = profile.hasId (ids.toText id) := by
  obtain ⟨⟨id', hid', hprofile⟩, -, -⟩ := h
  rw [Bson.isOid, oidOf, hid', Profile.hasId, hprofile, Bool.eq_iff_iff, decide_eq_true_iff,
    beq_iff_eq, Option.some.injEq, ids.toText_inj]

omit [DecidableEq ω] in
/-- A filter by phone finds the document that shows the profile with the phone. -/
theorem Profile.Shown.isPhone {view : Fields ω} {profile : Profile} (h : profile.Shown ids view)
    (phoneNo countryCode : String) :
    (isText "countryCode" countryCode view && isText "phoneNo" phoneNo view) =
      profile.hasPhone phoneNo countryCode := by
  obtain ⟨-, -, -, -, -, hcountry, hphone, -⟩ := Profile.Shown.get_iff.mp h.fields
  rw [isText_of_get hcountry, isText_of_get hphone, Profile.hasPhone]

/-- An update by id that each document shows in its profile. -/
theorem Shows.updateDoc (h : Shows ids docs profiles) {id : ω}
    {f : Fields ω → Option (Fields ω)} {g : Profile → Profile}
    (hf : ∀ view view' profile, Profile.Shown ids view profile → f view = some view' →
      Profile.Shown ids view' (g profile))
    (hdocs : Yijian.updateDoc (isOid "_id" id) f docs = .ok docs') :
    Shows ids docs' (updateOne (Profile.hasId (ids.toText id)) g profiles) :=
  forall₂_updateDoc h (fun _ _ hshown => hshown.isOid id)
    (fun view view' profile hshown _ hview' => hf view view' profile hshown hview') hdocs

omit [DecidableEq ω] in
/-- An update of devices leaves the profiles alone. -/
theorem Shows.updateDevices (h : Shows ids docs profiles) {p : Fields ω → Bool}
    {f : Fields ω → Option (Fields ω)}
    (hf : ∀ view view' profile, Profile.Shown ids view profile → p view = true →
      f view = some view' → Profile.Shown ids view' profile)
    (hdocs : Yijian.updateDoc p f docs = .ok docs') : Shows ids docs' profiles := by
  rcases updateDoc_ok hdocs with ⟨-, rfl⟩ | ⟨doc, doc', hdoc, hdoc', rfl⟩
  · exact h
  · refine forall₂_updateOne_left h fun view profile hview hshown => ?_
    obtain rfl := Option.some.inj (hdoc.symm.trans hview)
    exact hf doc doc' profile hshown (List.find?_some hdoc) hdoc'

/-- A new user shows a new profile. -/
theorem Shows.insertUser (h : Shows ids db.user profiles) {enroll : Register} {id : ω}
    {r : String} (hcall : MongoClient.insertUser ids enroll id db = .ok (r, db')) :
    Shows ids db'.user (profiles ++ [enroll.profile (ids.toText id)]) := by
  simp only [MongoClient.insertUser, mapError_eq_ok, bind_eq_ok, insertDoc_ok] at hcall
  obtain ⟨docs, ⟨-, rfl⟩, hrfl⟩ := hcall
  obtain ⟨-, rfl⟩ := Prod.mk.inj (Except.ok.inj hrfl)
  exact List.rel_append h (.cons (enroll.shown ids id) .nil)

/-- Devices are no part of a profile. -/
theorem Shows.insertDevice (h : Shows ids db.user profiles) {userID : String} {device : Device}
    (hcall : MongoClient.insertDevice ids userID device db = .ok db') :
    Shows ids db'.user profiles := by
  simp only [MongoClient.insertDevice, mapError_eq_ok, bind_eq_ok] at hcall
  obtain ⟨id, -, docs, hdocs, hrfl⟩ := hcall
  obtain rfl := Except.ok.inj hrfl
  refine h.updateDevices (fun view view' profile hshown _ hview' => ?_) hdocs
  obtain ⟨devices, hdevices⟩ := hshown.devices
  have hdevice : ∃ d, deviceElement (.document [("OS", .int32 device.os),
      ("deviceModel", .utf8 device.devicemodel), ("UUID", .utf8 device.uuid)] : Value ω) =
        .ok d := ⟨_, rfl⟩
  obtain ⟨d, hd⟩ := hdevice
  obtain ⟨view'', hpush, hread, hframe⟩ := readArray_push hdevices hd
  obtain rfl := Option.some.inj (hpush.symm.trans hview')
  exact hshown.of_devices hframe hread

/-- Devices are no part of a profile. -/
theorem Shows.updateDevice (h : Shows ids db.user profiles) {userID : String} {device : Device}
    (hcall : MongoClient.updateDevice ids userID device db = .ok db') :
    Shows ids db'.user profiles := by
  simp only [MongoClient.updateDevice, mapError_eq_ok, bind_eq_ok] at hcall
  obtain ⟨id, -, docs, hdocs, hrfl⟩ := hcall
  obtain rfl := Except.ok.inj hrfl
  refine h.updateDevices (fun view view' profile hshown _ hview' => ?_) hdocs
  obtain ⟨devices, hdevices⟩ := hshown.devices
  have helement : ∀ (v : Value ω) (device' : Device), deviceElement v = .ok device' →
      matchesElement (isText "UUID" device.uuid) v = Device.hasUUID device.uuid device' :=
    fun _ _ => matchesElement_of_deviceElement
  have hdevice : deviceElement (.document [("OS", .int32 device.os),
      ("deviceModel", .utf8 device.devicemodel), ("deviceNickname", .utf8 device.devicenickname),
      ("UUID", .utf8 device.uuid)] : Value ω) = .ok device := rfl
  obtain ⟨view'', hset, hread, hframe⟩ := readArray_setMatched hdevices helement hdevice
  obtain rfl := Option.some.inj (hset.symm.trans hview')
  exact hshown.of_devices hframe hread

/-- A property is set in the document as in the profile. -/
theorem Shows.setUserProperty (h : Shows ids db.user profiles) {userID : String}
    {property : Chat.SetUserProperty}
    (hcall : MongoClient.setUserProperty ids userID property db = .ok db') :
    ∃ id p, ids.oid userID = .ok id ∧ property.named = some p ∧
      Shows ids db'.user (updateOne (Profile.hasId (ids.toText id)) (Profile.set p) profiles) := by
  simp only [MongoClient.setUserProperty, mapError_eq_ok, bind_eq_ok] at hcall
  obtain ⟨⟨name, v⟩, hfield, id, hid, docs, hdocs, hrfl⟩ := hcall
  obtain rfl := Except.ok.inj hrfl
  obtain ⟨p, hp, hpfield⟩ := named_of_propertyField hfield
  refine ⟨id, p, hid, hp, h.updateDoc (fun view view' profile hshown hview' => ?_) hdocs⟩
  refine hshown.set p ?_
  rw [hpfield]
  exact hview'

/-- A friend is entered in the document as in the profile. -/
theorem Shows.addToFriends (h : Shows ids db.user profiles) {userid : String} {info : UserInfo}
    (hcall : MongoClient.addToFriends ids userid info db = .ok db') :
    ∃ id, ids.oid userid = .ok id ∧ Shows ids db'.user
      (updateOne (Profile.hasId (ids.toText id)) (Profile.befriend info) profiles) := by
  simp only [MongoClient.addToFriends, bind_eq_ok] at hcall
  obtain ⟨id, hid, docs, hdocs, hrfl⟩ := hcall
  obtain rfl := Except.ok.inj hrfl
  exact ⟨id, hid, h.updateDoc (fun view view' profile hshown => hshown.befriend info) hdocs⟩

omit [DecidableEq ω] in
/-- The status of a request is not with the users. -/
theorem user_of_setStatus {key status : String}
    (hcall : MongoClient.setStatus key status db = .ok db') : db'.user = db.user := by
  simp only [MongoClient.setStatus, bind_eq_ok] at hcall
  obtain ⟨docs, -, hrfl⟩ := hcall
  obtain rfl := Except.ok.inj hrfl
  rfl

omit [DecidableEq ω] in
/-- Unread numbers are not with the users. -/
theorem user_of_insertUnread {fault : Option SystemError} {userid tonodeid : String}
    (hcall : MongoClient.insertUnread fault userid tonodeid db = .ok db') :
    db'.user = db.user := by
  obtain rfl := Except.ok.inj hcall
  rfl

/-- The documents are those of profiles with different ids. -/
structure ProfilesInv (ids : ObjectIds ω) (docs : List (Fields ω)) (profiles : List Profile) :
    Prop where
  shows : Shows ids docs profiles
  unique : (profiles.map Profile.id).Nodup

omit [DecidableEq ω] in
/-- An update that keeps the ids keeps the invariant. -/
theorem ProfilesInv.update (h : ProfilesInv ids docs profiles) {p : Profile → Bool}
    {g : Profile → Profile} (hg : ∀ profile, (g profile).id = profile.id)
    (hshows : Shows ids docs' (updateOne p g profiles)) :
    ProfilesInv ids docs' (updateOne p g profiles) :=
  ⟨hshows, by rw [map_updateOne fun profile _ => hg profile]; exact h.unique⟩

/-- No property is the id. -/
theorem Profile.set_id (p : UserProperty) (profile : Profile) :
    (profile.set p).id = profile.id := by
  cases p <;> rfl

/-- A new user has a new id and a new phone. -/
theorem ProfilesInv.insertUser (h : ProfilesInv ids db.user profiles) {enroll : Register} {id : ω}
    {r : String} (hcall : MongoClient.insertUser ids enroll id db = .ok (r, db')) :
    ProfilesInv ids db'.user (profiles ++ [enroll.profile (ids.toText id)]) := by
  refine ⟨h.shows.insertUser hcall, nodup_append_singleton h.unique fun profile hprofile heq => ?_⟩
  simp only [MongoClient.insertUser, mapError_eq_ok, bind_eq_ok, insertDoc_ok] at hcall
  obtain ⟨-, ⟨hfree, -⟩, -⟩ := hcall
  obtain ⟨view, hview, hshown⟩ := exists_of_mem_forall₂ h.shows hprofile
  refine hfree view hview ?_
  rw [hshown.isOid, Profile.hasId, heq, Register.profile, beq_self_eq_true, Bool.true_or]

/-- How far an authorization has come in front of the operation `k`. -/
def AuthorizedTo (ids : ObjectIds ω) (inviter invitee tonodeid : String)
    (profiles : List Profile) (k : ℕ) (db : DocumentDb ω) : Prop :=
  (k < 2 ∧ ProfilesInv ids db.user profiles) ∨
    ∃ i, ids.oid inviter = .ok i ∧
      ((2 ≤ k ∧ k < 6 ∧ ProfilesInv ids db.user
          (ProfileAct.apply profiles (.befriend (ids.toText i) ⟨invitee, tonodeid⟩))) ∨
        (6 ≤ k ∧ ∃ e, ids.oid invitee = .ok e ∧ ProfilesInv ids db.user
          (ProfileAct.apply
            (ProfileAct.apply profiles (.befriend (ids.toText i) ⟨invitee, tonodeid⟩))
            (.befriend (ids.toText e) ⟨inviter, tonodeid⟩))))

omit [DecidableEq ω] in
/-- An operation that leaves the users alone, between the ones that do not. -/
theorem AuthorizedTo.next {inviter invitee tonodeid : String} {k : ℕ}
    (h : AuthorizedTo ids inviter invitee tonodeid profiles k db) (hk : k ≠ 1 ∧ k ≠ 5)
    (huser : db'.user = db.user) :
    AuthorizedTo ids inviter invitee tonodeid profiles (k + 1) db' := by
  rcases h with ⟨hlt, hinv⟩ | ⟨i, hi, ⟨hge, hlt, hinv⟩ | ⟨hge, e, he, hinv⟩⟩
  · exact .inl ⟨by omega, huser ▸ hinv⟩
  · exact .inr ⟨i, hi, .inl ⟨by omega, by omega, huser ▸ hinv⟩⟩
  · exact .inr ⟨i, hi, .inr ⟨by omega, e, he, huser ▸ hinv⟩⟩

/-- The two entries of an authorization, each in its turn. -/
theorem AuthorizedTo.addToFriends {inviter invitee tonodeid : String} {k : ℕ}
    (h : AuthorizedTo ids inviter invitee tonodeid profiles k db) {userid : String}
    {info : UserInfo}
    (hk : (k = 1 ∧ userid = inviter ∧ info = ⟨invitee, tonodeid⟩) ∨
      (k = 5 ∧ userid = invitee ∧ info = ⟨inviter, tonodeid⟩))
    (hcall : MongoClient.addToFriends ids userid info db = .ok db') :
    AuthorizedTo ids inviter invitee tonodeid profiles (k + 1) db' := by
  rcases hk with ⟨rfl, rfl, rfl⟩ | ⟨rfl, rfl, rfl⟩
  · rcases h with ⟨-, hinv⟩ | ⟨i, -, ⟨hge, -⟩ | ⟨hge, -⟩⟩
    · obtain ⟨i, hi, hshows⟩ := hinv.shows.addToFriends hcall
      exact .inr ⟨i, hi, .inl ⟨by omega, by omega, hinv.update (fun _ => rfl) hshows⟩⟩
    · omega
    · omega
  · rcases h with ⟨hlt, -⟩ | ⟨i, hi, ⟨-, -, hinv⟩ | ⟨hge, -⟩⟩
    · omega
    · obtain ⟨e, he, hshows⟩ := hinv.shows.addToFriends hcall
      exact .inr ⟨i, hi, .inr ⟨by omega, e, he, hinv.update (fun _ => rfl) hshows⟩⟩
    · omega

/-- Wherever an authorization stops, the users have come as far as its operations. -/
theorem authorizedTo_run (h : ProfilesInv ids db.user profiles) (inviter invitee tonodeid : String)
    (fault faults : ℕ → Option SystemError) :
    ∃ n ≤ 9, AuthorizedTo ids inviter invitee tonodeid profiles n
        (run faults (MongoClient.authorizeOps ids inviter invitee tonodeid fault) db).2 ∧
      ((run faults (MongoClient.authorizeOps ids inviter invitee tonodeid fault) db).1 =
        .ok () ↔ n = 9) := by
  have hops : ∀ k op, (MongoClient.authorizeOps ids inviter invitee tonodeid fault)[k]? =
      some op → ∀ d d', AuthorizedTo ids inviter invitee tonodeid profiles k d → op d = .ok d' →
      AuthorizedTo ids inviter invitee tonodeid profiles (k + 1) d' := by
    intro k op hop d d' hd hcall
    rcases k with _ | _ | _ | _ | _ | _ | _ | _ | _ | k
    · obtain rfl := Option.some.inj hop
      exact hd.next (by omega) (user_of_setStatus hcall)
    · obtain rfl := Option.some.inj hop
      exact hd.addToFriends (.inl ⟨rfl, rfl, rfl⟩) hcall
    · obtain rfl := Option.some.inj hop
      exact hd.next (by omega) (user_of_setStatus hcall)
    · obtain rfl := Option.some.inj hop
      exact hd.next (by omega) (user_of_insertUnread hcall)
    · obtain rfl := Option.some.inj hop
      exact hd.next (by omega) (user_of_setStatus hcall)
    · obtain rfl := Option.some.inj hop
      exact hd.addToFriends (.inr ⟨rfl, rfl, rfl⟩) hcall
    · obtain rfl := Option.some.inj hop
      exact hd.next (by omega) (user_of_setStatus hcall)
    · obtain rfl := Option.some.inj hop
      exact hd.next (by omega) (user_of_insertUnread hcall)
    · obtain rfl := Option.some.inj hop
      exact hd.next (by omega) (user_of_setStatus hcall)
    · cases hop
  exact run_outline hops faults (.inl ⟨by omega, h⟩)

omit [DecidableEq ω] in
/-- An operation that has been done, or has left everything as it was. -/
theorem attemptOn_cases {ε : Type} (fault : Option SystemError) (r : Except ε (DocumentDb ω))
    (db : DocumentDb ω) : attemptOn fault r db = (false, db) ∨
      ∃ db', r = .ok db' ∧ attemptOn fault r db = (true, db') := by
  cases fault with
  | some e => exact .inl rfl
  | none =>
      cases r with
      | error e => exact .inl rfl
      | ok db' => exact .inr ⟨db', rfl, rfl⟩

/-- An authorization has changed nothing, or runs its operations. -/
theorem addFriendAuthorize_cases (ids : ObjectIds ω) (inviter invitee : String)
    (lookup : Option SystemError) (fault : ℕ → Option SystemError) (db : DocumentDb ω) :
    (∃ e, MongoClient.addFriendAuthorize ids inviter invitee lookup fault db = (.error e, db)) ∨
      ∃ tonodeid r, MongoClient.addFriendAuthorize ids inviter invitee lookup fault db =
          (r, (run (thrown fault)
            (MongoClient.authorizeOps ids inviter invitee tonodeid fault) db).2) ∧
        (r = .ok () → (run (thrown fault)
          (MongoClient.authorizeOps ids inviter invitee tonodeid fault) db).1 = .ok ()) := by
  rw [MongoClient.addFriendAuthorize.eq_def]
  split
  · exact .inl ⟨_, rfl⟩
  · split
    · exact .inl ⟨_, rfl⟩
    · split
      · exact .inl ⟨_, rfl⟩
      · split
        · exact .inl ⟨_, rfl⟩
        · split
          · exact .inl ⟨_, rfl⟩
          · rename_i tonodeid _
            refine .inr ⟨tonodeid, ?_⟩
            split
            · rename_i hrun
              exact ⟨.error _, by rw [hrun], fun h => by cases h⟩
            · rename_i hrun
              exact ⟨.ok (), by rw [hrun], fun _ => congrArg Prod.fst hrun⟩

/-- What an authorization comes to. -/
theorem authorize_call (h : ProfilesInv ids db.user profiles) (inviter invitee : String)
    (lookup : Option SystemError) (fault : ℕ → Option SystemError) :
    ∃ acts, (UserCall.addFriendAuthorize inviter invitee fault).ComesTo ids
        (UserCall.call ids lookup db (.addFriendAuthorize inviter invitee fault)).1 acts ∧
      ProfilesInv ids
        (UserCall.call ids lookup db (.addFriendAuthorize inviter invitee fault)).2.user
        (acts.foldl ProfileAct.apply profiles) := by
  have hcall : ∀ (r : Except QueryError Unit) (db' : DocumentDb ω),
      MongoClient.addFriendAuthorize ids inviter invitee lookup fault db = (r, db') →
      UserCall.call ids lookup db (.addFriendAuthorize inviter invitee fault) =
        (r.isOk, db') := by
    intro r db' hr
    rw [UserCall.call, hr]
    cases r <;> rfl
  rcases addFriendAuthorize_cases ids inviter invitee lookup fault db with
    ⟨e, heq⟩ | ⟨tonodeid, r, heq, hreturns⟩
  · rw [hcall _ _ heq]
    exact ⟨[], .failed _, h⟩
  · obtain ⟨n, -, hto, hdone⟩ := authorizedTo_run h inviter invitee tonodeid fault (thrown fault)
    rw [hcall _ _ heq]
    have hfailed : n < 9 → r.isOk = false := by
      intro hn
      cases r with
      | error e => rfl
      | ok _ => exact absurd (hdone.mp (hreturns rfl)) (by omega)
    rcases hto with ⟨hlt, hinv⟩ | ⟨i, hi, ⟨-, hlt, hinv⟩ | ⟨-, e, he, hinv⟩⟩
    · rw [hfailed (by omega)]
      exact ⟨[], .failed _, hinv⟩
    · rw [hfailed (by omega)]
      exact ⟨_, .inviterOnly hi fault tonodeid, hinv⟩
    · exact ⟨_, .friends hi he fault tonodeid r.isOk, hinv⟩

/-- **A call** changes the documents as it changes the profiles. -/
theorem shown_call (h : ProfilesInv ids db.user profiles) (fault : Option SystemError)
    (e : UserCall ω) :
    ∃ acts, e.ComesTo ids (e.call ids fault db).1 acts ∧
      ProfilesInv ids (e.call ids fault db).2.user (acts.foldl ProfileAct.apply profiles) := by
  cases e with
  | insertUser enroll id =>
      rw [UserCall.call]
      rcases attemptOn_cases fault ((MongoClient.insertUser ids enroll id db).map Prod.snd) db with
        heq | ⟨db', hok, heq⟩ <;> rw [heq]
      · exact ⟨[], .failed _, h⟩
      · obtain ⟨r, hcall⟩ := snd_of_map_ok hok
        exact ⟨_, .insertUser enroll id, h.insertUser hcall⟩
  | insertDevice userID device =>
      rw [UserCall.call]
      rcases attemptOn_cases fault (MongoClient.insertDevice ids userID device db) db with
        heq | ⟨db', hok, heq⟩ <;> rw [heq]
      · exact ⟨[], .failed _, h⟩
      · exact ⟨_, .insertDevice userID device, h.shows.insertDevice hok, h.unique⟩
  | updateDevice userID device =>
      rw [UserCall.call]
      rcases attemptOn_cases fault (MongoClient.updateDevice ids userID device db) db with
        heq | ⟨db', hok, heq⟩ <;> rw [heq]
      · exact ⟨[], .failed _, h⟩
      · exact ⟨_, .updateDevice userID device, h.shows.updateDevice hok, h.unique⟩
  | setUserProperty userID property =>
      rw [UserCall.call]
      rcases attemptOn_cases fault (MongoClient.setUserProperty ids userID property db) db with
        heq | ⟨db', hok, heq⟩ <;> rw [heq]
      · exact ⟨[], .failed _, h⟩
      · obtain ⟨id, p, hid, hp, hshows⟩ := h.shows.setUserProperty hok
        exact ⟨_, .setUserProperty hid hp, h.update (Profile.set_id p) hshows⟩
  | addFriendAuthorize inviter invitee faults => exact authorize_call h inviter invitee fault faults
  | others db' => exact ⟨_, .others db', h⟩

end Calls

/-! ### Runs -/

/-- The collections, and the calls there have been, with whether each has returned. -/
structure UserRun (ω : Type) where
  db : DocumentDb ω
  calls : List (UserCall ω × Bool)

/-- The empty collections. -/
def UserRun.new : UserRun ω := ⟨⟨[], [], [], [], [], [], []⟩, []⟩

section Runs

variable [DecidableEq ω]

/-- A call, which fails with the fault or by itself. -/
def userStep (ids : ObjectIds ω) (s : UserRun ω) (e : UserCall ω × Option SystemError) :
    UserRun ω :=
  let (returns, db) := e.1.call ids e.2 s.db
  ⟨db, s.calls ++ [(e.1, returns)]⟩

/-- **In every run** the documents show what the calls have come to. -/
theorem shown_run {ids : ObjectIds ω} (es : List (UserCall ω × Option SystemError))
    {s : UserRun ω} {profiles : List Profile} (h : ProfilesInv ids s.db.user profiles) :
    ∃ calls actss, (es.foldl (userStep ids) s).calls = s.calls ++ calls ∧
      List.Forall₂ (fun c acts => c.1.ComesTo ids c.2 acts) calls actss ∧
      ProfilesInv ids (es.foldl (userStep ids) s).db.user
        (actss.flatten.foldl ProfileAct.apply profiles) := by
  induction es generalizing s profiles with
  | nil => exact ⟨[], [], (List.append_nil _).symm, .nil, h⟩
  | cons e es ih =>
      obtain ⟨acts, hacts, hinv⟩ := shown_call h e.2 e.1
      obtain ⟨calls, actss, hcalls, hall, hrun⟩ := ih (s := userStep ids s e) hinv
      refine ⟨(e.1, (e.1.call ids e.2 s.db).1) :: calls, acts :: actss, ?_, .cons hacts hall, ?_⟩
      · rw [List.foldl_cons, hcalls, userStep, List.append_assoc, List.singleton_append]
      · rw [List.foldl_cons, List.flatten_cons, List.foldl_append]
        exact hrun

omit [DecidableEq ω] in
/-- There are no users at the start. -/
theorem profilesInv_new (ids : ObjectIds ω) : ProfilesInv ids (UserRun.new (ω := ω)).db.user [] :=
  ⟨.nil, .nil⟩

/-- What a query answers that has found the profile: its user, while the version fits into 32 bits.
Without a profile it throws `code`. -/
def AnswersProfile (code : ℤ) (answer : Except QueryError User) : Option Profile → Prop
  | none => answer = .error (.system ⟨code, "no this user"⟩)
  | some profile => ∃ devices, answer =
      if ((profile.changes + 1 : ℕ) : ℤ) < 2 ^ 31 then .ok (profile.user devices)
      else .error (.element .need_element_type)

/-- What the two queries for a user answer. -/
structure QueriesShow (ids : ObjectIds ω) (db : DocumentDb ω) (profiles : List Profile) : Prop where
  byId : ∀ userID id, ids.oid userID = .ok id →
    AnswersProfile 40003 (MongoClient.queryUser ids userID db)
      (findOne (Profile.hasId (ids.toText id)) profiles)
  byPhone : ∀ phoneNo countryCode,
    AnswersProfile 40002 (MongoClient.queryUserOfPhone ids phoneNo countryCode db)
      (findOne (Profile.hasPhone phoneNo countryCode) profiles)

omit [DecidableEq ω] in
/-- A query that finds a document where there is a profile. -/
theorem Shows.answersProfile {ids : ObjectIds ω} {docs : List (Fields ω)}
    {profiles : List Profile} (h : Shows ids docs profiles) (code : ℤ) {p : Fields ω → Bool}
    {q : Profile → Bool}
    (hpq : ∀ view profile, Profile.Shown ids view profile → p view = q profile) :
    AnswersProfile code
      (match findOne p docs with
        | none => .error (.system ⟨code, "no this user"⟩)
        | some user_view => (userDocoument ids user_view).mapError .element)
      (findOne q profiles) := by
  rw [findOne, findOne]
  rcases forall₂_find h fun _ _ hshown => hpq _ _ hshown with
    ⟨hview, hprofile⟩ | ⟨view, profile, hview, hprofile, hshown⟩
  · rw [hview, hprofile]
    rfl
  · obtain ⟨devices, hread⟩ := hshown.userDocoument
    rw [hview, hprofile]
    refine ⟨devices, ?_⟩
    simp only [hread]
    split <;> rfl

/-- The queries answer with the profiles that the documents show. -/
theorem Shows.queriesShow {ids : ObjectIds ω} {db : DocumentDb ω} {profiles : List Profile}
    (h : Shows ids db.user profiles) : QueriesShow ids db profiles where
  byId userID id hid := by
    rw [MongoClient.queryUser, hid]
    exact h.answersProfile 40003 fun _ _ hshown => hshown.isOid id
  byPhone phoneNo countryCode :=
    h.answersProfile 40002 fun _ _ hshown => hshown.isPhone phoneNo countryCode

/-- **The collection refines the profiles**: in every run, whatever fails, each call comes to what
it is for, and the users are read as the profiles that this has led to. -/
theorem users_refine_profiles (ids : ObjectIds ω) (es : List (UserCall ω × Option SystemError)) :
    ∃ actss, List.Forall₂ (fun c acts => c.1.ComesTo ids c.2 acts)
        (es.foldl (userStep ids) UserRun.new).calls actss ∧
      QueriesShow ids (es.foldl (userStep ids) UserRun.new).db
        (actss.flatten.foldl ProfileAct.apply []) := by
  obtain ⟨calls, actss, hcalls, hall, hinv⟩ := shown_run es (profilesInv_new ids)
  exact ⟨actss, hcalls ▸ hall, hinv.shows.queriesShow⟩

end Runs

/-! ### Versions -/

/-- The profile, some changes later. -/
structure Profile.Later (p p' : Profile) : Prop where
  id : p'.id = p.id
  phone : p'.phoneno = p.phoneno ∧ p'.countrycode = p.countrycode
  password : p'.password = p.password
  friends : p.friends <+: p'.friends
  changes : p.changes ≤ p'.changes
  same : p'.changes = p.changes → p' = p

/-- A profile is as late as itself. -/
theorem Profile.Later.refl (p : Profile) : p.Later p :=
  ⟨rfl, ⟨rfl, rfl⟩, rfl, List.prefix_refl _, Nat.le_refl _, fun _ => rfl⟩

/-- What is later than the later is later. -/
theorem Profile.Later.trans {p p' p'' : Profile} (h : p.Later p') (h' : p'.Later p'') :
    p.Later p'' where
  id := h'.id.trans h.id
  phone := ⟨h'.phone.1.trans h.phone.1, h'.phone.2.trans h.phone.2⟩
  password := h'.password.trans h.password
  friends := h.friends.trans h'.friends
  changes := h.changes.trans h'.changes
  same := by
    intro heq
    have hchanges : p'.changes = p.changes :=
      Nat.le_antisymm (heq ▸ h'.changes) h.changes
    exact (h'.same (heq.trans hchanges.symm)).trans (h.same hchanges)

/-- A profile with another property is later. -/
theorem Profile.later_set (p : UserProperty) (profile : Profile) :
    profile.Later (profile.set p) := by
  have hchanges : (profile.set p).changes = profile.changes + 1 := by cases p <;> rfl
  refine ⟨profile.set_id p, ?_, ?_, ?_, by omega, fun heq => absurd heq (by omega)⟩
  · cases p <;> exact ⟨rfl, rfl⟩
  · cases p <;> rfl
  · cases p <;> exact List.prefix_refl _

/-- A profile with another friend is later. -/
theorem Profile.later_befriend (info : UserInfo) (profile : Profile) :
    profile.Later (profile.befriend info) := by
  refine ⟨rfl, ⟨rfl, rfl⟩, rfl, ?_, Nat.le_succ _, fun heq => absurd heq (Nat.succ_ne_self _)⟩
  rw [Profile.befriend, Documents.addToSet]
  split
  · exact List.prefix_refl _
  · exact List.prefix_append _ _

/-- Every profile is there after an act, as it was or later. -/
theorem ProfileAct.later_apply (act : ProfileAct) {profiles : List Profile} {p : Profile}
    (h : p ∈ profiles) : ∃ p' ∈ act.apply profiles, p.Later p' := by
  cases act with
  | register enroll id => exact ⟨p, List.mem_append_left _ h, .refl p⟩
  | set id prop =>
      rcases exists_mem_updateOne (Profile.hasId id) (Profile.set prop) h with hmem | hmem
      · exact ⟨p, hmem, .refl p⟩
      · exact ⟨_, hmem, p.later_set prop⟩
  | befriend id info =>
      rcases exists_mem_updateOne (Profile.hasId id) (Profile.befriend info) h with hmem | hmem
      · exact ⟨p, hmem, .refl p⟩
      · exact ⟨_, hmem, p.later_befriend info⟩

/-- After any acts, a profile is there as it has become. -/
theorem ProfileAct.later_foldl (acts : List ProfileAct) {profiles : List Profile} {p : Profile}
    (h : p ∈ profiles) : ∃ p' ∈ acts.foldl ProfileAct.apply profiles, p.Later p' := by
  induction acts generalizing profiles p with
  | nil => exact ⟨p, h, .refl p⟩
  | cons act acts ih =>
      obtain ⟨p', hp', hlater⟩ := act.later_apply h
      obtain ⟨p'', hp'', hlater'⟩ := ih hp'
      exact ⟨p'', hp'', hlater.trans hlater'⟩

/-! ### Users that are read again -/

/-- A document reads as the user. -/
def DocumentDb.Stores (ids : ObjectIds ω) (db : DocumentDb ω) (user : User) : Prop :=
  ∃ view ∈ db.user, userDocoument ids view = .ok user

/-- A user that is found by id is stored under it. -/
theorem stores_of_queryUser [DecidableEq ω] {ids : ObjectIds ω} {db : DocumentDb ω}
    {userID : String} {user : User} (h : MongoClient.queryUser ids userID db = .ok user) :
    db.Stores ids user ∧ ∃ id, ids.oid userID = .ok id ∧ user.id = ids.toText id := by
  simp only [MongoClient.queryUser, bind_eq_ok, mapError_eq_ok] at h
  obtain ⟨id, hid, h⟩ := h
  split at h
  · cases h
  · rename_i view hview
    have hread := mapError_eq_ok.mp h
    obtain ⟨⟨id', hid', huser⟩, -, -⟩ := fields_of_userDocoument hread
    have hfound : oidOf "_id" view = some id :=
      decide_eq_true_iff.mp (List.find?_some (p := isOid "_id" id) hview)
    obtain rfl := Option.some.inj (hid'.symm.trans hfound)
    exact ⟨⟨view, List.mem_of_find?_eq_some hview, hread⟩, id', hid, huser⟩

/-- A user that is found by phone is stored. -/
theorem stores_of_queryUserOfPhone {ids : ObjectIds ω} {db : DocumentDb ω}
    {phoneNo countryCode : String} {user : User}
    (h : MongoClient.queryUserOfPhone ids phoneNo countryCode db = .ok user) :
    db.Stores ids user := by
  rw [MongoClient.queryUserOfPhone] at h
  split at h
  · cases h
  · rename_i view hview
    exact ⟨view, List.mem_of_find?_eq_some hview, mapError_eq_ok.mp h⟩

/-- What is stored is the user of a profile. -/
theorem Shows.profile_of_stores {ids : ObjectIds ω} {db : DocumentDb ω} {profiles : List Profile}
    (h : Shows ids db.user profiles) {user : User} (huser : db.Stores ids user) :
    ∃ profile ∈ profiles, user = profile.user user.devices := by
  obtain ⟨view, hview, hread⟩ := huser
  obtain ⟨profile, hprofile, hshown⟩ := exists_of_mem_forall₂ h.flip hview
  refine ⟨profile, hprofile, ?_⟩
  obtain ⟨devices, hdevices⟩ := hshown.userDocoument
  rw [hread] at hdevices
  split at hdevices
  · obtain rfl := Except.ok.inj hdevices
    rfl
  · cases hdevices

/-- The user, read again. -/
structure User.Later (user user' : User) : Prop where
  phone : user'.phoneno = user.phoneno ∧ user'.countrycode = user.countrycode
  password : user'.password = user.password
  friends : user.friends <+: user'.friends
  version : user.version ≤ user'.version
  same : user'.version = user.version → user' = { user with devices := user'.devices }

/-- **A user that is read again**, at any later time of a run. -/
theorem later_of_stores [DecidableEq ω] {ids : ObjectIds ω} {s : UserRun ω}
    {profiles : List Profile} (h : ProfilesInv ids s.db.user profiles)
    (es : List (UserCall ω × Option SystemError)) {user user' : User}
    (huser : s.db.Stores ids user)
    (huser' : (es.foldl (userStep ids) s).db.Stores ids user') (hid : user'.id = user.id) :
    user.Later user' := by
  obtain ⟨-, actss, -, -, hinv⟩ := shown_run es h
  obtain ⟨p, hp, hpuser⟩ := h.shows.profile_of_stores huser
  obtain ⟨p', hp', hpuser'⟩ := hinv.shows.profile_of_stores huser'
  obtain ⟨p'', hp'', hlater⟩ := ProfileAct.later_foldl actss.flatten hp
  have hids : p''.id = p'.id := by
    have hp'id : p'.id = user'.id := (congrArg User.id hpuser').symm
    have hpid : p.id = user.id := (congrArg User.id hpuser).symm
    rw [hlater.id, hpid, hp'id, hid]
  obtain rfl : p'' = p' := List.inj_on_of_nodup_map hinv.unique hp'' hp' hids
  rw [hpuser, hpuser']
  refine ⟨hlater.phone, hlater.password, hlater.friends, ?_, fun hversion => ?_⟩
  · have hchanges := hlater.changes
    show (p.changes : ℤ) + 1 ≤ (p''.changes : ℤ) + 1
    omega
  · have hversion' : (p''.changes : ℤ) + 1 = (p.changes : ℤ) + 1 := hversion
    rw [hlater.same (by omega)]
    rfl

/-- What the database client returns is what the collections have. A call may fail. -/
structure DbClient.Reads [DecidableEq ω] (ids : ObjectIds ω) (client : DbClient)
    (db : DocumentDb ω) : Prop where
  user : ∀ n userID user, client.queryUser n userID = .ok user →
    MongoClient.queryUser ids userID db = .ok user
  phone : ∀ n phoneNo countryCode user, client.queryPhone n phoneNo countryCode = .ok user →
    MongoClient.queryUserOfPhone ids phoneNo countryCode db = .ok user

open Attempts in
/-- The handler answers with the message, and sends nothing else. -/
def AnswersWith (handler : Handler Unit) (t : Turn) (r : Response) : Prop :=
  Ends handler t (fun _ t' => t'.mounted = t.mounted ++ [.self r]) fun _ _ => False

open Attempts in
/-- A handler with one call answers with what it makes of the result. -/
theorem answersWith_call {α : Type} {f : ℕ → Except SystemError α} {g : α → Turn → Response}
    {t : Turn} {r : Response} (hr : ∀ e, errorResponse e ≠ r) :
    AnswersWith (respond (do
      let a ← call f
      let t ← get
      return g a t) errorResponse) t r ↔ ∃ a, f t.calls = .ok a ∧ r = g a t.next := by
  simp only [AnswersWith, respond, catchSystem, ends_tryCatch, ends_bind, ends_call, ends_get,
    ends_pure, ends_mountSelf, Turn.mount_mounted, Turn.next_mounted,
    List.append_cancel_left_eq, List.cons.injEq, and_true, Mounted.self.injEq]
  constructor
  · rintro ⟨hok, herror⟩
    cases hf : f t.calls with
    | ok a => exact ⟨a, rfl, (hok a hf).symm⟩
    | error e => exact absurd (herror e hf) (hr e)
  · rintro ⟨a, hf, rfl⟩
    rw [hf]
    exact ⟨fun a' ha' => by rw [Except.ok.inj ha'], fun e he => by cases he⟩

/-- A QueryUserVersion is answered with the version of the user that is found. -/
theorem answersWith_queryUserVersion_iff {client : DbClient} {userid : String} {t : Turn} {v : ℤ} :
    AnswersWith (client.dispatchQueryUserVersion userid) t (.queryUserVersionRes userid v) ↔
      ∃ user, client.queryUser t.calls userid = .ok user ∧ v = user.version := by
  refine (answersWith_call (g := fun (user : User) _ => .queryUserVersionRes userid user.version)
    fun e => by simp [errorResponse]).trans ?_
  simp only [Response.queryUserVersionRes.injEq, true_and]

/-- A QueryUser is answered with the user that is found, as it may be shown. -/
theorem answersWith_queryUser_iff {client : DbClient} {query : Chat.QueryUser} {t : Turn}
    {u : User} :
    AnswersWith (client.dispatchQueryUser query) t (.queryUserRes u) ↔
      ∃ user, (if query.userid ≠ "" then client.queryUser t.calls query.userid
          else client.queryPhone t.calls query.phoneno query.countrycode) = .ok user ∧
        u = user.shown t.node.userid := by
  refine (answersWith_call
    (g := fun (user : User) (t : Turn) => .queryUserRes (user.shown t.node.userid))
    fun e => by simp [errorResponse]).trans ?_
  simp only [Response.queryUserRes.injEq, Turn.next_node]

/-- The user of an answer is one of the collections. -/
theorem DbClient.Reads.stores [DecidableEq ω] {ids : ObjectIds ω} {db : DocumentDb ω}
    {client : DbClient} (hread : client.Reads ids db) {query : Chat.QueryUser} {t : Turn}
    {u : User} (h : AnswersWith (client.dispatchQueryUser query) t (.queryUserRes u)) :
    ∃ user, db.Stores ids user ∧ u = user.shown t.node.userid := by
  obtain ⟨user, huser, hu⟩ := answersWith_queryUser_iff.mp h
  refine ⟨user, ?_, hu⟩
  split at huser
  · exact (stores_of_queryUser (hread.user _ _ _ huser)).1
  · exact stores_of_queryUserOfPhone (hread.phone _ _ _ _ huser)

@[simp] theorem User.shown_id (userid : String) (user : User) :
    (user.shown userid).id = user.id := by
  simp only [User.shown]
  split <;> rfl

@[simp] theorem User.shown_version (userid : String) (user : User) :
    (user.shown userid).version = user.version := by
  simp only [User.shown]
  split <;> rfl

/-- What is shown of a user with other devices. -/
theorem User.shown_devices (userid : String) (user : User) (devices : List Device) :
    ({ user with devices := devices } : User).shown userid =
      { user.shown userid with
        devices := (({ user with devices := devices } : User).shown userid).devices } := by
  simp only [User.shown]
  split <;> rfl

/-- **A cached user is valid**, but for its devices, while the version is the same: if QueryUser has
been answered with a user, and later, after any calls, QueryUserVersion is answered with the
version of it, then QueryUser would be answered with the same user again. -/
theorem cached_user_valid [DecidableEq ω] (ids : ObjectIds ω)
    (es es' : List (UserCall ω × Option SystemError)) {client client' client'' : DbClient}
    (hread : client.Reads ids (es.foldl (userStep ids) UserRun.new).db)
    (hread' : client'.Reads ids ((es ++ es').foldl (userStep ids) UserRun.new).db)
    (hread'' : client''.Reads ids ((es ++ es').foldl (userStep ids) UserRun.new).db)
    {query query' : Chat.QueryUser} {t t' t'' : Turn} {u u' : User}
    (hcached : AnswersWith (client.dispatchQueryUser query) t (.queryUserRes u))
    (hversion : AnswersWith (client'.dispatchQueryUserVersion u.id) t'
      (.queryUserVersionRes u.id u.version))
    (hanew : AnswersWith (client''.dispatchQueryUser query') t'' (.queryUserRes u'))
    (hrequester : t''.node.userid = t.node.userid) (hid : u'.id = u.id) :
    u' = { u with devices := u'.devices } := by
  rw [List.foldl_append] at hread' hread''
  obtain ⟨user, huser, rfl⟩ := hread.stores hcached
  obtain ⟨user', huser', rfl⟩ := hread''.stores hanew
  obtain ⟨userᵥ, hqueryᵥ, hversionᵥ⟩ := answersWith_queryUserVersion_iff.mp hversion
  obtain ⟨huserᵥ, i, hi, hidᵥ⟩ := stores_of_queryUser (hread'.user _ _ _ hqueryᵥ)
  rw [User.shown_version] at hversionᵥ
  simp only [User.shown_id] at hi hid
  obtain ⟨_, actss, -, -, hinv⟩ := shown_run es (profilesInv_new ids)
  obtain ⟨_, actss', -, -, hinv'⟩ := shown_run es' hinv
  -- the version is the one of the user with the id
  have hsame : userᵥ.id = user.id := by
    obtain ⟨view, -, hview⟩ := huser
    obtain ⟨⟨id, -, huserid⟩, -, -⟩ := fields_of_userDocoument hview
    rw [huserid, ids.oid_toText] at hi
    rw [hidᵥ, huserid, Except.ok.inj hi]
  have hlater := later_of_stores hinv es' huser huserᵥ hsame
  have hfresh := later_of_stores hinv' [] huserᵥ huser' (hid.trans hsame.symm)
  have hback := later_of_stores hinv' [] huser' huserᵥ (hsame.trans hid.symm)
  have hversions : user'.version = userᵥ.version :=
    le_antisymm hback.version hfresh.version
  have heq : user' = { user with devices := user'.devices } := by
    rw [hfresh.same hversions, hlater.same hversionᵥ.symm]
  rw [hrequester, heq]
  exact user.shown_devices _ _

/-- What a query throws, as the handlers catch it. -/
def QueryError.caught : QueryError → SystemError
  | .system e => e
  | .element .unset_element => ⟨26, "cannot return the type of uninitialized element"⟩
  | .element .need_element_type => ⟨27, "expected element type"⟩

/-- The client that finds the users of the collections. -/
def DbClient.reading [DecidableEq ω] (ids : ObjectIds ω) (client : DbClient) (db : DocumentDb ω) :
    DbClient :=
  client.withUsers
    (fun _ phoneNo countryCode =>
      (MongoClient.queryUserOfPhone ids phoneNo countryCode db).mapError QueryError.caught)
    fun _ userID => (MongoClient.queryUser ids userID db).mapError QueryError.caught

/-- The client that reads the collections does so. -/
theorem DbClient.reads_reading [DecidableEq ω] (ids : ObjectIds ω) (client : DbClient)
    (db : DocumentDb ω) : (client.reading ids db).Reads ids db :=
  ⟨fun _ _ _ h => mapError_eq_ok.mp h, fun _ _ _ _ h => mapError_eq_ok.mp h⟩

/-- A user that is found by id is answered with. -/
theorem answersWith_queryUser_reading [DecidableEq ω] {ids : ObjectIds ω} {db : DocumentDb ω}
    (query : Chat.QueryUser) {user : User} (hid : query.userid ≠ "")
    (h : MongoClient.queryUser ids query.userid db = .ok user) (client : DbClient) (t : Turn) :
    AnswersWith ((client.reading ids db).dispatchQueryUser query) t
      (.queryUserRes (user.shown t.node.userid)) := by
  refine answersWith_queryUser_iff.mpr ⟨user, ?_, rfl⟩
  rw [if_pos hid]
  exact mapError_eq_ok.mpr h

/-- Over the collections a QueryUserVersion is answered with the stored version. -/
theorem answersWith_queryUserVersion_reading [DecidableEq ω] {ids : ObjectIds ω}
    {db : DocumentDb ω} {userid : String} {user : User}
    (h : MongoClient.queryUser ids userid db = .ok user) (client : DbClient) (t : Turn) :
    AnswersWith ((client.reading ids db).dispatchQueryUserVersion userid) t
      (.queryUserVersionRes userid user.version) :=
  answersWith_queryUserVersion_iff.mpr ⟨user, mapError_eq_ok.mpr h, rfl⟩

/-- A user registers. -/
def registersUser : UserCall HexText × Option SystemError :=
  (.insertUser ⟨"5550100", "86", "secret", "maria"⟩ hexA, none)

/-- The user adds a phone. -/
def addsDevice : UserCall HexText × Option SystemError :=
  (.insertDevice idA ⟨1, "nexus", "", "phone"⟩, none)

/-- The user with these devices. -/
def mariaWith (devices : List Device) : User :=
  ⟨idA, "", "maria", "", "", true, "5550100", "86", "secret", 0, 1, [], [], [], devices⟩

/-- A user who reads the own profile in front of a new device and behind it. -/
theorem cached_user_phone :
    (mariaWith [⟨1, "nexus", "", "phone"⟩]).shown idA =
      { (mariaWith []).shown idA with
        devices := ((mariaWith [⟨1, "nexus", "", "phone"⟩]).shown idA).devices } := by
  have hfirst : MongoClient.queryUser hexIds idA
      ([registersUser].foldl (userStep hexIds) UserRun.new).db = .ok (mariaWith []) := rfl
  have hthen : MongoClient.queryUser hexIds idA
      (([registersUser] ++ [addsDevice]).foldl (userStep hexIds) UserRun.new).db =
        .ok (mariaWith [⟨1, "nexus", "", "phone"⟩]) := rfl
  have hid : (mariaWith []).id ≠ "" := by decide
  have hversion := answersWith_queryUserVersion_reading hthen lostDevices (sessionOf idA)
  exact cached_user_valid hexIds [registersUser] [addsDevice]
    (DbClient.reads_reading hexIds lostDevices _) (DbClient.reads_reading hexIds lostDevices _)
    (DbClient.reads_reading hexIds lostDevices _)
    (answersWith_queryUser_reading ⟨idA, "", ""⟩ hid hfirst lostDevices (sessionOf idA))
    (by rwa [User.shown_id, User.shown_version])
    (answersWith_queryUser_reading ⟨idA, "", ""⟩ hid hthen lostDevices (sessionOf idA))
    rfl (by rw [User.shown_id, User.shown_id]; rfl)

end Yijian
