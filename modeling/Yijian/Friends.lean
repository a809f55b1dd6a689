import Mathlib.Data.List.Infix
import Yijian.Buffer
import Yijian.Lib.Documents
import Yijian.Lib.Runs

/-!
# Friend Requests

A user asks another one for friendship (`AddFriend`), and the request is recorded in the
collection `addFriend` under a key made of both ids in order. `AddFriendAuthorize` looks the
request up by that key and enters each of the two in the other's list of friends.

`oid` is `bsoncxx::oid` of a string: the key of a user document, or what it throws. All it
is assumed to do is to reject a string that has not 24 characters. The identity of a new
message node, and which operations on the database fail, are part of the event.

## Convention

A friendship needs two acts: a request, by one of the two, and the agreement of the other one. Who
has asked for something is the user of the connection that the message came from, not the user that
the message names. The handlers compare the two: a request has to name its sender as the inviter,
and an agreement its sender as the invitee. The key of a request is the smaller of the two ids in
front of the larger one, so that a request and its reverse have one document, which keeps the roles
of the first; an agreement finds this document, and its roles are not compared with those of the
agreement. The list of friends of a user is read as the documents have it; messages and unread
numbers are the subject of the next modules.

## Main results

* `friends_consented`: in every run in which each request is agreed to by the invitee it
  records, every entry in a list of friends goes back to a request of one of the two that
  the other one has agreed to.
* `not_friends_consented`: the inviter can agree to its own request.
-/

namespace Yijian

open Documents Runs

variable {ω : Type} [DecidableEq ω]

/-! ### The database -/

/-- `chat::UserInfo`, an entry of a list of friends. -/
structure UserInfo where
  userID : String
  toNodeID : String
deriving DecidableEq

/-- A document of the collection `user`, as far as friendship goes. -/
structure UserDoc where
  friends : List UserInfo
  blacklist : List String
  version : ℤ
deriving DecidableEq

/-- A document of the collection `addFriend`. -/
structure AddFriendDoc where
  littleIDBigID : String
  inviter : String
  invitee : String
  toNodeID : String
  status : String
deriving DecidableEq

/-- The two collections; users are found by their id, requests have a unique
`littleIDBigID`. -/
structure FriendDb (ω : Type) where
  user : ω → Option UserDoc
  addFriend : List AddFriendDoc

/-- The key of the requests between two users. -/
def littleIDBigID (inviter invitee : String) : String :=
  if inviter < invitee then inviter ++ "_" ++ invitee else invitee ++ "_" ++ inviter

/-- The length of a key. -/
theorem length_littleIDBigID (inviter invitee : String) :
    (littleIDBigID inviter invitee).length = inviter.length + 1 + invitee.length := by
  have hunderscore : "_".length = 1 := by decide
  rw [littleIDBigID]
  split
  · rw [String.length_append, String.length_append, hunderscore]
  · rw [String.length_append, String.length_append, hunderscore]
    omega

/-- Keys of ids of one length tell them. -/
theorem append_underscore_inj {a b c d : String} (h : a ++ "_" ++ b = c ++ "_" ++ d)
    (hlen : a.length = c.length) : a = c ∧ b = d := by
  have hlist := congrArg String.toList h
  simp only [String.toList_append] at hlist
  have hlen' : a.toList.length = c.toList.length := by
    rw [String.length_toList, String.length_toList, hlen]
  obtain ⟨hac, hbd⟩ := List.append_inj hlist (by simp [hlen'])
  obtain ⟨hac, -⟩ := List.append_inj hac hlen'
  exact ⟨String.toList_inj.mp hac, String.toList_inj.mp hbd⟩

/-- The key of a request to `e` determines who asks, if the ids are of one length. -/
theorem littleIDBigID_inj {a i e : String} (hlen : i.length = e.length)
    (h : littleIDBigID a e = littleIDBigID i e) : a = i := by
  have hai : a.length = i.length := by
    have hkey := congrArg String.length h
    rw [length_littleIDBigID, length_littleIDBigID] at hkey
    omega
  rw [littleIDBigID, littleIDBigID] at h
  split at h
  · split at h
    · exact (append_underscore_inj h hai).1
    · obtain ⟨rfl, -⟩ := append_underscore_inj h (hai.trans hlen)
      exact absurd ‹a < a› (String.lt_irrefl a)
  · split at h
    · obtain ⟨rfl, -⟩ := append_underscore_inj h hlen.symm
      exact absurd ‹e < e› (String.lt_irrefl e)
    · exact (append_underscore_inj h rfl).2

/-- The condition that looks a request up. -/
def hasKey (key : String) (doc : AddFriendDoc) : Bool := doc.littleIDBigID == key

/-- `queryUser` by id. -/
def queryUser (oid : String → Except SystemError ω) (userID : String) (db : FriendDb ω) :
    Except SystemError UserDoc :=
  match oid userID with
  | .error e => .error e
  | .ok id =>
      match db.user id with
      | none => .error ⟨40003, "no this user"⟩
      | some user => .ok user

/-- An operation on the database. -/
abbrev DbOp (ω : Type) := FriendDb ω → Except SystemError (FriendDb ω)

/-- Insert a request; the index on its key is unique. -/
def insertRequest (doc : AddFriendDoc) : DbOp ω := fun db =>
  match insertUnique AddFriendDoc.littleIDBigID doc db.addFriend with
  | none => .error ⟨11000, "duplicate key"⟩
  | some docs => .ok { db with addFriend := docs }

/-- Update the request with the key. -/
def updateRequest (key : String) (f : AddFriendDoc → AddFriendDoc) : DbOp ω := fun db =>
  .ok { db with addFriend := updateOne (hasKey key) f db.addFriend }

/-- Track a request by its status. -/
def setStatus (key status : String) : DbOp ω :=
  updateRequest key fun doc => { doc with status := status }

/-- Add a friend to the list of a user. -/
def addToFriends (oid : String → Except SystemError ω) (userID : String) (info : UserInfo) :
    DbOp ω := fun db =>
  match oid userID with
  | .error e => .error e
  | .ok id =>
      .ok { db with
        user := Function.update db.user id ((db.user id).map fun user =>
          { user with friends := addToSet info user.friends, version := user.version + 1 }) }

/-! ### AddFriend -/

/-- `chat::AddFriend`. -/
structure AddFriend where
  inviterID : String
  inviteeID : String
  msg : String

/-- `chat::AddFriendRes`. -/
structure AddFriendRes where
  inviterID : String
  inviteeID : String
  toNodeID : String

/-- The operations of `mongo_client::addFriend` on the two collections. -/
def addFriendOps (frd : AddFriend) (msgNodeid : String) : List (DbOp ω) :=
  let key := littleIDBigID frd.inviterID frd.inviteeID
  [insertRequest ⟨key, frd.inviterID, frd.inviteeID, "", "request"⟩,
    updateRequest key fun doc => { doc with toNodeID := msgNodeid, status := "createNode" },
    setStatus key "createNodeCount"]

/-- `mongo_client::addFriend`. -/
def addFriend (frd : AddFriend) (msgNodeid : String) (fault : ℕ → Option SystemError)
    (db : FriendDb ω) : Except SystemError AddFriendRes × FriendDb ω :=
  match run fault (addFriendOps frd msgNodeid) db with
  | (.error _, db) => (.error ⟨40004, "add friend failure"⟩, db)
  | (.ok (), db) => (.ok ⟨frd.inviterID, frd.inviteeID, msgNodeid⟩, db)

/-- `dispatch(chat::AddFriend&)` on a connection of the user `userid`. -/
def dispatchAddFriend (oid : String → Except SystemError ω) (userid : String)
    (frd : AddFriend) (msgNodeid : String) (fault : ℕ → Option SystemError)
    (db : FriendDb ω) : Except SystemError AddFriendRes × FriendDb ω :=
  if frd.inviterID = "" ∨ frd.inviteeID = "" ∨ frd.inviterID ≠ userid then
    (.error ⟨11012, "args error"⟩, db)
  else
    match queryUser oid frd.inviteeID db with
    | .error e => (.error e, db)
    | .ok peerUser =>
        if peerUser.blacklist.contains frd.inviteeID then (.error ⟨11005, "blacklist"⟩, db)
        else
          match queryUser oid frd.inviterID db with
          | .error e => (.error e, db)
          | .ok user =>
              if user.friends.any fun info => info.userID == frd.inviteeID then
                (.error ⟨11020, "is friend already"⟩, db)
              else if peerUser.friends.any fun info => info.userID == frd.inviterID then
                (.error ⟨11022, "is friend already"⟩, db)
              else addFriend frd msgNodeid fault db

/-! ### AddFriendAuthorize -/

/-- `chat::AddFriendAuthorize`; `isAgree` is whether the field is `agree`. -/
structure AddFriendAuthorize where
  inviterID : String
  inviteeID : String
  isAgree : Bool

/-- The operations of `mongo_client::addFriendAuthorize` behind its checks. -/
def authorizeOps (oid : String → Except SystemError ω) (inviter invitee tonodeid : String) :
    List (DbOp ω) :=
  let key := littleIDBigID inviter invitee
  [setStatus key "agree",
    addToFriends oid inviter ⟨invitee, tonodeid⟩,
    setStatus key "inviter",
    setStatus key "userUnreadInviter",
    addToFriends oid invitee ⟨inviter, tonodeid⟩,
    setStatus key "invitee",
    setStatus key "finish"]

/-- The request that `mongo_client::addFriendAuthorize` finds. -/
def findRequest (inviter invitee : String) (db : FriendDb ω) : Option AddFriendDoc :=
  findOne (hasKey (littleIDBigID inviter invitee)) db.addFriend

/-- `mongo_client::addFriendAuthorize`. -/
def addFriendAuthorize (oid : String → Except SystemError ω) (inviter invitee : String)
    (fault : ℕ → Option SystemError) (db : FriendDb ω) :
    Except SystemError Unit × FriendDb ω :=
  match findRequest inviter invitee db with
  | none => (.error ⟨40008, "not find add friend request"⟩, db)
  | some doc =>
      if doc.status ≠ "createNodeCount" then
        (.error ⟨40009, "add friend authorize info not consistently"⟩, db)
      else
        match run fault (authorizeOps oid inviter invitee doc.toNodeID) db with
        | (.error _, db) => (.error ⟨40005, "add friend authorize failre"⟩, db)
        | (.ok (), db) => (.ok (), db)

/-- `dispatch(chat::AddFriendAuthorize&)` on a connection of the user `userid`. -/
def dispatchAddFriendAuthorize (oid : String → Except SystemError ω) (userid : String)
    (addAuth : AddFriendAuthorize) (fault : ℕ → Option SystemError) (db : FriendDb ω) :
    Except SystemError Unit × FriendDb ω :=
  if addAuth.inviterID = "" ∨ addAuth.inviteeID = "" ∨ addAuth.inviteeID ≠ userid then
    (.error ⟨11023, "authorize permission error"⟩, db)
  else if addAuth.isAgree then
    addFriendAuthorize oid addAuth.inviterID addAuth.inviteeID fault db
  else (.ok (), db)

/-! ### What the two requests do to the database -/

/-- What a request is never updated in. -/
def AddFriendDoc.ids (doc : AddFriendDoc) : String × String × String :=
  (doc.littleIDBigID, doc.inviter, doc.invitee)

omit [DecidableEq ω] in
/-- An update of the requests leaves their users, and the users alone. -/
theorem updateRequest_ids {key : String} {f : AddFriendDoc → AddFriendDoc}
    {d d' : FriendDb ω} (h : updateRequest key f d = .ok d')
    (hf : ∀ doc, (f doc).ids = doc.ids) :
    d'.user = d.user ∧ d'.addFriend.map AddFriendDoc.ids = d.addFriend.map AddFriendDoc.ids := by
  obtain rfl := Except.ok.inj h
  exact ⟨rfl, map_updateOne (fun doc _ => hf doc) d.addFriend⟩

omit [DecidableEq ω] in
/-- `mongo_client::addFriend` does nothing, or records the request. -/
theorem addFriend_spec (frd : AddFriend) (msgNodeid : String)
    (fault : ℕ → Option SystemError) (db : FriendDb ω) :
    (addFriend frd msgNodeid fault db).2 = db ∨
      ((addFriend frd msgNodeid fault db).2.user = db.user ∧
        (addFriend frd msgNodeid fault db).2.addFriend.map AddFriendDoc.ids =
          db.addFriend.map AddFriendDoc.ids ++
            [(littleIDBigID frd.inviterID frd.inviteeID, frd.inviterID, frd.inviteeID)]) := by
  have hrun : (addFriend frd msgNodeid fault db).2 =
      (run fault (addFriendOps frd msgNodeid) db).2 := by
    rw [addFriend]
    rcases run fault (addFriendOps frd msgNodeid) db with ⟨_ | _, _⟩ <;> rfl
  rw [hrun, addFriendOps, run]
  cases fault 0 with
  | some e => exact .inl rfl
  | none =>
      simp only
      cases hins : insertRequest ⟨littleIDBigID frd.inviterID frd.inviteeID, frd.inviterID,
          frd.inviteeID, "", "request"⟩ db with
      | error e => exact .inl rfl
      | ok d =>
          right
          refine run_inv (I := fun d' : FriendDb ω => d'.user = db.user ∧
            d'.addFriend.map AddFriendDoc.ids = db.addFriend.map AddFriendDoc.ids ++
              [(littleIDBigID frd.inviterID frd.inviteeID, frd.inviterID, frd.inviteeID)])
            ?_ _ ?_
          · intro op hop d₁ d₂ hd₁ hd₂
            have hkeep : d₂.user = d₁.user ∧
                d₂.addFriend.map AddFriendDoc.ids = d₁.addFriend.map AddFriendDoc.ids := by
              rw [List.mem_cons, List.mem_singleton] at hop
              rcases hop with rfl | rfl
              · exact updateRequest_ids hd₂ (fun doc => rfl)
              · exact updateRequest_ids hd₂ (fun doc => rfl)
            exact ⟨hkeep.1.trans hd₁.1, hkeep.2.trans hd₁.2⟩
          · rw [insertRequest, insertUnique] at hins
            split at hins
            · cases hins
            · rename_i docs hdocs
              split at hdocs
              · cases hdocs
              · obtain rfl := Option.some.inj hdocs
                obtain rfl := Except.ok.inj hins
                exact ⟨rfl, List.map_append⟩

omit [DecidableEq ω] in
/-- `dispatch(chat::AddFriend&)` does nothing, or records a request of the sender to an
existing user. -/
theorem dispatchAddFriend_spec (oid : String → Except SystemError ω) (userid : String)
    (frd : AddFriend) (msgNodeid : String) (fault : ℕ → Option SystemError)
    (db : FriendDb ω) :
    (dispatchAddFriend oid userid frd msgNodeid fault db).2 = db ∨
      ((∃ id, oid frd.inviterID = .ok id) ∧ (∃ id, oid frd.inviteeID = .ok id) ∧
        (dispatchAddFriend oid userid frd msgNodeid fault db).2.user = db.user ∧
        (dispatchAddFriend oid userid frd msgNodeid fault db).2.addFriend.map
          AddFriendDoc.ids = db.addFriend.map AddFriendDoc.ids ++
            [(littleIDBigID frd.inviterID frd.inviteeID, frd.inviterID, frd.inviteeID)]) := by
  have hid : ∀ {userID : String} {user : UserDoc}, queryUser oid userID db = .ok user →
      ∃ id, oid userID = .ok id := by
    intro userID user hquery
    rw [queryUser] at hquery
    cases hoid : oid userID with
    | error e =>
        rw [hoid] at hquery
        cases hquery
    | ok id => exact ⟨id, rfl⟩
  rw [dispatchAddFriend]
  split
  · exact .inl rfl
  · cases hpeer : queryUser oid frd.inviteeID db with
    | error e => exact .inl rfl
    | ok peerUser =>
        simp only
        split
        · exact .inl rfl
        · cases huser : queryUser oid frd.inviterID db with
          | error e => exact .inl rfl
          | ok user =>
              simp only
              split
              · exact .inl rfl
              · split
                · exact .inl rfl
                · rcases addFriend_spec frd msgNodeid fault db with heq | ⟨hsame, hids⟩
                  · exact .inl heq
                  · exact .inr ⟨hid huser, hid hpeer, hsame, hids⟩

/-- The entry `info` of the list of friends of the user `id` is one that an agreement makes. -/
def AgreedEntry (oid : String → Except SystemError ω) (inviter invitee : String) (id : ω)
    (info : UserInfo) : Prop :=
  (oid inviter = .ok id ∧ info.userID = invitee) ∨
    (oid invitee = .ok id ∧ info.userID = inviter)

/-- Adding a friend adds one entry to one list. -/
theorem addToFriends_spec {oid : String → Except SystemError ω} {userID : String}
    {info : UserInfo} {d d' : FriendDb ω} (h : addToFriends oid userID info d = .ok d') :
    d'.addFriend = d.addFriend ∧ ∀ id user' info', d'.user id = some user' →
      info' ∈ user'.friends → (∃ user, d.user id = some user ∧ info' ∈ user.friends) ∨
        (oid userID = .ok id ∧ info' = info) := by
  rw [addToFriends] at h
  cases hoid : oid userID with
  | error e =>
      rw [hoid] at h
      cases h
  | ok id =>
      rw [hoid] at h
      obtain rfl := Except.ok.inj h
      refine ⟨rfl, fun id' user' info' huser' hinfo' => ?_⟩
      by_cases hid : id' = id
      · subst hid
        simp only [Function.update_self] at huser'
        obtain ⟨user, huser, rfl⟩ := Option.map_eq_some_iff.mp huser'
        rcases mem_addToSet.mp hinfo' with hold | hnew
        · exact .inl ⟨user, huser, hold⟩
        · exact .inr ⟨rfl, hnew⟩
      · simp only [Function.update_of_ne hid] at huser'
        exact .inl ⟨user', huser', hinfo'⟩

/-- Compared with `db`, only the entries of the agreement may be new. -/
structure OnlyAgreed (oid : String → Except SystemError ω) (inviter invitee : String)
    (db d : FriendDb ω) : Prop where
  requests : d.addFriend.map AddFriendDoc.ids = db.addFriend.map AddFriendDoc.ids
  friends : ∀ id user' info, d.user id = some user' → info ∈ user'.friends →
    (∃ user, db.user id = some user ∧ info ∈ user.friends) ∨
      AgreedEntry oid inviter invitee id info

omit [DecidableEq ω] in
/-- An update of the requests makes no friends. -/
theorem OnlyAgreed.updateRequest {oid : String → Except SystemError ω}
    {inviter invitee key : String} {f : AddFriendDoc → AddFriendDoc} {db d d' : FriendDb ω}
    (h : OnlyAgreed oid inviter invitee db d) (hd' : updateRequest key f d = .ok d')
    (hf : ∀ doc, (f doc).ids = doc.ids) : OnlyAgreed oid inviter invitee db d' := by
  obtain ⟨huser, hids⟩ := updateRequest_ids hd' hf
  exact ⟨hids.trans h.requests, fun id user' info hid => h.friends id user' info (huser ▸ hid)⟩

/-- An entry makes the friends that have been agreed on. -/
theorem OnlyAgreed.addToFriends {oid : String → Except SystemError ω}
    {inviter invitee userID : String} {new : UserInfo} {db d d' : FriendDb ω}
    (h : OnlyAgreed oid inviter invitee db d)
    (hnew : ∀ id, oid userID = .ok id → AgreedEntry oid inviter invitee id new)
    (hd' : addToFriends oid userID new d = .ok d') : OnlyAgreed oid inviter invitee db d' := by
  obtain ⟨hrequests, hfriends⟩ := addToFriends_spec hd'
  refine ⟨by rw [hrequests, h.requests], fun id user' info huser' hinfo => ?_⟩
  rcases hfriends id user' info huser' hinfo with ⟨user, huser, hold⟩ | ⟨hoid, rfl⟩
  · exact h.friends id user info huser hold
  · exact .inr (hnew id hoid)

/-- The operations of an agreement keep to its entries, wherever they fail. -/
theorem onlyAgreed_authorizeOps (oid : String → Except SystemError ω)
    (inviter invitee tonodeid : String) (fault : ℕ → Option SystemError) (db : FriendDb ω) :
    OnlyAgreed oid inviter invitee db
      (run fault (authorizeOps oid inviter invitee tonodeid) db).2 := by
  refine run_inv ?_ fault ⟨rfl, fun id user' info huser' hinfo => .inl ⟨user', huser', hinfo⟩⟩
  intro op hop d d' hd hd'
  simp only [authorizeOps, List.mem_cons, List.not_mem_nil, or_false] at hop
  rcases hop with rfl | rfl | rfl | rfl | rfl | rfl | rfl
  · exact hd.updateRequest hd' (fun doc => rfl)
  · exact hd.addToFriends (fun id hoid => .inl ⟨hoid, rfl⟩) hd'
  · exact hd.updateRequest hd' (fun doc => rfl)
  · exact hd.updateRequest hd' (fun doc => rfl)
  · exact hd.addToFriends (fun id hoid => .inr ⟨hoid, rfl⟩) hd'
  · exact hd.updateRequest hd' (fun doc => rfl)
  · exact hd.updateRequest hd' (fun doc => rfl)

/-- `dispatch(chat::AddFriendAuthorize&)` does nothing, or finds a request to agree to and
enters the two users, and them only, in each other's list of friends. -/
theorem dispatchAddFriendAuthorize_spec (oid : String → Except SystemError ω)
    (userid : String) (addAuth : AddFriendAuthorize) (fault : ℕ → Option SystemError)
    (db : FriendDb ω) :
    (dispatchAddFriendAuthorize oid userid addAuth fault db).2 = db ∨
      (addAuth.inviteeID = userid ∧ addAuth.isAgree = true ∧
        (∃ doc, findRequest addAuth.inviterID addAuth.inviteeID db = some doc ∧
          doc.status = "createNodeCount") ∧
        OnlyAgreed oid addAuth.inviterID addAuth.inviteeID db
          (dispatchAddFriendAuthorize oid userid addAuth fault db).2) := by
  rw [dispatchAddFriendAuthorize]
  split
  · exact .inl rfl
  · rename_i hargs
    split
    · rename_i hagree
      rw [addFriendAuthorize]
      cases hfind : findRequest addAuth.inviterID addAuth.inviteeID db with
      | none => exact .inl rfl
      | some doc =>
          simp only
          split
          · exact .inl rfl
          · rename_i hstatus
            have hops := onlyAgreed_authorizeOps oid addAuth.inviterID addAuth.inviteeID
              doc.toNodeID fault db
            simp only [not_or, not_not] at hargs
            refine .inr ⟨hargs.2.2, hagree, ⟨doc, rfl, not_not.mp hstatus⟩, ?_⟩
            generalize run fault (authorizeOps oid addAuth.inviterID addAuth.inviteeID
              doc.toNodeID) db = res at hops
            rcases res with ⟨_ | _, _⟩
            · exact hops
            · exact hops
    · exact .inl rfl

omit [DecidableEq ω] in
/-- Where no operation fails from outside, a request that is answered has been recorded, and
one that is not has not. -/
theorem dispatchAddFriend_recorded_iff (oid : String → Except SystemError ω) (userid : String)
    (frd : AddFriend) (msgNodeid : String) (db : FriendDb ω) :
    db.addFriend.length <
        (dispatchAddFriend oid userid frd msgNodeid (fun _ => none) db).2.addFriend.length ↔
      ∃ res, (dispatchAddFriend oid userid frd msgNodeid (fun _ => none) db).1 = .ok res := by
  have hadd : db.addFriend.length <
        (addFriend frd msgNodeid (fun _ => none) db).2.addFriend.length ↔
      ∃ res, (addFriend frd msgNodeid (fun _ => none) db).1 = .ok res := by
    simp only [addFriend, addFriendOps, run, setStatus, updateRequest]
    cases hins : insertRequest ⟨littleIDBigID frd.inviterID frd.inviteeID, frd.inviterID,
        frd.inviteeID, "", "request"⟩ db with
    | error e => simp
    | ok d =>
        rw [insertRequest, insertUnique] at hins
        split at hins
        · cases hins
        · rename_i docs hdocs
          split at hdocs
          · cases hdocs
          · obtain rfl := Option.some.inj hdocs
            obtain rfl := Except.ok.inj hins
            simp
  rw [dispatchAddFriend]
  split
  · simp
  · cases queryUser oid frd.inviteeID db with
    | error e => simp
    | ok peerUser =>
        simp only
        split
        · simp
        · cases queryUser oid frd.inviterID db with
          | error e => simp
          | ok user =>
              simp only
              split
              · simp
              · split
                · simp
                · exact hadd

/-! ### Runs -/

/-- What has been asked and agreed to. -/
inductive FriendLog
  /-- A request of `inviter` to `invitee` has been recorded. -/
  | requested (inviter invitee : String)
  /-- `agree` has been sent on a connection of `userid`. -/
  | agreed (userid inviter invitee : String)
deriving DecidableEq

/-- The database and the history of the requests. -/
structure FriendRun (ω : Type) where
  db : FriendDb ω
  log : List FriendLog

/-- A request on a connection of the user `userid`. -/
inductive FriendEvent
  | addFriend (userid : String) (frd : AddFriend) (msgNodeid : String)
      (fault : ℕ → Option SystemError)
  | addFriendAuthorize (userid : String) (addAuth : AddFriendAuthorize)
      (fault : ℕ → Option SystemError)

def friendStep (oid : String → Except SystemError ω) (t : FriendRun ω) :
    FriendEvent → FriendRun ω
  | .addFriend userid frd msgNodeid fault =>
      let db := (dispatchAddFriend oid userid frd msgNodeid fault t.db).2
      ⟨db, if t.db.addFriend.length < db.addFriend.length then
        t.log ++ [.requested frd.inviterID frd.inviteeID] else t.log⟩
  | .addFriendAuthorize userid addAuth fault =>
      ⟨(dispatchAddFriendAuthorize oid userid addAuth fault t.db).2,
        if addAuth.isAgree then
          t.log ++ [.agreed userid addAuth.inviterID addAuth.inviteeID] else t.log⟩

/-- The server before the first request, with any users. -/
def FriendRun.new (user : ω → Option UserDoc) : FriendRun ω :=
  ⟨⟨fun id => (user id).map fun doc => { doc with friends := [] }, []⟩, []⟩

/-- The invitee of a recorded request has agreed to it later. -/
def Consented (log : List FriendLog) (inviter invitee : String) : Prop :=
  ∃ log₁ log₂, log = log₁ ++ .requested inviter invitee :: log₂ ∧
    .agreed invitee inviter invitee ∈ log₂

/-- Every entry in a list of friends comes from a request of one of the two that the other
one has agreed to. -/
def FriendsConsented (oid : String → Except SystemError ω) (t : FriendRun ω) : Prop :=
  ∀ id user info, t.db.user id = some user → info ∈ user.friends →
    ∃ inviter invitee, Consented t.log inviter invitee ∧
      AgreedEntry oid inviter invitee id info

/-- The condition on a step: a request that is about to be agreed to records the sender of
the agreement as its invitee. -/
def AgreedByInvitee (t : FriendRun ω) : FriendEvent → Prop
  | .addFriendAuthorize userid addAuth _ => addAuth.isAgree = true →
      addAuth.inviteeID = userid → ∀ doc,
        findRequest addAuth.inviterID addAuth.inviteeID t.db = some doc →
          doc.status = "createNodeCount" → doc.invitee = userid
  | _ => True

/-- What is recorded of each request, and where the friends come from. -/
structure FriendInv (oid : String → Except SystemError ω) (t : FriendRun ω) : Prop where
  requests : ∀ key inviter invitee,
    (key, inviter, invitee) ∈ t.db.addFriend.map AddFriendDoc.ids →
      key = littleIDBigID inviter invitee ∧ inviter.length = 24 ∧ invitee.length = 24 ∧
        .requested inviter invitee ∈ t.log
  friends : FriendsConsented oid t

/-- A consent is not taken back. -/
theorem Consented.append {log : List FriendLog} {inviter invitee : String}
    (h : Consented log inviter invitee) (log' : List FriendLog) :
    Consented (log ++ log') inviter invitee := by
  obtain ⟨log₁, log₂, rfl, hmem⟩ := h
  exact ⟨log₁, log₂ ++ log', by simp, List.mem_append_left log' hmem⟩

omit [DecidableEq ω] in
/-- The history may grow while the database stays. -/
theorem FriendInv.append {oid : String → Except SystemError ω} {t : FriendRun ω}
    (h : FriendInv oid t) (log' : List FriendLog) : FriendInv oid ⟨t.db, t.log ++ log'⟩ := by
  constructor
  · intro key inviter invitee hmem
    obtain ⟨hkey, hinviter, hinvitee, hreq⟩ := h.requests key inviter invitee hmem
    exact ⟨hkey, hinviter, hinvitee, List.mem_append_left log' hreq⟩
  · intro id user info huser hinfo
    obtain ⟨inviter, invitee, hcons, hentry⟩ := h.friends id user info huser hinfo
    exact ⟨inviter, invitee, hcons.append log', hentry⟩

/-- A recorded request. -/
theorem friendInv_addFriend {oid : String → Except SystemError ω}
    (hoid : ∀ userID id, oid userID = .ok id → userID.length = 24) {t : FriendRun ω}
    (h : FriendInv oid t) (userid : String) (frd : AddFriend) (msgNodeid : String)
    (fault : ℕ → Option SystemError) :
    FriendInv oid (friendStep oid t (.addFriend userid frd msgNodeid fault)) := by
  simp only [friendStep]
  rcases dispatchAddFriend_spec oid userid frd msgNodeid fault t.db with
    heq | ⟨⟨id₁, hinviter⟩, ⟨id₂, hinvitee⟩, huser, hids⟩
  · rw [heq, if_neg (lt_irrefl _)]
    exact h
  · have hlt : t.db.addFriend.length <
        (dispatchAddFriend oid userid frd msgNodeid fault t.db).2.addFriend.length := by
      have hlen := congrArg List.length hids
      simp only [List.length_map, List.length_append, List.length_singleton] at hlen
      omega
    rw [if_pos hlt]
    have hold := h.append [.requested frd.inviterID frd.inviteeID]
    constructor
    · intro key inviter invitee hmem
      rw [hids, List.mem_append, List.mem_singleton] at hmem
      rcases hmem with hmem | hmem
      · exact hold.requests key inviter invitee hmem
      · obtain ⟨rfl, hrest⟩ := Prod.mk.inj hmem
        obtain ⟨rfl, rfl⟩ := Prod.mk.inj hrest
        exact ⟨rfl, hoid _ id₁ hinviter, hoid _ id₂ hinvitee,
          List.mem_append_right _ List.mem_cons_self⟩
    · intro id user info huser' hinfo
      rw [huser] at huser'
      exact hold.friends id user info huser' hinfo

/-- An agreement of the invitee. -/
theorem friendInv_authorize {oid : String → Except SystemError ω} {t : FriendRun ω}
    (h : FriendInv oid t) (userid : String) (addAuth : AddFriendAuthorize)
    (fault : ℕ → Option SystemError)
    (hstep : AgreedByInvitee t (.addFriendAuthorize userid addAuth fault)) :
    FriendInv oid (friendStep oid t (.addFriendAuthorize userid addAuth fault)) := by
  simp only [friendStep]
  rcases dispatchAddFriendAuthorize_spec oid userid addAuth fault t.db with
    heq | ⟨hsender, hagree, ⟨doc, hfind, hstatus⟩, honly⟩
  · rw [heq]
    split
    · exact h.append _
    · exact h
  · rw [if_pos hagree]
    have hinvitee : doc.invitee = userid := hstep hagree hsender doc hfind hstatus
    have hmem : doc.ids ∈ t.db.addFriend.map AddFriendDoc.ids :=
      List.mem_map_of_mem (List.mem_of_find?_eq_some hfind)
    obtain ⟨hkey, hlen₁, hlen₂, hreq⟩ := h.requests _ _ _ hmem
    have hfound : hasKey (littleIDBigID addAuth.inviterID addAuth.inviteeID) doc = true :=
      List.find?_some hfind
    rw [hinvitee, ← hsender] at hkey hlen₂ hreq
    have hinviter : addAuth.inviterID = doc.inviter :=
      littleIDBigID_inj (hlen₁.trans hlen₂.symm) ((beq_iff_eq.mp hfound).symm.trans hkey)
    have hold := h.append [.agreed userid addAuth.inviterID addAuth.inviteeID]
    constructor
    · intro key inviter invitee hmem'
      rw [honly.requests] at hmem'
      exact hold.requests key inviter invitee hmem'
    · intro id user info huser hinfo
      rcases honly.friends id user info huser hinfo with ⟨user₀, huser₀, hinfo₀⟩ | hentry
      · exact hold.friends id user₀ info huser₀ hinfo₀
      · refine ⟨addAuth.inviterID, addAuth.inviteeID, ?_, hentry⟩
        rw [← hinviter] at hreq
        obtain ⟨log₁, log₂, hlog⟩ := List.append_of_mem hreq
        refine ⟨log₁, log₂ ++ [.agreed userid addAuth.inviterID addAuth.inviteeID], ?_, ?_⟩
        · rw [hlog]
          simp
        · rw [hsender]
          simp

/-- **Friendship needs consent.** In every run of requests and agreements by any users in
any order, whatever operations on the database fail: if each request that is agreed to
records the sender of the agreement as its invitee, every entry in a list of friends comes
from a request of one of the two users that the other one has agreed to. -/
theorem friends_consented (oid : String → Except SystemError ω)
    (hoid : ∀ userID id, oid userID = .ok id → userID.length = 24)
    (user : ω → Option UserDoc) (es : List FriendEvent)
    (h : StepsMeet (friendStep oid) AgreedByInvitee (FriendRun.new user) es) :
    Always (friendStep oid) (FriendsConsented oid) (FriendRun.new user) es := by
  have hinv : Always (friendStep oid) (FriendInv oid) (FriendRun.new user) es := by
    refine always_of_stepsMeet ?_ ⟨?_, ?_⟩ h
    · intro t e ht hstep
      cases e with
      | addFriend userid frd msgNodeid fault =>
          exact friendInv_addFriend hoid ht userid frd msgNodeid fault
      | addFriendAuthorize userid addAuth fault =>
          exact friendInv_authorize ht userid addAuth fault hstep
    · intro key inviter invitee hmem
      cases hmem
    · intro id doc info huser hinfo
      obtain ⟨doc', -, rfl⟩ := Option.map_eq_some_iff.mp huser
      cases hinfo
  intro es₁ es₂ heq
  exact (hinv es₁ es₂ heq).friends

/-! ### A request and who agrees to it -/

/-- `bsoncxx::oid` of 24 hexadecimal digits in lower case. -/
def hexOid (userID : String) : Except SystemError String :=
  if userID.length = 24 ∧ userID.toList.all fun c => "0123456789abcdef".toList.contains c then
    .ok userID
  else .error ⟨8, "invalid oid"⟩

def idA : String := "aaaaaaaaaaaaaaaaaaaaaaaa"

def idB : String := "bbbbbbbbbbbbbbbbbbbbbbbb"

/-- A server with users of any id. -/
def anyUser : String → Option UserDoc := fun _ => some ⟨[], [], 1⟩

/-- The first user asks the second. -/
def inviterAsks : FriendEvent := .addFriend idA ⟨idA, idB, "hi"⟩ "n" fun _ => none

/-- The second user agrees. -/
def inviteeAgrees : FriendEvent := .addFriendAuthorize idB ⟨idA, idB, true⟩ fun _ => none

/-- The first user agrees, with the roles exchanged. -/
def inviterAgrees : FriendEvent := .addFriendAuthorize idA ⟨idB, idA, true⟩ fun _ => none

/-- The one asks, and the other agrees. -/
theorem friends_consented_invitee :
    Always (friendStep hexOid) (FriendsConsented hexOid) (FriendRun.new anyUser)
      [inviterAsks, inviteeAgrees] := by
  refine friends_consented hexOid ?_ anyUser [inviterAsks, inviteeAgrees] ⟨trivial, ?_, trivial⟩
  · intro userID id h
    rw [hexOid] at h
    split at h
    · rename_i hlen
      exact hlen.1
    · cases h
  · intro _ _ doc hfind _
    have hdoc : findRequest idA idB (friendStep hexOid (FriendRun.new anyUser) inviterAsks).db =
        some ⟨littleIDBigID idA idB, idA, idB, "n", "createNodeCount"⟩ := by
      decide
    obtain rfl := Option.some.inj (hfind.symm.trans hdoc)
    rfl

/-- The first user agrees to its own request, and has the second as a friend, who has not
agreed. -/
theorem not_friends_consented :
    ¬ FriendsConsented hexOid
      ([inviterAsks, inviterAgrees].foldl (friendStep hexOid) (FriendRun.new anyUser)) := by
  intro h
  have hlog : ([inviterAsks, inviterAgrees].foldl (friendStep hexOid)
      (FriendRun.new anyUser)).log = [.requested idA idB, .agreed idA idB idA] := by
    decide
  obtain ⟨inviter, invitee, ⟨log₁, log₂, heq, hmem⟩, -⟩ :=
    h idA ⟨[⟨idB, "n"⟩], [], 2⟩ ⟨idB, "n"⟩ (by decide) List.mem_cons_self
  rw [hlog] at heq
  cases log₁ with
  | nil =>
      injection heq with hreq hagreed
      rw [← hagreed, List.mem_singleton] at hmem
      injection hreq with hinviter hinvitee
      injection hmem with hsender _ _
      rw [← hinvitee] at hsender
      exact absurd hsender (by decide)
  | cons entry log₁ =>
      injection heq with _ htail
      cases log₁ with
      | nil =>
          injection htail with hreq _
          cases hreq
      | cons entry log₁ =>
          injection htail with _ htail
          cases log₁ <;> cases htail

end Yijian
