import Yijian.MessageNumbers
import Yijian.PendingRequests
import Yijian.Profiles
import Yijian.Unseen

/-!
# Requests as Documents

The friend graph and the phases of a request are about records. The collections hold BSON documents,
which the calls find by one field, update field by field and read by the names of the fields, and
`addFriend` writes to the nodes and the messages in between. Here both calls are their operations on
the documents, any of which may fail, and each call does to the documents what it does to the
records, cut at the place that the failure stands for.

## Convention

The documents are those of `Yijian.StoredDocuments`, with the call of `addFriend` cut where a
failure strikes. A failure on the documents is one on the records, at the operation that does the
same: an operation that the records do not have (the node, its counter, the message) may fail as
well, and the records then stop at the next operation they have, with the same lists and the same
status. `GraphShown` is what is kept. Of a request it takes the fields that the calls look at, of a
user the friends, the blacklist and the version, and of the unread numbers the whole collection.
There may be any other documents, and fields, beside these.

## Main results

* `addFriend_eq_ok_iff`: without a failure, the operations are the call.
* `shows_addFriend`, `shows_addFriendAuthorize`: what a call does to the documents, wherever it is
  cut.
* `requests_refine_graph`: every run on the documents is one on the records, and the requests are
  told as the records are.
-/

namespace Yijian

open Bson Documents Runs

variable {ω : Type}

/-! ### The calls -/

namespace MongoClient

section Calls

variable [DecidableEq ω]

/-- An update of a request. -/
def updateRequest (key : String) (f : Fields ω → Fields ω) (db : DocumentDb ω) :
    Except SystemError (DocumentDb ω) := do
  let addFriend ← updateDoc (isText "littleIDBigID" key) (fun doc => some (f doc)) db.addFriend
  return { db with addFriend := addFriend }

/-- The operations of `mongo_client::addFriend` in front of the message. -/
def addFriendOps (ids : ObjectIds ω) (addfrd : AddFriend) (nodeId : ω) :
    List (DocumentDb ω → Except SystemError (DocumentDb ω)) :=
  let key := littleIDBigID addfrd.inviterID addfrd.inviteeID
  let msgNodeid := ids.toText nodeId
  [fun db => do
      let addFriend ← insertDoc (isText "littleIDBigID" key)
        [("littleIDBigID", .utf8 key), ("inviter", .utf8 addfrd.inviterID),
          ("invitee", .utf8 addfrd.inviteeID), ("toNodeID", .utf8 ""), ("status", .utf8 "request")]
        db.addFriend
      return { db with addFriend := addFriend },
    fun db => do
      let messageNode ← insertDoc (isOid "_id" nodeId)
        [("_id", .oid nodeId), ("authorize", .int32 MessageNode.peer),
          ("creatorID", .utf8 addfrd.inviterID), ("nickname", .utf8 ""), ("managerIDs", .array []),
          ("memebers", .array [.utf8 addfrd.inviterID, .utf8 addfrd.inviteeID])] db.messageNode
      return { db with messageNode := messageNode },
    updateRequest key fun doc =>
      set "status" (.utf8 "createNode") (set "toNodeID" (.utf8 msgNodeid) doc),
    createNodeCount msgNodeid,
    updateRequest key (set "status" (.utf8 "createNodeCount"))]

/-- `mongo_client::insertMessage`, either operation of which may fail. -/
def insertMessageWith (ids : ObjectIds ω) (message : NodeMessage) (id : ω)
    (take store : Option SystemError) (db : DocumentDb ω) :
    Except SystemError NodeMessageRes × DocumentDb ω :=
  match take, takeIncrementid message db with
  | some _, _ => (.error ⟨40051, "insert message failure"⟩, db)
  | none, (.error _, db) => (.error ⟨40051, "insert message failure"⟩, db)
  | none, (.ok incrementid, db) =>
      match store, storeMessage ids message id incrementid db with
      | none, .ok (res, db) => (.ok res, db)
      | _, _ => (.error ⟨40051, "insert message failure"⟩, db)

/-- `mongo_client::addFriend`, with the object ids of the node and of the message; the operation
with the number `n` fails with `fault n`. -/
def addFriendWith (ids : ObjectIds ω) (addfrd : AddFriend) (nodeId msgId : ω)
    (fault : ℕ → Option SystemError) (db : DocumentDb ω) :
    Except SystemError AddFriendRes × DocumentDb ω :=
  let msgNodeid := ids.toText nodeId
  match run fault (addFriendOps ids addfrd nodeId) db with
  | (.error _, db) => (.error ⟨40004, "add friend failure"⟩, db)
  | (.ok (), db) =>
      match insertMessageWith ids ⟨"", addfrd.inviterID, msgNodeid, 0, mediaText, addfrd.msg⟩
        msgId (fault 5) (fault 6) db with
      | (.error _, db) => (.error ⟨40004, "add friend failure"⟩, db)
      | (.ok _, db) => (.ok ⟨addfrd.inviterID, addfrd.inviteeID, msgNodeid⟩, db)

/-- Without a failure the two operations are those of the call. -/
theorem insertMessageWith_eq_ok_iff {ids : ObjectIds ω} {message : NodeMessage} {id : ω}
    {db db' : DocumentDb ω} {res : NodeMessageRes} :
    insertMessageWith ids message id none none db = (.ok res, db') ↔
      insertMessage ids message id db = .ok (res, db') := by
  rw [insertMessage_eq, mapError_eq_ok]
  unfold insertMessageWith
  rcases takeIncrementid message db with ⟨e | incrementid, db₁⟩
  · exact iff_of_false (fun h => by cases h) fun h => by cases h
  · simp only [Except.bind]
    cases storeMessage ids message id incrementid db₁ with
    | error e => exact iff_of_false (fun h => by cases h) fun h => by cases h
    | ok r =>
        obtain ⟨res', db₂⟩ := r
        simp only [Prod.mk.injEq, Except.ok.injEq]

/-- **Without a failure** the operations are those of the call. -/
theorem addFriend_eq_ok_iff {ids : ObjectIds ω} {addfrd : AddFriend} {nodeId msgId : ω}
    {db db' : DocumentDb ω} {res : AddFriendRes} :
    addFriendWith ids addfrd nodeId msgId (fun _ => none) db = (.ok res, db') ↔
      addFriend ids addfrd nodeId msgId db = .ok (res, db') := by
  have hcalls : addFriendWith ids addfrd nodeId msgId (fun _ => none) db = (.ok res, db') ↔
      ∃ db₁, run (fun _ => none) (addFriendOps ids addfrd nodeId) db = (.ok (), db₁) ∧
        ∃ r, insertMessageWith ids ⟨"", addfrd.inviterID, ids.toText nodeId, 0, mediaText,
            addfrd.msg⟩ msgId none none db₁ = (.ok r, db') ∧
          res = ⟨addfrd.inviterID, addfrd.inviteeID, ids.toText nodeId⟩ := by
    rw [addFriendWith]
    rcases run (fun _ => none) (addFriendOps ids addfrd nodeId) db with ⟨e | u, db₁⟩
    · exact iff_of_false (fun h => by cases h) fun ⟨_, h, _⟩ => by cases h
    · simp only [Prod.mk.injEq, true_and, exists_eq_left']
      rcases insertMessageWith ids ⟨"", addfrd.inviterID, ids.toText nodeId, 0, mediaText,
          addfrd.msg⟩ msgId none none db₁ with ⟨e | r, db₂⟩
      · exact iff_of_false (fun h => by cases h) fun ⟨_, h, _⟩ => by cases h
      · simp [eq_comm, and_comm]
  rw [hcalls, addFriend, addFriendOps, mapError_eq_ok]
  simp only [run_cons_eq_ok, insertMessageWith_eq_ok_iff, bind_eq_ok, updateRequest,
    createNodeCount, true_and]
  simp only [run, pure, Except.pure, Except.ok.injEq, Prod.mk.injEq, true_and]
  constructor
  · rintro ⟨_, ⟨_, ⟨b₁, h₁, rfl⟩, _, ⟨b₂, h₂, rfl⟩, _, ⟨b₃, h₃, rfl⟩, _, ⟨b₄, h₄, rfl⟩, _,
      ⟨b₅, h₅, rfl⟩, rfl⟩, r, h₆, rfl⟩
    exact ⟨b₁, h₁, b₂, h₂, b₃, h₃, b₄, h₄, b₅, h₅, (r, db'), h₆, rfl, rfl⟩
  · rintro ⟨b₁, h₁, b₂, h₂, b₃, h₃, b₄, h₄, b₅, h₅, ⟨r, _⟩, h₆, rfl, rfl⟩
    exact ⟨_, ⟨_, ⟨b₁, h₁, rfl⟩, _, ⟨b₂, h₂, rfl⟩, _, ⟨b₃, h₃, rfl⟩, _, ⟨b₄, h₄, rfl⟩, _,
      ⟨b₅, h₅, rfl⟩, rfl⟩, r, h₆, rfl⟩

end Calls

end MongoClient

/-! ### What the documents show -/

/-- The document of a request. -/
structure AddFriendDoc.Shown (doc : Fields ω) (request : AddFriendDoc) : Prop where
  key : get "littleIDBigID" doc = some (.utf8 request.littleIDBigID)
  inviter : get "inviter" doc = some (.utf8 request.inviter)
  invitee : get "invitee" doc = some (.utf8 request.invitee)
  toNodeID : get "toNodeID" doc = some (.utf8 request.toNodeID)
  status : get "status" doc = some (.utf8 request.status)

/-- The document of a user, as far as friendship goes. -/
structure UserDoc.Shown (view : Fields ω) (user : UserDoc) : Prop where
  friends : get "friends" view = some (.array (user.friends.map UserInfo.value))
  blacklist : get "blacklist" view = some (.array (user.blacklist.map .utf8))
  version : numberOf "version" view = some user.version

namespace AddFriendDoc.Shown

variable {doc : Fields ω} {request : AddFriendDoc}

/-- The status is set in the document as in the record. -/
theorem setStatus (h : request.Shown doc) (status : String) :
    ({ request with status := status } : AddFriendDoc).Shown
      (set "status" (.utf8 status) doc) where
  key := (get_set_of_ne (by decide) _ _).trans h.key
  inviter := (get_set_of_ne (by decide) _ _).trans h.inviter
  invitee := (get_set_of_ne (by decide) _ _).trans h.invitee
  toNodeID := (get_set_of_ne (by decide) _ _).trans h.toNodeID
  status := get_set_self _ _ _

/-- The node is set in the document as in the record. -/
theorem setNode (h : request.Shown doc) (toNodeID : String) :
    ({ request with toNodeID := toNodeID } : AddFriendDoc).Shown
      (set "toNodeID" (.utf8 toNodeID) doc) where
  key := (get_set_of_ne (by decide) _ _).trans h.key
  inviter := (get_set_of_ne (by decide) _ _).trans h.inviter
  invitee := (get_set_of_ne (by decide) _ _).trans h.invitee
  toNodeID := get_set_self _ _ _
  status := (get_set_of_ne (by decide) _ _).trans h.status

end AddFriendDoc.Shown

/-- **A friend** is added to the document as to the record. -/
theorem UserDoc.Shown.befriend {view view' : Fields ω} {user : UserDoc} (h : user.Shown view)
    {info : UserInfo}
    (hadd : (addDocument "friends" [("toNodeID", info.toNodeID), ("userID", info.userID)]
      view).bind (inc "version" 1) = some view') :
    ({ user with friends := addToSet info user.friends, version := user.version + 1 } :
      UserDoc).Shown view' ∧ oidOf "_id" view' = oidOf "_id" view := by
  obtain ⟨view₁, hview₁, hinc⟩ := Option.bind_eq_some_iff.mp hadd
  obtain ⟨hother, hfriends⟩ := get_of_addFriend h.friends hview₁
  have hversion : numberOf "version" view₁ = some user.version := by
    rw [numberOf, hother _ (by decide), ← numberOf, h.version]
  refine ⟨⟨?_, ?_, numberOf_of_inc hversion hinc⟩, ?_⟩
  · rw [get_of_inc (by decide) hinc, hfriends]
  · rw [get_of_inc (by decide) hinc, hother _ (by decide), h.blacklist]
  · rw [oidOf, get_of_inc (by decide) hinc, hother _ (by decide), ← oidOf]

/-! ### What an operation does -/

section Operations

variable [DecidableEq ω]

/-- The collections show the records. -/
structure GraphShown (db : DocumentDb ω) (graph : GraphDb ω) : Prop where
  requests : List.Forall₂ AddFriendDoc.Shown db.addFriend graph.friend.addFriend
  users : ∀ id, Option.Rel UserDoc.Shown (lookup (oidOf "_id") (some id) db.user)
    (graph.friend.user id)
  unread : db.userUnread = graph.userUnread

variable {db db' : DocumentDb ω} {graph : GraphDb ω}

/-- An operation on other collections. -/
theorem GraphShown.frame (h : GraphShown db graph) (huser : db'.user = db.user)
    (hrequests : db'.addFriend = db.addFriend) (hunread : db'.userUnread = db.userUnread) :
    GraphShown db' graph :=
  ⟨hrequests ▸ h.requests, huser ▸ h.users, hunread.trans h.unread⟩

/-- The first document with the key is that of the first record. -/
theorem GraphShown.find (h : GraphShown db graph) (key : String) :
    (db.addFriend.find? (isText "littleIDBigID" key) = none ∧
        findOne (hasKey key) graph.friend.addFriend = none) ∨
      ∃ doc request, db.addFriend.find? (isText "littleIDBigID" key) = some doc ∧
        findOne (hasKey key) graph.friend.addFriend = some request ∧ request.Shown doc :=
  forall₂_find h.requests fun _ _ hshown => isText_of_get hshown.key key

/-- A request that is inserted. -/
theorem GraphShown.insertRequest (h : GraphShown db graph) {doc : Fields ω}
    (request : AddFriendDoc) (hdoc : request.Shown doc) {docs : List (Fields ω)}
    (hinsert : insertDoc (isText "littleIDBigID" request.littleIDBigID) doc db.addFriend =
      .ok docs) :
    ∃ friend, Yijian.insertRequest request graph.friend = .ok friend ∧
      GraphShown { db with addFriend := docs } { graph with friend := friend } := by
  obtain ⟨hclash, rfl⟩ := insertDoc_ok.mp hinsert
  have hnew : request.littleIDBigID ∉ graph.friend.addFriend.map AddFriendDoc.littleIDBigID := by
    rcases h.find request.littleIDBigID with ⟨-, hnone⟩ | ⟨doc, _, hfind, -⟩
    · exact lookup_eq_none_iff.mp hnone
    · exact absurd (List.find?_some hfind) (hclash doc (List.mem_of_find?_eq_some hfind))
  refine ⟨{ graph.friend with addFriend := graph.friend.addFriend ++ [request] }, ?_,
    List.rel_append h.requests (.cons hdoc .nil), h.users, h.unread⟩
  rw [Yijian.insertRequest, insertUnique, if_neg hnew]

/-- A request that is updated. -/
theorem GraphShown.updateRequest (h : GraphShown db graph) {key : String}
    {f : Fields ω → Fields ω} {g : AddFriendDoc → AddFriendDoc}
    (hfg : ∀ doc request, request.Shown doc → (g request).Shown (f doc))
    (hcall : MongoClient.updateRequest key f db = .ok db') :
    ∃ friend, Yijian.updateRequest key g graph.friend = .ok friend ∧
      GraphShown db' { graph with friend := friend } := by
  simp only [MongoClient.updateRequest, bind_eq_ok] at hcall
  obtain ⟨docs, hdocs, hrfl⟩ := hcall
  obtain rfl := Except.ok.inj hrfl
  refine ⟨_, rfl, ?_, h.users, h.unread⟩
  refine forall₂_updateDoc h.requests (fun _ _ hshown => isText_of_get hshown.key key) ?_ hdocs
  intro doc doc' request hshown _ hdoc'
  obtain rfl := Option.some.inj hdoc'
  exact hfg doc request hshown

/-- A friend that is entered. -/
theorem GraphShown.addToFriends (h : GraphShown db graph) {ids : ObjectIds ω} {userid : String}
    {info : UserInfo} (hcall : MongoClient.addToFriends ids userid info db = .ok db') :
    ∃ friend, Yijian.addToFriends ids.oid userid info graph.friend = .ok friend ∧
      GraphShown db' { graph with friend := friend } := by
  simp only [MongoClient.addToFriends, bind_eq_ok] at hcall
  obtain ⟨i, hi, docs, hdocs, hrfl⟩ := hcall
  obtain rfl := Except.ok.inj hrfl
  refine ⟨_, addToFriends_of_oid hi info graph.friend, h.requests, fun id => ?_, h.unread⟩
  have hi' := h.users i
  simp only [Yijian.befriend, Function.update_apply]
  rcases updateDoc_ok hdocs with ⟨hnone, rfl⟩ | ⟨view, view', hview, hview', rfl⟩
  · have hlookup : lookup (oidOf "_id") (some i) db.user = none := hnone
    rw [hlookup] at hi'
    split
    · rename_i hid
      rw [hid, hlookup]
      cases hgraph : graph.friend.user i with
      | none => exact .none
      | some user =>
          rw [hgraph] at hi'
          cases hi'
    · exact h.users id
  · have hlookup : lookup (oidOf "_id") (some i) db.user = some view := hview
    rw [hlookup] at hi'
    cases hgraph : graph.friend.user i with
    | none =>
        rw [hgraph] at hi'
        cases hi'
    | some user =>
        rw [hgraph] at hi'
        obtain ⟨hshown⟩ := hi'
        obtain ⟨hbefriend, hoid⟩ := hshown.befriend hview'
        have hkey : oidOf "_id" view' = some i := hoid.trans (key_of_lookup hlookup)
        have hupdate : lookup (oidOf "_id") (some id)
            (updateOne (isOid "_id" i) (fun _ => view') db.user) =
            if some id = some i then (lookup (oidOf "_id") (some id) db.user).map fun _ => view'
            else lookup (oidOf "_id") (some id) db.user :=
          lookup_updateOne (by exact fun _ _ => hkey) (some id) db.user
        rw [hupdate]
        by_cases hid : id = i
        · rw [if_pos (congrArg some hid), if_pos hid, hid, hlookup]
          exact .some hbefriend
        · rw [if_neg fun h => hid (Option.some.inj h), if_neg hid]
          exact h.users id

/-- An unread number that is inserted. -/
theorem GraphShown.insertUnread (h : GraphShown db graph) {fault : Option SystemError}
    {userid tonodeid : String}
    (hcall : MongoClient.insertUnread fault userid tonodeid db = .ok db') :
    ∃ graph', unreadOp fault userid tonodeid graph = .ok graph' ∧ GraphShown db' graph' := by
  obtain rfl := Except.ok.inj hcall
  exact ⟨_, rfl, h.requests, h.users,
    congrArg (insertUnreadNode fault userid tonodeid) h.unread⟩

end Operations

/-! ### What a call does -/

section Calls

variable [DecidableEq ω] {db : DocumentDb ω} {graph : GraphDb ω}

/-- The message goes to the collections of the messages. -/
theorem GraphShown.insertMessage (h : GraphShown db graph) (ids : ObjectIds ω)
    (message : NodeMessage) (id : ω) (take store : Option SystemError) :
    GraphShown (MongoClient.insertMessageWith ids message id take store db).2 graph := by
  have htake : GraphShown (MongoClient.takeIncrementid message db).2 graph := by
    simp only [MongoClient.takeIncrementid]
    split
    · exact h
    · split
      · exact h
      · exact h.frame rfl rfl rfl
  unfold MongoClient.insertMessageWith
  split
  · exact h
  · rename_i hcall
    rw [hcall] at htake
    exact htake
  · rename_i hcall
    rw [hcall] at htake
    split
    · rename_i hstore
      simp only [MongoClient.storeMessage, bind_eq_ok] at hstore
      obtain ⟨docs, -, hrfl⟩ := hstore
      obtain ⟨-, rfl⟩ := Prod.mk.inj (Except.ok.inj hrfl)
      exact htake.frame rfl rfl rfl
    · exact htake

omit [DecidableEq ω] in
/-- What `addFriend` leaves is what its operations leave. -/
theorem snd_addFriend (addfrd : AddFriend) (msgNodeid : String)
    (fault : ℕ → Option SystemError) (friend : FriendDb ω) :
    (addFriend addfrd msgNodeid fault friend).2 =
      (run fault (addFriendOps addfrd msgNodeid) friend).2 := by
  rw [addFriend]
  rcases run fault (addFriendOps addfrd msgNodeid) friend with ⟨_ | _, _⟩ <;> rfl

/-- The operations of `addFriend` on the requests, with those on the nodes between them. -/
theorem GraphShown.runAddFriend (h : GraphShown db graph) (ids : ObjectIds ω)
    (addfrd : AddFriend) (nodeId : ω) (fault : ℕ → Option SystemError) :
    ∃ cut, GraphShown (run fault (MongoClient.addFriendOps ids addfrd nodeId) db).2
        (graphStep ids.oid graph (.addFriend addfrd (ids.toText nodeId) cut)) ∧
      ((run fault (MongoClient.addFriendOps ids addfrd nodeId) db).1 = .ok () →
        cut = fun _ => none) := by
  -- so many operations on the requests are done in front of each one
  let m : ℕ → ℕ := fun k => (k + 1) / 2
  obtain ⟨cut, hshown, -, hok, -⟩ := run_simulation (m := m)
    (R := fun db friend => GraphShown db { graph with friend := friend })
    (MongoClient.addFriendOps ids addfrd nodeId) (addFriendOps addfrd (ids.toText nodeId)) rfl
    (fun n => by
      show n < 5 ↔ (n + 1) / 2 < 3
      omega)
    (fun k op hop d d₁ friend hd hcall => by
      rcases k with _ | _ | _ | _ | _ | k
      · obtain rfl := Option.some.inj hop
        simp only [bind_eq_ok] at hcall
        obtain ⟨docs, hdocs, hrfl⟩ := hcall
        obtain rfl := Except.ok.inj hrfl
        obtain ⟨friend', hfriend, hd'⟩ := hd.insertRequest
          ⟨_, addfrd.inviterID, addfrd.inviteeID, "", "request"⟩ ⟨rfl, rfl, rfl, rfl, rfl⟩ hdocs
        exact .inr ⟨_, friend', rfl, rfl, hfriend, hd'⟩
      · obtain rfl := Option.some.inj hop
        simp only [bind_eq_ok] at hcall
        obtain ⟨docs, -, hrfl⟩ := hcall
        obtain rfl := Except.ok.inj hrfl
        exact .inl ⟨rfl, hd.frame rfl rfl rfl⟩
      · obtain rfl := Option.some.inj hop
        obtain ⟨friend', hfriend, hd'⟩ := hd.updateRequest
          (g := fun doc => { doc with toNodeID := ids.toText nodeId, status := "createNode" })
          (fun _ _ hshown => (hshown.setNode _).setStatus _) hcall
        exact .inr ⟨_, friend', rfl, rfl, hfriend, hd'⟩
      · obtain rfl := Option.some.inj hop
        simp only [MongoClient.createNodeCount, bind_eq_ok] at hcall
        obtain ⟨docs, -, hrfl⟩ := hcall
        obtain rfl := Except.ok.inj hrfl
        exact .inl ⟨rfl, hd.frame rfl rfl rfl⟩
      · obtain rfl := Option.some.inj hop
        obtain ⟨friend', hfriend, hd'⟩ := hd.updateRequest
          (fun _ _ hshown => hshown.setStatus "createNodeCount") hcall
        exact .inr ⟨_, friend', rfl, rfl, hfriend, hd'⟩
      · cases hop)
    fault h
  refine ⟨cut, ?_, hok⟩
  rw [graphStep, snd_addFriend]
  exact hshown

/-- **What `addFriend` does to the documents**, wherever it is cut. -/
theorem shows_addFriend (h : GraphShown db graph) (ids : ObjectIds ω) (addfrd : AddFriend)
    (nodeId msgId : ω) (fault : ℕ → Option SystemError) :
    ∃ cut, GraphShown (MongoClient.addFriendWith ids addfrd nodeId msgId fault db).2
        (graphStep ids.oid graph (.addFriend addfrd (ids.toText nodeId) cut)) ∧
      ((MongoClient.addFriendWith ids addfrd nodeId msgId fault db).1.isOk = true →
        cut = fun _ => none) := by
  obtain ⟨cut, hshown, hok⟩ := h.runAddFriend ids addfrd nodeId fault
  refine ⟨cut, ?_⟩
  unfold MongoClient.addFriendWith
  rcases hrun : run fault (MongoClient.addFriendOps ids addfrd nodeId) db with ⟨e | u, db₁⟩
  · rw [hrun] at hshown
    exact ⟨hshown, fun h => by cases h⟩
  · rw [hrun] at hshown hok
    have hmessage := hshown.insertMessage ids
      ⟨"", addfrd.inviterID, ids.toText nodeId, 0, mediaText, addfrd.msg⟩ msgId (fault 5) (fault 6)
    refine ⟨?_, fun _ => hok rfl⟩
    simp only
    split
    · rename_i hcall
      rw [hcall] at hmessage
      exact hmessage
    · rename_i hcall
      rw [hcall] at hmessage
      exact hmessage

omit [DecidableEq ω] in
/-- An operation on users and requests leaves the rows alone. -/
theorem onFriendDb_ok {op : DbOp ω} {friend : FriendDb ω} (h : op graph.friend = .ok friend) :
    onFriendDb op graph = .ok { graph with friend := friend } := by
  rw [onFriendDb, h]
  rfl

/-- An authorization that is cut in front of its first operation. -/
theorem graphAuthorize_of_cut {oid : String → Except SystemError ω} {inviter invitee : String}
    {fault : ℕ → Option SystemError} {e : SystemError} (he : fault 0 = some e) :
    (graphAuthorize oid inviter invitee fault graph).2 = graph := by
  unfold graphAuthorize
  split
  · rfl
  · split
    · rfl
    · have hfirst : thrown fault 0 = some e := (if_neg (by decide)).trans he
      rw [graphOps, run_zero (thrown fault), run_cons_fault (thrown fault) 0 hfirst]

/-- An authorization that finds its request does the operations. -/
theorem snd_graphAuthorize {inviter invitee : String} {request : AddFriendDoc}
    (hfind : findRequest inviter invitee graph.friend = some request)
    (hwaits : request.status = "createNodeCount") (oid : String → Except SystemError ω)
    (fault : ℕ → Option SystemError) :
    (graphAuthorize oid inviter invitee fault graph).2 =
      (run (thrown fault) (graphOps oid inviter invitee request.toNodeID fault) graph).2 := by
  rw [graphAuthorize, hfind]
  simp only [if_neg (not_not.mpr hwaits)]
  rcases run (thrown fault) (graphOps oid inviter invitee request.toNodeID fault) graph
    with ⟨_ | _, _⟩
  · rfl
  · rfl

/-- A status that is set. -/
theorem simulates_setStatus (key status : String) :
    Simulates GraphShown (MongoClient.setStatus (ω := ω) key status)
      (onFriendDb (setStatus key status)) := by
  intro d d₁ g hd hcall
  obtain ⟨friend, hfriend, hd'⟩ :=
    hd.updateRequest (fun _ _ hshown => hshown.setStatus status) hcall
  exact ⟨_, onFriendDb_ok hfriend, hd'⟩

/-- A friend that is entered. -/
theorem simulates_addToFriends (ids : ObjectIds ω) (userid : String) (info : UserInfo) :
    Simulates GraphShown (MongoClient.addToFriends ids userid info)
      (onFriendDb (addToFriends ids.oid userid info)) := by
  intro d d₁ g hd hcall
  obtain ⟨friend, hfriend, hd'⟩ := hd.addToFriends hcall
  exact ⟨_, onFriendDb_ok hfriend, hd'⟩

/-- An unread number that is inserted, or not. -/
theorem simulates_insertUnread (fault : Option SystemError) (userid tonodeid : String) :
    Simulates GraphShown (MongoClient.insertUnread (ω := ω) fault userid tonodeid)
      (unreadOp fault userid tonodeid) :=
  fun _ _ _ hd hcall => hd.insertUnread hcall

/-- The operations of `addFriendAuthorize`, one by one. -/
theorem simulates_authorizeOps (ids : ObjectIds ω) (inviter invitee tonodeid : String)
    (fault : ℕ → Option SystemError) :
    List.Forall₂ (Simulates GraphShown)
      (MongoClient.authorizeOps ids inviter invitee tonodeid fault)
      (graphOps ids.oid inviter invitee tonodeid fault) :=
  .cons (simulates_setStatus _ _) <| .cons (simulates_addToFriends ids _ _) <|
    .cons (simulates_setStatus _ _) <| .cons (simulates_insertUnread _ _ _) <|
    .cons (simulates_setStatus _ _) <| .cons (simulates_addToFriends ids _ _) <|
    .cons (simulates_setStatus _ _) <| .cons (simulates_insertUnread _ _ _) <|
    .cons (simulates_setStatus _ _) .nil

/-- What the two inserts of unread numbers throw is caught in them, and cuts nothing. -/
theorem thrown_eq_of_none {cut : ℕ → Option SystemError} (h₃ : cut 3 = none) (h₇ : cut 7 = none)
    (fault : ℕ → Option SystemError) :
    thrown (fun n => if n = 3 ∨ n = 7 then fault n else cut n) = cut := by
  funext n
  rw [thrown]
  by_cases hn : n = 3 ∨ n = 7
  · rw [if_pos hn]
    rcases hn with rfl | rfl
    · exact h₃.symm
    · exact h₇.symm
  · rw [if_neg hn, if_neg hn]

/-- **The operations of `addFriendAuthorize`**, wherever they are cut. -/
theorem GraphShown.runAuthorize (h : GraphShown db graph) (ids : ObjectIds ω)
    (inviter invitee tonodeid : String) (fault : ℕ → Option SystemError) :
    ∃ cut : ℕ → Option SystemError, (cut 3 = fault 3 ∧ cut 7 = fault 7) ∧
      GraphShown
        (run (thrown fault) (MongoClient.authorizeOps ids inviter invitee tonodeid fault) db).2
        (run (thrown cut) (graphOps ids.oid inviter invitee tonodeid cut) graph).2 ∧
      ((run (thrown fault) (MongoClient.authorizeOps ids inviter invitee tonodeid fault) db).1 =
        .ok () → ∀ n, thrown cut n = none) := by
  obtain ⟨cut, hshown, hok, hcut⟩ := run_simulation_forall₂
    (simulates_authorizeOps ids inviter invitee tonodeid fault) (thrown fault) h
  have h₃ : cut 3 = none := by
    refine Option.eq_none_iff_forall_ne_some.mpr fun e he => ?_
    obtain ⟨op, hop, hfault | ⟨d, herr⟩⟩ := hcut 3 e he
    · cases hfault
    · obtain rfl := Option.some.inj hop
      cases herr
  have h₇ : cut 7 = none := by
    refine Option.eq_none_iff_forall_ne_some.mpr fun e he => ?_
    obtain ⟨op, hop, hfault | ⟨d, herr⟩⟩ := hcut 7 e he
    · cases hfault
    · obtain rfl := Option.some.inj hop
      cases herr
  have hthrown := thrown_eq_of_none h₃ h₇ fault
  refine ⟨fun n => if n = 3 ∨ n = 7 then fault n else cut n, ⟨rfl, rfl⟩, ?_, fun hdone n => ?_⟩
  · rw [hthrown]
    exact hshown
  · rw [hthrown, hok hdone]

/-- **What `addFriendAuthorize` does to the documents**, wherever it is cut. -/
theorem shows_addFriendAuthorize (h : GraphShown db graph) (ids : ObjectIds ω)
    (inviter invitee : String) (lookup : Option SystemError) (fault : ℕ → Option SystemError) :
    ∃ cut : ℕ → Option SystemError, (cut 3 = fault 3 ∧ cut 7 = fault 7) ∧
      GraphShown (MongoClient.addFriendAuthorize ids inviter invitee lookup fault db).2
        (graphStep ids.oid graph (.addFriendAuthorize inviter invitee cut)) ∧
      ((MongoClient.addFriendAuthorize ids inviter invitee lookup fault db).1 = .ok () →
        ∀ n, thrown cut n = none) := by
  -- a call that ends in front of its operations is one whose first operation is cut
  have hidle (e : SystemError) {r : Except QueryError Unit} (hr : r ≠ .ok ()) :
      ∃ cut : ℕ → Option SystemError, (cut 3 = fault 3 ∧ cut 7 = fault 7) ∧
        GraphShown db (graphStep ids.oid graph (.addFriendAuthorize inviter invitee cut)) ∧
        (r = .ok () → ∀ n, thrown cut n = none) := by
    refine ⟨fun n => if n = 0 then some e else fault n, ⟨rfl, rfl⟩, ?_, fun h => absurd h hr⟩
    rw [graphStep, graphAuthorize_of_cut (e := e) rfl]
    exact h
  let e : SystemError := ⟨40008, "not find add friend request"⟩
  unfold MongoClient.addFriendAuthorize
  split
  · exact hidle e (fun h => by cases h)
  · rcases h.find (littleIDBigID inviter invitee) with
      ⟨hnone, -⟩ | ⟨doc, request, hdoc, hrequest, hshown⟩
    · rw [findOne, hnone]
      exact hidle e (fun h => by cases h)
    · have hstatus : getUtf8 "status" doc = .ok request.status := by
        rw [getUtf8, hshown.status]
      have hnode : getUtf8 "toNodeID" doc = .ok request.toNodeID := by
        rw [getUtf8, hshown.toNodeID]
      rw [findOne, hdoc]
      simp only [hstatus]
      split
      · exact hidle e (fun h => by cases h)
      · rename_i hwaits
        obtain ⟨cut, hcut, hgraph, hok⟩ :=
          h.runAuthorize ids inviter invitee request.toNodeID fault
        have hafter := snd_graphAuthorize hrequest (not_not.mp hwaits) ids.oid cut
        simp only [hnode, graphStep]
        refine ⟨cut, hcut, ?_, ?_⟩
        · rcases hrun : run (thrown fault)
            (MongoClient.authorizeOps ids inviter invitee request.toNodeID fault) db with ⟨_ | _, _⟩
          · rw [hrun, ← hafter] at hgraph
            exact hgraph
          · rw [hrun, ← hafter] at hgraph
            exact hgraph
        · rcases hrun : run (thrown fault)
            (MongoClient.authorizeOps ids inviter invitee request.toNodeID fault) db with ⟨_ | _, _⟩
          · exact fun h => by cases h
          · rw [hrun] at hok
            exact fun _ => hok rfl

end Calls

/-! ### The query -/

namespace MongoClient

/-- What is told of a request. -/
def addFriendInfo (doc : Fields ω) : Except ElementError AddFriendInfo := do
  let inviter ← getUtf8 "inviter" doc
  let invitee ← getUtf8 "invitee" doc
  let toNodeID ← getUtf8 "toNodeID" doc
  return ⟨inviter, invitee, toNodeID⟩

/-- `mongo_client::queryAddfriendInfo`: the rows that are told before the end, or before it throws.
The order and the limit that it puts together are not handed to the query. -/
def queryAddfriendInfo (userid : String) (_limit : ℤ) (docs : List (Fields ω)) :
    List AddFriendInfo × Option SystemError :=
  let (infos, e) := readRows addFriendInfo (docs.filter fun doc =>
    (isText "inviter" userid doc || isText "invitee" userid doc) && !isText "status" "finish" doc)
  (infos, e.map fun _ => ⟨40010, "query addfriend authorize info failre"⟩)

end MongoClient

/-- **What the query reads**: the pending requests of the records, and it reads them all. -/
theorem GraphShown.queryAddfriendInfo [DecidableEq ω] {db : DocumentDb ω} {graph : GraphDb ω}
    (h : GraphShown db graph) (userid : String) (limit : ℤ) :
    MongoClient.queryAddfriendInfo userid limit db.addFriend =
      (Yijian.queryAddfriendInfo userid limit graph.friend.addFriend, none) := by
  have hpending : List.Forall₂ AddFriendDoc.Shown
      (db.addFriend.filter fun doc =>
        (isText "inviter" userid doc || isText "invitee" userid doc) &&
          !isText "status" "finish" doc)
      (graph.friend.addFriend.filter (AddFriendDoc.pending userid)) := by
    refine List.rel_filter (fun {doc request} hshown => ?_) h.requests
    simp only [isText_of_get hshown.inviter, isText_of_get hshown.invitee,
      isText_of_get hshown.status]
    exact Iff.rfl
  have hrows := readRows_of_forall₂ (f := MongoClient.addFriendInfo)
    (List.forall₂_map_right_iff.mpr (hpending.imp fun doc request hshown => by
      show MongoClient.addFriendInfo doc = .ok request.info
      simp only [MongoClient.addFriendInfo, getUtf8, hshown.inviter, hshown.invitee,
        hshown.toNodeID]
      rfl))
  rw [MongoClient.queryAddfriendInfo, hrows]
  rfl

/-! ### Runs -/

/-- A call, with the operations of it that fail. -/
inductive RequestCall (ω : Type)
  | addFriend (addfrd : AddFriend) (nodeId msgId : ω) (fault : ℕ → Option SystemError)
  | addFriendAuthorize (inviter invitee : String) (lookup : Option SystemError)
      (fault : ℕ → Option SystemError)

/-- Whether the call returns, and what it leaves. -/
def RequestCall.call [DecidableEq ω] (ids : ObjectIds ω) (db : DocumentDb ω) :
    RequestCall ω → Bool × DocumentDb ω
  | .addFriend addfrd nodeId msgId fault =>
      let (res, db) := MongoClient.addFriendWith ids addfrd nodeId msgId fault db
      (res.isOk, db)
  | .addFriendAuthorize inviter invitee lookup fault =>
      let (res, db) := MongoClient.addFriendAuthorize ids inviter invitee lookup fault db
      (res.isOk, db)

/-- The collections, and the calls so far with whether they have returned. -/
structure RequestRun (ω : Type) where
  db : DocumentDb ω
  calls : List (RequestCall ω × Bool)

/-- What a call does. -/
def requestStep [DecidableEq ω] (ids : ObjectIds ω) (s : RequestRun ω) (c : RequestCall ω) :
    RequestRun ω :=
  let (returned, db) := c.call ids s.db
  ⟨db, s.calls ++ [(c, returned)]⟩

/-- The call on the records is the one on the documents. It is cut where the records see that the
other one fails, and it is not cut at all when that returns. The two inserts of unread numbers
catch what they throw, and thus fail alike. -/
def ComesTo (ids : ObjectIds ω) : RequestCall ω × Bool → GraphEvent → Prop
  | (.addFriend addfrd nodeId _ _, returned), .addFriend frd msgNodeid cut =>
      frd = addfrd ∧ msgNodeid = ids.toText nodeId ∧ (returned = true → cut = fun _ => none)
  | (.addFriendAuthorize inviter invitee _ fault, returned),
      .addFriendAuthorize inviter' invitee' cut =>
      inviter' = inviter ∧ invitee' = invitee ∧ (cut 3 = fault 3 ∧ cut 7 = fault 7) ∧
        (returned = true → ∀ n, thrown cut n = none)
  | _, _ => False

variable [DecidableEq ω]

/-- A call on the documents is one on the records. -/
theorem shows_requestStep (ids : ObjectIds ω) {s : RequestRun ω} {graph : GraphDb ω}
    (h : GraphShown s.db graph) (c : RequestCall ω) :
    ∃ e, ComesTo ids (c, (c.call ids s.db).1) e ∧
      GraphShown (c.call ids s.db).2 (graphStep ids.oid graph e) := by
  cases c with
  | addFriend addfrd nodeId msgId fault =>
      obtain ⟨cut, hshown, hok⟩ := shows_addFriend h ids addfrd nodeId msgId fault
      exact ⟨.addFriend addfrd (ids.toText nodeId) cut, ⟨rfl, rfl, hok⟩, hshown⟩
  | addFriendAuthorize inviter invitee lookup fault =>
      obtain ⟨cut, hcut, hshown, hok⟩ :=
        shows_addFriendAuthorize h ids inviter invitee lookup fault
      refine ⟨.addFriendAuthorize inviter invitee cut, ⟨rfl, rfl, hcut, fun hreturned => ?_⟩,
        hshown⟩
      refine hok ?_
      simp only [RequestCall.call] at hreturned
      cases hres : (MongoClient.addFriendAuthorize ids inviter invitee lookup fault s.db).1 with
      | error e =>
          rw [hres] at hreturned
          cases hreturned
      | ok u => rfl

/-- **The documents refine the records**: every run of calls on the documents, whatever fails, is a
run of the same calls on the records, which are cut where the others fail and whole where they
return. What the two queries tell is the same. -/
theorem requests_refine_graph (ids : ObjectIds ω) (db : DocumentDb ω) (graph : GraphDb ω)
    (h : GraphShown db graph) (cs : List (RequestCall ω)) :
    let s := cs.foldl (requestStep ids) ⟨db, []⟩
    ∃ es, List.Forall₂ (ComesTo ids) s.calls es ∧
      GraphShown s.db (es.foldl (graphStep ids.oid) graph) ∧
      ∀ userid limit, MongoClient.queryAddfriendInfo userid limit s.db.addFriend =
        (queryAddfriendInfo userid limit
          (es.foldl (graphStep ids.oid) graph).friend.addFriend, none) := by
  intro s
  have hrun : ∃ es, List.Forall₂ (ComesTo ids) s.calls es ∧
      GraphShown s.db (es.foldl (graphStep ids.oid) graph) := by
    refine inv_foldl_of_step (I := fun s : RequestRun ω => ∃ es,
      List.Forall₂ (ComesTo ids) s.calls es ∧
        GraphShown s.db (es.foldl (graphStep ids.oid) graph)) ?_ cs ⟨[], .nil, h⟩
    rintro s c ⟨es, hcalls, hshown⟩
    obtain ⟨e, he, hafter⟩ := shows_requestStep ids hshown c
    refine ⟨es ++ [e], List.rel_append hcalls (.cons he .nil), ?_⟩
    rw [List.foldl_append]
    exact hafter
  obtain ⟨es, hcalls, hshown⟩ := hrun
  exact ⟨es, hcalls, hshown, fun userid limit => hshown.queryAddfriendInfo userid limit⟩

/-! ### A request that is cut -/

/-- A second user. -/
def hexB : HexText := ⟨idB, by decide⟩

/-- The document of a user without friends, as it is inserted. -/
def aloneDoc (id : HexText) : Fields HexText :=
  [("_id", .oid id), ("version", .int32 1), ("friends", .array []), ("blacklist", .array [])]

/-- Two users, and nothing else. -/
def twoAlone : DocumentDb HexText :=
  { StoreRun.new.db with user := [aloneDoc hexA, aloneDoc hexB] }

/-- The records of the two users. -/
def twoAloneGraph : GraphDb HexText :=
  ⟨⟨fun id => if id = hexA ∨ id = hexB then some ⟨[], [], 1⟩ else none, []⟩, []⟩

/-- The two documents show the two records. -/
theorem graphShown_twoAlone : GraphShown twoAlone twoAloneGraph where
  requests := .nil
  unread := rfl
  users id := by
    have hdoc (id : HexText) : UserDoc.Shown (aloneDoc id) ⟨[], [], 1⟩ := ⟨rfl, rfl, rfl⟩
    by_cases hA : id = hexA
    · subst hA
      exact .some (hdoc hexA)
    by_cases hB : id = hexB
    · subst hB
      exact .some (hdoc hexB)
    · have hnone : lookup (oidOf "_id") (some id) twoAlone.user = none := by
        rw [lookup_eq_none_iff]
        show some id ∉ [some hexA, some hexB]
        simp [hA, hB]
      have hnobody : twoAloneGraph.friend.user id = none := if_neg (not_or.mpr ⟨hA, hB⟩)
      rw [hnone, hnobody]
      exact .none

/-- The one user asks the other, who agrees; the server fails between the two entries, and the
other one tries again. -/
def cutCalls : List (RequestCall HexText) :=
  [.addFriend ⟨idA, idB, "hi"⟩ hexNode hexRequest fun _ => none,
    .addFriendAuthorize idA idB none (failsAt 2), .addFriendAuthorize idA idB none fun _ => none]

/-- Only the first of the three calls returns, and both users are told of the request. -/
theorem requests_refine_graph_cutCalls :
    ∃ es, List.Forall₂ (ComesTo hexIds) (cutCalls.zip [true, false, false]) es ∧
      queryAddfriendInfo idA 10
        (es.foldl (graphStep hexIds.oid) twoAloneGraph).friend.addFriend =
          [⟨idA, idB, hexNode.1⟩] := by
  obtain ⟨es, hcalls, -, htold⟩ :=
    requests_refine_graph hexIds twoAlone twoAloneGraph graphShown_twoAlone cutCalls
  exact ⟨es, hcalls, (congrArg Prod.fst (htold idA 10)).symm⟩

end Yijian
