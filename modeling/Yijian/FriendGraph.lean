import Yijian.Friends
import Yijian.Unread

/-!
# The Friend Graph

`AddFriendAuthorize` enters two users in each other's list of friends and gives each of them
a document in `userUnread`, by nine writes with the status of the request between them. Any
of the writes may fail. The call then stops where it is, except that a failing insert into
`userUnread` goes unnoticed; and a request whose status has moved on is never taken up again.

## Convention

The graph is consistent if every entry in a list of friends is matched by an entry in the other
list with the same node, and each of the two has an unread number for that node. The calls are taken
one after the other: what two calls on the same two users do at a time is not modelled. A failure
comes before an operation has done anything. There are nine writes and no transaction, so a call
that is cut leaves what it has written, and where it is cut between the two entries nothing mends
them later. That a failing insert into `userUnread` is caught inside is kept: the call goes on, and
the row is missing.

## Main results

* `authorizeStep`: what a call may leave behind.
* `graphInv_authorize`: a call that is not cut between the two entries keeps the graph.
* `friend_graph`: the graph is consistent in every run of such calls.
* `not_friend_graph`: a failure between the two entries leaves one of them.
-/

namespace Yijian

open Documents Runs

variable {ω : Type} [DecidableEq ω]

/-! ### The collections -/

/-- The collections that the two calls write to. -/
structure GraphDb (ω : Type) where
  friend : FriendDb ω
  userUnread : List UserUnread

/-- An operation on users and requests. -/
def onFriendDb (op : DbOp ω) (db : GraphDb ω) : Except SystemError (GraphDb ω) :=
  (op db.friend).map fun friend => { db with friend := friend }

/-- `insertUnreadNode`: what the insert throws is caught. -/
def insertUnreadNode (fault : Option SystemError) (userid tonodeid : String)
    (docs : List UserUnread) : List UserUnread :=
  match fault with
  | some _ => docs
  | none => (insertUnique UserUnread.key (.row userid tonodeid 1 1) docs).getD docs

/-- `insertUnreadNode` among the operations of a call. -/
def unreadOp (fault : Option SystemError) (userid tonodeid : String) (db : GraphDb ω) :
    Except SystemError (GraphDb ω) :=
  .ok { db with userUnread := insertUnreadNode fault userid tonodeid db.userUnread }

/-- The operations of `mongo_client::addFriendAuthorize` behind its checks. -/
def graphOps (oid : String → Except SystemError ω) (inviter invitee tonodeid : String)
    (fault : ℕ → Option SystemError) : List (GraphDb ω → Except SystemError (GraphDb ω)) :=
  let key := littleIDBigID inviter invitee
  [onFriendDb (setStatus key "agree"),
    onFriendDb (addToFriends oid inviter ⟨invitee, tonodeid⟩),
    onFriendDb (setStatus key "inviter"),
    unreadOp (fault 3) inviter tonodeid,
    onFriendDb (setStatus key "userUnreadInviter"),
    onFriendDb (addToFriends oid invitee ⟨inviter, tonodeid⟩),
    onFriendDb (setStatus key "invitee"),
    unreadOp (fault 7) invitee tonodeid,
    onFriendDb (setStatus key "finish")]

/-- What the failing operations throw to the call: two of them catch it themselves. -/
def thrown (fault : ℕ → Option SystemError) (n : ℕ) : Option SystemError :=
  if n = 3 ∨ n = 7 then none else fault n

/-- `mongo_client::addFriendAuthorize`. A lookup that fails ends it as an unknown request does,
before anything is written. -/
def graphAuthorize (oid : String → Except SystemError ω) (inviter invitee : String)
    (fault : ℕ → Option SystemError) (db : GraphDb ω) : Except SystemError Unit × GraphDb ω :=
  match findRequest inviter invitee db.friend with
  | none => (.error ⟨40008, "not find add friend request"⟩, db)
  | some doc =>
      if doc.status ≠ "createNodeCount" then
        (.error ⟨40009, "add friend authorize info not consistently"⟩, db)
      else
        match run (thrown fault) (graphOps oid inviter invitee doc.toNodeID fault) db with
        | (.error _, db) => (.error ⟨40005, "add friend authorize failre"⟩, db)
        | (.ok (), db) => (.ok (), db)

/-- A call of `mongo_client`. -/
inductive GraphEvent
  | addFriend (frd : AddFriend) (msgNodeid : String) (fault : ℕ → Option SystemError)
  | addFriendAuthorize (inviter invitee : String) (fault : ℕ → Option SystemError)

/-- What a call does to the collections. -/
def graphStep (oid : String → Except SystemError ω) (db : GraphDb ω) : GraphEvent → GraphDb ω
  | .addFriend frd msgNodeid fault =>
      { db with friend := (addFriend frd msgNodeid fault db.friend).2 }
  | .addFriendAuthorize inviter invitee fault => (graphAuthorize oid inviter invitee fault db).2

/-- The collections before the first call, with any users. -/
def GraphDb.new (user : ω → Option UserDoc) : GraphDb ω :=
  ⟨⟨fun id => (user id).map fun doc => { doc with friends := [] }, []⟩, []⟩

/-! ### The graph -/

/-- The second user is in the list of friends of the first, with the node. -/
def HasFriend (oid : String → Except SystemError ω) (user : ω → Option UserDoc) (u v : ω)
    (n : String) : Prop :=
  ∃ doc, user u = some doc ∧ ∃ info ∈ doc.friends, oid info.userID = .ok v ∧ info.toNodeID = n

/-- The two users of the request are friends in its node, and each has an unread number. -/
structure Linked (oid : String → Except SystemError ω) (db : GraphDb ω) (doc : AddFriendDoc) :
    Prop where
  friends : ∃ i e, oid doc.inviter = .ok i ∧ oid doc.invitee = .ok e ∧
    HasFriend oid db.friend.user i e doc.toNodeID ∧ HasFriend oid db.friend.user e i doc.toNodeID
  unread : some (doc.inviter, doc.toNodeID) ∈ db.userUnread.map UserUnread.key ∧
    some (doc.invitee, doc.toNodeID) ∈ db.userUnread.map UserUnread.key

/-- Friendship is mutual, and the users of a finished request are linked. -/
structure Consistent (oid : String → Except SystemError ω) (db : GraphDb ω) : Prop where
  mutual_friends : ∀ u v n, HasFriend oid db.friend.user u v n ↔ HasFriend oid db.friend.user v u n
  finished : ∀ doc ∈ db.friend.addFriend, doc.status = "finish" → Linked oid db doc

/-- The user becomes a friend of another one. -/
def befriend (i : ω) (info : UserInfo) (user : ω → Option UserDoc) : ω → Option UserDoc :=
  Function.update user i ((user i).map fun doc =>
    { doc with friends := addToSet info doc.friends, version := doc.version + 1 })

/-- Who has an object id becomes a friend. -/
theorem addToFriends_of_oid {oid : String → Except SystemError ω} {userID : String} {i : ω}
    (hoid : oid userID = .ok i) (info : UserInfo) (db : FriendDb ω) :
    addToFriends oid userID info db = .ok { db with user := befriend i info db.user } := by
  rw [addToFriends, hoid]
  rfl

/-- No user comes into being with a new friend. -/
theorem isSome_befriend (i : ω) (info : UserInfo) (user : ω → Option UserDoc) (u : ω) :
    (befriend i info user u).isSome = (user u).isSome := by
  rw [befriend, Function.update_apply]
  split
  · rename_i h
    rw [Option.isSome_map, h]
  · rfl

/-- The friends of a user that exists are one more. -/
theorem hasFriend_befriend {oid : String → Except SystemError ω} {i : ω} {info : UserInfo}
    {user : ω → Option UserDoc} (hsome : (user i).isSome = true) {u v : ω} {n : String} :
    HasFriend oid (befriend i info user) u v n ↔
      HasFriend oid user u v n ∨ (u = i ∧ oid info.userID = .ok v ∧ info.toNodeID = n) := by
  obtain ⟨doc, hdoc⟩ := Option.isSome_iff_exists.mp hsome
  rw [HasFriend, befriend, Function.update_apply]
  by_cases hu : u = i
  · subst hu
    rw [if_pos rfl, hdoc]
    constructor
    · rintro ⟨doc', hdoc', info', hinfo, hv, hn⟩
      obtain rfl := Option.some.inj hdoc'
      rcases mem_addToSet.mp hinfo with hold | rfl
      · exact .inl ⟨doc, hdoc, info', hold, hv, hn⟩
      · exact .inr ⟨rfl, hv, hn⟩
    · rintro (⟨doc', hdoc', info', hinfo, hv, hn⟩ | ⟨-, hv, hn⟩)
      · obtain rfl := Option.some.inj (hdoc.symm.trans hdoc')
        exact ⟨_, rfl, info', mem_addToSet.mpr (.inl hinfo), hv, hn⟩
      · exact ⟨_, rfl, info, mem_addToSet.mpr (.inr rfl), hv, hn⟩
  · rw [if_neg hu]
    constructor
    · exact .inl
    · rintro (h | ⟨heq, -⟩)
      · exact h
      · exact absurd heq hu

/-! ### Unread numbers -/

/-- The keys after an insert. -/
theorem mem_keys_insertUnreadNode {fault : Option SystemError} {userid tonodeid : String}
    {docs : List UserUnread} {k : Option (String × String)} :
    k ∈ (insertUnreadNode fault userid tonodeid docs).map UserUnread.key ↔
      k ∈ docs.map UserUnread.key ∨ (fault = none ∧ k = some (userid, tonodeid)) := by
  cases fault with
  | some e => simp [insertUnreadNode]
  | none =>
      rw [insertUnreadNode, mem_keys_insertUnique]
      simp [UserUnread.key]

/-- A new row keeps the index. -/
theorem Indexed.insertUnreadNode {docs : List UserUnread} (h : Indexed docs)
    (userid tonodeid : String) : Indexed (insertUnreadNode none userid tonodeid docs) :=
  nodup_insertUnique h

/-! ### What a call may leave behind -/

/-- The requests with a new status of one of them. -/
def statusDocs (key status : String) (docs : List AddFriendDoc) : List AddFriendDoc :=
  updateOne (hasKey key) (fun doc => { doc with status := status }) docs

/-- The last status stands. -/
theorem statusDocs_statusDocs (key status status' : String) (docs : List AddFriendDoc) :
    statusDocs key status' (statusDocs key status docs) = statusDocs key status' docs := by
  rw [statusDocs, statusDocs, updateOne_updateOne (by intros; assumption)]
  rfl

/-- What `addFriendAuthorize` may leave behind, when it has found the request. -/
inductive AuthorizeStep (oid : String → Except SystemError ω) (inviter invitee tonodeid : String)
    (fault : ℕ → Option SystemError) (db : GraphDb ω) : GraphDb ω → Prop
  /-- Nothing is done. -/
  | idle : AuthorizeStep oid inviter invitee tonodeid fault db db
  /-- It stops before the first entry. -/
  | stopped : AuthorizeStep oid inviter invitee tonodeid fault db
      ⟨⟨db.friend.user, statusDocs (littleIDBigID inviter invitee) "agree" db.friend.addFriend⟩,
        db.userUnread⟩
  /-- It stops between the two entries. -/
  | half {i : ω} {status : String} {unread : List UserUnread} (hi : oid inviter = .ok i)
      (hstart : fault 0 = none ∧ fault 1 = none) (hstatus : status ≠ "finish")
      (hstop : ¬ ((fault 2 = none ∧ fault 4 = none ∧ fault 5 = none) ∧ ∃ e, oid invitee = .ok e))
      (hunread : ∀ k ∈ db.userUnread.map UserUnread.key, k ∈ unread.map UserUnread.key) :
      AuthorizeStep oid inviter invitee tonodeid fault db
        ⟨⟨befriend i ⟨invitee, tonodeid⟩ db.friend.user,
          statusDocs (littleIDBigID inviter invitee) status db.friend.addFriend⟩, unread⟩
  /-- It makes both entries. -/
  | both {i e : ω} {status : String} {unread : List UserUnread} (hi : oid inviter = .ok i)
      (he : oid invitee = .ok e) (hstart : fault 0 = none ∧ fault 1 = none)
      (hentries : fault 2 = none ∧ fault 4 = none ∧ fault 5 = none)
      (hfinish : status = "finish" → fault 6 = none ∧ fault 8 = none ∧
        unread = insertUnreadNode (fault 7) invitee tonodeid
          (insertUnreadNode (fault 3) inviter tonodeid db.userUnread))
      (hunread : ∀ k ∈ db.userUnread.map UserUnread.key, k ∈ unread.map UserUnread.key) :
      AuthorizeStep oid inviter invitee tonodeid fault db
        ⟨⟨befriend e ⟨inviter, tonodeid⟩ (befriend i ⟨invitee, tonodeid⟩ db.friend.user),
          statusDocs (littleIDBigID inviter invitee) status db.friend.addFriend⟩, unread⟩

omit [DecidableEq ω] in
/-- A status is set in the requests. -/
theorem onFriendDb_setStatus (key status : String) (db : GraphDb ω) :
    onFriendDb (setStatus key status) db =
      .ok ⟨⟨db.friend.user, statusDocs key status db.friend.addFriend⟩, db.userUnread⟩ := rfl

omit [DecidableEq ω] in
/-- A row is inserted, or not, but nothing is thrown. -/
theorem unreadOp_eq (fault : Option SystemError) (userid tonodeid : String) (db : GraphDb ω) :
    unreadOp fault userid tonodeid db =
      .ok ⟨db.friend, insertUnreadNode fault userid tonodeid db.userUnread⟩ := rfl

/-- A friend is entered with the user. -/
theorem onFriendDb_addToFriends {oid : String → Except SystemError ω} {userID : String} {i : ω}
    (hoid : oid userID = .ok i) (info : UserInfo) (db : GraphDb ω) :
    onFriendDb (addToFriends oid userID info) db =
      .ok ⟨⟨befriend i info db.friend.user, db.friend.addFriend⟩, db.userUnread⟩ := by
  rw [onFriendDb, addToFriends_of_oid hoid]
  rfl

/-- What is no object id is refused. -/
theorem onFriendDb_addToFriends_error {oid : String → Except SystemError ω} {userID : String}
    {e : SystemError} (hoid : oid userID = .error e) (info : UserInfo) (db : GraphDb ω) :
    onFriendDb (addToFriends oid userID info) db = .error e := by
  rw [onFriendDb, addToFriends, hoid]
  rfl

/-- The operations behind the second entry. -/
theorem authorizeStep_both {oid : String → Except SystemError ω} {inviter invitee : String}
    {tonodeid : String} {fault : ℕ → Option SystemError} {db : GraphDb ω} {i e : ω}
    (hi : oid inviter = .ok i) (he : oid invitee = .ok e)
    (hstart : fault 0 = none ∧ fault 1 = none)
    (hentries : fault 2 = none ∧ fault 4 = none ∧ fault 5 = none) (status : String)
    (hstatus : status ≠ "finish") :
    AuthorizeStep oid inviter invitee tonodeid fault db
      (run (fun n => thrown fault (n + 6))
        [onFriendDb (setStatus (littleIDBigID inviter invitee) "invitee"),
          unreadOp (fault 7) invitee tonodeid,
          onFriendDb (setStatus (littleIDBigID inviter invitee) "finish")]
        ⟨⟨befriend e ⟨inviter, tonodeid⟩ (befriend i ⟨invitee, tonodeid⟩ db.friend.user),
          statusDocs (littleIDBigID inviter invitee) status db.friend.addFriend⟩,
          insertUnreadNode (fault 3) inviter tonodeid db.userUnread⟩).2 := by
  have hunread₁ : ∀ k ∈ db.userUnread.map UserUnread.key,
      k ∈ (insertUnreadNode (fault 3) inviter tonodeid db.userUnread).map UserUnread.key :=
    fun k hk => mem_keys_insertUnreadNode.mpr (.inl hk)
  have hunread₂ : ∀ k ∈ db.userUnread.map UserUnread.key,
      k ∈ (insertUnreadNode (fault 7) invitee tonodeid
        (insertUnreadNode (fault 3) inviter tonodeid db.userUnread)).map UserUnread.key :=
    fun k hk => mem_keys_insertUnreadNode.mpr (.inl (hunread₁ k hk))
  cases hfault₆ : fault 6 with
  | some err =>
      rw [run_cons_fault (thrown fault) 6 (e := err) hfault₆]
      exact .both hi he hstart hentries (fun h => absurd h hstatus) hunread₁
  | none =>
      rw [run_cons_ok (thrown fault) 6 hfault₆ (onFriendDb_setStatus _ _ _),
        run_cons_ok (thrown fault) 7 rfl (unreadOp_eq _ _ _ _), statusDocs_statusDocs]
      cases hfault₈ : fault 8 with
      | some err =>
          rw [run_cons_fault (thrown fault) 8 (e := err) hfault₈]
          exact .both hi he hstart hentries (fun h => absurd h (by decide)) hunread₂
      | none =>
          rw [run_cons_ok (thrown fault) 8 hfault₈ (onFriendDb_setStatus _ _ _),
            statusDocs_statusDocs]
          exact .both hi he hstart hentries (fun _ => ⟨hfault₆, hfault₈, rfl⟩) hunread₂

/-- The operations behind the first entry. -/
theorem authorizeStep_half {oid : String → Except SystemError ω} {inviter invitee : String}
    {tonodeid : String} {fault : ℕ → Option SystemError} {db : GraphDb ω} {i : ω}
    (hi : oid inviter = .ok i) (hstart : fault 0 = none ∧ fault 1 = none) (status : String)
    (hstatus : status ≠ "finish") :
    AuthorizeStep oid inviter invitee tonodeid fault db
      (run (fun n => thrown fault (n + 2))
        [onFriendDb (setStatus (littleIDBigID inviter invitee) "inviter"),
          unreadOp (fault 3) inviter tonodeid,
          onFriendDb (setStatus (littleIDBigID inviter invitee) "userUnreadInviter"),
          onFriendDb (addToFriends oid invitee ⟨inviter, tonodeid⟩),
          onFriendDb (setStatus (littleIDBigID inviter invitee) "invitee"),
          unreadOp (fault 7) invitee tonodeid,
          onFriendDb (setStatus (littleIDBigID inviter invitee) "finish")]
        ⟨⟨befriend i ⟨invitee, tonodeid⟩ db.friend.user,
          statusDocs (littleIDBigID inviter invitee) status db.friend.addFriend⟩,
          db.userUnread⟩).2 := by
  have hkeep : ∀ k ∈ db.userUnread.map UserUnread.key,
      k ∈ (insertUnreadNode (fault 3) inviter tonodeid db.userUnread).map UserUnread.key :=
    fun k hk => mem_keys_insertUnreadNode.mpr (.inl hk)
  cases hfault₂ : fault 2 with
  | some err =>
      rw [run_cons_fault (thrown fault) 2 (e := err) hfault₂]
      exact .half hi hstart hstatus (by simp [hfault₂]) fun k hk => hk
  | none =>
      rw [run_cons_ok (thrown fault) 2 hfault₂ (onFriendDb_setStatus _ _ _),
        run_cons_ok (thrown fault) 3 rfl (unreadOp_eq _ _ _ _), statusDocs_statusDocs]
      cases hfault₄ : fault 4 with
      | some err =>
          rw [run_cons_fault (thrown fault) 4 (e := err) hfault₄]
          exact .half hi hstart (by decide) (by simp [hfault₄]) hkeep
      | none =>
          have hstatus₄ : "userUnreadInviter" ≠ "finish" := by decide
          rw [run_cons_ok (thrown fault) 4 hfault₄ (onFriendDb_setStatus _ _ _),
            statusDocs_statusDocs]
          cases hfault₅ : fault 5 with
          | some err =>
              rw [run_cons_fault (thrown fault) 5 (e := err) hfault₅]
              exact .half hi hstart hstatus₄ (by simp [hfault₅]) hkeep
          | none =>
              cases he : oid invitee with
              | error err =>
                  rw [run_cons_error (thrown fault) 5 hfault₅
                    (onFriendDb_addToFriends_error he _ _)]
                  exact .half hi hstart hstatus₄ (by simp [he]) hkeep
              | ok e =>
                  rw [run_cons_ok (thrown fault) 5 hfault₅ (onFriendDb_addToFriends he _ _)]
                  exact authorizeStep_both hi he hstart ⟨hfault₂, hfault₄, hfault₅⟩ _ hstatus₄

/-- **What `addFriendAuthorize` may leave behind**, wherever it stops. -/
theorem authorizeStep (oid : String → Except SystemError ω) (inviter invitee tonodeid : String)
    (fault : ℕ → Option SystemError) (db : GraphDb ω) :
    AuthorizeStep oid inviter invitee tonodeid fault db
      (run (thrown fault) (graphOps oid inviter invitee tonodeid fault) db).2 := by
  rw [graphOps, run_zero]
  cases hfault₀ : fault 0 with
  | some err =>
      rw [run_cons_fault (thrown fault) 0 (e := err) hfault₀]
      exact .idle
  | none =>
      rw [run_cons_ok (thrown fault) 0 hfault₀ (onFriendDb_setStatus _ _ _)]
      cases hfault₁ : fault 1 with
      | some err =>
          rw [run_cons_fault (thrown fault) 1 (e := err) hfault₁]
          exact .stopped
      | none =>
          cases hi : oid inviter with
          | error err =>
              rw [run_cons_error (thrown fault) 1 hfault₁ (onFriendDb_addToFriends_error hi _ _)]
              exact .stopped
          | ok i =>
              rw [run_cons_ok (thrown fault) 1 hfault₁ (onFriendDb_addToFriends hi _ _)]
              exact authorizeStep_half hi ⟨hfault₀, hfault₁⟩ "agree" (by decide)

omit [DecidableEq ω] in
/-- An operation on users and requests leaves the rows alone. -/
theorem userUnread_onFriendDb {op : DbOp ω} {db db' : GraphDb ω} (h : onFriendDb op db = .ok db') :
    db'.userUnread = db.userUnread := by
  rw [onFriendDb] at h
  cases hop : op db.friend with
  | error e =>
      rw [hop] at h
      cases h
  | ok friend =>
      rw [hop] at h
      obtain rfl := Except.ok.inj h
      rfl

/-- **An agreement that succeeds** has inserted the unread numbers of both. -/
theorem graphAuthorize_ok {oid : String → Except SystemError ω} {inviter invitee : String}
    {db : GraphDb ω}
    (h : (graphAuthorize oid inviter invitee (fun _ => none) db).1 = .ok ()) :
    ∃ doc, findRequest inviter invitee db.friend = some doc ∧
      (graphAuthorize oid inviter invitee (fun _ => none) db).2.userUnread =
        insertUnreadNode none invitee doc.toNodeID
          (insertUnreadNode none inviter doc.toNodeID db.userUnread) := by
  have hthrown : thrown (fun _ => none) = fun _ => none := by
    funext n
    rw [thrown, ite_self]
  rw [graphAuthorize, hthrown] at h ⊢
  cases hfind : findRequest inviter invitee db.friend with
  | none =>
      rw [hfind] at h
      cases h
  | some doc =>
      rw [hfind] at h
      refine ⟨doc, rfl, ?_⟩
      simp only at h ⊢
      split at h
      · cases h
      · rename_i hstatus
        rw [if_neg hstatus]
        split at h
        · cases h
        · rename_i db' hrun
          simp only [graphOps, run_cons_eq_ok, true_and, unreadOp_eq, onFriendDb_setStatus,
            Except.ok.injEq, exists_eq_left'] at hrun
          obtain ⟨db₁, hinviter, db₂, hinvitee, hrfl⟩ := hrun
          obtain ⟨-, rfl⟩ := Prod.mk.inj hrfl
          simp only [userUnread_onFriendDb hinvitee, userUnread_onFriendDb hinviter]

/-! ### The two users of a request -/

/-- A key of two ids without underscore is the key of these two only. -/
theorem append_underscore_cancel {a b c d : String} (h : a ++ "_" ++ b = c ++ "_" ++ d)
    (hc : '_' ∉ c.toList) (hd : '_' ∉ d.toList) : a = c ∧ b = d := by
  have hlist := congrArg String.toList h
  have hunderscore : "_".toList = ['_'] := rfl
  simp only [String.toList_append, hunderscore, List.append_assoc, List.singleton_append] at hlist
  rcases List.append_eq_append_iff.mp hlist with ⟨mid, hmid, hrest⟩ | ⟨mid, hmid, hrest⟩
  · cases mid with
    | nil =>
        rw [List.append_nil] at hmid
        exact ⟨(String.toList_inj.mp hmid).symm, String.toList_inj.mp (List.cons.inj hrest).2⟩
    | cons x mid =>
        obtain ⟨rfl, -⟩ := List.cons.inj hrest
        exact absurd (hmid ▸ List.mem_append_right _ List.mem_cons_self) hc
  · cases mid with
    | nil =>
        rw [List.append_nil] at hmid
        exact ⟨String.toList_inj.mp hmid, (String.toList_inj.mp (List.cons.inj hrest).2).symm⟩
    | cons x mid =>
        obtain ⟨rfl, hd'⟩ := List.cons.inj hrest
        exact absurd (hd' ▸ List.mem_append_right _ List.mem_cons_self) hd

/-- The key tells the two users, but not which of them asked. -/
theorem pair_of_key {a b i e : String} (hi : '_' ∉ i.toList) (he : '_' ∉ e.toList)
    (h : littleIDBigID a b = littleIDBigID i e) : (a = i ∧ b = e) ∨ (a = e ∧ b = i) := by
  rw [littleIDBigID, littleIDBigID] at h
  split at h
  · split at h
    · exact .inl (append_underscore_cancel h hi he)
    · exact .inr (append_underscore_cancel h he hi)
  · split at h
    · exact .inr (append_underscore_cancel h hi he).symm
    · exact .inl (append_underscore_cancel h he hi).symm

/-! ### The invariant -/

/-- The graph is consistent, and requests are found by the key of their users. -/
structure GraphInv (oid : String → Except SystemError ω) (db : GraphDb ω) : Prop
    extends Consistent oid db where
  keyed : ∀ doc ∈ db.friend.addFriend, doc.littleIDBigID = littleIDBigID doc.inviter doc.invitee

omit [DecidableEq ω] in
/-- Users that are linked stay so with more friends and more rows. -/
theorem Linked.mono {oid : String → Except SystemError ω} {db db' : GraphDb ω}
    {doc : AddFriendDoc} (h : Linked oid db doc)
    (hfriends : ∀ u v n, HasFriend oid db.friend.user u v n → HasFriend oid db'.friend.user u v n)
    (hunread : ∀ k ∈ db.userUnread.map UserUnread.key, k ∈ db'.userUnread.map UserUnread.key) :
    Linked oid db' doc := by
  obtain ⟨i, e, hi, he, hie, hei⟩ := h.friends
  exact ⟨⟨i, e, hi, he, hfriends _ _ _ hie, hfriends _ _ _ hei⟩,
    hunread _ h.unread.1, hunread _ h.unread.2⟩

omit [DecidableEq ω] in
/-- A request is only a request when it is new, and nothing else changes. -/
theorem addFriend_docs (frd : AddFriend) (msgNodeid : String) (fault : ℕ → Option SystemError)
    {db : FriendDb ω}
    (hkeyed : ∀ doc ∈ db.addFriend, doc.littleIDBigID = littleIDBigID doc.inviter doc.invitee) :
    (addFriend frd msgNodeid fault db).2.user = db.user ∧
      ∀ doc ∈ (addFriend frd msgNodeid fault db).2.addFriend,
        (doc ∈ db.addFriend ∨ doc.status ≠ "finish") ∧
          doc.littleIDBigID = littleIDBigID doc.inviter doc.invitee := by
  have hrun : (addFriend frd msgNodeid fault db).2 =
      (run fault (addFriendOps frd msgNodeid) db).2 := by
    rw [addFriend]
    rcases run fault (addFriendOps frd msgNodeid) db with ⟨_ | _, _⟩ <;> rfl
  rw [hrun]
  refine run_inv (I := fun d : FriendDb ω => d.user = db.user ∧ ∀ doc ∈ d.addFriend,
    (doc ∈ db.addFriend ∨ doc.status ≠ "finish") ∧
      doc.littleIDBigID = littleIDBigID doc.inviter doc.invitee) ?_ fault
    ⟨rfl, fun doc hdoc => ⟨.inl hdoc, hkeyed doc hdoc⟩⟩
  have hupdate : ∀ {key : String} {f : AddFriendDoc → AddFriendDoc} {d d' : FriendDb ω},
      (d.user = db.user ∧ ∀ doc ∈ d.addFriend, (doc ∈ db.addFriend ∨ doc.status ≠ "finish") ∧
        doc.littleIDBigID = littleIDBigID doc.inviter doc.invitee) →
      updateRequest key f d = .ok d' →
      (∀ doc, (f doc).ids = doc.ids ∧ (f doc).status ≠ "finish") →
      d'.user = db.user ∧ ∀ doc ∈ d'.addFriend, (doc ∈ db.addFriend ∨ doc.status ≠ "finish") ∧
        doc.littleIDBigID = littleIDBigID doc.inviter doc.invitee := by
    intro key f d d' hd hd' hf
    obtain rfl := Except.ok.inj hd'
    refine ⟨hd.1, fun doc hdoc => ?_⟩
    rcases mem_updateOne hdoc with hold | ⟨old, hold, -, rfl⟩
    · exact hd.2 doc hold
    · obtain ⟨hids, hstatus⟩ := hf old
      obtain ⟨hkey, hpair⟩ := Prod.mk.inj hids
      obtain ⟨hinviter, hinvitee⟩ := Prod.mk.inj hpair
      refine ⟨.inr hstatus, ?_⟩
      rw [hkey, hinviter, hinvitee]
      exact (hd.2 old hold).2
  intro op hop d d' hd hd'
  simp only [addFriendOps, List.mem_cons, List.not_mem_nil, or_false] at hop
  rcases hop with rfl | rfl | rfl
  · rw [insertRequest, insertUnique] at hd'
    split at hd'
    · cases hd'
    · rename_i docs hdocs
      split at hdocs
      · cases hdocs
      · obtain rfl := Option.some.inj hdocs
        obtain rfl := Except.ok.inj hd'
        refine ⟨hd.1, fun doc hdoc => ?_⟩
        rcases List.mem_append.mp hdoc with hold | hnew
        · exact hd.2 doc hold
        · obtain rfl := List.mem_singleton.mp hnew
          exact ⟨.inr (show "request" ≠ "finish" by decide), rfl⟩
  · exact hupdate hd hd' fun doc => ⟨rfl, show "createNode" ≠ "finish" by decide⟩
  · exact hupdate hd hd' fun doc => ⟨rfl, show "createNodeCount" ≠ "finish" by decide⟩

omit [DecidableEq ω] in
/-- The requests after a new status of the one that is found. -/
theorem mem_statusDocs {inviter invitee status : String} {db : FriendDb ω} {doc doc' : AddFriendDoc}
    (hfind : findRequest inviter invitee db = some doc)
    (h : doc' ∈ statusDocs (littleIDBigID inviter invitee) status db.addFriend) :
    doc' ∈ db.addFriend ∨ doc' = { doc with status := status } := by
  rcases mem_updateOne_find h with hold | ⟨old, hold, rfl⟩
  · exact .inl hold
  · obtain rfl := Option.some.inj (hfind.symm.trans hold)
    exact .inr rfl

/-- The condition on a step: an agreement that makes the first entry names two users, makes
the second entry as well, or the two are one; and if it finishes, the two inserts into
`userUnread` have not failed. -/
def GraphOk (oid : String → Except SystemError ω) (db : GraphDb ω) : GraphEvent → Prop
  | .addFriend _ _ _ => True
  | .addFriendAuthorize inviter invitee fault =>
      ∀ doc i, findRequest inviter invitee db.friend = some doc →
        doc.status = "createNodeCount" → fault 0 = none → fault 1 = none →
        oid inviter = .ok i →
          ∃ e, oid invitee = .ok e ∧
            ((db.friend.user i).isSome = true ∧ (db.friend.user e).isSome = true) ∧
            (i = e ∨ (fault 2 = none ∧ fault 4 = none ∧ fault 5 = none)) ∧
            ((fault 2 = none ∧ fault 4 = none ∧ fault 5 = none) →
              fault 6 = none → fault 8 = none →
                (fault 3 = none ∨ (inviter = invitee ∧ fault 7 = none)) ∧
                  (fault 7 = none ∨ (inviter = invitee ∧ fault 3 = none)))

omit [DecidableEq ω] in
/-- What becomes of the invariant with new entries, a new status and new unread numbers. -/
theorem GraphInv.update {oid : String → Except SystemError ω} {db : GraphDb ω}
    (h : GraphInv oid db) {inviter invitee status : String} {doc : AddFriendDoc}
    (hfind : findRequest inviter invitee db.friend = some doc) {user : ω → Option UserDoc}
    {unread : List UserUnread}
    (hmutual : ∀ u v n, HasFriend oid user u v n → HasFriend oid user v u n)
    (hfriends : ∀ u v n, HasFriend oid db.friend.user u v n → HasFriend oid user u v n)
    (hunread : ∀ k ∈ db.userUnread.map UserUnread.key, k ∈ unread.map UserUnread.key)
    (hfinish : status = "finish" → Linked oid ⟨⟨user, statusDocs (littleIDBigID inviter invitee)
      status db.friend.addFriend⟩, unread⟩ { doc with status := status }) :
    GraphInv oid ⟨⟨user, statusDocs (littleIDBigID inviter invitee) status db.friend.addFriend⟩,
      unread⟩ := by
  refine ⟨⟨fun u v n => ⟨hmutual u v n, hmutual v u n⟩, ?_⟩, ?_⟩
  · intro doc' hdoc' hstatus
    rcases mem_statusDocs hfind hdoc' with hold | rfl
    · exact (h.finished doc' hold hstatus).mono hfriends hunread
    · exact hfinish hstatus
  · intro doc' hdoc'
    rcases mem_statusDocs hfind hdoc' with hold | rfl
    · exact h.keyed doc' hold
    · exact h.keyed doc (List.mem_of_find?_eq_some hfind)

/-- The rows of the two users, where an agreement finishes. -/
theorem rows_of_finish {inviter invitee : String} {fault₃ fault₇ : Option SystemError}
    (docs : List UserUnread) (n : String)
    (hrows : (fault₃ = none ∨ (inviter = invitee ∧ fault₇ = none)) ∧
      (fault₇ = none ∨ (inviter = invitee ∧ fault₃ = none))) :
    some (inviter, n) ∈ (insertUnreadNode fault₇ invitee n
        (insertUnreadNode fault₃ inviter n docs)).map UserUnread.key ∧
      some (invitee, n) ∈ (insertUnreadNode fault₇ invitee n
        (insertUnreadNode fault₃ inviter n docs)).map UserUnread.key := by
  obtain ⟨h₃, h₇⟩ := hrows
  have hfirst : fault₃ = none → some (inviter, n) ∈
      (insertUnreadNode fault₃ inviter n docs).map UserUnread.key :=
    fun h => mem_keys_insertUnreadNode.mpr (.inr ⟨h, rfl⟩)
  constructor
  · rcases h₃ with h₃ | ⟨heq, h₇⟩
    · exact mem_keys_insertUnreadNode.mpr (.inl (hfirst h₃))
    · exact mem_keys_insertUnreadNode.mpr (.inr ⟨h₇, by rw [heq]⟩)
  · rcases h₇ with h₇ | ⟨heq, h₃⟩
    · exact mem_keys_insertUnreadNode.mpr (.inr ⟨h₇, rfl⟩)
    · exact mem_keys_insertUnreadNode.mpr (.inl (heq ▸ hfirst h₃))

/-- The friends of two users that exist, who have each become a friend of the other. -/
theorem hasFriend_befriend_both {oid : String → Except SystemError ω} {inviter invitee : String}
    {i e : ω} (hi : oid inviter = .ok i) (he : oid invitee = .ok e) {user : ω → Option UserDoc}
    (hsome : (user i).isSome = true) (hsome' : (user e).isSome = true) (tonodeid : String)
    (u v : ω) (n : String) :
    HasFriend oid (befriend e ⟨inviter, tonodeid⟩ (befriend i ⟨invitee, tonodeid⟩ user)) u v n ↔
      HasFriend oid user u v n ∨ (u = i ∧ v = e ∧ n = tonodeid) ∨
        (u = e ∧ v = i ∧ n = tonodeid) := by
  have hsome₂ : (befriend i ⟨invitee, tonodeid⟩ user e).isSome = true := by
    rwa [isSome_befriend]
  rw [hasFriend_befriend hsome₂, hasFriend_befriend hsome, or_assoc, hi, he]
  simp only [Except.ok.injEq, eq_comm]

omit [DecidableEq ω] in
/-- The users of the request that is found are linked, whoever of them asked, once the two of the
call are friends of each other and have unread numbers. -/
theorem GraphInv.linked {oid : String → Except SystemError ω}
    (hoid : ∀ userID id, oid userID = .ok id → '_' ∉ userID.toList) {db db' : GraphDb ω}
    (h : GraphInv oid db) {inviter invitee : String} {doc : AddFriendDoc}
    (hfind : findRequest inviter invitee db.friend = some doc) {i e : ω}
    (hi : oid inviter = .ok i) (he : oid invitee = .ok e)
    (hie : HasFriend oid db'.friend.user i e doc.toNodeID)
    (hei : HasFriend oid db'.friend.user e i doc.toNodeID)
    (hrows : some (inviter, doc.toNodeID) ∈ db'.userUnread.map UserUnread.key ∧
      some (invitee, doc.toNodeID) ∈ db'.userUnread.map UserUnread.key) (status : String) :
    Linked oid db' { doc with status := status } := by
  have hfound : hasKey (littleIDBigID inviter invitee) doc = true := List.find?_some hfind
  have hkey := (h.keyed doc (List.mem_of_find?_eq_some hfind)).symm.trans (beq_iff_eq.mp hfound)
  rcases pair_of_key (hoid _ _ hi) (hoid _ _ he) hkey with ⟨ha, hb⟩ | ⟨ha, hb⟩
  · exact ⟨⟨i, e, ha ▸ hi, hb ▸ he, hie, hei⟩, ha ▸ hrows.1, hb ▸ hrows.2⟩
  · exact ⟨⟨e, i, ha ▸ he, hb ▸ hi, hei, hie⟩, ha ▸ hrows.2, hb ▸ hrows.1⟩

/-- An agreement that stops between its entries makes the one entry of a user who befriends
themself. -/
theorem GraphInv.half {oid : String → Except SystemError ω} {db : GraphDb ω}
    (h : GraphInv oid db) {inviter invitee status : String} {doc : AddFriendDoc}
    (hfind : findRequest inviter invitee db.friend = some doc) {i : ω}
    (hi : oid invitee = .ok i) (hsome : (db.friend.user i).isSome = true)
    (hne : status ≠ "finish") {unread : List UserUnread}
    (hunread : ∀ k ∈ db.userUnread.map UserUnread.key, k ∈ unread.map UserUnread.key) :
    GraphInv oid ⟨⟨befriend i ⟨invitee, doc.toNodeID⟩ db.friend.user,
      statusDocs (littleIDBigID inviter invitee) status db.friend.addFriend⟩, unread⟩ := by
  refine h.update hfind (fun u v n hnew => ?_) (fun u v n hold => ?_) hunread
    fun heq => absurd heq hne
  · rw [hasFriend_befriend hsome] at hnew ⊢
    rcases hnew with hold | ⟨rfl, hv, hn⟩
    · exact .inl ((h.mutual_friends u v n).mp hold)
    · obtain rfl := Except.ok.inj (hi.symm.trans hv)
      exact .inr ⟨rfl, hv, hn⟩
  · exact (hasFriend_befriend hsome).mpr (.inl hold)

/-- An agreement that makes both entries, and both rows where it finishes. -/
theorem GraphInv.both {oid : String → Except SystemError ω}
    (hoid : ∀ userID id, oid userID = .ok id → '_' ∉ userID.toList) {db : GraphDb ω}
    (h : GraphInv oid db) {inviter invitee status : String} {doc : AddFriendDoc}
    (hfind : findRequest inviter invitee db.friend = some doc) {i e : ω}
    (hi : oid inviter = .ok i) (he : oid invitee = .ok e)
    (hsome : (db.friend.user i).isSome = true) (hsome' : (db.friend.user e).isSome = true)
    {unread : List UserUnread}
    (hunread : ∀ k ∈ db.userUnread.map UserUnread.key, k ∈ unread.map UserUnread.key)
    (hrows : status = "finish" → some (inviter, doc.toNodeID) ∈ unread.map UserUnread.key ∧
      some (invitee, doc.toNodeID) ∈ unread.map UserUnread.key) :
    GraphInv oid ⟨⟨befriend e ⟨inviter, doc.toNodeID⟩
        (befriend i ⟨invitee, doc.toNodeID⟩ db.friend.user),
      statusDocs (littleIDBigID inviter invitee) status db.friend.addFriend⟩, unread⟩ := by
  have hfriend := hasFriend_befriend_both hi he hsome hsome' doc.toNodeID
  refine h.update hfind (fun u v n hnew => ?_) (fun u v n hold => ?_) hunread fun heq => ?_
  · rw [hfriend] at hnew ⊢
    rcases hnew with hold | ⟨hu, hv, hn⟩ | ⟨hu, hv, hn⟩
    · exact .inl ((h.mutual_friends u v n).mp hold)
    · exact .inr (.inr ⟨hv, hu, hn⟩)
    · exact .inr (.inl ⟨hv, hu, hn⟩)
  · exact (hfriend u v n).mpr (.inl hold)
  · exact h.linked hoid hfind hi he ((hfriend i e doc.toNodeID).mpr (.inr (.inl ⟨rfl, rfl, rfl⟩)))
      ((hfriend e i doc.toNodeID).mpr (.inr (.inr ⟨rfl, rfl, rfl⟩))) (hrows heq) status

/-- **An agreement keeps the graph consistent**, if it meets the condition. -/
theorem graphInv_authorize {oid : String → Except SystemError ω}
    (hoid : ∀ userID id, oid userID = .ok id → '_' ∉ userID.toList) {db : GraphDb ω}
    (h : GraphInv oid db) (inviter invitee : String) (fault : ℕ → Option SystemError)
    (hok : GraphOk oid db (.addFriendAuthorize inviter invitee fault)) :
    GraphInv oid (graphAuthorize oid inviter invitee fault db).2 := by
  rw [graphAuthorize]
  cases hfind : findRequest inviter invitee db.friend with
  | none => exact h
  | some doc =>
      simp only
      split
      · exact h
      · rename_i hstatus
        have hstep := authorizeStep oid inviter invitee doc.toNodeID fault db
        generalize run (thrown fault) (graphOps oid inviter invitee doc.toNodeID fault) db = out
          at hstep ⊢
        obtain ⟨r, db'⟩ := out
        have hinv : GraphInv oid db' := by
          have hok' := fun i => hok doc i hfind (not_not.mp hstatus)
          cases hstep with
          | idle => exact h
          | stopped =>
              exact h.update hfind (fun u v n => (h.mutual_friends u v n).mp)
                (fun _ _ _ hold => hold) (fun _ hk => hk) fun heq => absurd heq (by decide)
          | @half i status unread hi hstart hne hstop hunread =>
              obtain ⟨e, he, ⟨hsome, -⟩, hentries, -⟩ := hok' i hstart.1 hstart.2 hi
              obtain rfl : i = e := hentries.resolve_right fun hall => hstop ⟨hall, e, he⟩
              exact h.half hfind he hsome hne hunread
          | @both i e status unread hi he hstart hentries hfinish hunread =>
              obtain ⟨e', he', ⟨hsome, hsome'⟩, -, hrows⟩ := hok' i hstart.1 hstart.2 hi
              obtain rfl := Except.ok.inj (he.symm.trans he')
              refine h.both hoid hfind hi he hsome hsome' hunread fun heq => ?_
              obtain ⟨hfault₆, hfault₈, rfl⟩ := hfinish heq
              exact rows_of_finish db.userUnread doc.toNodeID (hrows hentries hfault₆ hfault₈)
        cases r with
        | error e => exact hinv
        | ok _ => exact hinv

/-! ### Runs -/

/-- **The friend graph stays consistent** in every run of requests and agreements, whatever
operations fail, in which each agreement that makes the first entry makes the second one
too, and none finishes without the two unread numbers. -/
theorem friend_graph (oid : String → Except SystemError ω)
    (hoid : ∀ userID id, oid userID = .ok id → '_' ∉ userID.toList) (user : ω → Option UserDoc)
    (es : List GraphEvent) (h : StepsMeet (graphStep oid) (GraphOk oid) (GraphDb.new user) es) :
    Always (graphStep oid) (Consistent oid) (GraphDb.new user) es := by
  have hinv : Always (graphStep oid) (GraphInv oid) (GraphDb.new user) es := by
    refine always_of_stepsMeet ?_ ?_ h
    · intro db e hdb hok
      cases e with
      | addFriend frd msgNodeid fault =>
          obtain ⟨huser, hdocs⟩ := addFriend_docs frd msgNodeid fault hdb.keyed
          have hsame : ∀ u v n, HasFriend oid db.friend.user u v n →
              HasFriend oid (addFriend frd msgNodeid fault db.friend).2.user u v n := by
            rw [huser]
            exact fun _ _ _ hold => hold
          refine ⟨⟨fun u v n => ?_, fun doc hdoc hstatus => ?_⟩, fun doc hdoc => (hdocs doc hdoc).2⟩
          · simp only [graphStep]
            rw [huser]
            exact hdb.mutual_friends u v n
          · rcases (hdocs doc hdoc).1 with hold | hne
            · exact (hdb.finished doc hold hstatus).mono hsame fun _ hk => hk
            · exact absurd hstatus hne
      | addFriendAuthorize inviter invitee fault =>
          exact graphInv_authorize hoid hdb inviter invitee fault hok
    · have hnone : ∀ u v n, ¬ HasFriend oid (GraphDb.new user).friend.user u v n := by
        rintro u v n ⟨doc, hdoc, info, hinfo, -⟩
        obtain ⟨doc', -, rfl⟩ := Option.map_eq_some_iff.mp hdoc
        cases hinfo
      refine ⟨⟨fun u v n => ?_, fun doc hdoc => nomatch hdoc⟩, fun doc hdoc => nomatch hdoc⟩
      exact iff_of_false (hnone u v n) (hnone v u n)
  intro es₁ es₂ heq
  exact (hinv es₁ es₂ heq).toConsistent

/-! ### A failure on the way -/

/-- The operation with the number fails, and no other. -/
def failsAt (n k : ℕ) : Option SystemError :=
  if k = n then some ⟨13053, "no suitable servers found"⟩ else none

/-- The first user asks the second. -/
def asked : GraphEvent := .addFriend ⟨idA, idB, "hi"⟩ "n" fun _ => none

/-- The second user agrees, and the server handles it with these failures. -/
def agreed (fault : ℕ → Option SystemError) : GraphEvent := .addFriendAuthorize idA idB fault

/-- A request and an agreement without a failure. -/
theorem friend_graph_agreed :
    Always (graphStep hexOid) (Consistent hexOid) (GraphDb.new anyUser)
      [asked, agreed fun _ => none] := by
  refine friend_graph hexOid ?_ anyUser [asked, agreed fun _ => none] ⟨trivial, ?_, trivial⟩
  · intro userID id h hunderscore
    rw [hexOid] at h
    split at h
    · rename_i hhex
      exact absurd (List.all_eq_true.mp hhex.2 '_' hunderscore) (by decide)
    · cases h
  · intro doc i hfind hstatus _ _ hi
    have hidA : hexOid idA = .ok idA := by decide
    obtain rfl := Except.ok.inj (hidA.symm.trans hi)
    exact ⟨idB, by decide, ⟨rfl, rfl⟩, .inr ⟨rfl, rfl, rfl⟩, fun _ _ _ => ⟨.inl rfl, .inl rfl⟩⟩

/-- A failure between the two entries leaves a friend who does not have the user as a friend.
A failure of an insert into `userUnread` leaves a finished request without the row. -/
theorem not_friend_graph :
    ¬ Consistent hexOid
        ([asked, agreed (failsAt 2)].foldl (graphStep hexOid) (GraphDb.new anyUser)) ∧
      ¬ Consistent hexOid
        ([asked, agreed (failsAt 3)].foldl (graphStep hexOid) (GraphDb.new anyUser)) := by
  constructor
  · intro h
    have hidA : ([asked, agreed (failsAt 2)].foldl (graphStep hexOid)
        (GraphDb.new anyUser)).friend.user idA = some ⟨[⟨idB, "n"⟩], [], 2⟩ := by decide
    have hidB : ([asked, agreed (failsAt 2)].foldl (graphStep hexOid)
        (GraphDb.new anyUser)).friend.user idB = some ⟨[], [], 1⟩ := by decide
    obtain ⟨doc, hdoc, info, hinfo, -⟩ := (h.mutual_friends idA idB "n").mp
      ⟨_, hidA, _, List.mem_cons_self, by decide, rfl⟩
    obtain rfl := Option.some.inj (hidB.symm.trans hdoc)
    cases hinfo
  · intro h
    have hrequest : ([asked, agreed (failsAt 3)].foldl (graphStep hexOid)
        (GraphDb.new anyUser)).friend.addFriend =
          [⟨littleIDBigID idA idB, idA, idB, "n", "finish"⟩] := by decide
    have hrows : ([asked, agreed (failsAt 3)].foldl (graphStep hexOid)
        (GraphDb.new anyUser)).userUnread.map UserUnread.key = [some (idB, "n")] := by decide
    have hdoc := h.finished
    rw [hrequest] at hdoc
    have hrow := (hdoc _ List.mem_cons_self rfl).unread.1
    rw [hrows] at hrow
    exact absurd (congrArg Prod.fst (Option.some.inj (List.mem_singleton.mp hrow))) (by decide)

end Yijian
