import Yijian.Lib.Loops
import Yijian.Members

/-!
# Blacklists

A user who has another one on its blacklist is not to be asked by it to become a friend, and not to
be put into a group by it. `dispatch(chat::CreateGroup&)` and `dispatch(chat::GroupAddMember&)` go
over the members that are asked for and erase some of them, before the group is stored;
`dispatch(chat::AddFriend&)` looks at the blacklist of the invitee. All three search the blacklist
of a user for the id of this user, and the two loops keep a member whose id is found.

## Convention

"Is not to be asked by it" is read from the place of the check: a user with the requester on its
blacklist is to be left out of the group, and is not to get a request. The loop of the source erases
while it counts, with the index left where it is after an erase (`eraseLoop`), which makes it the
filter that was meant, but for the test. A query for a member may throw; the handler then ends with
an Error, and nothing is stored. Whether a friend may be on a blacklist, and who puts whom there, is
not looked at: no call of the server writes a blacklist.

## Main results

* `filtrate_eq`: the members that the two loops pass on.
* `dispatchAddFriend_records_iff`: when a request is recorded.
* `blacklists_enforced_iff`: the requests that are handled as the blacklists say.
-/

namespace Yijian

open Documents Loops

/-! ### The handlers -/

/-- The search of `dispatch(chat::CreateGroup&)` and `dispatch(chat::GroupAddMember&)` in the
blacklist of a member. -/
def keepsMember (oid : String → Except SystemError String) (db : FriendDb String)
    (memberid : String) : Except SystemError Bool :=
  (queryUser oid memberid db).map fun user => user.blacklist.any fun userid => userid == memberid

/-- The loop of the two handlers. -/
def filtrate (oid : String → Except SystemError String) (db : FriendDb String)
    (membersid : List String) : Except SystemError (List String) :=
  eraseLoop (keepsMember oid db) membersid.length membersid 0

/-- `dispatch(chat::CreateGroup&)`; `obj_id` is the id that the driver gives the node. -/
def dispatchCreateGroup (oid : String → Except SystemError String) (group : CreateGroup)
    (obj_id : String) (db : MemberDb) : Except SystemError Unit × MemberDb :=
  match filtrate oid db.graph.friend group.membersid with
  | .error e => (.error e, db)
  | .ok membersid =>
      if membersid.length ≤ 3 then (.error ⟨11006, "at least 3 people"⟩, db)
      else createGroup { group with membersid := membersid } obj_id db

/-- `dispatch(chat::GroupAddMember&)`. -/
def dispatchGroupAddMember (oid : String → Except SystemError String)
    (groupMember : GroupAddMember) (db : MemberDb) : Except SystemError Unit × MemberDb :=
  match filtrate oid db.graph.friend groupMember.membersid with
  | .error e => (.error e, db)
  | .ok membersid => addMembers2Group oid { groupMember with membersid := membersid } db

/-! ### What the blacklists say -/

/-- The checks of `dispatch(chat::AddFriend&)` other than that of the blacklist let a request
through, and its insert goes well. -/
def AddFriend.Passes (oid : String → Except SystemError String) (frd : AddFriend)
    (fault : ℕ → Option SystemError) (db : FriendDb String) (peerUser : UserDoc) : Prop :=
  frd.inviterID ≠ "" ∧ frd.inviteeID ≠ "" ∧
    (∃ user, queryUser oid frd.inviterID db = .ok user ∧
      ¬ user.friends.any fun info => info.userID == frd.inviteeID) ∧
    (¬ peerUser.friends.any fun info => info.userID == frd.inviterID) ∧
    fault 0 = none ∧
    ∀ doc ∈ db.addFriend, doc.littleIDBigID ≠ littleIDBigID frd.inviterID frd.inviteeID

/-- Requests of the user `userid`: a group of existing users, and a friend. -/
structure Requester where
  oid : String → Except SystemError String
  db : MemberDb
  userid : String
  membersid : List String
  user : String → UserDoc
  inviteeID : String
  msg : String
  msgNodeid : String
  fault : ℕ → Option SystemError
  found : ∀ memberid ∈ membersid, queryUser oid memberid db.graph.friend = .ok (user memberid)

namespace Requester

/-- The members who do not have the requester on their blacklist. -/
def allowed (r : Requester) : List String :=
  r.membersid.filter fun memberid => decide (r.userid ∉ (r.user memberid).blacklist)

/-- The request to become a friend. -/
def frd (r : Requester) : AddFriend := ⟨r.userid, r.inviteeID, r.msg⟩

/-- A request to become a friend is recorded. -/
def Records (r : Requester) : Prop :=
  r.db.graph.friend.addFriend.length <
    (dispatchAddFriend r.oid r.userid r.frd r.msgNodeid r.fault
      r.db.graph.friend).2.addFriend.length

/-- The blacklists are enforced. -/
structure Enforced (r : Requester) : Prop where
  passed : filtrate r.oid r.db.graph.friend r.membersid = .ok r.allowed
  added : ∀ tonodeid, dispatchGroupAddMember r.oid ⟨tonodeid, r.membersid⟩ r.db =
    addMembers2Group r.oid ⟨tonodeid, r.allowed⟩ r.db
  created : ∀ userid nickname obj_id,
    dispatchCreateGroup r.oid ⟨userid, nickname, r.membersid⟩ obj_id r.db =
      if 3 ≤ r.allowed.length then createGroup ⟨userid, nickname, r.allowed⟩ obj_id r.db
      else (.error ⟨11006, "at least 3 people"⟩, r.db)
  asked : ∀ peerUser, queryUser r.oid r.inviteeID r.db.graph.friend = .ok peerUser →
    r.Records → r.userid ∉ peerUser.blacklist

/-- The condition: a member that is asked for has itself on its blacklist exactly if it has not
the requester there, the number of those who have not is not three, and the request to a user
who has the requester on its blacklist is not recorded for another reason, or because this user
has itself there. -/
def Fits (r : Requester) : Prop :=
  (∀ memberid ∈ r.membersid,
    memberid ∈ (r.user memberid).blacklist ↔ r.userid ∉ (r.user memberid).blacklist) ∧
  r.allowed.length ≠ 3 ∧
  ∀ peerUser, queryUser r.oid r.inviteeID r.db.graph.friend = .ok peerUser →
    r.userid ∈ peerUser.blacklist → r.inviteeID ∉ peerUser.blacklist →
      ¬ r.frd.Passes r.oid r.fault r.db.graph.friend peerUser

end Requester

/-! ### AddFriend -/

/-- `mongo_client::addFriend` records a request exactly if the insert goes well. -/
theorem addFriend_records_iff (frd : AddFriend) (msgNodeid : String)
    (fault : ℕ → Option SystemError) (db : FriendDb String) :
    db.addFriend.length < (addFriend frd msgNodeid fault db).2.addFriend.length ↔
      fault 0 = none ∧ ∀ doc ∈ db.addFriend,
        doc.littleIDBigID ≠ littleIDBigID frd.inviterID frd.inviteeID := by
  have hrun : (addFriend frd msgNodeid fault db).2 =
      (run fault (addFriendOps frd msgNodeid) db).2 := by
    rw [addFriend]
    rcases run fault (addFriendOps frd msgNodeid) db with ⟨_ | _, _⟩ <;> rfl
  rw [hrun, addFriendOps, run]
  cases fault 0 with
  | some e =>
      refine iff_of_false (lt_irrefl _) ?_
      rintro ⟨hnone, -⟩
      cases hnone
  | none =>
      simp only [true_and, insertRequest, insertUnique]
      by_cases hkey : littleIDBigID frd.inviterID frd.inviteeID ∈
          db.addFriend.map AddFriendDoc.littleIDBigID
      · rw [if_pos hkey]
        obtain ⟨doc, hdoc, heq⟩ := List.mem_map.mp hkey
        exact iff_of_false (lt_irrefl _) fun hall => hall doc hdoc heq
      · rw [if_neg hkey]
        refine iff_of_true ?_ fun doc hdoc heq => hkey (List.mem_map.mpr ⟨doc, hdoc, heq⟩)
        refine run_inv (I := fun d : FriendDb String =>
          db.addFriend.length < d.addFriend.length) ?_ _ ?_
        · intro op hop d d' hd hd'
          have hids : d'.addFriend.map AddFriendDoc.ids = d.addFriend.map AddFriendDoc.ids := by
            rw [List.mem_cons, List.mem_singleton] at hop
            rcases hop with rfl | rfl
            · exact (updateRequest_ids hd' fun doc => rfl).2
            · exact (updateRequest_ids hd' fun doc => rfl).2
          have hlen := congrArg List.length hids
          rw [List.length_map, List.length_map] at hlen
          rwa [hlen]
        · simp

/-- **When a request is recorded**: the invitee does not have itself on its blacklist. -/
theorem dispatchAddFriend_records_iff (oid : String → Except SystemError String)
    (frd : AddFriend) (msgNodeid : String) (fault : ℕ → Option SystemError)
    (db : FriendDb String) {peerUser : UserDoc}
    (hpeer : queryUser oid frd.inviteeID db = .ok peerUser) :
    db.addFriend.length <
        (dispatchAddFriend oid frd.inviterID frd msgNodeid fault db).2.addFriend.length ↔
      frd.inviteeID ∉ peerUser.blacklist ∧ frd.Passes oid fault db peerUser := by
  rw [dispatchAddFriend, AddFriend.Passes]
  by_cases hargs : frd.inviterID = "" ∨ frd.inviteeID = "" ∨ frd.inviterID ≠ frd.inviterID
  · rw [if_pos hargs]
    refine iff_of_false (lt_irrefl _) ?_
    rintro ⟨-, hinviter, hinvitee, -⟩
    rcases hargs with h | h | h
    · exact hinviter h
    · exact hinvitee h
    · exact h rfl
  · have hids : frd.inviterID ≠ "" ∧ frd.inviteeID ≠ "" :=
      ⟨fun h => hargs (Or.inl h), fun h => hargs (Or.inr (Or.inl h))⟩
    rw [if_neg hargs, hpeer]
    simp only [List.contains_eq_mem, decide_eq_true_eq]
    by_cases hblack : frd.inviteeID ∈ peerUser.blacklist
    · rw [if_pos hblack]
      exact iff_of_false (lt_irrefl _) fun h => h.1 hblack
    · rw [if_neg hblack]
      cases huser : queryUser oid frd.inviterID db with
      | error e =>
          refine iff_of_false (lt_irrefl _) ?_
          rintro ⟨-, -, -, ⟨user, hfound, -⟩, -⟩
          cases hfound
      | ok user =>
          simp only
          split
          · rename_i hfriend
            refine iff_of_false (lt_irrefl _) ?_
            rintro ⟨-, -, -, ⟨user', hfound, hnot⟩, -⟩
            obtain rfl := Except.ok.inj hfound
            exact hnot hfriend
          · rename_i hfriend
            split
            · rename_i hpeerFriend
              refine iff_of_false (lt_irrefl _) ?_
              rintro ⟨-, -, -, -, hnot, -⟩
              exact hnot hpeerFriend
            · rename_i hpeerFriend
              rw [addFriend_records_iff]
              constructor
              · rintro ⟨hfault, hkey⟩
                exact ⟨hblack, hids.1, hids.2, ⟨user, rfl, hfriend⟩, hpeerFriend, hfault, hkey⟩
              · rintro ⟨-, -, -, -, -, hfault, hkey⟩
                exact ⟨hfault, hkey⟩

namespace Requester

/-! ### The loops -/

/-- The members that the loops pass on have themselves on their blacklist. -/
theorem filtrate_eq (r : Requester) :
    filtrate r.oid r.db.graph.friend r.membersid =
      .ok (r.membersid.filter fun memberid =>
        decide (memberid ∈ (r.user memberid).blacklist)) := by
  have hkeep : ∀ memberid ∈ r.membersid, keepsMember r.oid r.db.graph.friend memberid =
      .ok (decide (memberid ∈ (r.user memberid).blacklist)) := by
    intro memberid hmember
    rw [keepsMember, r.found memberid hmember, Except.map, List.any_beq']
    rw [List.contains_eq_mem]
  exact eraseLoop_eq [] r.membersid hkeep (Nat.le_refl _)

/-- The loops pass on who is allowed exactly if the two conditions agree on every member. -/
theorem passed_iff (r : Requester) :
    filtrate r.oid r.db.graph.friend r.membersid = .ok r.allowed ↔
      ∀ memberid ∈ r.membersid,
        (memberid ∈ (r.user memberid).blacklist ↔ r.userid ∉ (r.user memberid).blacklist) := by
  rw [filtrate_eq, Except.ok.injEq, allowed, filter_eq_filter_iff]
  simp only [decide_eq_decide]

/-! ### CreateGroup -/

/-- `createGroup` never complains about the number of people. -/
theorem createGroup_ne (cGroup : CreateGroup) (obj_id : String) (db : MemberDb) :
    createGroup cGroup obj_id db ≠ (.error ⟨11006, "at least 3 people"⟩, db) := by
  intro h
  have hfst := congrArg Prod.fst h
  rw [createGroup] at hfst
  split at hfst
  · simp at hfst
  · simp only at hfst
    generalize (bulkWrite _ db.graph.userUnread).1 = res at hfst
    cases res with
    | ok u => cases hfst
    | error e => simp [Except.mapError] at hfst

/-- A group is created as it should be exactly if there are not three members left. -/
theorem created_iff (r : Requester)
    (h : filtrate r.oid r.db.graph.friend r.membersid = .ok r.allowed) :
    (∀ userid nickname obj_id,
      dispatchCreateGroup r.oid ⟨userid, nickname, r.membersid⟩ obj_id r.db =
        if 3 ≤ r.allowed.length then createGroup ⟨userid, nickname, r.allowed⟩ obj_id r.db
        else (.error ⟨11006, "at least 3 people"⟩, r.db)) ↔ r.allowed.length ≠ 3 := by
  simp only [dispatchCreateGroup, h]
  constructor
  · intro hcreated hthree
    have hsome := hcreated "" "" ""
    rw [if_pos (by omega), if_pos (by omega)] at hsome
    exact createGroup_ne _ _ _ hsome.symm
  · intro hne userid nickname obj_id
    by_cases hle : r.allowed.length ≤ 3
    · rw [if_pos hle, if_neg (by omega)]
    · rw [if_neg hle, if_pos (by omega)]

/-- **The requests that are handled as the blacklists say.** -/
theorem blacklists_enforced_iff (r : Requester) : r.Enforced ↔ r.Fits := by
  constructor
  · intro h
    refine ⟨r.passed_iff.mp h.passed, (r.created_iff h.passed).mp h.created, ?_⟩
    intro peerUser hpeer hblack hself hpasses
    have hrecords : r.Records :=
      (dispatchAddFriend_records_iff r.oid r.frd r.msgNodeid r.fault r.db.graph.friend hpeer).mpr
        ⟨hself, hpasses⟩
    exact h.asked peerUser hpeer hrecords hblack
  · rintro ⟨hmembers, hthree, hasked⟩
    have hpassed := r.passed_iff.mpr hmembers
    refine ⟨hpassed, fun tonodeid => ?_, (r.created_iff hpassed).mpr hthree, ?_⟩
    · simp only [dispatchGroupAddMember, hpassed]
    · intro peerUser hpeer hrecords hblack
      obtain ⟨hself, hpasses⟩ := (dispatchAddFriend_records_iff r.oid r.frd r.msgNodeid r.fault
        r.db.graph.friend hpeer).mp hrecords
      exact hasked peerUser hpeer hblack hself hpasses

end Requester

/-! ### A group of strangers -/

/-- Four users without blacklists are to be put into a group, and one of them is asked to become a
friend. -/
def fourStrangers : Requester where
  oid := hexOid
  db := ⟨⟨⟨anyUser, []⟩, []⟩, []⟩
  userid := idA
  membersid := [idB, "cccccccccccccccccccccccc", "dddddddddddddddddddddddd",
    "eeeeeeeeeeeeeeeeeeeeeeee"]
  user := fun _ => ⟨[], [], 1⟩
  inviteeID := idB
  msg := "hi"
  msgNodeid := "n"
  fault := fun _ => none
  found := by decide

/-- None of them is left. -/
theorem not_enforced_strangers : ¬ fourStrangers.Enforced := by
  intro h
  exact absurd h.passed (by decide)

end Yijian
