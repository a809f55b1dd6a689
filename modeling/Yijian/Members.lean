import Yijian.FriendGraph

/-!
# Members of Nodes

Whoever becomes a member of a node gets a document in `userUnread`, which later posts to the
node look up by `userID` and `toNodeID`. Friends get it one by one. `createGroup` and
`addMembers2Group` write those of a whole group at once: each document has its fields under
the name `insertOne`, and those of added members have the member for the node.

## Convention

The collection has a unique index on the two fields. A document without the fields has a key like
any other, made of two nulls, so the index lets in one such document and no second. A bulk write is
ordered: it stops at the first insert that is refused, and what was inserted before stays. Calls
are taken one after the other, and the runs are of calls that succeed, on any collections that keep
to the index: a call that throws promises no member anything. The members of a node are those that
the calls have named, by history, and not what the documents of the node say.

## Main results

* `bulkWrite_insertOne`: a group call gets through for a single member, and once.
* `call_rows`: what a call that succeeds does to the documents of old and new members.
* `member_rows_iff`: the runs in which every member has one.
* `not_member_rows`: a group of one member leaves it without.
-/

namespace Yijian

open Documents Runs

/-! ### The calls -/

/-- `chat::CreateGroup`. -/
structure CreateGroup where
  userid : String
  nickname : String
  membersid : List String

/-- `chat::GroupAddMember`. -/
structure GroupAddMember where
  tonodeid : String
  membersid : List String

/-- The collections that the calls read and write; of the nodes it is their ids. -/
structure MemberDb where
  graph : GraphDb String
  messageNode : List String

/-- `bulk_write` of inserts, not ordered. The calls give it views of documents that are gone by
then; it is taken to find them as they were. -/
def bulkWrite (writes docs : List UserUnread) : Except SystemError Unit × List UserUnread :=
  if writes = [] then (.error ⟨22, "Cannot do an empty bulk write"⟩, docs)
  else
    match insertEach UserUnread.key writes docs with
    | (true, docs) => (.ok (), docs)
    | (false, docs) => (.error ⟨11000, "duplicate key"⟩, docs)

/-- `mongo_client::createGroup`; `obj_id` is the id that the driver gives the node. -/
def createGroup (cGroup : CreateGroup) (obj_id : String) (db : MemberDb) :
    Except SystemError Unit × MemberDb :=
  if obj_id ∈ db.messageNode then
    (.error ⟨40021, "create message node for group error"⟩, db)
  else
    let writes := cGroup.membersid.map fun memberid => UserUnread.insertOne memberid obj_id 1 1
    match bulkWrite writes db.graph.userUnread with
    | (r, docs) =>
        (r.mapError fun _ => ⟨40021, "create message node for group error"⟩,
          ⟨⟨db.graph.friend, docs⟩, db.messageNode ++ [obj_id]⟩)

/-- `mongo_client::addMembers2Group`. -/
def addMembers2Group (oid : String → Except SystemError String) (groupMember : GroupAddMember)
    (db : MemberDb) : Except SystemError Unit × MemberDb :=
  match oid groupMember.tonodeid with
  | .error _ => (.error ⟨40022, "add group member failure"⟩, db)
  | .ok _ =>
      let writes := groupMember.membersid.map fun memberid =>
        UserUnread.insertOne memberid memberid 1 1
      match bulkWrite writes db.graph.userUnread with
      | (r, docs) =>
          (r.mapError fun _ => ⟨40022, "add group member failure"⟩,
            ⟨⟨db.graph.friend, docs⟩, db.messageNode⟩)

/-- A call of `mongo_client`; no operation fails by itself. -/
inductive MemberEvent
  | addFriend (frd : AddFriend) (msgNodeid : String)
  | addFriendAuthorize (inviter invitee : String)
  | createGroup (cGroup : CreateGroup) (obj_id : String)
  | addMembers2Group (groupMember : GroupAddMember)

/-- What a call returns and what it does to the collections. -/
def MemberEvent.call (oid : String → Except SystemError String) (db : MemberDb) :
    MemberEvent → Except SystemError Unit × MemberDb
  | .addFriend frd msgNodeid =>
      match Yijian.addFriend frd msgNodeid (fun _ => none) db.graph.friend with
      | (r, friend) =>
          (r.map fun _ => (), ⟨⟨friend, db.graph.userUnread⟩, db.messageNode ++ [msgNodeid]⟩)
  | .addFriendAuthorize inviter invitee =>
      match graphAuthorize oid inviter invitee (fun _ => none) db.graph with
      | (r, graph) => (r, ⟨graph, db.messageNode⟩)
  | .createGroup cGroup obj_id => Yijian.createGroup cGroup obj_id db
  | .addMembers2Group groupMember => Yijian.addMembers2Group oid groupMember db

/-! ### Members -/

/-- The users that a call makes members, each with the node. -/
def MemberEvent.members (oid : String → Except SystemError String) (db : MemberDb) :
    MemberEvent → List (String × String)
  | .addFriend _ _ => []
  | .addFriendAuthorize inviter invitee =>
      match findRequest inviter invitee db.graph.friend with
      | none => []
      | some doc => [(inviter, doc.toNodeID), (invitee, doc.toNodeID)]
  | .createGroup cGroup obj_id => cGroup.membersid.map fun memberid => (memberid, obj_id)
  | .addMembers2Group groupMember =>
      match oid groupMember.tonodeid with
      | .error _ => []
      | .ok id =>
          if id ∈ db.messageNode then groupMember.membersid.map fun memberid => (memberid, id)
          else []

/-- The collections, and the members that the calls have made. -/
structure MemberRun where
  db : MemberDb
  made : List (String × String)

/-- One call. -/
def memberStep (oid : String → Except SystemError String) (s : MemberRun) (e : MemberEvent) :
    MemberRun :=
  match e.call oid s.db with
  | (.ok _, db) => ⟨db, s.made ++ e.members oid s.db⟩
  | (.error _, db) => ⟨db, s.made⟩

/-- The call succeeds. -/
def Succeeds (oid : String → Except SystemError String) (s : MemberRun) (e : MemberEvent) : Prop :=
  (e.call oid s.db).1 = .ok ()

/-- The user has one document for the node. -/
def HasRow (docs : List UserUnread) (member : String × String) : Prop :=
  docs.countP (UserUnread.isOf member.1 member.2) = 1

/-- Every member has a document. -/
def MembersHaveRow (s : MemberRun) : Prop := ∀ member ∈ s.made, HasRow s.db.graph.userUnread member

/-- The condition on a call: a group call makes members only of users that have a document
for the node. -/
def RowsThere (oid : String → Except SystemError String) (s : MemberRun) : MemberEvent → Prop
  | .addFriend _ _ => True
  | .addFriendAuthorize _ _ => True
  | .createGroup cGroup obj_id =>
      ∀ member ∈ (MemberEvent.createGroup cGroup obj_id).members oid s.db,
        HasRow s.db.graph.userUnread member
  | .addMembers2Group groupMember =>
      ∀ member ∈ (MemberEvent.addMembers2Group groupMember).members oid s.db,
        HasRow s.db.graph.userUnread member

/-! ### Documents in the index -/

/-- The index has at most one document of a user for a node. -/
theorem hasRow_iff {docs : List UserUnread} (h : Indexed docs) {member : String × String} :
    HasRow docs member ↔ some member ∈ docs.map UserUnread.key := by
  have hcount : docs.countP (UserUnread.isOf member.1 member.2) =
      (docs.map UserUnread.key).count (some member) := by
    rw [List.count, List.countP_map]
    refine List.countP_congr fun doc _ => ?_
    cases doc with
    | row userID toNodeID unread readed =>
        simp [UserUnread.isOf, UserUnread.key, Prod.ext_iff]
    | insertOne userID toNodeID unread readed => simp [UserUnread.isOf, UserUnread.key]
  rw [HasRow, hcount]
  constructor
  · intro hone
    exact List.count_pos_iff.mp (hone ▸ Nat.one_pos)
  · exact List.count_eq_one_of_mem h

/-- The members of a group have their documents where the index does not see them. -/
def Nested (writes : List UserUnread) : Prop := ∀ doc ∈ writes, doc.key = none

/-- The rows of a group have their fields nested. -/
theorem nested_map (us : List String) (node : String → String) :
    Nested (us.map fun u => UserUnread.insertOne u (node u) 1 1) := by
  intro doc hdoc
  obtain ⟨u, -, rfl⟩ := List.mem_map.mp hdoc
  rfl

/-- Such documents are documents of nobody. -/
theorem mem_keys_append_nested {writes docs : List UserUnread} (h : Nested writes)
    {member : String × String} :
    some member ∈ (docs ++ writes).map UserUnread.key ↔
      some member ∈ docs.map UserUnread.key := by
  rw [List.map_append, List.mem_append, or_iff_left]
  intro hmem
  obtain ⟨doc, hdoc, hkey⟩ := List.mem_map.mp hmem
  cases (h doc hdoc).symm.trans hkey

/-- What a bulk write that succeeds has done. -/
theorem bulkWrite_ok {writes docs : List UserUnread} (h : (bulkWrite writes docs).1 = .ok ()) :
    (insertEach UserUnread.key writes docs).1 = true ∧
      (bulkWrite writes docs).2 = docs ++ writes := by
  rw [bulkWrite] at h ⊢
  split at h
  · cases h
  · rename_i hne
    have hall : (insertEach UserUnread.key writes docs).1 = true →
        (insertEach UserUnread.key writes docs).2 = docs ++ writes := insertEach_of_all
    rw [if_neg hne]
    generalize insertEach UserUnread.key writes docs = out at h hall ⊢
    obtain ⟨_ | _, docs'⟩ := out
    · cases h
    · exact ⟨rfl, hall rfl⟩

/-- **A group call gets through only for a single member**, and only where no such document
is stored already: the index takes two documents without its fields for the same. -/
theorem bulkWrite_insertOne {us : List String} {node : String → String} {docs : List UserUnread} :
    (bulkWrite (us.map fun u => UserUnread.insertOne u (node u) 1 1) docs).1 = .ok () ↔
      (∃ u, us = [u]) ∧ none ∉ docs.map UserUnread.key := by
  constructor
  · intro h
    obtain ⟨hnodup, hfree⟩ := insertEach_iff.mp (bulkWrite_ok h).1
    cases us with
    | nil => cases h
    | cons u us =>
        refine ⟨?_, hfree none List.mem_cons_self⟩
        cases us with
        | nil => exact ⟨u, rfl⟩
        | cons u' us => exact absurd List.mem_cons_self (List.nodup_cons.mp hnodup).1
  · rintro ⟨⟨u, rfl⟩, hfree⟩
    have hall : insertEach UserUnread.key [.insertOne u (node u) 1 1] docs =
        (true, docs ++ [.insertOne u (node u) 1 1]) := by
      have hkey : (UserUnread.insertOne u (node u) 1 1).key ∉ docs.map UserUnread.key := hfree
      rw [insertEach, insertUnique, if_neg hkey]
      rfl
    rw [List.map_singleton, bulkWrite, if_neg (List.cons_ne_nil _ _), hall]

/-- The documents after a bulk write of a group that succeeds. -/
theorem bulkWrite_nested {writes docs : List UserUnread} (hnested : Nested writes)
    (hindexed : Indexed docs) (h : (bulkWrite writes docs).1 = .ok ()) :
    Indexed (bulkWrite writes docs).2 ∧
      ∀ member : String × String, HasRow (bulkWrite writes docs).2 member ↔ HasRow docs member := by
  obtain ⟨hall, hdocs⟩ := bulkWrite_ok h
  obtain ⟨hnodup, hfree⟩ := insertEach_iff.mp hall
  have hindexed' : Indexed (docs ++ writes) := by
    rw [Indexed, List.map_append, List.nodup_append]
    exact ⟨hindexed, hnodup, fun k hk k' hk' heq => hfree k' hk' (heq ▸ hk)⟩
  rw [hdocs]
  refine ⟨hindexed', fun member => ?_⟩
  rw [hasRow_iff hindexed', hasRow_iff hindexed, mem_keys_append_nested hnested]

/-- What a `createGroup` that succeeds has done to the documents. -/
theorem createGroup_ok {cGroup : CreateGroup} {obj_id : String} {db : MemberDb}
    (h : (createGroup cGroup obj_id db).1 = .ok ()) :
    (bulkWrite (cGroup.membersid.map fun memberid => UserUnread.insertOne memberid obj_id 1 1)
        db.graph.userUnread).1 = .ok () ∧
      (createGroup cGroup obj_id db).2.graph.userUnread =
        (bulkWrite (cGroup.membersid.map fun memberid =>
          UserUnread.insertOne memberid obj_id 1 1) db.graph.userUnread).2 := by
  rw [createGroup] at h ⊢
  split at h
  · cases h
  · rename_i hnew
    rw [if_neg hnew]
    simp only at h ⊢
    generalize bulkWrite _ _ = out at h ⊢
    obtain ⟨_ | _, docs⟩ := out
    · cases h
    · exact ⟨h, trivial⟩

/-- What an `addMembers2Group` that succeeds has done to the documents. -/
theorem addMembers2Group_ok {oid : String → Except SystemError String}
    {groupMember : GroupAddMember} {db : MemberDb}
    (h : (addMembers2Group oid groupMember db).1 = .ok ()) :
    (bulkWrite (groupMember.membersid.map fun memberid =>
        UserUnread.insertOne memberid memberid 1 1) db.graph.userUnread).1 = .ok () ∧
      (addMembers2Group oid groupMember db).2.graph.userUnread =
        (bulkWrite (groupMember.membersid.map fun memberid =>
          UserUnread.insertOne memberid memberid 1 1) db.graph.userUnread).2 := by
  rw [addMembers2Group] at h ⊢
  split at h
  · cases h
  · simp only at h ⊢
    generalize bulkWrite _ _ = out at h ⊢
    obtain ⟨_ | _, docs⟩ := out
    · cases h
    · exact ⟨h, trivial⟩

/-! ### Runs -/

/-- **What a call that succeeds does to the documents**: nobody loses one, and the new members
have one if the condition is met. -/
theorem call_rows {oid : String → Except SystemError String} {s : MemberRun} {e : MemberEvent}
    (hindexed : Indexed s.db.graph.userUnread) (hok : Succeeds oid s e) :
    Indexed (e.call oid s.db).2.graph.userUnread ∧
      (∀ member, HasRow s.db.graph.userUnread member →
        HasRow (e.call oid s.db).2.graph.userUnread member) ∧
      ((∀ member ∈ e.members oid s.db, HasRow (e.call oid s.db).2.graph.userUnread member) ↔
        RowsThere oid s e) := by
  cases e with
  | addFriend frd msgNodeid =>
      exact ⟨hindexed, fun _ h => h, iff_of_true (fun _ hmem => nomatch hmem) trivial⟩
  | addFriendAuthorize inviter invitee =>
      obtain ⟨doc, hfind, hdocs⟩ := graphAuthorize_ok hok
      have hdocs' : ((MemberEvent.addFriendAuthorize inviter invitee).call oid
          s.db).2.graph.userUnread = insertUnreadNode none invitee doc.toNodeID
            (insertUnreadNode none inviter doc.toNodeID s.db.graph.userUnread) := hdocs
      have hindexed' := (hindexed.insertUnreadNode inviter doc.toNodeID).insertUnreadNode invitee
        doc.toNodeID
      simp only [hdocs', MemberEvent.members, hfind]
      refine ⟨hindexed', fun member hmem => ?_, iff_of_true (fun member hmem => ?_) trivial⟩
      · have hold := (hasRow_iff hindexed).mp hmem
        exact (hasRow_iff hindexed').mpr
          (mem_keys_insertUnreadNode.mpr (.inl (mem_keys_insertUnreadNode.mpr (.inl hold))))
      · refine (hasRow_iff hindexed').mpr (mem_keys_insertUnreadNode.mpr ?_)
        rw [List.mem_cons, List.mem_singleton] at hmem
        rcases hmem with rfl | rfl
        · exact .inl (mem_keys_insertUnreadNode.mpr (.inr ⟨rfl, rfl⟩))
        · exact .inr ⟨rfl, rfl⟩
  | createGroup cGroup obj_id =>
      obtain ⟨hbulk, hdocs⟩ := createGroup_ok hok
      have hdocs' : ((MemberEvent.createGroup cGroup obj_id).call oid
          s.db).2.graph.userUnread = _ := hdocs
      obtain ⟨hindexed', hrow⟩ := bulkWrite_nested
        (nested_map cGroup.membersid fun _ => obj_id) hindexed hbulk
      simp only [hdocs', hrow]
      exact ⟨hindexed', fun _ h => h, Iff.rfl⟩
  | addMembers2Group groupMember =>
      obtain ⟨hbulk, hdocs⟩ := addMembers2Group_ok hok
      have hdocs' : ((MemberEvent.addMembers2Group groupMember).call oid
          s.db).2.graph.userUnread = _ := hdocs
      obtain ⟨hindexed', hrow⟩ := bulkWrite_nested
        (nested_map groupMember.membersid fun memberid => memberid) hindexed hbulk
      simp only [hdocs', hrow]
      exact ⟨hindexed', fun _ h => h, Iff.rfl⟩

/-- A call that succeeds is recorded with its members. -/
theorem memberStep_of_succeeds {oid : String → Except SystemError String} {s : MemberRun}
    {e : MemberEvent} (hok : Succeeds oid s e) :
    memberStep oid s e = ⟨(e.call oid s.db).2, s.made ++ e.members oid s.db⟩ := by
  rw [Succeeds] at hok
  rw [memberStep]
  generalize e.call oid s.db = out at hok ⊢
  obtain ⟨r, db⟩ := out
  obtain rfl : r = .ok () := hok
  rfl

/-- **The runs in which every member has one document** are those that make members of a
group only of users that have a document for the node before. -/
theorem member_rows_iff (oid : String → Except SystemError String) (db : MemberDb)
    (hindexed : Indexed db.graph.userUnread) (es : List MemberEvent)
    (h : StepsMeet (memberStep oid) (Succeeds oid) ⟨db, []⟩ es) :
    Always (memberStep oid) MembersHaveRow ⟨db, []⟩ es ↔
      StepsMeet (memberStep oid) (RowsThere oid) ⟨db, []⟩ es := by
  refine h.always_iff (I := fun s => Indexed s.db.graph.userUnread) ?_ ?_ hindexed
    fun _ hmem => nomatch hmem
  · intro s e hs hok
    rw [memberStep_of_succeeds hok]
    exact (call_rows hs hok).1
  · intro s e hs hok hrows
    obtain ⟨-, hkept, hmade⟩ := call_rows hs hok
    rw [memberStep_of_succeeds hok, MembersHaveRow, ← hmade]
    constructor
    · exact fun hall member hmem => hall member (List.mem_append_right _ hmem)
    · intro hnew member hmem
      rcases List.mem_append.mp hmem with hold | hmem
      · exact hkept member (hrows member hold)
      · exact hnew member hmem

/-! ### Friends and a group -/

/-- Collections with users of any id and nothing else. -/
def emptyDb : MemberDb := ⟨GraphDb.new anyUser, []⟩

/-- Two users become friends. -/
def befriended : List MemberEvent :=
  [.addFriend ⟨idA, idB, "hi"⟩ "n", .addFriendAuthorize idA idB]

/-- A request and an agreement. -/
theorem member_rows_befriended :
    Always (memberStep hexOid) MembersHaveRow ⟨emptyDb, []⟩ befriended := by
  refine (member_rows_iff hexOid emptyDb List.nodup_nil befriended ⟨?_, ?_, trivial⟩).mpr
    ⟨trivial, trivial, trivial⟩
  · rfl
  · rfl

/-- A user founds a group, with itself as the member, and has no document for it. -/
theorem not_member_rows :
    StepsMeet (memberStep hexOid) (Succeeds hexOid) ⟨emptyDb, []⟩
        [.createGroup ⟨idA, "chess", [idA]⟩ "g"] ∧
      ¬ MembersHaveRow ([MemberEvent.createGroup ⟨idA, "chess", [idA]⟩ "g"].foldl
        (memberStep hexOid) ⟨emptyDb, []⟩) := by
  refine ⟨⟨rfl, trivial⟩, fun h => ?_⟩
  have hrow : HasRow [.insertOne idA "g" 1 1] (idA, "g") := h (idA, "g") List.mem_cons_self
  exact absurd hrow (by rw [HasRow]; decide)

end Yijian
