import Yijian.FriendGraph
import Yijian.Handlers
import Yijian.MessageNumbers

/-!
# Unseen Messages of a Friend

`addFriend` creates the node of two friends and posts the request there, which takes the
number 0. `addFriendAuthorize` gives each friend a document in `userUnread` that starts with 1
for the last message posted and 1 for the last one read. A NodeMessage raises the first of
the friend it is for, a QueryMessage the second of the user that asks, to the number before
the end of the range, whether there is a message up to there or not.

## Convention

A message is unseen by a user if it has been posted to the node by the other one and no accepted
query of the user has gone beyond its number. It is reported as long as its number is above the one
for messages read, and not above the one for messages posted. Numbers are those that the counter of
the node has given out. The run starts behind the agreement, in the state that `addFriend` and
`addFriendAuthorize` have left for two users who had nothing before; the structure `Friendship` has
that state with the proofs of how it came about. Messages and queries of both, in any order, may be
cut by a failure of the update of the numbers, which the handlers do not notice.

## Main results

* `UnreadInv.run`: what a run of messages and queries does to the numbers of a friend.
* `unseen_reported_iff`: the runs in which every unseen message is reported unread.
* `not_unseen_reported`: the first message has the number 1, which counts as read.
-/

namespace Yijian

open Bson Documents Runs

variable {ω : Type} [DecidableEq ω]

/-! ### The database -/

/-- Users and requests, and the documents of nodes, messages and unread numbers. -/
structure Chatdb (ω : Type) where
  friend : FriendDb ω
  store : DocumentDb ω

/-- `mongo_client::addFriend` with no failure, on both parts. -/
def Chatdb.addFriend (ids : ObjectIds ω) (frd : AddFriend) (nodeId msgId : ω) (db : Chatdb ω) :
    Except SystemError (Chatdb ω) :=
  match MongoClient.addFriend ids frd nodeId msgId db.store,
      Yijian.addFriend frd (ids.toText nodeId) (fun _ => none) db.friend with
  | .ok (_, store), (.ok _, friend) => .ok ⟨friend, store⟩
  | .error e, _ => .error e
  | .ok _, (.error e, _) => .error e

/-- `mongo_client::addFriendAuthorize` with no failure, on both parts. -/
def Chatdb.addFriendAuthorize (ids : ObjectIds ω) (frd : AddFriend) (db : Chatdb ω) :
    Except SystemError (Chatdb ω) :=
  match graphAuthorize ids.oid frd.inviterID frd.inviteeID (fun _ => none)
      ⟨db.friend, db.store.userUnread⟩ with
  | (.ok (), g) => .ok ⟨g.friend, { db.store with userUnread := g.userUnread }⟩
  | (.error e, _) => .error e

/-! ### Messages and queries -/

/-- `dispatch(chat::NodeMessage&)` of a message to a user, on the database, with the number
under which the message is stored. `fault`: what the operation on the counter throws, the
insert, and what follows it up to the unread number. -/
def dispatchNodeMessage (ids : ObjectIds ω) (message : Chat.NodeMessage) (id : ω)
    (fault : ℕ → Option SystemError) (db : DocumentDb ω) : Option ℤ × DocumentDb ω :=
  match fault 0, MongoClient.takeIncrementid message.toNodeMessage db with
  | some _, _ => (none, db)
  | none, (.error _, db) => (none, db)
  | none, (.ok incrementid, db) =>
      match fault 1, MongoClient.storeMessage ids message.toNodeMessage id incrementid db with
      | some _, _ => (none, db)
      | none, .error _ => (none, db)
      | none, .ok (_, db) => (some incrementid, { db with
          userUnread := postMessage ⟨message.fromuserid, message.tonodeid, message.touserid_outer,
            [], incrementid, fault 2⟩ db.userUnread })

/-- The check of `dispatch(chat::QueryMessage&)`. -/
def QueryMessage.accepted (query : QueryMessage) : Bool :=
  !decide ((query.toincrementid ≤ query.fromincrementid ∧ query.toincrementid ≠ 0) ∨
    subInt32 query.toincrementid query.fromincrementid > 50)

/-- `dispatch(chat::QueryMessage&)` of a user, on the unread numbers; `fault` is what the
update throws and catches. -/
def dispatchQueryMessage (userid : String) (query : QueryMessage) (fault : Option SystemError)
    (db : DocumentDb ω) : DocumentDb ω :=
  match query.accepted, fault with
  | true, none => { db with
      userUnread :=
        updateReadedIncrement userid query.tonodeid (query.toincrementid - 1) db.userUnread }
  | _, _ => db

/-- A message of one friend to the other, or a query on their node. -/
inductive NodeEvent (ω : Type)
  | message (toInvitee : Bool) (type : ℤ) (content : String) (id : ω)
      (fault : ℕ → Option SystemError)
  | query (userid : String) (fromincrementid toincrementid : ℤ) (fault : Option SystemError)

/-- The friend that a message is for; `true` for the invitee. -/
def AddFriend.friend (frd : AddFriend) (toInvitee : Bool) : String :=
  if toInvitee then frd.inviteeID else frd.inviterID

/-- The message of one friend to the other. -/
def AddFriend.message (frd : AddFriend) (tonodeid : String) (toInvitee : Bool) (type : ℤ)
    (content : String) : Chat.NodeMessage :=
  ⟨⟨"", frd.friend !toInvitee, tonodeid, 0, type, content⟩, frd.friend toInvitee⟩

/-- One step on the node `tonodeid`. -/
def nodeEventStep (ids : ObjectIds ω) (frd : AddFriend) (tonodeid : String) (db : DocumentDb ω) :
    NodeEvent ω → DocumentDb ω
  | .message toInvitee type content id fault =>
      (dispatchNodeMessage ids (frd.message tonodeid toInvitee type content) id fault db).2
  | .query userid fromincrementid toincrementid fault =>
      dispatchQueryMessage userid ⟨tonodeid, fromincrementid, toincrementid⟩ fault db

/-! ### What a run of them does -/

/-- The message takes a number. -/
def NodeEvent.takes : NodeEvent ω → Bool
  | .message _ _ _ _ fault => (fault 0).isNone
  | .query .. => false

/-- How many messages have taken a number. -/
def taken (es : List (NodeEvent ω)) : ℕ := es.countP NodeEvent.takes

omit [DecidableEq ω] in
/-- The numbers that are taken, part by part. -/
theorem taken_append (es es' : List (NodeEvent ω)) : taken (es ++ es') = taken es + taken es' :=
  List.countP_append

/-- The end of the range that a user has asked for, if the query is accepted. -/
def NodeEvent.asked (userid : String) : NodeEvent ω → Option ℤ
  | .query userid' fromincrementid toincrementid _ =>
      if userid' = userid ∧ QueryMessage.accepted ⟨"", fromincrementid, toincrementid⟩ then
        some toincrementid
      else none
  | .message .. => none

/-- The same, if it is recorded. -/
def NodeEvent.recorded (userid : String) : NodeEvent ω → Option ℤ
  | .query userid' fromincrementid toincrementid fault =>
      if fault.isNone then
        NodeEvent.asked userid (.query userid' fromincrementid toincrementid fault : NodeEvent ω)
      else none
  | .message .. => none

omit [DecidableEq ω] in
/-- What is recorded for a user has been asked for by the user. -/
theorem asked_of_recorded {userid : String} {e : NodeEvent ω} {to' : ℤ}
    (h : e.recorded userid = some to') : e.asked userid = some to' := by
  cases e with
  | message toInvitee type content id fault => cases h
  | query userid' fromincrementid toincrementid fault =>
      rw [NodeEvent.recorded] at h
      split at h
      · exact h
      · cases h

/-- The number of a message to a user, if it is stored. -/
def NodeEvent.posted (ids : ObjectIds ω) (frd : AddFriend) (tonodeid userid : String)
    (db : DocumentDb ω) : NodeEvent ω → Option ℤ
  | .message toInvitee type content id fault =>
      if frd.friend toInvitee = userid then
        (dispatchNodeMessage ids (frd.message tonodeid toInvitee type content) id fault db).1
      else none
  | .query .. => none

/-- Something is thrown between the insert of the message and the unread number. -/
def NodeEvent.late : NodeEvent ω → Option SystemError
  | .message _ _ _ _ fault => fault 2
  | .query .. => none

/-- A message is reported unread: the number of the user for messages posted to the node has
come to it, and the one for messages read has not. -/
def ReportedUnread (userid tonodeid : String) (k : ℤ) (docs : List UserUnread) : Prop :=
  ∃ unread readed, .row userid tonodeid unread readed ∈ docs ∧ readed < k ∧ k ≤ unread

/-! ### The counter -/

/-- The counter of the node stands at `t`, as far as it is read as a number of 32 bits. -/
def CounterAt (tonodeid : String) (t : ℕ) (counts : List (Fields ω)) : Prop :=
  ∃ doc, lookup (textOf "nodeID") (some tonodeid) counts = some doc ∧
    ∃ c : ℕ, get "count" doc = some (number c) ∧ min c (2 ^ 31) = min t (2 ^ 31)

omit [DecidableEq ω] in
/-- **Taking a number** gives the one that the counter stands at. -/
theorem CounterAt.take {message : NodeMessage} {t : ℕ} {db db' : DocumentDb ω}
    {r : Except SystemError ℤ} (h : CounterAt message.tonodeid t db.messageNodeCount)
    (htake : MongoClient.takeIncrementid message db = (r, db')) :
    CounterAt message.tonodeid (t + 1) db'.messageNodeCount ∧ db'.userUnread = db.userUnread ∧
      ∀ k, r = .ok k → k = t := by
  obtain ⟨doc, hdoc, c, hc, hmin⟩ := h
  rcases takeIncrementid_cases htake with ⟨rfl, ⟨e, rfl⟩, hstuck⟩ |
    ⟨doc', counted, hdoc', hinc, hr, rfl⟩
  · have hinc := hstuck doc hdoc
    rw [inc_number hc] at hinc
    refine ⟨⟨doc, hdoc, c, hc, ?_⟩, rfl, fun k hk => nomatch hk⟩
    split at hinc
    · cases hinc
    · omega
  · obtain rfl := Option.some.inj (hdoc.symm.trans hdoc')
    rw [getInt32_number hc] at hr
    refine ⟨⟨counted, ?_, ?_⟩, rfl, fun k hk => ?_⟩
    · exact (lookup_counted hinc hdoc message.tonodeid).trans (if_pos rfl)
    · rw [inc_number hc] at hinc
      split at hinc
      · obtain rfl := Option.some.inj hinc
        exact ⟨c + 1, get_set_self "count" _ doc, by omega⟩
      · cases hinc
    · rw [hk] at hr
      split at hr
      · obtain rfl := Except.ok.inj hr
        omega
      · cases hr

/-- A message that is stored leaves the counters and the rows. -/
theorem storeMessage_frame {ids : ObjectIds ω} {message : NodeMessage} {id : ω} {i : ℤ}
    {db db' : DocumentDb ω} {r : NodeMessageRes}
    (h : MongoClient.storeMessage ids message id i db = .ok (r, db')) :
    db'.messageNodeCount = db.messageNodeCount ∧ db'.userUnread = db.userUnread := by
  rw [MongoClient.storeMessage] at h
  obtain ⟨docs, -, hrfl⟩ := bind_eq_ok.mp h
  obtain ⟨-, rfl⟩ := Prod.mk.inj (Except.ok.inj hrfl)
  exact ⟨rfl, rfl⟩

/-- **A message** takes the number that the counter stands at. -/
theorem CounterAt.dispatchNodeMessage {ids : ObjectIds ω} {message : Chat.NodeMessage} {id : ω}
    {fault : ℕ → Option SystemError} {t : ℕ} {db db' : DocumentDb ω} {r : Option ℤ}
    (h : CounterAt message.tonodeid t db.messageNodeCount)
    (hr : dispatchNodeMessage ids message id fault db = (r, db')) :
    CounterAt message.tonodeid (if (fault 0).isNone then t + 1 else t) db'.messageNodeCount ∧
      ((r = none ∧ db'.userUnread = db.userUnread) ∨
        (r = some (t : ℤ) ∧ (fault 0).isNone = true ∧ db'.userUnread =
          postMessage ⟨message.fromuserid, message.tonodeid, message.touserid_outer, [], t,
            fault 2⟩ db.userUnread)) := by
  rw [Yijian.dispatchNodeMessage] at hr
  cases hfault₀ : fault 0 with
  | some e =>
      simp only [hfault₀] at hr
      obtain ⟨rfl, rfl⟩ := Prod.mk.inj hr
      exact ⟨h, .inl ⟨rfl, rfl⟩⟩
  | none =>
      rcases htake : MongoClient.takeIncrementid message.toNodeMessage db with ⟨_ | k, db₁⟩
      · obtain ⟨hcounter, hunread, -⟩ := h.take htake
        simp only [hfault₀, htake] at hr
        obtain ⟨rfl, rfl⟩ := Prod.mk.inj hr
        exact ⟨hcounter, .inl ⟨rfl, hunread⟩⟩
      · obtain ⟨hcounter, hunread, hk⟩ := h.take htake
        obtain rfl := hk k rfl
        simp only [hfault₀, htake] at hr
        cases hfault₁ : fault 1 with
        | some e =>
            simp only [hfault₁] at hr
            obtain ⟨rfl, rfl⟩ := Prod.mk.inj hr
            exact ⟨hcounter, .inl ⟨rfl, hunread⟩⟩
        | none =>
            cases hstore : MongoClient.storeMessage ids message.toNodeMessage id (t : ℤ) db₁ with
            | error e =>
                simp only [hfault₁, hstore] at hr
                obtain ⟨rfl, rfl⟩ := Prod.mk.inj hr
                exact ⟨hcounter, .inl ⟨rfl, hunread⟩⟩
            | ok stored =>
                obtain ⟨hcounts, hunread'⟩ := storeMessage_frame hstore
                simp only [hfault₁, hstore] at hr
                obtain ⟨rfl, rfl⟩ := Prod.mk.inj hr
                refine ⟨?_, .inr ⟨rfl, rfl, ?_⟩⟩
                · exact hcounts ▸ hcounter
                · simp only [hunread', hunread]

/-- **A step** moves the counter of the node by the numbers that it takes, and leaves the keys
of the unread numbers as they are. -/
theorem CounterAt.step {tonodeid : String} {t : ℕ} {db : DocumentDb ω}
    (h : CounterAt tonodeid t db.messageNodeCount) (ids : ObjectIds ω) (frd : AddFriend)
    (e : NodeEvent ω) :
    CounterAt tonodeid (t + taken [e]) (nodeEventStep ids frd tonodeid db e).messageNodeCount ∧
      (nodeEventStep ids frd tonodeid db e).userUnread.map UserUnread.key =
        db.userUnread.map UserUnread.key := by
  cases e with
  | query userid fromincrementid toincrementid fault =>
      rw [nodeEventStep]
      unfold dispatchQueryMessage
      split
      · exact ⟨h, keys_unreadStep db.userUnread (.read userid tonodeid toincrementid)⟩
      · exact ⟨h, rfl⟩
  | message toInvitee type content id fault =>
      rcases hr : Yijian.dispatchNodeMessage ids (frd.message tonodeid toInvitee type content) id
        fault db with ⟨r, db'⟩
      have hmessage : CounterAt (frd.message tonodeid toInvitee type content).tonodeid t
          db.messageNodeCount := h
      obtain ⟨hcounter, hunread⟩ := hmessage.dispatchNodeMessage hr
      have hstep : nodeEventStep ids frd tonodeid db
          (.message toInvitee type content id fault) = db' :=
        congrArg Prod.snd hr
      have htaken : (if (fault 0).isNone then t + 1 else t) =
          t + taken [NodeEvent.message toInvitee type content id fault] := by
        rw [taken, List.countP_singleton, NodeEvent.takes]
        split <;> rfl
      rw [hstep, ← htaken]
      refine ⟨hcounter, ?_⟩
      rcases hunread with ⟨-, hsame⟩ | ⟨-, -, hposted⟩
      · rw [hsame]
      · rw [hposted]
        exact keys_unreadStep db.userUnread (.post _)

/-- In every run the counter counts the numbers that are taken. -/
theorem CounterAt.run {tonodeid : String} {t : ℕ} {db : DocumentDb ω}
    (h : CounterAt tonodeid t db.messageNodeCount) (ids : ObjectIds ω) (frd : AddFriend)
    (es : List (NodeEvent ω)) :
    CounterAt tonodeid (t + taken es)
        (es.foldl (nodeEventStep ids frd tonodeid) db).messageNodeCount ∧
      (es.foldl (nodeEventStep ids frd tonodeid) db).userUnread.map UserUnread.key =
        db.userUnread.map UserUnread.key := by
  induction es generalizing t db with
  | nil => exact ⟨h, rfl⟩
  | cons e es ih =>
      obtain ⟨hcounter, hkeys⟩ := h.step ids frd e
      obtain ⟨hcounter', hkeys'⟩ := ih hcounter
      rw [Nat.add_assoc, ← taken_append, List.singleton_append] at hcounter'
      exact ⟨hcounter', hkeys'.trans hkeys⟩

/-! ### The numbers of a friend -/

omit [DecidableEq ω] in
/-- A message to a user, on the documents of the users of its node. -/
theorem row_postMessage {m : Post} {docs : List UserUnread} (h : Indexed docs)
    (houter : m.touserid_outer ≠ "") {userid : String} {unread readed : ℤ}
    (hrow : .row userid m.tonodeid unread readed ∈ docs) :
    .row userid m.tonodeid
        (if m.failure = none ∧ m.touserid_outer = userid then max unread m.incrementid else unread)
        readed ∈ postMessage m docs := by
  rw [postMessage]
  cases hfailure : m.failure with
  | some e => simpa using hrow
  | none =>
      simp only [if_neg houter, true_and]
      rw [updateUnreadIncrement_eq h, updateMany]
      refine List.mem_map.mpr ⟨_, hrow, ?_⟩
      simp only [UserUnread.isOf, Bool.and_eq_true, beq_iff_eq, and_true]
      by_cases huser : userid = m.touserid_outer
      · rw [if_pos huser, if_pos huser.symm]
        rfl
      · rw [if_neg huser, if_neg (Ne.symm huser)]

omit [DecidableEq ω] in
/-- A query of a user, on the documents of the users of its node. -/
theorem row_updateReadedIncrement {docs : List UserUnread} (h : Indexed docs)
    {userid tonodeid : String} {unread readed : ℤ}
    (hrow : .row userid tonodeid unread readed ∈ docs) (userid' : String) (k : ℤ) :
    .row userid tonodeid unread (if userid' = userid then max readed k else readed) ∈
      updateReadedIncrement userid' tonodeid k docs := by
  rw [updateReadedIncrement_eq h, updateMany]
  refine List.mem_map.mpr ⟨_, hrow, ?_⟩
  simp only [UserUnread.isOf, Bool.and_eq_true, beq_iff_eq, and_true]
  by_cases huser : userid = userid'
  · rw [if_pos huser, if_pos huser.symm]
    rfl
  · rw [if_neg huser, if_neg (Ne.symm huser)]

/-- The node has its counter at `t`, and the user has a document with two numbers, the first
of which has not come to the counter. -/
structure UnreadInv (tonodeid userid : String) (t : ℕ) (unread readed : ℤ) (db : DocumentDb ω) :
    Prop where
  counter : CounterAt tonodeid t db.messageNodeCount
  indexed : Indexed db.userUnread
  row : .row userid tonodeid unread readed ∈ db.userUnread
  unread_le : unread ≤ max 1 ((t : ℤ) - 1)

omit [DecidableEq ω] in
/-- The numbers of the user are those of the document. -/
theorem UnreadInv.reportedUnread_iff {tonodeid userid : String} {t : ℕ} {unread readed : ℤ}
    {db : DocumentDb ω} (h : UnreadInv tonodeid userid t unread readed db) (k : ℤ) :
    ReportedUnread userid tonodeid k db.userUnread ↔ readed < k ∧ k ≤ unread := by
  constructor
  · rintro ⟨unread', readed', hrow', hlt, hle⟩
    have heq := List.inj_on_of_nodup_map h.indexed hrow' h.row rfl
    obtain ⟨-, -, rfl, rfl⟩ := UserUnread.row.inj heq
    exact ⟨hlt, hle⟩
  · rintro ⟨hlt, hle⟩
    exact ⟨unread, readed, h.row, hlt, hle⟩

/-- What a step leaves behind: a query raises the number of read messages over the end of its
range, a message raises that of posted messages to its own number. -/
structure StepDoes (ids : ObjectIds ω) (frd : AddFriend) (tonodeid userid : String) (t : ℕ)
    (unread readed : ℤ) (db : DocumentDb ω) (e : NodeEvent ω) (unread' readed' : ℤ) : Prop where
  inv : UnreadInv tonodeid userid (t + taken [e]) unread' readed'
    (nodeEventStep ids frd tonodeid db e)
  readed_lt_iff : ∀ k, readed' < k ↔ readed < k ∧ ∀ to' ∈ e.recorded userid, to' ≤ k
  unread_le : unread ≤ unread'
  posted : ∀ k, e.posted ids frd tonodeid userid db = some k →
    k = t ∧ (e.late = none → k ≤ unread') ∧ (e.late ≠ none → unread' = unread)

/-- A step keeps the invariant for the numbers that it leaves in the document. -/
theorem UnreadInv.step_of_row {tonodeid userid : String} {t : ℕ} {unread readed : ℤ}
    {db : DocumentDb ω} (h : UnreadInv tonodeid userid t unread readed db) (ids : ObjectIds ω)
    (frd : AddFriend) (e : NodeEvent ω) {unread' readed' : ℤ}
    (hrow : .row userid tonodeid unread' readed' ∈ (nodeEventStep ids frd tonodeid db e).userUnread)
    (hle : unread' ≤ max 1 ((t + taken [e] : ℕ) - 1 : ℤ)) :
    UnreadInv tonodeid userid (t + taken [e]) unread' readed'
      (nodeEventStep ids frd tonodeid db e) := by
  obtain ⟨hcounter, hkeys⟩ := h.counter.step ids frd e
  refine ⟨hcounter, ?_, hrow, hle⟩
  rw [Indexed, hkeys]
  exact h.indexed

/-- **A query** raises the number of read messages of the user that asks. -/
theorem UnreadInv.query {ids : ObjectIds ω} {frd : AddFriend} {tonodeid userid : String} {t : ℕ}
    {unread readed : ℤ} {db : DocumentDb ω}
    (h : UnreadInv tonodeid userid t unread readed db) (userid' : String)
    (fromincrementid toincrementid : ℤ) (fault : Option SystemError) :
    ∃ readed', StepDoes ids frd tonodeid userid t unread readed db
      (.query userid' fromincrementid toincrementid fault) unread readed' := by
  by_cases hrecorded : fault = none ∧
      QueryMessage.accepted ⟨tonodeid, fromincrementid, toincrementid⟩ = true
  · obtain ⟨rfl, haccepted⟩ := hrecorded
    have haccepted' : QueryMessage.accepted ⟨"", fromincrementid, toincrementid⟩ = true := haccepted
    refine ⟨if userid' = userid then max readed (toincrementid - 1) else readed,
      ⟨h.step_of_row ids frd _ ?_ h.unread_le, ?_, le_rfl, fun k hk => by cases hk⟩⟩
    · have hrow := row_updateReadedIncrement h.indexed h.row userid' (toincrementid - 1)
      simpa [nodeEventStep, dispatchQueryMessage, haccepted] using hrow
    · intro k
      by_cases huser : userid' = userid
      · have hrecorded : NodeEvent.recorded userid
            (.query userid' fromincrementid toincrementid none : NodeEvent ω) =
              some toincrementid := by
          simp [NodeEvent.recorded, NodeEvent.asked, huser, haccepted']
        rw [hrecorded, if_pos huser, max_lt_iff, Int.sub_one_lt_iff]
        simp only [Option.mem_def, Option.some.injEq, forall_eq']
      · simp [NodeEvent.recorded, NodeEvent.asked, huser]
  · -- nothing is written
    have hidle : nodeEventStep ids frd tonodeid db
        (.query userid' fromincrementid toincrementid fault) = db := by
      rw [nodeEventStep]
      unfold dispatchQueryMessage
      split
      · rename_i haccepted
        exact absurd ⟨rfl, haccepted⟩ hrecorded
      · rfl
    have hnone : NodeEvent.recorded userid
        (.query userid' fromincrementid toincrementid fault : NodeEvent ω) = none := by
      rw [NodeEvent.recorded, NodeEvent.asked, ite_eq_right_iff, Option.isNone_iff_eq_none]
      exact fun hfault => if_neg fun hasked => hrecorded ⟨hfault, hasked.2⟩
    refine ⟨readed, ⟨h.step_of_row ids frd _ (hidle.symm ▸ h.row) h.unread_le, fun k => ?_,
      le_rfl, fun k hk => by cases hk⟩⟩
    simp [hnone]

/-- **A message** raises the number of posted messages of the friend that it is for. -/
theorem UnreadInv.message {ids : ObjectIds ω} {frd : AddFriend} (hnames : ∀ b, frd.friend b ≠ "")
    {tonodeid userid : String} {t : ℕ} {unread readed : ℤ} {db : DocumentDb ω}
    (h : UnreadInv tonodeid userid t unread readed db) (toInvitee : Bool) (type : ℤ)
    (content : String) (id : ω) (fault : ℕ → Option SystemError) :
    ∃ unread', StepDoes ids frd tonodeid userid t unread readed db
      (.message toInvitee type content id fault) unread' readed := by
  rcases hr : Yijian.dispatchNodeMessage ids (frd.message tonodeid toInvitee type content) id fault
    db with ⟨r, db'⟩
  have hcounter : CounterAt (frd.message tonodeid toInvitee type content).tonodeid t
      db.messageNodeCount := h.counter
  have hstep : nodeEventStep ids frd tonodeid db (.message toInvitee type content id fault) = db' :=
    congrArg Prod.snd hr
  have hle := h.unread_le
  rcases (hcounter.dispatchNodeMessage hr).2 with ⟨rfl, hsame⟩ | ⟨rfl, htakes, hposted⟩
  · refine ⟨unread, ⟨h.step_of_row ids frd _ ?_ ?_, fun k => by simp [NodeEvent.recorded],
      le_rfl, fun k hk => ?_⟩⟩
    · rw [hstep, hsame]
      exact h.row
    · push_cast
      omega
    · simp [NodeEvent.posted, hr] at hk
  · have htaken : taken [NodeEvent.message toInvitee type content id fault] = 1 := by
      rw [taken, List.countP_singleton, NodeEvent.takes, htakes, if_pos rfl]
    refine ⟨if fault 2 = none ∧ frd.friend toInvitee = userid then max unread t else unread,
      ⟨h.step_of_row ids frd _ ?_ ?_, fun k => by simp [NodeEvent.recorded], ?_, fun k hk => ?_⟩⟩
    · rw [hstep, hposted]
      exact row_postMessage (m := ⟨frd.friend !toInvitee, tonodeid, frd.friend toInvitee, [], t,
        fault 2⟩) h.indexed (hnames toInvitee) h.row
    · rw [htaken]
      push_cast
      split <;> omega
    · split
      · exact le_max_left _ _
      · exact le_rfl
    · obtain ⟨huser, rfl⟩ : frd.friend toInvitee = userid ∧ (t : ℤ) = k := by
        simpa [NodeEvent.posted, hr] using hk
      refine ⟨rfl, fun hlate => ?_, fun hlate => if_neg fun h => hlate h.1⟩
      have hlate' : fault 2 = none := hlate
      rw [if_pos ⟨hlate', huser⟩]
      exact le_max_right _ _

/-- **A step** on the numbers of a user. -/
theorem UnreadInv.step {ids : ObjectIds ω} {frd : AddFriend} (hnames : ∀ b, frd.friend b ≠ "")
    {tonodeid userid : String} {t : ℕ} {unread readed : ℤ} {db : DocumentDb ω}
    (h : UnreadInv tonodeid userid t unread readed db) (e : NodeEvent ω) :
    ∃ unread' readed', StepDoes ids frd tonodeid userid t unread readed db e unread' readed' := by
  cases e with
  | query userid' fromincrementid toincrementid fault =>
      exact ⟨unread, h.query userid' fromincrementid toincrementid fault⟩
  | message toInvitee type content id fault =>
      obtain ⟨unread', hdoes⟩ := h.message hnames toInvitee type content id fault
      exact ⟨unread', readed, hdoes⟩

/-- **A run** on the numbers of a user. -/
theorem UnreadInv.run {ids : ObjectIds ω} {frd : AddFriend} (hnames : ∀ b, frd.friend b ≠ "")
    {tonodeid userid : String} {t : ℕ} {unread readed : ℤ} {db : DocumentDb ω}
    (h : UnreadInv tonodeid userid t unread readed db) (es : List (NodeEvent ω)) :
    ∃ unread' readed', UnreadInv tonodeid userid (t + taken es) unread' readed'
        (es.foldl (nodeEventStep ids frd tonodeid) db) ∧
      (∀ k, readed' < k ↔
        readed < k ∧ ∀ to' ∈ es.filterMap (NodeEvent.recorded userid), to' ≤ k) ∧
      unread ≤ unread' := by
  induction es generalizing t unread readed db with
  | nil => exact ⟨unread, readed, h, fun k => by simp, le_rfl⟩
  | cons e es ih =>
      obtain ⟨unread₁, readed₁, hdoes⟩ := h.step hnames e
      obtain ⟨unread₂, readed₂, hinv, hreaded, hunread⟩ := ih hdoes.inv
      rw [Nat.add_assoc, ← taken_append, List.singleton_append] at hinv
      refine ⟨unread₂, readed₂, hinv, fun k => ?_, hdoes.unread_le.trans hunread⟩
      rw [hreaded, hdoes.readed_lt_iff, and_assoc, and_congr_right_iff]
      intro _
      cases hrecorded : e.recorded userid with
      | none => simp [hrecorded]
      | some to' => simp [hrecorded]

/-! ### A friendship -/

/-- `addFriend` creates a node whose counter stands at 1: the request has the number 0. -/
theorem counterAt_addFriend {ids : ObjectIds ω} {frd : AddFriend} {nodeId msgId : ω}
    {db db' : DocumentDb ω} {res : AddFriendRes}
    (h : MongoClient.addFriend ids frd nodeId msgId db = .ok (res, db')) :
    CounterAt (ids.toText nodeId) 1 db'.messageNodeCount ∧ db'.userUnread = db.userUnread := by
  simp only [MongoClient.addFriend, mapError_eq_ok, bind_eq_ok] at h
  obtain ⟨_, -, _, -, _, -, counts, hcounts, addFriend, -, ⟨res', db₁⟩, hinsert, hrfl⟩ := h
  obtain ⟨-, rfl⟩ := Prod.mk.inj (Except.ok.inj hrfl)
  obtain ⟨hfree, rfl⟩ := insertDoc_ok.mp hcounts
  rw [MongoClient.insertMessage_eq, mapError_eq_ok] at hinsert
  obtain ⟨k, htake, hstore⟩ := bind_eq_ok.mp hinsert
  obtain ⟨hcounts', hunread'⟩ := storeMessage_frame hstore
  have hnew : CounterAt (ids.toText nodeId) 0 (db.messageNodeCount ++
      [[("nodeID", .utf8 (ids.toText nodeId)), ("count", .int32 0)]]) := by
    refine ⟨[("nodeID", .utf8 (ids.toText nodeId)), ("count", .int32 0)], ?_, 0, rfl, rfl⟩
    rw [lookup_append_singleton, lookup_eq_none_iff.mpr, Option.none_or]
    · exact if_pos rfl
    · rintro hmem
      obtain ⟨doc, hdoc, hkey⟩ := List.mem_map.mp hmem
      exact hfree doc hdoc (decide_eq_true hkey)
  obtain ⟨hcounter, hunread, -⟩ := CounterAt.take hnew (Prod.ext htake rfl)
  exact ⟨hcounts' ▸ hcounter, hunread'.trans hunread⟩

omit [DecidableEq ω] in
/-- The request is found by its users, and has the node. -/
theorem findRequest_addFriend {frd : AddFriend} {n : String} {db db' : FriendDb ω}
    {res : AddFriendRes} (h : Yijian.addFriend frd n (fun _ => none) db = (.ok res, db')) :
    ∃ doc, findRequest frd.inviterID frd.inviteeID db' = some doc ∧ doc.toNodeID = n := by
  have hrun : run (fun _ => none) (addFriendOps frd n) db = (.ok (), db') := by
    rw [Yijian.addFriend] at h
    split at h
    · cases h
    · rename_i db₁ hdb₁
      rw [hdb₁, (Prod.mk.inj h).2]
  simp only [addFriendOps, run_cons_eq_ok, true_and] at hrun
  obtain ⟨db₁, hinsert, db₂, hnode, db₃, hstatus, hrfl⟩ := hrun
  obtain ⟨-, rfl⟩ := Prod.mk.inj hrfl
  obtain rfl := Except.ok.inj hnode
  obtain rfl := Except.ok.inj hstatus
  rw [insertRequest, insertUnique] at hinsert
  split at hinsert
  · cases hinsert
  · rename_i docs hdocs
    split at hdocs
    · cases hdocs
    · rename_i hfresh
      obtain rfl := Option.some.inj hdocs
      obtain rfl := Except.ok.inj hinsert
      have hfind : findOne (hasKey (littleIDBigID frd.inviterID frd.inviteeID)) db.addFriend =
          none :=
        lookup_eq_none_iff.mpr hfresh
      rw [findRequest, findOne_updateOne, findOne_updateOne, findOne, List.find?_append, ← findOne,
        hfind, Option.none_or, List.find?_singleton, hasKey, if_pos (beq_self_eq_true _)]
      · exact ⟨_, rfl, rfl⟩
      · exact fun _ hdoc => hdoc
      · exact fun _ hdoc => hdoc

/-- **`addFriend`** leaves the counter of the node at 1, and the request with the node. -/
theorem Chatdb.addFriend_ok {ids : ObjectIds ω} {frd : AddFriend} {nodeId msgId : ω}
    {start made : Chatdb ω} (h : start.addFriend ids frd nodeId msgId = .ok made) :
    CounterAt (ids.toText nodeId) 1 made.store.messageNodeCount ∧
      made.store.userUnread = start.store.userUnread ∧
      ∃ doc, findRequest frd.inviterID frd.inviteeID made.friend = some doc ∧
        doc.toNodeID = ids.toText nodeId := by
  rw [Chatdb.addFriend] at h
  split at h
  · rename_i res store res' friend hstore hfriend
    obtain rfl := Except.ok.inj h
    obtain ⟨hcounter, hunread⟩ := counterAt_addFriend hstore
    exact ⟨hcounter, hunread, findRequest_addFriend hfriend⟩
  · cases h
  · cases h

/-- **`addFriendAuthorize`** leaves a document of either friend. -/
theorem Chatdb.addFriendAuthorize_ok {ids : ObjectIds ω} {frd : AddFriend} {db db' : Chatdb ω}
    (h : db.addFriendAuthorize ids frd = .ok db') :
    db'.store.messageNodeCount = db.store.messageNodeCount ∧
      ∃ doc, findRequest frd.inviterID frd.inviteeID db.friend = some doc ∧
        db'.store.userUnread = insertUnreadNode none frd.inviteeID doc.toNodeID
          (insertUnreadNode none frd.inviterID doc.toNodeID db.store.userUnread) := by
  rw [Chatdb.addFriendAuthorize] at h
  split at h
  · rename_i g hgraph
    obtain rfl := Except.ok.inj h
    obtain ⟨doc, hfind, hrows⟩ := graphAuthorize_ok (congrArg Prod.fst hgraph)
    rw [hgraph] at hrows
    exact ⟨rfl, doc, hfind, hrows⟩
  · cases h

omit [DecidableEq ω] in
/-- The document of a user in a new node starts with 1 and 1, and is there once. -/
theorem row_insertUnreadNode {docs : List UserUnread} {userid tonodeid : String}
    (hfresh : some (userid, tonodeid) ∉ docs.map UserUnread.key) (userid' : String) :
    .row userid tonodeid 1 1 ∈ insertUnreadNode none userid' tonodeid
      (insertUnreadNode none userid tonodeid docs) ∧
    .row userid tonodeid 1 1 ∈ insertUnreadNode none userid tonodeid
      (insertUnreadNode none userid' tonodeid docs) := by
  have hkeep : ∀ (docs : List UserUnread) (doc : UserUnread) (userid : String), doc ∈ docs →
      doc ∈ insertUnreadNode none userid tonodeid docs := by
    intro docs doc userid hdoc
    rw [insertUnreadNode, insertUnique]
    split
    · exact hdoc
    · exact List.mem_append_left _ hdoc
  have hnew : ∀ docs : List UserUnread, some (userid, tonodeid) ∉ docs.map UserUnread.key →
      .row userid tonodeid 1 1 ∈ insertUnreadNode none userid tonodeid docs := by
    intro docs hfresh
    rw [insertUnreadNode, insertUnique, UserUnread.key, if_neg hfresh]
    exact List.mem_append_right _ List.mem_cons_self
  refine ⟨hkeep _ _ _ (hnew docs hfresh), ?_⟩
  by_cases huser : userid' = userid
  · rw [huser]
    exact hkeep _ _ _ (hnew docs hfresh)
  · refine hnew _ fun hkey => ?_
    rcases mem_keys_insertUnreadNode.mp hkey with hold | ⟨-, hsame⟩
    · exact hfresh hold
    · exact huser (Prod.mk.inj (Option.some.inj hsame)).1.symm

/-- Two friends in a node of their own: `addFriend` has made the node, messages and queries may
have gone there already, and `addFriendAuthorize` has completed the friendship. The node is
new, and the ids of the friends are not empty, as `dispatch(chat::AddFriend&)` checks. -/
structure Friendship (ids : ObjectIds ω) where
  frd : AddFriend
  nodeId : ω
  msgId : ω
  start : Chatdb ω
  made : Chatdb ω
  before : List (NodeEvent ω)
  agreed : Chatdb ω
  indexed : Indexed start.store.userUnread
  fresh : ∀ userid, some (userid, ids.toText nodeId) ∉ start.store.userUnread.map UserUnread.key
  names : ∀ b, frd.friend b ≠ ""
  added : start.addFriend ids frd nodeId msgId = .ok made
  authorized : Chatdb.addFriendAuthorize ids frd
    ⟨made.friend, before.foldl (nodeEventStep ids frd (ids.toText nodeId)) made.store⟩ = .ok agreed

namespace Friendship

variable {ids : ObjectIds ω}

/-- The node of the two. -/
def node (f : Friendship ids) : String := ids.toText f.nodeId

/-- The documents after a run of messages and queries. -/
def after (f : Friendship ids) (es : List (NodeEvent ω)) : DocumentDb ω :=
  es.foldl (nodeEventStep ids f.frd f.node) f.agreed.store

/-- The number of the next message. -/
def next (f : Friendship ids) (es : List (NodeEvent ω)) : ℕ := 1 + taken (f.before ++ es)

/-- Either of the friends starts with 1 and 1. -/
theorem inv_agreed (f : Friendship ids) (toInvitee : Bool) :
    UnreadInv f.node (f.frd.friend toInvitee) (f.next []) 1 1 f.agreed.store := by
  obtain ⟨hcounter, hunread, doc, hfind, hnode⟩ := Chatdb.addFriend_ok f.added
  obtain ⟨hcounts, doc', hfind', hrows⟩ := Chatdb.addFriendAuthorize_ok f.authorized
  obtain rfl := Option.some.inj (hfind.symm.trans hfind')
  obtain ⟨hcounter', hkeys⟩ := hcounter.run ids f.frd f.before
  rw [hunread] at hkeys
  rw [hnode] at hrows
  have hfresh := f.fresh (f.frd.friend toInvitee)
  rw [← hkeys] at hfresh
  refine ⟨?_, ?_, ?_, le_max_left _ _⟩
  · rw [hcounts, next, List.append_nil]
    exact hcounter'
  · rw [hrows]
    refine Indexed.insertUnreadNode (Indexed.insertUnreadNode ?_ _ _) _ _
    rw [Indexed, hkeys]
    exact f.indexed
  · rw [hrows]
    cases toInvitee with
    | true => exact (row_insertUnreadNode hfresh f.frd.inviterID).2
    | false => exact (row_insertUnreadNode hfresh f.frd.inviteeID).1

/-- **The numbers of a friend** after any run of messages and queries. -/
theorem inv_after (f : Friendship ids) (toInvitee : Bool) (es : List (NodeEvent ω)) :
    ∃ unread readed,
      UnreadInv f.node (f.frd.friend toInvitee) (f.next es) unread readed (f.after es) ∧
        ∀ k, readed < k ↔
          1 < k ∧ ∀ to' ∈ es.filterMap (NodeEvent.recorded (f.frd.friend toInvitee)), to' ≤ k := by
  obtain ⟨unread, readed, hinv, hreaded, -⟩ := (f.inv_agreed toInvitee).run f.names es
  have hnext : f.next [] + taken es = f.next es := by
    rw [next, next, List.append_nil, taken_append, Nat.add_assoc]
  rw [hnext] at hinv
  exact ⟨unread, readed, hinv, hreaded⟩

/-- **Every unseen message is reported unread**: from when it is posted to the friend until the
friend makes an accepted query beyond it. -/
def UnseenReported (f : Friendship ids) (toInvitee : Bool) (es : List (NodeEvent ω)) : Prop :=
  ∀ es₁ e es₂ es₃ k, es = es₁ ++ e :: es₂ ++ es₃ →
    e.posted ids f.frd f.node (f.frd.friend toInvitee) (f.after es₁) = some k →
    (∀ to' ∈ es₂.filterMap (NodeEvent.asked (f.frd.friend toInvitee)), to' ≤ k) →
    ReportedUnread (f.frd.friend toInvitee) f.node k (f.after (es₁ ++ e :: es₂)).userUnread

/-- The condition on the messages to the friend: another message has been posted to the node
already, nothing is thrown on the way to the unread number, and no query of the friend has been
recorded that goes beyond the message. -/
def PostsFit (f : Friendship ids) (toInvitee : Bool) (es : List (NodeEvent ω)) : Prop :=
  ∀ es₁ e es₂ k, es = es₁ ++ e :: es₂ →
    e.posted ids f.frd f.node (f.frd.friend toInvitee) (f.after es₁) = some k →
    0 < taken (f.before ++ es₁) ∧ e.late = none ∧
      ∀ to' ∈ es₁.filterMap (NodeEvent.recorded (f.frd.friend toInvitee)),
        to' ≤ (f.next es₁ : ℤ)

/-- A run behind a run. -/
theorem after_append (f : Friendship ids) (es es' : List (NodeEvent ω)) :
    f.after (es ++ es') = es'.foldl (nodeEventStep ids f.frd f.node) (f.after es) :=
  List.foldl_append

/-- **When a message is posted** it is reported unread under the condition. -/
theorem reportedUnread_posted (f : Friendship ids) {toInvitee : Bool} {es₁ : List (NodeEvent ω)}
    {e : NodeEvent ω} {k : ℤ}
    (hposted : e.posted ids f.frd f.node (f.frd.friend toInvitee) (f.after es₁) = some k) :
    ReportedUnread (f.frd.friend toInvitee) f.node k (f.after (es₁ ++ [e])).userUnread ↔
      0 < taken (f.before ++ es₁) ∧ e.late = none ∧
        ∀ to' ∈ es₁.filterMap (NodeEvent.recorded (f.frd.friend toInvitee)),
          to' ≤ (f.next es₁ : ℤ) := by
  obtain ⟨unread, readed, hinv, hreaded⟩ := f.inv_after toInvitee es₁
  obtain ⟨unread', readed', hdoes⟩ := hinv.step f.names e
  obtain ⟨rfl, hkept, hlate⟩ := hdoes.posted k hposted
  have hnone : e.recorded (f.frd.friend toInvitee) = none := by
    cases e with
    | message toInvitee' type content id fault => rfl
    | query userid fromincrementid toincrementid fault => cases hposted
  have hlt : 0 < taken (f.before ++ es₁) ↔ (1 : ℤ) < f.next es₁ := by
    rw [next]
    omega
  have hle := hinv.unread_le
  rw [after_append, List.foldl_cons, List.foldl_nil, hdoes.inv.reportedUnread_iff,
    hdoes.readed_lt_iff, hreaded, hnone, hlt]
  constructor
  · rintro ⟨⟨⟨hsecond, hrecorded⟩, -⟩, hunread'⟩
    refine ⟨hsecond, ?_, hrecorded⟩
    by_contra hthrown
    have hsame := hlate hthrown
    omega
  · rintro ⟨hsecond, hnotlate, hrecorded⟩
    exact ⟨⟨⟨hsecond, hrecorded⟩, fun _ hnil => nomatch hnil⟩, hkept hnotlate⟩

/-- **A message that is reported unread** stays so until a query beyond it. -/
theorem reportedUnread_append (f : Friendship ids) {toInvitee : Bool}
    {es es' : List (NodeEvent ω)} {k : ℤ}
    (h : ReportedUnread (f.frd.friend toInvitee) f.node k (f.after es).userUnread)
    (hunseen : ∀ to' ∈ es'.filterMap (NodeEvent.asked (f.frd.friend toInvitee)), to' ≤ k) :
    ReportedUnread (f.frd.friend toInvitee) f.node k (f.after (es ++ es')).userUnread := by
  obtain ⟨unread, readed, hinv, -⟩ := f.inv_after toInvitee es
  obtain ⟨unread', readed', hinv', hreaded', hle⟩ := hinv.run f.names es'
  obtain ⟨hlt, hunread⟩ := (hinv.reportedUnread_iff k).mp h
  rw [after_append]
  refine (hinv'.reportedUnread_iff k).mpr ⟨(hreaded' k).mpr ⟨hlt, fun to' hto' => ?_⟩,
    hunread.trans hle⟩
  obtain ⟨e, he, hrecorded⟩ := List.mem_filterMap.mp hto'
  exact hunseen to' (List.mem_filterMap.mpr ⟨e, he, asked_of_recorded hrecorded⟩)

/-- **The runs in which every unseen message is reported unread.** -/
theorem unseen_reported_iff (f : Friendship ids) (toInvitee : Bool) (es : List (NodeEvent ω)) :
    f.UnseenReported toInvitee es ↔ f.PostsFit toInvitee es := by
  constructor
  · intro h es₁ e es₂ k heq hposted
    rw [← f.reportedUnread_posted hposted]
    exact h es₁ e [] es₂ k (by simp [heq]) hposted fun _ hnil => nomatch hnil
  · intro h es₁ e es₂ es₃ k heq hposted hunseen
    have hfit := h es₁ e (es₂ ++ es₃) k (by simp [heq]) hposted
    have hreported := f.reportedUnread_append ((f.reportedUnread_posted hposted).mpr hfit) hunseen
    rwa [List.append_assoc, List.singleton_append] at hreported

end Friendship

/-! ### The first message -/

def hexNode : HexText := ⟨"000000000000000000000001", by decide⟩

def hexRequest : HexText := ⟨"000000000000000000000002", by decide⟩

def hexHello : HexText := ⟨"000000000000000000000003", by decide⟩

/-- Users of any id, and no requests. -/
def strangers : Chatdb HexText := ⟨⟨fun _ => some ⟨[], [], 1⟩, []⟩, StoreRun.new.db⟩

/-- The first user asks the second. -/
def friendRequest : AddFriend := ⟨idA, idB, "hi"⟩

/-- The request is made. -/
def requestMade : Chatdb HexText :=
  ((strangers.addFriend hexIds friendRequest hexNode hexRequest).toOption).getD strangers

/-- The second user agrees. -/
def requestAgreed : Chatdb HexText :=
  ((requestMade.addFriendAuthorize hexIds friendRequest).toOption).getD strangers

/-- The two are friends, and nothing has been said. -/
def newFriends : Friendship hexIds where
  frd := friendRequest
  nodeId := hexNode
  msgId := hexRequest
  start := strangers
  made := requestMade
  before := []
  agreed := requestAgreed
  indexed := List.nodup_nil
  fresh := fun _ hkey => nomatch hkey
  names := by decide
  added := rfl
  authorized := rfl

/-- The first user says hello. -/
def saysHello : NodeEvent HexText := .message true mediaText "hello" hexHello fun _ => none

/-- The first message to a friend has the number 1, and counts as read. -/
theorem not_unseen_reported : ¬ newFriends.UnseenReported true [saysHello] := by
  intro h
  have hposted : saysHello.posted hexIds newFriends.frd newFriends.node
      (newFriends.frd.friend true) (newFriends.after []) = some 1 := rfl
  have hreported := h [] saysHello [] [] 1 rfl hposted fun _ hnil => nomatch hnil
  exact absurd ((newFriends.reportedUnread_posted hposted).mp hreported).1 (by decide)

end Yijian
