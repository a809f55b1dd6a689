import Mathlib.Data.List.Perm.Basic
import Yijian.Buffer
import Yijian.Lib.Documents
import Yijian.Lib.Runs

/-!
# Unread Messages

The collection `userUnread` has a document for each member of a node: the number of the last
message posted there, and that of the last one read. Posting raises the first on the
documents of the other members, reading the second on the own document; a message to a node
and a message to a single user do it by different updates.

## Convention

A post is a message that has got its number, to a node with its members or to one user. A document
is found by the user and the node. The updates of one document never lower a number, since they
take a document only where its number is below the new one; those that fail the condition are the
updates of many documents, which take the members as their filter and forget the node. A failure of
an update is caught inside and leaves the numbers as they were. That the order does not matter is
stated for any two orders of the same events, where both meet the condition.

## Main results

* `updateReadedIncrement_eq`, `updateUnreadIncrement_eq`: what the updates of one document do.
* `postKept_iff`: what it takes for a post to raise the numbers of its recipients only.
* `unread_posts_iff`: the runs whose posts do, and that their order does not matter.
* `not_unread_posts`: a post to a node overwrites the numbers of other nodes.
-/

namespace Yijian

open Documents Runs

/-! ### The collection -/

/-- A document of the collection `userUnread`. The bulk writes of the groups put the fields
into a document under the name `insertOne`, where no index and no filter sees them. -/
inductive UserUnread
  | row (userID toNodeID : String) (unreadIncrement readedIncrement : ℤ)
  | insertOne (userID toNodeID : String) (unreadIncrement readedIncrement : ℤ)
deriving DecidableEq

/-- What the unique index on `userID` and `toNodeID` sees; a missing field is null. -/
def UserUnread.key : UserUnread → Option (String × String)
  | .row userID toNodeID _ _ => some (userID, toNodeID)
  | .insertOne _ _ _ _ => none

/-- The unique index is enforced. -/
def Indexed (docs : List UserUnread) : Prop := (docs.map UserUnread.key).Nodup

instance (docs : List UserUnread) : Decidable (Indexed docs) :=
  inferInstanceAs (Decidable (docs.map UserUnread.key).Nodup)

/-- `$set` of `unreadIncrement`. -/
def UserUnread.setUnread (k : ℤ) : UserUnread → UserUnread
  | .row userID toNodeID _ readed => .row userID toNodeID k readed
  | doc => doc

/-- `$set` of `readedIncrement`. -/
def UserUnread.setReaded (k : ℤ) : UserUnread → UserUnread
  | .row userID toNodeID unread _ => .row userID toNodeID unread k
  | doc => doc

/-- `updateReadedIncrement`. -/
def updateReadedIncrement (userid tonodeid : String) (readedIncrement : ℤ) :
    List UserUnread → List UserUnread :=
  updateOne (fun
    | .row userID toNodeID _ readed =>
        userID == userid && toNodeID == tonodeid && decide (readed < readedIncrement)
    | .insertOne _ _ _ _ => false) (UserUnread.setReaded readedIncrement)

/-- `updateUnreadIncrement` of a single user. -/
def updateUnreadIncrement (userid tonodeid : String) (unreadIncrement : ℤ) :
    List UserUnread → List UserUnread :=
  updateOne (fun
    | .row userID toNodeID unread _ =>
        userID == userid && toNodeID == tonodeid && decide (unread < unreadIncrement)
    | .insertOne _ _ _ _ => false) (UserUnread.setUnread unreadIncrement)

/-- `updateUnreadIncrement` of a list of members: `tonodeid` is not used. -/
def updateUnreadIncrements (userids : List String) (currentUserid _tonodeid : String)
    (unreadIncrement : ℤ) : List UserUnread → List UserUnread :=
  updateMany (fun
    | .row userID _ _ _ => (userids.filter (· ≠ currentUserid)).contains userID
    | .insertOne _ _ _ _ => false) (UserUnread.setUnread unreadIncrement)

/-! ### Posting and reading -/

/-- A message that `fromuserid` has posted to `tonodeid` under the number `incrementid`;
`members` are those of the node. `failure` is what an operation throws before the unread
numbers are updated, or the update itself, which goes no further. -/
structure Post where
  fromuserid : String
  tonodeid : String
  touserid_outer : String
  members : List String
  incrementid : ℤ
  failure : Option SystemError

/-- What `dispatch(chat::NodeMessage&)` does to the unread numbers once the message is
stored. -/
def postMessage (m : Post) (docs : List UserUnread) : List UserUnread :=
  match m.failure with
  | some _ => docs
  | none =>
      if m.touserid_outer = "" then
        updateUnreadIncrements m.members m.fromuserid m.tonodeid m.incrementid docs
      else updateUnreadIncrement m.touserid_outer m.tonodeid m.incrementid docs

/-- A post, or a query of the messages below `toincrementid`. -/
inductive UnreadEvent
  | post (m : Post)
  | read (userid tonodeid : String) (toincrementid : ℤ)

/-- One step on the collection. -/
def unreadStep (docs : List UserUnread) : UnreadEvent → List UserUnread
  | .post m => postMessage m docs
  | .read userid tonodeid toincrementid =>
      updateReadedIncrement userid tonodeid (toincrementid - 1) docs

/-! ### What they are for -/

/-- The users that a message is for. -/
def Post.recipients (m : Post) : List String :=
  if m.touserid_outer = "" then m.members else [m.touserid_outer]

/-- The document is that of a recipient, in the node of the message. -/
def Post.concerns (m : Post) : UserUnread → Bool
  | .row userID toNodeID _ _ =>
      toNodeID == m.tonodeid && m.recipients.contains userID && userID != m.fromuserid
  | .insertOne _ _ _ _ => false

/-- `unreadIncrement` is raised to a number. -/
def UserUnread.raiseUnread (k : ℤ) : UserUnread → UserUnread
  | .row userID toNodeID unread readed => .row userID toNodeID (max unread k) readed
  | doc => doc

/-- `readedIncrement` is raised to a number. -/
def UserUnread.raiseReaded (k : ℤ) : UserUnread → UserUnread
  | .row userID toNodeID unread readed => .row userID toNodeID unread (max readed k)
  | doc => doc

/-- The document is that of the user in the node. -/
def UserUnread.isOf (userid tonodeid : String) : UserUnread → Bool
  | .row userID toNodeID _ _ => userID == userid && toNodeID == tonodeid
  | .insertOne _ _ _ _ => false

/-- A post raises the unread numbers of its recipients in its node, reading raises the own
number. -/
def unreadSpec (docs : List UserUnread) : UnreadEvent → List UserUnread
  | .post m => updateMany m.concerns (UserUnread.raiseUnread m.incrementid) docs
  | .read userid tonodeid toincrementid =>
      updateMany (UserUnread.isOf userid tonodeid) (UserUnread.raiseReaded (toincrementid - 1))
        docs

/-! ### The updates of a single document -/

/-- The document of a user in a node is the only one that a filter on the two finds. -/
theorem updateOne_isOf {docs : List UserUnread} (h : Indexed docs) {userid tonodeid : String}
    {p : UserUnread → Bool} {f g : UserUnread → UserUnread}
    (hp : ∀ doc, p doc = true → UserUnread.isOf userid tonodeid doc = true)
    (hg : ∀ doc, (if p doc then f doc else doc) =
      if UserUnread.isOf userid tonodeid doc then g doc else doc) :
    updateOne p f docs = updateMany (UserUnread.isOf userid tonodeid) g docs := by
  have hkey : ∀ doc, p doc = true → doc.key = some (userid, tonodeid) := by
    intro doc hdoc
    have hof := hp doc hdoc
    cases doc with
    | row userID toNodeID unread readed =>
        rw [UserUnread.isOf, Bool.and_eq_true, beq_iff_eq, beq_iff_eq] at hof
        rw [UserUnread.key, hof.1, hof.2]
    | insertOne userID toNodeID unread readed => cases hof
  rw [updateOne_eq_updateMany h hkey, updateMany_inj]
  exact fun doc _ => hg doc

/-- Reading raises the own number. -/
theorem updateReadedIncrement_eq {docs : List UserUnread} (h : Indexed docs)
    (userid tonodeid : String) (k : ℤ) :
    updateReadedIncrement userid tonodeid k docs =
      updateMany (UserUnread.isOf userid tonodeid) (UserUnread.raiseReaded k) docs := by
  refine updateOne_isOf h ?_ ?_
  · intro doc hdoc
    cases doc with
    | row userID toNodeID unread readed => exact (Bool.and_eq_true_iff.mp hdoc).1
    | insertOne userID toNodeID unread readed => cases hdoc
  · intro doc
    cases doc with
    | row userID toNodeID unread readed =>
        simp only [UserUnread.isOf, UserUnread.setReaded, UserUnread.raiseReaded]
        by_cases hlt : readed < k
        · simp [hlt, max_eq_right hlt.le]
        · simp [hlt, max_eq_left (not_lt.mp hlt)]
    | insertOne userID toNodeID unread readed => rfl

/-- A message to a single user raises the number of that user. -/
theorem updateUnreadIncrement_eq {docs : List UserUnread} (h : Indexed docs)
    (userid tonodeid : String) (k : ℤ) :
    updateUnreadIncrement userid tonodeid k docs =
      updateMany (UserUnread.isOf userid tonodeid) (UserUnread.raiseUnread k) docs := by
  refine updateOne_isOf h ?_ ?_
  · intro doc hdoc
    cases doc with
    | row userID toNodeID unread readed => exact (Bool.and_eq_true_iff.mp hdoc).1
    | insertOne userID toNodeID unread readed => cases hdoc
  · intro doc
    cases doc with
    | row userID toNodeID unread readed =>
        simp only [UserUnread.isOf, UserUnread.setUnread, UserUnread.raiseUnread]
        by_cases hlt : unread < k
        · simp [hlt, max_eq_right hlt.le]
        · simp [hlt, max_eq_left (not_lt.mp hlt)]
    | insertOne userID toNodeID unread readed => rfl

/-! ### What it takes -/

/-- A step does what it is for. -/
def PostKept (docs : List UserUnread) (e : UnreadEvent) : Prop :=
  unreadStep docs e = unreadSpec docs e

instance (docs : List UserUnread) (e : UnreadEvent) : Decidable (PostKept docs e) :=
  inferInstanceAs (Decidable (unreadStep docs e = unreadSpec docs e))

/-- What it takes for a post to raise the numbers of its recipients only: where nothing is
updated, they are as high already; where a node is addressed, its recipients have no other
number in any other node, and none that is higher in the node itself; where a user is
addressed, it is another one, or has a number as high. -/
def PostOk (docs : List UserUnread) : UnreadEvent → Prop
  | .read _ _ _ => True
  | .post m =>
      ∀ userID toNodeID unread readed, .row userID toNodeID unread readed ∈ docs →
        match m.failure with
        | some _ => m.concerns (.row userID toNodeID unread readed) = true → m.incrementid ≤ unread
        | none =>
            if m.touserid_outer = "" then
              userID ∈ m.members → userID ≠ m.fromuserid →
                if toNodeID = m.tonodeid then unread ≤ m.incrementid else unread = m.incrementid
            else
              m.touserid_outer = m.fromuserid → userID = m.fromuserid →
                toNodeID = m.tonodeid → m.incrementid ≤ unread

/-- A row is left alone if its number is as high already. -/
theorem raiseUnread_eq_self_iff {k : ℤ} {userID toNodeID : String} {unread readed : ℤ} :
    UserUnread.raiseUnread k (.row userID toNodeID unread readed) =
      .row userID toNodeID unread readed ↔ k ≤ unread := by
  simp [UserUnread.raiseUnread]

/-- One document, in a post to a node. -/
theorem node_row_iff {m : Post} (houter : m.touserid_outer = "") {userID toNodeID : String}
    {unread readed : ℤ} :
    (if (m.members.filter (· ≠ m.fromuserid)).contains userID then
        UserUnread.setUnread m.incrementid (.row userID toNodeID unread readed)
      else .row userID toNodeID unread readed) =
        (if m.concerns (.row userID toNodeID unread readed) then
          UserUnread.raiseUnread m.incrementid (.row userID toNodeID unread readed)
        else .row userID toNodeID unread readed) ↔
      (userID ∈ m.members → userID ≠ m.fromuserid →
        if toNodeID = m.tonodeid then unread ≤ m.incrementid else unread = m.incrementid) := by
  have hconcerns : m.concerns (.row userID toNodeID unread readed) = true ↔
      toNodeID = m.tonodeid ∧ userID ∈ m.members ∧ userID ≠ m.fromuserid := by
    simp [Post.concerns, Post.recipients, houter, and_assoc]
  have hmember : (m.members.filter (· ≠ m.fromuserid)).contains userID = true ↔
      userID ∈ m.members ∧ userID ≠ m.fromuserid := by
    simp
  simp only [hconcerns, hmember]
  by_cases hmem : userID ∈ m.members ∧ userID ≠ m.fromuserid
  · by_cases hnode : toNodeID = m.tonodeid
    · simp [hmem, hnode, UserUnread.setUnread, UserUnread.raiseUnread]
    · simp [hmem, hnode, UserUnread.setUnread, eq_comm]
  · rw [if_neg hmem, if_neg fun h => hmem h.2]
    exact iff_of_true rfl fun h h' => absurd ⟨h, h'⟩ hmem

/-- One document, in a post to a user. -/
theorem user_row_iff {m : Post} (houter : m.touserid_outer ≠ "") {userID toNodeID : String}
    {unread readed : ℤ} :
    (if UserUnread.isOf m.touserid_outer m.tonodeid (.row userID toNodeID unread readed) then
        UserUnread.raiseUnread m.incrementid (.row userID toNodeID unread readed)
      else .row userID toNodeID unread readed) =
        (if m.concerns (.row userID toNodeID unread readed) then
          UserUnread.raiseUnread m.incrementid (.row userID toNodeID unread readed)
        else .row userID toNodeID unread readed) ↔
      (m.touserid_outer = m.fromuserid → userID = m.fromuserid → toNodeID = m.tonodeid →
        m.incrementid ≤ unread) := by
  have hconcerns : m.concerns (.row userID toNodeID unread readed) = true ↔
      toNodeID = m.tonodeid ∧ userID = m.touserid_outer ∧ userID ≠ m.fromuserid := by
    simp [Post.concerns, Post.recipients, houter, and_assoc]
  have hof : UserUnread.isOf m.touserid_outer m.tonodeid (.row userID toNodeID unread readed) =
      true ↔ userID = m.touserid_outer ∧ toNodeID = m.tonodeid := by
    simp [UserUnread.isOf]
  simp only [hconcerns, hof]
  by_cases hrow : userID = m.touserid_outer ∧ toNodeID = m.tonodeid
  · obtain ⟨rfl, rfl⟩ := hrow
    by_cases hself : m.touserid_outer = m.fromuserid
    · rw [if_pos ⟨rfl, rfl⟩, if_neg fun h => h.2.2 hself, raiseUnread_eq_self_iff]
      exact ⟨fun h _ _ _ => h, fun h => h hself hself rfl⟩
    · rw [if_pos ⟨rfl, rfl⟩, if_pos ⟨rfl, rfl, hself⟩]
      exact iff_of_true rfl fun h => absurd h hself
  · rw [if_neg hrow, if_neg fun h => hrow ⟨h.2.1, h.1⟩]
    exact iff_of_true rfl fun h h' h'' => absurd ⟨h'.trans h.symm, h''⟩ hrow

/-- What holds of all documents holds of all rows, if the others have it. -/
theorem forall_row_iff {docs : List UserUnread} {P : UserUnread → Prop}
    (hinsertOne : ∀ userID toNodeID unread readed, P (.insertOne userID toNodeID unread readed)) :
    (∀ doc ∈ docs, P doc) ↔ ∀ userID toNodeID unread readed,
      UserUnread.row userID toNodeID unread readed ∈ docs →
        P (.row userID toNodeID unread readed) := by
  constructor
  · intro h userID toNodeID unread readed hdoc
    exact h _ hdoc
  · intro h doc hdoc
    cases doc with
    | row userID toNodeID unread readed => exact h userID toNodeID unread readed hdoc
    | insertOne userID toNodeID unread readed => exact hinsertOne userID toNodeID unread readed

/-- **What a post needs**, in any state of the collection. -/
theorem postKept_iff {docs : List UserUnread} (h : Indexed docs) (e : UnreadEvent) :
    PostKept docs e ↔ PostOk docs e := by
  cases e with
  | read userid tonodeid toincrementid =>
      exact iff_of_true (updateReadedIncrement_eq h userid tonodeid _) trivial
  | post m =>
      simp only [PostKept, PostOk, unreadStep, unreadSpec, postMessage]
      cases m.failure with
      | some e =>
          rw [eq_comm, updateMany_eq_self_iff, forall_row_iff (by intros; rfl)]
          simp only [raiseUnread_eq_self_iff]
      | none =>
          simp only
          by_cases houter : m.touserid_outer = ""
          · simp only [if_pos houter]
            rw [updateUnreadIncrements, updateMany_inj, forall_row_iff (by intros; rfl)]
            refine forall₅_congr fun userID toNodeID unread readed _ => ?_
            exact node_row_iff houter
          · simp only [if_neg houter]
            rw [updateUnreadIncrement_eq h, updateMany_inj, forall_row_iff (by intros; rfl)]
            refine forall₅_congr fun userID toNodeID unread readed _ => ?_
            exact user_row_iff houter

/-! ### Runs -/

/-- An unread number leaves the key. -/
theorem key_setUnread (k : ℤ) (doc : UserUnread) : (doc.setUnread k).key = doc.key := by
  cases doc <;> rfl

/-- A read number leaves the key. -/
theorem key_setReaded (k : ℤ) (doc : UserUnread) : (doc.setReaded k).key = doc.key := by
  cases doc <;> rfl

/-- The steps leave the keys of the documents as they are. -/
theorem keys_unreadStep (docs : List UserUnread) (e : UnreadEvent) :
    (unreadStep docs e).map UserUnread.key = docs.map UserUnread.key := by
  cases e with
  | read userid tonodeid toincrementid =>
      exact map_updateOne (fun doc _ => key_setReaded _ doc) docs
  | post m =>
      rw [unreadStep, postMessage]
      cases m.failure with
      | some e => rfl
      | none =>
          simp only
          split
          · exact map_updateMany (fun doc _ => key_setUnread _ doc) docs
          · exact map_updateOne (fun doc _ => key_setUnread _ doc) docs

/-- Every step keeps the index. -/
theorem Indexed.step {docs : List UserUnread} (h : Indexed docs) (e : UnreadEvent) :
    Indexed (unreadStep docs e) := by
  rwa [Indexed, keys_unreadStep]

/-- What a step is for, on one document. -/
def UnreadEvent.raise (e : UnreadEvent) (doc : UserUnread) : UserUnread :=
  match e with
  | .post m => if m.concerns doc then doc.raiseUnread m.incrementid else doc
  | .read userid tonodeid toincrementid =>
      if doc.isOf userid tonodeid then doc.raiseReaded (toincrementid - 1) else doc

/-- The specification raises every row. -/
theorem unreadSpec_eq (docs : List UserUnread) (e : UnreadEvent) :
    unreadSpec docs e = docs.map e.raise := by
  cases e <;> rfl

/-- Raising numbers commutes: it is a maximum. -/
theorem raise_comm (e₁ e₂ : UnreadEvent) (doc : UserUnread) :
    e₁.raise (e₂.raise doc) = e₂.raise (e₁.raise doc) := by
  cases doc with
  | insertOne userID toNodeID unread readed =>
      cases e₁ <;> cases e₂ <;> simp [UnreadEvent.raise, Post.concerns, UserUnread.isOf]
  | row userID toNodeID unread readed =>
      -- no number decides which documents a step raises
      have hraise : ∀ e : UnreadEvent, ∃ f g : ℤ → ℤ, (∀ unread readed,
          e.raise (.row userID toNodeID unread readed) =
            .row userID toNodeID (f unread) (g readed)) ∧
          (∃ k, f = id ∨ f = (max · k)) ∧ ∃ k, g = id ∨ g = (max · k) := by
        intro e
        cases e with
        | post m =>
            by_cases hc : m.concerns (.row userID toNodeID unread readed) = true
            · refine ⟨(max · m.incrementid), id, fun u r => ?_, ⟨_, .inr rfl⟩, 0, .inl rfl⟩
              exact if_pos hc
            · exact ⟨id, id, fun u r => if_neg hc, ⟨0, .inl rfl⟩, 0, .inl rfl⟩
        | read userid tonodeid toincrementid =>
            by_cases hc : UserUnread.isOf userid tonodeid
                (.row userID toNodeID unread readed) = true
            · refine ⟨id, (max · (toincrementid - 1)), fun u r => ?_, ⟨0, .inl rfl⟩, _, .inr rfl⟩
              exact if_pos hc
            · exact ⟨id, id, fun u r => if_neg hc, ⟨0, .inl rfl⟩, 0, .inl rfl⟩
      have hcomm : ∀ {f g : ℤ → ℤ}, (∃ k, f = id ∨ f = (max · k)) →
          (∃ k, g = id ∨ g = (max · k)) → ∀ x, f (g x) = g (f x) := by
        rintro f g ⟨k, rfl | rfl⟩ ⟨l, rfl | rfl⟩ x
        · rfl
        · rfl
        · rfl
        · exact max_right_comm x l k
      obtain ⟨f₁, g₁, h₁, hf₁, hg₁⟩ := hraise e₁
      obtain ⟨f₂, g₂, h₂, hf₂, hg₂⟩ := hraise e₂
      rw [h₂, h₁, h₁, h₂, hcomm hf₁ hf₂, hcomm hg₁ hg₂]

/-- What steps are for does not depend on their order. -/
theorem unreadSpec_perm {es es' : List UnreadEvent} (h : es.Perm es') (docs : List UserUnread) :
    es.foldl unreadSpec docs = es'.foldl unreadSpec docs := by
  refine h.foldl_eq' (fun e₁ _ e₂ _ docs => ?_) docs
  simp only [unreadSpec_eq, List.map_map]
  refine List.map_congr_left fun doc _ => ?_
  exact raise_comm e₂ e₁ doc

/-- **Posts touch the unread numbers of their recipients only**, and raise them, in exactly
the runs whose posts meet the condition; and the order of the posts and reads of two such
runs does not matter. -/
theorem unread_posts_iff (docs : List UserUnread) (h : Indexed docs) (es : List UnreadEvent) :
    (StepsMeet unreadStep PostKept docs es ↔ StepsMeet unreadStep PostOk docs es) ∧
      ∀ es', es.Perm es' → StepsMeet unreadStep PostOk docs es →
        StepsMeet unreadStep PostOk docs es' →
          es.foldl unreadStep docs = es'.foldl unreadStep docs := by
  have hiff : ∀ es, StepsMeet unreadStep PostKept docs es ↔ StepsMeet unreadStep PostOk docs es :=
    fun es => stepsMeet_congr (fun _ e hdocs => hdocs.step e)
      (fun _ e hdocs => postKept_iff hdocs e) h
  refine ⟨hiff es, fun es' hperm hes hes' => ?_⟩
  have hspec : ∀ {es}, StepsMeet unreadStep PostOk docs es →
      es.foldl unreadStep docs = es.foldl unreadSpec docs :=
    fun hes => StepsMeet.foldl_eq ((hiff _).mpr hes)
  rw [hspec hes, hspec hes', unreadSpec_perm hperm]

/-- Two members of a node, the second also one of another node. -/
def twoNodes : List UserUnread := [.row "a" "n" 1 1, .row "b" "n" 1 1, .row "b" "m" 9 1]

/-- The first member posts to the node, with the number given. -/
def postTo (k : ℤ) : UnreadEvent := .post ⟨"a", "n", "", ["a", "b"], k, none⟩

/-- Messages of the two members to each other and one to the node, with a read in between. -/
def postsAndReads : List UnreadEvent :=
  [.post ⟨"a", "n", "b", [], 2, none⟩, .post ⟨"b", "n", "a", [], 3, none⟩, .read "b" "n" 2,
    postTo 9]

/-- They meet the condition in this order and in the other one, and come to the same. -/
theorem unread_posts_twoNodes :
    StepsMeet unreadStep PostOk twoNodes postsAndReads ∧
      postsAndReads.foldl unreadStep twoNodes =
        postsAndReads.reverse.foldl unreadStep twoNodes := by
  obtain ⟨hkept, hsame⟩ := unread_posts_iff twoNodes (by decide) postsAndReads
  obtain ⟨hkept', -⟩ := unread_posts_iff twoNodes (by decide) postsAndReads.reverse
  have hok : StepsMeet unreadStep PostOk twoNodes postsAndReads := hkept.mp (by decide)
  exact ⟨hok, hsame _ (List.reverse_perm _).symm hok (hkept'.mp (by decide))⟩

/-- A post to a node sets the number of a member in another node, and the later of two posts
wins. -/
theorem not_unread_posts :
    Indexed twoNodes ∧ ¬ PostKept twoNodes (postTo 2) ∧
      [postTo 3, postTo 2].foldl unreadStep twoNodes ≠
        [postTo 2, postTo 3].foldl unreadStep twoNodes := by
  decide

end Yijian
