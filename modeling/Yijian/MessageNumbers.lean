import Yijian.ReadBack

/-!
# Message Numbers under Concurrency

`insertMessage` is two operations on the database: one takes the next number of the node from
its counter, and a later one stores the message under this number. Between the two, calls of
other workers and servers go on, on the same node or on others, and the second may fail. The
number of such a call is lost.

## Convention

A call is at one of three places: before its first operation, between the two with the number it
has been given, or behind them. Any number of calls are under way, in workers of one server or of
several, and each step of the run is one operation of one of them or a query. The counter of a node
is a document that is made with the node, and `$inc` goes on in 64 bits where 32 are too few. What
the messages say, and who posts them, is the same for all numbers. A number that is lost leaves a
gap, which a range query does not notice: it returns what is stored, in the order of the numbers.

## Main results

* `insertMessage_eq`: a call on its own is its two operations, one after the other.
* `UniqueMessages.queryMessages`: what a query of a range returns.
* `numbers_correct`: in every reachable state, the numbers of a node have been given out in
  order, none is stored twice, and none that is on its way is stored already.
-/

namespace Yijian

open Bson Documents Runs

variable {ω κ : Type}

/-! ### The two operations -/

namespace MongoClient

/-- The first operation of `insertMessage`: the counter before it has been counted up. -/
def takeIncrementid (message : NodeMessage) (db : DocumentDb ω) :
    Except SystemError ℤ × DocumentDb ω :=
  let byNode : Fields ω → Bool := isText "nodeID" message.tonodeid
  match findOne byNode db.messageNodeCount with
  | none => (.error ⟨40050, "not find tonodeid"⟩, db)
  | some node_count =>
      match inc "count" 1 node_count with
      | none => (.error ⟨14, "type mismatch"⟩, db)
      | some counted =>
          ((getInt32 "count" node_count).mapError fun _ => ⟨40051, "count"⟩, { db with
            messageNodeCount := updateOne byNode (fun _ => counted) db.messageNodeCount })

/-- The second operation of `insertMessage`. -/
def storeMessage [DecidableEq ω] (ids : ObjectIds ω) (message : NodeMessage) (id : ω)
    (incrementid : ℤ) (db : DocumentDb ω) : Except SystemError (NodeMessageRes × DocumentDb ω) := do
  let nodeMessage ← insertDoc
    (fun doc => isOid "_id" id doc ||
      (isText "toNodeID" message.tonodeid doc && isNumber "incrementID" incrementid doc))
    [("_id", .oid id), ("fromUserID", .utf8 message.fromuserid),
      ("toNodeID", .utf8 message.tonodeid), ("incrementID", .int32 incrementid),
      ("type", .int32 message.type), ("content", .utf8 message.content)] db.nodeMessage
  return (⟨ids.toText id, incrementid⟩, { db with nodeMessage := nodeMessage })

/-- `addFriend` and `createGroup` create the counter of a node. -/
def createNodeCount (nodeID : String) (db : DocumentDb ω) : Except SystemError (DocumentDb ω) := do
  let messageNodeCount ← insertDoc (isText "nodeID" nodeID)
    [("nodeID", .utf8 nodeID), ("count", .int32 0)] db.messageNodeCount
  return { db with messageNodeCount := messageNodeCount }

/-- **A call of `insertMessage`** on its own is its two operations. -/
theorem insertMessage_eq [DecidableEq ω] (ids : ObjectIds ω) (message : NodeMessage) (id : ω)
    (db : DocumentDb ω) :
    insertMessage ids message id db =
      Except.mapError (fun _ => ⟨40051, "insert message failure"⟩)
        ((takeIncrementid message db).1.bind fun incrementid =>
          storeMessage ids message id incrementid (takeIncrementid message db).2) := by
  rw [insertMessage, takeIncrementid]
  cases hfind : findOne (isText "nodeID" message.tonodeid) db.messageNodeCount with
  | none => rfl
  | some doc =>
      simp only [Option.elim_some, updateDoc, hfind, bind, Except.bind]
      cases hinc : inc "count" 1 doc with
      | none => rfl
      | some counted =>
          cases hint : getInt32 "count" doc with
          | error e => rfl
          | ok k => rfl

end MongoClient

/-! ### Calls that interleave -/

/-- The database, the calls that have their number and have not stored their message, and the
numbers that the counter of each node has given out, in this order. -/
structure NumberRun (ω κ : Type) where
  db : DocumentDb ω
  caller : κ → Option (NodeMessage × ℤ)
  handed : String → List ℤ

/-- The empty database, and nobody calls. -/
def NumberRun.new (ω κ : Type) : NumberRun ω κ :=
  ⟨⟨[], [], [], [], [], [], []⟩, fun _ => none, fun _ => []⟩

/-- An operation on the database: a node gets its counter, a caller takes a number, or it stores
its message, which may fail by a fault of the database. -/
inductive NumberEvent (ω κ : Type)
  | create (nodeID : String)
  | take (k : κ) (message : NodeMessage)
  | store (k : κ) (id : ω) (fault : Option SystemError)

section Step

variable [DecidableEq ω] [DecidableEq κ]

/-- A caller with no number takes one. -/
def takeStep (s : NumberRun ω κ) (k : κ) (message : NodeMessage) : NumberRun ω κ :=
  match s.caller k, MongoClient.takeIncrementid message s.db with
  | some _, _ => s
  | none, (.error _, db) => { s with db := db }
  | none, (.ok incrementid, db) =>
      { db := db
        caller := Function.update s.caller k (some (message, incrementid))
        handed := Function.update s.handed message.tonodeid
          (s.handed message.tonodeid ++ [incrementid]) }

/-- A caller with a number stores its message. -/
def storeNumbered (ids : ObjectIds ω) (s : NumberRun ω κ) (k : κ) (id : ω)
    (fault : Option SystemError) : NumberRun ω κ :=
  match s.caller k with
  | none => s
  | some (message, incrementid) =>
      let s := { s with caller := Function.update s.caller k none }
      match fault, MongoClient.storeMessage ids message id incrementid s.db with
      | some _, _ => s
      | none, .error _ => s
      | none, .ok (_, db) => { s with db := db }

/-- One operation. -/
def numberStep (ids : ObjectIds ω) (s : NumberRun ω κ) : NumberEvent ω κ → NumberRun ω κ
  | .create nodeID =>
      match MongoClient.createNodeCount nodeID s.db with
      | .error _ => s
      | .ok db => { s with db := db }
  | .take k message => takeStep s k message
  | .store k id fault => storeNumbered ids s k id fault

end Step

/-- The count of a node. -/
def nodeCount (nodeID : String) (db : DocumentDb ω) : Option ℤ :=
  (lookup (textOf "nodeID") (some nodeID) db.messageNodeCount).bind (numberOf "count")

/-- **What holds of the numbers.** -/
structure NumbersCorrect (ids : ObjectIds ω) (s : NumberRun ω κ) : Prop where
  /-- No number of a node is stored twice. -/
  distinct : (s.db.nodeMessage.map messageKey).Nodup
  /-- Every stored number is below the count of its node. -/
  below : ∀ doc ∈ s.db.nodeMessage, ∃ n k count, messageKey doc = (some n, some k) ∧
    nodeCount n s.db = some count ∧ 0 ≤ k ∧ k < count
  /-- The numbers of a node are given out as 0, 1, 2, …, one for each time it has counted. -/
  handed_eq : ∀ n, s.handed n = (List.range (s.handed n).length).map Int.ofNat
  handed_length : ∀ n count, nodeCount n s.db = some count → count < 2 ^ 31 →
    ((s.handed n).length : ℤ) = count
  /-- The unique index does not refuse a message that is on its way. -/
  unique_index : ∀ k message incrementid, s.caller k = some (message, incrementid) →
    ∀ doc ∈ s.db.nodeMessage, messageKey doc ≠ (some message.tonodeid, some incrementid)
  /-- A query of a range returns the stored messages of the range, each once. -/
  range : ∀ n a b, 0 ≤ a → a < b → ∃ read,
    MongoClient.queryMessages ids ⟨n, a, b⟩ s.db = .ok read ∧
      (read.map NodeMessage.incrementid).Pairwise (· > ·) ∧
      ∀ m, m ∈ read ↔ (m.tonodeid = n ∧ a ≤ m.incrementid ∧ m.incrementid < b) ∧
        ∃ doc ∈ s.db.nodeMessage, nodemessageDocument ids doc = .ok m

/-! ### Queries of a range -/

/-- The documents all read as messages, and no number of a node is there twice. -/
structure UniqueMessages (ids : ObjectIds ω) (docs : List (Fields ω)) : Prop where
  reads : ∀ doc ∈ docs, ∃ m, nodemessageDocument ids doc = .ok m
  unique : (docs.map messageKey).Nodup

/-- The number that a query sorts by. -/
def messageNumber (doc : Fields ω) : ℤ := (numberOf "incrementID" doc).getD 0

/-- What the cursor of a query of a range gives, in its order. -/
def messageCursor (query : QueryMessage) (docs : List (Fields ω)) : List (Fields ω) :=
  (docs.filter fun doc => isText "toNodeID" query.tonodeid doc &&
    MongoClient.inRange query (numberOf "incrementID" doc)).mergeSort fun doc doc' =>
      decide (messageNumber doc' ≤ messageNumber doc)

/-- The number of a message that can be read. -/
theorem messageNumber_of_nodemessageDocument {ids : ObjectIds ω} {doc : Fields ω} {m : NodeMessage}
    (h : nodemessageDocument ids doc = .ok m) : messageNumber doc = m.incrementid := by
  rw [messageNumber, (Prod.mk.inj (messageKey_of_nodemessageDocument h)).2, Option.getD_some]

/-- The cursor gives the documents that read as messages in the range. -/
theorem mem_messageCursor {ids : ObjectIds ω} {query : QueryMessage} {docs : List (Fields ω)}
    {doc : Fields ω} {m : NodeMessage} (h : nodemessageDocument ids doc = .ok m) :
    doc ∈ messageCursor query docs ↔ doc ∈ docs ∧ InRange query m := by
  obtain ⟨htext, hnumber⟩ := Prod.mk.inj (messageKey_of_nodemessageDocument h)
  rw [messageCursor, List.mem_mergeSort, List.mem_filter, Bool.and_eq_true, isText, htext, hnumber,
    decide_eq_true_iff, InRange, Option.some_inj, eq_comm (a := m.tonodeid)]

/-- The cursor returns stored messages only. -/
theorem mem_of_mem_messageCursor {query : QueryMessage} {docs : List (Fields ω)} {doc : Fields ω}
    (h : doc ∈ messageCursor query docs) : doc ∈ docs :=
  (List.mem_filter.mp (List.mem_mergeSort.mp h)).1

/-- The last number comes first. -/
theorem pairwise_messageCursor (query : QueryMessage) (docs : List (Fields ω)) :
    (messageCursor query docs).Pairwise fun doc doc' => messageNumber doc' ≤ messageNumber doc := by
  refine (List.pairwise_mergeSort (fun a b c hab hbc => ?_) (fun a b => ?_) _).imp of_decide_eq_true
  · exact decide_eq_true ((of_decide_eq_true hbc).trans (of_decide_eq_true hab))
  · simpa using le_total (messageNumber b) (messageNumber a)

/-- No number is given twice. -/
theorem UniqueMessages.nodup_messageCursor {ids : ObjectIds ω} {docs : List (Fields ω)}
    (h : UniqueMessages ids docs) (query : QueryMessage) :
    ((messageCursor query docs).map messageKey).Nodup :=
  ((List.mergeSort_perm _ _).map messageKey).nodup_iff.mpr
    (h.unique.sublist (List.filter_sublist.map messageKey))

/-- The numbers that the cursor gives, of one node. -/
theorem UniqueMessages.messageKey_of_mem {ids : ObjectIds ω} {docs : List (Fields ω)}
    (h : UniqueMessages ids docs) {query : QueryMessage} {doc : Fields ω}
    (hdoc : doc ∈ messageCursor query docs) :
    messageKey doc = (some query.tonodeid, some (messageNumber doc)) := by
  obtain ⟨m, hm⟩ := h.reads doc (mem_of_mem_messageCursor hdoc)
  rw [messageKey_of_nodemessageDocument hm, messageNumber_of_nodemessageDocument hm,
    ((mem_messageCursor hm).mp hdoc).2.1]

/-- **A query of a range** passes on the messages of the node with a number in the range, each
once, the last one first. -/
theorem UniqueMessages.queryMessages {ids : ObjectIds ω} {db : DocumentDb ω}
    (h : UniqueMessages ids db.nodeMessage) (query : QueryMessage) :
    ∃ read, MongoClient.queryMessages ids query db = .ok read ∧
      (read.map NodeMessage.incrementid).Pairwise (· > ·) ∧
      ∀ m, m ∈ read ↔ InRange query m ∧
        ∃ doc ∈ db.nodeMessage, nodemessageDocument ids doc = .ok m := by
  have hmem : ∀ doc ∈ messageCursor query db.nodeMessage, doc ∈ db.nodeMessage :=
    fun doc hdoc => mem_of_mem_messageCursor hdoc
  obtain ⟨read, hread, hpassed⟩ := mapM_ok_of_forall fun doc hdoc => h.reads doc (hmem doc hdoc)
  refine ⟨read, hread, ?_, fun m => ⟨fun hm => ?_, ?_⟩⟩
  · have hnumbers : (messageCursor query db.nodeMessage).map messageNumber =
        read.map NodeMessage.incrementid := by
      refine List.forall₂_eq_eq_eq ▸ List.forall₂_map_left_iff.mpr
        (List.forall₂_map_right_iff.mpr ((mapM_eq_ok_iff.mp hread).imp fun doc m hm => ?_))
      exact messageNumber_of_nodemessageDocument hm
    have hdistinct := List.pairwise_map.mp (h.nodup_messageCursor query)
    rw [← hnumbers, List.pairwise_map]
    refine ((pairwise_messageCursor query _).and hdistinct).imp_of_mem
      fun {doc doc'} hdoc hdoc' hpair => ?_
    refine lt_of_le_of_ne hpair.1 fun heq => hpair.2 ?_
    rw [h.messageKey_of_mem hdoc, h.messageKey_of_mem hdoc', heq]
  · obtain ⟨doc, hdoc, hm⟩ := exists_of_mem_mapM hread hm
    obtain ⟨hdoc, hrange⟩ := (mem_messageCursor hm).mp hdoc
    exact ⟨hrange, doc, hdoc, hm⟩
  · rintro ⟨hrange, doc, hdoc, hm⟩
    exact hpassed doc ((mem_messageCursor hm).mpr ⟨hdoc, hrange⟩) m hm

/-- The range of a query with two bounds. -/
theorem inRange_iff {n : String} {a b : ℤ} {m : NodeMessage} (ha : 0 ≤ a) (hab : a < b) :
    InRange ⟨n, a, b⟩ m ↔ m.tonodeid = n ∧ a ≤ m.incrementid ∧ m.incrementid < b := by
  have hb : (b == 0) = false := beq_eq_false_iff_ne.mpr (by omega)
  rw [InRange, MongoClient.inRange, hb, Bool.false_or, Bool.and_eq_true, decide_eq_true_iff,
    decide_eq_true_iff, eq_comm]

/-! ### The counters -/

/-- Each counter has given out its numbers from 0 on, up to the last one that is read as a
number of 32 bits. -/
def Counted (counts : List (Fields ω)) (handed : String → List ℤ) : Prop :=
  ∀ n, (lookup (textOf "nodeID") (some n) counts).elim (handed n = []) fun doc =>
    ∃ c : ℕ, get "count" doc = some (number c) ∧
      handed n = (List.range (min c (2 ^ 31))).map Int.ofNat

section Counters

variable {counts : List (Fields ω)} {handed : String → List ℤ}

/-- What the counter of a node says of the numbers handed out. -/
theorem Counted.of_lookup (h : Counted counts handed) {n : String} {doc : Fields ω}
    (hdoc : lookup (textOf "nodeID") (some n) counts = some doc) :
    ∃ c : ℕ, get "count" doc = some (number c) ∧
      handed n = (List.range (min c (2 ^ 31))).map Int.ofNat := by
  have hn := h n
  rw [hdoc] at hn
  exact hn

/-- The numbers are handed out in their order. -/
theorem Counted.handed_eq (h : Counted counts handed) (n : String) :
    handed n = (List.range (handed n).length).map Int.ofNat := by
  have hn := h n
  cases hdoc : lookup (textOf "nodeID") (some n) counts with
  | none =>
      rw [hdoc, Option.elim_none] at hn
      rw [hn]
      rfl
  | some doc =>
      obtain ⟨c, -, hc⟩ := h.of_lookup hdoc
      rw [hc, List.length_map, List.length_range]

/-- A number that has been given out is less than their count. -/
theorem Counted.lt_of_mem (h : Counted counts handed) {n : String} {k : ℤ} (hk : k ∈ handed n) :
    0 ≤ k ∧ k < (handed n).length := by
  rw [h.handed_eq n] at hk
  obtain ⟨i, hi, rfl⟩ := List.mem_map.mp hk
  exact ⟨Int.natCast_nonneg i, Int.ofNat_lt.mpr (List.mem_range.mp hi)⟩

/-- The number that a counter gives out next has not been given out. -/
theorem Counted.length_notMem (h : Counted counts handed) (n : String) :
    ((handed n).length : ℤ) ∉ handed n :=
  fun hmem => lt_irrefl _ (h.lt_of_mem hmem).2

/-- A new counter stands at 0. -/
theorem Counted.create (h : Counted counts handed) {n : String} {counts' : List (Fields ω)}
    (hcounts : insertDoc (isText "nodeID" n) [("nodeID", .utf8 n), ("count", .int32 0)] counts =
      .ok counts') : Counted counts' handed := by
  obtain ⟨-, rfl⟩ := insertDoc_ok.mp hcounts
  intro n'
  have hold := h n'
  rw [lookup_append_singleton]
  cases hlook : lookup (textOf "nodeID") (some n') counts with
  | some doc =>
      rw [hlook] at hold
      exact hold
  | none =>
      rw [hlook, Option.elim_none] at hold
      rw [Option.none_or]
      split
      · exact ⟨0, rfl, hold⟩
      · exact hold

/-- Counting up keeps the node of a counter. -/
theorem lookup_counted {n : String} {doc counted : Fields ω}
    (hinc : inc "count" 1 doc = some counted)
    (hdoc : lookup (textOf "nodeID") (some n) counts = some doc) (n' : String) :
    lookup (textOf "nodeID") (some n')
        (updateOne (isText "nodeID" n) (fun _ => counted) counts) =
      if n' = n then some counted else lookup (textOf "nodeID") (some n') counts := by
  have hnode : textOf "nodeID" counted = some n := by
    have hold : textOf "nodeID" doc = some n := key_of_lookup hdoc
    rw [textOf] at hold ⊢
    rwa [get_of_inc (by decide) hinc]
  refine (lookup_updateOne (fun _ _ => hnode) (some n') counts).trans ?_
  by_cases hn : n' = n
  · subst hn
    rw [if_pos rfl, if_pos rfl, hdoc, Option.map_some]
  · rw [if_neg hn, if_neg fun h => hn (Option.some.inj h)]

/-- A counter that gives out its next number, or has no more of 32 bits. -/
theorem Counted.count (h : Counted counts handed) {n : String} {doc counted : Fields ω} {c : ℕ}
    (hdoc : lookup (textOf "nodeID") (some n) counts = some doc)
    (hc : get "count" doc = some (number c)) (hinc : inc "count" 1 doc = some counted)
    {handed' : String → List ℤ} (hsame : ∀ n', n' ≠ n → handed' n' = handed n')
    (hnext : handed' n = (List.range (min (c + 1) (2 ^ 31))).map Int.ofNat) :
    Counted (updateOne (isText "nodeID" n) (fun _ => counted) counts) handed' := by
  intro n'
  rw [lookup_counted hinc hdoc]
  by_cases hn : n' = n
  · subst hn
    rw [if_pos rfl, Option.elim_some]
    rw [inc_number hc] at hinc
    split at hinc
    · obtain rfl := Option.some.inj hinc
      exact ⟨c + 1, get_set_self "count" _ doc, hnext⟩
    · cases hinc
  · rw [if_neg hn, hsame n' hn]
    exact h n'

end Counters

/-- **Taking a number** leaves the database as it is where there is no counter or it cannot
count up, or counts up. -/
theorem takeIncrementid_cases {message : NodeMessage} {db db' : DocumentDb ω}
    {r : Except SystemError ℤ} (h : MongoClient.takeIncrementid message db = (r, db')) :
    (db' = db ∧ (∃ e, r = .error e) ∧
        ∀ doc, lookup (textOf "nodeID") (some message.tonodeid) db.messageNodeCount = some doc →
          inc "count" 1 doc = none) ∨
      ∃ doc counted, lookup (textOf "nodeID") (some message.tonodeid) db.messageNodeCount =
          some doc ∧
        inc "count" 1 doc = some counted ∧
        r = (getInt32 "count" doc).mapError (fun _ => ⟨40051, "count"⟩) ∧
        db' = { db with
          messageNodeCount :=
            updateOne (isText "nodeID" message.tonodeid) (fun _ => counted)
              db.messageNodeCount } := by
  rw [MongoClient.takeIncrementid] at h
  cases hfind : findOne (isText "nodeID" message.tonodeid) db.messageNodeCount with
  | none =>
      rw [hfind] at h
      obtain ⟨rfl, rfl⟩ := Prod.mk.inj h
      exact .inl ⟨rfl, ⟨_, rfl⟩, fun doc hdoc => nomatch hfind.symm.trans hdoc⟩
  | some doc =>
      cases hinc : inc "count" 1 doc with
      | none =>
          simp only [hfind, hinc] at h
          obtain ⟨rfl, rfl⟩ := Prod.mk.inj h
          refine .inl ⟨rfl, ⟨_, rfl⟩, fun doc' hdoc' => ?_⟩
          obtain rfl := Option.some.inj (hfind.symm.trans hdoc')
          exact hinc
      | some counted =>
          simp only [hfind, hinc] at h
          obtain ⟨rfl, rfl⟩ := Prod.mk.inj h
          exact .inr ⟨doc, counted, hfind, hinc, rfl, rfl⟩

/-- A call that gets no number. -/
theorem Counted.take_error {handed : String → List ℤ} {message : NodeMessage}
    {db db' : DocumentDb ω} {e : SystemError} (h : Counted db.messageNodeCount handed)
    (htake : MongoClient.takeIncrementid message db = (.error e, db')) :
    db'.nodeMessage = db.nodeMessage ∧ Counted db'.messageNodeCount handed := by
  rcases takeIncrementid_cases htake with ⟨rfl, -⟩ | ⟨doc, counted, hdoc, hinc, hr, rfl⟩
  · exact ⟨rfl, h⟩
  · obtain ⟨c, hc, hhanded⟩ := h.of_lookup hdoc
    refine ⟨rfl, h.count hdoc hc hinc (fun _ _ => rfl) ?_⟩
    -- The counter is past 32 bits.
    rw [getInt32_number hc] at hr
    split at hr
    · cases hr
    · rw [hhanded, show min (c + 1) (2 ^ 31) = min c (2 ^ 31) by omega]

/-- A call that gets the next number of its node. -/
theorem Counted.take_ok {handed : String → List ℤ} {message : NodeMessage}
    {db db' : DocumentDb ω} {k : ℤ} (h : Counted db.messageNodeCount handed)
    (htake : MongoClient.takeIncrementid message db = (.ok k, db')) :
    db'.nodeMessage = db.nodeMessage ∧ k = (handed message.tonodeid).length ∧
      Counted db'.messageNodeCount (Function.update handed message.tonodeid
        (handed message.tonodeid ++ [k])) := by
  rcases takeIncrementid_cases htake with ⟨-, ⟨e, he⟩, -⟩ | ⟨doc, counted, hdoc, hinc, hr, rfl⟩
  · cases he
  · obtain ⟨c, hc, hhanded⟩ := h.of_lookup hdoc
    rw [getInt32_number hc] at hr
    split at hr
    · rename_i hsmall
      obtain rfl := Except.ok.inj hr
      have hmin : min c (2 ^ 31) = c := by omega
      have hmin' : min (c + 1) (2 ^ 31) = c + 1 := by omega
      rw [hmin] at hhanded
      refine ⟨rfl, by simp [hhanded], h.count hdoc hc hinc (fun n hn => ?_) ?_⟩
      · rw [Function.update_of_ne hn]
      · rw [Function.update_self, hhanded, hmin', List.range_succ, List.map_append]
        rfl
    · cases hr

/-! ### The invariant -/

/-- Numbers that are given out are stored at most once, by the call that has got them. -/
structure NumberInv (ids : ObjectIds ω) (s : NumberRun ω κ) : Prop where
  counted : Counted s.db.messageNodeCount s.handed
  messages : UniqueMessages ids s.db.nodeMessage
  stored : ∀ doc ∈ s.db.nodeMessage, ∃ n k, messageKey doc = (some n, some k) ∧ k ∈ s.handed n
  held : ∀ k message i, s.caller k = some (message, i) → i ∈ s.handed message.tonodeid
  fresh : ∀ k message i, s.caller k = some (message, i) →
    ∀ doc ∈ s.db.nodeMessage, messageKey doc ≠ (some message.tonodeid, some i)
  once : ∀ k k' message message' i, s.caller k = some (message, i) →
    s.caller k' = some (message', i) → message.tonodeid = message'.tonodeid → k = k'

/-- What the invariant says of the numbers. -/
theorem NumberInv.correct {ids : ObjectIds ω} {s : NumberRun ω κ} (h : NumberInv ids s) :
    NumbersCorrect ids s where
  distinct := h.messages.unique
  below doc hdoc := by
    obtain ⟨n, k, hkey, hk⟩ := h.stored doc hdoc
    cases hlook : lookup (textOf "nodeID") (some n) s.db.messageNodeCount with
    | none =>
        have hn := h.counted n
        rw [hlook, Option.elim_none] at hn
        rw [hn] at hk
        cases hk
    | some count =>
        obtain ⟨c, hc, hhanded⟩ := h.counted.of_lookup hlook
        obtain ⟨hpos, hlt⟩ := h.counted.lt_of_mem hk
        refine ⟨n, k, c, hkey, ?_, hpos, ?_⟩
        · rw [nodeCount, hlook, Option.bind_some, numberOf_number hc]
        · rw [hhanded, List.length_map, List.length_range] at hlt
          omega
  handed_eq := h.counted.handed_eq
  handed_length n count hcount hsmall := by
    cases hlook : lookup (textOf "nodeID") (some n) s.db.messageNodeCount with
    | none =>
        rw [nodeCount, hlook] at hcount
        cases hcount
    | some doc =>
        obtain ⟨c, hc, hhanded⟩ := h.counted.of_lookup hlook
        rw [nodeCount, hlook, Option.bind_some, numberOf_number hc] at hcount
        obtain rfl := Option.some.inj hcount
        rw [hhanded, List.length_map, List.length_range]
        omega
  unique_index := h.fresh
  range n a b ha hab := by
    obtain ⟨read, hread, hsorted, hmem⟩ := h.messages.queryMessages ⟨n, a, b⟩
    refine ⟨read, hread, hsorted, fun m => ?_⟩
    rw [hmem, inRange_iff ha hab]

/-- No number has been handed out. -/
theorem numberInv_new (ids : ObjectIds ω) : NumberInv ids (NumberRun.new ω κ) where
  counted _ := rfl
  messages := ⟨fun _ h => (nomatch h), List.nodup_nil⟩
  stored _ h := by cases h
  held _ _ _ h := by cases h
  fresh _ _ _ h := by cases h
  once _ _ _ _ _ h := by cases h

section Steps

variable [DecidableEq κ] {ids : ObjectIds ω} {s : NumberRun ω κ}

/-- A call ends. -/
theorem NumberInv.release (h : NumberInv ids s) (k : κ) :
    NumberInv ids { s with caller := Function.update s.caller k none } := by
  have hcaller : ∀ k' message i, Function.update s.caller k none k' = some (message, i) →
      s.caller k' = some (message, i) := by
    intro k' message i hk'
    obtain rfl | hne := eq_or_ne k' k
    · simp at hk'
    · simpa [hne] using hk'
  exact
    { counted := h.counted
      messages := h.messages
      stored := h.stored
      held := fun k' message i hk' => h.held k' message i (hcaller _ _ _ hk')
      fresh := fun k' message i hk' => h.fresh k' message i (hcaller _ _ _ hk')
      once := fun k₁ k₂ m₁ m₂ i h₁ h₂ =>
        h.once k₁ k₂ m₁ m₂ i (hcaller _ _ _ h₁) (hcaller _ _ _ h₂) }

/-- **A caller takes a number.** -/
theorem NumberInv.take (h : NumberInv ids s) (k : κ) (message : NodeMessage) :
    NumberInv ids (takeStep s k message) := by
  unfold takeStep
  split
  · exact h
  · rename_i hidle htake
    obtain ⟨hdocs, hcounted⟩ := h.counted.take_error htake
    exact ⟨hcounted, hdocs ▸ h.messages, hdocs ▸ h.stored, h.held, hdocs ▸ h.fresh, h.once⟩
  · rename_i i db hidle htake
    obtain ⟨hdocs, hi, hcounted⟩ := h.counted.take_ok htake
    have hnew : i ∉ s.handed message.tonodeid := hi ▸ h.counted.length_notMem message.tonodeid
    have hgrows : ∀ n j, j ∈ s.handed n → j ∈ Function.update s.handed message.tonodeid
        (s.handed message.tonodeid ++ [i]) n := by
      intro n j hj
      obtain rfl | hn := eq_or_ne n message.tonodeid
      · simp [hj]
      · simpa [hn] using hj
    -- The number is new, so no document and no other caller has it.
    have hcases : ∀ k' message' j,
        Function.update s.caller k (some (message, i)) k' = some (message', j) →
          (k' = k ∧ message' = message ∧ j = i) ∨ (k' ≠ k ∧ s.caller k' = some (message', j)) := by
      intro k' message' j hk'
      obtain rfl | hne := eq_or_ne k' k
      · rw [Function.update_self] at hk'
        obtain ⟨rfl, rfl⟩ := Prod.mk.inj (Option.some.inj hk')
        exact .inl ⟨rfl, rfl, rfl⟩
      · rw [Function.update_of_ne hne] at hk'
        exact .inr ⟨hne, hk'⟩
    constructor
    · exact hcounted
    · exact hdocs ▸ h.messages
    · intro doc hdoc
      obtain ⟨n, j, hkey, hj⟩ := h.stored doc (hdocs ▸ hdoc)
      exact ⟨n, j, hkey, hgrows n j hj⟩
    · intro k' message' j hk'
      rcases hcases _ _ _ hk' with ⟨rfl, rfl, rfl⟩ | ⟨-, hk'⟩
      · simp
      · exact hgrows _ _ (h.held _ _ _ hk')
    · intro k' message' j hk' doc hdoc hkey
      rcases hcases _ _ _ hk' with ⟨rfl, rfl, rfl⟩ | ⟨-, hk'⟩
      · obtain ⟨n, j', hkey', hj'⟩ := h.stored doc (hdocs ▸ hdoc)
        rw [hkey] at hkey'
        obtain ⟨hn, hj⟩ := Prod.mk.inj hkey'
        rw [← Option.some.inj hn, ← Option.some.inj hj] at hj'
        exact hnew hj'
      · exact h.fresh _ _ _ hk' doc (hdocs ▸ hdoc) hkey
    · intro k₁ k₂ m₁ m₂ j h₁ h₂ hnode
      rcases hcases _ _ _ h₁ with ⟨hk₁, rfl, rfl⟩ | ⟨-, hold₁⟩
      · rcases hcases _ _ _ h₂ with ⟨hk₂, -, -⟩ | ⟨-, hold₂⟩
        · exact hk₁.trans hk₂.symm
        · exact absurd (hnode ▸ h.held _ _ _ hold₂) hnew
      · rcases hcases _ _ _ h₂ with ⟨-, rfl, rfl⟩ | ⟨-, hold₂⟩
        · exact absurd (hnode ▸ h.held _ _ _ hold₁) hnew
        · exact h.once _ _ _ _ _ hold₁ hold₂ hnode

variable [DecidableEq ω]

omit [DecidableEq κ] in
/-- A message under a number that no document of its node has. -/
theorem UniqueMessages.storeMessage {message : NodeMessage} {id : ω} {i : ℤ}
    {db db' : DocumentDb ω} {r : NodeMessageRes} (h : UniqueMessages ids db.nodeMessage)
    (hfresh : ∀ doc ∈ db.nodeMessage, messageKey doc ≠ (some message.tonodeid, some i))
    (hstore : MongoClient.storeMessage ids message id i db = .ok (r, db')) :
    db'.messageNodeCount = db.messageNodeCount ∧ UniqueMessages ids db'.nodeMessage ∧
      ∃ doc, db'.nodeMessage = db.nodeMessage ++ [doc] ∧
        messageKey doc = (some message.tonodeid, some i) := by
  rw [MongoClient.storeMessage] at hstore
  obtain ⟨docs, hdocs, hrfl⟩ := bind_eq_ok.mp hstore
  obtain ⟨-, rfl⟩ := insertDoc_ok.mp hdocs
  obtain ⟨rfl, rfl⟩ := Prod.mk.inj (Except.ok.inj hrfl)
  refine ⟨rfl, ⟨fun doc hdoc => ?_, nodup_append_singleton h.unique hfresh⟩, _, rfl, rfl⟩
  rcases List.mem_append.mp hdoc with hold | hnew
  · exact h.reads doc hold
  · exact List.mem_singleton.mp hnew ▸ ⟨_, rfl⟩

/-- **A caller stores its message.** -/
theorem NumberInv.store (h : NumberInv ids s) (k : κ) (id : ω) (fault : Option SystemError) :
    NumberInv ids (storeNumbered ids s k id fault) := by
  unfold storeNumbered
  split
  · exact h
  · rename_i message i hcaller
    have hend := h.release k
    simp only
    split
    · exact hend
    · exact hend
    · rename_i r db hstore
      obtain ⟨hcounts, hmessages, doc, hdocs, hkey⟩ :=
        h.messages.storeMessage (h.fresh k message i hcaller) hstore
      have hmem : ∀ d ∈ db.nodeMessage, d ∈ s.db.nodeMessage ∨ d = doc := by
        intro d hd
        simpa [hdocs] using hd
      refine ⟨hcounts ▸ h.counted, hmessages, fun d hd => ?_, hend.held, ?_, hend.once⟩
      · rcases hmem d hd with hold | rfl
        · exact h.stored d hold
        · exact ⟨_, _, hkey, h.held k message i hcaller⟩
      · intro k' message' i' hk' d hd hkey'
        rcases hmem d hd with hold | rfl
        · exact hend.fresh k' message' i' hk' d hold hkey'
        · -- The number belongs to the caller that has just stored it.
          obtain ⟨hn, hi⟩ := Prod.mk.inj (hkey.symm.trans hkey')
          obtain rfl := Option.some.inj hi
          obtain rfl | hne := eq_or_ne k' k
          · simp at hk'
          · have hother : s.caller k' = some (message', i) := by simpa [hne] using hk'
            exact hne (h.once k' k _ _ _ hother hcaller (Option.some.inj hn).symm)

/-- **The step lemma.** -/
theorem NumberInv.step (h : NumberInv ids s) (e : NumberEvent ω κ) :
    NumberInv ids (numberStep ids s e) := by
  cases e with
  | create nodeID =>
      simp only [numberStep]
      split
      · exact h
      · rename_i db hcreate
        obtain ⟨counts, hcounts, hrfl⟩ := bind_eq_ok.mp hcreate
        obtain rfl := Except.ok.inj hrfl
        exact ⟨h.counted.create hcounts, h.messages, h.stored, h.held, h.fresh, h.once⟩
  | take k message => exact h.take k message
  | store k id fault => exact h.store k id fault

end Steps

/-- **Message numbers under concurrency**: in every reachable state, whatever the callers do
and whichever calls fail. -/
theorem numbers_correct [DecidableEq ω] [DecidableEq κ] (ids : ObjectIds ω)
    (es : List (NumberEvent ω κ)) :
    NumbersCorrect ids (es.foldl (numberStep ids) (NumberRun.new ω κ)) := by
  have hinv : NumberInv ids (es.foldl (numberStep ids) (NumberRun.new ω κ)) :=
    inv_foldl_of_step (I := NumberInv ids) (fun _ e h => h.step e) es (numberInv_new ids)
  exact hinv.correct

end Yijian
