import Mathlib.Data.Int.Interval
import Yijian.Unseen

/-!
# The Window of a Message Query

A query asks for the messages of a node from a number on and below another; a zero as the
second number stands for the end. `dispatch(chat::QueryMessage&)` is meant to bound the
range by 50 numbers, and it takes the difference of the two numbers, which the client
chooses, in 32 bits: a difference from `2 ^ 31` on is negative there and passes.

## Convention

The two numbers are any of 32 signed bits, and the subtractions of the handler wrap as the hardware
has it. A query is answered as it should be if it is refused where the exact difference is above 50,
and otherwise returns the messages in its range, in their order, and raises the read number of the
user to the last number before the end of the range, where the update does not fail. What is stored
is any content in which no two messages of a node have one number. The query of the collection and
the update are those of the other modules. That the end of the range is excluded, and that a zero
asks for everything, is as the source has it.

## Main results

* `accepted_iff`: which queries pass, in terms of the difference that wraps.
* `query_window_iff`: the queries that are answered as they should be are those whose two
  numbers are less than `2 ^ 31` apart.
-/

namespace Yijian

open Bson Documents

variable {ω : Type}

/-! ### The handler -/

/-- `dispatch(chat::QueryMessage&)` on the database: the messages it answers with, or what it
throws. `fault`: what the update of the read number throws and catches, and the query. -/
def queryMessageAnswer (ids : ObjectIds ω) (userid : String) (query : QueryMessage)
    (fault : ℕ → Option SystemError) (db : DocumentDb ω) :
    Except QueryError (List NodeMessage) × DocumentDb ω :=
  if query.accepted then
    let db := dispatchQueryMessage userid query (fault 0) db
    match fault 1 with
    | some e => (.error (.system e), db)
    | none => ((MongoClient.queryMessages ids query db).mapError .element, db)
  else
    (.error (.system ⟨11008, "query is invalid"⟩), db)

/-- The two numbers span a window of at most 50 numbers, in exact integers. -/
def QueryMessage.InWindow (query : QueryMessage) : Prop :=
  query.toincrementid - query.fromincrementid ≤ 50 ∧
    (query.toincrementid = 0 ∨ query.fromincrementid < query.toincrementid)

instance (query : QueryMessage) : Decidable query.InWindow :=
  inferInstanceAs (Decidable (_ ∧ _))

/-- What a query is to do. -/
structure QueryCorrect (ids : ObjectIds ω) (userid : String) (query : QueryMessage)
    (fault : ℕ → Option SystemError) (db : DocumentDb ω) : Prop where
  inWindow : query.accepted = true → query.InWindow
  /-- A query with two bounds returns the stored messages between them, each once. -/
  returned : query.accepted = true → query.toincrementid ≠ 0 → fault 1 = none →
    ∃ read, (queryMessageAnswer ids userid query fault db).1 = .ok read ∧ read.length ≤ 50 ∧
      read.Nodup ∧
      ∀ m, m ∈ read ↔ (m.tonodeid = query.tonodeid ∧ query.fromincrementid ≤ m.incrementid ∧
        m.incrementid < query.toincrementid) ∧
        ∃ doc ∈ db.nodeMessage, nodemessageDocument ids doc = .ok m
  /-- The number before the second one is an `int32_t`, and it raises the read number. -/
  recorded : query.accepted = true → fault 0 = none →
    -2 ^ 31 ≤ query.toincrementid - 1 ∧
      (queryMessageAnswer ids userid query fault db).2 = { db with
        userUnread := updateMany (UserUnread.isOf userid query.tonodeid)
          (UserUnread.raiseReaded (query.toincrementid - 1)) db.userUnread }
  rejected : query.accepted = false → (queryMessageAnswer ids userid query fault db).2 = db

/-- What is stored when a query comes: the messages of every node have numbers of their own, and
the index on the read numbers is enforced. -/
structure QueriedDb (ids : ObjectIds ω) where
  db : DocumentDb ω
  messages : UniqueMessages ids db.nodeMessage
  indexed : Indexed db.userUnread

/-! ### The check -/

/-- A difference of two `int32_t` that fits. -/
theorem subInt32_of_lt {a b : ℤ} (h : -2 ^ 31 ≤ a - b) (h' : a - b < 2 ^ 31) :
    subInt32 a b = a - b :=
  Int.bmod_eq_of_le (by omega) (by omega)

/-- A difference of two `int32_t` that is too large comes out negative. -/
theorem subInt32_of_le {a b : ℤ} (h : 2 ^ 31 ≤ a - b) (h' : a - b < 2 ^ 32) :
    subInt32 a b = a - b - 2 ^ 32 := by
  rw [subInt32, ← Int.sub_bmod_right, Int.bmod_eq_of_le (by omega) (by omega)]
  rfl

/-- **The queries that pass the check.** -/
theorem QueryMessage.accepted_iff {query : QueryMessage} :
    query.accepted = true ↔
      (query.toincrementid = 0 ∨ query.fromincrementid < query.toincrementid) ∧
        subInt32 query.toincrementid query.fromincrementid ≤ 50 := by
  rw [accepted, Bool.not_eq_true', decide_eq_false_iff_not, not_or, not_and_or, not_not, not_le,
    not_lt, or_comm]

/-- An accepted query with numbers that are less than `2 ^ 31` apart is in the window. -/
theorem QueryMessage.inWindow_of_accepted {query : QueryMessage}
    (hfrom : query.fromincrementid < 2 ^ 31) (h : query.accepted = true)
    (hlt : query.toincrementid - query.fromincrementid < 2 ^ 31) : query.InWindow := by
  obtain ⟨hends, hdiff⟩ := accepted_iff.mp h
  rw [subInt32_of_lt (by omega) hlt] at hdiff
  exact ⟨hdiff, hends⟩

/-- A query with numbers that are further apart passes. -/
theorem QueryMessage.accepted_of_le {query : QueryMessage} (hfrom : -2 ^ 31 ≤ query.fromincrementid)
    (hto : query.toincrementid < 2 ^ 31)
    (hle : 2 ^ 31 ≤ query.toincrementid - query.fromincrementid) : query.accepted = true := by
  rw [accepted_iff, subInt32_of_le hle (by omega)]
  omega

/-! ### The answer -/

/-- As many numbers as the window is wide. -/
theorem length_le_of_pairwise {read : List ℤ} {a b : ℤ} (h : read.Pairwise (· > ·))
    (hmem : ∀ k ∈ read, a ≤ k ∧ k < b) : read.length ≤ (b - a).toNat := by
  have hnodup : read.Nodup := h.imp fun hgt => (ne_of_lt hgt).symm
  have hsub : read.toFinset ⊆ Finset.Ico a b := by
    intro k hk
    exact Finset.mem_Ico.mpr (hmem k (List.mem_toFinset.mp hk))
  calc read.length = read.toFinset.card := (List.toFinset_card_of_nodup hnodup).symm
    _ ≤ (Finset.Ico a b).card := Finset.card_le_card hsub
    _ = (b - a).toNat := Int.card_Ico a b

/-- The range of a query with a second number. -/
theorem inRange_iff_of_ne {query : QueryMessage} (h : query.toincrementid ≠ 0) {m : NodeMessage} :
    InRange query m ↔ m.tonodeid = query.tonodeid ∧ query.fromincrementid ≤ m.incrementid ∧
      m.incrementid < query.toincrementid := by
  have hto : (query.toincrementid == 0) = false := beq_eq_false_iff_ne.mpr h
  rw [InRange, MongoClient.inRange, hto, Bool.false_or, Bool.and_eq_true, decide_eq_true_iff,
    decide_eq_true_iff, eq_comm]

variable {ids : ObjectIds ω} {userid : String} {query : QueryMessage}
  {fault : ℕ → Option SystemError}

/-- The answer to a query of the window. -/
theorem QueriedDb.returned (s : QueriedDb ids) (haccepted : query.accepted = true)
    (hwindow : query.InWindow) (hto : query.toincrementid ≠ 0) (hfault : fault 1 = none) :
    ∃ read, (queryMessageAnswer ids userid query fault s.db).1 = .ok read ∧ read.length ≤ 50 ∧
      read.Nodup ∧
      ∀ m, m ∈ read ↔ (m.tonodeid = query.tonodeid ∧ query.fromincrementid ≤ m.incrementid ∧
        m.incrementid < query.toincrementid) ∧
        ∃ doc ∈ s.db.nodeMessage, nodemessageDocument ids doc = .ok m := by
  have hsame : (dispatchQueryMessage userid query (fault 0) s.db).nodeMessage =
      s.db.nodeMessage := by
    unfold dispatchQueryMessage
    rw [haccepted]
    cases fault 0 <;> rfl
  have hmessages :
      UniqueMessages ids (dispatchQueryMessage userid query (fault 0) s.db).nodeMessage :=
    hsame ▸ s.messages
  obtain ⟨read, hread, hsorted, hmem⟩ := hmessages.queryMessages query
  have hbounds : ∀ k ∈ read.map NodeMessage.incrementid,
      query.fromincrementid ≤ k ∧ k < query.toincrementid := by
    intro k hk
    obtain ⟨m, hm, rfl⟩ := List.mem_map.mp hk
    exact ((inRange_iff_of_ne hto).mp ((hmem m).mp hm).1).2
  have hlen := length_le_of_pairwise hsorted hbounds
  rw [List.length_map] at hlen
  refine ⟨read, ?_, ?_, ?_, fun m => ?_⟩
  · rw [queryMessageAnswer, if_pos haccepted]
    simp only [hfault, hread]
    rfl
  · have hwidth := hwindow.1
    omega
  · refine (List.pairwise_map.mp hsorted).imp fun {m m'} hgt heq => ?_
    rw [heq] at hgt
    exact lt_irrefl _ hgt
  · rw [hmem, inRange_iff_of_ne hto, hsame]

/-- The read number after an accepted query. -/
theorem QueriedDb.recorded (s : QueriedDb ids) (haccepted : query.accepted = true)
    (hfault : fault 0 = none) :
    (queryMessageAnswer ids userid query fault s.db).2 = { s.db with
      userUnread := updateMany (UserUnread.isOf userid query.tonodeid)
        (UserUnread.raiseReaded (query.toincrementid - 1)) s.db.userUnread } := by
  have hdb : (queryMessageAnswer ids userid query fault s.db).2 =
      dispatchQueryMessage userid query none s.db := by
    rw [queryMessageAnswer, if_pos haccepted, hfault]
    simp only
    split <;> rfl
  unfold dispatchQueryMessage at hdb
  rw [hdb, haccepted, ← updateReadedIncrement_eq s.indexed]

/-- **The queries that are answered as they should be**: the two numbers are less than `2 ^ 31`
apart. -/
theorem query_window_iff (s : QueriedDb ids) (userid tonodeid : String)
    (fromincrementid toincrementid : Int32) (fault : ℕ → Option SystemError) :
    QueryCorrect ids userid ⟨tonodeid, fromincrementid.toInt, toincrementid.toInt⟩ fault s.db ↔
      toincrementid.toInt - fromincrementid.toInt < 2 ^ 31 := by
  have hfrom := fromincrementid.le_toInt
  have hfrom' := fromincrementid.toInt_lt
  have hto := toincrementid.le_toInt
  have hto' := toincrementid.toInt_lt
  constructor
  · intro h
    by_contra hlt
    have haccepted : QueryMessage.accepted
        ⟨tonodeid, fromincrementid.toInt, toincrementid.toInt⟩ = true :=
      QueryMessage.accepted_of_le hfrom hto' (not_lt.mp hlt)
    have hwidth := (h.inWindow haccepted).1
    simp only at hwidth
    omega
  · intro hlt
    have hwindow : ∀ haccepted : QueryMessage.accepted
        ⟨tonodeid, fromincrementid.toInt, toincrementid.toInt⟩ = true,
        QueryMessage.InWindow ⟨tonodeid, fromincrementid.toInt, toincrementid.toInt⟩ :=
      fun haccepted => QueryMessage.inWindow_of_accepted hfrom' haccepted hlt
    refine ⟨hwindow, fun haccepted hne hfault => ?_,
      fun haccepted hfault => ⟨?_, s.recorded haccepted hfault⟩, fun hrejected => ?_⟩
    · exact s.returned haccepted (hwindow haccepted) hne hfault
    · have hends := (hwindow haccepted).2
      simp only at hends ⊢
      omega
    · rw [queryMessageAnswer, hrejected]
      rfl

/-- The two friends after the first has said hello: the request and the greeting are the
messages of their node, and each of them has a row of read numbers. -/
def friendsQueried : QueriedDb hexIds where
  db := newFriends.after [saysHello]
  messages := by
    have hreads : ∀ doc ∈ (newFriends.after [saysHello]).nodeMessage,
        (nodemessageDocument hexIds doc).toBool = true := by decide
    refine ⟨fun doc hdoc => ?_, by decide⟩
    have hread := hreads doc hdoc
    cases hm : nodemessageDocument hexIds doc with
    | error e => simp [hm, Except.toBool] at hread
    | ok m => exact ⟨m, rfl⟩
  indexed := by decide

/-- The query of both messages is answered as it should be, and the one of all numbers from -1
on is not. -/
theorem query_window_friendsQueried :
    QueryCorrect hexIds idA ⟨newFriends.node, 0, 2⟩ (fun _ => none) friendsQueried.db ∧
      ¬ QueryCorrect hexIds idA ⟨newFriends.node, -1, 2147483647⟩ (fun _ => none)
        friendsQueried.db :=
  ⟨(query_window_iff friendsQueried idA newFriends.node 0 2 fun _ => none).mpr (by decide),
    fun h => absurd
      ((query_window_iff friendsQueried idA newFriends.node (-1) 2147483647 fun _ => none).mp h)
      (by decide)⟩

/-- The query of all numbers from -1 on passes as a range of a negative number of messages. -/
theorem not_queryCorrect_wrap :
    ¬ QueryCorrect hexIds idA ⟨newFriends.node, -1, 2147483647⟩ (fun _ => none)
      friendsQueried.db := by
  intro h
  have haccepted : QueryMessage.accepted ⟨newFriends.node, -1, 2147483647⟩ = true :=
    QueryMessage.accepted_of_le (by decide) (by decide) (by decide)
  exact absurd (h.inWindow haccepted).1 (by decide)

end Yijian
