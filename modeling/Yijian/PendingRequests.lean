import Yijian.FriendGraph
import Yijian.Turns

/-!
# Pending Requests

A request between two users is tracked by its status, so that a call that is cut leaves a trace
of how far it has come. The trace is never followed up: `addFriend` does not insert a second
request, and `addFriendAuthorize` takes up a request only where `addFriend` has left it. What is
left of the status is four phases, and which of the calls lead from one to another is said here
exactly. A request that is cut is stuck: both users are told of it whenever they ask, and no
call changes it any more.

## Relation to `Yijian.FriendGraph`

The model is the same; what is followed is the status and not the lists. Each request has an
automaton of its own, which sees the calls on its key and the failures in them, and nothing else of
the run. That the collection as a whole goes through these automata side by side is the simulation.
`queryAddfriendInfo` tells a user of the requests that are not finished and name it on one side or
the other. The source makes a sort and a limit for this query and does not hand them over, so that
all requests are told, in the order of their insertion, and a limit is read by nobody.

## Main results

* `info_mem_queryAddfriendInfo`: a request is told as long as it is not finished.
* `phase_addFriend`, `phase_graphAuthorize`: what a call does to the phase of a request.
* `phase_run`: a request goes through its phases in every run.
* `stuck_for_good`: what becomes of a request that is cut.
-/

namespace Yijian

open Documents

variable {ω : Type} [DecidableEq ω]

/-! ### The query -/

/-- The request is one of the user, and not finished. -/
def AddFriendDoc.pending (userid : String) (doc : AddFriendDoc) : Bool :=
  (doc.inviter == userid || doc.invitee == userid) && doc.status != "finish"

/-- What is told of a request. -/
def AddFriendDoc.info (doc : AddFriendDoc) : AddFriendInfo :=
  ⟨doc.inviter, doc.invitee, doc.toNodeID⟩

/-- `mongo_client::queryAddfriendInfo`. The order and the limit that it puts together are not
handed to the query. -/
def queryAddfriendInfo (userid : String) (_limit : ℤ) (docs : List AddFriendDoc) :
    List AddFriendInfo :=
  (docs.filter (AddFriendDoc.pending userid)).map AddFriendDoc.info

/-- Every pending request is told, however many there are. -/
theorem info_mem_queryAddfriendInfo {userid : String} (limit : ℤ) {docs : List AddFriendDoc}
    {doc : AddFriendDoc} (hdoc : doc ∈ docs) (hpending : doc.pending userid = true) :
    doc.info ∈ queryAddfriendInfo userid limit docs :=
  List.mem_map_of_mem (List.mem_filter.mpr ⟨hdoc, hpending⟩)

/-! ### The phases -/

/-- How far a request has come: it waits for the invitee, it has been cut on the way there or on
the way from there, or it is finished. -/
inductive RequestPhase
  | absent
  | waiting
  | stuck
  | finished
deriving DecidableEq

/-- The phase of a status. -/
def phaseOfStatus (status : String) : RequestPhase :=
  if status = "createNodeCount" then .waiting
  else if status = "finish" then .finished
  else .stuck

/-- The phase of the request with the key. -/
def phaseOf (key : String) (docs : List AddFriendDoc) : RequestPhase :=
  (findOne (hasKey key) docs).elim .absent fun doc => phaseOfStatus doc.status

/-- None of the operations behind the first one of an agreement fails, or stops at an id. -/
def Agrees (oid : String → Except SystemError ω) (inviter invitee : String)
    (fault : ℕ → Option SystemError) : Prop :=
  (∀ n ∈ [1, 2, 4, 5, 6, 8], fault n = none) ∧ (oid inviter).isOk = true ∧
    (oid invitee).isOk = true

instance (oid : String → Except SystemError ω) (inviter invitee : String)
    (fault : ℕ → Option SystemError) : Decidable (Agrees oid inviter invitee fault) :=
  inferInstanceAs (Decidable (_ ∧ _ ∧ _))

/-- What a call does to the phase of the request with the key. -/
def RequestPhase.step (oid : String → Except SystemError ω) (key : String)
    (phase : RequestPhase) : GraphEvent → RequestPhase
  | .addFriend frd _ fault =>
      if phase = .absent ∧ littleIDBigID frd.inviterID frd.inviteeID = key ∧ fault 0 = none then
        if fault 1 = none ∧ fault 2 = none then .waiting else .stuck
      else phase
  | .addFriendAuthorize inviter invitee fault =>
      if phase = .waiting ∧ littleIDBigID inviter invitee = key ∧ fault 0 = none then
        if Agrees oid inviter invitee fault then .finished else .stuck
      else phase

/-- The phases that nothing leads out of. -/
def RequestPhase.Final (phase : RequestPhase) : Prop := phase = .stuck ∨ phase = .finished

/-! ### Requests by key -/

omit [DecidableEq ω] in
/-- A request is looked up by its key. -/
theorem findOne_hasKey (key : String) (docs : List AddFriendDoc) :
    findOne (hasKey key) docs = lookup AddFriendDoc.littleIDBigID key docs := rfl

/-- A request with a status is there. -/
theorem phaseOfStatus_ne_absent (status : String) : phaseOfStatus status ≠ .absent := by
  rw [phaseOfStatus]
  split
  · decide
  · split <;> decide

/-- The phase after an update that sets the status. -/
theorem phaseOf_update {f : AddFriendDoc → AddFriendDoc} {status : String}
    (hkey : ∀ doc, (f doc).littleIDBigID = doc.littleIDBigID)
    (hstatus : ∀ doc, (f doc).status = status) (key key' : String) (docs : List AddFriendDoc) :
    phaseOf key' (updateOne (hasKey key) f docs) =
      if key' = key ∧ phaseOf key' docs ≠ .absent then phaseOfStatus status
      else phaseOf key' docs := by
  have hfind : findOne (hasKey key') (updateOne (hasKey key) f docs) =
      if key' = key then (findOne (hasKey key') docs).map f else findOne (hasKey key') docs :=
    lookup_updateOne (fun doc h => (hkey doc).trans h) key' docs
  rw [phaseOf, phaseOf, hfind]
  by_cases hk : key' = key
  · cases findOne (hasKey key') docs with
    | none => simp
    | some doc => simp [hk, hstatus, phaseOfStatus_ne_absent]
  · rw [if_neg hk, if_neg fun h => hk h.1]

/-- A status that is set is the new phase. -/
theorem phaseOf_statusDocs (key status key' : String) (docs : List AddFriendDoc) :
    phaseOf key' (statusDocs key status docs) =
      if key' = key ∧ phaseOf key' docs ≠ .absent then phaseOfStatus status
      else phaseOf key' docs :=
  phaseOf_update (f := fun doc => { doc with status := status }) (fun _ => rfl) (fun _ => rfl)
    key key' docs

/-- A request is absent if there is no document with its key. -/
theorem phaseOf_eq_absent_iff {key : String} {docs : List AddFriendDoc} :
    phaseOf key docs = .absent ↔ key ∉ docs.map AddFriendDoc.littleIDBigID := by
  rw [← lookup_eq_none_iff, ← findOne_hasKey, phaseOf]
  cases findOne (hasKey key) docs with
  | none => simp
  | some doc => simp [phaseOfStatus_ne_absent]

/-- A request waits where `addFriend` has left it. -/
theorem phaseOf_eq_waiting_iff {key : String} {docs : List AddFriendDoc} :
    phaseOf key docs = .waiting ↔
      ∃ doc, findOne (hasKey key) docs = some doc ∧ doc.status = "createNodeCount" := by
  have hwaiting : ∀ status, phaseOfStatus status = .waiting ↔ status = "createNodeCount" := by
    intro status
    rw [phaseOfStatus]
    split
    · rename_i h
      exact iff_of_true rfl h
    · rename_i h
      refine iff_of_false ?_ h
      split <;> decide
  rw [phaseOf]
  cases findOne (hasKey key) docs with
  | none => simp
  | some doc => simp [hwaiting]

/-- A new request is one where there is none. -/
theorem phaseOf_insert (doc : AddFriendDoc) (docs : List AddFriendDoc) (key : String) :
    phaseOf key (docs ++ [doc]) =
      if phaseOf key docs = .absent ∧ doc.littleIDBigID = key then phaseOfStatus doc.status
      else phaseOf key docs := by
  rw [phaseOf, phaseOf, findOne_hasKey, findOne_hasKey, lookup_append_singleton]
  cases lookup AddFriendDoc.littleIDBigID key docs with
  | none =>
      by_cases hkey : doc.littleIDBigID = key
      · simp [hkey]
      · simp [hkey]
  | some old => simp [phaseOfStatus_ne_absent]

/-! ### What a call does to a phase -/

/-- The document that `addFriend` inserts. -/
def AddFriend.request (frd : AddFriend) : AddFriendDoc :=
  ⟨littleIDBigID frd.inviterID frd.inviteeID, frd.inviterID, frd.inviteeID, "", "request"⟩

omit [DecidableEq ω] in
/-- What `addFriend` leaves is what its operations leave. -/
theorem addFriend_snd (frd : AddFriend) (msgNodeid : String) (fault : ℕ → Option SystemError)
    (db : FriendDb ω) : (addFriend frd msgNodeid fault db).2 =
      (run (fun n => fault (n + 0)) [insertRequest frd.request,
        updateRequest frd.request.littleIDBigID fun doc =>
          { doc with toNodeID := msgNodeid, status := "createNode" },
        setStatus frd.request.littleIDBigID "createNodeCount"] db).2 := by
  rw [addFriend, run_zero fault (addFriendOps frd msgNodeid)]
  rcases hrun : run (fun n => fault (n + 0)) (addFriendOps frd msgNodeid) db with ⟨_ | _, d⟩
  · exact (congrArg Prod.snd hrun).symm
  · exact (congrArg Prod.snd hrun).symm

omit [DecidableEq ω] in
/-- A request is inserted where there is none. -/
theorem insertRequest_eq (doc : AddFriendDoc) (db : FriendDb ω) :
    insertRequest doc db =
      if phaseOf doc.littleIDBigID db.addFriend = .absent then
        .ok { db with addFriend := db.addFriend ++ [doc] }
      else .error ⟨11000, "duplicate key"⟩ := by
  rw [insertRequest, insertUnique]
  by_cases hold : doc.littleIDBigID ∈ db.addFriend.map AddFriendDoc.littleIDBigID
  · rw [if_pos hold, if_neg fun h => phaseOf_eq_absent_iff.mp h hold]
  · rw [if_neg hold, if_pos (phaseOf_eq_absent_iff.mpr hold)]

omit [DecidableEq ω] in
/-- An update of the requests never fails. -/
theorem updateRequest_eq (key : String) (f : AddFriendDoc → AddFriendDoc) (db : FriendDb ω) :
    updateRequest key f db =
      .ok { db with addFriend := updateOne (hasKey key) f db.addFriend } := rfl

omit [DecidableEq ω] in
/-- A status that is set. -/
theorem setStatus_eq (key status : String) (db : FriendDb ω) :
    setStatus key status db = .ok { db with addFriend := statusDocs key status db.addFriend } :=
  rfl

omit [DecidableEq ω] in
/-- The requests under other keys are left alone. -/
theorem findOne_updateRequest_of_ne {key key' : String} {f : AddFriendDoc → AddFriendDoc}
    {d d' : FriendDb ω} (h : updateRequest key f d = .ok d') (hne : key' ≠ key)
    (hf : ∀ doc, (f doc).littleIDBigID = doc.littleIDBigID) :
    findOne (hasKey key') d'.addFriend = findOne (hasKey key') d.addFriend := by
  obtain rfl := Except.ok.inj h
  exact (lookup_updateOne (fun doc h => (hf doc).trans h) key' d.addFriend).trans (if_neg hne)

omit [DecidableEq ω] in
/-- `addFriend` leaves a request alone that it does not make. -/
theorem findOne_addFriend {frd : AddFriend} {msgNodeid : String} {fault : ℕ → Option SystemError}
    {db : FriendDb ω} {key : String}
    (h : ¬ (phaseOf key db.addFriend = .absent ∧
      littleIDBigID frd.inviterID frd.inviteeID = key ∧ fault 0 = none)) :
    findOne (hasKey key) (addFriend frd msgNodeid fault db).2.addFriend =
      findOne (hasKey key) db.addFriend := by
  rw [addFriend_snd]
  cases hfault₀ : fault 0 with
  | some e => rw [run_cons_fault fault 0 hfault₀]
  | none =>
      by_cases hnew : phaseOf frd.request.littleIDBigID db.addFriend = .absent
      · have hne : key ≠ frd.request.littleIDBigID := by
          rintro rfl
          exact h ⟨hnew, rfl, hfault₀⟩
        have hinsert := (insertRequest_eq frd.request db).trans (if_pos hnew)
        rw [run_cons_ok fault 0 hfault₀ hinsert]
        refine run_inv (I := fun d : FriendDb ω => findOne (hasKey key) d.addFriend =
          findOne (hasKey key) db.addFriend) ?_ _ ?_
        · intro op hop d d' hd hd'
          rw [List.mem_cons, List.mem_singleton] at hop
          rcases hop with rfl | rfl
          · exact (findOne_updateRequest_of_ne hd' hne fun _ => rfl).trans hd
          · rw [setStatus] at hd'
            exact (findOne_updateRequest_of_ne hd' hne fun _ => rfl).trans hd
        · rw [findOne_hasKey, findOne_hasKey, lookup_append_singleton, if_neg (Ne.symm hne),
            Option.or_none]
      · -- the index on the key refuses the request
        have hinsert := (insertRequest_eq frd.request db).trans (if_neg hnew)
        rw [run_cons_error fault 0 hfault₀ hinsert]

omit [DecidableEq ω] in
/-- **What `addFriend` does to a phase.** -/
theorem phase_addFriend (oid : String → Except SystemError ω) (frd : AddFriend)
    (msgNodeid : String) (fault : ℕ → Option SystemError) (db : FriendDb ω) (key : String) :
    phaseOf key (addFriend frd msgNodeid fault db).2.addFriend =
      (phaseOf key db.addFriend).step oid key (.addFriend frd msgNodeid fault) := by
  rw [RequestPhase.step]
  split
  · rename_i hmakes
    obtain ⟨habsent, rfl, hfault₀⟩ := hmakes
    have hinsert := (insertRequest_eq frd.request db).trans (if_pos habsent)
    have hrequest := phaseOf_insert frd.request db.addFriend frd.request.littleIDBigID
    rw [if_pos ⟨habsent, rfl⟩] at hrequest
    rw [addFriend_snd, run_cons_ok fault 0 hfault₀ hinsert]
    cases hfault₁ : fault 1 with
    | some e =>
        rw [run_cons_fault fault 1 hfault₁, if_neg fun h => nomatch h.1]
        exact hrequest
    | none =>
        rw [run_cons_ok fault 1 hfault₁ (updateRequest_eq _ _ _)]
        have hnode := phaseOf_update (f := fun doc =>
          { doc with toNodeID := msgNodeid, status := "createNode" }) (fun _ => rfl)
          (fun _ => rfl) frd.request.littleIDBigID frd.request.littleIDBigID
          (db.addFriend ++ [frd.request])
        rw [hrequest, if_pos ⟨rfl, phaseOfStatus_ne_absent _⟩] at hnode
        cases hfault₂ : fault 2 with
        | some e =>
            rw [run_cons_fault fault 2 hfault₂, if_neg fun h => nomatch h.2]
            exact hnode
        | none =>
            rw [run_cons_ok fault 2 hfault₂ (setStatus_eq _ _ _), if_pos ⟨rfl, rfl⟩]
            exact (phaseOf_statusDocs _ _ _ _).trans (if_pos ⟨rfl, fun h =>
              phaseOfStatus_ne_absent _ (hnode.symm.trans h)⟩)
  · rename_i hnot
    rw [phaseOf, phaseOf, findOne_addFriend hnot]

omit [DecidableEq ω] in
/-- A status that is set among the operations of an agreement is the new phase. -/
theorem phaseOf_onSetStatus {key key' status : String} {d d' : GraphDb ω}
    (h : onFriendDb (setStatus key status) d = .ok d') :
    phaseOf key' d'.friend.addFriend =
      if key' = key ∧ phaseOf key' d.friend.addFriend ≠ .absent then phaseOfStatus status
      else phaseOf key' d.friend.addFriend := by
  rw [onFriendDb_setStatus] at h
  obtain rfl := Except.ok.inj h
  exact phaseOf_statusDocs key status key' d.friend.addFriend

/-- An entry leaves the requests alone. -/
theorem addFriend_onAddToFriends {oid : String → Except SystemError ω} {userID : String}
    {info : UserInfo} {d d' : GraphDb ω}
    (h : onFriendDb (addToFriends oid userID info) d = .ok d') :
    d'.friend.addFriend = d.friend.addFriend := by
  cases hoid : oid userID with
  | error e =>
      rw [onFriendDb_addToFriends_error hoid] at h
      cases h
  | ok i =>
      rw [onFriendDb_addToFriends hoid] at h
      obtain rfl := Except.ok.inj h
      rfl

/-- The operations of an agreement behind the first one stop at an id, or where they fail. -/
theorem agree_ok_iff (oid : String → Except SystemError ω) (inviter invitee tonodeid : String)
    (fault : ℕ → Option SystemError) (db : GraphDb ω) :
    (run (fun n => thrown fault (n + 1)) (graphOps oid inviter invitee tonodeid fault).tail db).1 =
      .ok () ↔ Agrees oid inviter invitee fault := by
  have hadd : ∀ userID info (d : GraphDb ω),
      (∃ d', onFriendDb (addToFriends oid userID info) d = .ok d') ↔
        (oid userID).isOk = true := by
    intro userID info d
    cases hoid : oid userID with
    | error e => simp [onFriendDb_addToFriends_error hoid, Except.isOk, Except.toBool]
    | ok i => simp [onFriendDb_addToFriends hoid, Except.isOk, Except.toBool]
  have hset : ∀ status (d : GraphDb ω), ∃ d',
      onFriendDb (setStatus (littleIDBigID inviter invitee) status) d = .ok d' :=
    fun status d => ⟨_, onFriendDb_setStatus _ _ d⟩
  have hlength : (graphOps oid inviter invitee tonodeid fault).tail.length = 8 := rfl
  rw [run_fst_eq_ok_iff (c := fun k => (k = 0 → (oid inviter).isOk = true) ∧
    (k = 4 → (oid invitee).isOk = true)), hlength, Agrees]
  · constructor
    · intro h
      refine ⟨fun n hn => ?_, (h 0 (by decide)).2.1 rfl, (h 4 (by decide)).2.2 rfl⟩
      have hn' : (1 ≤ n ∧ n ≤ 8) ∧ ¬ (n = 3 ∨ n = 7) := by
        simp only [List.mem_cons, List.not_mem_nil, or_false] at hn
        omega
      have hfault := (h (n - 1) (by omega)).1
      rwa [Nat.sub_add_cancel hn'.1.1, thrown, if_neg hn'.2] at hfault
    · rintro ⟨hfault, hinviter, hinvitee⟩ k hk
      refine ⟨?_, fun _ => hinviter, fun _ => hinvitee⟩
      rw [thrown]
      split
      · rfl
      · refine hfault (k + 1) ?_
        simp only [List.mem_cons, List.not_mem_nil, or_false]
        omega
  · -- only the two entries look an id up
    rintro (_ | _ | _ | _ | _ | _ | _ | _ | k) op hop d
    · obtain rfl := Option.some.inj hop
      simp [hadd]
    · obtain rfl := Option.some.inj hop
      simp [hset]
    · obtain rfl := Option.some.inj hop
      simp [unreadOp_eq]
    · obtain rfl := Option.some.inj hop
      simp [hset]
    · obtain rfl := Option.some.inj hop
      simp [hadd]
    · obtain rfl := Option.some.inj hop
      simp [hset]
    · obtain rfl := Option.some.inj hop
      simp [unreadOp_eq]
    · obtain rfl := Option.some.inj hop
      simp [hset]
    · cases hop

/-- The phases at the operations of an agreement behind the first one. -/
theorem agree_phase {oid : String → Except SystemError ω} {inviter invitee tonodeid : String}
    {fault : ℕ → Option SystemError} {db : GraphDb ω}
    (h : phaseOf (littleIDBigID inviter invitee) db.friend.addFriend = .stuck) :
    phaseOf (littleIDBigID inviter invitee) (run (fun n => thrown fault (n + 1))
        (graphOps oid inviter invitee tonodeid fault).tail db).2.friend.addFriend =
      if Agrees oid inviter invitee fault then .finished else .stuck := by
  have hset : ∀ {status : String} {d d' : GraphDb ω},
      onFriendDb (setStatus (littleIDBigID inviter invitee) status) d = .ok d' →
      phaseOf (littleIDBigID inviter invitee) d.friend.addFriend = .stuck →
      phaseOf (littleIDBigID inviter invitee) d'.friend.addFriend = phaseOfStatus status := by
    intro status d d' hd' hd
    rw [phaseOf_onSetStatus hd', hd]
    exact if_pos ⟨rfl, by decide⟩
  have hops : ∀ k op, (graphOps oid inviter invitee tonodeid fault).tail[k]? = some op →
      ∀ d d' : GraphDb ω, phaseOf (littleIDBigID inviter invitee) d.friend.addFriend =
          (if k = 8 then .finished else .stuck) → op d = .ok d' →
        phaseOf (littleIDBigID inviter invitee) d'.friend.addFriend =
          if k + 1 = 8 then .finished else .stuck := by
    rintro (_ | _ | _ | _ | _ | _ | _ | _ | k) op hop d d' hd hd'
    · obtain rfl := Option.some.inj hop
      rw [addFriend_onAddToFriends hd']
      exact hd
    · obtain rfl := Option.some.inj hop
      exact hset hd' hd
    · obtain rfl := Option.some.inj hop
      obtain rfl := Except.ok.inj hd'
      exact hd
    · obtain rfl := Option.some.inj hop
      exact hset hd' hd
    · obtain rfl := Option.some.inj hop
      rw [addFriend_onAddToFriends hd']
      exact hd
    · obtain rfl := Option.some.inj hop
      exact hset hd' hd
    · obtain rfl := Option.some.inj hop
      obtain rfl := Except.ok.inj hd'
      exact hd
    · obtain rfl := Option.some.inj hop
      exact hset hd' hd
    · cases hop
  obtain ⟨n, -, hphase, hok⟩ := run_outline (I := fun k (d : GraphDb ω) =>
    phaseOf (littleIDBigID inviter invitee) d.friend.addFriend =
      if k = 8 then .finished else .stuck) hops (fun n => thrown fault (n + 1)) h
  rw [hphase]
  refine if_congr ?_ rfl rfl
  rw [← agree_ok_iff oid inviter invitee tonodeid fault db]
  exact hok.symm

/-- An agreement leaves the requests under other keys alone. -/
theorem findOne_graphOp_of_ne {oid : String → Except SystemError ω} {inviter invitee : String}
    {tonodeid key : String} {fault : ℕ → Option SystemError}
    (hne : key ≠ littleIDBigID inviter invitee)
    {op : GraphDb ω → Except SystemError (GraphDb ω)}
    (hop : op ∈ graphOps oid inviter invitee tonodeid fault) {d d' : GraphDb ω}
    (h : op d = .ok d') :
    findOne (hasKey key) d'.friend.addFriend = findOne (hasKey key) d.friend.addFriend := by
  have hset : ∀ status, onFriendDb (setStatus (littleIDBigID inviter invitee) status) d = .ok d' →
      findOne (hasKey key) d'.friend.addFriend = findOne (hasKey key) d.friend.addFriend := by
    intro status hd'
    rw [onFriendDb_setStatus] at hd'
    obtain rfl := Except.ok.inj hd'
    exact findOne_updateRequest_of_ne (setStatus_eq _ _ d.friend) hne fun _ => rfl
  have hadd : ∀ userID info, onFriendDb (addToFriends oid userID info) d = .ok d' →
      findOne (hasKey key) d'.friend.addFriend = findOne (hasKey key) d.friend.addFriend := by
    intro userID info hd'
    rw [addFriend_onAddToFriends hd']
  have hunread : ∀ fault userid, unreadOp fault userid tonodeid d = .ok d' →
      findOne (hasKey key) d'.friend.addFriend = findOne (hasKey key) d.friend.addFriend := by
    intro fault userid hd'
    obtain rfl := Except.ok.inj hd'
    rfl
  simp only [graphOps, List.mem_cons, List.not_mem_nil, or_false] at hop
  rcases hop with rfl | rfl | rfl | rfl | rfl | rfl | rfl | rfl | rfl
  · exact hset _ h
  · exact hadd _ _ h
  · exact hset _ h
  · exact hunread _ _ h
  · exact hset _ h
  · exact hadd _ _ h
  · exact hset _ h
  · exact hunread _ _ h
  · exact hset _ h

/-- A request that waits is taken up. -/
theorem graphAuthorize_of_waiting (oid : String → Except SystemError ω) {inviter invitee : String}
    {db : GraphDb ω} (h : phaseOf (littleIDBigID inviter invitee) db.friend.addFriend = .waiting)
    (fault : ℕ → Option SystemError) :
    ∃ tonodeid, (graphAuthorize oid inviter invitee fault db).2 =
      (run (fun n => thrown fault (n + 0))
        (onFriendDb (setStatus (littleIDBigID inviter invitee) "agree") ::
          (graphOps oid inviter invitee tonodeid fault).tail) db).2 := by
  obtain ⟨doc, hfind, hstatus⟩ := phaseOf_eq_waiting_iff.mp h
  have hops : graphOps oid inviter invitee doc.toNodeID fault =
      onFriendDb (setStatus (littleIDBigID inviter invitee) "agree") ::
        (graphOps oid inviter invitee doc.toNodeID fault).tail := rfl
  refine ⟨doc.toNodeID, ?_⟩
  rw [graphAuthorize, findRequest, hfind, ← hops, ← run_zero]
  simp only
  rw [if_neg (not_not.mpr hstatus)]
  rcases run (thrown fault) (graphOps oid inviter invitee doc.toNodeID fault) db
    with ⟨_ | _, _⟩
  · rfl
  · rfl

/-- Any other request is refused. -/
theorem graphAuthorize_of_not_waiting {oid : String → Except SystemError ω}
    {inviter invitee : String} {db : GraphDb ω}
    (h : phaseOf (littleIDBigID inviter invitee) db.friend.addFriend ≠ .waiting)
    (fault : ℕ → Option SystemError) :
    graphAuthorize oid inviter invitee fault db =
      (.error (if findRequest inviter invitee db.friend = none then
          ⟨40008, "not find add friend request"⟩
        else ⟨40009, "add friend authorize info not consistently"⟩), db) := by
  rw [graphAuthorize]
  cases hfind : findRequest inviter invitee db.friend with
  | none => rfl
  | some doc =>
      have hstatus : doc.status ≠ "createNodeCount" :=
        fun hwaits => h (phaseOf_eq_waiting_iff.mpr ⟨doc, hfind, hwaits⟩)
      simp only
      rw [if_pos hstatus, if_neg (Option.some_ne_none doc)]

/-- `addFriendAuthorize` leaves a request alone that it does not take up. -/
theorem findOne_graphAuthorize {oid : String → Except SystemError ω} {inviter invitee : String}
    {fault : ℕ → Option SystemError} {db : GraphDb ω} {key : String}
    (h : ¬ (phaseOf key db.friend.addFriend = .waiting ∧ littleIDBigID inviter invitee = key ∧
      fault 0 = none)) :
    findOne (hasKey key) (graphAuthorize oid inviter invitee fault db).2.friend.addFriend =
      findOne (hasKey key) db.friend.addFriend := by
  by_cases hwaits : phaseOf (littleIDBigID inviter invitee) db.friend.addFriend = .waiting
  · obtain ⟨tonodeid, hrun⟩ := graphAuthorize_of_waiting oid hwaits fault
    rw [hrun]
    cases hfault₀ : fault 0 with
    | some e => rw [run_cons_fault (thrown fault) 0 (e := e) hfault₀]
    | none =>
        have hne : key ≠ littleIDBigID inviter invitee := by
          rintro rfl
          exact h ⟨hwaits, rfl, hfault₀⟩
        exact run_inv (I := fun d : GraphDb ω => findOne (hasKey key) d.friend.addFriend =
          findOne (hasKey key) db.friend.addFriend)
          (fun op hop d d' hd hd' => (findOne_graphOp_of_ne hne hop hd').trans hd) _ rfl
  · rw [graphAuthorize_of_not_waiting hwaits]

/-- **What `addFriendAuthorize` does to a phase.** -/
theorem phase_graphAuthorize (oid : String → Except SystemError ω) (inviter invitee : String)
    (fault : ℕ → Option SystemError) (db : GraphDb ω) (key : String) :
    phaseOf key (graphAuthorize oid inviter invitee fault db).2.friend.addFriend =
      (phaseOf key db.friend.addFriend).step oid key
        (.addFriendAuthorize inviter invitee fault) := by
  rw [RequestPhase.step]
  split
  · rename_i htakes
    obtain ⟨hwaits, rfl, hfault₀⟩ := htakes
    obtain ⟨tonodeid, hrun⟩ := graphAuthorize_of_waiting oid hwaits fault
    rw [hrun, run_cons_ok (thrown fault) 0 hfault₀ (onFriendDb_setStatus _ _ _)]
    refine agree_phase ?_
    rw [phaseOf_statusDocs, hwaits]
    exact if_pos ⟨rfl, by decide⟩
  · rename_i hnot
    rw [phaseOf, phaseOf, findOne_graphAuthorize hnot]

/-! ### Runs -/

/-- What a step does to a phase. -/
theorem phase_graphStep (oid : String → Except SystemError ω) (key : String) (db : GraphDb ω)
    (e : GraphEvent) : phaseOf key (graphStep oid db e).friend.addFriend =
      (phaseOf key db.friend.addFriend).step oid key e := by
  cases e with
  | addFriend frd msgNodeid fault => exact phase_addFriend oid frd msgNodeid fault db.friend key
  | addFriendAuthorize inviter invitee fault =>
      exact phase_graphAuthorize oid inviter invitee fault db key

/-- **A request goes through its phases**, in every run and whatever fails, as if there were no
other requests. -/
theorem phase_run (oid : String → Except SystemError ω) (key : String) (db : GraphDb ω)
    (es : List GraphEvent) : phaseOf key (es.foldl (graphStep oid) db).friend.addFriend =
      es.foldl (RequestPhase.step oid key) (phaseOf key db.friend.addFriend) := by
  induction es generalizing db with
  | nil => rfl
  | cons e es ih => rw [List.foldl_cons, List.foldl_cons, ih, phase_graphStep]

/-- **A request that is stuck or finished stays the document it is.** -/
theorem findOne_run_of_final (oid : String → Except SystemError ω) {key : String}
    {db : GraphDb ω} (h : (phaseOf key db.friend.addFriend).Final) (es : List GraphEvent) :
    findOne (hasKey key) (es.foldl (graphStep oid) db).friend.addFriend =
      findOne (hasKey key) db.friend.addFriend := by
  induction es generalizing db with
  | nil => rfl
  | cons e es ih =>
      have hstep : findOne (hasKey key) (graphStep oid db e).friend.addFriend =
          findOne (hasKey key) db.friend.addFriend := by
        cases e with
        | addFriend frd msgNodeid fault =>
            refine findOne_addFriend fun hmakes => ?_
            rw [hmakes.1] at h
            rcases h with h | h <;> cases h
        | addFriendAuthorize inviter invitee fault =>
            refine findOne_graphAuthorize fun htakes => ?_
            rw [htakes.1] at h
            rcases h with h | h <;> cases h
      rw [List.foldl_cons, ih, hstep]
      rw [phaseOf, hstep]
      exact h

/-- What is left of a request that is stuck: no call takes it up, or makes another one between
the two users, and both are told of it as if it waited. -/
structure GivenUp (oid : String → Except SystemError ω) (doc : AddFriendDoc) (db : GraphDb ω) :
    Prop where
  found : findOne (hasKey doc.littleIDBigID) db.friend.addFriend = some doc
  asked : ∀ frd msgNodeid fault,
    littleIDBigID frd.inviterID frd.inviteeID = doc.littleIDBigID →
      addFriend frd msgNodeid fault db.friend = (.error ⟨40004, "add friend failure"⟩, db.friend)
  agreed : ∀ inviter invitee fault, littleIDBigID inviter invitee = doc.littleIDBigID →
    graphAuthorize oid inviter invitee fault db =
      (.error ⟨40009, "add friend authorize info not consistently"⟩, db)
  told : ∀ userid limit, userid = doc.inviter ∨ userid = doc.invitee →
    doc.info ∈ queryAddfriendInfo userid limit db.friend.addFriend

omit [DecidableEq ω] in
/-- A second request is refused. -/
theorem addFriend_of_found {frd : AddFriend} {db : FriendDb ω}
    (h : phaseOf (littleIDBigID frd.inviterID frd.inviteeID) db.addFriend ≠ .absent)
    (msgNodeid : String) (fault : ℕ → Option SystemError) :
    addFriend frd msgNodeid fault db = (.error ⟨40004, "add friend failure"⟩, db) := by
  have hops : addFriendOps (ω := ω) frd msgNodeid =
      insertRequest frd.request :: (addFriendOps frd msgNodeid).tail := rfl
  rw [addFriend, run_zero fault, hops]
  cases hfault₀ : fault 0 with
  | some e => rw [run_cons_fault fault 0 hfault₀]
  | none =>
      have hinsert := (insertRequest_eq frd.request db).trans (if_neg h)
      rw [run_cons_error fault 0 hfault₀ hinsert]

/-- A request that is stuck is given up. -/
theorem givenUp_of_stuck {key : String} {db : GraphDb ω}
    (h : phaseOf key db.friend.addFriend = .stuck) (oid : String → Except SystemError ω) :
    ∃ doc, doc.littleIDBigID = key ∧ GivenUp oid doc db := by
  cases hfind : findOne (hasKey key) db.friend.addFriend with
  | none =>
      rw [phaseOf, hfind] at h
      cases h
  | some doc =>
      have hkey : doc.littleIDBigID = key := key_of_lookup hfind
      have hfinish : doc.status ≠ "finish" := by
        intro hstatus
        rw [phaseOf, hfind, Option.elim_some, hstatus] at h
        exact absurd h (by decide)
      subst hkey
      refine ⟨doc, rfl, hfind, ?_, ?_, ?_⟩
      · intro frd msgNodeid fault hk
        exact addFriend_of_found (by rw [hk, h]; decide) msgNodeid fault
      · intro inviter invitee fault hk
        rw [graphAuthorize_of_not_waiting (by rw [hk, h]; decide), findRequest, hk, hfind,
          if_neg (Option.some_ne_none doc)]
      · intro userid limit huser
        refine info_mem_queryAddfriendInfo limit (mem_of_lookup hfind) ?_
        rw [AddFriendDoc.pending, Bool.and_eq_true, Bool.or_eq_true, beq_iff_eq, beq_iff_eq,
          bne_iff_ne]
        exact ⟨huser.imp Eq.symm Eq.symm, hfinish⟩

/-- **A request that is cut is stuck for good**: in every run that follows it stays the same
document, which is refused to every call and told to both users. -/
theorem stuck_for_good (oid : String → Except SystemError ω) (key : String) (db : GraphDb ω)
    (h : phaseOf key db.friend.addFriend = .stuck) :
    ∃ doc, doc.littleIDBigID = key ∧
      ∀ es : List GraphEvent, GivenUp oid doc (es.foldl (graphStep oid) db) := by
  obtain ⟨doc, rfl, hdoc⟩ := givenUp_of_stuck h oid
  refine ⟨doc, rfl, fun es => ?_⟩
  have hsame := findOne_run_of_final oid (.inl h) es
  have hstuck : phaseOf doc.littleIDBigID (es.foldl (graphStep oid) db).friend.addFriend =
      .stuck := by
    rw [phaseOf, hsame]
    exact h
  obtain ⟨doc', hkey, hdoc'⟩ := givenUp_of_stuck hstuck oid
  have hfound := hdoc'.found
  rw [hkey, hsame, hdoc.found] at hfound
  obtain rfl := Option.some.inj hfound
  exact hdoc'

/-- An agreement that is cut between the two entries, and then tried again. -/
theorem stuck_for_good_agreed :
    ∃ doc, doc.littleIDBigID = littleIDBigID idA idB ∧ ∀ es : List GraphEvent,
      GivenUp hexOid doc (es.foldl (graphStep hexOid)
        ([asked, agreed (failsAt 2)].foldl (graphStep hexOid) (GraphDb.new anyUser))) :=
  stuck_for_good hexOid (littleIDBigID idA idB)
    ([asked, agreed (failsAt 2)].foldl (graphStep hexOid) (GraphDb.new anyUser)) (by decide)

end Yijian
