import Yijian.SessionMap

/-!
# Whose Session a Request Ends

A Logout and a ClientDisConnect name a user and a device. The handler checks the device
against the list of the named user, but neither against the connection: the document that it
stores may be that of a device of somebody else, the number that it stores somebody else's.

## Convention

What belongs to the sender of a message is the document of the device that its connection has
connected with, and in this document its own number. The statement is a frame condition for one
step of the service, the storing of the number included, and then for runs: whatever documents and
numbers are not the sender's are as they were. A Login is free to make a document, and takes the
device for its user. The device that a connection carries is one of its user as long as no Login is
cut, which is the invariant that the condition rests on.

## Main results

* `NodesOwned.step`: the device that a connection has connected with is one of its user.
* `framed_start`: the number of a message goes under the sender, in the document of a device
  of the sender.
* `frame_kept_iff`: the runs in which a request leaves what is not the sender's alone.
* `not_frame_kept`: the phone of one user logs out the tablet of another.
-/

namespace Yijian

open Documents Runs

variable {ι θ : Type}

/-! ### What belongs to a user -/

/-- The device is in the list of the user. -/
def Owned (canon : String → Except SystemError String) (db : DeviceDb) (userid uuid : String) :
    Prop :=
  ∃ id, canon userid = .ok id ∧ Listed db id uuid

/-- The key names the user. -/
def Names (canon : String → Except SystemError String) (userid key : String) : Prop :=
  key = userid ∨ ∃ id, canon userid = .ok id ∧ canon key = .ok id

/-- Between the two states no document of a device outside `own` changes, and in the
documents of the others no number that is not under a key of `mine`. -/
structure Framed (own mine : String → Prop) (before after : DeviceDb) : Prop where
  others : ∀ uuid, ¬ own uuid → after.device uuid = before.device uuid
  entries : ∀ uuid key, own uuid → ¬ mine key → after.users uuid key = before.users uuid key

/-- What is framed is framed from either side. -/
theorem Framed.symm {own mine : String → Prop} {db db' : DeviceDb}
    (h : Framed own mine db db') : Framed own mine db' db :=
  ⟨fun uuid ho => (h.others uuid ho).symm, fun uuid key ho hm => (h.entries uuid key ho hm).symm⟩

/-- Two changes within the frame are one. -/
theorem Framed.trans {own mine : String → Prop} {db₁ db₂ db₃ : DeviceDb}
    (h₁ : Framed own mine db₁ db₂) (h₂ : Framed own mine db₂ db₃) : Framed own mine db₁ db₃ :=
  ⟨fun uuid ho => (h₂.others uuid ho).trans (h₁.others uuid ho),
    fun uuid key ho hm => (h₂.entries uuid key ho hm).trans (h₁.entries uuid key ho hm)⟩

/-- What happens inside the frame before something does not matter to it. -/
theorem Framed.congr_left {own mine : String → Prop} {db₁ db₂ db₃ : DeviceDb}
    (h : Framed own mine db₁ db₂) : Framed own mine db₁ db₃ ↔ Framed own mine db₂ db₃ :=
  ⟨h.symm.trans, h.trans⟩

/-! ### Whose connection it is -/

/-- What holds of the user and the uuid of every connection. -/
def NodesMeet (P : String → String → Prop) (s : Server ι) : Prop :=
  ∀ i node, s.nodes i = some node → P node.io.userid node.io.uuid

/-- A ClientConnect with these answers sets the current node. -/
def Sets (connect : ClientConnect) (db : DbAnswers) : Prop :=
  ∃ devices, db.queryUser = .ok devices ∧ devices.contains connect.uuid = true

/-- A handler leaves the user and the uuid of its connection, or is a ClientConnect of a
device of the user. -/
theorem who_dispatchType {datatype : UInt8} {h : Handling ι} {i : ι} {io io' : ReadIo}
    {mounts : List (ι × Reply)} (hrun : dispatchType datatype h i io = some (io', mounts)) :
    (io'.userid = io.userid ∧ io'.uuid = io.uuid) ∨
      ∃ connect db, h = .clientConnect connect db ∧ Sets connect db ∧
        io'.userid = connect.userid ∧ io'.uuid = connect.uuid := by
  rcases dispatchType_cases hrun with rfl | ⟨connect, db, info, stored, rfl, hfind, husers, rfl⟩
  · exact .inl ⟨rfl, rfl⟩
  · by_cases hsets : Sets connect db
    · exact .inr ⟨connect, db, rfl, hsets, rfl, rfl⟩
    · left
      simp only [dispatchType] at hrun
      split at hrun
      · obtain ⟨⟨io₁, replies⟩, hconn, heq⟩ := Option.map_eq_some_iff.mp hrun
        obtain ⟨rfl, -⟩ := Prod.mk.inj heq
        unfold clientConnect at hconn
        split at hconn
        · obtain ⟨hio, -⟩ := Prod.mk.inj (Option.some.inj hconn)
          exact hio ▸ ⟨rfl, rfl⟩
        · rename_i devices hquery
          split at hconn
          · rename_i huuid
            exact absurd ⟨devices, hquery, huuid⟩ hsets
          · obtain ⟨hio, -⟩ := Prod.mk.inj (Option.some.inj hconn)
            exact hio ▸ ⟨rfl, rfl⟩
      · cases hrun

variable [DecidableEq ι]

/-- A node that meets the condition. -/
theorem NodesMeet.setNode {P : String → String → Prop} {s : Server ι} (h : NodesMeet P s)
    {i : ι} {node : Node} (hnode : P node.io.userid node.io.uuid) :
    NodesMeet P (s.setNode i node) := by
  intro j node' hj
  by_cases hij : j = i
  · subst hij
    obtain rfl := Option.some.inj ((s.setNode_self j node).symm.trans hj)
    exact hnode
  · exact h j node' ((s.setNode_of_ne hij node).symm.trans hj)

/-- Mounting leaves users and devices of the nodes alone. -/
theorem NodesMeet.mount {P : String → String → Prop} {s : Server ι} (h : NodesMeet P s)
    (extra : Reply → ℕ) (mounts : List (ι × Reply)) :
    NodesMeet P (mountBuffer2Node extra s mounts) := by
  intro j node' hj
  obtain ⟨node, hnode, rfl⟩ := Option.map_eq_some_iff.mp hj
  exact h j node hnode

/-- A task sets the user and the device of a node by a ClientConnect only. -/
theorem NodesMeet.workTask {P : String → String → Prop} {s : Server ι} (h : NodesMeet P s)
    (extra : Reply → ℕ) (i : ι) (k : ℕ) {handling : Handling ι}
    (hsets : ∀ connect db, handling = .clientConnect connect db → Sets connect db →
      P connect.userid connect.uuid) : NodesMeet P (workTask extra s i k handling) := by
  have htask := taskStep extra s i k handling
  generalize Yijian.workTask extra s i k handling = s' at htask ⊢
  cases htask with
  | idle => exact h
  | @rejected node w back errnum errmsg hnode =>
      refine NodesMeet.mount (s := s.setNode i _) ?_ extra _
      exact NodesMeet.setNode (s := s) h (h i node hnode)
  | @handled node w back io mounts hnode hw hback hgate hrun =>
      refine NodesMeet.mount (s := { s.setNode i _ with log := _ }) ?_ extra mounts
      refine NodesMeet.setNode (s := s) h ?_
      rcases who_dispatchType hrun with ⟨huser, huuid⟩ | ⟨connect, db, heq, hset, huser, huuid⟩
      · rw [huser, huuid]
        exact h i node hnode
      · rw [huser, huuid]
        exact hsets connect db heq hset

/-- The event loop accepts connections of nobody and leaves the others as they are. -/
theorem NodesMeet.loop {P : String → String → Prop} {s : Server ι} (h : NodesMeet P s)
    (extra : Reply → ℕ) {e : Event ι} (hnew : P "" "") (hwork : ∀ i k h, e ≠ .work i k h) :
    NodesMeet P (Yijian.step extra s e) := by
  cases e with
  | accept i sessionid =>
      rw [step, socketAcceptCallback]
      split
      · exact h
      · exact NodesMeet.setNode (s := s) h hnew
  | frame i back u =>
      rw [step]
      rcases readFrame_cases s i back u with ⟨-, heq⟩ | ⟨node, v, tasks, pinglist, hi, -, hread⟩
      · rw [heq]
        exact h
      · rw [hread]
        exact NodesMeet.setNode (s := s) h (h i node hi)
  | readClosed i =>
      rw [step, readClosed]
      split
      · exact h
      · rename_i node hi
        split
        · exact NodesMeet.setNode (s := s) h (h i node hi)
        · exact h
  | work i k handling => exact absurd rfl (hwork i k handling)
  | write i r =>
      rw [step, connectionWriteCallback]
      split
      · exact h
      · rename_i node hi
        split
        · exact h
        · exact NodesMeet.setNode (s := s) h (h i node hi)
  | pingtime n => exact h

/-- A connection that has connected has done so with a device of its user. -/
def NodesOwned (canon : String → Except SystemError String) (s : Service ι θ) : Prop :=
  NodesMeet (fun userid uuid => userid = "" ∨ Owned canon s.db userid uuid) s.server

omit [DecidableEq ι] in
/-- A task is of a user that owns the device of the connection. -/
theorem NodesOwned.task {canon : String → Except SystemError String} {s : Service ι θ}
    (h : NodesOwned canon s) {q : RequestEvent ι θ} {task : ReadIo × UInt8 × ℕ}
    (hhandles : s.handles q = some task) (huser : task.1.userid ≠ "") :
    Owned canon s.db task.1.userid task.1.uuid := by
  obtain ⟨htask, -⟩ := Option.filter_eq_some_iff.mp hhandles
  rw [Server.task] at htask
  simp only [Option.bind_eq_bind, Option.bind_eq_some_iff] at htask
  obtain ⟨node, hnode, w, -, back, -, htask⟩ := htask
  split at htask
  · obtain rfl := Option.some.inj htask
    exact (h q.i node hnode).resolve_left huser
  · cases htask

omit [DecidableEq ι] in
/-- There are no connections at the start. -/
theorem nodesOwned_new (canon : String → Except SystemError String) (users : List Account) :
    NodesOwned canon (Service.new users : Service ι θ) :=
  fun _ _ hnode => (nomatch hnode)

variable [DecidableEq θ]

/-- A step leaves the devices of the connections with their users. -/
theorem NodesOwned.step {canon : String → Except SystemError String} {s : Service ι θ}
    (h : NodesOwned canon s) (extra : Reply → ℕ) (e : ServiceEvent ι θ) :
    NodesOwned canon (serviceStep canon extra s e) := by
  cases e with
  | loop e =>
      by_cases hwork : ∃ i k handling, e = .work i k handling
      · obtain ⟨i, k, handling, rfl⟩ := hwork
        exact h
      · have hnot : ∀ i k handling, e ≠ .work i k handling :=
          fun i k handling heq => hwork ⟨i, k, handling, heq⟩
        have hloop : serviceStep canon extra s (.loop e) =
            { s with server := Yijian.step extra s.server e } := by
          cases e with
          | work i k handling => exact absurd rfl (hnot i k handling)
          | _ => rfl
        rw [hloop]
        exact NodesMeet.loop (s := s.server) h extra (.inl rfl) hnot
  | request q =>
      simp only [serviceStep, Service.request]
      cases hhandles : s.handles q with
      | none =>
          simp only
          split
          · exact NodesMeet.workTask (s := s.server) h extra q.i q.k (by intros; contradiction)
          · exact h
      | some task =>
          have hkeep : ∀ {userid uuid : String}, Owned canon (s.start q task).db userid uuid →
              Owned canon (q.r.run canon task.2.2 q.fault (s.start q task)).1.db userid uuid := by
            rintro userid uuid ⟨id, hid, hlisted⟩
            exact ⟨id, hid, hlisted.run canon task.2.2 q.fault q.r⟩
          refine NodesMeet.workTask (s := s.server) ?_ extra q.i q.k ?_
          · intro i node hnode
            refine (h i node hnode).imp id ?_
            rintro ⟨id, hid, hlisted⟩
            exact hkeep ⟨id, hid, (listed_start s q task id _).mpr hlisted⟩
          · rintro connect db heq ⟨devices, hquery, huuid⟩
            right
            apply hkeep
            cases hr : q.r with
            | clientConnect m unread =>
                rw [hr] at heq
                obtain ⟨rfl, rfl⟩ := Handling.clientConnect.inj heq
                obtain ⟨-, user, huser, rfl⟩ := query_of_answers hquery
                exact listed_of_query huser huuid
            | _ =>
                rw [hr] at heq
                cases heq

/-! ### What a request leaves alone -/

omit [DecidableEq ι] [DecidableEq θ] in
/-- The number of a message goes under its sender, in the document of a device of the
sender. -/
theorem framed_start {canon : String → Except SystemError String} {s : Service ι θ}
    (hdocs : DocsInv s.db) {q : RequestEvent ι θ} {task : ReadIo × UInt8 × ℕ}
    (howned : Owned canon s.db task.1.userid task.1.uuid) :
    Framed (Owned canon s.db task.1.userid) (Names canon task.1.userid) s.db
      (s.start q task).db := by
  rw [Service.start]
  split
  · constructor
    · intro uuid hother
      rw [hdocs.device_updateSessionID]
      cases hdoc : s.db.device uuid with
      | none => rfl
      | some doc =>
          have hkey : doc.uuid = uuid := key_of_lookup (κ := String) hdoc
          have hne : doc.uuid ≠ task.1.uuid := by
            intro heq
            exact hother (hkey ▸ heq ▸ howned)
          simp [hne]
    · intro uuid key _ hkey
      rw [hdocs.users_updateSessionID]
      split
      · have hne : key ≠ task.1.userid := fun heq => hkey (.inl heq)
        rw [putNumber, Function.update_apply]
        split
        · rename_i heq
          rw [Function.update_of_ne hne, heq]
        · rfl
      · rfl
  · exact ⟨fun _ _ => rfl, fun _ _ _ _ => rfl⟩

/-- A Logout takes the login of the device back, a ClientDisConnect does not. -/
def DeviceRequest.isLogout : DeviceRequest ι → Bool
  | .logout _ => true
  | _ => false

/-- The document of a device when a session on it has been ended: the three fields that
`findUUID` does not read come from `connectInfo_`. -/
def ConnectInfo.ended (doc current : ConnectInfo) (isLogout : Bool) (key : String)
    (sessionid : ℕ) : ConnectInfo :=
  { doc with
    isconnected := false
    islogin := doc.islogin && !isLogout
    servername := serverName
    users := Function.update doc.users key (some (sessionid : ℤ))
    clientversion := current.clientversion
    osversion := current.osversion
    appversion := current.appversion }

/-- The document says already what the end of a session makes it say. -/
structure Ended (doc current : ConnectInfo) (isLogout : Bool) (key : String)
    (sessionid : ℕ) : Prop where
  isconnected : doc.isconnected = false
  islogin : isLogout = true → doc.islogin = false
  users : doc.users key = some (sessionid : ℤ)
  clientversion : doc.clientversion = current.clientversion
  osversion : doc.osversion = current.osversion
  appversion : doc.appversion = current.appversion

/-- A device that is ended stays as it is if it says so already. -/
theorem ended_eq_self_iff {doc current : ConnectInfo} {isLogout : Bool} {key : String}
    {sessionid : ℕ} (hserver : doc.servername = serverName) :
    doc.ended current isLogout key sessionid = doc ↔
      Ended doc current isLogout key sessionid := by
  constructor
  · intro h
    have husers : (doc.ended current isLogout key sessionid).users key = doc.users key := by
      rw [h]
    have hlogin : (doc.ended current isLogout key sessionid).islogin = doc.islogin := by rw [h]
    constructor
    · exact (congrArg ConnectInfo.isconnected h).symm
    · rintro rfl
      simpa [ConnectInfo.ended] using hlogin.symm
    · simpa [ConnectInfo.ended] using husers.symm
    · exact (congrArg ConnectInfo.clientversion h).symm
    · exact (congrArg ConnectInfo.osversion h).symm
    · exact (congrArg ConnectInfo.appversion h).symm
  · rintro ⟨hconnected, hlogin, husers, hclient, hos, happ⟩
    have hlogin' : (doc.islogin && !isLogout) = doc.islogin := by
      cases isLogout with
      | false => simp
      | true => simp [hlogin rfl]
    rw [ConnectInfo.ended, ← husers, Function.update_eq_self, ← hserver, hlogin', ← hclient,
      ← hos, ← happ, ← hconnected]

omit [DecidableEq ι] in
/-- **What the end of a session does to the documents**: nothing, or it stores the document
of its device. -/
theorem ListedInv.device_ending {s : DbState} (h : ListedInv s.db)
    (canon : String → Except SystemError String) (sessionid : ℕ)
    (fault : ℕ → Option SystemError) {r : DeviceRequest ι} {e : Ending}
    (hend : r.ending = some e) :
    (∃ doc, Finds canon fault s.db e.userid e.uuid ∧ s.db.device e.uuid = some doc ∧
        ∀ uuid, (r.run canon sessionid fault s).1.db.device uuid =
          if uuid = e.uuid then some (doc.ended s.current r.isLogout e.key sessionid)
          else s.db.device uuid) ∨
      (¬ Finds canon fault s.db e.userid e.uuid ∧
        (r.run canon sessionid fault s).1.db = s.db) := by
  have hstore : ∀ {info : ConnectInfo} {db' : DeviceDb},
      Finds canon fault s.db e.userid e.uuid → db' = s.db.updateUUID info →
      (∀ doc, s.db.device e.uuid = some doc → info.uuid = e.uuid ∧
        { info with servername := serverName } =
          doc.ended s.current r.isLogout e.key sessionid) →
      ∃ doc, Finds canon fault s.db e.userid e.uuid ∧ s.db.device e.uuid = some doc ∧
        ∀ uuid, db'.device uuid =
          if uuid = e.uuid then some (doc.ended s.current r.isLogout e.key sessionid)
          else s.db.device uuid := by
    rintro info _ hfinds rfl hinfo
    obtain ⟨id, -, hlisted⟩ := hfinds.listed
    obtain ⟨doc, hdoc, -⟩ := h.entry id e.uuid hlisted
    obtain ⟨huuid, hended⟩ := hinfo doc hdoc
    refine ⟨doc, hfinds, hdoc, fun uuid => ?_⟩
    rw [device_updateUUID, hended, huuid]
    by_cases heq : uuid = e.uuid
    · rw [if_pos heq, if_pos heq, heq, hdoc, Option.map_some]
    · rw [if_neg heq, if_neg heq]
  cases r with
  | login m => cases hend
  | logout m =>
      obtain rfl := Option.some.inj hend
      simp only [DeviceRequest.run]
      rcases logoutStep canon m sessionid fault s with ⟨hfinds, -, hdb⟩ | ⟨hfails, -, hdb⟩
      · refine .inl (hstore hfinds hdb fun doc hdoc => ?_)
        have hkey : doc.uuid = m.uuid := key_of_lookup (κ := String) hdoc
        simp only [DeviceDb.findUUID, hdoc, ConnectInfo.logout, ConnectInfo.ended,
          DeviceRequest.isLogout, Bool.not_true, Bool.and_false]
        exact ⟨hkey, trivial⟩
      · exact .inr ⟨hfails, hdb⟩
  | clientConnect m unread => cases hend
  | clientDisConnect m =>
      obtain rfl := Option.some.inj hend
      simp only [DeviceRequest.run]
      rcases disconnectStep canon m sessionid fault s with ⟨hfinds, hdb⟩ | ⟨hfails, hdb⟩
      · refine .inl (hstore hfinds hdb fun doc hdoc => ?_)
        have hkey : doc.uuid = m.uuid := key_of_lookup (κ := String) hdoc
        simp only [DeviceDb.findUUID, hdoc, ConnectInfo.disconnect, ConnectInfo.ended,
          DeviceRequest.isLogout, Bool.not_false, Bool.and_true]
        exact ⟨hkey, trivial⟩
      · exact .inr ⟨hfails, hdb⟩
  | other mounts => cases hend

/-- The document of a device may be stored where the device belongs to the user and the
number goes under a key of the user, or where the document says all of it already. -/
theorem framed_ended_iff {own mine : String → Prop} {db db' : DeviceDb} (hdocs : DocsInv db)
    {doc current : ConnectInfo} {isLogout : Bool} {e : Ending} {sessionid : ℕ}
    (hdoc : db.device e.uuid = some doc)
    (hstored : ∀ uuid, db'.device uuid =
      if uuid = e.uuid then some (doc.ended current isLogout e.key sessionid)
      else db.device uuid) :
    Framed own mine db db' ↔
      (own e.uuid ∧ (mine e.key ∨ doc.users e.key = some (sessionid : ℤ))) ∨
        Ended doc current isLogout e.key sessionid := by
  have hserver : doc.servername = serverName := hdocs.server doc (mem_of_lookup hdoc)
  have hdoc' : db'.device e.uuid = some (doc.ended current isLogout e.key sessionid) := by
    rw [hstored, if_pos rfl]
  have husers : (doc.ended current isLogout e.key sessionid).users =
      Function.update doc.users e.key (some (sessionid : ℤ)) := rfl
  have hkeep : ∀ uuid key, (uuid = e.uuid → key = e.key → doc.users e.key = some ↑sessionid) →
      db'.users uuid key = db.users uuid key := by
    intro uuid key hput
    by_cases huuid : uuid = e.uuid
    · subst huuid
      rw [users_of_device hdoc', users_of_device hdoc, husers, Function.update_apply]
      split
      · rename_i hkey
        rw [hkey, hput rfl hkey]
      · rfl
    · rw [DeviceDb.users, hstored, if_neg huuid, DeviceDb.users]
  constructor
  · intro h
    by_cases ho : own e.uuid
    · by_cases hm : mine e.key
      · exact .inl ⟨ho, .inl hm⟩
      · have hentry := h.entries e.uuid e.key ho hm
        rw [users_of_device hdoc', users_of_device hdoc, husers, Function.update_self] at hentry
        exact .inl ⟨ho, .inr hentry.symm⟩
    · have hsame := h.others e.uuid ho
      rw [hdoc', hdoc] at hsame
      exact .inr ((ended_eq_self_iff hserver).mp (Option.some.inj hsame))
  · rintro (⟨ho, hkey⟩ | hended)
    · constructor
      · intro uuid hother
        have hne : uuid ≠ e.uuid := by
          rintro rfl
          exact hother ho
        rw [hstored, if_neg hne]
      · intro uuid key _ hm
        refine hkeep uuid key fun _ heq => hkey.resolve_left fun hmine => ?_
        exact hm (heq ▸ hmine)
    · have hself := (ended_eq_self_iff hserver).mpr hended
      constructor
      · intro uuid _
        rw [hstored]
        split
        · rename_i heq
          rw [hself, heq, hdoc]
        · rfl
      · intro uuid key _ _
        exact hkeep uuid key fun _ _ => hended.users

/-! ### Runs -/

/-- A Logout or a ClientDisConnect that the step handles on a connection of a user changes
documents of devices of that user only, and there the numbers of that user only. -/
def FrameKept (canon : String → Except SystemError String) (extra : Reply → ℕ)
    (s : Service ι θ) (e : ServiceEvent ι θ) : Prop :=
  ∀ q task ending, e = .request q → s.handles q = some task → q.r.ending = some ending →
    task.1.userid ≠ "" →
      Framed (Owned canon s.db task.1.userid) (Names canon task.1.userid) s.db
        (serviceStep canon extra s e).db

/-- A Logout or a ClientDisConnect that finds its device stores the document of a device of
the sender, with the number under a key of the sender, or stores what the documents says
already. -/
def OwnSession (canon : String → Except SystemError String) (s : Service ι θ)
    (e : ServiceEvent ι θ) : Prop :=
  ∀ q task ending doc, e = .request q → s.handles q = some task → q.r.ending = some ending →
    task.1.userid ≠ "" →
    Finds canon q.fault (s.start q task).db ending.userid ending.uuid →
    (s.start q task).db.device ending.uuid = some doc →
      (Owned canon s.db task.1.userid ending.uuid ∧
          (Names canon task.1.userid ending.key ∨
            doc.users ending.key = some (task.2.2 : ℤ))) ∨
        Ended doc (s.start q task).current q.r.isLogout ending.key task.2.2

/-- **One step**, on connections that have connected with devices of their users. -/
theorem frame_step_iff {canon : String → Except SystemError String} (extra : Reply → ℕ)
    {s : Service ι θ} (hlisted : ListedInv s.db) (hnodes : NodesOwned canon s)
    (e : ServiceEvent ι θ) : FrameKept canon extra s e ↔ OwnSession canon s e := by
  rcases serviceStep_cases canon extra s e with
    ⟨-, -, hidle⟩ | ⟨q, task, rfl, hhandles, hdb, -⟩
  · constructor
    · intro _ q task ending doc heq hhandles
      rw [hidle q heq] at hhandles
      cases hhandles
    · intro _ q task ending heq hhandles
      rw [hidle q heq] at hhandles
      cases hhandles
  · have hframed (huser : task.1.userid ≠ "") :=
      framed_start hlisted.toDocsInv (q := q) (hnodes.task hhandles huser)
    have hstart := hlisted.start q task
    constructor
    · intro hkept q' task' ending doc heq hhandles' hend huser hfinds hdoc
      obtain rfl := ServiceEvent.request.inj heq
      obtain rfl := Option.some.inj (hhandles.symm.trans hhandles')
      have hafter := (hframed huser).congr_left.mp (hkept q task ending rfl hhandles hend huser)
      rw [hdb] at hafter
      rcases hstart.device_ending canon task.2.2 q.fault hend with
        ⟨doc', -, hdoc', hstored⟩ | ⟨hfails, -⟩
      · obtain rfl := Option.some.inj (hdoc.symm.trans hdoc')
        exact (framed_ended_iff hstart.toDocsInv hdoc hstored).mp hafter
      · exact absurd hfinds hfails
    · intro hown q' task' ending heq hhandles' hend huser
      obtain rfl := ServiceEvent.request.inj heq
      obtain rfl := Option.some.inj (hhandles.symm.trans hhandles')
      refine (hframed huser).congr_left.mpr ?_
      rw [hdb]
      rcases hstart.device_ending canon task.2.2 q.fault hend with
        ⟨doc, hfinds, hdoc, hstored⟩ | ⟨-, hsame⟩
      · exact (framed_ended_iff hstart.toDocsInv hdoc hstored).mpr
          (hown q task ending doc rfl hhandles hend huser hfinds hdoc)
      · rw [hsame]
        exact ⟨fun _ _ => rfl, fun _ _ _ _ => rfl⟩

/-- **A user ends the own sessions only**, in a run in which no Login is cut short, if and
only if every Logout and every ClientDisConnect that finds its device stores the document of
a device of the sender, with the number under a key of the sender, or stores what the
document says already. -/
theorem frame_kept_iff (canon : String → Except SystemError String) (extra : Reply → ℕ)
    (users : List Account) (es : List (ServiceEvent ι θ))
    (h : StepsMeet (serviceStep canon extra) LoginsWhole (Service.new users) es) :
    StepsMeet (serviceStep canon extra) (FrameKept canon extra) (Service.new users) es ↔
      StepsMeet (serviceStep canon extra) (OwnSession canon) (Service.new users) es :=
  h.congr_of_inv (I := fun s => LoginInv s ∧ NodesOwned canon s)
    (fun _ e hs he => ⟨hs.1.step canon extra he, hs.2.step extra e⟩)
    (fun _ e hs => frame_step_iff extra hs.1.listed hs.2 e)
    ⟨loginInv_new users, nodesOwned_new canon users⟩

/-- Maria logs in on a phone and connects. -/
theorem frame_kept_phone :
    StepsMeet (serviceStep (fun id => .ok id) (fun _ => 0))
        (FrameKept (fun id => .ok id) fun _ => 0) (Service.new [maria]) phoneConnected ↔
      StepsMeet (serviceStep (fun id => .ok id) (fun _ => 0)) (OwnSession fun id => .ok id)
        (Service.new [maria]) phoneConnected :=
  frame_kept_iff _ _ _ _
    ((stepsMeet_of_forall noFault_phoneConnected).mono fun s _ he => loginsWhole_of_noFault s he)

/-- Another user. -/
def jonas : Account := ⟨"jonas", "2", "86", "word", []⟩

/-- The other user has logged in on a tablet, from the same connection. -/
def tabletLoggedIn : List (ServiceEvent Unit Unit) :=
  .loop (.accept () 0) :: asks .login 0 (fun _ => none) (.login ⟨"2", "86", "word", "tablet"⟩) ++
    phoneConnected.tail

/-- A connection of one user logs out the tablet of another. -/
theorem not_frame_kept :
    ¬ StepsMeet (serviceStep (fun id => .ok id) (fun _ => 0))
      (FrameKept (fun id => .ok id) fun _ => 0) (Service.new [maria, jonas])
      (tabletLoggedIn ++ asks .logout 101 (fun _ => none) (.logout ⟨"jonas", "tablet"⟩)) := by
  rw [stepsMeet_append]
  rintro ⟨-, -, hframe, -⟩
  have hframed := hframe _ _ _ rfl rfl rfl (by decide)
  have htablet := congrArg (Option.map ConnectInfo.islogin) (hframed.others "tablet" ?_)
  · cases htablet
  · rintro ⟨id, hid, user, huser, rfl, huuid⟩
    rcases List.mem_cons.mp huser with rfl | huser
    · have hphone : "tablet" = "phone" := List.mem_singleton.mp huuid
      exact absurd hphone (by decide)
    · obtain rfl := List.mem_singleton.mp huser
      have hmaria : "maria" = "jonas" := Except.ok.inj hid
      exact absurd hmaria (by decide)

end Yijian
