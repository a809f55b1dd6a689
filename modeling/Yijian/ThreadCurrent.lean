import Yijian.Notify
import Yijian.SessionMap

/-!
# What a Worker Thread Remembers

`connectInfo_` belongs to the worker thread and outlives the request. `findUUID` reads a
document into it but for the three version fields, and `updateUUID` stores all of it: what a
Login, a Logout or a ClientDisConnect stores depends on the ClientConnect that the thread
has handled last, whoever sent it.

## Convention

Two runs are compared that end in the same database and the same routes, with any histories behind
them; all that may differ is what the worker threads have in their `connectInfo_`. A request is then
given to a thread of each, and what it comes to is the documents and the messages it mounts, on
which connection. Messages for peer servers are not among them. The three version fields are the
only members that `findUUID` does not overwrite where it finds a document; where it finds none,
nothing is overwritten, and this is where listed devices and their documents have to go together.

## Main results

* `updateUUID_withVersions`: storing the same connect info with other versions.
* `ListedInv.outcome_iff`: what a request comes to, on two worker threads.
* `no_leak_iff`: the pairs of histories after which a request comes to the same.
* `not_no_leak`: the version of a phone is stored or lost, by what the thread did before.
-/

namespace Yijian

open Documents Runs

variable {ι θ : Type}

/-! ### Messages to the clients -/

/-- A message that a handler mounts, with what is set in it. -/
inductive DeviceMessage
  | loginRes (isSuccess : Bool) (eNo : ℤ) (eMsg userid uuid : String)
  | loginNoti (uuid : String)
  | logoutRes (uuid : String)
  | reply (r : Reply)

/-- The documents that a cursor gives before a read of it throws, and what that throws. -/
def readCursor {α : Type} (fault : ℕ → Option SystemError) : List α → List α × Option SystemError
  | [] => ([], fault 0)
  | doc :: docs =>
      match fault 0 with
      | some e => ([], some e)
      | none =>
          match readCursor (fun n => fault (n + 1)) docs with
          | (docs, e) => (doc :: docs, e)

/-- The answer to a Login that threw. -/
def loginFailure (e : SystemError) : DeviceMessage := .loginRes false e.code e.what "" ""

/-- The messages of `dispatch(chat::Login&)`: the operations on the database from the fourth
on are the reads of the cursor of `devices`. The LoginRes for the peer
servers, which is mounted last, is left out: whether it is mounted depends on the answer and on
the failures alone. -/
def loginMessages (m : Login) (fault : ℕ → Option SystemError) (i : ι) (io : ReadIo)
    (route : String → Option ι) (s : DbState) : List (ι × DeviceMessage) :=
  match dispatchLogin m fault s with
  | (.error e, _) => [(i, loginFailure e)]
  | (.ok id, s) =>
      let read := readCursor (fun n => fault (n + 4)) (s.db.devices io.userid)
      (i, .loginRes true 0 "" id io.uuid) ::
        ((read.1.filterMap (traverseDevices io.uuid route)).map fun j => (j, .loginNoti m.uuid)) ++
          (read.2.map fun e => (i, loginFailure e)).toList

/-- The messages of `dispatch(chat::Logout&)`. -/
def logoutMessage (r : Except SystemError String) : DeviceMessage :=
  match r with
  | .error e => .reply (errorBuffer e)
  | .ok uuid => .logoutRes uuid

/-- What a request mounts, with the connections that it mounts it on. `none`: the end of the
process. -/
def DeviceRequest.messages (canon : String → Except SystemError String) (sessionid : ℕ)
    (fault : ℕ → Option SystemError) (i : ι) (io : ReadIo) (route : String → Option ι)
    (s : DbState) : DeviceRequest ι → Option (List (ι × DeviceMessage))
  | .login m => some (loginMessages m fault i io route s)
  | .logout m => some [(i, logoutMessage (dispatchLogout canon m sessionid fault s).1)]
  | .clientConnect m unread =>
      (Yijian.clientConnect m (dbAnswers canon m.userid m.uuid unread fault s) io).map fun out =>
        out.2.map fun r => (i, .reply r)
  | .clientDisConnect m =>
      some ((Yijian.clientDisConnect m (dbAnswers canon m.userid m.uuid 0 fault s)).map
        fun r => (i, .reply r))
  | .other mounts => some (mounts.map fun m => (m.1, .reply (.plain m.2)))

/-! ### Versions -/

/-- The connect info with the three fields that `findUUID` does not read. -/
def ConnectInfo.withVersions (info current : ConnectInfo) : ConnectInfo :=
  { info with
    clientversion := current.clientversion
    osversion := current.osversion
    appversion := current.appversion }

/-- The three fields that `findUUID` does not read are the same. -/
def VersionsAgree (info₁ info₂ : ConnectInfo) : Prop :=
  info₁.clientversion = info₂.clientversion ∧ info₁.osversion = info₂.osversion ∧
    info₁.appversion = info₂.appversion

@[simp] theorem withVersions_uuid (info current : ConnectInfo) :
    (info.withVersions current).uuid = info.uuid := rfl

/-- What is stored with the versions of the current device tells these versions. -/
theorem withVersions_inj {info current₁ current₂ : ConnectInfo} :
    info.withVersions current₁ = info.withVersions current₂ ↔ VersionsAgree current₁ current₂ := by
  constructor
  · intro h
    have hclient := congrArg ConnectInfo.clientversion h
    have hos := congrArg ConnectInfo.osversion h
    have happ := congrArg ConnectInfo.appversion h
    exact ⟨hclient, hos, happ⟩
  · rintro ⟨hclient, hos, happ⟩
    rw [ConnectInfo.withVersions, hclient, hos, happ, ConnectInfo.withVersions]

/-- The connect info that `findUUID` finds. -/
theorem findUUID_eq_withVersions {db : DeviceDb} {uuid : String} {doc : ConnectInfo}
    (hdoc : db.device uuid = some doc) (current : ConnectInfo) :
    db.findUUID uuid current =
      ({ doc with servername := serverName } : ConnectInfo).withVersions current := by
  rw [DeviceDb.findUUID, hdoc]
  rfl

/-- Storing the same connect info with other versions stores something else. -/
theorem updateUUID_withVersions {db : DeviceDb} {info doc : ConnectInfo}
    (hdoc : db.device info.uuid = some doc) {current₁ current₂ : ConnectInfo} :
    db.updateUUID (info.withVersions current₁) = db.updateUUID (info.withVersions current₂) ↔
      VersionsAgree current₁ current₂ := by
  constructor
  · intro h
    have hdevice := congrArg (fun db => db.device info.uuid) h
    have hstored : ∀ current : ConnectInfo, (db.updateUUID (info.withVersions current)).device
        info.uuid =
          some (({ info with servername := serverName } : ConnectInfo).withVersions current) := by
      intro current
      rw [device_updateUUID]
      exact (if_pos rfl).trans (hdoc ▸ rfl)
    simp only [hstored] at hdevice
    exact withVersions_inj.mp (Option.some.inj hdevice)
  · intro h
    rw [withVersions_inj.mpr h]

/-- Inserting it with other versions inserts something else. -/
theorem insertUUID_withVersions {db db₁ db₂ : DeviceDb} {info : ConnectInfo}
    (hdoc : db.device info.uuid = none) {current₁ current₂ : ConnectInfo}
    (h₁ : db.insertUUID (info.withVersions current₁) = some db₁)
    (h₂ : db.insertUUID (info.withVersions current₂) = some db₂) :
    db₁ = db₂ ↔ VersionsAgree current₁ current₂ := by
  constructor
  · rintro rfl
    have hdevice : ∀ {current : ConnectInfo}, db.insertUUID (info.withVersions current) = some db₁ →
        db₁.device info.uuid =
          some (({ info with servername := serverName } : ConnectInfo).withVersions current) := by
      intro current h
      have hnone : db.device (info.withVersions current).uuid = none := hdoc
      rw [device_insertUUID hnone h, withVersions_uuid, if_pos rfl]
      rfl
    exact withVersions_inj.mp (Option.some.inj ((hdevice h₁).symm.trans (hdevice h₂)))
  · intro h
    rw [withVersions_inj.mpr h, h₂] at h₁
    exact (Option.some.inj h₁).symm

/-! ### What a request comes to -/

/-- The request stores the three fields as the worker thread has them: a Login, a Logout or a
ClientDisConnect that nothing stops. A ClientConnect sets them itself. -/
def StoresBack (canon : String → Except SystemError String) (fault : ℕ → Option SystemError)
    (db : DeviceDb) : DeviceRequest ι → Prop
  | .login m =>
      (∃ user, db.queryPhone m.phoneNo m.countryCode = .ok user ∧ user.password = m.password) ∧
        (fault 0 = none ∧ fault 1 = none ∧ fault 2 = none) ∧ fault 3 = none
  | .logout m => Finds canon fault db m.userid m.uuid
  | .clientConnect _ _ => False
  | .clientDisConnect m => Finds canon fault db m.userid m.uuid
  | .other _ => False

/-- The final database and the messages on all connections. -/
def DeviceRequest.outcome (canon : String → Except SystemError String) (sessionid : ℕ)
    (fault : ℕ → Option SystemError) (i : ι) (io : ReadIo) (route : String → Option ι)
    (s : DbState) (r : DeviceRequest ι) : DeviceDb × Option (List (ι × DeviceMessage)) :=
  ((r.run canon sessionid fault s).1.db, r.messages canon sessionid fault i io route s)

/-- Storing the connect info of a device, on two worker threads. -/
theorem storeLogin_iff (m : Login) (id : String) (fault : ℕ → Option SystemError)
    (db : DeviceDb) (c₁ c₂ : ConnectInfo) :
    (storeLogin m id fault ⟨c₁, db⟩).1 = (storeLogin m id fault ⟨c₂, db⟩).1 ∧
      ((storeLogin m id fault ⟨c₁, db⟩).2.db = (storeLogin m id fault ⟨c₂, db⟩).2.db ↔
        (fault 3 = none → VersionsAgree c₁ c₂)) := by
  simp only [storeLogin]
  cases hdoc : db.device m.uuid with
  | some doc =>
      have hlogin : ∀ c : ConnectInfo, (db.findUUID m.uuid c).login m.uuid id
          (addUser doc.users id) =
            (({ doc with servername := serverName } : ConnectInfo).login m.uuid id
              (addUser doc.users id)).withVersions c := by
        intro c
        rw [findUUID_eq_withVersions hdoc]
        rfl
      cases hfault : fault 3 with
      | some e => simp
      | none =>
          have hdoc' : db.device (({ doc with servername := serverName } : ConnectInfo).login
              m.uuid id (addUser doc.users id)).uuid = some doc := hdoc
          simp only [hlogin, forall_const, true_and]
          exact updateUUID_withVersions hdoc'
  | none =>
      -- a Login sets all fields of a new connect info but the three
      have hlogin : ∀ c : ConnectInfo, c.login m.uuid id (addUser (fun _ => none) id) =
          (ConnectInfo.empty.login m.uuid id (addUser (fun _ => none) id)).withVersions c :=
        fun c => rfl
      have hdoc' : db.device (ConnectInfo.empty.login m.uuid id
          (addUser (fun _ => none) id)).uuid = none := hdoc
      have hinsert : ∀ c : ConnectInfo, ∃ db', db.insertUUID ((ConnectInfo.empty.login m.uuid id
          (addUser (fun _ => none) id)).withVersions c) = some db' :=
        fun c => ⟨_, insertUUID_of_device hdoc'⟩
      obtain ⟨db₁, h₁⟩ := hinsert c₁
      obtain ⟨db₂, h₂⟩ := hinsert c₂
      simp only
      rw [hlogin c₁, hlogin c₂, h₁, h₂]
      cases hfault : fault 3 with
      | some e => simp
      | none =>
          simp only [forall_const, true_and]
          exact insertUUID_withVersions hdoc' h₁ h₂

/-- A Login, on two worker threads. -/
theorem dispatchLogin_iff (m : Login) (fault : ℕ → Option SystemError) (db : DeviceDb)
    (c₁ c₂ : ConnectInfo) :
    (dispatchLogin m fault ⟨c₁, db⟩).1 = (dispatchLogin m fault ⟨c₂, db⟩).1 ∧
      ((dispatchLogin m fault ⟨c₁, db⟩).2.db = (dispatchLogin m fault ⟨c₂, db⟩).2.db ↔
        (((∃ user, db.queryPhone m.phoneNo m.countryCode = .ok user ∧
            user.password = m.password) ∧
          (fault 0 = none ∧ fault 1 = none ∧ fault 2 = none) ∧ fault 3 = none) →
            VersionsAgree c₁ c₂)) := by
  simp only [dispatchLogin]
  cases hfault₀ : fault 0 with
  | some e => simp [attempt]
  | none =>
      simp only [attempt]
      cases hquery : db.queryPhone m.phoneNo m.countryCode with
      | error e => simp
      | ok user =>
          simp only
          by_cases hpassword : user.password = m.password
          · rw [if_pos hpassword, if_pos hpassword]
            have hself : (∃ user', Except.ok (ε := SystemError) user = .ok user' ∧
                user'.password = m.password) := ⟨user, rfl, hpassword⟩
            cases hfault₁ : fault 1 with
            | some e => simp
            | none =>
                cases hfault₂ : fault 2 with
                | some e =>
                    simp only
                    split <;> simp
                | none =>
                    simp only [hself, true_and]
                    split
                    · exact storeLogin_iff m user.id fault db c₁ c₂
                    · exact storeLogin_iff m user.id fault (db.insertDevice user.id m.uuid) c₁ c₂
          · rw [if_neg hpassword, if_neg hpassword]
            refine ⟨rfl, iff_of_true rfl ?_⟩
            rintro ⟨⟨user', heq, hpassword'⟩, -⟩
            obtain rfl := Except.ok.inj heq
            exact absurd hpassword' hpassword

/-- A Login says the same on two worker threads, where it leaves the same documents. -/
theorem loginMessages_congr {m : Login} {fault : ℕ → Option SystemError} {i : ι} {io : ReadIo}
    {route : String → Option ι} {s₁ s₂ : DbState}
    (hresult : (dispatchLogin m fault s₁).1 = (dispatchLogin m fault s₂).1)
    (hdb : (dispatchLogin m fault s₁).2.db = (dispatchLogin m fault s₂).2.db) :
    loginMessages m fault i io route s₁ = loginMessages m fault i io route s₂ := by
  simp only [loginMessages]
  generalize dispatchLogin m fault s₁ = out₁ at hresult hdb ⊢
  generalize dispatchLogin m fault s₂ = out₂ at hresult hdb ⊢
  obtain ⟨r₁, s₁'⟩ := out₁
  obtain ⟨r₂, s₂'⟩ := out₂
  obtain rfl : r₁ = r₂ := hresult
  have hdb' : s₁'.db = s₂'.db := hdb
  cases r₁ with
  | error e => rfl
  | ok id => simp only [hdb']

/-- A Logout says the same on all worker threads. -/
theorem dispatchLogout_congr (canon : String → Except SystemError String) (m : Logout)
    (sessionid : ℕ) (fault : ℕ → Option SystemError) (db : DeviceDb) (c₁ c₂ : ConnectInfo) :
    (dispatchLogout canon m sessionid fault ⟨c₁, db⟩).1 =
      (dispatchLogout canon m sessionid fault ⟨c₂, db⟩).1 := by
  simp only [dispatchLogout]
  cases attempt (fault 0) (db.queryUser canon m.userid) with
  | error e => rfl
  | ok user =>
      simp only
      split
      · cases fault 1 with
        | some e => rfl
        | none => cases fault 2 <;> rfl
      · rfl

/-- A device that a handler finds in the list of its user has a document. -/
theorem ListedInv.device_of_answers {s : DbState} (h : ListedInv s.db)
    {canon : String → Except SystemError String} {fault : ℕ → Option SystemError}
    {userid uuid : String} {unread : ℕ} {devices : List String}
    (hquery : (dbAnswers canon userid uuid unread fault s).queryUser = .ok devices)
    (huuid : devices.contains uuid = true) : ∃ doc, s.db.device uuid = some doc := by
  obtain ⟨-, user, huser, rfl⟩ := query_of_answers hquery
  obtain ⟨id, -, hlisted⟩ := listed_of_query huser huuid
  obtain ⟨doc, hdoc, -⟩ := h.entry id uuid hlisted
  exact ⟨doc, hdoc⟩

/-- A ClientConnect comes to the same on all worker threads: it sets the three fields. -/
theorem ListedInv.connect_congr {db : DeviceDb} (h : ListedInv db)
    (canon : String → Except SystemError String) (m : ClientConnect) (unread : ℕ)
    (fault : ℕ → Option SystemError) (io : ReadIo) (c₁ c₂ : ConnectInfo) :
    (storeConnect m (dbAnswers canon m.userid m.uuid unread fault ⟨c₁, db⟩) ⟨c₁, db⟩).1 =
        (storeConnect m (dbAnswers canon m.userid m.uuid unread fault ⟨c₂, db⟩) ⟨c₂, db⟩).1 ∧
      (storeConnect m (dbAnswers canon m.userid m.uuid unread fault ⟨c₁, db⟩) ⟨c₁, db⟩).2.db =
        (storeConnect m (dbAnswers canon m.userid m.uuid unread fault ⟨c₂, db⟩) ⟨c₂, db⟩).2.db ∧
      clientConnect m (dbAnswers canon m.userid m.uuid unread fault ⟨c₁, db⟩) io =
        clientConnect m (dbAnswers canon m.userid m.uuid unread fault ⟨c₂, db⟩) io := by
  have hquery : (dbAnswers canon m.userid m.uuid unread fault ⟨c₁, db⟩).queryUser =
      (dbAnswers canon m.userid m.uuid unread fault ⟨c₂, db⟩).queryUser := rfl
  simp only [storeConnect, clientConnect, ← hquery]
  cases hdevices : (dbAnswers canon m.userid m.uuid unread fault ⟨c₁, db⟩).queryUser with
  | error e => exact ⟨rfl, rfl, rfl⟩
  | ok devices =>
      by_cases huuid : devices.contains m.uuid = true
      · obtain ⟨doc, hdoc⟩ := h.device_of_answers hdevices huuid
        simp only [huuid, if_true, dbAnswers, findUUID_eq_withVersions hdoc]
        cases fault 1 with
        | some e => exact ⟨rfl, rfl, rfl⟩
        | none =>
            simp only [attempt, huuid, if_true, ConnectInfo.withVersions]
            cases doc.users m.userid with
            | none => exact ⟨rfl, rfl, trivial⟩
            | some stored => cases fault 2 <;> exact ⟨rfl, rfl, trivial⟩
      · have hmem : m.uuid ∉ devices := fun hmem => huuid (List.contains_iff_mem.mpr hmem)
        cases (dbAnswers canon m.userid m.uuid unread fault ⟨c₁, db⟩).findUUID <;>
          cases (dbAnswers canon m.userid m.uuid unread fault ⟨c₂, db⟩).findUUID <;> simp [hmem]

/-- A ClientDisConnect says the same on all worker threads. -/
theorem ListedInv.disconnect_congr {db : DeviceDb} (h : ListedInv db)
    (canon : String → Except SystemError String) (m : ClientDisConnect)
    (fault : ℕ → Option SystemError) (c₁ c₂ : ConnectInfo) :
    clientDisConnect m (dbAnswers canon m.userid m.uuid 0 fault ⟨c₁, db⟩) =
      clientDisConnect m (dbAnswers canon m.userid m.uuid 0 fault ⟨c₂, db⟩) := by
  have hquery : (dbAnswers canon m.userid m.uuid 0 fault ⟨c₁, db⟩).queryUser =
      (dbAnswers canon m.userid m.uuid 0 fault ⟨c₂, db⟩).queryUser := rfl
  simp only [clientDisConnect, ← hquery]
  cases hdevices : (dbAnswers canon m.userid m.uuid 0 fault ⟨c₁, db⟩).queryUser with
  | error e => rfl
  | ok devices =>
      by_cases huuid : devices.contains m.uuid = true
      · obtain ⟨doc, hdoc⟩ := h.device_of_answers hdevices huuid
        simp only [huuid, if_true, dbAnswers, findUUID_eq_withVersions hdoc]
        cases fault 1 with
        | some e => rfl
        | none => cases fault 2 <;> rfl
      · simp only
        rw [if_neg huuid, if_neg huuid]

/-- Ending a session on a device, on two worker threads. -/
theorem ListedInv.ended_iff {db : DeviceDb} (h : ListedInv db)
    {canon : String → Except SystemError String} {fault : ℕ → Option SystemError}
    {userid uuid : String} {g : ConnectInfo → ConnectInfo}
    (hend : ∀ info current : ConnectInfo, (g info).uuid = info.uuid ∧
      g (info.withVersions current) = (g info).withVersions current)
    (hfinds : Finds canon fault db userid uuid) (c₁ c₂ : ConnectInfo) :
    db.updateUUID (g (db.findUUID uuid c₁)) = db.updateUUID (g (db.findUUID uuid c₂)) ↔
      VersionsAgree c₁ c₂ := by
  obtain ⟨id, -, hlisted⟩ := hfinds.listed
  obtain ⟨doc, hdoc, -⟩ := h.entry id uuid hlisted
  have hkey : doc.uuid = uuid := key_of_lookup (κ := String) hdoc
  rw [findUUID_eq_withVersions hdoc, findUUID_eq_withVersions hdoc, (hend _ c₁).2, (hend _ c₂).2]
  have hdevice : db.device (g { doc with servername := serverName }).uuid = some doc := by
    rw [(hend _ c₁).1]
    exact hkey.symm ▸ hdoc
  exact updateUUID_withVersions hdevice

/-- A handler that ends a session on a device it finds, and does nothing where it finds none, comes
to the same on two worker threads if and only if their versions agree where it finds one. -/
theorem ListedInv.ends_iff {db db₁ db₂ : DeviceDb} (h : ListedInv db)
    {canon : String → Except SystemError String} {fault : ℕ → Option SystemError}
    {userid uuid : String} {g : ConnectInfo → ConnectInfo} {c₁ c₂ : ConnectInfo}
    (hend : ∀ info current : ConnectInfo, (g info).uuid = info.uuid ∧
      g (info.withVersions current) = (g info).withVersions current)
    (hstep₁ : (Finds canon fault db userid uuid ∧ db₁ = db.updateUUID (g (db.findUUID uuid c₁))) ∨
      (¬ Finds canon fault db userid uuid ∧ db₁ = db))
    (hstep₂ : (Finds canon fault db userid uuid ∧ db₂ = db.updateUUID (g (db.findUUID uuid c₂))) ∨
      (¬ Finds canon fault db userid uuid ∧ db₂ = db)) :
    db₁ = db₂ ↔ (Finds canon fault db userid uuid → VersionsAgree c₁ c₂) := by
  rcases hstep₁ with ⟨hfinds, rfl⟩ | ⟨hfails, rfl⟩
  · rcases hstep₂ with ⟨-, rfl⟩ | ⟨hfails, -⟩
    · rw [h.ended_iff hend hfinds c₁ c₂]
      exact ⟨fun hagree _ => hagree, fun hagree => hagree hfinds⟩
    · exact absurd hfinds hfails
  · rcases hstep₂ with ⟨hfinds, -⟩ | ⟨-, rfl⟩
    · exact absurd hfinds hfails
    · exact iff_of_true rfl fun hfinds => absurd hfinds hfails

section Outcome

variable {db : DeviceDb} (canon : String → Except SystemError String) (sessionid : ℕ)
  (fault : ℕ → Option SystemError) (i : ι) (io : ReadIo) (route : String → Option ι)
  (c₁ c₂ : ConnectInfo)

/-- A Login on two worker threads. -/
theorem outcome_login_iff (m : Login) :
    (DeviceRequest.login m).outcome canon sessionid fault i io route ⟨c₁, db⟩ =
        (DeviceRequest.login m).outcome canon sessionid fault i io route ⟨c₂, db⟩ ↔
      (StoresBack canon fault db (.login m : DeviceRequest ι) → VersionsAgree c₁ c₂) := by
  rw [DeviceRequest.outcome, DeviceRequest.outcome, Prod.mk.injEq]
  obtain ⟨hresult, hdb⟩ := dispatchLogin_iff m fault db c₁ c₂
  have hrun : ∀ c, ((DeviceRequest.login m : DeviceRequest ι).run canon sessionid fault
      ⟨c, db⟩).1.db = (dispatchLogin m fault ⟨c, db⟩).2.db := by
    intro c
    simp only [DeviceRequest.run]
    generalize dispatchLogin m fault ⟨c, db⟩ = out
    obtain ⟨_ | _, _⟩ := out <;> rfl
  rw [hrun, hrun]
  constructor
  · rintro ⟨hsame, -⟩
    exact hdb.mp hsame
  · intro hagree
    have hsame := hdb.mpr hagree
    exact ⟨hsame, congrArg some (loginMessages_congr hresult hsame)⟩

/-- A Logout on two worker threads. -/
theorem ListedInv.outcome_logout_iff (h : ListedInv db) (m : Logout) :
    (DeviceRequest.logout m).outcome canon sessionid fault i io route ⟨c₁, db⟩ =
        (DeviceRequest.logout m).outcome canon sessionid fault i io route ⟨c₂, db⟩ ↔
      (StoresBack canon fault db (.logout m : DeviceRequest ι) → VersionsAgree c₁ c₂) := by
  have hmessage := dispatchLogout_congr canon m sessionid fault db c₁ c₂
  have hstep (c : ConnectInfo) := (logoutStep canon m sessionid fault ⟨c, db⟩).imp
    (fun hstep => And.intro hstep.1 hstep.2.2) fun hstep => And.intro hstep.1 hstep.2.2
  rw [DeviceRequest.outcome, DeviceRequest.outcome, Prod.mk.injEq]
  simp only [DeviceRequest.run, DeviceRequest.messages, hmessage, and_true]
  exact h.ends_iff (g := fun info => info.logout m.uuid sessionid) (fun _ _ => ⟨rfl, rfl⟩)
    (hstep c₁) (hstep c₂)

/-- A ClientConnect comes to the same on all worker threads. -/
theorem ListedInv.outcome_connect (h : ListedInv db) (m : ClientConnect) (unread : ℕ) :
    (DeviceRequest.clientConnect m unread).outcome canon sessionid fault i io route ⟨c₁, db⟩ =
      (DeviceRequest.clientConnect m unread).outcome canon sessionid fault i io route ⟨c₂, db⟩ := by
  obtain ⟨hstored, hdb, hmessages⟩ := h.connect_congr canon m unread fault io c₁ c₂
  rw [DeviceRequest.outcome, DeviceRequest.outcome, Prod.mk.injEq]
  constructor
  · simp only [DeviceRequest.run]
    generalize storeConnect m _ ⟨c₁, db⟩ = out₁ at hstored hdb ⊢
    generalize storeConnect m _ ⟨c₂, db⟩ = out₂ at hstored hdb ⊢
    obtain ⟨_ | _, s₁⟩ := out₁
    · obtain ⟨_ | _, s₂⟩ := out₂
      · exact hdb
      · cases hstored
    · obtain ⟨_ | _, s₂⟩ := out₂
      · cases hstored
      · exact hdb
  · simp only [DeviceRequest.messages, hmessages]

/-- A ClientDisConnect on two worker threads. -/
theorem ListedInv.outcome_disconnect_iff (h : ListedInv db) (m : ClientDisConnect) :
    (DeviceRequest.clientDisConnect m).outcome canon sessionid fault i io route ⟨c₁, db⟩ =
        (DeviceRequest.clientDisConnect m).outcome canon sessionid fault i io route ⟨c₂, db⟩ ↔
      (StoresBack canon fault db (.clientDisConnect m : DeviceRequest ι) →
        VersionsAgree c₁ c₂) := by
  have hmessages := h.disconnect_congr canon m fault c₁ c₂
  rw [DeviceRequest.outcome, DeviceRequest.outcome, Prod.mk.injEq]
  simp only [DeviceRequest.run, DeviceRequest.messages, hmessages, and_true]
  exact h.ends_iff (g := fun info => info.disconnect m.userid sessionid) (fun _ _ => ⟨rfl, rfl⟩)
    (disconnectStep canon m sessionid fault ⟨c₁, db⟩)
    (disconnectStep canon m sessionid fault ⟨c₂, db⟩)

/-- **A request on two worker threads** comes to the same if and only if their versions agree
where it stores them. -/
theorem ListedInv.outcome_iff (h : ListedInv db) (r : DeviceRequest ι) :
    r.outcome canon sessionid fault i io route ⟨c₁, db⟩ =
        r.outcome canon sessionid fault i io route ⟨c₂, db⟩ ↔
      (StoresBack canon fault db r → VersionsAgree c₁ c₂) := by
  cases r with
  | login m => exact outcome_login_iff canon sessionid fault i io route c₁ c₂ m
  | logout m => exact h.outcome_logout_iff canon sessionid fault i io route c₁ c₂ m
  | clientConnect m unread =>
      exact iff_of_true (h.outcome_connect canon sessionid fault i io route c₁ c₂ m unread)
        fun hstores => hstores.elim
  | clientDisConnect m =>
      exact h.outcome_disconnect_iff canon sessionid fault i io route c₁ c₂ m
  | other mounts => exact iff_of_true rfl fun hstores => hstores.elim

end Outcome

/-! ### Two histories -/

variable [DecidableEq ι] [DecidableEq θ]

/-- The database after a request and the messages that it mounts. -/
def Service.outcome (canon : String → Except SystemError String) (extra : Reply → ℕ)
    (s : Service ι θ) (q : RequestEvent ι θ) (task : ReadIo × UInt8 × ℕ) :
    DeviceDb × Option (List (ι × DeviceMessage)) :=
  ((serviceStep canon extra s (.request q)).db,
    q.r.messages canon task.2.2 q.fault q.i task.1 s.server.uuidnodeMap (s.start q task))

/-- The outcome of a request that is handled. -/
theorem outcome_eq (canon : String → Except SystemError String) (extra : Reply → ℕ)
    {s : Service ι θ} {q : RequestEvent ι θ} {task : ReadIo × UInt8 × ℕ}
    (hhandles : s.handles q = some task) :
    s.outcome canon extra q task = q.r.outcome canon task.2.2 q.fault q.i task.1
      s.server.uuidnodeMap (s.start q task) := by
  rw [Service.outcome, DeviceRequest.outcome]
  rcases serviceStep_cases canon extra s (.request q) with
    ⟨-, -, hidle⟩ | ⟨q', task', heq, hhandles', hdb, -⟩
  · rw [hidle q rfl] at hhandles
    cases hhandles
  · obtain rfl := ServiceEvent.request.inj heq
    obtain rfl := Option.some.inj (hhandles.symm.trans hhandles')
    rw [hdb]

/-- The service after a history. -/
def Service.after (canon : String → Except SystemError String) (extra : Reply → ℕ)
    (users : List Account) (es : List (ServiceEvent ι θ)) : Service ι θ :=
  es.foldl (serviceStep canon extra) (Service.new users)

/-- **Requests leak through the versions only.** After two histories that leave the same
database, the same task and the same routes, where no Login is cut short, a request comes to
the same if and only if the worker thread has the same versions, or stores none. -/
theorem no_leak_iff (canon : String → Except SystemError String) (extra : Reply → ℕ)
    (users : List Account) (es₁ es₂ : List (ServiceEvent ι θ)) (q : RequestEvent ι θ)
    (task : ReadIo × UInt8 × ℕ)
    (hwhole : StepsMeet (serviceStep canon extra) LoginsWhole (Service.new users) es₁)
    (hdb : (Service.after canon extra users es₁).db = (Service.after canon extra users es₂).db)
    (hroute : (Service.after canon extra users es₁).server.uuidnodeMap =
      (Service.after canon extra users es₂).server.uuidnodeMap)
    (hhandles₁ : (Service.after canon extra users es₁).handles q = some task)
    (hhandles₂ : (Service.after canon extra users es₂).handles q = some task) :
    (Service.after canon extra users es₁).outcome canon extra q task =
        (Service.after canon extra users es₂).outcome canon extra q task ↔
      (StoresBack canon q.fault ((Service.after canon extra users es₁).start q task).db q.r →
        VersionsAgree ((Service.after canon extra users es₁).current q.t)
          ((Service.after canon extra users es₂).current q.t)) := by
  have hinv : LoginInv (Service.after canon extra users es₁) :=
    inv_foldl (fun s e hs he => hs.step canon extra he) (loginInv_new users) hwhole
  generalize Service.after canon extra users es₁ = s₁ at *
  generalize Service.after canon extra users es₂ = s₂ at *
  have hstart : s₂.start q task = ⟨s₂.current q.t, (s₁.start q task).db⟩ := by
    rw [Service.start, Service.start, hdb]
  rw [outcome_eq canon extra hhandles₁, outcome_eq canon extra hhandles₂, hstart, ← hroute]
  exact (hinv.listed.start q task).outcome_iff canon task.2.2 q.fault q.i task.1
    s₁.server.uuidnodeMap (s₁.current q.t) (s₂.current q.t) q.r

/-- The user logs in on the phone and connects it; the connect is handled by the thread `t`. -/
def connectedBy (t : Bool) : List (ServiceEvent Unit Bool) :=
  [.loop (.accept () 0), .loop (.frame () (bareFrame ChatType.login.code 0) Uninit.zero),
    .request ⟨(), 0, false, .login ⟨"1", "86", "pw", "phone"⟩, none, fun _ => none⟩,
    .loop (.frame () (bareFrame ChatType.clientconnect.code 0) Uninit.zero),
    .request ⟨(), 0, t, .clientConnect ⟨"maria", "phone", "", "1.0", "", false⟩ 0, none,
      fun _ => none⟩,
    .loop (.write () .finished),
    .loop (.frame () (bareFrame ChatType.clientdisconnect.code 101) Uninit.zero)]

/-- Nothing fails. -/
theorem noFault_connectedBy (t : Bool) : ∀ e ∈ connectedBy t, e.NoFault := by
  simp [connectedBy, ServiceEvent.NoFault]

/-- The service with the phone connected. -/
def connectedService (t : Bool) : Service Unit Bool :=
  Service.after (fun id => .ok id) (fun _ => 0) [maria] (connectedBy t)

/-- The phone disconnects, by the first thread. -/
def phoneDisconnects : RequestEvent Unit Bool :=
  ⟨(), 0, false, .clientDisConnect ⟨"maria", "phone"⟩, none, fun _ => none⟩

/-- The connection of the phone and the number of its message. -/
def phoneTask : ReadIo × UInt8 × ℕ :=
  (⟨[], true, 102, "maria", "phone", "1.0", ""⟩, ChatType.clientdisconnect.code, 101)

/-- The two threads that have handled the Login and the ClientConnect of a phone. -/
theorem no_leak_phone :
    (connectedService false).outcome (fun id => .ok id) (fun _ => 0) phoneDisconnects phoneTask =
        (connectedService true).outcome (fun id => .ok id) (fun _ => 0) phoneDisconnects
          phoneTask ↔
      (StoresBack (fun id => .ok id) (fun _ => none)
          ((connectedService false).start phoneDisconnects phoneTask).db phoneDisconnects.r →
        VersionsAgree ((connectedService false).current false)
          ((connectedService true).current false)) :=
  no_leak_iff _ _ _ (connectedBy false) (connectedBy true) phoneDisconnects phoneTask
    ((stepsMeet_of_forall (noFault_connectedBy false)).mono fun s _ he =>
      loginsWhole_of_noFault s he) rfl rfl rfl rfl

/-- The version of the phone is kept or lost, by which thread has connected it. -/
theorem not_no_leak :
    (connectedService false).db = (connectedService true).db ∧
      (connectedService false).server.uuidnodeMap =
        (connectedService true).server.uuidnodeMap ∧
      (connectedService false).handles phoneDisconnects = some phoneTask ∧
      (connectedService true).handles phoneDisconnects = some phoneTask ∧
      (connectedService false).outcome (fun id => .ok id) (fun _ => 0) phoneDisconnects
          phoneTask ≠
        (connectedService true).outcome (fun id => .ok id) (fun _ => 0) phoneDisconnects
          phoneTask := by
  refine ⟨rfl, rfl, rfl, rfl, fun h => ?_⟩
  have hversion := congrArg (fun out => (out.1.device "phone").map ConnectInfo.appversion) h
  have hlost : some "1.0" = some "" := hversion
  exact absurd hlost (by decide)

end Yijian
