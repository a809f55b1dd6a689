import Yijian.Requests

/-!
# Logins and Connects

A ClientConnect is let in by the device list of its user and by the number that the user
has in the document of the device. Both are written by a Login, in two operations either of
which may fail; neither is taken back by a Logout.

## Convention

A login is current from the Login of a user on a device up to the Logout of the same user there. A
device stays in the list of a user for good, and one device may be in the lists of many users, each
of whom has a number in its document. The condition of `lookups_meet` is on the Logins: not cut
between the device list and the document of the device, and ids spelled in one way, since the
driver reads an id in upper and lower case alike while the names of fields are compared as texts.
`connects_current_iff` is about runs without cut Logins in one direction, and about all runs in the
other.

## Main results

* `ListedInv.run`: where no Login is cut short between its two operations, every listed
  device has a document with a number of its user.
* `lookups_meet`: then a ClientConnect finds the number it looks up.
* `connects_current_iff`: then a ClientConnect needs a current login exactly where none comes
  after a Login and a later Logout.
* `not_lookups_meet`, `not_connects_current`: a Login that is cut short, and a connect after a
  Logout.
-/

namespace Yijian

open Documents Runs

variable {ι θ : Type}

/-! ### Listed devices -/

/-- The device is in the list of the user. -/
def Listed (db : DeviceDb) (id uuid : String) : Prop :=
  ∃ user ∈ db.user, user.id = id ∧ uuid ∈ user.devices

/-- The user has a number in the document of the device. -/
def HasEntry (db : DeviceDb) (id uuid : String) : Prop :=
  ∃ doc, db.device uuid = some doc ∧ (doc.users id).isSome = true

/-- A new device is listed, and nothing else. -/
theorem listed_insertDevice {db : DeviceDb} {userID uuid id uuid' : String}
    (h : Listed (db.insertDevice userID uuid) id uuid') :
    Listed db id uuid' ∨ (id = userID ∧ uuid' = uuid) := by
  obtain ⟨user, huser, rfl, huuid⟩ := h
  rcases mem_updateOne huser with hold | ⟨old, hold, hid, rfl⟩
  · exact .inl ⟨user, hold, rfl, huuid⟩
  · rcases List.mem_append.mp huuid with hmem | hmem
    · exact .inl ⟨old, hold, rfl, hmem⟩
    · exact .inr ⟨beq_iff_eq.mp hid, List.mem_singleton.mp hmem⟩

/-- The user that a query by phone returns is in the collection. -/
theorem mem_of_queryPhone {db : DeviceDb} {phoneNo countryCode : String} {user : Account}
    (h : db.queryPhone phoneNo countryCode = .ok user) : user ∈ db.user := by
  rw [DeviceDb.queryPhone] at h
  split at h
  · cases h
  · rename_i user' hfound
    obtain rfl := Except.ok.inj h
    exact List.mem_of_find?_eq_some hfound

/-- The device of a Login is listed, and nothing else. -/
theorem listed_addDevice {db : DeviceDb} {user : Account} {uuid id uuid' : String}
    (h : Listed (db.addDevice user uuid) id uuid') :
    Listed db id uuid' ∨ (id = user.id ∧ uuid' = uuid) := by
  rw [DeviceDb.addDevice] at h
  split at h
  · exact .inl h
  · exact listed_insertDevice h

/-- What is listed stays so with a new device. -/
theorem Listed.insertDevice {db : DeviceDb} {id uuid : String} (h : Listed db id uuid)
    (userID uuid' : String) : Listed (db.insertDevice userID uuid') id uuid := by
  obtain ⟨user, huser, hid, huuid⟩ := h
  rcases exists_mem_updateOne (fun user => user.id == userID)
    (fun user => { user with devices := user.devices ++ [uuid'] }) huser with hold | hnew
  · exact ⟨user, hold, hid, huuid⟩
  · exact ⟨_, hnew, hid, List.mem_append_left _ huuid⟩

/-- What is listed stays so with the device of a Login. -/
theorem Listed.addDevice {db : DeviceDb} {id uuid : String} (h : Listed db id uuid)
    (user : Account) (uuid' : String) : Listed (db.addDevice user uuid') id uuid := by
  rw [DeviceDb.addDevice]
  split
  · exact h
  · exact h.insertDevice user.id uuid'

/-- A user that `queryUser` returns is the one named. -/
theorem listed_of_query {canon : String → Except SystemError String} {db : DeviceDb}
    {userid uuid : String} {user : Account} (hquery : db.queryUser canon userid = .ok user)
    (huuid : user.devices.contains uuid = true) :
    ∃ id, canon userid = .ok id ∧ Listed db id uuid := by
  rw [DeviceDb.queryUser] at hquery
  split at hquery
  · cases hquery
  · rename_i id hid
    split at hquery
    · cases hquery
    · rename_i user' hlookup
      obtain rfl := Except.ok.inj hquery
      have hkey : user'.id = id := key_of_lookup (κ := String) hlookup
      exact ⟨id, hid, user', mem_of_lookup hlookup, hkey, List.contains_iff_mem.mp huuid⟩

/-- A handler that finds its device finds it in the list of the user it names. -/
theorem Finds.listed {canon : String → Except SystemError String}
    {fault : ℕ → Option SystemError} {db : DeviceDb} {userid uuid : String}
    (h : Finds canon fault db userid uuid) :
    ∃ id, canon userid = .ok id ∧ Listed db id uuid := by
  obtain ⟨⟨user, hquery, huuid⟩, -⟩ := h
  exact listed_of_query hquery huuid

/-! ### Numbers in the documents -/

/-- Storing a connect info that keeps the users of its document keeps all numbers. -/
theorem HasEntry.updateUUID {db : DeviceDb} {id uuid : String} (h : HasEntry db id uuid)
    {info : ConnectInfo}
    (hkeep : ∀ doc, db.device info.uuid = some doc → (doc.users id).isSome = true →
      (info.users id).isSome = true) : HasEntry (db.updateUUID info) id uuid := by
  obtain ⟨doc, hdoc, hentry⟩ := h
  rw [HasEntry, device_updateUUID]
  by_cases huuid : uuid = info.uuid
  · rw [if_pos huuid, hdoc]
    exact ⟨_, rfl, hkeep doc (huuid ▸ hdoc) hentry⟩
  · rw [if_neg huuid]
    exact ⟨doc, hdoc, hentry⟩

/-- A new device leaves the entries of the others. -/
theorem HasEntry.insertUUID {db db' : DeviceDb} {id uuid : String} (h : HasEntry db id uuid)
    {info : ConnectInfo} (hdoc : db.device info.uuid = none)
    (hinsert : db.insertUUID info = some db') : HasEntry db' id uuid := by
  obtain ⟨doc, hold, hentry⟩ := h
  refine ⟨doc, ?_, hentry⟩
  rw [device_insertUUID hdoc hinsert]
  by_cases huuid : uuid = info.uuid
  · rw [huuid, hdoc] at hold
    cases hold
  · rw [if_neg huuid, hold]

/-- A number that is stored leaves the entries. -/
theorem HasEntry.updateSessionID {db : DeviceDb} (hdocs : DocsInv db) {id uuid : String}
    (h : HasEntry db id uuid) (uuid' userid : String) (sessionid : ℕ) :
    HasEntry (db.updateSessionID uuid' userid sessionid) id uuid := by
  obtain ⟨doc, hdoc, hentry⟩ := h
  rw [HasEntry, hdocs.device_updateSessionID, hdoc]
  refine ⟨_, rfl, ?_⟩
  dsimp only
  split
  · by_cases hid : id = userid
    · simp [hid]
    · simpa [Function.update_of_ne hid] using hentry
  · exact hentry

/-- The list of devices of a user has nothing to do with the entries. -/
theorem HasEntry.addDevice {db : DeviceDb} {id uuid : String} (h : HasEntry db id uuid)
    (user : Account) (uuid' : String) : HasEntry (db.addDevice user uuid') id uuid := by
  rwa [HasEntry, device_addDevice]

/-- A user that is added to a device has a number there, and so have all others. -/
theorem isSome_addUser {users : String → Option ℤ} {id : String} (userid : String)
    (h : (users id).isSome = true ∨ id = userid) : (addUser users userid id).isSome = true := by
  rw [addUser]
  split
  · rename_i huser
    rcases h with h | rfl
    · exact h
    · exact huser
  · by_cases hid : id = userid
    · simp [hid]
    · rw [Function.update_of_ne hid]
      exact h.resolve_right hid

/-! ### Where no Login is cut short -/

/-- A Login adds a device to its user but does not store its connect info. -/
def CutShort (m : Login) (fault : ℕ → Option SystemError) (s : DbState) : Prop :=
  ∃ user, s.db.queryPhone m.phoneNo m.countryCode = .ok user ∧
    user.password = m.password ∧ user.devices.contains m.uuid = false ∧
    (fault 0 = none ∧ fault 1 = none) ∧ ¬ (fault 2 = none ∧ fault 3 = none)

/-- Every listed device has a document with a number of its user. -/
structure ListedInv (db : DeviceDb) : Prop extends DocsInv db where
  entry : ∀ id uuid, Listed db id uuid → HasEntry db id uuid

/-- Storing the connect info that was found, with more users, keeps all numbers. -/
theorem ListedInv.store {db : DeviceDb} (h : ListedInv db)
    {canon : String → Except SystemError String} {fault : ℕ → Option SystemError}
    {userid uuid : String} (hfinds : Finds canon fault db userid uuid)
    (current : ConnectInfo) {info : ConnectInfo}
    (huuid : info.uuid = (db.findUUID uuid current).uuid)
    (husers : ∀ id, ((db.findUUID uuid current).users id).isSome = true →
      (info.users id).isSome = true) : ListedInv (db.updateUUID info) := by
  obtain ⟨id, -, hlisted⟩ := hfinds.listed
  obtain ⟨doc, hdoc, -⟩ := h.entry id uuid hlisted
  rw [(findUUID_of_device hdoc current).1] at huuid
  refine ⟨h.toDocsInv.updateUUID info, fun id' uuid' hlisted' => ?_⟩
  refine (h.entry id' uuid' hlisted').updateUUID ?_
  intro doc' hdoc' hentry
  rw [huuid, hdoc] at hdoc'
  obtain rfl := Option.some.inj hdoc'
  exact husers id' (by rwa [users_findUUID hdoc])

/-- A number that is stored leaves the users of the devices. -/
theorem ListedInv.updateSessionID {db : DeviceDb} (h : ListedInv db) (uuid userid : String)
    (sessionid : ℕ) : ListedInv (db.updateSessionID uuid userid sessionid) :=
  ⟨h.toDocsInv.updateSessionID uuid userid sessionid, fun id uuid' hlisted =>
    (h.entry id uuid' hlisted).updateSessionID h.toDocsInv uuid userid sessionid⟩

/-- The list of devices of a user has nothing to do with the documents. -/
theorem DocsInv.addDevice {db : DeviceDb} (h : DocsInv db) (user : Account) (uuid : String) :
    DocsInv (db.addDevice user uuid) := by
  constructor
  · rw [addDevice_connectInfo]
    exact h.nodup
  · rw [addDevice_connectInfo]
    exact h.server

/-- A Login that is not cut short gives its user a number in the document of its device. -/
theorem ListedInv.login {m : Login} {fault : ℕ → Option SystemError} {s : DbState}
    (h : ListedInv s.db) (hwhole : ¬ CutShort m fault s) :
    ListedInv (dispatchLogin m fault s).2.db := by
  have hstep := loginStep m fault s
  generalize (dispatchLogin m fault s).1 = r at hstep
  generalize (dispatchLogin m fault s).2.db = db' at hstep ⊢
  cases hstep with
  | refused e => exact h
  | cut e hquery hpassword hnew hinsert hcut =>
      exact absurd ⟨_, hquery, hpassword, hnew, hinsert, hcut⟩ hwhole
  | @updated user doc hquery hdoc =>
      have hdoc' : (s.db.addDevice user m.uuid).device m.uuid = some doc := by
        rw [device_addDevice, hdoc]
      refine ⟨(h.toDocsInv.addDevice user m.uuid).updateUUID _, fun id uuid hlisted => ?_⟩
      rcases listed_addDevice hlisted with hold | ⟨rfl, rfl⟩
      · refine ((h.entry id uuid hold).addDevice user m.uuid).updateUUID ?_
        intro doc₁ hdoc₁ hentry
        obtain rfl := Option.some.inj (hdoc'.symm.trans hdoc₁)
        exact isSome_addUser user.id (.inl hentry)
      · rw [HasEntry, device_updateUUID]
        refine ⟨_, (if_pos rfl).trans (congrArg _ hdoc'), ?_⟩
        exact isSome_addUser user.id (.inr rfl)
  | @inserted user _ hquery hdoc hinsert =>
      have hdoc' : (s.db.addDevice user m.uuid).device m.uuid = none := by
        rw [device_addDevice, hdoc]
      have hinserted := hinsert
      rw [insertUUID_of_device hdoc'] at hinserted
      refine ⟨(h.toDocsInv.addDevice user m.uuid).insertUUID hdoc' hinsert,
        fun id uuid hlisted => ?_⟩
      have hlisted' : Listed (s.db.addDevice user m.uuid) id uuid := by
        obtain rfl := Option.some.inj hinserted
        exact hlisted
      rcases listed_addDevice hlisted' with hold | ⟨rfl, rfl⟩
      · exact ((h.entry id uuid hold).addDevice user m.uuid).insertUUID hdoc' hinsert
      · rw [HasEntry, device_insertUUID hdoc' hinsert]
        have hentry : (addUser (fun _ => none) user.id user.id).isSome = true :=
          isSome_addUser user.id (.inr rfl)
        exact ⟨_, if_pos rfl, hentry⟩

/-- **Listed devices have a number of their user**, where no Login is cut short. -/
theorem ListedInv.run {s : DbState} (h : ListedInv s.db)
    (canon : String → Except SystemError String) (sessionid : ℕ)
    (fault : ℕ → Option SystemError) (r : DeviceRequest ι)
    (hwhole : ∀ m, r = .login m → ¬ CutShort m fault s) :
    ListedInv (r.run canon sessionid fault s).1.db := by
  cases r with
  | login m =>
      have hlogin := h.login (hwhole m rfl)
      simp only [DeviceRequest.run]
      rcases hrun : dispatchLogin m fault s with ⟨_ | _, s'⟩
      · rwa [hrun] at hlogin
      · rwa [hrun] at hlogin
  | logout m =>
      simp only [DeviceRequest.run]
      rcases logoutStep canon m sessionid fault s with ⟨hfinds, -, hdb⟩ | ⟨-, -, hdb⟩
      · rw [hdb]
        refine h.store hfinds s.current rfl fun id hid => ?_
        by_cases hkey : id = m.uuid
        · simp [ConnectInfo.logout, hkey]
        · simpa [ConnectInfo.logout, Function.update_of_ne hkey] using hid
      · rwa [hdb]
  | clientConnect m unread =>
      have hconnect := connectStep canon m unread fault s
      simp only [DeviceRequest.run]
      generalize storeConnect m (dbAnswers canon m.userid m.uuid unread fault s) s = out
        at hconnect ⊢
      obtain ⟨stored, s'⟩ := out
      rcases hconnect with ⟨hgrants, rfl, hdb⟩ | ⟨-, rfl, hdb⟩
      · simp only at hdb ⊢
        rw [hdb]
        exact h.store hgrants.1 s.current rfl fun id hid => hid
      · simp only at hdb ⊢
        rwa [hdb]
  | clientDisConnect m =>
      simp only [DeviceRequest.run]
      rcases disconnectStep canon m sessionid fault s with ⟨hfinds, hdb⟩ | ⟨-, hdb⟩
      · rw [hdb]
        refine h.store hfinds s.current rfl fun id hid => ?_
        by_cases hkey : id = m.userid
        · simp [ConnectInfo.disconnect, hkey]
        · simpa [ConnectInfo.disconnect, Function.update_of_ne hkey] using hid
      · rwa [hdb]
  | other mounts => exact h

/-- A request that names its user by any other deed records no Login. -/
theorem login_not_mem_named {canon : String → Except SystemError String} {userid uuid : String}
    {deed : String → String → Deed} (hdeed : ∀ id uuid id' uuid', deed id uuid ≠ .login id' uuid')
    (id' uuid' : String) : Deed.login id' uuid' ∉ named canon userid uuid deed := by
  rw [named]
  split
  · exact List.not_mem_nil
  · exact fun h => hdeed _ _ _ _ (List.mem_singleton.mp h).symm

/-- **What a handler does to the users**: nothing, unless it is a Login, which adds its device
and is recorded where it is not cut short. -/
theorem user_run (canon : String → Except SystemError String) (sessionid : ℕ)
    (fault : ℕ → Option SystemError) (r : DeviceRequest ι) (s : DbState) :
    ((r.run canon sessionid fault s).1.db.user = s.db.user ∧
        ∀ id uuid, Deed.login id uuid ∉ (r.run canon sessionid fault s).2) ∨
      ∃ m user, r = .login m ∧ s.db.queryPhone m.phoneNo m.countryCode = .ok user ∧
        (r.run canon sessionid fault s).1.db.user = (s.db.addDevice user m.uuid).user ∧
        (¬ CutShort m fault s →
          (r.run canon sessionid fault s).2 = [.login user.id m.uuid]) := by
  cases r with
  | login m =>
      have hstep := loginStep m fault s
      simp only [DeviceRequest.run]
      generalize dispatchLogin m fault s = out at hstep ⊢
      obtain ⟨r, s'⟩ := out
      generalize hdb : s'.db = db' at hstep
      cases hstep with
      | refused e => exact .inl ⟨by rw [hdb], fun _ _ => List.not_mem_nil⟩
      | @cut e user hquery hpassword hnew hinsert hcut =>
          refine .inr ⟨m, user, rfl, hquery, ?_, ?_⟩
          · simp only [hdb, DeviceDb.addDevice, hnew, Bool.false_eq_true, if_false]
          · exact fun hwhole => absurd ⟨user, hquery, hpassword, hnew, hinsert, hcut⟩ hwhole
      | @updated user doc hquery hdoc =>
          have huser : s'.db.user = (s.db.addDevice user m.uuid).user := by
            rw [hdb]
            rfl
          exact .inr ⟨m, user, rfl, hquery, huser, fun _ => rfl⟩
      | @inserted user _ hquery hdoc hinsert =>
          rw [insertUUID_of_device ((device_addDevice _ _ _ _).trans hdoc)] at hinsert
          obtain rfl := Option.some.inj hinsert
          have huser : s'.db.user = (s.db.addDevice user m.uuid).user := by
            rw [hdb]
          exact .inr ⟨m, user, rfl, hquery, huser, fun _ => rfl⟩
  | logout m =>
      left
      simp only [DeviceRequest.run]
      refine ⟨?_, login_not_mem_named fun _ _ _ _ => Deed.noConfusion⟩
      rcases logoutStep canon m sessionid fault s with ⟨-, -, hdb⟩ | ⟨-, -, hdb⟩
      · rw [hdb]
        rfl
      · rw [hdb]
  | clientConnect m unread =>
      left
      have hconnect := connectStep canon m unread fault s
      simp only [DeviceRequest.run]
      generalize storeConnect m (dbAnswers canon m.userid m.uuid unread fault s) s = out
        at hconnect ⊢
      obtain ⟨stored, s'⟩ := out
      rcases hconnect with ⟨-, rfl, hdb⟩ | ⟨-, rfl, hdb⟩
      · simp only at hdb ⊢
        exact ⟨by rw [hdb]; rfl, login_not_mem_named fun _ _ _ _ => Deed.noConfusion⟩
      · simp only at hdb ⊢
        exact ⟨by rw [hdb], fun _ _ => List.not_mem_nil⟩
  | clientDisConnect m =>
      left
      simp only [DeviceRequest.run]
      refine ⟨?_, fun _ _ => List.not_mem_nil⟩
      rcases disconnectStep canon m sessionid fault s with ⟨-, hdb⟩ | ⟨-, hdb⟩
      · rw [hdb]
        rfl
      · rw [hdb]
  | other mounts => exact .inl ⟨rfl, fun _ _ => List.not_mem_nil⟩

/-- Whether a device is listed depends on the users only. -/
theorem listed_congr {db db' : DeviceDb} (h : db.user = db'.user) (id uuid : String) :
    Listed db id uuid ↔ Listed db' id uuid := by
  rw [Listed, h, Listed]

/-- Nothing takes a device off a list. -/
theorem Listed.run {s : DbState} {id uuid : String} (h : Listed s.db id uuid)
    (canon : String → Except SystemError String) (sessionid : ℕ)
    (fault : ℕ → Option SystemError) (r : DeviceRequest ι) :
    Listed (r.run canon sessionid fault s).1.db id uuid := by
  rcases user_run canon sessionid fault r s with ⟨huser, -⟩ | ⟨m, user, -, -, huser, -⟩
  · exact (listed_congr huser id uuid).mpr h
  · exact (listed_congr huser id uuid).mpr (h.addDevice user m.uuid)

/-! ### Runs -/

/-- No Login of the step is cut short. -/
def LoginsWhole (s : Service ι θ) (e : ServiceEvent ι θ) : Prop :=
  ∀ q task m, e = .request q → s.handles q = some task → q.r = .login m →
    ¬ CutShort m q.fault (s.start q task)

/-- Without a failure every Login is whole. -/
theorem loginsWhole_of_noFault (s : Service ι θ) {e : ServiceEvent ι θ} (h : e.NoFault) :
    LoginsWhole s e := by
  rintro q task m rfl - - ⟨user, -, -, -, -, hcut⟩
  exact hcut ⟨congrFun h.2 2, congrFun h.2 3⟩

/-- The start of a dispatch leaves the users of the devices. -/
theorem ListedInv.start {s : Service ι θ} (h : ListedInv s.db) (q : RequestEvent ι θ)
    (task : ReadIo × UInt8 × ℕ) : ListedInv (s.start q task).db := by
  rw [Service.start]
  split
  · exact h.updateSessionID _ _ _
  · exact h

/-- The start of a dispatch leaves the users alone. -/
theorem user_start (s : Service ι θ) (q : RequestEvent ι θ) (task : ReadIo × UInt8 × ℕ) :
    (s.start q task).db.user = s.db.user := by
  rw [Service.start]
  split <;> rfl

/-- The start of a dispatch leaves the lists of devices alone. -/
theorem listed_start (s : Service ι θ) (q : RequestEvent ι θ) (task : ReadIo × UInt8 × ℕ)
    (id uuid : String) : Listed (s.start q task).db id uuid ↔ Listed s.db id uuid :=
  listed_congr (user_start s q task) id uuid

/-- A query for the id of a user finds its devices: of the users with one id, only the first
has any. -/
def FirstListed (db : DeviceDb) : Prop :=
  ∀ id uuid, Listed db id uuid →
    ∃ first, lookup Account.id id db.user = some first ∧ uuid ∈ first.devices

/-- Whether a query by id finds all devices depends on the users only. -/
theorem firstListed_congr {db db' : DeviceDb} (h : db.user = db'.user) :
    FirstListed db ↔ FirstListed db' := by
  simp only [FirstListed, listed_congr h, h]

/-- A new device is one more of its user. -/
theorem lookup_insertDevice (db : DeviceDb) (userID uuid id : String) :
    lookup Account.id id (db.insertDevice userID uuid).user =
      if id = userID then
        (lookup Account.id id db.user).map fun user =>
          { user with devices := user.devices ++ [uuid] }
      else lookup Account.id id db.user := by
  refine lookup_updateOne ?_ id db.user
  exact fun _ hid => hid

/-- A query for the id of a user finds a user. -/
theorem exists_lookup_of_mem {db : DeviceDb} {user : Account} (huser : user ∈ db.user) :
    ∃ first, lookup Account.id user.id db.user = some first := by
  rw [← Option.ne_none_iff_exists', Ne, lookup_eq_none_iff, not_not]
  exact List.mem_map_of_mem huser

/-- A user that logs in has its device listed from then on. -/
theorem listed_addDevice_iff {db : DeviceDb} {user : Account} (huser : user ∈ db.user)
    (uuid id uuid' : String) :
    Listed (db.addDevice user uuid) id uuid' ↔
      Listed db id uuid' ∨ (id = user.id ∧ uuid' = uuid) := by
  refine ⟨listed_addDevice, ?_⟩
  rintro (hold | ⟨rfl, rfl⟩)
  · exact hold.addDevice user uuid
  · rw [DeviceDb.addDevice]
    split
    · rename_i huuid
      exact ⟨user, huser, rfl, List.contains_iff_mem.mp huuid⟩
    · obtain ⟨first, hfirst⟩ := exists_lookup_of_mem huser
      have hlookup := lookup_insertDevice db user.id uuid' user.id
      rw [if_pos rfl, hfirst] at hlookup
      exact ⟨_, mem_of_lookup hlookup, key_of_lookup (κ := String) hlookup,
        List.mem_append_right _ List.mem_cons_self⟩

/-- The device of a Login goes to the user that a query by id finds. -/
theorem FirstListed.addDevice {db : DeviceDb} (h : FirstListed db) {user : Account}
    (huser : user ∈ db.user) (uuid : String) : FirstListed (db.addDevice user uuid) := by
  rw [DeviceDb.addDevice]
  split
  · exact h
  · intro id uuid' hlisted
    rw [lookup_insertDevice]
    rcases listed_insertDevice hlisted with hold | ⟨rfl, rfl⟩
    · obtain ⟨first, hfirst, huuid⟩ := h id uuid' hold
      rw [hfirst]
      split
      · exact ⟨_, rfl, List.mem_append_left _ huuid⟩
      · exact ⟨first, rfl, huuid⟩
    · obtain ⟨first, hfirst⟩ := exists_lookup_of_mem huser
      rw [if_pos rfl, hfirst]
      exact ⟨_, rfl, List.mem_append_right _ List.mem_cons_self⟩

/-- That a message has been accepted is no Login. -/
theorem login_not_mem_accepts (task : ReadIo × UInt8 × ℕ) (id uuid : String) :
    Deed.login id uuid ∉ accepts task := by
  rw [accepts]
  split
  · exact fun h => nomatch List.mem_singleton.mp h
  · exact List.not_mem_nil

/-- Every listed device has a document with a number of its user and is found by the id of
the user; the devices listed are those that the users have logged in on. -/
structure LoginInv (s : Service ι θ) : Prop where
  listed : ListedInv s.db
  first : FirstListed s.db
  login : ∀ id uuid, Listed s.db id uuid ↔ Deed.login id uuid ∈ s.history

/-- Every step with whole Logins keeps the invariant. -/
theorem LoginInv.step [DecidableEq ι] [DecidableEq θ] {s : Service ι θ} (h : LoginInv s)
    (canon : String → Except SystemError String) (extra : Reply → ℕ) {e : ServiceEvent ι θ}
    (hwhole : LoginsWhole s e) : LoginInv (serviceStep canon extra s e) := by
  rcases serviceStep_cases canon extra s e with
    ⟨hdb, hhistory, -⟩ | ⟨q, task, rfl, hhandles, hdb, hhistory⟩
  · exact ⟨hdb ▸ h.listed, hdb ▸ h.first, fun id uuid => by rw [hdb, hhistory, h.login]⟩
  · have hlogins : ∀ m, q.r = .login m → ¬ CutShort m q.fault (s.start q task) :=
      fun m hm => hwhole q task m rfl hhandles hm
    have hfirst : FirstListed (s.start q task).db :=
      (firstListed_congr (user_start s q task)).mpr h.first
    have hlogin : ∀ id uuid, Listed (s.start q task).db id uuid ↔
        Deed.login id uuid ∈ s.history :=
      fun id uuid => (listed_start s q task id uuid).trans (h.login id uuid)
    refine ⟨hdb ▸ (h.listed.start q task).run canon task.2.2 q.fault q.r hlogins, ?_, ?_⟩
    · rw [hdb]
      rcases user_run canon task.2.2 q.fault q.r (s.start q task) with
        ⟨huser, -⟩ | ⟨m, user, -, hquery, huser, -⟩
      · exact (firstListed_congr huser).mpr hfirst
      · exact (firstListed_congr huser).mpr (hfirst.addDevice (mem_of_queryPhone hquery) m.uuid)
    · intro id uuid
      rw [hdb, hhistory, List.mem_append, List.mem_append, ← hlogin,
        or_iff_left (login_not_mem_accepts task id uuid)]
      rcases user_run canon task.2.2 q.fault q.r (s.start q task) with
        ⟨huser, hnone⟩ | ⟨m, user, hr, hquery, huser, hdeed⟩
      · rw [listed_congr huser, or_iff_left (hnone id uuid)]
      · rw [listed_congr huser, listed_addDevice_iff (mem_of_queryPhone hquery),
          hdeed (hlogins m hr), List.mem_singleton, Deed.login.injEq]

/-- Nobody has logged in yet. -/
theorem loginInv_new (users : List Account) : LoginInv (Service.new users : Service ι θ) := by
  have hlisted : ∀ id uuid, ¬ Listed (Service.new users : Service ι θ).db id uuid := by
    rintro id uuid ⟨user, huser, -, huuid⟩
    obtain ⟨old, -, rfl⟩ := List.mem_map.mp huser
    cases huuid
  refine ⟨⟨⟨List.nodup_nil, fun _ hdoc => (nomatch hdoc)⟩, ?_⟩, ?_, ?_⟩
  · exact fun id uuid h => absurd h (hlisted id uuid)
  · exact fun id uuid h => absurd h (hlisted id uuid)
  · exact fun id uuid => ⟨fun h => absurd h (hlisted id uuid), fun h => (nomatch h)⟩

/-! ### The number that a ClientConnect looks up -/

/-- The handler evaluates `connectInfo_.users().at(connect.userid())` with this
`connectInfo_`. -/
def LooksUp (canon : String → Except SystemError String) (fault : ℕ → Option SystemError)
    (s : DbState) (m : ClientConnect) (unread : ℕ) (found : ConnectInfo) : Prop :=
  ∃ devices, (dbAnswers canon m.userid m.uuid unread fault s).queryUser = .ok devices ∧
    devices.contains m.uuid = true ∧
    (dbAnswers canon m.userid m.uuid unread fault s).findUUID = .ok found

/-- Whenever the step looks a number up, it does so in the document of the device, and the
number is there. -/
def LookupsMeet (canon : String → Except SystemError String) (s : Service ι θ)
    (e : ServiceEvent ι θ) : Prop :=
  ∀ q task m unread found, e = .request q → s.handles q = some task →
    q.r = .clientConnect m unread →
    LooksUp canon q.fault (s.start q task) m unread found →
      ∃ doc, (s.start q task).db.device m.uuid = some doc ∧ found.uuid = doc.uuid ∧
        found.presence = doc.presence ∧ found.users = doc.users ∧
        (found.users m.userid).isSome = true

/-- The step spells the user of a ClientConnect as its document does, or in a way that a
ClientDisConnect has left a number under. -/
def SpelledAlike (canon : String → Except SystemError String) (s : Service ι θ)
    (e : ServiceEvent ι θ) : Prop :=
  ∀ q task m unread id, e = .request q → s.handles q = some task →
    q.r = .clientConnect m unread → canon m.userid = .ok id →
      m.userid = id ∨ HasEntry (s.start q task).db m.userid m.uuid

/-- Under the invariant each lookup finds what the history says. -/
theorem LoginInv.lookupsMeet {canon : String → Except SystemError String} {s : Service ι θ}
    {e : ServiceEvent ι θ} (h : LoginInv s) (hspelled : SpelledAlike canon s e) :
    LookupsMeet canon s e := by
  rintro q task m unread found rfl hhandles hr ⟨devices, hquery, huuid, hfind⟩
  obtain ⟨-, user, huser, rfl⟩ := query_of_answers hquery
  obtain ⟨-, rfl⟩ := find_of_answers hfind
  obtain ⟨id, hid, hlisted⟩ := listed_of_query huser huuid
  obtain ⟨doc, hdoc, hentry⟩ := (h.listed.start q task).entry id m.uuid hlisted
  obtain ⟨hfound, hpresence⟩ := findUUID_of_device hdoc (s.start q task).current
  have hkey : doc.uuid = m.uuid := key_of_lookup (κ := String) hdoc
  have husers := users_findUUID hdoc (s.start q task).current
  refine ⟨doc, hdoc, hfound.trans hkey.symm, hpresence, husers, ?_⟩
  rw [husers]
  rcases hspelled q task m unread id rfl hhandles hr hid with heq | ⟨doc', hdoc', hentry'⟩
  · rwa [heq]
  · obtain rfl := Option.some.inj (hdoc.symm.trans hdoc')
    exact hentry'

variable [DecidableEq ι] [DecidableEq θ]

/-- **A ClientConnect finds the number it looks up** in every run in which no Login is cut
short and every ClientConnect spells its user as the document of the user does. -/
theorem lookups_meet (canon : String → Except SystemError String) (extra : Reply → ℕ)
    (users : List Account) (es : List (ServiceEvent ι θ))
    (h : StepsMeet (serviceStep canon extra)
      (fun s e => LoginsWhole s e ∧ SpelledAlike canon s e) (Service.new users) es) :
    StepsMeet (serviceStep canon extra) (LookupsMeet canon) (Service.new users) es :=
  h.of_inv (fun _ _ hs he => ⟨hs.step canon extra he.1, hs.lookupsMeet he.2⟩)
    (loginInv_new users)

/-- Maria logs in on a phone and connects. -/
theorem lookups_meet_phone :
    StepsMeet (serviceStep (fun id => .ok id) (fun _ => 0)) (LookupsMeet fun id => .ok id)
      (Service.new [maria]) phoneConnected := by
  refine lookups_meet _ _ _ _ ((stepsMeet_of_forall noFault_phoneConnected).mono ?_)
  intro s e he
  refine ⟨loginsWhole_of_noFault s he, ?_⟩
  intro q task m unread id _ _ _ hid
  exact .inl (Except.ok.inj hid)

/-- `findUUID` of the Login fails, when the device is in the list of its user already. -/
def cutLogin : List (ServiceEvent Unit Unit) :=
  phoneLogin fun n => if n = 2 then some ⟨13053, "network timeout"⟩ else none

/-- A ClientConnect looks up a number in the `connectInfo_` of some other request, after a
Login that was cut short. -/
theorem not_lookups_meet :
    ¬ StepsMeet (serviceStep (fun id => .ok id) (fun _ => 0)) (LookupsMeet fun id => .ok id)
      (Service.new [maria])
      (cutLogin ++ asks .clientconnect 0 (fun _ => none) (.clientConnect phoneConnect 0)) := by
  rw [stepsMeet_append]
  rintro ⟨-, -, hlookup, -⟩
  obtain ⟨doc, hdoc, -⟩ := hlookup _ _ phoneConnect 0 ConnectInfo.empty rfl rfl rfl
    ⟨["phone"], rfl, rfl, rfl⟩
  cases hdoc

/-! ### Connects after a Logout -/

/-- The last among the successful Logins of the user on the device and the Logouts that
name the two: is it a Login? -/
def lastLogin (id uuid : String) (history : List Deed) : Option Bool :=
  history.foldl (fun last deed =>
    if deed = .login id uuid then some true
    else if deed = .logout id uuid then some false
    else last) none

/-- The last deed of a history is the latest. -/
theorem lastLogin_concat (id uuid : String) (history : List Deed) (deed : Deed) :
    lastLogin id uuid (history ++ [deed]) =
      if deed = .login id uuid then some true
      else if deed = .logout id uuid then some false
      else lastLogin id uuid history := by
  rw [lastLogin, List.foldl_append]
  rfl

/-- After a Login there is a last one. -/
theorem isSome_lastLogin {id uuid : String} {history : List Deed}
    (h : Deed.login id uuid ∈ history) : (lastLogin id uuid history).isSome = true := by
  induction history using List.reverseRecOn with
  | nil => cases h
  | append_singleton history deed ih =>
      rw [lastLogin_concat]
      split
      · rfl
      · rename_i hlogin
        split
        · rfl
        · rcases List.mem_append.mp h with hold | hnew
          · exact ih hold
          · exact absurd (List.mem_singleton.mp hnew).symm hlogin

/-- Whenever the step answers a ClientConnect with a success, the last among the Logins of
the user on the device and the Logouts that name the two is a Login. -/
def ConnectsCurrent (canon : String → Except SystemError String) (s : Service ι θ)
    (e : ServiceEvent ι θ) : Prop :=
  ∀ q task m unread, e = .request q → s.handles q = some task →
    q.r = .clientConnect m unread →
    SendsSuccess m (dbAnswers canon m.userid m.uuid unread q.fault (s.start q task)) task.1 →
      ∃ id, canon m.userid = .ok id ∧ lastLogin id m.uuid s.history = some true

/-- The step asks for no connect of a user on a device that the user has logged in on and then
logged out of. Nothing is said of a ClientConnect in which an operation fails, nor of one that
spells the user in another way than its document does, unless that spelling has a number too. -/
def NotLoggedOut (canon : String → Except SystemError String) (s : Service ι θ)
    (e : ServiceEvent ι θ) : Prop :=
  ∀ q task m unread id, e = .request q → s.handles q = some task →
    q.r = .clientConnect m unread → canon m.userid = .ok id →
    (m.userid = id ∨ HasEntry (s.start q task).db m.userid m.uuid) →
    (q.fault 0 = none ∧ q.fault 1 = none ∧ q.fault 2 = none) →
    Deed.login id m.uuid ∈ s.history → lastLogin id m.uuid s.history ≠ some false

omit [DecidableEq ι] [DecidableEq θ] in
/-- A ClientConnect is granted exactly to a user that has logged in on the device, where no
operation fails and the spelling of the user has a number. -/
theorem LoginInv.grants_iff {canon : String → Except SystemError String} {s : Service ι θ}
    (h : LoginInv s) (q : RequestEvent ι θ) (task : ReadIo × UInt8 × ℕ) (m : ClientConnect)
    {id : String} (hid : canon m.userid = .ok id) :
    Grants canon q.fault (s.start q task) m ↔
      (m.userid = id ∨ HasEntry (s.start q task).db m.userid m.uuid) ∧
        (q.fault 0 = none ∧ q.fault 1 = none ∧ q.fault 2 = none) ∧
        Deed.login id m.uuid ∈ s.history := by
  have hentry := (h.listed.start q task).entry id m.uuid
  rw [← h.login, ← listed_start s q task]
  constructor
  · rintro ⟨⟨⟨user, hquery, huuid⟩, hfault⟩, husers⟩
    obtain ⟨id', hid', hlisted⟩ := listed_of_query hquery huuid
    obtain rfl := Except.ok.inj (hid.symm.trans hid')
    obtain ⟨doc, hdoc, -⟩ := hentry hlisted
    exact ⟨.inr ⟨doc, hdoc, users_findUUID hdoc _ ▸ husers⟩, hfault, hlisted⟩
  · rintro ⟨hspelled, hfault, hlisted⟩
    obtain ⟨first, hlookup, huuid⟩ :=
      (firstListed_congr (user_start s q task)).mpr h.first id m.uuid hlisted
    have hquery : (s.start q task).db.queryUser canon m.userid = .ok first := by
      simp only [DeviceDb.queryUser, hid, hlookup]
    refine ⟨⟨⟨first, hquery, List.contains_iff_mem.mpr huuid⟩, hfault⟩, ?_⟩
    have hspelled' : HasEntry (s.start q task).db m.userid m.uuid := by
      rcases hspelled with heq | hnumbered
      · exact heq ▸ hentry hlisted
      · exact hnumbered
    obtain ⟨doc, hdoc, husers⟩ := hspelled'
    rwa [users_findUUID hdoc]

omit [DecidableEq ι] [DecidableEq θ] in
/-- Under the invariant a connection is current unless its user has logged out. -/
theorem LoginInv.connectsCurrent_iff {canon : String → Except SystemError String}
    {s : Service ι θ} (h : LoginInv s) (e : ServiceEvent ι θ) :
    ConnectsCurrent canon s e ↔ NotLoggedOut canon s e := by
  constructor
  · intro hcurrent q task m unread id heq hhandles hr hid hspelled hfault hlogin
    have hgrants := (h.grants_iff q task m hid).mpr ⟨hspelled, hfault, hlogin⟩
    obtain ⟨id', hid', hlast⟩ := hcurrent q task m unread heq hhandles hr
      ((sendsSuccess_iff canon m unread q.fault _ task.1).mpr hgrants)
    obtain rfl := Except.ok.inj (hid.symm.trans hid')
    simp [hlast]
  · intro hout q task m unread heq hhandles hr hsends
    have hgrants := (sendsSuccess_iff canon m unread q.fault _ task.1).mp hsends
    obtain ⟨id, hid, -⟩ := hgrants.1.listed
    obtain ⟨hspelled, hfault, hlogin⟩ := (h.grants_iff q task m hid).mp hgrants
    obtain ⟨last, hlast⟩ := Option.isSome_iff_exists.mp (isSome_lastLogin hlogin)
    have hne := hout q task m unread id heq hhandles hr hid hspelled hfault hlogin
    refine ⟨id, hid, ?_⟩
    cases last with
    | false => exact absurd hlast hne
    | true => exact hlast

/-- **Connecting requires a current login**, in a run in which no Login is cut short, if and
only if no ClientConnect that nothing goes wrong with comes after a Login and a Logout. -/
theorem connects_current_iff (canon : String → Except SystemError String)
    (extra : Reply → ℕ) (users : List Account) (es : List (ServiceEvent ι θ))
    (h : StepsMeet (serviceStep canon extra) LoginsWhole (Service.new users) es) :
    StepsMeet (serviceStep canon extra) (ConnectsCurrent canon) (Service.new users) es ↔
      StepsMeet (serviceStep canon extra) (NotLoggedOut canon) (Service.new users) es :=
  h.congr_of_inv (fun _ _ hs he => hs.step canon extra he)
    (fun _ e hs => hs.connectsCurrent_iff e) (loginInv_new users)

/-- Maria logs in on a phone and connects. -/
theorem connects_current_phone :
    StepsMeet (serviceStep (fun id => .ok id) (fun _ => 0)) (ConnectsCurrent fun id => .ok id)
        (Service.new [maria]) phoneConnected ↔
      StepsMeet (serviceStep (fun id => .ok id) (fun _ => 0)) (NotLoggedOut fun id => .ok id)
        (Service.new [maria]) phoneConnected :=
  connects_current_iff _ _ _ _
    ((stepsMeet_of_forall noFault_phoneConnected).mono fun s _ he => loginsWhole_of_noFault s he)

/-- The phone logs out. -/
def loggedOut : List (ServiceEvent Unit Unit) :=
  phoneConnected ++ asks .logout 101 (fun _ => none) (.logout ⟨"maria", "phone"⟩)

/-- A ClientConnect is answered with a success after a Logout. -/
theorem not_connects_current :
    ¬ StepsMeet (serviceStep (fun id => .ok id) (fun _ => 0)) (ConnectsCurrent fun id => .ok id)
      (Service.new [maria])
      (loggedOut ++ asks .clientconnect 0 (fun _ => none) (.clientConnect phoneConnect 0)) := by
  rw [stepsMeet_append]
  rintro ⟨-, -, hcurrent, -⟩
  obtain ⟨id, hid, hlast⟩ := hcurrent _ _ phoneConnect 0 rfl rfl rfl
    ⟨_, _, _, rfl, List.mem_cons_self, rfl⟩
  obtain rfl := Except.ok.inj hid
  cases hlast

end Yijian
