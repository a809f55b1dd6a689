import Yijian.Logins

/-!
# The Stored Numbers

The document of a device holds a number for each of its users: `MinSessionID` since the
user has logged in there, then the number of the last checked message that was accepted
from a connection of the user on the device. Five handlers write the map, through a rewrite
of the whole document or at one place in it.

## Convention

The map by history is a function of the user and the device. It is changed by what the service is
asked and answers, not by what the documents hold. A Login enters the user with the smallest number,
unless it is there already; an accepted message that carries a number puts this number under its
sender, on the device of its connection. In the documents the same map is a subdocument, with the
id of the user as the name of a field. The runs are free of failures of the database: an update
that fails leaves the old number behind without a word to anyone.

## Main results

* `users_start`: the number of an accepted message is stored under its sender.
* `users_run`: what each handler does to the numbers of all devices.
* `users_start_sender`: a ClientDisConnect of the sender itself changes no number.
* `stored_numbers_iff`: the runs in which the documents hold exactly these numbers.
* `not_stored_numbers`: a Logout stores a number under the uuid of the device.
-/

namespace Yijian

open Documents Runs

variable {ι θ : Type}

/-! ### The numbers of all devices -/

/-- The numbers that the documents hold: by device and user. -/
def DeviceDb.users (db : DeviceDb) (uuid : String) : String → Option ℤ :=
  ((db.device uuid).map ConnectInfo.users).getD fun _ => none

/-- A number is put under a user of a device. -/
def putNumber (numbers : String → String → Option ℤ) (uuid userid : String) (n : ℤ) :
    String → String → Option ℤ :=
  Function.update numbers uuid (Function.update (numbers uuid) userid (some n))

/-- Putting a number where it is already changes nothing, and nothing else does so. -/
theorem putNumber_eq_self_iff {numbers : String → String → Option ℤ} {uuid userid : String}
    {n : ℤ} : putNumber numbers uuid userid n = numbers ↔ numbers uuid userid = some n := by
  constructor
  · intro h
    have hput := congrFun (congrFun h uuid) userid
    simpa [putNumber] using hput.symm
  · intro h
    rw [putNumber, ← h, Function.update_eq_self, Function.update_eq_self]

/-- The numbers of a stored device. -/
theorem users_of_device {db : DeviceDb} {uuid : String} {doc : ConnectInfo}
    (hdoc : db.device uuid = some doc) : db.users uuid = doc.users := by
  rw [DeviceDb.users, hdoc]
  rfl

/-- Where the device has a document, storing a connect info sets its numbers. -/
theorem users_updateUUID {db : DeviceDb} {info doc : ConnectInfo}
    (hdoc : db.device info.uuid = some doc) :
    (db.updateUUID info).users = Function.update db.users info.uuid info.users := by
  funext uuid
  rw [DeviceDb.users, device_updateUUID]
  by_cases h : uuid = info.uuid
  · subst h
    rw [if_pos rfl, hdoc, Function.update_self]
    rfl
  · rw [if_neg h, Function.update_of_ne h]
    rfl

/-- The numbers of a new document. -/
theorem users_insertUUID {db db' : DeviceDb} {info : ConnectInfo}
    (hdoc : db.device info.uuid = none) (hinsert : db.insertUUID info = some db') :
    db'.users = Function.update db.users info.uuid info.users := by
  funext uuid
  rw [DeviceDb.users, device_insertUUID hdoc hinsert]
  by_cases h : uuid = info.uuid
  · subst h
    rw [if_pos rfl, Function.update_self]
    rfl
  · rw [if_neg h, Function.update_of_ne h]
    rfl

@[simp] theorem users_addDevice (db : DeviceDb) (user : Account) (uuid : String) :
    (db.addDevice user uuid).users = db.users := by
  funext uuid'
  rw [DeviceDb.users, device_addDevice, DeviceDb.users]

/-- The number of a message is put under a user that has one. -/
theorem DocsInv.users_updateSessionID {db : DeviceDb} (h : DocsInv db)
    (uuid userid : String) (sessionid : ℕ) :
    (db.updateSessionID uuid userid sessionid).users =
      if (db.users uuid userid).isSome then putNumber db.users uuid userid sessionid
      else db.users := by
  funext uuid'
  rw [DeviceDb.users, h.device_updateSessionID]
  cases hdoc : db.device uuid' with
  | none =>
      have hnone : db.users uuid' = fun _ => none := by rw [DeviceDb.users, hdoc]; rfl
      split
      · rename_i hsome
        have hne : uuid' ≠ uuid := by
          rintro rfl
          rw [hnone] at hsome
          cases hsome
        rw [putNumber, Function.update_of_ne hne, hnone]
        rfl
      · rw [hnone]
        rfl
  | some doc =>
      have hkey : doc.uuid = uuid' := key_of_lookup (κ := String) hdoc
      have husers : db.users uuid' = doc.users := users_of_device hdoc
      by_cases huuid : uuid' = uuid
      · subst huuid
        rw [husers]
        by_cases hsome : (doc.users userid).isSome = true
        · simp [hkey, hsome, putNumber, husers]
        · simp [hkey, hsome, husers]
      · have hother : (doc.uuid == uuid && (doc.users userid).isSome) = false := by
          rw [hkey, beq_eq_false_iff_ne.mpr huuid, Bool.false_and]
        have hput : putNumber db.users uuid userid sessionid uuid' = db.users uuid' := by
          rw [putNumber, Function.update_of_ne huuid]
        have hself : (if (db.users uuid userid).isSome then
            putNumber db.users uuid userid sessionid else db.users) uuid' = doc.users := by
          split
          · rw [hput, husers]
          · exact husers
        rw [hself]
        simp only [Option.map_some, Option.getD_some, hother, Bool.false_eq_true, if_false]

/-! ### The numbers by the history -/

/-- What a deed says about the numbers. -/
def numbersStep (numbers : String → String → Option ℤ) : Deed → String → String → Option ℤ
  | .accepted userid uuid sessionid =>
      if (numbers uuid userid).isSome then putNumber numbers uuid userid sessionid else numbers
  | .login id uuid => Function.update numbers uuid (addUser (numbers uuid) id)
  | .logout _ _ => numbers
  | .connect _ _ => numbers

/-- The number of each user of each device by the history: that of the last message
accepted from a connection of the user on the device since the user has logged in there, or
`MinSessionID` where there has been none. -/
def numbers (history : List Deed) : String → String → Option ℤ :=
  history.foldl numbersStep fun _ _ => none

/-- The numbers of a history, part by part. -/
theorem numbers_append (history deeds : List Deed) :
    numbers (history ++ deeds) = deeds.foldl numbersStep (numbers history) :=
  List.foldl_append

/-! ### What the steps do to the numbers -/

/-- The number of an accepted message is stored under its sender. -/
theorem users_start {s : Service ι θ} (h : DocsInv s.db)
    (hnumbers : s.db.users = numbers s.history) {q : RequestEvent ι θ}
    (hfault : q.numberFault = none) (task : ReadIo × UInt8 × ℕ) :
    (s.start q task).db.users = numbers (s.history ++ accepts task) := by
  rw [numbers_append, Service.start, accepts, hfault]
  by_cases hcheck : missingCheck task.2.1 = true
  · simp only [hcheck, Option.isNone_none, Bool.and_self, if_true, List.foldl_cons,
      List.foldl_nil, numbersStep]
    rw [h.users_updateSessionID, hnumbers]
  · rw [Bool.not_eq_true] at hcheck
    simp only [hcheck, Bool.false_and, Bool.false_eq_true, if_false, List.foldl_nil]
    exact hnumbers

/-- What a Logout and a ClientDisConnect have in common: the user and the device that they
name, and the user of the device under which they put the number of their message. -/
structure Ending where
  userid : String
  uuid : String
  key : String

/-- A Logout puts the number under the uuid of the device. -/
def DeviceRequest.ending : DeviceRequest ι → Option Ending
  | .logout m => some ⟨m.userid, m.uuid, m.uuid⟩
  | .clientDisConnect m => some ⟨m.userid, m.uuid, m.userid⟩
  | _ => none

/-- A Login adds its user to the numbers of its device. -/
theorem users_login {m : Login} {s : DbState} {r : Except SystemError String}
    {db : DeviceDb} (h : LoginStep m (fun _ => none) s r db) :
    (∃ e, r = .error e ∧ db.users = s.db.users) ∨
      ∃ id, r = .ok id ∧
        db.users = Function.update s.db.users m.uuid (addUser (s.db.users m.uuid) id) := by
  cases h with
  | refused e => exact .inl ⟨e, rfl, rfl⟩
  | cut e hquery hpassword hnew hinsert hcut => exact absurd ⟨rfl, rfl⟩ hcut
  | @updated user doc hquery hdoc =>
      have hdoc' : (s.db.addDevice user m.uuid).device m.uuid = some doc := by
        rw [device_addDevice, hdoc]
      refine .inr ⟨user.id, rfl, ?_⟩
      rw [users_updateUUID hdoc', users_addDevice, users_of_device hdoc]
      rfl
  | @inserted user _ hquery hdoc hinsert =>
      have hdoc' : (s.db.addDevice user m.uuid).device m.uuid = none := by
        rw [device_addDevice, hdoc]
      have hnone : s.db.users m.uuid = fun _ => none := by rw [DeviceDb.users, hdoc]; rfl
      refine .inr ⟨user.id, rfl, ?_⟩
      rw [users_insertUUID hdoc' hinsert, users_addDevice, hnone]
      rfl

/-- A handler that finds a connect info and stores it again stores its users. -/
theorem ListedInv.users_store {db : DeviceDb} (h : ListedInv db)
    {canon : String → Except SystemError String} {fault : ℕ → Option SystemError}
    {userid uuid : String} (hfinds : Finds canon fault db userid uuid)
    (current : ConnectInfo) {info : ConnectInfo}
    (huuid : info.uuid = (db.findUUID uuid current).uuid) :
    (db.findUUID uuid current).users = db.users uuid ∧
      (db.updateUUID info).users = Function.update db.users uuid info.users := by
  obtain ⟨id, -, hlisted⟩ := hfinds.listed
  obtain ⟨doc, hdoc, -⟩ := h.entry id uuid hlisted
  rw [(findUUID_of_device hdoc current).1] at huuid
  subst huuid
  constructor
  · rw [users_of_device hdoc, users_findUUID hdoc]
  · exact users_updateUUID hdoc

/-- What a request that ends nothing does to the numbers is what its deeds say. -/
theorem ListedInv.users_run {s : DbState} (h : ListedInv s.db)
    (canon : String → Except SystemError String) (sessionid : ℕ) {r : DeviceRequest ι}
    (hend : r.ending = none) :
    (r.run canon sessionid (fun _ => none) s).1.db.users =
      (r.run canon sessionid (fun _ => none) s).2.foldl numbersStep s.db.users := by
  cases r with
  | login m =>
      have hlogin := users_login (loginStep m (fun _ => none) s)
      simp only [DeviceRequest.run]
      generalize dispatchLogin m (fun _ => none) s = out at hlogin ⊢
      obtain ⟨r, s'⟩ := out
      rcases hlogin with ⟨e, rfl, husers⟩ | ⟨id, rfl, husers⟩
      · exact husers
      · exact husers
  | logout m => cases hend
  | clientConnect m unread =>
      have hconnect := connectStep canon m unread (fun _ => none) s
      have hdeeds : ∀ numbers, (named canon m.userid m.uuid .connect).foldl numbersStep numbers =
          numbers := by
        intro numbers
        rw [named]
        split <;> rfl
      simp only [DeviceRequest.run]
      generalize storeConnect m _ s = out at hconnect ⊢
      obtain ⟨stored, s'⟩ := out
      rcases hconnect with ⟨hgrants, rfl, hdb⟩ | ⟨-, rfl, hdb⟩
      · simp only at hdb ⊢
        have huuid : ((s.db.findUUID m.uuid s.current).connect m).uuid =
            (s.db.findUUID m.uuid s.current).uuid := rfl
        obtain ⟨hfound, hstore⟩ := h.users_store hgrants.1 s.current huuid
        rw [hdb, hstore, hdeeds, ConnectInfo.connect, hfound, Function.update_eq_self]
      · simp only at hdb ⊢
        rw [hdb]
        rfl
  | clientDisConnect m => cases hend
  | other mounts => rfl

/-- A request that ends something puts the number of its message at its key, if it finds its
device. -/
theorem ListedInv.users_ending {s : DbState} (h : ListedInv s.db)
    (canon : String → Except SystemError String) (sessionid : ℕ)
    (fault : ℕ → Option SystemError) {r : DeviceRequest ι} {e : Ending}
    (hend : r.ending = some e) :
    (Finds canon fault s.db e.userid e.uuid ∧
        (r.run canon sessionid fault s).1.db.users =
          putNumber s.db.users e.uuid e.key sessionid) ∨
      (¬ Finds canon fault s.db e.userid e.uuid ∧
        (r.run canon sessionid fault s).1.db.users = s.db.users) := by
  cases r with
  | login m => cases hend
  | logout m =>
      obtain rfl := Option.some.inj hend
      rcases logoutStep canon m sessionid fault s with ⟨hfinds, -, hdb⟩ | ⟨hfails, -, hdb⟩
      · have huuid : ((s.db.findUUID m.uuid s.current).logout m.uuid sessionid).uuid =
            (s.db.findUUID m.uuid s.current).uuid := rfl
        obtain ⟨hfound, hstore⟩ := h.users_store hfinds s.current huuid
        refine .inl ⟨hfinds, ?_⟩
        simp only [DeviceRequest.run]
        rw [hdb, hstore, ConnectInfo.logout, hfound, putNumber]
      · refine .inr ⟨hfails, ?_⟩
        simp only [DeviceRequest.run]
        rw [hdb]
  | clientConnect m unread => cases hend
  | clientDisConnect m =>
      obtain rfl := Option.some.inj hend
      rcases disconnectStep canon m sessionid fault s with ⟨hfinds, hdb⟩ | ⟨hfails, hdb⟩
      · have huuid : ((s.db.findUUID m.uuid s.current).disconnect m.userid sessionid).uuid =
            (s.db.findUUID m.uuid s.current).uuid := rfl
        obtain ⟨hfound, hstore⟩ := h.users_store hfinds s.current huuid
        refine .inl ⟨hfinds, ?_⟩
        simp only [DeviceRequest.run]
        rw [hdb, hstore, ConnectInfo.disconnect, hfound, putNumber]
      · refine .inr ⟨hfails, ?_⟩
        simp only [DeviceRequest.run]
        rw [hdb]
  | other mounts => cases hend

/-! ### Runs -/

/-- A Logout or a ClientDisConnect that finds its device puts the number of its message
where it is already. -/
def NumbersKept (canon : String → Except SystemError String) (s : Service ι θ)
    (e : ServiceEvent ι θ) : Prop :=
  ∀ q task ending, e = .request q → s.handles q = some task → q.r.ending = some ending →
    Finds canon q.fault (s.start q task).db ending.userid ending.uuid →
      (s.start q task).db.users ending.uuid ending.key = some (task.2.2 : ℤ)

/-- The number of a message is where a ClientDisConnect of its own sender puts it. -/
theorem users_start_sender {s : Service ι θ} (h : DocsInv s.db) {q : RequestEvent ι θ}
    (hfault : q.numberFault = none) {task : ReadIo × UInt8 × ℕ}
    (hcheck : missingCheck task.2.1 = true)
    (hnumber : (s.db.users task.1.uuid task.1.userid).isSome = true) :
    (s.start q task).db.users task.1.uuid task.1.userid = some (task.2.2 : ℤ) := by
  simp only [Service.start, hcheck, hfault, Option.isNone_none, Bool.and_self, if_true]
  rw [h.users_updateSessionID, if_pos hnumber, putNumber, Function.update_self,
    Function.update_self]

/-- The deeds of a request that ends something say nothing about the numbers. -/
theorem numbersStep_ending {r : DeviceRequest ι} {e : Ending} (hend : r.ending = some e)
    (canon : String → Except SystemError String) (sessionid : ℕ)
    (fault : ℕ → Option SystemError) (s : DbState)
    (numbers : String → String → Option ℤ) :
    (r.run canon sessionid fault s).2.foldl numbersStep numbers = numbers := by
  cases r with
  | login m => cases hend
  | logout m =>
      simp only [DeviceRequest.run, named]
      split <;> rfl
  | clientConnect m unread => cases hend
  | clientDisConnect m => rfl
  | other mounts => cases hend

variable [DecidableEq ι] [DecidableEq θ]

/-- **One step**, from numbers as the history has them. -/
theorem numbers_step_iff (canon : String → Except SystemError String) (extra : Reply → ℕ)
    {s : Service ι θ} (h : LoginInv s) {e : ServiceEvent ι θ} (hfault : e.NoFault)
    (hnumbers : s.db.users = numbers s.history) :
    (serviceStep canon extra s e).db.users =
        numbers (serviceStep canon extra s e).history ↔ NumbersKept canon s e := by
  rcases serviceStep_cases canon extra s e with
    ⟨hdb, hhistory, hidle⟩ | ⟨q, task, rfl, hhandles, hdb, hhistory⟩
  · rw [hdb, hhistory]
    refine iff_of_true hnumbers ?_
    intro q task ending heq hhandles
    rw [hidle q heq] at hhandles
    cases hhandles
  · obtain ⟨hnumberFault, hfaults⟩ := hfault
    have hstart := users_start h.listed.toDocsInv hnumbers hnumberFault task
    have hlisted := h.listed.start q task
    rw [hdb, hhistory, numbers_append, ← hstart]
    cases hend : q.r.ending with
    | none =>
        refine iff_of_true ?_ ?_
        · rw [hfaults]
          exact hlisted.users_run canon task.2.2 hend
        · intro q' task' ending heq _ hend'
          obtain rfl := ServiceEvent.request.inj heq
          rw [hend] at hend'
          cases hend'
    | some ending =>
        rw [numbersStep_ending hend]
        constructor
        · intro hkept q' task' ending' heq hhandles' hend' hfinds
          obtain rfl := ServiceEvent.request.inj heq
          obtain rfl := Option.some.inj (hhandles.symm.trans hhandles')
          obtain rfl := Option.some.inj (hend.symm.trans hend')
          rcases hlisted.users_ending canon task.2.2 q.fault hend with
            ⟨-, husers⟩ | ⟨hfails, -⟩
          · exact putNumber_eq_self_iff.mp (husers.symm.trans hkept)
          · exact absurd hfinds hfails
        · intro hkept
          rcases hlisted.users_ending canon task.2.2 q.fault hend with
            ⟨hfinds, husers⟩ | ⟨-, husers⟩
          · rw [husers, putNumber_eq_self_iff]
            exact hkept q task ending rfl hhandles hend hfinds
          · exact husers

/-- **The documents hold the numbers of the history** in every state of a run without
failing operations if and only if every Logout and every ClientDisConnect that finds its
device puts the number of its message where it is already. -/
theorem stored_numbers_iff (canon : String → Except SystemError String) (extra : Reply → ℕ)
    (users : List Account) (es : List (ServiceEvent ι θ)) (h : ∀ e ∈ es, e.NoFault) :
    Always (serviceStep canon extra) (fun s => s.db.users = numbers s.history)
        (Service.new users) es ↔
      StepsMeet (serviceStep canon extra) (NumbersKept canon) (Service.new users) es :=
  (stepsMeet_of_forall h).always_iff
    (fun s _ hs he => hs.step canon extra (loginsWhole_of_noFault s he))
    (fun _ _ hs he => numbers_step_iff canon extra hs he) (loginInv_new users) rfl

/-- Maria logs in on a phone and connects. -/
theorem stored_numbers_phone :
    Always (serviceStep (fun id => .ok id) (fun _ => 0))
        (fun s => s.db.users = numbers s.history) (Service.new [maria]) phoneConnected ↔
      StepsMeet (serviceStep (fun id => .ok id) (fun _ => 0)) (NumbersKept fun id => .ok id)
        (Service.new [maria]) phoneConnected :=
  stored_numbers_iff _ _ _ _ noFault_phoneConnected

/-- A Logout stores a number under the uuid of the device, which is no user. -/
theorem not_stored_numbers :
    ¬ Always (serviceStep (fun id => .ok id) (fun _ => 0))
      (fun s => s.db.users = numbers s.history) (Service.new [maria]) loggedOut := by
  intro h
  have hphone := congrFun (congrFun h.last "phone") "phone"
  cases hphone

end Yijian
