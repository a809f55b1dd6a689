import Yijian.Replies

/-!
# What Replies Tell about Users

Handlers read documents of users that are not meant for who asks: passwords, the lists of other
users. What they give away of them is seen by dispatching a request twice, with databases that
differ in nothing but the documents of users: if the two documents that a query returns look
alike to the request, the two dispatches mount the same messages, end in the same way and leave
the thread in the same state.

`ClientRequest.Alike` says for each request what it is allowed to tell apart. A Login tells
whether the password is right, and no other request depends on a password.

## Convention

Two databases are twins if they answer each call alike, with the documents of users read as the
request is allowed to see them. The statement is of two runs: it compares a dispatch with the same
dispatch over the twin, up to everything that can be seen, exceptions and the variables of the
thread included. How long a dispatch takes is not seen. A request may well return the document of
another user, as QueryUser does, with its phone number and its lists; this is not held against it,
since the handlers have no rule about it. What a password is compared with, and that it is never
mounted, is what remains.

## Main results

* `bind_call_similar`: two programs that go on alike behind similar results.
* `DbClient.Twin.dispatch_eq`: a dispatch tells apart no documents that look alike to its request.
* `dispatch_hidden_passwords`: what can be learned of a password.
-/

namespace Yijian

open Attempts

variable {client : DbClient} {t : Turn}

/-! ### Two databases -/

/-- Both calls return, values that `R` relates, or both throw the same. -/
def Similar {α : Type} (R : α → α → Prop) : Except SystemError α → Except SystemError α → Prop
  | .ok a, .ok b => R a b
  | .error e, .error e' => e = e'
  | _, _ => False

/-- Answers that are alike in more are alike in less. -/
theorem Similar.mono {α : Type} {R S : α → α → Prop} {x y : Except SystemError α}
    (h : Similar R x y) (hRS : ∀ {a b}, R a b → S a b) : Similar S x y := by
  cases x <;> cases y <;> first | exact hRS h | exact h

/-- The client with other documents of users. -/
def DbClient.withUsers (client : DbClient)
    (queryPhone : ℕ → String → String → Except SystemError User)
    (queryUser : ℕ → String → Except SystemError User) : DbClient :=
  { client with queryPhone := queryPhone, queryUser := queryUser }

/-- The documents that the client finds, and those it is given instead, are related by `R`. -/
structure DbClient.Twin (client : DbClient) (R : User → User → Prop)
    (queryPhone : ℕ → String → String → Except SystemError User)
    (queryUser : ℕ → String → Except SystemError User) : Prop where
  phone : ∀ n phoneNo countryCode,
    Similar R (client.queryPhone n phoneNo countryCode) (queryPhone n phoneNo countryCode)
  user : ∀ n userID, Similar R (client.queryUser n userID) (queryUser n userID)

/-- What a QueryUser of `userid` is answered with. -/
def User.shown (userid : String) (u : User) : User :=
  let user := { u with password := "" }
  if user.id ≠ userid then
    { user with friends := [], blacklist := [], groupnodeids := [], devices := [] }
  else user

/-- The request, on a connection of `userid`, cannot tell the documents apart. -/
def ClientRequest.Alike (userid : String) (u v : User) : ClientRequest → Prop
  | login l =>
      u.id = v.id ∧ (u.password = l.password ↔ v.password = l.password) ∧
        u.listsDevice l.device.uuid = v.listsDevice l.device.uuid
  | logout l => u.listsDevice l.uuid = v.listsDevice l.uuid
  | clientConnect c => u.listsDevice c.uuid = v.listsDevice c.uuid
  | clientDisConnect c => u.listsDevice c.uuid = v.listsDevice c.uuid
  | addFriend frd =>
      (frd.inviteeID ∈ u.blacklist ↔ frd.inviteeID ∈ v.blacklist) ∧
        ∀ id ∈ [frd.inviterID, frd.inviteeID],
          u.friends.any (·.userID == id) = v.friends.any (·.userID == id)
  | createGroup group => ∀ id ∈ group.membersid, id ∈ u.blacklist ↔ id ∈ v.blacklist
  | groupAddMember group => ∀ id ∈ group.membersid, id ∈ u.blacklist ↔ id ∈ v.blacklist
  | queryUser _ => u.shown userid = v.shown userid
  | queryUserVersion _ => u.version = v.version
  | _ => True

/-! ### Two runs of a handler -/

/-- Behind similar results both programs go on alike. -/
theorem bind_call_similar {α β : Type} {R : α → α → Prop} {f g : ℕ → Except SystemError α}
    {p q : α → Handler β} (hfg : Similar R (f t.calls) (g t.calls))
    (hpq : ∀ a b, R a b → p a t.next = q b t.next) : (call f >>= p) t = (call g >>= q) t := by
  simp only [bind, EStateM.bind, call]
  cases hf : f t.calls with
  | ok a =>
      cases hg : g t.calls with
      | ok b =>
          rw [hf, hg] at hfg
          exact hpq a b hfg
      | error e =>
          rw [hf, hg] at hfg
          exact hfg.elim
  | error e =>
      cases hg : g t.calls with
      | ok b =>
          rw [hf, hg] at hfg
          exact hfg.elim
      | error e' =>
          rw [hf, hg] at hfg
          exact congrArg (fun e => EStateM.Result.error (Thrown.system e) t.next) hfg

/-- Calls that answer alike, whatever their number, with continuations that agree on such answers.
-/
theorem bind_call_similar_all {α β : Type} {R : α → α → Prop} {f g : ℕ → Except SystemError α}
    {p q : α → Handler β} (hfg : ∀ n, Similar R (f n) (g n)) (hpq : ∀ a b, R a b → p a = q b) :
    (call f >>= p) = (call g >>= q) :=
  funext fun _ => bind_call_similar (hfg _) fun a b hab => congrFun (hpq a b hab) _

/-- The same exception under conditions that mean the same. -/
theorem throwIf_congr {c d : Prop} [Decidable c] [Decidable d] (h : c ↔ d) (code : ℤ)
    (what : String) : throwIf c code what = throwIf d code what := by
  simp only [throwIf, h]

/-- Handlers that begin alike go on alike. -/
theorem bind_congr_at {α β : Type} {p p' : Handler α} {q : α → Handler β} (h : p t = p' t) :
    (p >>= q) t = (p' >>= q) t := by
  simp only [bind, EStateM.bind, h]

/-- A handler that reads the state of the dispatch. -/
theorem bind_get_apply {α : Type} (q : Turn → Handler α) : (get >>= q) t = q t t := rfl

/-- The same errors are caught of bodies that run alike. -/
theorem catchSystem_congr {body body' : Handler Unit} {onError : SystemError → Handler Unit}
    (h : body t = body' t) : catchSystem body onError t = catchSystem body' onError t := by
  rw [catchSystem, catchSystem, tryCatch_apply, tryCatch_apply, h]

/-- Bodies that run alike are responded to alike. -/
theorem respond_congr {body body' : Handler Response} {onError : SystemError → Response}
    (h : body t = body' t) : respond body onError t = respond body' onError t :=
  catchSystem_congr (bind_congr_at h)

/-! ### The handlers -/

section Handlers

variable {R : User → User → Prop} {queryPhone : ℕ → String → String → Except SystemError User}
  {queryUser : ℕ → String → Except SystemError User}

/-- Only the devices of the user are looked at to find a device. -/
theorem DbClient.Twin.findDevice_eq (h : client.Twin R queryPhone queryUser) {uuid : String}
    (hR : ∀ u v, R u v → u.listsDevice uuid = v.listsDevice uuid) (userid : String) (code : ℤ) :
    (client.withUsers queryPhone queryUser).findDevice userid uuid code =
      client.findDevice userid uuid code :=
  (bind_call_similar_all (fun n => h.user n userid) fun u v huv =>
    throwIf_congr (by rw [hR u v huv]) code "device not find").symm

/-- Only the blacklists of the members are looked at to filter them. -/
theorem DbClient.Twin.filtrate_eq (h : client.Twin R queryPhone queryUser)
    {membersid : List String}
    (hR : ∀ u v, R u v → ∀ id ∈ membersid, id ∈ u.blacklist ↔ id ∈ v.blacklist) :
    (client.withUsers queryPhone queryUser).filtrate membersid = client.filtrate membersid := by
  induction membersid with
  | nil => rfl
  | cons memberid membersid ih =>
      have ih := ih fun u v huv id hid => hR u v huv id (List.mem_cons_of_mem _ hid)
      refine (bind_call_similar_all (fun n => h.user n memberid) fun u v huv => ?_).symm
      simp only [ih, hR u v huv memberid List.mem_cons_self]

/-- A Login is handled alike. -/
theorem DbClient.Twin.dispatchLogin_eq (h : client.Twin R queryPhone queryUser)
    {login : Chat.Login}
    (hR : ∀ u v, R u v → ClientRequest.Alike t.node.userid u v (.login login)) :
    (client.withUsers queryPhone queryUser).dispatchLogin login t =
      client.dispatchLogin login t := by
  refine (catchSystem_congr (congrFun ?_ t)).symm
  refine bind_call_similar_all (fun n => h.phone n login.phoneno login.countrycode)
    fun u v huv => ?_
  obtain ⟨hid, hpassword, hdevice⟩ := hR u v huv
  have hstore (n : ℕ) : client.storeDevice n u login.device =
      (client.withUsers queryPhone queryUser).storeDevice n v login.device := by
    simp only [DbClient.storeDevice, hid, hdevice, DbClient.withUsers]
  rw [throwIf_congr (not_congr hpassword)]
  simp only [hid, hstore]
  rfl

/-- An AddFriend is handled alike. -/
theorem DbClient.Twin.dispatchAddFriend_eq (h : client.Twin R queryPhone queryUser)
    {frd : AddFriend}
    (hR : ∀ u v, R u v → ClientRequest.Alike t.node.userid u v (.addFriend frd)) :
    (client.withUsers queryPhone queryUser).dispatchAddFriend frd t =
      client.dispatchAddFriend frd t := by
  refine (catchSystem_congr (congrFun ?_ t)).symm
  refine congrArg (bind get) (funext fun t' => congrArg (bind _) (funext fun _ => ?_))
  refine bind_call_similar_all (fun n => h.user n frd.inviteeID) fun peer peer' hpeer => ?_
  rw [throwIf_congr (hR peer peer' hpeer).1]
  refine congrArg (bind _) (funext fun _ => ?_)
  refine bind_call_similar_all (fun n => h.user n frd.inviterID) fun u v huv => ?_
  have hinviter := (hR peer peer' hpeer).2 frd.inviterID (by simp)
  have hinvitee := (hR u v huv).2 frd.inviteeID (by simp)
  rw [throwIf_congr (Eq.congr_left hinvitee)]
  refine congrArg (bind _) (funext fun _ => ?_)
  rw [throwIf_congr (Eq.congr_left hinviter)]
  rfl

/-- A ClientConnect is handled alike. -/
theorem DbClient.Twin.dispatchClientConnect_eq (h : client.Twin R queryPhone queryUser)
    {connect : ClientConnect}
    (hR : ∀ u v, R u v → u.listsDevice connect.uuid = v.listsDevice connect.uuid) :
    (client.withUsers queryPhone queryUser).dispatchClientConnect connect =
      client.dispatchClientConnect connect := by
  unfold DbClient.dispatchClientConnect
  rw [h.findDevice_eq hR]
  rfl

/-- A QueryUser is handled alike. -/
theorem DbClient.Twin.dispatchQueryUser_eq (h : client.Twin R queryPhone queryUser)
    {query : Chat.QueryUser} (hR : ∀ u v, R u v → u.shown t.node.userid = v.shown t.node.userid) :
    (client.withUsers queryPhone queryUser).dispatchQueryUser query t =
      client.dispatchQueryUser query t := by
  refine (respond_congr (bind_call_similar (R := R) ?_ fun u v huv => ?_)).symm
  · simp only [DbClient.withUsers]
    split
    · exact h.user _ _
    · exact h.phone _ _ _
  · exact congrArg (fun user => EStateM.Result.ok (Response.queryUserRes user) t.next) (hR u v huv)

/-- The handler of a request tells apart no documents that look alike to the request. -/
theorem DbClient.Twin.handle_eq {request : ClientRequest}
    (h : client.Twin (fun u v => request.Alike t.node.userid u v) queryPhone queryUser) :
    (client.withUsers queryPhone queryUser).handle request t = client.handle request t := by
  cases request with
  | register enroll =>
      refine respond_congr ?_
      split
      · exact (bind_call_similar (h.phone _ _ _) fun _ _ _ => rfl).symm
      · rfl
  | login l => exact h.dispatchLogin_eq fun _ _ huv => huv
  | logout l =>
      refine respond_congr (bind_congr_at ?_)
      rw [h.findDevice_eq fun _ _ huv => huv]
  | clientConnect c => exact congrFun (h.dispatchClientConnect_eq fun _ _ huv => huv) t
  | clientDisConnect c =>
      refine respond_congr (bind_congr_at ?_)
      rw [h.findDevice_eq fun _ _ huv => huv]
  | addFriend frd => exact h.dispatchAddFriend_eq fun _ _ huv => huv
  | createGroup group =>
      refine respond_congr (bind_congr_at ?_)
      rw [h.filtrate_eq fun _ _ huv => huv]
  | groupAddMember group =>
      refine respond_congr (bind_congr_at ?_)
      rw [h.filtrate_eq fun _ _ huv => huv]
  | queryUser query => exact h.dispatchQueryUser_eq fun _ _ huv => huv
  | queryUserVersion userid =>
      refine (respond_congr (bind_call_similar (h.user _ _) fun u v huv => ?_)).symm
      rw [show u.version = v.version from huv]
  | _ => rfl

end Handlers

/-! ### What is given away -/

/-- A dispatch, whatever its gate decides, tells apart no documents that look alike to its
request: the same is mounted and thrown, and the thread is left in the same state. -/
theorem DbClient.Twin.dispatch_eq {request : ClientRequest} {dataSessionid : ℕ}
    {queryPhone : ℕ → String → String → Except SystemError User}
    {queryUser : ℕ → String → Except SystemError User}
    (h : client.Twin (fun u v => request.Alike t.node.userid u v) queryPhone queryUser) :
    (client.withUsers queryPhone queryUser).dispatch request dataSessionid t =
      client.dispatch request dataSessionid t := by
  rw [DbClient.dispatch, DbClient.dispatch, bind_get_apply, bind_get_apply]
  cases request.verdict dataSessionid t with
  | reject errnum errmsg => rfl
  | handle => exact h.handle_eq

/-- The documents differ in their passwords only, and a Login finds both right or both wrong. -/
def ClientRequest.PasswordOnly (request : ClientRequest) (u v : User) : Prop :=
  v = { u with password := v.password } ∧
    ∀ l, request = login l → (u.password = l.password ↔ v.password = l.password)

/-- Users that differ in their password only are alike to a request that does not read it. -/
theorem ClientRequest.PasswordOnly.alike {request : ClientRequest} {u v : User}
    (h : request.PasswordOnly u v) (userid : String) : request.Alike userid u v := by
  obtain ⟨huv, hlogin⟩ := h
  cases request with
  | login l =>
      refine ⟨by rw [huv], hlogin l rfl, ?_⟩
      rw [huv]
      rfl
  | queryUser query =>
      show u.shown userid = v.shown userid
      rw [huv]
      rfl
  | _ => rw [huv]; simp [Alike, User.listsDevice]

/-- Of a password nothing is given away but whether the one of a Login is right: no other message,
and nothing that is thrown, depends on it. -/
theorem dispatch_hidden_passwords {request : ClientRequest} {dataSessionid : ℕ}
    {queryPhone : ℕ → String → String → Except SystemError User}
    {queryUser : ℕ → String → Except SystemError User}
    (h : client.Twin request.PasswordOnly queryPhone queryUser) :
    (client.withUsers queryPhone queryUser).dispatch request dataSessionid t =
      client.dispatch request dataSessionid t :=
  DbClient.Twin.dispatch_eq ⟨fun n p c => (h.phone n p c).mono fun huv => huv.alike _,
    fun n id => (h.user n id).mono fun huv => huv.alike _⟩

/-- A user who queries the own document, with one password and with another. -/
theorem hidden_passwords_own :
    (lostDevices.withUsers
        (fun _ phoneNo countryCode => .ok
          ⟨idA, "", "", "", "", true, phoneNo, countryCode, "xyz", 0, 1, [], [], [], []⟩)
        fun _ userID => .ok ⟨userID, "", "", "", "", true, "", "", "abc", 0, 1, [], [], [],
          [⟨0, "", "", "phone"⟩]⟩).dispatch (.queryUser ⟨idA, "", ""⟩) 100 (sessionOf idA) =
      lostDevices.dispatch (.queryUser ⟨idA, "", ""⟩) 100 (sessionOf idA) :=
  dispatch_hidden_passwords
    ⟨fun _ _ _ => ⟨rfl, fun _ h => ClientRequest.noConfusion h⟩,
      fun _ _ => ⟨rfl, fun _ h => ClientRequest.noConfusion h⟩⟩

end Yijian
