import Yijian.Handlers

/-!
# Replies

A request is replied to once when its dispatch ends without an exception, and the messages on
the requesting connection that are no notifications are one message: the one that answers the
type of the request, or an Error. Most handlers see to it whatever the database does, since
their reply is the last thing they do. The handlers that go on behind their reply answer twice
when the database throws there, and three handlers have a branch without any answer.

## Convention

An answer is counted on the requesting connection only. Notifications go to the connection as
well, where a user is on several devices or notifies itself, and are no answers. `Unanswered` is
what makes a handler safe: an exception that comes before the reply is turned into an Error by the
catch block, and one behind it makes the second message. A dispatch that throws what the handler
does not catch ends the worker thread, and with it the process. The condition for each request is
on the answers of the database, one line for each kind, and is met by every request whose handler
replies last.

## Main results

* `repliedOnce_respond`: a handler whose reply comes last replies once.
* `repliedOnce_dispatch_iff`: the exact condition, for each request, on what the database
  answers.
* `not_repliedOnce`: the kinds of request that are replied to twice or not at all.
-/

namespace Yijian

open Attempts

variable {client : DbClient} {request : ClientRequest} {t : Turn}

/-! ### The statement -/

/-- The message answers the request: it has the type for it, or is an Error. -/
def Response.Answers (r : Response) (request : ClientRequest) : Prop :=
  r.dispatchType = request.types.2 ∨ r.dispatchType = .error

/-- One reply is on the requesting connection, and it answers the request. -/
def Turn.Replied (t : Turn) (request : ClientRequest) : Prop :=
  ∃ r, t.replies = [r] ∧ r.Answers request

/-- The handler mounts one reply, and lets no exception escape. -/
def RepliedOnce (request : ClientRequest) (handler : Handler Unit) (t : Turn) : Prop :=
  Ends handler t (fun _ t' => t'.Replied request) fun _ _ => False

/-- What a handler answers when it catches it: a `std::system_error` thrown in front of the
reply. -/
def Unanswered (e : Thrown) (t : Turn) : Prop :=
  e ≠ .other ∧ t.replies = []

@[simp] theorem unanswered_system (e : SystemError) (t : Turn) :
    Unanswered (.system e) t ↔ t.replies = [] :=
  and_iff_right Thrown.noConfusion

@[simp] theorem not_unanswered_other (t : Turn) : ¬ Unanswered .other t :=
  fun h => h.1 rfl

/-! ### What the parts of a handler do -/

/-- No request is answered by a notification. -/
theorem Response.Answers.not_isNoti {r : Response} (h : r.Answers request) :
    r.isNoti = false := by
  unfold Answers at h
  cases r with
  | loginNoti _ | addFriendNoti _ | addFriendAuthorizeNoti _ | nodeMessageNoti _ =>
      cases request <;> simp [dispatchType, ClientRequest.types] at h
  | _ => rfl

@[simp] theorem Turn.replies_mountSelf (t : Turn) (r : Response) :
    (t.mount [.self r]).replies = t.replies ++ if r.isNoti then [] else [r] := by
  rw [replies_mount, List.flatMap_singleton, Mounted.onNode]
  cases h : r.isNoti <;> simp [h]

@[simp] theorem Turn.replies_mountPeer (t : Turn) (r : Response) :
    (t.mount [.peer r]).replies =
      t.replies ++ if r.isNoti then [] else List.replicate t.peers r := by
  rw [replies_mount, List.flatMap_singleton, Mounted.onNode, List.filter_replicate]
  cases r.isNoti <;> simp

/-- The notifications to devices are not on the requesting connection. -/
@[simp] theorem Turn.replies_traverseDevices (noti : Response) (t₀ : Turn)
    (infos : List ConnectInfoLittle) :
    (t.mount (infos.flatMap (Turn.traverseDevices noti t₀))).replies = t.replies := by
  have hnone :
      (infos.flatMap (Turn.traverseDevices noti t₀)).flatMap (Mounted.onNode t.peers) = [] := by
    rw [List.flatMap_eq_nil_iff]
    intro m hm
    obtain ⟨info, -, hm⟩ := List.mem_flatMap.mp hm
    unfold Turn.traverseDevices at hm
    split at hm
    · rw [List.mem_singleton.mp hm, Mounted.onNode]
    · cases hm
  rw [replies_mount, hnone, List.filter_nil, List.append_nil]

/-- The unread nodes are sent as notifications. -/
@[simp] theorem Turn.replies_unreadNoti (t₀ : Turn) (rows : List (String × ℤ × ℤ)) :
    (t.mount (rows.flatMap (unreadNoti t₀))).replies = t.replies := by
  rw [replies_mount, List.filter_eq_nil_iff.mpr, List.append_nil]
  intro r hr
  obtain ⟨m, hm, hr⟩ := List.mem_flatMap.mp hr
  obtain ⟨row, -, hm⟩ := List.mem_flatMap.mp hm
  rw [List.mem_singleton.mp hm, Mounted.onNode] at hr
  rw [List.mem_singleton.mp hr]
  exact Bool.false_ne_true

/-- A request has been answered by one response of its type, or an Error. -/
theorem Turn.replied_iff : t.Replied request ↔
    ∃ r, t.replies = [r] ∧ (r.dispatchType = request.types.2 ∨ r.dispatchType = .error) :=
  Iff.rfl

/-- The first response answers the request. -/
theorem Turn.replied_mountSelf {r : Response} (hr : r.Answers request) :
    (t.mount [.self r]).Replied request ↔ t.replies = [] := by
  rw [Replied, replies_mountSelf, hr.not_isNoti, if_neg Bool.false_ne_true]
  simp [List.append_eq_singleton_iff, hr]

/-- `try { … } catch (…)`, from the start of a dispatch: at the end one reply is there, or the
handler makes one. -/
theorem repliedOnce_catchSystem {body : Handler Unit} {onError : SystemError → Response}
    (herr : ∀ e, (onError e).Answers request) :
    RepliedOnce request (catchSystem body fun e => mountSelf (onError e)) t ↔
      Ends body t (fun _ t' => t'.Replied request) Unanswered := by
  rw [RepliedOnce, catchSystem, ends_tryCatch]
  refine iff_of_eq (congrArg (Ends body t _) (funext₂ fun e t' => propext ?_))
  cases e with
  | other => simp
  | system e => simp [Turn.replied_mountSelf (herr e)]

/-! ### Handlers whose reply comes last -/

/-- The program mounts no reply, and throws nothing but `std::system_error`. -/
def Prepares {α : Type} (P : α → Prop) (p : Handler α) : Prop :=
  Within Turn.replies P (· ≠ .other) p

/-- A call answers nothing. -/
theorem prepares_call {α : Type} (f : ℕ → Except SystemError α) :
    Prepares (fun _ => True) (call f) :=
  fun _ => ends_call.mpr ⟨fun _ _ => ⟨trivial, rfl⟩, fun _ _ => ⟨Thrown.noConfusion, rfl⟩⟩

/-- To find a device answers nothing. -/
theorem prepares_findInfo (uuid : String) : Prepares (fun _ => True) (client.findInfo uuid) :=
  fun _ => ends_findInfo.mpr (prepares_call _ _)

/-- An exception answers nothing. -/
theorem prepares_throwIf {c : Prop} [Decidable c] (code : ℤ) (what : String) :
    Prepares (fun _ => True) (throwIf c code what) :=
  (within_throw Thrown.noConfusion).ite (within_pure trivial)

/-- To store a device answers nothing. -/
theorem prepares_setInfo (f : ConnectInfo → ConnectInfo)
    (store : ℕ → ConnectInfo → Except SystemError Unit) :
    Prepares (fun _ => True) (setInfo f store) :=
  fun _ => ends_setInfo.mpr (prepares_call _ _)

/-- To check a device answers nothing. -/
theorem prepares_findDevice (userid uuid : String) (code : ℤ) :
    Prepares (fun _ => True) (client.findDevice userid uuid code) :=
  (prepares_call _).bind fun _ _ => prepares_throwIf _ _

/-- To filter members answers nothing. -/
theorem prepares_filtrate (membersid : List String) :
    Prepares (fun _ => True) (client.filtrate membersid) := by
  induction membersid with
  | nil => exact within_pure trivial
  | cons memberid membersid ih =>
      exact (prepares_call _).bind fun _ _ => ih.bind fun _ _ => within_pure trivial

/-- **A handler whose reply comes last replies once**, whatever the database does. -/
theorem repliedOnce_respond {body : Handler Response} {onError : SystemError → Response}
    (hbody : Prepares (·.Answers request) body) (herr : ∀ e, (onError e).Answers request)
    (ht : t.replies = []) : RepliedOnce request (respond body onError) t := by
  refine (repliedOnce_catchSystem herr).mpr (ends_bind.mpr ?_)
  refine (hbody t).mono (fun r t' h => ?_) fun e t' h => ⟨h.1, h.2.trans ht⟩
  exact ends_mountSelf.mpr ((Turn.replied_mountSelf h.1).mpr (h.2.trans ht))

/-- An Error answers every request. -/
theorem errorResponse_answers (e : SystemError) : (errorResponse e).Answers request :=
  .inr rfl

/-- The requests whose handlers end with their reply. -/
def ClientRequest.RepliesLast : ClientRequest → Prop
  | .login _ | .clientConnect _ | .addFriend _ | .addFriendAuthorize _ | .nodeMessage _
  | .setUserProperty _ => False
  | _ => True

/-- **A handler that replies last** replies once, whatever fails. -/
theorem repliedOnce_handle_of_repliesLast (hlast : request.RepliesLast) (ht : t.replies = []) :
    RepliedOnce request (client.handle request) t := by
  cases request with
  | login _ | clientConnect _ | addFriend _ | addFriendAuthorize _ | nodeMessage _
  | setUserProperty _ => exact hlast.elim
  | register enroll =>
      refine repliedOnce_respond ?_ (fun e => ?_) ht
      · exact ((prepares_call _).bind fun _ _ => within_throw Thrown.noConfusion).ite
          ((prepares_call _).bind fun _ _ => within_pure (.inl rfl))
      · split <;> exact .inl rfl
  | logout logout =>
      refine repliedOnce_respond ?_ errorResponse_answers ht
      exact (prepares_findDevice _ _ _).bind fun _ _ => (prepares_findInfo _).bind fun _ _ =>
        within_get.bind fun _ _ => (prepares_setInfo _ _).bind fun _ _ => within_pure (.inl rfl)
  | clientDisConnect disconnect =>
      refine repliedOnce_respond ?_ errorResponse_answers ht
      exact (prepares_findDevice _ _ _).bind fun _ _ => (prepares_findInfo _).bind fun _ _ =>
        within_get.bind fun _ _ => (prepares_setInfo _ _).bind fun _ _ =>
          within_get.bind fun _ _ => within_pure (.inl rfl)
  | queryAddfriendInfo count =>
      refine repliedOnce_respond ?_ errorResponse_answers ht
      exact within_get.bind fun _ _ => (prepares_call _).bind fun _ _ => within_pure (.inl rfl)
  | createGroup group =>
      refine repliedOnce_respond ?_ errorResponse_answers ht
      exact (prepares_filtrate _).bind fun _ _ => (prepares_throwIf _ _).bind fun _ _ =>
        (prepares_call _).bind fun _ _ => within_pure (.inl rfl)
  | groupAddMember groupMember =>
      refine repliedOnce_respond ?_ errorResponse_answers ht
      exact (prepares_filtrate _).bind fun _ _ => (prepares_call _).bind fun _ _ =>
        within_pure (.inl rfl)
  | queryUser queryUser =>
      refine repliedOnce_respond ?_ errorResponse_answers ht
      exact (prepares_call _).bind fun _ _ => within_get.bind fun _ _ => within_pure (.inl rfl)
  | queryMessage query =>
      refine repliedOnce_respond ?_ errorResponse_answers ht
      exact (prepares_throwIf _ _).bind fun _ _ => (prepares_call _).bind fun _ _ =>
        within_pure (.inl rfl)
  | media media =>
      refine repliedOnce_respond ?_ (fun e => ?_) ht
      · exact (prepares_call _).bind fun _ _ => within_pure (.inl rfl)
      · split
        · exact .inl rfl
        · exact errorResponse_answers e
  | queryUserVersion _ | queryNode _ | queryNodeVersion _ | queryOneMessage _ | queryMedia _ =>
      refine repliedOnce_respond ?_ errorResponse_answers ht
      exact (prepares_call _).bind fun _ _ => within_pure (.inl rfl)
  | ping => exact ends_mountSelf.mpr ((Turn.replied_mountSelf (.inl rfl)).mpr ht)

/-! ### In front of the reply and behind it -/

/-- In front of the reply only a call that goes well leads on. -/
theorem ends_call_front {α : Type} {f : ℕ → Except SystemError α} {Q : α → Turn → Prop}
    (ht : t.replies = []) :
    Ends (call f) t Q Unanswered ↔ ∀ a, f t.calls = .ok a → Q a t.next := by
  simp [ends_call, ht]

/-- An exception in front of the reply leaves it to the handler of errors. -/
theorem ends_throwIf_front {c : Prop} [Decidable c] {code : ℤ} {what : String}
    {Q : Unit → Turn → Prop} (ht : t.replies = []) :
    Ends (throwIf c code what) t Q Unanswered ↔ (¬ c → Q () t) := by
  simp [ends_throwIf, ht]

/-- Behind the reply a call has to go well. -/
theorem ends_call_behind {α : Type} {f : ℕ → Except SystemError α} {Q : α → Turn → Prop}
    (ht : t.replies ≠ []) :
    Ends (call f) t Q Unanswered ↔ ∃ a, f t.calls = .ok a ∧ Q a t.next := by
  rw [ends_call]
  cases f t.calls <;> simp [ht]

/-- Behind the reply a query has to hand over all its rows. -/
theorem ends_cursor_behind {α : Type} {rows : ℕ → List α × Option SystemError}
    {func : Turn → α → List Mounted} {Q : Unit → Turn → Prop} (ht : t.replies ≠ [])
    (hfunc : ∀ infos : List α, (t.next.mount (infos.flatMap (func t))).replies = t.replies) :
    Ends (cursor rows func) t Q Unanswered ↔
      (rows t.calls).2 = none ∧ Q () (t.next.mount ((rows t.calls).1.flatMap (func t))) := by
  unfold Ends cursor
  cases (rows t.calls).2 <;> simp [ht, hfunc]

/-- Behind the reply, the devices of a user have to be read. -/
theorem ends_mountUser {noti : Response} {touserid : String} {Q : Unit → Turn → Prop}
    (ht : t.replies ≠ []) :
    Ends (client.mountUser noti touserid) t Q Unanswered ↔
      (client.devices t.calls touserid).2 = none ∧
        Q () (t.next.mount
          ((client.devices t.calls touserid).1.flatMap (Turn.traverseDevices noti t))) :=
  ends_cursor_behind ht fun infos => t.next.replies_traverseDevices noti t infos

/-- Behind the reply, the node and the devices of its members have to be read. -/
theorem ends_mountSpecifiy {noti : Response} {tonodeid : String} {Q : Unit → Turn → Prop}
    (ht : t.replies ≠ []) :
    Ends (client.mountSpecifiy noti tonodeid) t Q Unanswered ↔
      ∃ node, client.queryNode t.calls tonodeid = .ok node ∧
        (client.devicesOf (t.calls + 1) node.members t.node.userid).2 = none ∧
        Q () (t.next.next.mount
          ((client.devicesOf (t.calls + 1) node.members t.node.userid).1.flatMap
            (Turn.traverseDevices noti t.next))) := by
  rw [DbClient.mountSpecifiy, ends_bind, ends_call_behind ht]
  refine exists_congr fun node => and_congr_right fun _ => ?_
  rw [ends_bind, ends_get]
  exact ends_cursor_behind ht fun infos => t.next.next.replies_traverseDevices noti t.next infos

/-- Behind the reply, the unread messages have to be read. -/
theorem ends_unread {userid : String} {Q : Unit → Turn → Prop} (ht : t.replies ≠ []) :
    Ends (cursor (fun n => client.unreadNodes n userid) unreadNoti) t Q Unanswered ↔
      (client.unreadNodes t.calls userid).2 = none ∧
        Q () (t.next.mount ((client.unreadNodes t.calls userid).1.flatMap (unreadNoti t))) :=
  ends_cursor_behind ht fun rows => t.next.replies_unreadNoti t rows

/-! ### Login -/

/-- The calls that store the connect info of a device, from the call `n` on, go well and leave
`info`. -/
def DbClient.StoresLogin (client : DbClient) (n : ℕ) (userid uuid : String)
    (current info : ConnectInfo) : Prop :=
  let (found, current) := client.findUUID n uuid current
  (found = .ok true ∧ info = current.login uuid userid (addUser current.users userid) ∧
      client.updateUUID (n + 1) info = .ok ()) ∨
    (found = .ok false ∧ info = current.login uuid userid (addUser (fun _ => none) userid) ∧
      client.insertUUID (n + 1) info = .ok ())

/-- In front of the reply, a Login is stored or an error takes its place. -/
theorem ends_storeLogin {userid uuid : String} {Q : Unit → Turn → Prop} (ht : t.replies = []) :
    Ends (client.storeLogin userid uuid) t Q Unanswered ↔
      ∀ info, client.StoresLogin t.calls userid uuid t.connectInfo info →
        Q () (t.next.next.setInfo info) := by
  unfold DbClient.StoresLogin
  rw [DbClient.storeLogin, ends_bind, ends_findInfo]
  obtain ⟨found, current⟩ := client.findUUID t.calls uuid t.connectInfo
  rw [ends_call_front (t.setInfo_replies current ▸ ht)]
  cases found with
  | error e => simp
  | ok isFind =>
      cases isFind <;> simp [ends_setInfo, ends_call_front, Unique.forall_iff, ht] <;> rfl

/-- The calls of a Login in front of its reply go well. -/
def DbClient.LogsIn (client : DbClient) (login : Chat.Login) (t : Turn) : Prop :=
  ∃ user info, client.queryPhone 0 login.phoneno login.countrycode = .ok user ∧
    user.password = login.password ∧ client.storeDevice 1 user login.device = .ok () ∧
    client.StoresLogin 2 user.id login.device.uuid t.connectInfo info

/-- **A Login** is answered once unless its notifications fail, or peers get them too. -/
theorem repliedOnce_login {login : Chat.Login} (hcalls : t.calls = 0) (ht : t.replies = []) :
    RepliedOnce (.login login) (client.dispatchLogin login) t ↔
      (client.LogsIn login t → (client.devices 4 t.node.userid).2 = none ∧ t.peers = 0) := by
  rw [DbClient.dispatchLogin, repliedOnce_catchSystem fun _ => .inl rfl]
  simp [ends_call_front, ends_throwIf_front, ends_storeLogin, ends_mountUser, Turn.replied_iff,
    Response.isNoti, Response.dispatchType, ClientRequest.types, DbClient.LogsIn,
    Unique.forall_iff, hcalls, ht]

/-! ### ClientConnect -/

/-- The call `n` finds the user, and the user has the device. -/
def DbClient.HasDevice (client : DbClient) (n : ℕ) (userid uuid : String) : Prop :=
  ∃ user, client.queryUser n userid = .ok user ∧ user.listsDevice uuid

/-- In front of the reply, the device is found or an error takes its place. -/
theorem ends_findDevice {userid uuid : String} {code : ℤ} {Q : Unit → Turn → Prop}
    (ht : t.replies = []) :
    Ends (client.findDevice userid uuid code) t Q Unanswered ↔
      (client.HasDevice t.calls userid uuid → Q () t.next) := by
  simp [DbClient.findDevice, ends_call_front, ends_throwIf_front, DbClient.HasDevice, ht]

/-- What a ClientConnect needs once it has found its device: a session number of the user in
`connectInfo_`, and all rows of the unread nodes once the connect info is stored. -/
def DbClient.Connects (client : DbClient) (connect : ClientConnect) (t : Turn) : Prop :=
  let (found, info) := client.findUUID 1 connect.uuid t.connectInfo
  (∃ isFind, found = .ok isFind) →
    (info.users connect.userid).isSome ∧
      (client.updateUUID 2 (info.connect connect) = .ok () →
        (client.unreadNodes 3 connect.userid).2 = none)

/-- **A ClientConnect** is answered once if what follows the device can be read. -/
theorem repliedOnce_clientConnect {connect : ClientConnect} (hcalls : t.calls = 0)
    (ht : t.replies = []) :
    RepliedOnce (.clientConnect connect) (client.dispatchClientConnect connect) t ↔
      (client.HasDevice 0 connect.userid connect.uuid → client.Connects connect t) := by
  rw [DbClient.dispatchClientConnect, repliedOnce_catchSystem fun _ => .inl rfl, ends_bind,
    ends_findDevice ht, hcalls, ends_bind, ends_findInfo]
  unfold DbClient.Connects
  rw [t.next_calls, hcalls, t.next_connectInfo]
  obtain ⟨found, info⟩ := client.findUUID (0 + 1) connect.uuid t.connectInfo
  rw [ends_call_front ((t.next.setInfo_replies info).trans ht)]
  cases husers : info.users connect.userid with
  | none => simp [husers]
  | some stored =>
      simp [husers, ends_setInfo, ends_call_front, ends_unread, Turn.replied_iff, Response.isNoti,
        Response.dispatchType, ClientRequest.types, Unique.forall_iff, or_imp, hcalls, ht]

/-! ### AddFriend and its answer -/

/-- The calls of an AddFriend in front of its reply go well, and the last one returns `res`. -/
def DbClient.RequestsFriend (client : DbClient) (frd : AddFriend) (t : Turn) (res : AddFriendRes) :
    Prop :=
  frd.inviterID ≠ "" ∧ frd.inviteeID ≠ "" ∧ frd.inviterID = t.node.userid ∧
    ∃ peerUser user, client.queryUser 0 frd.inviteeID = .ok peerUser ∧
      frd.inviteeID ∉ peerUser.blacklist ∧ client.queryUser 1 frd.inviterID = .ok user ∧
      ¬ user.friends.any (·.userID == frd.inviteeID) ∧
      ¬ peerUser.friends.any (·.userID == frd.inviterID) ∧ client.addFriend 2 frd = .ok res

/-- **An AddFriend** is answered once unless its notifications fail, or peers get them too. -/
theorem repliedOnce_addFriend {frd : AddFriend} (hcalls : t.calls = 0) (ht : t.replies = []) :
    RepliedOnce (.addFriend frd) (client.dispatchAddFriend frd) t ↔
      ∀ res, client.RequestsFriend frd t res →
        (client.devices 3 res.inviteeID).2 = none ∧ (client.devices 4 res.inviterID).2 = none ∧
          t.peers = 0 := by
  rw [DbClient.dispatchAddFriend, repliedOnce_catchSystem errorResponse_answers]
  simp only [DbClient.RequestsFriend, and_imp, forall_exists_index]
  simp [ends_call_front, ends_throwIf_front, ends_mountUser, Turn.replied_iff, Response.isNoti,
    Response.dispatchType, ClientRequest.types, hcalls, ht]
  constructor
  · intro h res hinviter hinvitee hself peerUser user hpeer hblack huser hnew hnew' hres
    exact h hinviter hinvitee hself peerUser hpeer hblack user huser hnew hnew' res hres
  · intro h hinviter hinvitee hself peerUser hpeer hblack user huser hnew hnew' res hres
    exact h res hinviter hinvitee hself peerUser user hpeer hblack huser hnew hnew' hres

/-- An AddFriendAuthorize may be answered by its invitee. -/
def AddFriendAuthorize.Permitted (addAuth : AddFriendAuthorize) (t : Turn) : Prop :=
  addAuth.inviterID ≠ "" ∧ addAuth.inviteeID ≠ "" ∧ addAuth.inviteeID = t.node.userid

/-- **An AddFriendAuthorize** is answered once if it agrees and its notifications do not fail. -/
theorem repliedOnce_addFriendAuthorize {addAuth : AddFriendAuthorize} (hcalls : t.calls = 0)
    (ht : t.replies = []) :
    RepliedOnce (.addFriendAuthorize addAuth) (client.dispatchAddFriendAuthorize addAuth) t ↔
      (addAuth.Permitted t → addAuth.isAgree ∧
        (client.addFriendAuthorize 0 addAuth.inviterID addAuth.inviteeID = .ok () →
          (client.devices 1 addAuth.inviterID).2 = none ∧
            (client.devices 2 addAuth.inviteeID).2 = none ∧ t.peers = 0)) := by
  rw [DbClient.dispatchAddFriendAuthorize, repliedOnce_catchSystem errorResponse_answers]
  simp [ends_call_front, ends_throwIf_front, ends_mountUser, Turn.replied_iff, Response.isNoti,
    Response.dispatchType, ClientRequest.types, AddFriendAuthorize.Permitted, ends_ite,
    Unique.forall_iff, hcalls, ht]
  tauto

/-! ### NodeMessage -/

/-- What a NodeMessage needs behind its reply. -/
def DbClient.Spreads (client : DbClient) (message : Chat.NodeMessage) (t : Turn) : Prop :=
  if message.touserid_outer = "" then
    (∃ node, client.queryNode 1 message.tonodeid = .ok node) ∧
      ∃ node, client.queryNode 2 message.tonodeid = .ok node ∧
        (client.devicesOf 3 node.members t.node.userid).2 = none ∧ t.peers = 0
  else
    (client.devices 1 t.node.userid).2 = none ∧
      (client.devices 2 message.touserid_outer).2 = none ∧ t.peers = 0

/-- **A NodeMessage** is answered once if it spreads. -/
theorem repliedOnce_nodeMessage {message : Chat.NodeMessage} (hcalls : t.calls = 0)
    (ht : t.replies = []) :
    RepliedOnce (.nodeMessage message) (client.dispatchNodeMessage message) t ↔
      ∀ res, client.insertMessage 0 message.toNodeMessage = .ok res →
        client.Spreads message t := by
  rw [DbClient.dispatchNodeMessage, repliedOnce_catchSystem errorResponse_answers]
  unfold DbClient.Spreads
  split
  · simp [ends_call_front, ends_call_behind, ends_mountSpecifiy, Turn.replied_iff,
      Response.isNoti, Response.dispatchType, ClientRequest.types, *]
  · simp [ends_call_front, ends_mountUser, Turn.replied_iff, Response.isNoti,
      Response.dispatchType, ClientRequest.types, *]

/-! ### SetUserProperty -/

/-- The birthday is the fifth property. -/
theorem propertyString_eq_birthday {property : ℤ} :
    propertyString property = some "birthday" ↔ property = 5 := by
  constructor
  · intro h
    unfold propertyString at h
    split at h <;> simp at h ⊢
  · rintro rfl
    rfl

/-- A birthday has to be a number; any other property is stored, or not known. -/
theorem ends_setUserProperty {userID : String} {property : Chat.SetUserProperty}
    {Q : Unit → Turn → Prop} (ht : t.replies = []) (hQ : Q () t.next) :
    Ends (client.setUserProperty userID property) t Q Unanswered ↔
      (property.property = 5 → (stoi property.value).isSome) := by
  rw [← propertyString_eq_birthday]
  unfold DbClient.setUserProperty
  cases propertyString property.property with
  | none => simp [ht]
  | some property_string =>
      simp only
      split
      · rename_i his
        refine iff_of_true ((ends_call_front ht).mpr fun _ _ => hQ) fun h => ?_
        rw [Option.some.inj h] at his
        exact absurd his (by decide)
      · split
        · rename_i hbirthday
          cases stoi property.value with
          | none => simp [hbirthday]
          | some birthday_ts => simp [ends_call_front ht, hQ]
        · rename_i hother
          exact iff_of_true ((ends_call_front ht).mpr fun _ _ => hQ)
            fun h => absurd (Option.some.inj h) hother

/-- **A SetUserProperty** is answered once unless its birthday is no number. -/
theorem repliedOnce_setUserProperty {property : Chat.SetUserProperty} (ht : t.replies = []) :
    RepliedOnce (.setUserProperty property) (client.dispatchSetUserProperty property) t ↔
      (property.property = 5 → (stoi property.value).isSome) := by
  rw [DbClient.dispatchSetUserProperty, respond, repliedOnce_catchSystem errorResponse_answers]
  simp only [ends_bind, ends_get, ends_pure, ends_mountSelf]
  exact ends_setUserProperty ht ((Turn.replied_mountSelf (.inl rfl)).mpr ht)

/-! ### Every request -/

/-- What a request needs of the database, and of the list of peer servers, to be replied to
once. -/
def DbClient.Meets (client : DbClient) (t : Turn) : ClientRequest → Prop
  | .login login =>
      client.LogsIn login t → (client.devices 4 t.node.userid).2 = none ∧ t.peers = 0
  | .clientConnect connect =>
      client.HasDevice 0 connect.userid connect.uuid → client.Connects connect t
  | .addFriend frd =>
      ∀ res, client.RequestsFriend frd t res →
        (client.devices 3 res.inviteeID).2 = none ∧ (client.devices 4 res.inviterID).2 = none ∧
          t.peers = 0
  | .addFriendAuthorize addAuth =>
      addAuth.Permitted t → addAuth.isAgree ∧
        (client.addFriendAuthorize 0 addAuth.inviterID addAuth.inviteeID = .ok () →
          (client.devices 1 addAuth.inviterID).2 = none ∧
            (client.devices 2 addAuth.inviteeID).2 = none ∧ t.peers = 0)
  | .nodeMessage message =>
      ∀ res, client.insertMessage 0 message.toNodeMessage = .ok res → client.Spreads message t
  | .setUserProperty property => property.property = 5 → (stoi property.value).isSome
  | _ => True

/-- **Every request** is answered once if and only if its condition is met. -/
theorem repliedOnce_handle_iff (hcalls : t.calls = 0) (ht : t.replies = []) :
    RepliedOnce request (client.handle request) t ↔ client.Meets t request := by
  cases request with
  | login login => exact repliedOnce_login hcalls ht
  | clientConnect connect => exact repliedOnce_clientConnect hcalls ht
  | addFriend frd => exact repliedOnce_addFriend hcalls ht
  | addFriendAuthorize addAuth => exact repliedOnce_addFriendAuthorize hcalls ht
  | nodeMessage message => exact repliedOnce_nodeMessage hcalls ht
  | setUserProperty property => exact repliedOnce_setUserProperty ht
  | _ => exact iff_of_true (repliedOnce_handle_of_repliesLast trivial ht) trivial

/-- Behind the gate it is the handler that replies. -/
theorem repliedOnce_of_handle {dataSessionid : ℕ}
    (hgate : request.verdict dataSessionid t = .handle) :
    RepliedOnce request (client.dispatch request dataSessionid) t ↔
      RepliedOnce request (client.handle request) t := by
  rw [RepliedOnce, DbClient.dispatch, ends_bind, ends_get, hgate]
  rfl

/-- The gate answers once itself. -/
theorem repliedOnce_of_reject {dataSessionid : ℕ} {errnum : ℤ} {errmsg : String}
    (hgate : request.verdict dataSessionid t = .reject errnum errmsg) (ht : t.replies = []) :
    RepliedOnce request (client.dispatch request dataSessionid) t := by
  rw [RepliedOnce, DbClient.dispatch, ends_bind, ends_get, hgate]
  exact (Turn.replied_mountSelf (.inr rfl)).mpr ht

/-- **Exactly one reply**: a request that passes the gate is replied to once exactly when the
database and the list of peer servers meet its condition. A request that the gate rejects is
always replied to once. -/
theorem repliedOnce_dispatch_iff (client : DbClient) (request : ClientRequest)
    (dataSessionid : ℕ) (connectInfo : ConnectInfo) (node : ReadIo) (sessionid peers : ℕ) :
    RepliedOnce request (client.dispatch request dataSessionid)
        (.start connectInfo node sessionid peers) ↔
      (request.verdict dataSessionid (.start connectInfo node sessionid peers) = .handle →
        client.Meets (.start connectInfo node sessionid peers) request) := by
  cases hgate : request.verdict dataSessionid (.start connectInfo node sessionid peers) with
  | handle =>
      rw [repliedOnce_of_handle hgate, repliedOnce_handle_iff rfl rfl]
      exact ⟨fun h _ => h, fun h => h rfl⟩
  | reject errnum errmsg =>
      exact iff_of_true (repliedOnce_of_reject hgate rfl) Verdict.noConfusion

/-- A database that finds a user without a password, friends or devices, stores everything, and
loses its connection in every query for devices. -/
def lostDevices : DbClient where
  insertUser _ _ := .ok ""
  updateDevice _ _ _ := .ok ()
  insertDevice _ _ _ := .ok ()
  queryPhone _ phoneNo countryCode :=
    .ok ⟨idA, "", "", "", "", true, phoneNo, countryCode, "", 0, 1, [], [], [], []⟩
  queryUser _ userID :=
    .ok ⟨userID, "", "", "", "", true, "", "", "", 0, 1, [], [], [], [⟨0, "", "", "phone"⟩]⟩
  updateUser _ _ _ _ := .ok ()
  addFriend _ frd := .ok ⟨frd.inviterID, frd.inviteeID, "n"⟩
  addFriendAuthorize _ _ _ := .ok ()
  queryAddfriendInfo _ _ _ := .ok []
  createGroup _ group := .ok ⟨"n", group.nickname⟩
  addMembers2Group _ groupMember := .ok groupMember.tonodeid
  queryNode _ nodeID := .ok ⟨nodeID, 3, "", "", 1, [], []⟩
  insertMessage _ _ := .ok ⟨"m", 1⟩
  queryOneMessage _ tonodeid incrementid := .ok ⟨"m", "", tonodeid, incrementid, 1, ""⟩
  queryMessage _ _ := .ok []
  insertMedia _ _ := .ok ()
  queryMedia _ md5 := .ok ⟨md5, "", 0⟩
  devices _ _ := ([], some ⟨1, "lost"⟩)
  devicesOf _ _ _ := ([], some ⟨1, "lost"⟩)
  insertUUID _ _ := .ok ()
  updateUUID _ _ := .ok ()
  findUUID _ _ info := (.ok false, info)
  unreadNodes _ _ := ([], none)

/-- A connection of the user, in the middle of a session. -/
def sessionOf (userid : String) : Turn :=
  .start .empty { ReadIo.new 101 with isConnect := true, userid := userid } 100 0

/-- **Not exactly one reply**: a Login whose query for devices fails behind its reply, an
AddFriendAuthorize that does not agree, a ClientConnect of a user without a session number, and
a birthday that is no number. -/
theorem not_repliedOnce :
    (¬ RepliedOnce (.login ⟨"1", "86", "", ⟨0, "", "", "phone"⟩⟩)
        (lostDevices.dispatch (.login ⟨"1", "86", "", ⟨0, "", "", "phone"⟩⟩) 0)
        (.start .empty (ReadIo.new 0) 0 0)) ∧
      (¬ RepliedOnce (.addFriendAuthorize ⟨idA, idB, false⟩)
        (lostDevices.dispatch (.addFriendAuthorize ⟨idA, idB, false⟩) 100) (sessionOf idB)) ∧
      (¬ RepliedOnce (.clientConnect ⟨idA, "phone", "", "", "", true⟩)
        (lostDevices.dispatch (.clientConnect ⟨idA, "phone", "", "", "", true⟩) 0)
        (.start .empty (ReadIo.new 0) 0 0)) ∧
      ¬ RepliedOnce (.setUserProperty ⟨5, "x"⟩)
        (lostDevices.dispatch (.setUserProperty ⟨5, "x"⟩) 100) (sessionOf idA) := by
  refine ⟨fun h => ?_, fun h => ?_, fun h => ?_, fun h => ?_⟩
  · have hmeets := (repliedOnce_handle_iff rfl rfl).mp ((repliedOnce_of_handle rfl).mp h)
    exact nomatch (hmeets ⟨_, _, rfl, rfl, rfl, .inr ⟨rfl, rfl, rfl⟩⟩).1
  · have hmeets := (repliedOnce_handle_iff rfl rfl).mp ((repliedOnce_of_handle rfl).mp h)
    exact nomatch (hmeets ⟨by decide, by decide, rfl⟩).1
  · have hmeets := (repliedOnce_handle_iff rfl rfl).mp ((repliedOnce_of_handle rfl).mp h)
    exact nomatch (hmeets ⟨_, rfl, by decide⟩ ⟨_, rfl⟩).1
  · have hmeets := (repliedOnce_handle_iff rfl rfl).mp ((repliedOnce_of_handle rfl).mp h)
    exact absurd (hmeets rfl) (by decide)

end Yijian
