import Yijian.Replies

/-!
# Relays between Servers

A handler that changes something for users of other servers mounts its response on every peer
server as well. There the response is dispatched like a request: by handlers of its own, which
mount the notification on the devices of the users on that server, and behind the same gate.

A relay carries the number of the request that it answers. The peer reads it as a message without
a number, which is compared with 0, so that its gate refuses all relays of numbered requests; it
answers with an Error, which the first server drops.

## Convention

A peer server is a connection like any other, on which the sender has sent serverconnect, and the
number it keeps for a relay is the one of the request, set by the thread that handles it. The
statement is about one relay, on a peer in any state: with any users, any connections and any
database of its own, and wherever the handler of the first server stops. The Error that comes back
is a message of the peer to the first server, where it is dispatched in turn: it carries the number
0, passes the gate, and its handler only logs it. A LoginRes is the exception, since a Login
carries no number. It is let in, and its handler notifies the user that the connection between the
servers stands for.

## Main results

* `keeps_relays_handle`: what a handler relays, and under which number.
* `relays_refused`: what becomes of relays on the peer and back on the first server.
-/

namespace Yijian

open Attempts

/-! ### The handlers of the peer -/

section Handlers

variable (client : DbClient)

/-- `dispatch(chat::LoginRes&)`: the user is that of the connection. -/
def DbClient.dispatchLoginRes (uuid : String) : Handler Unit :=
  catchSystem
    (do
      let t ← get
      client.mountUser (.loginNoti uuid) t.node.userid)
    fun e => mountSelf (errorResponse e)

/-- `dispatch(chat::AddFriendRes&)`. -/
def DbClient.dispatchAddFriendRes (res : AddFriendRes) : Handler Unit :=
  catchSystem
    (do
      client.mountUser (.addFriendNoti res) res.inviteeID
      client.mountUser (.addFriendNoti res) res.inviterID)
    fun e => mountSelf (errorResponse e)

/-- `dispatch(chat::AddFriendAuthorizeRes&)`. -/
def DbClient.dispatchAddFriendAuthorizeRes (res : AddFriendAuthorize) : Handler Unit :=
  catchSystem
    (do
      client.mountUser (.addFriendAuthorizeNoti res) res.inviterID
      client.mountUser (.addFriendAuthorizeNoti res) res.inviteeID)
    fun e => mountSelf (errorResponse e)

/-- `dispatch(chat::NodeMessageRes&)`: the notification to a user does not name the user. -/
def DbClient.dispatchNodeMessageRes (res : NodeMessageRes)
    (fromuserid touserid_outer tonodeid : String) : Handler Unit :=
  catchSystem
    (if touserid_outer = "" then
      client.mountSpecifiy
        (.nodeMessageNoti ⟨fromuserid, touserid_outer, tonodeid, 0, res.incrementid⟩) tonodeid
    else
      client.mountUser (.nodeMessageNoti ⟨fromuserid, "", tonodeid, 0, res.incrementid⟩)
        touserid_outer)
    fun e => mountSelf (errorResponse e)

/-- `dispatch(type, header, length)` on a response: an Error is dropped, and so are the types
without a handler. -/
def DbClient.handleRes : Response → Handler Unit
  | .loginRes _ _ uuid _ _ => client.dispatchLoginRes uuid
  | .addFriendRes res => client.dispatchAddFriendRes res
  | .addFriendAuthorizeRes res => client.dispatchAddFriendAuthorizeRes res
  | .nodeMessageRes res fromuserid touserid_outer tonodeid =>
      client.dispatchNodeMessageRes res fromuserid touserid_outer tonodeid
  | _ => pure ()

/-- `dispatch(node, spvec, session_id)` on a response. -/
def DbClient.dispatchRes (r : Response) (dataSessionid : ℕ) : Handler Unit := do
  let t ← get
  match dispatchGate t.node.isConnect r.dispatchType.code dataSessionid t.sessionid with
  | .reject errnum errmsg => mountSelf (.error errnum errmsg)
  | .handle => client.handleRes r

end Handlers

/-- The dispatch of a message of some type begins: the event loop has numbered the message. -/
def Turn.read (connectInfo : ConnectInfo) (node : ReadIo) (peers : ℕ) (type : ChatType) : Turn :=
  .start connectInfo node (assignSessionid node.sessionid type.code).1 peers

/-! ### What a handler mounts -/

/-- The number that the frames are marked with meets `S`, everything mounted so far `P`. -/
def Turn.Mounts (S : ℕ → Prop) (P : Mounted → Prop) (t : Turn) : Prop :=
  S t.sessionid ∧ ∀ m ∈ t.mounted, P m

section Mounts

variable {client : DbClient} {S : ℕ → Prop} {P : Mounted → Prop}

/-- More that meets the condition is mounted. -/
theorem Turn.Mounts.mount {t : Turn} (h : t.Mounts S P) {ms : List Mounted}
    (hms : ∀ m ∈ ms, P m) : (t.mount ms).Mounts S P := by
  refine ⟨h.1, fun m hm => ?_⟩
  rw [Turn.mount_mounted, List.mem_append] at hm
  exact hm.elim (h.2 m) (hms m)

/-- A call mounts nothing. -/
theorem keeps_call {α : Type} (f : ℕ → Except SystemError α) :
    Keeps (Turn.Mounts S P) (call f) :=
  fun _ h => ends_call.mpr ⟨fun _ _ => h, fun _ _ => h⟩

/-- A cursor mounts what its function makes of the rows. -/
theorem keeps_cursor {α : Type} {rows : ℕ → List α × Option SystemError}
    {func : Turn → α → List Mounted} (hfunc : ∀ t a, ∀ m ∈ func t a, P m) :
    Keeps (Turn.Mounts S P) (cursor rows func) := by
  intro t h
  have hmount : (t.next.mount ((rows t.calls).1.flatMap (func t))).Mounts S P := by
    refine Turn.Mounts.mount (t := t.next) h fun m hm => ?_
    obtain ⟨a, -, hm⟩ := List.mem_flatMap.mp hm
    exact hfunc t a m hm
  exact ends_cursor.mpr ⟨fun _ => hmount, fun _ _ => hmount⟩

/-- A response for the client. -/
theorem keeps_mountSelf {r : Response} (hr : P (.self r)) :
    Keeps (Turn.Mounts S P) (mountSelf r) :=
  fun _ h => ends_mountSelf.mpr (h.mount (by simpa using hr))

/-- A response for the peers. -/
theorem keeps_mountPeer {r : Response} (hr : P (.peer r)) :
    Keeps (Turn.Mounts S P) (mountPeer r) :=
  fun _ h => ends_mountPeer.mpr (h.mount (by simpa using hr))

/-- An exception mounts nothing. -/
theorem keeps_throwIf {c : Prop} [Decidable c] (code : ℤ) (what : String) :
    Keeps (Turn.Mounts S P) (throwIf c code what) :=
  keeps_throw.ite keeps_pure

/-- To find a device mounts nothing. -/
theorem keeps_findInfo (uuid : String) :
    Keeps (Turn.Mounts S P) (client.findInfo uuid) :=
  fun _ h => ends_findInfo.mpr (keeps_call _ _ h)

/-- To store a device mounts nothing. -/
theorem keeps_setInfo (f : ConnectInfo → ConnectInfo)
    (store : ℕ → ConnectInfo → Except SystemError Unit) :
    Keeps (Turn.Mounts S P) (setInfo f store) :=
  fun _ h => ends_setInfo.mpr (keeps_call _ _ h)

/-- What is mounted in front of an error stays mounted. -/
theorem keeps_catchSystem {body : Handler Unit} {onError : SystemError → Handler Unit}
    (hbody : Keeps (Turn.Mounts S P) body)
    (herr : ∀ e, Keeps (Turn.Mounts S P) (onError e)) :
    Keeps (Turn.Mounts S P) (catchSystem body onError) := by
  refine hbody.tryCatch fun e => ?_
  cases e with
  | system e => exact herr e
  | other => exact keeps_throw

/-- A handler that only responds. -/
theorem keeps_respond {body : Handler Response} {onError : SystemError → Response}
    (hbody : Keeps (Turn.Mounts S P) body) (hself : ∀ r, P (.self r)) :
    Keeps (Turn.Mounts S P) (respond body onError) :=
  keeps_catchSystem (hbody.bind fun _ => keeps_mountSelf (hself _))
    fun _ => keeps_mountSelf (hself _)

/-- To check a device mounts nothing. -/
theorem keeps_findDevice (userid uuid : String) (code : ℤ) :
    Keeps (Turn.Mounts S P) (client.findDevice userid uuid code) :=
  (keeps_call _).bind fun _ => keeps_throwIf _ _

/-- To filter members mounts nothing. -/
theorem keeps_filtrate (membersid : List String) :
    Keeps (Turn.Mounts S P) (client.filtrate membersid) := by
  induction membersid with
  | nil => exact keeps_pure
  | cons memberid membersid ih =>
      exact (keeps_call _).bind fun _ => ih.bind fun _ => keeps_pure

/-- A traversal mounts the notification on the device of the row. -/
theorem mem_traverseDevices {noti : Response} {t : Turn} {info : ConnectInfoLittle} {m : Mounted}
    (hm : m ∈ t.traverseDevices noti info) : m = .device info.uuid noti := by
  unfold Turn.traverseDevices at hm
  split at hm
  · exact List.mem_singleton.mp hm
  · cases hm

/-- A notification for the devices of a user. -/
theorem keeps_mountUser {noti : Response} (hnoti : ∀ uuid, P (.device uuid noti))
    (touserid : String) : Keeps (Turn.Mounts S P) (client.mountUser noti touserid) :=
  keeps_cursor fun _ _ _ hm => mem_traverseDevices hm ▸ hnoti _

/-- A notification for the devices of the members of a node. -/
theorem keeps_mountSpecifiy {noti : Response} (hnoti : ∀ uuid, P (.device uuid noti))
    (tonodeid : String) : Keeps (Turn.Mounts S P) (client.mountSpecifiy noti tonodeid) :=
  (keeps_call _).bind fun _ => keeps_get.bind fun _ =>
    keeps_cursor fun _ _ _ hm => mem_traverseDevices hm ▸ hnoti _

/-- A connection that takes over a stored number, where any number will do. -/
theorem keeps_connect (hS : ∀ s, S s) (connect : ClientConnect) (stored : ℤ) :
    Keeps (Turn.Mounts S P) (modify fun t => t.connect connect stored : Handler PUnit) :=
  keeps_modify fun _ h => ⟨hS _, h.2⟩

/-- The notifications of unread messages are for the client. -/
theorem keeps_unread (hself : ∀ r, P (.self r)) (rows : ℕ → List (String × ℤ × ℤ) ×
    Option SystemError) : Keeps (Turn.Mounts S P) (cursor rows unreadNoti) :=
  keeps_cursor fun _ _ _ hm => List.mem_singleton.mp hm ▸ hself _

/-- To store a Login mounts nothing. -/
theorem keeps_storeLogin (userid uuid : String) :
    Keeps (Turn.Mounts S P) (client.storeLogin userid uuid) :=
  (keeps_findInfo _).bind fun _ => (keeps_setInfo _ _).ite (keeps_setInfo _ _)

/-- To store a property mounts nothing. -/
theorem keeps_setUserProperty (userID : String) (property : Chat.SetUserProperty) :
    Keeps (Turn.Mounts S P) (client.setUserProperty userID property) := by
  unfold DbClient.setUserProperty
  cases propertyString property.property with
  | none => exact keeps_throw
  | some property_string =>
      refine (keeps_call _).ite (Keeps.ite ?_ (keeps_call _))
      cases stoi property.value with
      | none => exact keeps_throw
      | some birthday_ts => exact keeps_call _

/-! ### The handlers that relay -/

/-- A Login relays its LoginRes. -/
theorem keeps_dispatchLogin (hself : ∀ r, P (.self r)) (hdevice : ∀ uuid r, P (.device uuid r))
    (hpeer : ∀ r, r.dispatchType = .loginres → P (.peer r)) (login : Chat.Login) :
    Keeps (Turn.Mounts S P) (client.dispatchLogin login) := by
  refine keeps_catchSystem ?_ fun _ => keeps_mountSelf (hself _)
  exact (keeps_call _).bind fun _ => (keeps_throwIf _ _).bind fun _ =>
    (keeps_call _).bind fun _ => (keeps_storeLogin _ _).bind fun _ => keeps_get.bind fun _ =>
    (keeps_mountSelf (hself _)).bind fun _ =>
    (keeps_mountUser (fun _ => hdevice _ _) _).bind fun _ => keeps_mountPeer (hpeer _ rfl)

/-- An AddFriend relays its AddFriendRes. -/
theorem keeps_dispatchAddFriend (hself : ∀ r, P (.self r))
    (hdevice : ∀ uuid r, P (.device uuid r))
    (hpeer : ∀ r, r.dispatchType = .addfriendres → P (.peer r)) (frd : AddFriend) :
    Keeps (Turn.Mounts S P) (client.dispatchAddFriend frd) := by
  refine keeps_catchSystem ?_ fun _ => keeps_mountSelf (hself _)
  exact keeps_get.bind fun _ => (keeps_throwIf _ _).bind fun _ => (keeps_call _).bind fun _ =>
    (keeps_throwIf _ _).bind fun _ => (keeps_call _).bind fun _ => (keeps_throwIf _ _).bind
    fun _ => (keeps_throwIf _ _).bind fun _ => (keeps_call _).bind fun _ =>
    (keeps_mountSelf (hself _)).bind fun _ => (keeps_mountPeer (hpeer _ rfl)).bind fun _ =>
    (keeps_mountUser (fun _ => hdevice _ _) _).bind fun _ =>
    keeps_mountUser (fun _ => hdevice _ _) _

/-- An AddFriendAuthorize relays its AddFriendAuthorizeRes. -/
theorem keeps_dispatchAddFriendAuthorize (hself : ∀ r, P (.self r))
    (hdevice : ∀ uuid r, P (.device uuid r))
    (hpeer : ∀ r, r.dispatchType = .addfriendauthorizeres → P (.peer r))
    (addAuth : AddFriendAuthorize) :
    Keeps (Turn.Mounts S P) (client.dispatchAddFriendAuthorize addAuth) := by
  refine keeps_catchSystem ?_ fun _ => keeps_mountSelf (hself _)
  refine keeps_get.bind fun _ => (keeps_throwIf _ _).bind fun _ => Keeps.ite ?_ keeps_pure
  exact (keeps_call _).bind fun _ => (keeps_mountSelf (hself _)).bind fun _ =>
    (keeps_mountUser (fun _ => hdevice _ _) _).bind fun _ =>
    (keeps_mountUser (fun _ => hdevice _ _) _).bind fun _ => keeps_mountPeer (hpeer _ rfl)

/-- A NodeMessage relays its NodeMessageRes, once for the node or twice for the user. -/
theorem keeps_dispatchNodeMessage (hself : ∀ r, P (.self r))
    (hdevice : ∀ uuid r, P (.device uuid r))
    (hpeer : ∀ r, r.dispatchType = .nodemessageres → P (.peer r)) (message : Chat.NodeMessage) :
    Keeps (Turn.Mounts S P) (client.dispatchNodeMessage message) := by
  refine keeps_catchSystem ?_ fun _ => keeps_mountSelf (hself _)
  refine (keeps_call _).bind fun _ => (keeps_mountSelf (hself _)).bind fun _ =>
    keeps_get.bind fun _ => Keeps.ite ?_ ?_
  · exact (keeps_call _).bind fun _ => (keeps_mountSpecifiy (fun _ => hdevice _ _) _).bind
      fun _ => keeps_mountPeer (hpeer _ rfl)
  · exact (keeps_mountUser (fun _ => hdevice _ _) _).bind fun _ =>
      (keeps_mountPeer (hpeer _ rfl)).bind fun _ =>
      (keeps_mountUser (fun _ => hdevice _ _) _).bind fun _ => keeps_mountPeer (hpeer _ rfl)

/-- A ClientConnect relays nothing, and takes over the stored number. -/
theorem keeps_dispatchClientConnect (hself : ∀ r, P (.self r)) (hS : ∀ s, S s)
    (connect : ClientConnect) :
    Keeps (Turn.Mounts S P) (client.dispatchClientConnect connect) := by
  refine keeps_catchSystem ?_ fun _ => keeps_mountSelf (hself _)
  refine (keeps_findDevice _ _ _).bind fun _ => (keeps_findInfo _).bind fun _ =>
    keeps_get.bind fun t => ?_
  cases t.connectInfo.users connect.userid with
  | none => exact keeps_throw
  | some stored =>
      refine (keeps_connect hS connect stored).bind fun _ => ?_
      exact (keeps_setInfo _ _).bind fun _ => keeps_get.bind fun _ =>
        (keeps_mountSelf (hself _)).bind fun _ => keeps_unread hself _

end Mounts

/-! ### What is relayed -/

/-- The response is one that the handler of the request relays. -/
def ClientRequest.Relays (r : Response) : ClientRequest → Prop
  | login _ => r.dispatchType = .loginres
  | addFriend _ => r.dispatchType = .addfriendres
  | addFriendAuthorize _ => r.dispatchType = .addfriendauthorizeres
  | nodeMessage _ => r.dispatchType = .nodemessageres
  | _ => False

/-- A relay answers the request like the reply to the client. -/
def ClientRequest.RelaysOnly (request : ClientRequest) : Mounted → Prop
  | .peer r => request.Relays r
  | _ => True

variable {client : DbClient}

/-- **What a handler relays**, wherever it ends; none but that of a ClientConnect changes the
number of its frames. -/
theorem keeps_relays_handle {request : ClientRequest} {S : ℕ → Prop}
    (hS : request.types.1 = .clientconnect → ∀ s, S s) :
    Keeps (Turn.Mounts S request.RelaysOnly) (client.handle request) := by
  have hself (r : Response) : request.RelaysOnly (.self r) := trivial
  have hdevice (uuid : String) (r : Response) : request.RelaysOnly (.device uuid r) := trivial
  cases request with
  | login login => exact keeps_dispatchLogin hself hdevice (fun _ => id) login
  | addFriend frd => exact keeps_dispatchAddFriend hself hdevice (fun _ => id) frd
  | addFriendAuthorize addAuth =>
      exact keeps_dispatchAddFriendAuthorize hself hdevice (fun _ => id) addAuth
  | nodeMessage message => exact keeps_dispatchNodeMessage hself hdevice (fun _ => id) message
  | clientConnect connect => exact keeps_dispatchClientConnect hself (hS rfl) connect
  | ping => exact keeps_mountSelf trivial
  -- the others mount nothing but their reply
  | register enroll =>
      exact keeps_respond (((keeps_call _).bind fun _ => keeps_throw).ite
        ((keeps_call _).bind fun _ => keeps_pure)) hself
  | logout logout =>
      exact keeps_respond ((keeps_findDevice _ _ _).bind fun _ => (keeps_findInfo _).bind fun _ =>
        keeps_get.bind fun _ => (keeps_setInfo _ _).bind fun _ => keeps_pure) hself
  | clientDisConnect disconnect =>
      exact keeps_respond ((keeps_findDevice _ _ _).bind fun _ => (keeps_findInfo _).bind fun _ =>
        keeps_get.bind fun _ => (keeps_setInfo _ _).bind fun _ => keeps_get.bind fun _ =>
        keeps_pure) hself
  | queryAddfriendInfo count =>
      exact keeps_respond (keeps_get.bind fun _ => (keeps_call _).bind fun _ => keeps_pure) hself
  | createGroup group =>
      exact keeps_respond ((keeps_filtrate _).bind fun _ => (keeps_throwIf _ _).bind fun _ =>
        (keeps_call _).bind fun _ => keeps_pure) hself
  | groupAddMember groupMember =>
      exact keeps_respond ((keeps_filtrate _).bind fun _ => (keeps_call _).bind fun _ =>
        keeps_pure) hself
  | queryUser query =>
      exact keeps_respond ((keeps_call _).bind fun _ => keeps_get.bind fun _ => keeps_pure) hself
  | queryMessage query =>
      exact keeps_respond ((keeps_throwIf _ _).bind fun _ => (keeps_call _).bind fun _ =>
        keeps_pure) hself
  | setUserProperty property =>
      exact keeps_respond (keeps_get.bind fun _ => (keeps_setUserProperty _ _).bind fun _ =>
        keeps_pure) hself
  | queryUserVersion _ | queryNode _ | queryNodeVersion _ | queryOneMessage _ | media _
  | queryMedia _ =>
      exact keeps_respond ((keeps_call _).bind fun _ => keeps_pure) hself

/-! ### What becomes of a relay -/

/-- No response is numbered by the event loop. -/
theorem Response.missingCheck_dispatchType (r : Response) :
    missingCheck r.dispatchType.code = false := by
  cases r <;> rfl

/-- A response is read without a number. -/
theorem Turn.read_sessionid (info : ConnectInfo) (io : ReadIo) (peers : ℕ) (r : Response) :
    (Turn.read info io peers r.dispatchType).sessionid = 0 := by
  simp only [Turn.read, Turn.start, assignSessionid, r.missingCheck_dispatchType]
  rfl

/-- What the gate answers to an unnumbered message with a number. -/
def rightIdZero : Response := .error 11010 "session id error, right id is 0 ."

/-- A peer answers the relay with an Error and mounts nothing else, and the server that sent the
relay drops the Error. -/
def Refused (number : ℕ) (r : Response) : Prop :=
  ∀ (peer client : DbClient) (info info' : ConnectInfo) (io io' : ReadIo) (peers peers' : ℕ),
    Ends (peer.dispatchRes r number) (.read info io peers r.dispatchType)
      (fun _ t => t.mounted = [.self rightIdZero] ∧
        Ends (client.dispatchRes rightIdZero t.sessionid) (.read info' io' peers' .error)
          (fun _ t' => t'.mounted = []) fun _ _ => False)
      fun _ _ => False

/-- A peer notifies no devices because of the relay but those of the user of the connection. -/
def NotifiesConnection (number : ℕ) (r : Response) : Prop :=
  ∀ (peer : DbClient) (info : ConnectInfo) (io : ReadIo) (peers : ℕ),
    Ends (peer.dispatchRes r number) (.read info io peers r.dispatchType)
      (fun _ t => ∀ uuid noti, .device uuid noti ∈ t.mounted →
        ∃ n, ∃ info ∈ (peer.devices n io.userid).1, info.uuid = uuid)
      fun _ _ => False

/-- **A numbered relay is refused**, and the refusal is dropped. -/
theorem refused_of_ne_zero {number : ℕ} (h : number ≠ 0) (r : Response) : Refused number r := by
  intro peer client info info' io io' peers peers'
  have hgate : dispatchGate io.isConnect r.dispatchType.code number 0 =
      .reject 11010 "session id error, right id is 0 ." := if_neg h.symm
  have hdrop : dispatchGate io'.isConnect rightIdZero.dispatchType.code 0 0 = .handle := by
    simp [dispatchGate, Response.missingCheck_dispatchType, minSessionID]
  simp only [DbClient.dispatchRes, ends_bind, ends_get, Turn.read_sessionid]
  rw [show (Turn.read info io peers r.dispatchType).node = io from rfl, hgate]
  refine ends_mountSelf.mpr ⟨rfl, ?_⟩
  rw [show ((Turn.read info io peers r.dispatchType).mount [_]).sessionid = 0 from
    Turn.read_sessionid info io peers r]
  rw [show (Turn.read info' io' peers' .error).sessionid = 0 from
    Turn.read_sessionid info' io' peers' rightIdZero]
  rw [show (Turn.read info' io' peers' .error).node = io' from rfl, hdrop]
  exact ends_pure.mpr rfl

/-- The devices that a traversal notifies are in its rows. -/
theorem mem_rows_of_mem_traverse {noti noti' : Response} {t : Turn}
    {rows : List ConnectInfoLittle} {uuid : String}
    (h : .device uuid noti' ∈ rows.flatMap (t.traverseDevices noti)) :
    ∃ info ∈ rows, info.uuid = uuid := by
  obtain ⟨info, hinfo, hm⟩ := List.mem_flatMap.mp h
  obtain ⟨rfl, -⟩ := Mounted.device.inj (mem_traverseDevices hm)
  exact ⟨info, hinfo, rfl⟩

/-- A LoginRes notifies the devices of the user of the connection, and no others. -/
theorem notifiesConnection_loginRes {r : Response} (hr : r.dispatchType = .loginres) :
    NotifiesConnection 0 r := by
  intro peer info io peers
  have hgate : dispatchGate io.isConnect r.dispatchType.code 0 0 = .handle := by
    simp [dispatchGate, Response.missingCheck_dispatchType, minSessionID]
  simp only [DbClient.dispatchRes, ends_bind, ends_get, Turn.read_sessionid]
  rw [show (Turn.read info io peers r.dispatchType).node = io from rfl, hgate]
  cases r with
  | loginRes isSuccess userid uuid eNo eMsg =>
      refine ends_tryCatch.mpr (ends_bind.mpr (ends_get.mpr (ends_cursor.mpr ⟨?_, ?_⟩)))
      · intro _ uuid' noti hm
        exact ⟨_, mem_rows_of_mem_traverse hm⟩
      · intro e _
        refine ends_mountSelf.mpr fun uuid' noti hm => ?_
        obtain hm | hm := List.mem_append.mp hm
        · exact ⟨_, mem_rows_of_mem_traverse hm⟩
        · cases List.mem_singleton.mp hm
  | _ => cases hr

/-- A numbered request is handled with its number. -/
theorem ne_zero_of_handle {isConnect : Bool} {type : UInt8} {dataSessionid sessionid : ℕ}
    (hcheck : missingCheck type = true)
    (h : dispatchGate isConnect type dataSessionid sessionid = .handle) : sessionid ≠ 0 := by
  have hmin := ((dispatchGate_handle hcheck).mp h).2.2
  rw [minSessionID] at hmin
  omega

/-- What holds of the responses that a request relays, under the number it is handled with, holds
of what its handler has mounted on peers, wherever it ends. -/
theorem ends_handle_relays (client : DbClient) {request : ClientRequest} {S : ℕ → Prop}
    (hS : request.types.1 = .clientconnect → ∀ s, S s) {info : ConnectInfo} {io : ReadIo}
    (peers : ℕ) (hstart : S (assignSessionid io.sessionid request.types.1.code).1)
    {Q : Response → ℕ → Prop} (hQ : ∀ r s, request.Relays r → S s → Q r s) :
    Ends (client.handle request) (.read info io peers request.types.1)
      (fun _ t => ∀ r, .peer r ∈ t.mounted → Q r t.sessionid)
      fun _ t => ∀ r, .peer r ∈ t.mounted → Q r t.sessionid := by
  have hbegin : (Turn.read info io peers request.types.1).Mounts S request.RelaysOnly :=
    ⟨hstart, fun m hm => absurd hm List.not_mem_nil⟩
  exact (keeps_relays_handle hS _ hbegin).mono (fun _ t ht r hr => hQ r _ (ht.2 _ hr) ht.1)
    fun _ t ht r hr => hQ r _ (ht.2 _ hr) ht.1

/-- **Relays achieve nothing.** Whatever request is dispatched on whatever connection, each
response that it relays is refused by a peer, if the request was numbered; a relay of a Login
notifies nobody but the user of the connection between the servers. -/
theorem relays_refused (client : DbClient) (request : ClientRequest) (dataSessionid : ℕ)
    (info : ConnectInfo) (io : ReadIo) (peers : ℕ) :
    let served := fun t : Turn => ∀ r, .peer r ∈ t.mounted →
      Refused t.sessionid r ∨ r.dispatchType = .loginres ∧ NotifiesConnection t.sessionid r
    Ends (client.dispatch request dataSessionid) (.read info io peers request.types.1)
      (fun _ t => served t) fun _ t => served t := by
  intro served
  simp only [DbClient.dispatch, ends_bind, ends_get, ClientRequest.verdict]
  generalize hgate : dispatchGate _ _ _ _ = verdict
  cases verdict with
  | reject errnum errmsg =>
      refine ends_mountSelf.mpr fun r hr => ?_
      cases List.mem_singleton.mp hr
  | handle =>
      have hserved (S : ℕ → Prop) (hS : request.types.1 = .clientconnect → ∀ s, S s)
          (hstart : S (assignSessionid io.sessionid request.types.1.code).1)
          (hrelay : ∀ r s, request.Relays r → S s →
            Refused s r ∨ r.dispatchType = .loginres ∧ NotifiesConnection s r) :
          Ends (client.handle request) (.read info io peers request.types.1)
            (fun _ t => served t) fun _ t => served t :=
        ends_handle_relays client hS peers hstart hrelay
      have hnumbered {r : Response} {s : ℕ} (hs : s ≠ 0) :
          Refused s r ∨ r.dispatchType = .loginres ∧ NotifiesConnection s r :=
        .inl (refused_of_ne_zero hs r)
      cases request with
      | login l =>
          refine hserved (· = 0) (fun h => ChatType.noConfusion h) rfl fun r s hr hs => ?_
          exact .inr ⟨hr, hs ▸ notifiesConnection_loginRes hr⟩
      | addFriend frd =>
          exact hserved (· ≠ 0) (fun h => ChatType.noConfusion h) (ne_zero_of_handle rfl hgate)
            fun _ _ _ => hnumbered
      | addFriendAuthorize addAuth =>
          exact hserved (· ≠ 0) (fun h => ChatType.noConfusion h) (ne_zero_of_handle rfl hgate)
            fun _ _ _ => hnumbered
      | nodeMessage message =>
          exact hserved (· ≠ 0) (fun h => ChatType.noConfusion h) (ne_zero_of_handle rfl hgate)
            fun _ _ _ => hnumbered
      | _ => exact hserved (fun _ => True) (fun _ _ => trivial) trivial fun _ _ h => h.elim

end Yijian
