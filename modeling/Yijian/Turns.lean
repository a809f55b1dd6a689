import Yijian.Lib.Attempts
import Yijian.Requests
import Yijian.StoredDocuments

/-!
# Turns

What a handler of `server_msg_typemap.cxx` works with: the requests of a client, the messages
that it mounts on the write queues of connections, the variables of its thread, and the calls of
the database client.

What the database does is a parameter: `DbClient` holds, for each method of `mongo_client`, what
the `n`-th call of a dispatch returns or throws. The methods that keep their errors to
themselves (`updateSessionID`, `updateReadedIncrement`, `updateUnreadIncrement`) are left out.

## Main definitions

* `ClientRequest`, `Response`: what is received and what is mounted.
* `Turn`: the state of a dispatch, `Handler`: a program on it.
* `call`, `cursor`, `mountSelf`, `mountPeer`, `catchSystem`: the steps of a handler, each with
  its rule `ends_…`.

## Convention

A handler is a program in `EStateM` over a `Turn`: the three variables of its thread, what it has
mounted, and how often the database client has been called, which is what picks the answer to the
next call. A cursor gives rows and may throw behind any of them. `system` is an exception that the
handlers catch; everything else that the library throws is `other`, and leaves the handler. The
time of a call, the log and the protobuf text of a message have no part in any of this. A message
is mounted as a value; how it is cut into frames is in `Yijian.Fragment`, and what a list of frames
means to the receiver in `Yijian.Conversation`.
-/

namespace Yijian

open Attempts

/-! ### Requests -/

namespace Chat

/-- `chat::Register`. -/
structure Register extends Yijian.Register where
  verifycode : String

/-- `chat::Login`. -/
structure Login where
  phoneno : String
  countrycode : String
  password : String
  device : Device

/-- `chat::QueryUser`. -/
structure QueryUser where
  userid : String
  countrycode : String
  phoneno : String

/-- `chat::NodeMessage`. -/
structure NodeMessage extends Yijian.NodeMessage where
  touserid_outer : String

/-- `chat::QueryOneMessage`. -/
structure QueryOneMessage where
  tonodeid : String
  incrementid : ℤ

/-- `chat::SetUserProperty`; the enumerators of `chat::UserProperty` count from 0. -/
structure SetUserProperty where
  property : ℤ
  value : String

end Chat

/-- A request of a client. -/
inductive ClientRequest
  | register (enroll : Chat.Register)
  | login (login : Chat.Login)
  | logout (logout : Logout)
  | clientConnect (connect : ClientConnect)
  | clientDisConnect (disconnect : ClientDisConnect)
  | addFriend (frd : AddFriend)
  | addFriendAuthorize (addAuth : AddFriendAuthorize)
  | queryAddfriendInfo (count : ℤ)
  | createGroup (group : CreateGroup)
  | groupAddMember (groupMember : GroupAddMember)
  | queryUser (queryUser : Chat.QueryUser)
  | queryUserVersion (userid : String)
  | queryNode (tonodeid : String)
  | queryNodeVersion (tonodeid : String)
  | nodeMessage (message : Chat.NodeMessage)
  | queryMessage (query : QueryMessage)
  | queryOneMessage (query : Chat.QueryOneMessage)
  | media (media : Media)
  | queryMedia (md5 : String)
  | setUserProperty (property : Chat.SetUserProperty)
  | ping

/-- The type of a request, and the type that answers it. -/
def ClientRequest.types : ClientRequest → ChatType × ChatType
  | register _ => (.registor, .registorres)
  | login _ => (.login, .loginres)
  | logout _ => (.logout, .logoutres)
  | clientConnect _ => (.clientconnect, .clientconnectres)
  | clientDisConnect _ => (.clientdisconnect, .clientdisconnectres)
  | addFriend _ => (.addfriend, .addfriendres)
  | addFriendAuthorize _ => (.addfriendauthorize, .addfriendauthorizeres)
  | queryAddfriendInfo _ => (.queryaddfriendinfo, .queryaddfriendinfores)
  | createGroup _ => (.creategroup, .creategroupres)
  | groupAddMember _ => (.groupaddmember, .groupaddmemberres)
  | queryUser _ => (.queryuser, .queryuserres)
  | queryUserVersion _ => (.queryuserversion, .queryuserversionres)
  | queryNode _ => (.querynode, .querynoderes)
  | queryNodeVersion _ => (.querynodeversion, .querynodeversionres)
  | nodeMessage _ => (.nodemessage, .nodemessageres)
  | queryMessage _ => (.querymessage, .querymessageres)
  | queryOneMessage _ => (.queryonemessage, .querymessageres)
  | media _ => (.media, .mediares)
  | queryMedia _ => (.querymedia, .querymediares)
  | setUserProperty _ => (.setuserproterty, .setuserprotertyres)
  | ping => (.ping, .pong)

/-! ### Responses -/

/-- `chat::AddFriendInfo`. -/
structure AddFriendInfo where
  inviter : String
  invitee : String
  tonodeid : String

/-- `chat::NodeMessageNoti`. -/
structure NodeMessageNoti where
  fromuserid : String
  touserid_outer : String
  tonodeid : String
  readedincrement : ℤ
  unreadincrement : ℤ

/-- A message that a handler mounts. -/
inductive Response
  | error (errnum : ℤ) (errmsg : String)
  | registerRes (userid : String) (isSuccess : Bool) (eNo : ℤ) (eMsg : String)
  | loginRes (isSuccess : Bool) (userid uuid : String) (eNo : ℤ) (eMsg : String)
  | loginNoti (uuid : String)
  | logoutRes (uuid : String)
  | clientConnectRes (res : ClientConnectRes)
  | clientDisConnectRes (uuid : String)
  | addFriendRes (res : AddFriendRes)
  | addFriendNoti (response : AddFriendRes)
  | addFriendAuthorizeRes (res : AddFriendAuthorize)
  | addFriendAuthorizeNoti (response : AddFriendAuthorize)
  | queryAddfriendInfoRes (info : List AddFriendInfo)
  | createGroupRes (res : CreateGroupRes)
  | groupAddMemberRes (tonodeid : String)
  | queryUserRes (user : User)
  | queryUserVersionRes (userid : String) (version : ℤ)
  | queryNodeRes (node : MessageNode)
  | queryNodeVersionRes (version : ℤ)
  | nodeMessageRes (res : NodeMessageRes) (fromuserid touserid_outer tonodeid : String)
  | nodeMessageNoti (noti : NodeMessageNoti)
  | queryMessageRes (messages : List NodeMessage)
  | mediaRes (isSuccess : Bool)
  | queryMediaRes (media : Media)
  | setUserPropertyRes (property : ℤ) (value : String)
  | pong (msg : String)

/-- `dispatchType`. -/
def Response.dispatchType : Response → ChatType
  | error .. => .error
  | registerRes .. => .registorres
  | loginRes .. => .loginres
  | loginNoti .. => .loginnoti
  | logoutRes .. => .logoutres
  | clientConnectRes .. => .clientconnectres
  | clientDisConnectRes .. => .clientdisconnectres
  | addFriendRes .. => .addfriendres
  | addFriendNoti .. => .addfriendnoti
  | addFriendAuthorizeRes .. => .addfriendauthorizeres
  | addFriendAuthorizeNoti .. => .addfriendauthorizenoti
  | queryAddfriendInfoRes .. => .queryaddfriendinfores
  | createGroupRes .. => .creategroupres
  | groupAddMemberRes .. => .groupaddmemberres
  | queryUserRes .. => .queryuserres
  | queryUserVersionRes .. => .queryuserversionres
  | queryNodeRes .. => .querynoderes
  | queryNodeVersionRes .. => .querynodeversionres
  | nodeMessageRes .. => .nodemessageres
  | nodeMessageNoti .. => .nodemessagenoti
  | queryMessageRes .. => .querymessageres
  | mediaRes .. => .mediares
  | queryMediaRes .. => .querymediares
  | setUserPropertyRes .. => .setuserprotertyres
  | pong .. => .pong

/-- The notifications, which are no replies. -/
def Response.isNoti : Response → Bool
  | loginNoti _ | addFriendNoti _ | addFriendAuthorizeNoti _ | nodeMessageNoti _ => true
  | _ => false

/-! ### The state of a dispatch -/

@[simp] theorem ReadIo.connect_userid (io : ReadIo) (connect : ClientConnect) (stored : ℤ) :
    (io.connect connect stored).userid = connect.userid := rfl

@[simp] theorem ConnectInfo.connect_userid (info : ConnectInfo) (connect : ClientConnect) :
    (info.connect connect).userid = info.userid := rfl

@[simp] theorem ConnectInfo.connect_uuid (info : ConnectInfo) (connect : ClientConnect) :
    (info.connect connect).uuid = info.uuid := rfl

@[simp] theorem ConnectInfo.disconnect_uuid (info : ConnectInfo) (userid : String)
    (sessionid : ℕ) : (info.disconnect userid sessionid).uuid = info.uuid := rfl

/-- Where a handler mounts a message: on the requesting connection, on each peer server, or on
the connection of a device. -/
inductive Mounted
  | self (r : Response)
  | peer (r : Response)
  | device (uuid : String) (r : Response)

/-- What a handler throws: a `std::system_error`, or what no handler catches. -/
inductive Thrown
  | system (e : SystemError)
  | other

/-- The variables of the thread (`connectInfo_`, `currentNode_`, `session_id_`) and what has
happened since the dispatch began. `peers` is how often the requesting connection stands in the
list of peer servers. -/
structure Turn where
  connectInfo : ConnectInfo
  node : ReadIo
  sessionid : ℕ
  peers : ℕ
  calls : ℕ
  mounted : List Mounted

/-- The start of a dispatch. -/
def Turn.start (connectInfo : ConnectInfo) (node : ReadIo) (sessionid peers : ℕ) : Turn where
  connectInfo := connectInfo
  node := node
  sessionid := sessionid
  peers := peers
  calls := 0
  mounted := []

@[simp] theorem Turn.start_calls (connectInfo : ConnectInfo) (node : ReadIo)
    (sessionid peers : ℕ) : (start connectInfo node sessionid peers).calls = 0 := rfl

/-- The body of a handler. -/
abbrev Handler := EStateM Thrown Turn

/-- The message on the requesting connection. A device is sent notifications only. -/
def Mounted.onNode (peers : ℕ) : Mounted → List Response
  | self r => [r]
  | peer r => List.replicate peers r
  | device _ _ => []

/-- The replies on the requesting connection. -/
def Turn.replies (t : Turn) : List Response :=
  (t.mounted.flatMap (Mounted.onNode t.peers)).filter fun r => !r.isNoti

/-- Messages are mounted. -/
def Turn.mount (t : Turn) (ms : List Mounted) : Turn :=
  { t with mounted := t.mounted ++ ms }

/-- The replies among what is mounted, in its order. -/
theorem Turn.replies_mount (t : Turn) (ms : List Mounted) :
    (t.mount ms).replies =
      t.replies ++ (ms.flatMap (Mounted.onNode t.peers)).filter fun r => !r.isNoti := by
  simp [Turn.replies, Turn.mount]

@[simp] theorem Turn.mount_calls (t : Turn) (ms : List Mounted) :
    (t.mount ms).calls = t.calls := rfl
@[simp] theorem Turn.mount_connectInfo (t : Turn) (ms : List Mounted) :
    (t.mount ms).connectInfo = t.connectInfo := rfl
@[simp] theorem Turn.mount_node (t : Turn) (ms : List Mounted) :
    (t.mount ms).node = t.node := rfl
@[simp] theorem Turn.mount_peers (t : Turn) (ms : List Mounted) :
    (t.mount ms).peers = t.peers := rfl
@[simp] theorem Turn.mount_mounted (t : Turn) (ms : List Mounted) :
    (t.mount ms).mounted = t.mounted ++ ms := rfl

/-- A call of the database client is counted. -/
def Turn.next (t : Turn) : Turn :=
  { t with calls := t.calls + 1 }

@[simp] theorem Turn.next_calls (t : Turn) : t.next.calls = t.calls + 1 := rfl
@[simp] theorem Turn.next_connectInfo (t : Turn) : t.next.connectInfo = t.connectInfo := rfl
@[simp] theorem Turn.next_node (t : Turn) : t.next.node = t.node := rfl
@[simp] theorem Turn.next_sessionid (t : Turn) : t.next.sessionid = t.sessionid := rfl
@[simp] theorem Turn.next_mounted (t : Turn) : t.next.mounted = t.mounted := rfl
@[simp] theorem Turn.next_peers (t : Turn) : t.next.peers = t.peers := rfl
@[simp] theorem Turn.next_replies (t : Turn) : t.next.replies = t.replies := rfl

/-- `connectInfo_` is set. -/
def Turn.setInfo (t : Turn) (info : ConnectInfo) : Turn :=
  { t with connectInfo := info }

@[simp] theorem Turn.setInfo_calls (t : Turn) (info : ConnectInfo) :
    (t.setInfo info).calls = t.calls := rfl
@[simp] theorem Turn.setInfo_connectInfo (t : Turn) (info : ConnectInfo) :
    (t.setInfo info).connectInfo = info := rfl
@[simp] theorem Turn.setInfo_node (t : Turn) (info : ConnectInfo) :
    (t.setInfo info).node = t.node := rfl
@[simp] theorem Turn.setInfo_sessionid (t : Turn) (info : ConnectInfo) :
    (t.setInfo info).sessionid = t.sessionid := rfl
@[simp] theorem Turn.setInfo_mounted (t : Turn) (info : ConnectInfo) :
    (t.setInfo info).mounted = t.mounted := rfl
@[simp] theorem Turn.setInfo_peers (t : Turn) (info : ConnectInfo) :
    (t.setInfo info).peers = t.peers := rfl
@[simp] theorem Turn.setInfo_replies (t : Turn) (info : ConnectInfo) :
    (t.setInfo info).replies = t.replies := rfl

/-- A ClientConnect sets the current node and the session id. -/
def Turn.connect (t : Turn) (connect : ClientConnect) (stored : ℤ) : Turn :=
  { t with node := t.node.connect connect stored, sessionid := resumedSessionid stored }

@[simp] theorem Turn.connect_calls (t : Turn) (connect : ClientConnect) (stored : ℤ) :
    (t.connect connect stored).calls = t.calls := rfl
@[simp] theorem Turn.connect_connectInfo (t : Turn) (connect : ClientConnect) (stored : ℤ) :
    (t.connect connect stored).connectInfo = t.connectInfo := rfl
@[simp] theorem Turn.connect_node (t : Turn) (connect : ClientConnect) (stored : ℤ) :
    (t.connect connect stored).node = t.node.connect connect stored := rfl
@[simp] theorem Turn.connect_mounted (t : Turn) (connect : ClientConnect) (stored : ℤ) :
    (t.connect connect stored).mounted = t.mounted := rfl
@[simp] theorem Turn.connect_replies (t : Turn) (connect : ClientConnect) (stored : ℤ) :
    (t.connect connect stored).replies = t.replies := rfl

/-! ### The database client -/

/-- `chat::ConnectInfoLittle`. -/
structure ConnectInfoLittle where
  uuid : String
  isconnected : Bool
  isrecivenoti : Bool

/-- A value that a property of a user is set to. -/
inductive PropertyValue
  | bool (b : Bool)
  | int32 (i : ℤ)
  | utf8 (s : String)

/-- What the methods of `mongo_client` return or throw in the `n`-th call. A method that hands
rows to a function has handed over some of them when it throws. `findUUID` writes to the
`connectInfo_` it is given, also when it throws. -/
structure DbClient where
  insertUser : ℕ → Register → Except SystemError String
  updateDevice : ℕ → String → Device → Except SystemError Unit
  insertDevice : ℕ → String → Device → Except SystemError Unit
  queryPhone : ℕ → String → String → Except SystemError User
  queryUser : ℕ → String → Except SystemError User
  updateUser : ℕ → String → String → PropertyValue → Except SystemError Unit
  addFriend : ℕ → AddFriend → Except SystemError AddFriendRes
  addFriendAuthorize : ℕ → String → String → Except SystemError Unit
  queryAddfriendInfo : ℕ → String → ℤ → Except SystemError (List AddFriendInfo)
  createGroup : ℕ → CreateGroup → Except SystemError CreateGroupRes
  addMembers2Group : ℕ → GroupAddMember → Except SystemError String
  queryNode : ℕ → String → Except SystemError MessageNode
  insertMessage : ℕ → NodeMessage → Except SystemError NodeMessageRes
  queryOneMessage : ℕ → String → ℤ → Except SystemError NodeMessage
  queryMessage : ℕ → QueryMessage → Except SystemError (List NodeMessage)
  insertMedia : ℕ → Media → Except SystemError Unit
  queryMedia : ℕ → String → Except SystemError Media
  devices : ℕ → String → List ConnectInfoLittle × Option SystemError
  devicesOf : ℕ → List String → String → List ConnectInfoLittle × Option SystemError
  insertUUID : ℕ → ConnectInfo → Except SystemError Unit
  updateUUID : ℕ → ConnectInfo → Except SystemError Unit
  findUUID : ℕ → String → ConnectInfo → Except SystemError Bool × ConnectInfo
  unreadNodes : ℕ → String → List (String × ℤ × ℤ) × Option SystemError

/-! ### The steps of a handler -/

variable {client : DbClient} {t : Turn}

/-- `mountBuffer2Node` for `node_self_`. -/
def mountSelf (r : Response) : Handler Unit :=
  modify fun t => t.mount [.self r]

/-- `mountBuffer2Node` for `node_peer_`. -/
def mountPeer (r : Response) : Handler Unit :=
  modify fun t => t.mount [.peer r]

@[simp] theorem ends_mountSelf {r : Response} {Q : Unit → Turn → Prop}
    {E : Thrown → Turn → Prop} : Ends (mountSelf r) t Q E ↔ Q () (t.mount [.self r]) :=
  Iff.rfl

@[simp] theorem ends_mountPeer {r : Response} {Q : Unit → Turn → Prop}
    {E : Thrown → Turn → Prop} : Ends (mountPeer r) t Q E ↔ Q () (t.mount [.peer r]) :=
  Iff.rfl

/-- `if (…) throw std::system_error(…)`. -/
def throwIf (c : Prop) [Decidable c] (code : ℤ) (what : String) : Handler Unit :=
  if c then throw (.system ⟨code, what⟩) else pure ()

/-- An exception leaves the state as it is. -/
theorem ends_throwIf {c : Prop} [Decidable c] {code : ℤ} {what : String}
    {Q : Unit → Turn → Prop} {E : Thrown → Turn → Prop} :
    Ends (throwIf c code what) t Q E ↔ (c → E (.system ⟨code, what⟩) t) ∧ (¬ c → Q () t) := by
  rw [throwIf, ends_ite, ends_throw, ends_pure]

/-- A call of the database client. -/
def call {α : Type} (f : ℕ → Except SystemError α) : Handler α := fun t =>
  match f t.calls with
  | .ok a => .ok a t.next
  | .error e => .error (.system e) t.next

/-- A call returns or throws what the database answers. -/
theorem ends_call {α : Type} {f : ℕ → Except SystemError α} {Q : α → Turn → Prop}
    {E : Thrown → Turn → Prop} :
    Ends (call f) t Q E ↔
      (∀ a, f t.calls = .ok a → Q a t.next) ∧
        ∀ e, f t.calls = .error e → E (.system e) t.next := by
  unfold Ends call
  cases f t.calls <;> simp

/-- A query that hands its rows to a function that mounts, and may throw behind some rows. -/
def cursor {α : Type} (rows : ℕ → List α × Option SystemError) (func : Turn → α → List Mounted) :
    Handler Unit := fun t =>
  let t' := t.next.mount ((rows t.calls).1.flatMap (func t))
  match (rows t.calls).2 with
  | none => .ok () t'
  | some e => .error (.system e) t'

/-- A cursor mounts the rows that come, and throws what comes behind them. -/
theorem ends_cursor {α : Type} {rows : ℕ → List α × Option SystemError}
    {func : Turn → α → List Mounted} {Q : Unit → Turn → Prop} {E : Thrown → Turn → Prop} :
    Ends (cursor rows func) t Q E ↔
      ((rows t.calls).2 = none → Q () (t.next.mount ((rows t.calls).1.flatMap (func t)))) ∧
        ∀ e, (rows t.calls).2 = some e →
          E (.system e) (t.next.mount ((rows t.calls).1.flatMap (func t))) := by
  unfold Ends cursor
  cases (rows t.calls).2 <;> simp

/-- `mongo_client::findUUID`, on the `connectInfo_` of the thread. -/
def DbClient.findInfo (client : DbClient) (uuid : String) : Handler Bool := fun t =>
  match client.findUUID t.calls uuid t.connectInfo with
  | (.ok isFind, info) => .ok isFind (t.setInfo info).next
  | (.error e, info) => .error (.system e) (t.setInfo info).next

/-- What is found goes into `connectInfo_`, also when the call throws. -/
theorem ends_findInfo {uuid : String} {Q : Bool → Turn → Prop} {E : Thrown → Turn → Prop} :
    Ends (client.findInfo uuid) t Q E ↔
      Ends (call fun _ => (client.findUUID t.calls uuid t.connectInfo).1)
        (t.setInfo (client.findUUID t.calls uuid t.connectInfo).2) Q E := by
  unfold Ends DbClient.findInfo call
  obtain ⟨r, info⟩ := client.findUUID t.calls uuid t.connectInfo
  cases r <;> rfl

/-- The connect info of the thread is set, then stored. -/
def setInfo (f : ConnectInfo → ConnectInfo) (store : ℕ → ConnectInfo → Except SystemError Unit) :
    Handler Unit := do
  modify fun t => t.setInfo (f t.connectInfo)
  let t ← get
  call fun n => store n t.connectInfo

/-- What is to be stored goes into `connectInfo_` in front of the call. -/
theorem ends_setInfo {f : ConnectInfo → ConnectInfo}
    {store : ℕ → ConnectInfo → Except SystemError Unit} {Q : Unit → Turn → Prop}
    {E : Thrown → Turn → Prop} :
    Ends (setInfo f store) t Q E ↔
      Ends (call fun n => store n (f t.connectInfo)) (t.setInfo (f t.connectInfo)) Q E :=
  Iff.rfl

/-- `try { … } catch (std::system_error & sys_error) { … }`. -/
def catchSystem (body : Handler Unit) (onError : SystemError → Handler Unit) : Handler Unit :=
  tryCatch body fun
    | .system e => onError e
    | .other => throw .other

end Yijian
