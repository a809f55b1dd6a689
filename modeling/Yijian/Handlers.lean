import Yijian.Turns

/-!
# Handlers

The functions `dispatch` of `server_msg_typemap.cxx`, one for each type of request of a client,
and the gate in front of them. `mongo_client::setUserProperty` is written out, as it throws by
itself.

## Main definitions

* `DbClient.dispatchRegister` up to `DbClient.dispatchNodeMessage`: the handlers.
* `DbClient.dispatch`: the gate, and the handler of a request behind it.

## Convention

The programs follow the source line by line: which call comes first, what is looked at in between,
what is mounted before a call that may still throw, and which exception is caught where. The error
numbers and their texts are the source's. The gate looks at the header of a message only, and so
comes before any parsing: what `ParseFromArray` makes of the data of a frame is the request. The
handlers for the messages of peer servers (`dispatch(chat::LoginRes&)` and three more) are reached
through the same gate and are in `Yijian.Relays`. `registor`, `queryuserversion` and the others are
found in the source by the type in a table; here the constructor of the request finds them.
-/

namespace Yijian

open Attempts

/-! ### Properties of a user -/

/-- `std::isspace` in the C locale. -/
def isspace (c : Char) : Bool := c = ' ' || (9 ≤ c.toNat && c.toNat ≤ 13)

/-- `std::stoi`, to the base 10; `none` where it throws `std::invalid_argument` or
`std::out_of_range`. -/
def stoi (value : String) : Option ℤ :=
  let unsigned := fun (sign : ℤ) (cs : List Char) =>
    match cs.takeWhile Char.isDigit with
    | [] => none
    | ds =>
        let n := sign * ds.foldl (fun (n : ℤ) c => 10 * n + (c.toNat - '0'.toNat : ℕ)) 0
        if -2 ^ 31 ≤ n ∧ n < 2 ^ 31 then some n else none
  match value.toList.dropWhile isspace with
  | '-' :: cs => unsigned (-1) cs
  | '+' :: cs => unsigned 1 cs
  | cs => unsigned 1 cs

/-- The enumerators of `chat::UserProperty`, by the names of their fields. -/
def propertyString : ℤ → Option String
  | 0 => some "realname"
  | 1 => some "nickname"
  | 2 => some "icon"
  | 3 => some "description"
  | 4 => some "isMale"
  | 5 => some "birthday"
  | _ => none

section Handlers

variable (client : DbClient)

/-- `mongo_client::setUserProperty`; no handler catches what `std::stoi` throws. -/
def DbClient.setUserProperty (userID : String) (property : Chat.SetUserProperty) : Handler Unit :=
  match propertyString property.property with
  | none => throw (.system ⟨40012, "no this property"⟩)
  | some property_string =>
      if property_string.toList.take 2 = ['i', 's'] then
        let isTrue := property.value.toList.head? = some 't'
        call fun n => client.updateUser n userID property_string (.bool isTrue)
      else if property_string = "birthday" then
        match stoi property.value with
        | none => throw .other
        | some birthday_ts =>
            call fun n => client.updateUser n userID property_string (.int32 birthday_ts)
      else
        call fun n => client.updateUser n userID property_string (.utf8 property.value)

/-! ### Notifications -/

/-- `traverseDevices`. -/
def Turn.traverseDevices (noti : Response) (t : Turn) (infolittle : ConnectInfoLittle) :
    List Mounted :=
  if infolittle.isconnected && infolittle.uuid != t.node.uuid then
    [.device infolittle.uuid noti]
  else []

/-- `mountBuffer2Node` for a user. -/
def DbClient.mountUser (noti : Response) (touserid : String) : Handler Unit :=
  cursor (fun n => client.devices n touserid) (Turn.traverseDevices noti)

/-- `mountBuffer2Node` for the members of a node. -/
def DbClient.mountSpecifiy (noti : Response) (tonodeid : String) : Handler Unit := do
  let node ← call fun n => client.queryNode n tonodeid
  let t ← get
  cursor (fun n => client.devicesOf n node.members t.node.userid) (Turn.traverseDevices noti)

/-- The function that a ClientConnect hands to `unreadNodes`. -/
def unreadNoti (t : Turn) : String × ℤ × ℤ → List Mounted
  | (tonodeid, unreadIncrement, readedIncrement) =>
      [.self (.nodeMessageNoti ⟨"", t.node.userid, tonodeid, readedIncrement, unreadIncrement⟩)]

/-! ### Handlers with one reply at their end -/

/-- The answer of most handlers to a `std::system_error`. -/
def errorResponse (e : SystemError) : Response :=
  .error e.code e.what

/-- A handler that makes a response, mounts it, and answers a `std::system_error` with another
one. -/
def respond (body : Handler Response) (onError : SystemError → Response) : Handler Unit :=
  catchSystem (do mountSelf (← body)) fun e => mountSelf (onError e)

/-- `find_if` on the devices of a user. -/
def User.listsDevice (user : User) (uuid : String) : Bool :=
  user.devices.any fun device => device.uuid == uuid

/-- The user has the device, or an error with the code of the handler is thrown. -/
def DbClient.findDevice (userid uuid : String) (code : ℤ) : Handler Unit := do
  let user ← call fun n => client.queryUser n userid
  throwIf (¬ user.listsDevice uuid) code "device not find"

/-- `dispatch(chat::Register&)`. -/
def DbClient.dispatchRegister (enroll : Chat.Register) : Handler Unit :=
  respond
    (if enroll.verifycode = "" then do
      let _ ← call fun n => client.queryPhone n enroll.phoneno enroll.countrycode
      throw (.system ⟨11007, "user had signup"⟩)
    else do
      let id ← call fun n => client.insertUser n enroll.toRegister
      return .registerRes id true 0 "")
    fun e =>
      if e.code = 40002 then .registerRes "" true 0 "not enroll"
      else .registerRes "" false e.code e.what

/-- `dispatch(chat::Logout&)`. -/
def DbClient.dispatchLogout (logout : Logout) : Handler Unit :=
  respond
    (do
      client.findDevice logout.userid logout.uuid 11002
      let _ ← client.findInfo logout.uuid
      let t ← get
      setInfo (fun info => info.logout logout.uuid t.sessionid) client.updateUUID
      return .logoutRes logout.uuid)
    errorResponse

/-- `dispatch(chat::ClientDisConnect&)`. -/
def DbClient.dispatchClientDisConnect (disconnect : ClientDisConnect) : Handler Unit :=
  respond
    (do
      client.findDevice disconnect.userid disconnect.uuid 11004
      let _ ← client.findInfo disconnect.uuid
      let t ← get
      setInfo (fun info => info.disconnect disconnect.userid t.sessionid) client.updateUUID
      let t ← get
      return .clientDisConnectRes t.connectInfo.uuid)
    errorResponse

/-- `dispatch(chat::QueryAddfriendInfo&)`. -/
def DbClient.dispatchQueryAddfriendInfo (count : ℤ) : Handler Unit :=
  let limit := if 0 < count ∧ count ≤ 50 then count else 10
  respond
    (do
      let t ← get
      let info ← call fun n => client.queryAddfriendInfo n t.node.userid limit
      return .queryAddfriendInfoRes info)
    errorResponse

/-- The loop of `dispatch(chat::CreateGroup&)` and `dispatch(chat::GroupAddMember&)`: a member
that is not on its own blacklist is erased. -/
def DbClient.filtrate : List String → Handler (List String)
  | [] => pure []
  | memberid :: membersid => do
      let user ← call fun n => client.queryUser n memberid
      let rest ← filtrate membersid
      return if memberid ∈ user.blacklist then memberid :: rest else rest

/-- `dispatch(chat::CreateGroup&)`. -/
def DbClient.dispatchCreateGroup (group : CreateGroup) : Handler Unit :=
  respond
    (do
      let membersid ← client.filtrate group.membersid
      throwIf (membersid.length ≤ 3) 11006 "at least 3 people"
      let res ← call fun n => client.createGroup n { group with membersid := membersid }
      return .createGroupRes res)
    errorResponse

/-- `dispatch(chat::GroupAddMember&)`. -/
def DbClient.dispatchGroupAddMember (groupMember : GroupAddMember) : Handler Unit :=
  respond
    (do
      let membersid ← client.filtrate groupMember.membersid
      let tonodeid ← call fun n =>
        client.addMembers2Group n { groupMember with membersid := membersid }
      return .groupAddMemberRes tonodeid)
    errorResponse

/-- `dispatch(chat::QueryUser&)`: the password stays hidden, and the lists of another user. -/
def DbClient.dispatchQueryUser (queryUser : Chat.QueryUser) : Handler Unit :=
  respond
    (do
      let user ← call fun n =>
        if queryUser.userid ≠ "" then client.queryUser n queryUser.userid
        else client.queryPhone n queryUser.phoneno queryUser.countrycode
      let t ← get
      let user := { user with password := "" }
      return .queryUserRes
        (if user.id ≠ t.node.userid then
          { user with friends := [], blacklist := [], groupnodeids := [], devices := [] }
        else user))
    errorResponse

/-- `dispatch(chat::QueryUserVersion&)`. -/
def DbClient.dispatchQueryUserVersion (userid : String) : Handler Unit :=
  respond
    (do
      let user ← call fun n => client.queryUser n userid
      return .queryUserVersionRes userid user.version)
    errorResponse

/-- `dispatch(chat::QueryNode&)`. -/
def DbClient.dispatchQueryNode (tonodeid : String) : Handler Unit :=
  respond
    (do
      let node ← call fun n => client.queryNode n tonodeid
      return .queryNodeRes node)
    errorResponse

/-- `dispatch(chat::QueryNodeVersion&)`. -/
def DbClient.dispatchQueryNodeVersion (tonodeid : String) : Handler Unit :=
  respond
    (do
      let node ← call fun n => client.queryNode n tonodeid
      return .queryNodeVersionRes node.version)
    errorResponse

/-- The difference of two `int32_t`, which wraps around. -/
def subInt32 (a b : ℤ) : ℤ := Int.bmod (a - b) (2 ^ 32)

/-- `dispatch(chat::QueryMessage&)`. -/
def DbClient.dispatchQueryMessage (query : QueryMessage) : Handler Unit :=
  respond
    (do
      throwIf
        ((query.toincrementid ≤ query.fromincrementid ∧ query.toincrementid ≠ 0) ∨
          subInt32 query.toincrementid query.fromincrementid > 50)
        11008 "query is invalid"
      let messages ← call fun n => client.queryMessage n query
      return .queryMessageRes messages)
    errorResponse

/-- `dispatch(chat::QueryOneMessage&)`. -/
def DbClient.dispatchQueryOneMessage (query : Chat.QueryOneMessage) : Handler Unit :=
  respond
    (do
      let message ← call fun n => client.queryOneMessage n query.tonodeid query.incrementid
      return .queryMessageRes [message])
    errorResponse

/-- `dispatch(chat::Media&)`. -/
def DbClient.dispatchMedia (media : Media) : Handler Unit :=
  respond
    (do
      call fun n => client.insertMedia n media
      return .mediaRes true)
    fun e => if e.code = 40061 then .mediaRes true else errorResponse e

/-- `dispatch(chat::QueryMedia&)`. -/
def DbClient.dispatchQueryMedia (md5 : String) : Handler Unit :=
  respond
    (do
      let media ← call fun n => client.queryMedia n md5
      return .queryMediaRes media)
    errorResponse

/-- `dispatch(chat::SetUserProperty&)`. -/
def DbClient.dispatchSetUserProperty (property : Chat.SetUserProperty) : Handler Unit :=
  respond
    (do
      let t ← get
      client.setUserProperty t.node.userid property
      return .setUserPropertyRes property.property property.value)
    errorResponse

/-- `dispatch(chat::Ping&)`. -/
def dispatchPing : Handler Unit :=
  mountSelf (.pong "pong")

/-! ### Handlers that go on behind their reply -/

/-- The call of a Login that writes the device to the document of the user. -/
def DbClient.storeDevice (n : ℕ) (user : User) (device : Device) : Except SystemError Unit :=
  if user.listsDevice device.uuid then client.updateDevice n user.id device
  else client.insertDevice n user.id device

/-- The part of `dispatch(chat::Login&)` that stores the connect info of the device. -/
def DbClient.storeLogin (userid uuid : String) : Handler Unit := do
  let isFind ← client.findInfo uuid
  if isFind then
    setInfo (fun info => info.login uuid userid (addUser info.users userid)) client.updateUUID
  else
    setInfo (fun info => info.login uuid userid (addUser (fun _ => none) userid))
      client.insertUUID

/-- `dispatch(chat::Login&)`. -/
def DbClient.dispatchLogin (login : Chat.Login) : Handler Unit :=
  catchSystem
    (do
      let user ← call fun n => client.queryPhone n login.phoneno login.countrycode
      throwIf (user.password ≠ login.password) 11001 "password or account error"
      call fun n => client.storeDevice n user login.device
      client.storeLogin user.id login.device.uuid
      let t ← get
      let res := .loginRes true user.id t.node.uuid 0 ""
      mountSelf res
      client.mountUser (.loginNoti login.device.uuid) t.node.userid
      mountPeer res)
    fun e => mountSelf (.loginRes false "" "" e.code e.what)

/-- `dispatch(chat::ClientConnect&)`; `Map::at` ends the process where the user has no session
number. -/
def DbClient.dispatchClientConnect (connect : ClientConnect) : Handler Unit :=
  catchSystem
    (do
      client.findDevice connect.userid connect.uuid 11003
      let _ ← client.findInfo connect.uuid
      let t ← get
      match t.connectInfo.users connect.userid with
      | none => throw .other
      | some stored =>
          modify fun t => t.connect connect stored
          setInfo (fun info => info.connect connect) client.updateUUID
          let t ← get
          mountSelf (.clientConnectRes ⟨true, 0, "", t.connectInfo.userid, t.connectInfo.uuid,
            t.node.sessionid⟩)
          cursor (fun n => client.unreadNodes n t.node.userid) unreadNoti)
    fun e => mountSelf (.clientConnectRes ⟨false, e.code, e.what, "", "", 0⟩)

/-- `dispatch(chat::AddFriend&)`. -/
def DbClient.dispatchAddFriend (frd : AddFriend) : Handler Unit :=
  catchSystem
    (do
      let t ← get
      throwIf (frd.inviterID = "" ∨ frd.inviteeID = "" ∨ frd.inviterID ≠ t.node.userid)
        11012 "args error"
      let peerUser ← call fun n => client.queryUser n frd.inviteeID
      throwIf (frd.inviteeID ∈ peerUser.blacklist) 11005 "blacklist"
      let user ← call fun n => client.queryUser n frd.inviterID
      throwIf (user.friends.any (·.userID == frd.inviteeID)) 11020 "is friend already"
      throwIf (peerUser.friends.any (·.userID == frd.inviterID)) 11022 "is friend already"
      let res ← call fun n => client.addFriend n frd
      mountSelf (.addFriendRes res)
      mountPeer (.addFriendRes res)
      client.mountUser (.addFriendNoti res) res.inviteeID
      client.mountUser (.addFriendNoti res) res.inviterID)
    fun e => mountSelf (errorResponse e)

/-- `dispatch(chat::AddFriendAuthorize&)`: who does not agree gets no answer. -/
def DbClient.dispatchAddFriendAuthorize (addAuth : AddFriendAuthorize) : Handler Unit :=
  catchSystem
    (do
      let t ← get
      throwIf (addAuth.inviterID = "" ∨ addAuth.inviteeID = "" ∨
        addAuth.inviteeID ≠ t.node.userid) 11023 "authorize permission error"
      if addAuth.isAgree then do
        call fun n => client.addFriendAuthorize n addAuth.inviterID addAuth.inviteeID
        mountSelf (.addFriendAuthorizeRes addAuth)
        client.mountUser (.addFriendAuthorizeNoti addAuth) addAuth.inviterID
        client.mountUser (.addFriendAuthorizeNoti addAuth) addAuth.inviteeID
        mountPeer (.addFriendAuthorizeRes addAuth)
      else pure ())
    fun e => mountSelf (errorResponse e)

/-- `dispatch(chat::NodeMessage&)`: to the members of a node, or to one user. -/
def DbClient.dispatchNodeMessage (message : Chat.NodeMessage) : Handler Unit :=
  catchSystem
    (do
      let res ← call fun n => client.insertMessage n message.toNodeMessage
      mountSelf (.nodeMessageRes res "" "" "")
      let t ← get
      let noti := .nodeMessageNoti ⟨t.node.userid, message.touserid_outer, message.tonodeid, 0,
        res.incrementid⟩
      let res := .nodeMessageRes res t.node.userid message.touserid_outer message.tonodeid
      if message.touserid_outer = "" then do
        let _ ← call fun n => client.queryNode n message.tonodeid
        client.mountSpecifiy noti message.tonodeid
        mountPeer res
      else do
        client.mountUser noti t.node.userid
        mountPeer res
        client.mountUser noti message.touserid_outer
        mountPeer res)
    fun e => mountSelf (errorResponse e)

/-! ### The dispatch -/

/-- `dispatch(type, header, length)`: the handler of a request. -/
def DbClient.handle : ClientRequest → Handler Unit
  | .register enroll => client.dispatchRegister enroll
  | .login login => client.dispatchLogin login
  | .logout logout => client.dispatchLogout logout
  | .clientConnect connect => client.dispatchClientConnect connect
  | .clientDisConnect disconnect => client.dispatchClientDisConnect disconnect
  | .addFriend frd => client.dispatchAddFriend frd
  | .addFriendAuthorize addAuth => client.dispatchAddFriendAuthorize addAuth
  | .queryAddfriendInfo count => client.dispatchQueryAddfriendInfo count
  | .createGroup group => client.dispatchCreateGroup group
  | .groupAddMember groupMember => client.dispatchGroupAddMember groupMember
  | .queryUser queryUser => client.dispatchQueryUser queryUser
  | .queryUserVersion userid => client.dispatchQueryUserVersion userid
  | .queryNode tonodeid => client.dispatchQueryNode tonodeid
  | .queryNodeVersion tonodeid => client.dispatchQueryNodeVersion tonodeid
  | .nodeMessage message => client.dispatchNodeMessage message
  | .queryMessage query => client.dispatchQueryMessage query
  | .queryOneMessage query => client.dispatchQueryOneMessage query
  | .media media => client.dispatchMedia media
  | .queryMedia md5 => client.dispatchQueryMedia md5
  | .setUserProperty property => client.dispatchSetUserProperty property
  | .ping => dispatchPing

/-- What the gate decides on a request with the number `dataSessionid`. -/
def ClientRequest.verdict (request : ClientRequest) (dataSessionid : ℕ) (t : Turn) : Verdict :=
  dispatchGate t.node.isConnect request.types.1.code dataSessionid t.sessionid

/-- `dispatch(node, spvec, session_id)`. -/
def DbClient.dispatch (request : ClientRequest) (dataSessionid : ℕ) : Handler Unit := do
  let t ← get
  match request.verdict dataSessionid t with
  | .reject errnum errmsg => mountSelf (.error errnum errmsg)
  | .handle => client.handle request

end Handlers

end Yijian
