import Mathlib.Data.List.Basic

/-!
# Message Types

The type byte of a frame (`typemap.h`) and the table of the types whose messages carry a
session number (`typemap.cxx`). A frame may carry any byte; the enumerators are the bytes
that the server gives a meaning to.

## Convention

The enumerators keep the names of the source, with the spelling they have there, and their values
are the wire format: two values are not assigned, and nothing above 49 is. The table of the source
maps a type to `true` where it is listed and is only ever asked whether it lists one, so it is a
list. What a listed type needs (a number that the server expects, and a connection that is marked
as connected) is decided in `dispatchGate` of `Yijian.Server`; here it is no more than a predicate
on bytes. A response or a notification is never listed, which is why a server that gets one takes
it for a message without a number.
-/

namespace Yijian

/-- `enum ChatType : uint8_t`. -/
inductive ChatType
  | error | registor | registorres | login | loginres | loginnoti
  | clientconnect | clientconnectres | clientdisconnect | clientdisconnectres
  | logout | logoutres | queryuser | queryuserres | queryuserversion | queryuserversionres
  | querynode | querynoderes | querynodeversion | querynodeversionres
  | addfriend | addfriendres | addfriendnoti
  | addfriendauthorize | addfriendauthorizeres | addfriendauthorizenoti
  | creategroup | creategroupres | groupaddmember | groupaddmemberres
  | nodemessage | nodemessageres | nodemessagenoti
  | querymessage | querymessageres | queryonemessage
  | media | mediares | querymedia | querymediares
  | serverconnect | serverdisconnect
  | queryaddfriendinfo | queryaddfriendinfores
  | ping | pong | setuserproterty | setuserprotertyres
deriving DecidableEq, Repr

/-- The value of an enumerator; 40 and 41 are not assigned. -/
def ChatType.code : ChatType → UInt8
  | error => 0 | registor => 1 | registorres => 2 | login => 3 | loginres => 4
  | loginnoti => 5 | clientconnect => 6 | clientconnectres => 7 | clientdisconnect => 8
  | clientdisconnectres => 9 | logout => 10 | logoutres => 11 | queryuser => 12
  | queryuserres => 13 | queryuserversion => 14 | queryuserversionres => 15
  | querynode => 16 | querynoderes => 17 | querynodeversion => 18
  | querynodeversionres => 19 | addfriend => 20 | addfriendres => 21
  | addfriendnoti => 22 | addfriendauthorize => 23 | addfriendauthorizeres => 24
  | addfriendauthorizenoti => 25 | creategroup => 26 | creategroupres => 27
  | groupaddmember => 28 | groupaddmemberres => 29 | nodemessage => 30
  | nodemessageres => 31 | nodemessagenoti => 32 | querymessage => 33
  | querymessageres => 34 | queryonemessage => 35 | media => 36 | mediares => 37
  | querymedia => 38 | querymediares => 39 | serverconnect => 42
  | serverdisconnect => 43 | queryaddfriendinfo => 44 | queryaddfriendinfores => 45
  | ping => 46 | pong => 47 | setuserproterty => 48 | setuserprotertyres => 49

/-- The keys of `check_map_`. -/
def checkMap : List ChatType :=
  [.clientdisconnect, .logout, .queryuser, .queryuserversion, .querynode, .addfriend,
    .addfriendauthorize, .creategroup, .groupaddmember, .nodemessage, .querymessage,
    .queryonemessage, .media, .querymedia, .setuserproterty]

/-- `missing_check`: messages of this type carry a session number. -/
def missingCheck (type : UInt8) : Bool := (checkMap.map ChatType.code).contains type

/-- The two types that the event loop handles itself are not numbered. -/
theorem missingCheck_server :
    missingCheck ChatType.serverconnect.code = false ∧
      missingCheck ChatType.serverdisconnect.code = false := by
  decide

end Yijian
