import V2xHub.CJson.Basic

/-!
# Messages

`struct IvpMessage`: what travels between a plugin and the core, in memory; and the types of `tmx.h` that the core and its clients
use among themselves, with the tests for them.
-/

namespace V2xHub

/-- `typedef unsigned int IvpMsgFlags`. -/
abbrev IvpMsgFlags := BitVec 32

structure IvpDsrcMetadata where
  psid : Int
  channel : Int
deriving DecidableEq

/-- A `NULL` pointer is `none`. -/
structure IvpMessage where
  type : Option Str
  subtype : Option Str
  source : Option Str
  sourceId : Nat
  encoding : Option Str
  timestamp : Nat
  flags : IvpMsgFlags
  dsrcMetadata : Option IvpDsrcMetadata
  payload : Option CJson

/-! ### The reserved message types -/

def IVPMSG_TYPE_APIRESV_SUBSCRIBE : Str := CString.lit "__subscribe"
def IVPMSG_TYPE_APIRESV_REGISTER : Str := CString.lit "__register"
def IVPMSG_TYPE_APIRESV_ERROR : Str := CString.lit "__error"
def IVPMSG_TYPE_APIRESV_STATUS : Str := CString.lit "__status"
def IVPMSG_TYPE_APIRESV_CONFIG : Str := CString.lit "__config"
def IVPMSG_TYPE_APIRESV_EVENTLOG : Str := CString.lit "__eventLog"

def IVP_ENCODING_JSON : Str := CString.lit "json"

namespace IvpMessage

/-- `msg->type != NULL && strcmp(msg->type, type) == 0`. -/
def hasType (msg : IvpMessage) (type : Str) : Bool := msg.type = some type

def isSubscribeMsg (msg : IvpMessage) : Bool := msg.hasType IVPMSG_TYPE_APIRESV_SUBSCRIBE
def isRegistrationMsg (msg : IvpMessage) : Bool := msg.hasType IVPMSG_TYPE_APIRESV_REGISTER
def isErrMsg (msg : IvpMessage) : Bool := msg.hasType IVPMSG_TYPE_APIRESV_ERROR
def isStatusMsg (msg : IvpMessage) : Bool := msg.hasType IVPMSG_TYPE_APIRESV_STATUS
def isConfigMsg (msg : IvpMessage) : Bool := msg.hasType IVPMSG_TYPE_APIRESV_CONFIG
def isEventLogMsg (msg : IvpMessage) : Bool := msg.hasType IVPMSG_TYPE_APIRESV_EVENTLOG

end IvpMessage

end V2xHub
