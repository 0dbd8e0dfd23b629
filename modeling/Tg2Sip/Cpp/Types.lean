/-
Data model of the C++ gateway.

The TDLib objects, the pjsua2 parameters and the gateway's own records carry
the fields that the modelled functions read or write.  A `std::string` is a
`String` with one character per byte.  Call ids, user ids and chat ids are
integers: the gateway only copies and compares them.  Instants and durations
of the steady clock are integers counting nanoseconds.
-/

import Tg2Sip.Lib.FiniteMap

namespace Tg2Sip.Cpp

open FiniteMap (Map)

/-- `PJSUA_INVALID_ID`. -/
def invalidId : Int := -1

/-- `pj::CallOpParam`; `headers` is `txOption.headers`. -/
structure CallOpParam where
  useDefaultCallSetting : Bool := false
  statusCode : Nat := 0
  reason : String := ""
  headers : List (String × String) := []
  deriving DecidableEq, Repr

def scRinging : Nat := 180
def scOk : Nat := 200
def scNotFound : Nat := 404
def scBadExtension : Nat := 420
def scInternalServerError : Nat := 500

inductive InvState where
  | null
  | calling
  | incoming
  | early
  | connecting
  | confirmed
  | disconnected
  deriving DecidableEq, Repr

/-- An operation on a `pj::Call` returns or throws a `pj::Error` with a reason. -/
inductive PjResult (Value : Type) where
  | ok (value : Value)
  | error (reason : String)
  deriving DecidableEq, Repr

/-- `td_api::CallServer`; only reflectors carry a peer tag. -/
inductive CallServerType where
  | telegramReflector (peerTag : List UInt8)
  | webrtc
  deriving DecidableEq, Repr

structure CallServer where
  id : Int
  ipAddress : String
  ipv6Address : String
  port : Int
  type : CallServerType
  deriving DecidableEq, Repr

structure CallReady where
  encryptionKey : List UInt8
  servers : List CallServer
  deriving DecidableEq, Repr

inductive CallState where
  | pending
  | exchangingKeys
  | ready (payload : CallReady)
  | hangingUp
  | discarded
  | error
  deriving DecidableEq, Repr

/-- `td_api::call`, the payload of `updateCall`. -/
structure Call where
  id : Int
  userId : Int
  isOutgoing : Bool
  state : CallState
  deriving DecidableEq, Repr

inductive MessageSender where
  | user (userId : Int)
  | chat (chatId : Int)
  deriving DecidableEq, Repr

inductive MessageContent where
  | text (text : String)
  | other
  deriving DecidableEq, Repr

/-- `td_api::message`, the payload of `updateNewMessage`. -/
structure Message where
  senderId : MessageSender
  content : MessageContent
  deriving DecidableEq, Repr

structure TdError where
  code : Int
  message : String
  deriving DecidableEq, Repr

structure User where
  firstName : String
  lastName : String
  username : String
  phoneNumber : String
  id : Int := 0
  haveAccess : Bool := true
  deriving DecidableEq, Repr

inductive ChatType where
  | «private»
  | other
  deriving DecidableEq, Repr

structure Chat where
  id : Int
  type : ChatType
  deriving DecidableEq, Repr

/-- `td_api::Object`, the answer to a query.  `other` is every class that no
modelled function looks at. -/
inductive Object where
  | error (error : TdError)
  | ok
  | user (user : User)
  | users (userIds : List Int)
  | callId (id : Int)
  | importedContacts (userIds : List Int)
  | chat (chat : Chat)
  | other
  deriving DecidableEq, Repr

structure CallProtocol where
  udpP2p : Bool
  udpReflector : Bool
  minLayer : Nat
  maxLayer : Nat
  libraryVersions : List String
  deriving DecidableEq, Repr

/-- The requests the gateway sends while it dispatches an event. -/
inductive Query where
  | getUser (userId : Int)
  | acceptCall (callId : Int) (protocol : CallProtocol)
  | discardCall (callId : Int) (isDisconnected : Bool) (duration : Nat) (isVideo : Bool)
      (connectionId : Int)
  | createCall (userId : Int) (protocol : CallProtocol) (isVideo : Bool)
  | importContacts (phoneNumbers : List String)
  | searchPublicChat (username : String)
  deriving DecidableEq, Repr

structure VoipProxy where
  address : String
  port : Nat
  username : String
  password : String
  deriving DecidableEq, Repr

structure Endpoint where
  id : Int
  port : Nat
  ipv4 : String
  ipv6 : String
  peerTag : List UInt8
  deriving DecidableEq, Repr

/-- What `CreateTgVoip` hands to a `tgvoip::VoIPController` before it starts. -/
structure Controller where
  aecEnabled : Bool
  nsEnabled : Bool
  agcEnabled : Bool
  proxy : Option VoipProxy
  encryptionKey : List UInt8
  isOutgoing : Bool
  endpoints : List Endpoint
  allowP2p : Bool
  connectionMaxLayer : Nat
  deriving DecidableEq, Repr

/-! ### The gateway's own records -/

structure Settings where
  callbackUri : String
  udpP2p : Bool := false
  udpReflector : Bool := true
  aecEnabled : Bool := false
  nsEnabled : Bool := false
  agcEnabled : Bool := false
  voipProxyEnabled : Bool := false
  voipProxyAddress : String := ""
  voipProxyPort : UInt16 := 0
  voipProxyUsername : String := ""
  voipProxyPassword : String := ""
  extraWaitTime : UInt32 := 30
  peerFloodTime : UInt32 := 86400
  deriving DecidableEq, Repr

structure Cache where
  usernameCache : Map String Int
  phoneCache : Map String Int

structure Context where
  id : String
  sipCallId : Int := invalidId
  tgCallId : Int := 0
  controller : Option Controller := none
  extPhone : String := ""
  extUsername : String := ""
  userId : Int := 0
  hangupPrm : CallOpParam := {}
  deriving DecidableEq, Repr

structure InternalError where
  ctxId : String
  prm : CallOpParam
  deriving DecidableEq, Repr

/-- Everything that is dispatched to a state machine. -/
inductive Event where
  | updateCall (call : Call)
  | updateNewMessage (message : Message)
  | incomingCall (id : Int) (ext : String)
  | callStateUpdate (id : Int) (state : InvState)
  | callMediaStateUpdate (id : Int) (hasMedia : Bool)
  | internalError (error : InternalError)
  deriving DecidableEq, Repr

/-- A `Call` object of `sip::Client`, named by the order of construction. -/
abbrev CallRef := Nat

/-- `sip::Client`: the registry of live calls, and the number of `Call`
objects constructed so far. -/
structure SipClient where
  calls : Map Int CallRef
  constructed : Nat

/-- What can leave an action: an exception, or behaviour that the language
leaves undefined. -/
inductive Fault where
  | pjError (reason : String)
  | runtimeError (what : String)
  | outOfRange (what : String)
  | nullDereference
  | wrongObject
  | emptyVector
  deriving DecidableEq, Repr

inductive ActionName where
  | storeSipId
  | storeTgId
  | storeTgUserId
  | cleanTgId
  | cleanSipId
  | cleanUp
  | dialSip
  | answerTg
  | acceptIncomingSip
  | answerSip
  | createTgVoip
  | bridgeAudio
  | setHangupPrm
  | dialTg
  | dialDtmf
  deriving DecidableEq, Repr

/-- The calls of `sip::Client` that name an existing SIP call. -/
inductive SipOp where
  | answer (id : Int) (prm : CallOpParam)
  | hangup (id : Int) (prm : CallOpParam)
  | bridgeAudio (id : Int)
  | dialDtmf (id : Int) (digits : String)
  deriving DecidableEq, Repr

def SipOp.id : SipOp → Int
  | .answer id _ => id
  | .hangup id _ => id
  | .bridgeAudio id => id
  | .dialDtmf id _ => id

/-- One observable effect, in the order in which the source produces it.
`handled` marks the start of `process_event` in a state machine.  A request is
recorded together with its answer; `target` is the `Call` object that
`sip::Client` found for the id. -/
inductive Effect where
  | created
  | handled (event : Event)
  | deleted
  | action (name : ActionName)
  | associatedTg (id : Int)
  | associatedSip (id : Int)
  | query (query : Query) (reply : Object)
  | dial (uri : String) (prm : CallOpParam) (result : PjResult Int)
  | sip (op : SipOp) (target : Option CallRef) (failure : Option Fault)
  | controllerStart
  | controllerStop
  | logError
  deriving DecidableEq, Repr

def Effect.failed : Effect → Bool
  | .query _ (.error _) => true
  | .dial _ _ (.error _) => true
  | .sip _ _ (some _) => true
  | _ => false

def Effect.isRequest : Effect → Bool
  | .query _ _ => true
  | .dial _ _ _ => true
  | .sip _ _ _ => true
  | _ => false

/-- Everything an action reaches through its references: its context, the
state shared by all contexts, and the effects produced so far. -/
structure World where
  ctx : Context
  cache : Cache
  blockUntil : Int
  internalEvents : List InternalError
  sip : SipClient
  trace : List Effect

/-- The answers of the outside to the requests one dispatched event can make,
each of which is made at most once per event.  `now` is the first reading of
the clock and `later` the second one.  `chatAsUser` is what a read of `user_id_`
yields through a pointer that was cast from a `messageSenderChat`.
`voipController` is whether the two audio devices of a new `VoIPController` could
register their media ports. -/
structure Env where
  settings : Settings
  now : Int
  later : Int
  chatAsUser : Int → Int
  getUser : Object
  acceptCall : Object
  discardCall : Object
  createCall : Object
  importContacts : Object
  searchPublicChat : Object
  makeCall : PjResult Int
  voipController : PjResult Unit
  answer : PjResult Unit
  hangup : PjResult Unit
  audioMedia : PjResult Bool
  startTransmit : PjResult Unit
  dialDtmf : PjResult Unit

end Tg2Sip.Cpp
