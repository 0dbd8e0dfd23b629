/-
Data model of the Go gateway.

Call ids and user ids are integers: the gateway copies, compares and prints
them.  An instant or a duration counts nanoseconds; the zero `time.Time` is
`none`.  A request carries the headers that a handler reads, a missing Call-ID
being the empty string.
-/

import Mathlib.Data.List.AList
import Tg2Sip.Lib.Channel

namespace Tg2Sip.Go

inductive CallState where
  | incoming
  | outgoing
  | waitMedia
  | waitDTMF
  | cleanup
  deriving DecidableEq, Repr

/-- `Context`; `controller` says whether an external media controller is set. -/
structure Context where
  id : String
  sipCallID : String := ""
  tgCallID : Int := 0
  userID : Int
  controller : Bool := false
  state : CallState
  deriving DecidableEq, Repr

/-- A pointer to a `Context`, named by the order of allocation. -/
abbrev Ref := Nat

inductive InternalEventType where
  | incoming
  | outgoing
  | waitMedia
  | waitDTMF
  | cleanup
  deriving DecidableEq, Repr

structure InternalEvent where
  ctxID : String
  typ : InternalEventType
  deriving DecidableEq, Repr

/-- `CallStateEvent` and `MediaEvent`. -/
inductive GatewayEvent where
  | callState (callID : String) (state : String)
  | media (callID : String) (body : String)
  deriving DecidableEq, Repr

/-- The states of a `client.Call` that the gateway tells apart. -/
inductive TgCallState where
  | pending
  | discarded
  | other
  deriving DecidableEq, Repr

structure TgCall where
  id : Int
  userID : Int
  isOutgoing : Bool
  state : TgCallState
  deriving DecidableEq, Repr

/-- `client.User`; `usernames` is the pair of the editable username and the
active ones, and may be nil. -/
structure User where
  id : Int
  firstName : String
  lastName : String
  usernames : Option (String × List String)
  phoneNumber : String
  deriving DecidableEq, Repr

inductive MessageSender where
  | user (userID : Int)
  | other
  deriving DecidableEq, Repr

/-- `client.Message`: the text is `none` for every other content. -/
structure Message where
  sender : MessageSender
  text : Option String
  deriving DecidableEq, Repr

inductive Update where
  | call (call : TgCall)
  | newMessage (message : Message)
  | other
  deriving DecidableEq, Repr

/-- An error of a TDLib call: an answer of TDLib with a message, or any other. -/
inductive TgError where
  | response (message : String)
  | other
  deriving DecidableEq, Repr

inductive Method where
  | invite
  | ack
  | bye
  | info
  deriving DecidableEq, Repr

structure Request where
  method : Method
  callID : String
  fromTag : Option String := none
  toTag : Option String := none
  body : String := ""
  hasTx : Bool := true
  deriving DecidableEq, Repr

/-- `callSession`: the tags of the two addresses and the CSeq; `answerable`
says that it keeps the transaction of an incoming INVITE. -/
structure CallSession where
  callID : String
  localTag : Option String
  remoteTag : Option String
  cseq : UInt64 := 1
  answerable : Bool
  deriving DecidableEq, Repr

def statusTrying : Nat := 100
def statusOK : Nat := 200
def statusNotFound : Nat := 404
def statusInternalServerError : Nat := 500
def statusServiceUnavailable : Nat := 503

/-- One observable effect.  A request is recorded together with its outcome;
`received` and `reported` record what the outside tells the gateway. -/
inductive Output where
  | received (request : Request)
  | reported (call : TgCall)
  | acceptCall (id : Int) (failure : Option TgError)
  | getUser (userID : Int) (failure : Option TgError)
  | createCall (callID : String) (userID : Int) (result : Except TgError Int)
  | discardCall (id : Int) (failure : Option TgError)
  | registerInvite (callID : String) (userID : Int)
  | registerCall (id : Int) (userID : Int)
  | dial (tgCallID : Int) (headers : List (String × String)) (result : Except String String)
  | hangup (callID : String)
  | sendBye (callID : String) (cseq : UInt64) (sent : Bool)
  | sendInfo (callID : String) (digits : String) (cseq : UInt64) (sent : Bool)
  | controllerStop
  | respond (callID : String) (status : Nat) (reason : String)

end Tg2Sip.Go
