/-
The guards and the actions of the gateway's state machines.

Each action announces itself, as the state machine's logger does, and then
performs the statements of its source in order.  Logging itself never throws:
the logger keeps formatting errors to its own error handler.  A reply whose
class is not the one the source casts it to is undefined behaviour there, and
a fault here.
-/

import Tg2Sip.Cpp.SipClient
import Tg2Sip.Cpp.Text

namespace Tg2Sip.Cpp

def isIncoming (call : Call) : Bool := !call.isOutgoing

def CallState.isPending : CallState → Bool
  | .pending => true
  | _ => false

def CallState.ready? : CallState → Option CallReady
  | .ready payload => some payload
  | _ => none

/-- `IsInState{callStateDiscarded} || IsInState{callStateError}`. -/
def CallState.isOver : CallState → Bool
  | .discarded => true
  | .error => true
  | _ => false

def callbackUriIsSet (settings : Settings) : Bool := !settings.callbackUri.isEmpty

/-- `IsTextContent && IsDtmfString`: the text that is dialled. -/
def MessageContent.dtmf? : MessageContent → Option String
  | .text body => if matchesDtmf body then some body else none
  | .other => none

def Object.error? : Object → Option TdError
  | .error failure => some failure
  | _ => none

def Object.user? : Object → Option User
  | .user record => some record
  | _ => none

def Object.callId? : Object → Option Int
  | .callId id => some id
  | _ => none

def Object.importedContacts? : Object → Option (List Int)
  | .importedContacts userIds => some userIds
  | _ => none

def Object.chat? : Object → Option Chat
  | .chat record => some record
  | _ => none

def catchPj (body : Act Unit) (handler : String → Act Unit) : Act Unit :=
  tryCatch body fun
    | .pjError reason => handler reason
    | fault => throw fault

def catchPjOrRuntime (body : Act Unit) (handler : String → Act Unit) : Act Unit :=
  tryCatch body fun
    | .pjError reason => handler reason
    | .runtimeError what => handler what
    | fault => throw fault

def serverError (reason : String) : CallOpParam :=
  { statusCode := scInternalServerError, reason := reason }

def errorReason (error : TdError) : String := toString error.code ++ "; " ++ error.message

def storeSipId (id : Int) : Act Unit := do
  emit (.action .storeSipId)
  setCtx (fun ctx => { ctx with sipCallId := id })
  emit (.associatedSip id)

def storeTgId (call : Call) : Act Unit := do
  emit (.action .storeTgId)
  setCtx (fun ctx => { ctx with tgCallId := call.id })
  emit (.associatedTg call.id)

def storeTgUserId (call : Call) : Act Unit := do
  emit (.action .storeTgUserId)
  setCtx (fun ctx => { ctx with userId := call.userId })

def cleanTgId : Act Unit := do
  emit (.action .cleanTgId)
  setCtx (fun ctx => { ctx with tgCallId := 0 })

def cleanSipId : Act Unit := do
  emit (.action .cleanSipId)
  setCtx (fun ctx => { ctx with sipCallId := invalidId })

def setHangupPrm (error : InternalError) : Act Unit := do
  emit (.action .setHangupPrm)
  setCtx (fun ctx => { ctx with hangupPrm := error.prm })

/-! `CleanUp` releases the three resources of a context one after the other. -/

def stopController : Act Unit := do
  if (← get).ctx.controller.isSome then
    emit .controllerStop

def discardTgCall (env : Env) : Act Unit := do
  let tgCallId := (← get).ctx.tgCallId
  if tgCallId ≠ 0 then
    emit (.query (.discardCall tgCallId false 0 false tgCallId) env.discardCall)
    if env.discardCall.error?.isSome then
      emit .logError
    setCtx (fun ctx => { ctx with tgCallId := 0 })

def hangupSipCall (env : Env) : Act Unit := do
  let sipCallId := (← get).ctx.sipCallId
  if sipCallId ≠ invalidId then
    let prm := (← get).ctx.hangupPrm
    catchPj (clientHangup env sipCallId prm) (fun _ => emit .logError)
    setCtx (fun ctx => { ctx with sipCallId := invalidId })

def cleanUp (env : Env) : Act Unit := do
  emit (.action .cleanUp)
  stopController
  discardTgCall env
  hangupSipCall env

def optionalHeader (name value : String) : List (String × String) :=
  if value.isEmpty then [] else [(name, value)]

def dialSipHeaders (ctxId : String) (userId : Int) (user : User) : List (String × String) :=
  [("X-GW-Context", ctxId), ("X-TG-ID", toString userId)] ++
    optionalHeader "X-TG-FirstName" user.firstName ++
    optionalHeader "X-TG-LastName" user.lastName ++
    optionalHeader "X-TG-Username" user.username ++
    optionalHeader "X-TG-Phone" user.phoneNumber

def dialSip (env : Env) (call : Call) : Act Unit := do
  emit (.action .dialSip)
  emit (.query (.getUser call.userId) env.getUser)
  match env.getUser.error? with
  | some error => do
      emit .logError
      throw (.runtimeError error.message)
  | none =>
      match env.getUser.user? with
      | none => throw .wrongObject
      | some user => do
          let prm : CallOpParam :=
            { useDefaultCallSetting := true
              headers := dialSipHeaders (← get).ctx.id call.userId user }
          catchPj
            (do let id ← clientDial env env.settings.callbackUri prm
                setCtx (fun ctx => { ctx with sipCallId := id })
                emit (.associatedSip id))
            (fun reason => enqueue (serverError reason))

def callProtocol (settings : Settings) : CallProtocol :=
  { udpP2p := settings.udpP2p
    udpReflector := settings.udpReflector
    minLayer := 65
    maxLayer := 92
    libraryVersions := ["2.4.4"] }

def answerTg (env : Env) : Act Unit := do
  emit (.action .answerTg)
  emit (.query (.acceptCall (← get).ctx.tgCallId (callProtocol env.settings)) env.acceptCall)
  match env.acceptCall.error? with
  | none => pure ()
  | some error => do
      emit .logError
      enqueue (serverError (errorReason error))

/-- The fields that a valid extension sets; `none` when it is invalid. -/
def parseExtension (ext : String) (ctx : Context) : Option Context :=
  if 3 < ext.length && ext.toList.take 3 == "tg#".toList then
    some { ctx with extUsername := String.ofList (ext.toList.drop 3) }
  else if 1 < ext.length && ext.toList.head? == some '+' &&
      isDigits (String.ofList (ext.toList.drop 1)) then
    some { ctx with extPhone := String.ofList (ext.toList.drop 1) }
  else if isDigits ext then
    match stol ext.toList with
    | .value number => some { ctx with userId := number }
    | .invalidArgument => none
    | .outOfRange => none
  else none

def acceptIncomingSip (env : Env) (ext : String) : Act Unit := do
  emit (.action .acceptIncomingSip)
  match parseExtension ext (← get).ctx with
  | some parsed => do
      setCtx (fun _ => parsed)
      let prm : CallOpParam := { useDefaultCallSetting := true, statusCode := scRinging }
      catchPjOrRuntime (clientAnswer env (← get).ctx.sipCallId prm)
        (fun reason => enqueue (serverError reason))
  | none => enqueue { statusCode := scBadExtension }

def answerSip (env : Env) : Act Unit := do
  emit (.action .answerSip)
  let prm : CallOpParam := { useDefaultCallSetting := true, statusCode := scOk }
  catchPjOrRuntime (clientAnswer env (← get).ctx.sipCallId prm)
    (fun reason => enqueue (serverError reason))

/-- Only reflectors become endpoints; the key is copied as 256 bytes and the
peer tag as 16. -/
def reflectorEndpoint (server : CallServer) : Option Endpoint :=
  match server.type with
  | .webrtc => none
  | .telegramReflector peerTag =>
      some
        { id := server.id
          port := (server.port.emod 65536).toNat
          ipv4 := server.ipAddress
          ipv6 := server.ipv6Address
          peerTag := peerTag.take 16 }

def makeController (settings : Settings) (call : Call) (ready : CallReady) : Controller :=
  { aecEnabled := settings.aecEnabled
    nsEnabled := settings.nsEnabled
    agcEnabled := settings.agcEnabled
    proxy :=
      if settings.voipProxyEnabled then
        some
          { address := settings.voipProxyAddress
            port := settings.voipProxyPort.toNat
            username := settings.voipProxyUsername
            password := settings.voipProxyPassword }
      else none
    encryptionKey := ready.encryptionKey.take 256
    isOutgoing := call.isOutgoing
    endpoints := ready.servers.filterMap reflectorEndpoint
    allowP2p := settings.udpP2p
    connectionMaxLayer := 92 }

/-- No handler stands around the construction of the controller. -/
def createTgVoip (env : Env) (call : Call) (ready : CallReady) : Act Unit := do
  emit (.action .createTgVoip)
  match env.voipController with
  | .error reason => throw (.pjError reason)
  | .ok () => do
      emit .controllerStart
      setCtx (fun ctx =>
        { ctx with controller := some (makeController env.settings call ready) })

def bridgeAudio (env : Env) : Act Unit := do
  emit (.action .bridgeAudio)
  match (← get).ctx.controller with
  | none => throw .nullDereference
  | some _ =>
      catchPjOrRuntime (clientBridgeAudio env (← get).ctx.sipCallId)
        (fun reason => enqueue (serverError reason))

def dialDtmf (env : Env) (digits : String) : Act Unit := do
  emit (.action .dialDtmf)
  catchPj (clientDialDtmf env (← get).ctx.sipCallId digits) (fun _ => emit .logError)

def second : Int := 1000000000

def setBlockUntil (instant : Int) : Act Unit :=
  modify (fun world => { world with blockUntil := instant })

/-- The sum of an `int` and an `unsigned int` is an `unsigned int`. -/
def retryWait (seconds : Nat) (settings : Settings) : Nat :=
  (UInt32.ofNat seconds + settings.extraWaitTime).toNat

def parseError (env : Env) (error : TdError) : Act Unit :=
  match searchRetryAfter error.message with
  | some digits =>
      match stoi digits with
      | .value seconds => setBlockUntil (env.later + second * retryWait seconds env.settings)
      | .outOfRange => throw (.outOfRange "stoi")
      | .invalidArgument => throw (.outOfRange "stoi")
  | none =>
      if searchPeerFlood error.message then
        setBlockUntil (env.later + second * env.settings.peerFloodTime.toNat)
      else pure ()

def dialError (statusCode : Nat) (reason : String) : CallOpParam :=
  { useDefaultCallSetting := true, statusCode := statusCode, reason := reason }

/-- The error branch that the three requests of `DialTg` share. -/
def dialFailed (env : Env) (error : TdError) : Act Unit := do
  emit .logError
  enqueue (dialError scInternalServerError (errorReason error))
  parseError env error

def dialById (env : Env) (id : Int) : Act Unit := do
  emit (.query (.createCall id (callProtocol env.settings) false) env.createCall)
  match env.createCall.error? with
  | some error => dialFailed env error
  | none =>
      match env.createCall.callId? with
      | none => throw .wrongObject
      | some callId => do
          emit (.associatedTg callId)
          setCtx (fun ctx => { ctx with tgCallId := callId })

def addPhone (phone : String) (userId : Int) : Act Unit :=
  modify (fun world =>
    { world with cache :=
      { world.cache with phoneCache := FiniteMap.emplace world.cache.phoneCache phone userId } })

def addUsername (username : String) (userId : Int) : Act Unit :=
  modify (fun world =>
    { world with cache :=
      { world.cache with
        usernameCache := FiniteMap.emplace world.cache.usernameCache username userId } })

def dialByPhone (env : Env) : Act Unit := do
  let phone := (← get).ctx.extPhone
  match (← get).cache.phoneCache phone with
  | some userId => dialById env userId
  | none => do
      emit (.query (.importContacts [phone]) env.importContacts)
      match env.importContacts.error? with
      | some error => dialFailed env error
      | none =>
          match env.importContacts.importedContacts? with
          | none => throw .wrongObject
          | some [] => throw .emptyVector
          | some (userId :: _) =>
              if userId = 0 then do
                emit .logError
                enqueue (dialError scNotFound "not registered in telegram")
              else do
                addPhone phone userId
                dialById env userId

def dialByUsername (env : Env) : Act Unit := do
  let username := (← get).ctx.extUsername
  match (← get).cache.usernameCache username with
  | some userId => dialById env userId
  | none => do
      emit (.query (.searchPublicChat username) env.searchPublicChat)
      match env.searchPublicChat.error? with
      | some error => dialFailed env error
      | none =>
          match env.searchPublicChat.chat? with
          | none => throw .wrongObject
          | some chat =>
              match chat.type with
              | .other => enqueue (dialError scInternalServerError "not a user")
              | .private => do
                  addUsername username chat.id
                  dialById env chat.id

def dialTg (env : Env) : Act Unit := do
  emit (.action .dialTg)
  let blockUntil := (← get).blockUntil
  if blockUntil > env.now then
    enqueue (serverError ("FLOOD_WAIT " ++ toString ((blockUntil - env.later).tdiv second)))
  else if !(← get).ctx.extUsername.isEmpty then dialByUsername env
  else if !(← get).ctx.extPhone.isEmpty then dialByPhone env
  else dialById env (← get).ctx.userId

end Tg2Sip.Cpp
