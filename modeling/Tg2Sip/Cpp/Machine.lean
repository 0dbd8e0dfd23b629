/-
The transition tables `from_tg`, `from_sip` and `StateMachine`, row by row in
the order of the source, and the machine they form: the rows of the composite
state's own table come first, and entering the terminal state cleans up.
-/

import Tg2Sip.Cpp.Actions
import Tg2Sip.Lib.StateTable

namespace Tg2Sip.Cpp

inductive FromTg where
  | sipWaitMedia
  | waitTg
  | waitDtmf
  deriving DecidableEq, Repr

inductive FromSip where
  | sipWaitConfirm
  | waitTg
  | sipWaitMedia
  | waitDtmf
  deriving DecidableEq, Repr

/-- `x` is the terminal state. -/
inductive SmState where
  | init
  | fromTg (state : FromTg)
  | fromSip (state : FromSip)
  | x
  deriving DecidableEq, Repr

def SmState.isFromTg : SmState → Bool
  | .fromTg _ => true
  | _ => false

def SmState.isFromSip : SmState → Bool
  | .fromSip _ => true
  | _ => false

abbrev Row := StateTable.Row SmState Event Act

def onUpdateCall (guard : Call → Bool) (action : Call → Act Unit) : Event → Option (Act Unit)
  | .updateCall call => if guard call then some (action call) else none
  | _ => none

def onReady (action : Call → CallReady → Act Unit) : Event → Option (Act Unit)
  | .updateCall call => call.state.ready?.map (action call)
  | _ => none

def onIncomingCall (action : Int → String → Act Unit) : Event → Option (Act Unit)
  | .incomingCall id ext => some (action id ext)
  | _ => none

def onCallState (guard : InvState → Bool) (action : Act Unit) : Event → Option (Act Unit)
  | .callStateUpdate _ state => if guard state then some action else none
  | _ => none

def onMedia (guard : Bool → Bool) (action : Act Unit) : Event → Option (Act Unit)
  | .callMediaStateUpdate _ hasMedia => if guard hasMedia then some action else none
  | _ => none

def onDtmfMessage (action : String → Act Unit) : Event → Option (Act Unit)
  | .updateNewMessage message => message.content.dtmf?.map action
  | _ => none

def onInternalError (action : InternalError → Act Unit) : Event → Option (Act Unit)
  | .internalError error => some (action error)
  | _ => none

def fromTg (env : Env) : List Row :=
  [ { source := fun state => state == .fromTg .sipWaitMedia
      accept := onMedia (fun hasMedia => hasMedia) (answerTg env)
      target := .fromTg .waitTg },
    { source := fun state => state == .fromTg .waitTg
      accept := onReady (fun call ready => do createTgVoip env call ready; bridgeAudio env)
      target := .fromTg .waitDtmf },
    { source := fun state => state == .fromTg .waitDtmf
      accept := onDtmfMessage (dialDtmf env)
      target := .fromTg .waitDtmf } ]

def fromSip (env : Env) : List Row :=
  [ { source := fun state => state == .fromSip .sipWaitConfirm
      accept := onCallState (fun state => state == .early) (dialTg env)
      target := .fromSip .waitTg },
    { source := fun state => state == .fromSip .waitTg
      accept := onReady (fun call ready => do
        storeTgUserId call
        createTgVoip env call ready
        answerSip env)
      target := .fromSip .sipWaitMedia },
    { source := fun state => state == .fromSip .sipWaitMedia
      accept := onMedia (fun hasMedia => hasMedia) (bridgeAudio env)
      target := .fromSip .waitDtmf },
    { source := fun state => state == .fromSip .waitDtmf
      accept := onDtmfMessage (dialDtmf env)
      target := .fromSip .waitDtmf } ]

def stateMachine (env : Env) : List Row :=
  [ { source := fun state => state == .init
      accept := onUpdateCall
        (fun call => isIncoming call && call.state.isPending && callbackUriIsSet env.settings)
        (fun call => do storeTgId call; storeTgUserId call; dialSip env call)
      target := .fromTg .sipWaitMedia },
    { source := fun state => state == .init
      accept := onUpdateCall
        (fun call => isIncoming call && call.state.isPending && !callbackUriIsSet env.settings)
        storeTgId
      target := .x },
    { source := fun state => state == .init
      accept := onUpdateCall (fun _ => true) (fun _ => pure ())
      target := .x },
    { source := fun state => state == .init
      accept := onIncomingCall (fun id ext => do storeSipId id; acceptIncomingSip env ext)
      target := .fromSip .sipWaitConfirm },
    { source := fun state => state == .init
      accept := onCallState (fun _ => true) (pure ())
      target := .x },
    { source := fun state => state == .init
      accept := onMedia (fun _ => true) (pure ())
      target := .x },
    { source := SmState.isFromTg
      accept := onUpdateCall (fun call => call.state.isOver) (fun _ => cleanTgId)
      target := .x },
    { source := SmState.isFromTg
      accept := onCallState (fun state => state == .disconnected) cleanSipId
      target := .x },
    { source := SmState.isFromTg
      accept := onInternalError setHangupPrm
      target := .x },
    { source := SmState.isFromSip
      accept := onUpdateCall (fun call => call.state.isOver) (fun _ => cleanTgId)
      target := .x },
    { source := SmState.isFromSip
      accept := onInternalError setHangupPrm
      target := .x },
    { source := SmState.isFromSip
      accept := onCallState (fun state => state == .disconnected) cleanSipId
      target := .x } ]

/-- `X + on_entry<_> / CleanUp{}`. -/
def onEntry (env : Env) : SmState → Act Unit
  | .x => cleanUp env
  | _ => pure ()

def machine (env : Env) : StateTable.Machine SmState Event Act :=
  { nested := fromTg env ++ fromSip env
    enclosing := stateMachine env
    onEntry := onEntry env }

end Tg2Sip.Cpp
