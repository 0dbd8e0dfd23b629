/-
The operations of `sip::Client` that the gateway thread calls, over the
registry `calls`, and the handler that pjsip runs for an incoming call.

`emplace` does not replace an entry, `Hangup` erases one only after the
`pj::Call` accepted the hangup, and no other operation removes an entry.
-/

import Tg2Sip.Cpp.Types
import Tg2Sip.Lib.Exceptions

namespace Tg2Sip.Cpp

/-- The code of an action: it may throw, and it keeps what it did before. -/
abbrev Act := EStateM Fault World

def World.emit (world : World) (effect : Effect) : World :=
  { world with trace := world.trace ++ [effect] }

def World.setCtx (world : World) (update : Context → Context) : World :=
  { world with ctx := update world.ctx }

def World.enqueue (world : World) (prm : CallOpParam) : World :=
  { world with internalEvents := world.internalEvents ++ [⟨world.ctx.id, prm⟩] }

def emit (effect : Effect) : Act Unit := modify (fun world => world.emit effect)

def setCtx (update : Context → Context) : Act Unit := modify (fun world => world.setCtx update)

/-- `internal_events.emplace(InternalError{ctx.id(), prm})`. -/
def enqueue (prm : CallOpParam) : Act Unit := modify (fun world => world.enqueue prm)

/-- `make_shared<Call>` followed by `calls.emplace(id, call)`. -/
def SipClient.register (client : SipClient) (id : Int) : SipClient :=
  { calls := FiniteMap.emplace client.calls id client.constructed
    constructed := client.constructed + 1 }

def SipClient.discard (client : SipClient) : SipClient :=
  { client with constructed := client.constructed + 1 }

def SipClient.forget (client : SipClient) (id : Int) : SipClient :=
  { client with calls := FiniteMap.erase client.calls id }

/-- `Client::Dial`: the id is known only after `makeCall`. -/
def clientDial (env : Env) (uri : String) (prm : CallOpParam) : Act Int := do
  emit (.dial uri prm env.makeCall)
  match env.makeCall with
  | .error reason => do
      modify (fun world => { world with sip := world.sip.discard })
      throw (.pjError reason)
  | .ok id => do
      modify (fun world => { world with sip := world.sip.register id })
      pure id

/-- `Client::Hangup`: an unknown id is ignored. -/
def clientHangup (env : Env) (id : Int) (prm : CallOpParam) : Act Unit := do
  match (← get).sip.calls id with
  | none => emit (.sip (.hangup id prm) none none)
  | some call =>
      match env.hangup with
      | .error reason => do
          emit (.sip (.hangup id prm) (some call) (some (.pjError reason)))
          throw (.pjError reason)
      | .ok () => do
          emit (.sip (.hangup id prm) (some call) none)
          modify (fun world => { world with sip := world.sip.forget id })

/-- Look the id up, fail with `CALL_NOT_FOUND`, and otherwise run the
operation on the `Call` object, which succeeds or throws `failure`. -/
def clientOp (op : SipOp) (failure : Option Fault) : Act Unit := do
  match (← get).sip.calls op.id with
  | none => do
      emit (.sip op none (some (.runtimeError "CALL_NOT_FOUND")))
      throw (.runtimeError "CALL_NOT_FOUND")
  | some call => do
      emit (.sip op (some call) failure)
      match failure with
      | none => pure ()
      | some fault => throw fault

def PjResult.fault {Value : Type} : PjResult Value → Option Fault
  | .ok _ => none
  | .error reason => some (.pjError reason)

def clientAnswer (env : Env) (id : Int) (prm : CallOpParam) : Act Unit :=
  clientOp (.answer id prm) env.answer.fault

/-- `audio_media` may throw or find no audio, and each `startTransmit` may
throw; `startTransmit` is the first of the two that does. -/
def bridgeFault (env : Env) : Option Fault :=
  match env.audioMedia with
  | .error reason => some (.pjError reason)
  | .ok false => some (.runtimeError "SIP_MEDIA_NOT_READY")
  | .ok true => env.startTransmit.fault

def clientBridgeAudio (env : Env) (id : Int) : Act Unit :=
  clientOp (.bridgeAudio id) (bridgeFault env)

def clientDialDtmf (env : Env) (id : Int) (digits : String) : Act Unit :=
  clientOp (.dialDtmf id digits) env.dialDtmf.fault

@[simp] theorem run_emit (effect : Effect) (world : World) :
    (emit effect).run world = .ok () (world.emit effect) := rfl

@[simp] theorem run_setCtx (update : Context → Context) (world : World) :
    (setCtx update).run world = .ok () (world.setCtx update) := rfl

@[simp] theorem run_enqueue (prm : CallOpParam) (world : World) :
    (enqueue prm).run world = .ok () (world.enqueue prm) := rfl

theorem run_clientDial (env : Env) (uri : String) (prm : CallOpParam) (world : World) :
    (clientDial env uri prm).run world =
      match env.makeCall with
      | .error reason =>
          .error (.pjError reason)
            { world.emit (.dial uri prm (.error reason)) with sip := world.sip.discard }
      | .ok id =>
          .ok id { world.emit (.dial uri prm (.ok id)) with sip := world.sip.register id } := by
  unfold clientDial
  cases env.makeCall with
  | ok id => rfl
  | error reason => rfl

theorem run_clientHangup (env : Env) (id : Int) (prm : CallOpParam) (world : World) :
    (clientHangup env id prm).run world =
      match world.sip.calls id, env.hangup with
      | none, _ => .ok () (world.emit (.sip (.hangup id prm) none none))
      | some call, .error reason =>
          .error (.pjError reason)
            (world.emit (.sip (.hangup id prm) (some call) (some (.pjError reason))))
      | some call, .ok () =>
          .ok () { world.emit (.sip (.hangup id prm) (some call) none) with
            sip := world.sip.forget id } := by
  unfold clientHangup
  cases found : world.sip.calls id with
  | none => simp [found]
  | some call => cases env.hangup <;> simp [found, World.emit]

theorem run_clientOp (op : SipOp) (failure : Option Fault) (world : World) :
    (clientOp op failure).run world =
      match world.sip.calls op.id, failure with
      | none, _ =>
          .error (.runtimeError "CALL_NOT_FOUND")
            (world.emit (.sip op none (some (.runtimeError "CALL_NOT_FOUND"))))
      | some call, none => .ok () (world.emit (.sip op (some call) none))
      | some call, some fault =>
          .error fault (world.emit (.sip op (some call) (some fault))) := by
  unfold clientOp
  cases found : world.sip.calls op.id with
  | none => simp [found]
  | some call => cases failure <;> simp [found]

end Tg2Sip.Cpp
