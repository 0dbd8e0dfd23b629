/-
`Gateway::search_call` and the four overloads of `Gateway::process_event`,
and the machine whose labels are the events the main loop dispatches.

boost::sml runs guards and actions in a `noexcept` function, so that a fault
in one of them ends the process: the outcome is then `terminated`, with the
effects produced before it.
-/

import Tg2Sip.Cpp.Machine
import Tg2Sip.Lib.Run

namespace Tg2Sip.Cpp

structure Bridge where
  ctx : Context
  state : SmState
  deriving DecidableEq, Repr

structure Gateway where
  pid : Nat
  ctxCounter : Nat
  bridges : List Bridge
  cache : Cache
  blockUntil : Int
  internalEvents : List InternalError
  sip : SipClient

/-- An effect with the id of the context it was produced for. -/
abbrev Logged := String × Effect

inductive Outcome where
  | returned (gateway : Gateway) (effects : List Logged)
  | terminated (fault : Fault) (effects : List Logged)

def Outcome.effects : Outcome → List Logged
  | .returned _ effects => effects
  | .terminated _ effects => effects

def tagged (ctxId : String) (effects : List Effect) : List Logged :=
  effects.map (fun effect => (ctxId, effect))

def ctxIdOf (pid counter : Nat) : String :=
  toString pid ++ "-" ++ toString counter

def Gateway.world (gateway : Gateway) (ctx : Context) : World :=
  { ctx := ctx
    cache := gateway.cache
    blockUntil := gateway.blockUntil
    internalEvents := gateway.internalEvents
    sip := gateway.sip
    trace := [] }

/-- The shared state as an action left it, with the given bridges. -/
def Gateway.absorb (gateway : Gateway) (world : World) (bridges : List Bridge) : Gateway :=
  { gateway with
    bridges := bridges
    cache := world.cache
    blockUntil := world.blockUntil
    internalEvents := world.internalEvents
    sip := world.sip }

/-- The bridges before the first one that satisfies the predicate, that
bridge, and the ones behind it. -/
def firstMatch (owns : Bridge → Bool) (bridges : List Bridge) :
    Option (List Bridge × Bridge × List Bridge) :=
  match bridges.dropWhile (fun bridge => !owns bridge) with
  | [] => none
  | bridge :: after => some (bridges.takeWhile (fun other => !owns other), bridge, after)

/-- Process the event in one bridge's machine and delete the bridge if the
machine has reached its terminal state. -/
def Gateway.deliver (gateway : Gateway) (env : Env) (event : Event)
    (before : List Bridge) (bridge : Bridge) (after : List Bridge) : Outcome :=
  match ((machine env).processEvent bridge.state event).run (gateway.world bridge.ctx) with
  | .error fault world => .terminated fault (tagged bridge.ctx.id (.handled event :: world.trace))
  | .ok state world =>
      if state = .x then
        .returned (gateway.absorb world (before ++ after))
          (tagged bridge.ctx.id (Effect.handled event :: world.trace ++ [Effect.deleted]))
      else
        .returned (gateway.absorb world (before ++ ⟨world.ctx, state⟩ :: after))
          (tagged bridge.ctx.id (.handled event :: world.trace))

def Gateway.newBridge (gateway : Gateway) : Bridge :=
  { ctx := { id := ctxIdOf gateway.pid (gateway.ctxCounter + 1) }
    state := .init }

def Outcome.after (effects : List Logged) : Outcome → Outcome
  | .returned gateway later => .returned gateway (effects ++ later)
  | .terminated fault later => .terminated fault (effects ++ later)

/-- `search_call` followed by the common part of its two callers. -/
def Gateway.searchCall (gateway : Gateway) (env : Env) (event : Event)
    (owns : Bridge → Bool) : Outcome :=
  match firstMatch owns gateway.bridges with
  | some (before, bridge, after) => gateway.deliver env event before bridge after
  | none =>
      (Gateway.deliver { gateway with ctxCounter := gateway.ctxCounter + 1 } env event
        gateway.bridges gateway.newBridge []).after [(gateway.newBridge.ctx.id, .created)]

def MessageSender.isUser : MessageSender → Bool
  | .user _ => true
  | .chat _ => false

def MessageSender.castUserId (env : Env) : MessageSender → Int
  | .user userId => userId
  | .chat chatId => env.chatAsUser chatId

/-- The message overload processes the event in the only bridge that matches
and does not look at the terminal state afterwards. -/
def Gateway.deliverMessage (gateway : Gateway) (env : Env) (message : Message)
    (owns : Bridge → Bool) (bridge : Bridge) : Outcome :=
  match ((machine env).processEvent bridge.state (.updateNewMessage message)).run
      (gateway.world bridge.ctx) with
  | .error fault world =>
      .terminated fault (tagged bridge.ctx.id (.handled (.updateNewMessage message) :: world.trace))
  | .ok state world =>
      .returned
        (gateway.absorb world
          (gateway.bridges.map (fun other => if owns other then ⟨world.ctx, state⟩ else other)))
        (tagged bridge.ctx.id (.handled (.updateNewMessage message) :: world.trace))

def Gateway.processMessage (gateway : Gateway) (env : Env) (message : Message) : Outcome :=
  if message.senderId.isUser then .returned gateway []
  else
    let owns : Bridge → Bool :=
      fun bridge => bridge.ctx.userId == message.senderId.castUserId env
    match gateway.bridges.filter owns with
    | [] => .returned gateway []
    | [bridge] => gateway.deliverMessage env message owns bridge
    | _ :: _ :: _ => .returned gateway []

def Gateway.processInternalError (gateway : Gateway) (env : Env) (error : InternalError) :
    Outcome :=
  match firstMatch (fun bridge => bridge.ctx.id == error.ctxId) gateway.bridges with
  | none => .returned gateway []
  | some (before, bridge, after) =>
      gateway.deliver env (.internalError error) before bridge after

def Gateway.processEvent (gateway : Gateway) (env : Env) (event : Event) : Outcome :=
  match event with
  | .updateCall call =>
      gateway.searchCall env event (fun bridge => bridge.ctx.tgCallId == call.id)
  | .updateNewMessage message => gateway.processMessage env message
  | .internalError error => gateway.processInternalError env error
  | .incomingCall id _ =>
      gateway.searchCall env event (fun bridge => bridge.ctx.sipCallId == id)
  | .callStateUpdate id _ =>
      gateway.searchCall env event (fun bridge => bridge.ctx.sipCallId == id)
  | .callMediaStateUpdate id _ =>
      gateway.searchCall env event (fun bridge => bridge.ctx.sipCallId == id)

/-- What happens between two states of the gateway: an event is dispatched,
the main loop pops the internal queue and dispatches what it finds, or the
pjsip threads change the call registry. -/
inductive Label where
  | dispatch (env : Env) (event : Event)
  | popInternal (env : Env)
  | pjsip (client : SipClient)

def Outcome.toStep : Outcome → Option (List Logged × Gateway)
  | .returned gateway effects => some (effects, gateway)
  | .terminated _ _ => none

def Gateway.step : LabelledMachine.Step Gateway Label Logged := fun gateway label =>
  match label with
  | .dispatch env event => (gateway.processEvent env event).toStep
  | .popInternal env =>
      match gateway.internalEvents with
      | [] => some ([], gateway)
      | error :: rest =>
          (Gateway.processInternalError { gateway with internalEvents := rest } env error).toStep
  | .pjsip client => some ([], { gateway with sip := client })

def Gateway.initial (pid : Nat) (cache : Cache) (started : Int) (client : SipClient) : Gateway :=
  { pid := pid
    ctxCounter := 0
    bridges := []
    cache := cache
    blockUntil := started
    internalEvents := []
    sip := client }

abbrev Transition := LabelledMachine.Transition Gateway Label Logged

abbrev Run (initial : Gateway) := LabelledMachine.Run Gateway.step initial

def Settings.sample : Settings := { callbackUri := "sip:callback" }

/-- Every request succeeds, and the clock stands still. -/
def Env.sample : Env :=
  { settings := .sample
    now := 0
    later := 0
    chatAsUser := id
    getUser := .user { firstName := "", lastName := "", username := "", phoneNumber := "" }
    acceptCall := .ok
    discardCall := .ok
    createCall := .callId 7
    importContacts := .importedContacts [42]
    searchPublicChat := .chat ⟨42, .private⟩
    makeCall := .ok 3
    voipController := .ok ()
    answer := .ok ()
    hangup := .ok ()
    audioMedia := .ok true
    startTransmit := .ok ()
    dialDtmf := .ok () }

/-- A freshly started gateway without contacts and without calls. -/
def Gateway.sample : Gateway :=
  Gateway.initial 1 ⟨FiniteMap.empty, FiniteMap.empty⟩ 0 ⟨FiniteMap.empty, 0⟩

end Tg2Sip.Cpp
