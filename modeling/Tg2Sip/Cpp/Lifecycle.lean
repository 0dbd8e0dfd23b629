/-
The life of one bridge.

`Life` lists what one event does to one state machine: the row that fires, the
context and the effects behind it, and the errors it queues.  The rows that
enter the terminal state are gathered in `Removal`, because all of them end in
`CleanUp`.  Every event that `process_event` returns from is an instance of
`Life`, and everything said about runs is derived from that relation.
-/

import Tg2Sip.Cpp.Dispatch
import Tg2Sip.Cpp.DialTg

namespace Tg2Sip.Cpp

def initRow (env : Env) : Event → Option (SmState × Act Unit)
  | .updateCall call =>
      if isIncoming call && call.state.isPending then
        if callbackUriIsSet env.settings then
          some (.fromTg .sipWaitMedia,
            do storeTgId call; storeTgUserId call; dialSip env call)
        else some (.x, storeTgId call)
      else some (.x, pure ())
  | .incomingCall id ext =>
      some (.fromSip .sipWaitConfirm, do storeSipId id; acceptIncomingSip env ext)
  | .callStateUpdate _ _ => some (.x, pure ())
  | .callMediaStateUpdate _ _ => some (.x, pure ())
  | .updateNewMessage _ => none
  | .internalError _ => none

/-- The rows that the two composite states have in common. -/
def endRow : Event → Option (SmState × Act Unit)
  | .updateCall call => if call.state.isOver then some (.x, cleanTgId) else none
  | .callStateUpdate _ state => if state == .disconnected then some (.x, cleanSipId) else none
  | .internalError error => some (.x, setHangupPrm error)
  | .incomingCall _ _ => none
  | .callMediaStateUpdate _ _ => none
  | .updateNewMessage _ => none

def setupRow (env : Env) : SmState → Event → Option (SmState × Act Unit)
  | .fromTg .sipWaitMedia, .callMediaStateUpdate _ hasMedia =>
      if hasMedia then some (.fromTg .waitTg, answerTg env) else none
  | .fromTg .waitTg, .updateCall call =>
      call.state.ready?.map (fun ready =>
        (.fromTg .waitDtmf, do createTgVoip env call ready; bridgeAudio env))
  | .fromTg .waitDtmf, .updateNewMessage message =>
      message.content.dtmf?.map (fun digits => (.fromTg .waitDtmf, dialDtmf env digits))
  | .fromSip .sipWaitConfirm, .callStateUpdate _ state =>
      if state == .early then some (.fromSip .waitTg, dialTg env) else none
  | .fromSip .waitTg, .updateCall call =>
      call.state.ready?.map (fun ready =>
        (.fromSip .sipWaitMedia,
          do storeTgUserId call; createTgVoip env call ready; answerSip env))
  | .fromSip .sipWaitMedia, .callMediaStateUpdate _ hasMedia =>
      if hasMedia then some (.fromSip .waitDtmf, bridgeAudio env) else none
  | .fromSip .waitDtmf, .updateNewMessage message =>
      message.content.dtmf?.map (fun digits => (.fromSip .waitDtmf, dialDtmf env digits))
  | _, _ => none

theorem select_init (env : Env) (event : Event) :
    (machine env).select .init event = initRow env event := by
  unfold StateTable.Machine.select
  cases event with
  | updateCall call =>
      cases incoming : isIncoming call <;> cases pending : call.state.isPending <;>
        cases uri : callbackUriIsSet env.settings <;>
        simp [machine, fromTg, fromSip, stateMachine, StateTable.Row.fire, initRow,
          onUpdateCall, incoming, pending, uri]
  | _ =>
      simp [machine, fromTg, fromSip, stateMachine, StateTable.Row.fire, initRow,
        onUpdateCall, onIncomingCall, onCallState, onMedia, SmState.isFromTg, SmState.isFromSip]

theorem select_fromTg (env : Env) (state : FromTg) (event : Event) :
    (machine env).select (.fromTg state) event =
      (setupRow env (.fromTg state) event).or (endRow event) := by
  unfold StateTable.Machine.select
  simp only [machine, fromTg, fromSip, stateMachine, List.cons_append, List.nil_append,
    StateTable.findSome_fire_cons, List.findSome?_nil]
  cases state <;> cases event <;>
    simp [StateTable.Row.fire, setupRow, endRow, onUpdateCall, onCallState, onMedia,
      onReady, onDtmfMessage, onInternalError, SmState.isFromTg, SmState.isFromSip,
      Function.comp_def]

theorem select_fromSip (env : Env) (state : FromSip) (event : Event) :
    (machine env).select (.fromSip state) event =
      (setupRow env (.fromSip state) event).or (endRow event) := by
  unfold StateTable.Machine.select
  simp only [machine, fromTg, fromSip, stateMachine, List.cons_append, List.nil_append,
    StateTable.findSome_fire_cons, List.findSome?_nil]
  cases state <;> cases event <;>
    simp [StateTable.Row.fire, setupRow, endRow, onUpdateCall, onCallState, onMedia,
      onReady, onDtmfMessage, onInternalError, SmState.isFromTg, SmState.isFromSip,
      Function.comp_def]

theorem select_x (env : Env) (event : Event) : (machine env).select .x event = none := by
  unfold StateTable.Machine.select
  cases event <;>
    simp [machine, fromTg, fromSip, stateMachine, StateTable.Row.fire, SmState.isFromTg,
      SmState.isFromSip]

/-- What an event does: the machine state and the context behind it, its
effects, the errors it queues for the context, and the shared cache and flood
block behind it. -/
structure Change where
  state : SmState
  ctx : Context
  effects : List Effect
  errors : List CallOpParam
  cache : Cache
  blockUntil : Int

def World.moved (world : World) (state : SmState) (ctx : Context) (effects : List Effect)
    (errors : List CallOpParam) : Change :=
  { state := state
    ctx := ctx
    effects := effects
    errors := errors
    cache := world.cache
    blockUntil := world.blockUntil }

def closingEffects (env : Env) (client : SipClient) (ctx : Context) : List Effect :=
  cleanUpEffects ctx env.discardCall (client.calls ctx.sipCallId)
    (hangupFailure env (client.calls ctx.sipCallId))

def World.closed (env : Env) (world : World) (ctx : Context) (announced : List Effect) : Change :=
  world.moved .x { ctx with tgCallId := 0, sipCallId := invalidId }
    (announced ++ closingEffects env world.sip ctx) []

/-- The rows that enter the terminal state, with the context that `CleanUp`
finds and the effects before it. -/
inductive Removal (env : Env) (ctx : Context) :
    SmState → Event → Context → List Effect → Prop where
  | noCallback {call : Call} : isIncoming call = true → call.state.isPending = true →
      callbackUriIsSet env.settings = false →
      Removal env ctx .init (.updateCall call) { ctx with tgCallId := call.id }
        [.action .storeTgId, .associatedTg call.id]
  | unknownCall {call : Call} : (isIncoming call && call.state.isPending) = false →
      Removal env ctx .init (.updateCall call) ctx []
  | unknownState {id : Int} {state : InvState} :
      Removal env ctx .init (.callStateUpdate id state) ctx []
  | unknownMedia {id : Int} {hasMedia : Bool} :
      Removal env ctx .init (.callMediaStateUpdate id hasMedia) ctx []
  | ended {state : SmState} {call : Call} : state.isFromTg || state.isFromSip →
      call.state.isOver = true →
      Removal env ctx state (.updateCall call) { ctx with tgCallId := 0 } [.action .cleanTgId]
  | disconnected {state : SmState} {id : Int} : state.isFromTg || state.isFromSip →
      Removal env ctx state (.callStateUpdate id .disconnected)
        { ctx with sipCallId := invalidId } [.action .cleanSipId]
  | failed {state : SmState} {error : InternalError} : state.isFromTg || state.isFromSip →
      Removal env ctx state (.internalError error) { ctx with hangupPrm := error.prm }
        [.action .setHangupPrm]

def World.sipFailure (world : World) (failure : Option Fault) : Option Fault :=
  opFailure world world.ctx.sipCallId failure

def World.sipEffect (world : World) (op : SipOp) (failure : Option Fault) : Effect :=
  .sip op (world.sip.calls op.id) failure

/-- The common part of the two rows that a ready call fires. -/
def voipEffects : List Effect := [.action .createTgVoip, .controllerStart]

def Context.withVoip (ctx : Context) (env : Env) (call : Call) (ready : CallReady) : Context :=
  { ctx with controller := some (makeController env.settings call ready) }

def Context.dialling (ctx : Context) (call : Call) : Context :=
  { ctx with tgCallId := call.id, userId := call.userId }

/-- The effects of a Telegram call that is passed on to SIP, up to the answer of `makeCall`. -/
def diallingEffects (env : Env) (ctx : Context) (call : Call) (user : User) : List Effect :=
  [.action .storeTgId, .associatedTg call.id, .action .storeTgUserId, .action .dialSip,
    .query (.getUser call.userId) (.user user),
    .dial env.settings.callbackUri (dialSipPrm ctx.id call.userId user) env.makeCall]

inductive Life (env : Env) (world : World) : SmState → Event → Change → Prop where
  | dialled {call : Call} {user : User} {id : Int} :
      isIncoming call = true → call.state.isPending = true →
      callbackUriIsSet env.settings = true → env.getUser = .user user →
      env.makeCall = .ok id →
      Life env world .init (.updateCall call)
        (world.moved (.fromTg .sipWaitMedia)
          { world.ctx.dialling call with sipCallId := id }
          (diallingEffects env world.ctx call user ++ [Effect.associatedSip id]) [])
  | undialled {call : Call} {user : User} {reason : String} :
      isIncoming call = true → call.state.isPending = true →
      callbackUriIsSet env.settings = true → env.getUser = .user user →
      env.makeCall = .error reason →
      Life env world .init (.updateCall call)
        (world.moved (.fromTg .sipWaitMedia) (world.ctx.dialling call)
          (diallingEffects env world.ctx call user) [serverError reason])
  | accepted {id : Int} {ext : String} {parsed : Context} :
      parseExtension ext { world.ctx with sipCallId := id } = some parsed →
      Life env world .init (.incomingCall id ext)
        (world.moved (.fromSip .sipWaitConfirm) parsed
          [.action .storeSipId, .associatedSip id, .action .acceptIncomingSip,
            .sip (.answer id ringingPrm) (world.sip.calls id)
              (opFailure world id env.answer.fault)]
          (failureErrors (opFailure world id env.answer.fault)))
  | badExtension {id : Int} {ext : String} :
      parseExtension ext { world.ctx with sipCallId := id } = none →
      Life env world .init (.incomingCall id ext)
        (world.moved (.fromSip .sipWaitConfirm) { world.ctx with sipCallId := id }
          [.action .storeSipId, .associatedSip id, .action .acceptIncomingSip]
          [{ statusCode := scBadExtension }])
  | answeredTg {id : Int} :
      Life env world (.fromTg .sipWaitMedia) (.callMediaStateUpdate id true)
        (world.moved (.fromTg .waitTg) world.ctx
          ([Effect.action .answerTg,
            .query (.acceptCall world.ctx.tgCallId (callProtocol env.settings))
              env.acceptCall] ++ failureLog env.acceptCall.error?.isSome)
          (env.acceptCall.error?.toList.map (fun error => serverError (errorReason error))))
  | readyTg {call : Call} {ready : CallReady} : call.state.ready? = some ready →
      Life env world (.fromTg .waitTg) (.updateCall call)
        (world.moved (.fromTg .waitDtmf) (world.ctx.withVoip env call ready)
          (voipEffects ++ [Effect.action .bridgeAudio,
            world.sipEffect (.bridgeAudio world.ctx.sipCallId)
              (world.sipFailure (bridgeFault env))])
          (failureErrors (world.sipFailure (bridgeFault env))))
  | dialledTg {id : Int} {effects : List Effect} {tg : Option Int}
      {errors : List CallOpParam} {cache : Cache} {block : Int} :
      DialTrace env world.ctx world.cache world.blockUntil effects tg errors cache block →
      Life env world (.fromSip .sipWaitConfirm) (.callStateUpdate id .early)
        { state := .fromSip .waitTg
          ctx := world.ctx.withTg tg
          effects := .action .dialTg :: effects
          errors := errors
          cache := cache
          blockUntil := block }
  | readySip {call : Call} {ready : CallReady} : call.state.ready? = some ready →
      Life env world (.fromSip .waitTg) (.updateCall call)
        (world.moved (.fromSip .sipWaitMedia)
          ({ world.ctx with userId := call.userId }.withVoip env call ready)
          (.action .storeTgUserId :: (voipEffects ++ [Effect.action .answerSip,
            world.sipEffect (.answer world.ctx.sipCallId okPrm)
              (world.sipFailure env.answer.fault)]))
          (failureErrors (world.sipFailure env.answer.fault)))
  | bridgedSip {id : Int} : world.ctx.controller.isSome = true →
      Life env world (.fromSip .sipWaitMedia) (.callMediaStateUpdate id true)
        (world.moved (.fromSip .waitDtmf) world.ctx
          [.action .bridgeAudio,
            world.sipEffect (.bridgeAudio world.ctx.sipCallId)
              (world.sipFailure (bridgeFault env))]
          (failureErrors (world.sipFailure (bridgeFault env))))
  | dtmf {state : SmState} {message : Message} {digits : String} {ref : CallRef} :
      state = .fromTg .waitDtmf ∨ state = .fromSip .waitDtmf →
      message.content.dtmf? = some digits →
      world.sip.calls world.ctx.sipCallId = some ref →
      Life env world state (.updateNewMessage message)
        (world.moved state world.ctx
          ([Effect.action .dialDtmf,
            .sip (.dialDtmf world.ctx.sipCallId digits) (some ref) env.dialDtmf.fault] ++
            failureLog env.dialDtmf.fault.isSome) [])
  | ignored {state : SmState} {event : Event} : (machine env).select state event = none →
      Life env world state event (world.moved state world.ctx [] [])
  | removed {state : SmState} {event : Event} {ctx : Context} {announced : List Effect} :
      Removal env world.ctx state event ctx announced →
      Life env world state event (World.closed env world ctx announced)

/-! ### Every event that is processed is an instance -/

def Change.behind (change : Change) (world : World) : World :=
  (world.after change.ctx change.effects change.errors).withBlock change.cache change.blockUntil

theorem World.behind_moved (world : World) (state : SmState) (ctx : Context)
    (effects : List Effect) (errors : List CallOpParam) :
    (world.moved state ctx effects errors).behind world = world.after ctx effects errors := rfl

def Lives (env : Env) (world : World) (state : SmState) (event : Event) (target : SmState)
    (last : World) : Prop :=
  ∃ change, Life env world state event change ∧ target = change.state ∧
    last = change.behind world

theorem onEntry_of_ne (env : Env) {target : SmState} (notOver : target ≠ .x) :
    (machine env).onEntry target = pure () := by
  cases target with
  | x => exact absurd rfl notOver
  | _ => rfl

theorem row_returned {env : Env} {target entered : SmState} {action : Act Unit}
    {world last : World} (notOver : target ≠ .x)
    (returned : (do action; (machine env).onEntry target; pure target : Act SmState).run world =
      .ok entered last) :
    action.run world = .ok () last := by
  rw [onEntry_of_ne env notOver] at returned
  obtain ⟨_, between, performed, rest⟩ := Exceptions.bind_ok returned
  cases rest
  exact performed

theorem run_removal {env : Env} {action : Act Unit} {world : World} (ctx : Context)
    (announced : List Effect)
    (performed : action.run world = .ok () (world.after ctx announced []))
    (sameId : ctx.id = world.ctx.id)
    (silent : announced.foldl SipClient.apply world.sip = world.sip) :
    (do action; (machine env).onEntry .x; pure .x : Act SmState).run world =
      .ok .x ((World.closed env world ctx announced).behind world) := by
  change (do action; cleanUp env; pure .x : Act SmState).run world = _
  rw [EStateM.run_bind, performed]
  simp only [EStateM.run_bind, run_cleanUp, EStateM.run_pure, World.after_after world sameId,
    World.after_ctx, World.after_sip, silent]
  rfl

theorem life_dialling {env : Env} {call : Call} {world last : World}
    (incoming : isIncoming call = true) (pending : call.state.isPending = true)
    (uri : callbackUriIsSet env.settings = true)
    (returned : (do storeTgId call; storeTgUserId call; dialSip env call : Act Unit).run world =
      .ok () last) :
    Lives env world .init (.updateCall call) (.fromTg .sipWaitMedia) last := by
  simp only [EStateM.run_bind, run_storeTgId, run_storeTgUserId, run_dialSip, World.after_ctx,
    World.after_after] at returned
  cases answered : env.getUser <;>
    simp only [answered, Object.error?, Object.user?, reduceCtorEq] at returned
  case user user =>
    cases dialled : env.makeCall with
    | ok id =>
        simp only [dialled] at returned
        cases returned
        refine ⟨_, .dialled incoming pending uri answered dialled, rfl, ?_⟩
        rw [World.behind_moved]
        simp [diallingEffects, dialled, Context.dialling]
    | error reason =>
        simp only [dialled] at returned
        cases returned
        refine ⟨_, .undialled incoming pending uri answered dialled, rfl, ?_⟩
        rw [World.behind_moved]
        simp [diallingEffects, dialled, Context.dialling]

theorem life_incoming {env : Env} {id : Int} {ext : String} {world last : World}
    (returned : (do storeSipId id; acceptIncomingSip env ext : Act Unit).run world =
      .ok () last) :
    Lives env world .init (.incomingCall id ext) (.fromSip .sipWaitConfirm) last := by
  simp only [EStateM.run_bind, run_storeSipId, run_acceptIncomingSip, World.after_ctx]
    at returned
  cases valid : parseExtension ext { world.ctx with sipCallId := id } with
  | none =>
      simp only [valid, World.after_after] at returned
      cases returned
      exact ⟨_, .badExtension valid, rfl, rfl⟩
  | some parsed =>
      simp only [valid, World.after_after] at returned
      cases returned
      exact ⟨_, .accepted valid, rfl, rfl⟩

theorem life_init {env : Env} {event : Event} {world last : World} {target : SmState}
    {action : Act Unit} (selected : initRow env event = some (target, action))
    (returned : (do action; (machine env).onEntry target; pure target : Act SmState).run world =
      .ok target last) :
    Lives env world .init event target last := by
  have idle : (pure () : Act Unit).run world = .ok () (world.after world.ctx [] []) := by
    simp [World.after]
  cases event with
  | updateNewMessage message => cases selected
  | internalError error => cases selected
  | callStateUpdate id state =>
      cases selected
      rw [run_removal world.ctx [] idle rfl rfl] at returned
      cases returned
      exact ⟨_, .removed .unknownState, rfl, rfl⟩
  | callMediaStateUpdate id hasMedia =>
      cases selected
      rw [run_removal world.ctx [] idle rfl rfl] at returned
      cases returned
      exact ⟨_, .removed .unknownMedia, rfl, rfl⟩
  | incomingCall id ext =>
      cases selected
      exact life_incoming (row_returned (by simp) returned)
  | updateCall call =>
      cases pending : isIncoming call && call.state.isPending with
      | false =>
          simp only [initRow, pending, Bool.false_eq_true, if_false] at selected
          cases selected
          rw [run_removal world.ctx [] idle rfl rfl] at returned
          cases returned
          exact ⟨_, .removed (.unknownCall pending), rfl, rfl⟩
      | true =>
          obtain ⟨incoming, waiting⟩ := Bool.and_eq_true_iff.mp pending
          simp only [initRow, pending, if_true] at selected
          cases uri : callbackUriIsSet env.settings with
          | true =>
              simp only [uri, if_true] at selected
              cases selected
              exact life_dialling incoming waiting uri (row_returned (by simp) returned)
          | false =>
              simp only [uri, Bool.false_eq_true, if_false] at selected
              cases selected
              rw [run_removal _ _ (run_storeTgId call world) rfl rfl] at returned
              cases returned
              exact ⟨_, .removed (.noCallback incoming waiting uri), rfl, rfl⟩

theorem life_end {env : Env} {state : SmState} {event : Event} {world last : World}
    {target : SmState} {action : Act Unit} (composite : state.isFromTg || state.isFromSip)
    (selected : endRow event = some (target, action))
    (returned : (do action; (machine env).onEntry target; pure target : Act SmState).run world =
      .ok target last) :
    Lives env world state event target last := by
  cases event with
  | incomingCall id ext => cases selected
  | callMediaStateUpdate id hasMedia => cases selected
  | updateNewMessage message => cases selected
  | internalError error =>
      cases selected
      rw [run_removal _ _ (run_setHangupPrm error world) rfl rfl] at returned
      cases returned
      exact ⟨_, .removed (.failed composite), rfl, rfl⟩
  | callStateUpdate id state =>
      simp only [endRow] at selected
      split at selected
      · rename_i closed
        obtain rfl := eq_of_beq closed
        cases selected
        rw [run_removal _ _ (run_cleanSipId world) rfl rfl] at returned
        cases returned
        exact ⟨_, .removed (.disconnected composite), rfl, rfl⟩
      · cases selected
  | updateCall call =>
      simp only [endRow] at selected
      split at selected
      · rename_i closed
        cases selected
        rw [run_removal _ _ (run_cleanTgId world) rfl rfl] at returned
        cases returned
        exact ⟨_, .removed (.ended composite closed), rfl, rfl⟩
      · cases selected

theorem life_dtmf {env : Env} {state : SmState} {message : Message} {digits : String}
    {world last : World} (waiting : state = .fromTg .waitDtmf ∨ state = .fromSip .waitDtmf)
    (valid : message.content.dtmf? = some digits)
    (returned : (dialDtmf env digits).run world = .ok () last) :
    Lives env world state (.updateNewMessage message) state last := by
  rw [run_dialDtmf] at returned
  cases found : world.sip.calls world.ctx.sipCallId with
  | none =>
      rw [found] at returned
      cases returned
  | some ref =>
      rw [found] at returned
      cases returned
      exact ⟨_, .dtmf waiting valid found, rfl, rfl⟩

theorem life_readyTg {env : Env} {call : Call} {ready : CallReady} {world last : World}
    (reached : call.state.ready? = some ready)
    (returned : (do createTgVoip env call ready; bridgeAudio env : Act Unit).run world =
      .ok () last) :
    Lives env world (.fromTg .waitTg) (.updateCall call) (.fromTg .waitDtmf) last := by
  rw [EStateM.run_bind, run_createTgVoip] at returned
  cases constructed : env.voipController with
  | error reason =>
      rw [constructed] at returned
      cases returned
  | ok done =>
      simp only [constructed, run_bridgeAudio, World.after_ctx, Option.isSome_some, if_true,
        World.after_after] at returned
      cases returned
      exact ⟨_, .readyTg reached, rfl, rfl⟩

theorem life_readySip {env : Env} {call : Call} {ready : CallReady} {world last : World}
    (reached : call.state.ready? = some ready)
    (returned : (do storeTgUserId call; createTgVoip env call ready; answerSip env :
      Act Unit).run world = .ok () last) :
    Lives env world (.fromSip .waitTg) (.updateCall call) (.fromSip .sipWaitMedia) last := by
  simp only [EStateM.run_bind, run_storeTgUserId, run_createTgVoip] at returned
  cases constructed : env.voipController with
  | error reason =>
      rw [constructed] at returned
      cases returned
  | ok done =>
      simp only [constructed, run_answerSip, World.after_ctx, World.after_after] at returned
      cases returned
      exact ⟨_, .readySip reached, rfl, rfl⟩

theorem life_bridgedSip {env : Env} {id : Int} {world last : World}
    (returned : (bridgeAudio env).run world = .ok () last) :
    Lives env world (.fromSip .sipWaitMedia) (.callMediaStateUpdate id true)
      (.fromSip .waitDtmf) last := by
  rw [run_bridgeAudio] at returned
  split at returned
  · rename_i present
    cases returned
    exact ⟨_, .bridgedSip present, rfl, rfl⟩
  · cases returned

theorem life_dialledTg {env : Env} {id : Int} {world last : World}
    (returned : (dialTg env).run world = .ok () last) :
    Lives env world (.fromSip .sipWaitConfirm) (.callStateUpdate id .early)
      (.fromSip .waitTg) last := by
  obtain ⟨effects, tg, errors, cache, block, traced, rfl⟩ := dialTg_returned returned
  exact ⟨_, .dialledTg traced, rfl, rfl⟩

theorem life_setup {env : Env} {state : SmState} {event : Event} {world last : World}
    {target : SmState} {action : Act Unit}
    (selected : setupRow env state event = some (target, action))
    (returned : (do action; (machine env).onEntry target; pure target : Act SmState).run world =
      .ok target last) :
    Lives env world state event target last := by
  unfold setupRow at selected
  split at selected
  · split at selected
    · rename_i media
      subst media
      cases selected
      have performed := row_returned (by simp) returned
      rw [run_answerTg] at performed
      cases performed
      exact ⟨_, .answeredTg, rfl, rfl⟩
    · cases selected
  · obtain ⟨ready, reached, row⟩ := Option.map_eq_some_iff.mp selected
    cases row
    exact life_readyTg reached (row_returned (by simp) returned)
  · obtain ⟨digits, valid, row⟩ := Option.map_eq_some_iff.mp selected
    cases row
    exact life_dtmf (.inl rfl) valid (row_returned (by simp) returned)
  · split at selected
    · rename_i early
      obtain rfl := eq_of_beq early
      cases selected
      exact life_dialledTg (row_returned (by simp) returned)
    · cases selected
  · obtain ⟨ready, reached, row⟩ := Option.map_eq_some_iff.mp selected
    cases row
    exact life_readySip reached (row_returned (by simp) returned)
  · split at selected
    · rename_i media
      subst media
      cases selected
      exact life_bridgedSip (row_returned (by simp) returned)
    · cases selected
  · obtain ⟨digits, valid, row⟩ := Option.map_eq_some_iff.mp selected
    cases row
    exact life_dtmf (.inr rfl) valid (row_returned (by simp) returned)
  · cases selected

theorem life_composite {env : Env} {state : SmState} {event : Event} {world last : World}
    {target : SmState} {action : Act Unit} (composite : state.isFromTg || state.isFromSip)
    (selected : (setupRow env state event).or (endRow event) = some (target, action))
    (returned : (do action; (machine env).onEntry target; pure target : Act SmState).run world =
      .ok target last) :
    Lives env world state event target last := by
  rcases Option.or_eq_some_iff.mp selected with setup | ⟨_, common⟩
  · exact life_setup setup returned
  · exact life_end composite common returned

theorem processEvent_lives {env : Env} {state : SmState} {event : Event} {world last : World}
    {target : SmState}
    (returned : ((machine env).processEvent state event).run world = .ok target last) :
    Lives env world state event target last := by
  cases selected : (machine env).select state event with
  | none =>
      rw [StateTable.Machine.processEvent_of_select_none selected] at returned
      cases returned
      refine ⟨_, .ignored selected, rfl, ?_⟩
      simp [World.behind_moved, World.after]
  | some row =>
      obtain ⟨entered, action⟩ := row
      rw [StateTable.Machine.processEvent_of_select_some selected] at returned
      obtain rfl : target = entered := by
        obtain ⟨_, _, _, rest⟩ := Exceptions.bind_ok returned
        obtain ⟨_, _, _, last⟩ := Exceptions.bind_ok rest
        cases last
        rfl
      cases state with
      | init =>
          rw [select_init] at selected
          exact life_init selected returned
      | fromTg state =>
          rw [select_fromTg] at selected
          exact life_composite rfl selected returned
      | fromSip state =>
          rw [select_fromSip] at selected
          exact life_composite rfl selected returned
      | x =>
          rw [select_x] at selected
          cases selected

theorem Life.message_keeps_state {env : Env} {world : World} {state : SmState}
    {message : Message} {change : Change}
    (life : Life env world state (.updateNewMessage message) change) :
    change.state = state := by
  cases life with
  | dtmf waiting valid found => rfl
  | ignored unselected => rfl
  | removed removal => cases removal

theorem Removal.keeps_id {env : Env} {ctx closing : Context} {state : SmState} {event : Event}
    {announced : List Effect} (removal : Removal env ctx state event closing announced) :
    closing.id = ctx.id := by
  cases removal <;> rfl

theorem Life.keeps_id {env : Env} {world : World} {state : SmState} {event : Event}
    {change : Change} (life : Life env world state event change) :
    change.ctx.id = world.ctx.id := by
  cases life with
  | accepted valid => exact (parseExtension_keeps valid).1
  | dialledTg traced => exact Context.withTg_id _ _
  | removed removal => exact removal.keeps_id
  | _ => rfl

/-- Only a removal enters the terminal state. -/
theorem Life.closed {env : Env} {world : World} {state : SmState} {event : Event}
    {change : Change} (life : Life env world state event change) (live : state ≠ .x)
    (closed : change.state = .x) :
    ∃ ctx announced, Removal env world.ctx state event ctx announced ∧
      change = World.closed env world ctx announced := by
  cases life with
  | removed removal => exact ⟨_, _, removal, rfl⟩
  | ignored unselected => exact absurd closed live
  | dtmf waiting valid found => exact absurd closed live
  | _ => cases closed

theorem mem_closingEffects {env : Env} {client : SipClient} {ctx : Context} {effect : Effect}
    (member : effect ∈ closingEffects env client ctx) :
    effect = .action .cleanUp ∨ effect = .controllerStop ∨ effect = .logError ∨
      effect = .query (.discardCall ctx.tgCallId false 0 false ctx.tgCallId) env.discardCall ∨
      effect = .sip (.hangup ctx.sipCallId ctx.hangupPrm) (client.calls ctx.sipCallId)
        (hangupFailure env (client.calls ctx.sipCallId)) := by
  have logged : ∀ {failed : Bool}, effect ∈ failureLog failed → effect = .logError := by
    intro failed inLog
    cases failed with
    | true => exact List.mem_singleton.mp inLog
    | false => cases inLog
  unfold closingEffects cleanUpEffects at member
  rcases List.mem_cons.mp member with announced | member
  · exact .inl announced
  rcases List.mem_append.mp member with stopped | member
  · unfold stopEffects at stopped
    split at stopped
    · exact .inr (.inl (List.mem_singleton.mp stopped))
    · cases stopped
  rcases List.mem_append.mp member with discarded | hung
  · unfold discardEffects at discarded
    split at discarded
    · rcases List.mem_cons.mp discarded with request | log
      · exact .inr (.inr (.inr (.inl request)))
      · exact .inr (.inr (.inl (logged log)))
    · cases discarded
  · unfold hangupEffects at hung
    split at hung
    · rcases List.mem_cons.mp hung with request | log
      · exact .inr (.inr (.inr (.inr request)))
      · exact .inr (.inr (.inl (logged log)))
    · cases hung

end Tg2Sip.Cpp
