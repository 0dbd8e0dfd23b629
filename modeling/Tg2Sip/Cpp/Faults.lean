/-
The exceptions that leave an action.

boost::sml runs the rows in a `noexcept` function, so whether an event is
survived is decided by the faults that its row does not catch.  `escape`
computes that fault from the state before the event and from the answers of
the outside, and `Survives` says the same as a condition.
-/

import Tg2Sip.Cpp.Routing

namespace Tg2Sip.Cpp

open Exceptions (fault fault_eq_none_iff fault_of_ok fault_of_error fault_bind_of_ok
  fault_bind_of_total)

/-- What the error branch of a request throws: `std::stoi` on a number that
does not fit in an `int`. -/
def retryFault (env : Env) (error : TdError) : Option Fault :=
  if flood env.settings error.message = .overflow then some (.outOfRange "stoi") else none

def createFault (env : Env) : Option Fault :=
  match env.createCall with
  | .error error => retryFault env error
  | .callId _ => none
  | _ => some .wrongObject

def usernameFault (env : Env) (ctx : Context) (cache : Cache) : Option Fault :=
  match cache.usernameCache ctx.extUsername, env.searchPublicChat with
  | some _, _ => createFault env
  | none, .error error => retryFault env error
  | none, .chat chat =>
      match chat.type with
      | .other => none
      | .private => createFault env
  | none, _ => some .wrongObject

def phoneFault (env : Env) (ctx : Context) (cache : Cache) : Option Fault :=
  match cache.phoneCache ctx.extPhone, env.importContacts with
  | some _, _ => createFault env
  | none, .error error => retryFault env error
  | none, .importedContacts [] => some .emptyVector
  | none, .importedContacts (userId :: _) => if userId = 0 then none else createFault env
  | none, _ => some .wrongObject

def dialFault (env : Env) (ctx : Context) (cache : Cache) (block : Int) : Option Fault :=
  if env.now < block then none
  else if !ctx.extUsername.isEmpty then usernameFault env ctx cache
  else if !ctx.extPhone.isEmpty then phoneFault env ctx cache
  else createFault env

theorem fault_dialFailed (env : Env) (error : TdError) (world : World) :
    fault (dialFailed env error) world = retryFault env error := by
  unfold fault retryFault
  rw [run_dialFailed]
  by_cases overflows : flood env.settings error.message = .overflow
  · rw [if_pos overflows, if_pos overflows]
  · rw [if_neg overflows, if_neg overflows]

theorem fault_dialById (env : Env) (id : Int) (world : World) :
    fault (dialById env id) world = createFault env := by
  unfold dialById createFault
  rw [fault_bind_of_ok (run_emit _ _)]
  cases env.createCall <;> first
    | exact fault_dialFailed _ _ _
    | rfl

theorem fault_dialByUsername (env : Env) (world : World) :
    fault (dialByUsername env) world = usernameFault env world.ctx world.cache := by
  unfold dialByUsername usernameFault
  rw [fault_bind_of_ok (EStateM.run_get _), fault_bind_of_ok (EStateM.run_get _)]
  cases world.cache.usernameCache world.ctx.extUsername with
  | some userId => exact fault_dialById _ _ _
  | none =>
      dsimp only
      rw [fault_bind_of_ok (run_emit _ _)]
      cases env.searchPublicChat with
      | error failure => exact fault_dialFailed _ _ _
      | chat chat =>
          simp only [Object.error?, Object.chat?]
          cases chat.type with
          | other => rfl
          | «private» =>
              dsimp only [addUsername]
              rw [fault_bind_of_ok (EStateM.run_modify _ _)]
              exact fault_dialById _ _ _
      | _ => rfl

theorem fault_dialByPhone (env : Env) (world : World) :
    fault (dialByPhone env) world = phoneFault env world.ctx world.cache := by
  unfold dialByPhone phoneFault
  rw [fault_bind_of_ok (EStateM.run_get _), fault_bind_of_ok (EStateM.run_get _)]
  cases world.cache.phoneCache world.ctx.extPhone with
  | some userId => exact fault_dialById _ _ _
  | none =>
      dsimp only
      rw [fault_bind_of_ok (run_emit _ _)]
      cases env.importContacts with
      | error failure => exact fault_dialFailed _ _ _
      | importedContacts userIds =>
          cases userIds with
          | nil => rfl
          | cons userId rest =>
              simp only [Object.error?, Object.importedContacts?]
              split
              · rfl
              · unfold addPhone
                rw [fault_bind_of_ok (EStateM.run_modify _ _)]
                exact fault_dialById _ _ _
      | _ => rfl

theorem fault_dialTg (env : Env) (world : World) :
    fault (dialTg env) world = dialFault env world.ctx world.cache world.blockUntil := by
  unfold dialTg dialFault
  rw [fault_bind_of_ok (run_emit _ _), fault_bind_of_ok (EStateM.run_get _)]
  by_cases blocked : env.now < world.blockUntil
  · have gate : (world.emit (.action .dialTg)).blockUntil > env.now := blocked
    rw [if_pos gate, if_pos blocked]
    rfl
  · have gate : ¬(world.emit (.action .dialTg)).blockUntil > env.now := blocked
    rw [if_neg gate, if_neg blocked, fault_bind_of_ok (EStateM.run_get _)]
    by_cases named : (!world.ctx.extUsername.isEmpty) = true
    · rw [if_pos named]
      refine Eq.trans ?_ (fault_dialByUsername env (world.emit (.action .dialTg)))
      exact congrArg (fault · _) (if_pos named)
    · rw [if_neg named]
      refine Eq.trans (congrArg (fault · _) (if_neg named)) ?_
      rw [fault_bind_of_ok (EStateM.run_get _)]
      by_cases numbered : (!world.ctx.extPhone.isEmpty) = true
      · rw [if_pos numbered]
        refine Eq.trans ?_ (fault_dialByPhone env (world.emit (.action .dialTg)))
        exact congrArg (fault · _) (if_pos numbered)
      · rw [if_neg numbered]
        refine Eq.trans (congrArg (fault · _) (if_neg numbered)) ?_
        rw [fault_bind_of_ok (EStateM.run_get _)]
        exact fault_dialById env _ _

def getUserFault (env : Env) : Option Fault :=
  match env.getUser with
  | .error error => some (.runtimeError error.message)
  | .user _ => none
  | _ => some .wrongObject

def dtmfFault (world : World) (message : Message) : Option Fault :=
  if message.content.dtmf?.isSome && (world.sip.calls world.ctx.sipCallId).isNone then
    some (.runtimeError "CALL_NOT_FOUND")
  else none

def voipFault (env : Env) (call : Call) : Option Fault :=
  if call.state.ready?.isSome then env.voipController.fault else none

/-- The fault that leaves `process_event`. -/
def escape (env : Env) (world : World) : SmState → Event → Option Fault
  | .init, .updateCall call =>
      if isIncoming call && call.state.isPending && callbackUriIsSet env.settings then
        getUserFault env
      else none
  | .fromTg .waitTg, .updateCall call => voipFault env call
  | .fromSip .sipWaitConfirm, .callStateUpdate _ .early =>
      dialFault env world.ctx world.cache world.blockUntil
  | .fromSip .waitTg, .updateCall call => voipFault env call
  | .fromSip .sipWaitMedia, .callMediaStateUpdate _ true =>
      if world.ctx.controller.isNone then some .nullDereference else none
  | .fromTg .waitDtmf, .updateNewMessage message => dtmfFault world message
  | .fromSip .waitDtmf, .updateNewMessage message => dtmfFault world message
  | _, _ => none

/-- The entry action never throws, so that a row throws what its action throws. -/
theorem fault_row (env : Env) (target : SmState) (action : Act Unit) (world : World) :
    fault (do action; (machine env).onEntry target; pure target : Act SmState) world =
      fault action world := by
  apply fault_bind_of_total
  intro _ between
  rw [fault_bind_of_total (fun _ _ => rfl)]
  cases target with
  | x => exact fault_of_ok (run_cleanUp env between)
  | _ => rfl

theorem fault_machine {env : Env} {state target : SmState} {event : Event} {action : Act Unit}
    (world : World) (selected : (machine env).select state event = some (target, action)) :
    fault ((machine env).processEvent state event) world = fault action world := by
  rw [StateTable.Machine.processEvent_of_select_some selected]
  exact fault_row env target action world

theorem fault_ignored {env : Env} {state : SmState} {event : Event} (world : World)
    (ignored : (machine env).select state event = none) :
    fault ((machine env).processEvent state event) world = none := by
  rw [StateTable.Machine.processEvent_of_select_none ignored]
  rfl

theorem fault_dialSip (env : Env) (call : Call) (world : World) :
    fault (dialSip env call) world = getUserFault env := by
  unfold fault getUserFault
  rw [run_dialSip]
  cases env.getUser with
  | user user => cases env.makeCall <;> rfl
  | _ => rfl

theorem fault_dialDtmf (env : Env) (digits : String) (world : World) :
    fault (dialDtmf env digits) world =
      if (world.sip.calls world.ctx.sipCallId).isNone then
        some (.runtimeError "CALL_NOT_FOUND")
      else none := by
  unfold fault
  rw [run_dialDtmf]
  cases world.sip.calls world.ctx.sipCallId <;> rfl

theorem fault_createTgVoip_bind {env : Env} {call : Call} {ready : CallReady} {world : World}
    {next : Act Unit}
    (quiet : env.voipController = .ok () → fault next (world.after
      { world.ctx with controller := some (makeController env.settings call ready) }
      [.action .createTgVoip, .controllerStart] []) = none) :
    fault (do createTgVoip env call ready; next : Act Unit) world =
      env.voipController.fault := by
  cases constructed : env.voipController with
  | ok done =>
      have created := run_createTgVoip env call ready world
      rw [constructed] at created
      rw [fault_bind_of_ok created]
      exact quiet constructed
  | error reason =>
      unfold fault
      rw [EStateM.run_bind, run_createTgVoip, constructed]
      rfl

theorem fault_bridgeAudio (env : Env) (world : World) :
    fault (bridgeAudio env) world =
      if world.ctx.controller.isNone then some .nullDereference else none := by
  unfold fault
  rw [run_bridgeAudio]
  cases world.ctx.controller <;> rfl

theorem fault_initRow {env : Env} {event : Event} {target : SmState} {action : Act Unit}
    (world : World) (row : initRow env event = some (target, action)) :
    fault ((machine env).processEvent .init event) world = fault action world := by
  apply fault_machine world
  rw [select_init]
  exact row

theorem fault_updateCall (env : Env) (call : Call) (world : World) :
    fault ((machine env).processEvent .init (.updateCall call)) world =
      escape env world .init (.updateCall call) := by
  unfold escape
  cases pending : isIncoming call && call.state.isPending with
  | false =>
      have row : initRow env (.updateCall call) = some (.x, pure ()) := by
        simp only [initRow, pending, Bool.false_eq_true, if_false]
      rw [fault_initRow world row]
      simp only [pending, Bool.false_and, Bool.false_eq_true, if_false]
      rfl
  | true =>
      cases uri : callbackUriIsSet env.settings with
      | false =>
          have row : initRow env (.updateCall call) = some (.x, storeTgId call) := by
            simp only [initRow, pending, uri, Bool.false_eq_true, if_false, if_true]
          rw [fault_initRow world row]
          simp only [Bool.and_false, Bool.false_eq_true, if_false]
          exact fault_of_ok (run_storeTgId call world)
      | true =>
          have row : initRow env (.updateCall call) = some (.fromTg .sipWaitMedia,
              do storeTgId call; storeTgUserId call; dialSip env call) := by
            simp only [initRow, pending, uri, if_true]
          rw [fault_initRow world row, fault_bind_of_ok (run_storeTgId call world),
            fault_bind_of_ok (run_storeTgUserId call _), fault_dialSip]
          simp only [pending, Bool.and_true, if_true]

theorem fault_init (env : Env) (event : Event) (world : World) :
    fault ((machine env).processEvent .init event) world = escape env world .init event := by
  cases event with
  | updateCall call => exact fault_updateCall env call world
  | updateNewMessage message => exact fault_ignored world (select_init env _)
  | internalError error => exact fault_ignored world (select_init env _)
  | callStateUpdate id state =>
      rw [fault_initRow world rfl]
      rfl
  | callMediaStateUpdate id hasMedia =>
      rw [fault_initRow world rfl]
      rfl
  | incomingCall id ext =>
      rw [fault_initRow world rfl, fault_bind_of_ok (run_storeSipId id world)]
      unfold fault
      rw [run_acceptIncomingSip]
      cases parseExtension ext _ <;> rfl

theorem fault_end {event : Event} {target : SmState} {action : Act Unit} (world : World)
    (selected : endRow event = some (target, action)) : fault action world = none := by
  cases event with
  | updateCall call =>
      simp only [endRow] at selected
      split at selected
      · cases selected
        exact fault_of_ok (run_cleanTgId world)
      · cases selected
  | callStateUpdate id state =>
      simp only [endRow] at selected
      split at selected
      · cases selected
        exact fault_of_ok (run_cleanSipId world)
      · cases selected
  | internalError error =>
      cases selected
      exact fault_of_ok (run_setHangupPrm error world)
  | _ => cases selected

theorem fault_setup {env : Env} {state target : SmState} {event : Event} {action : Act Unit}
    (world : World) (selected : setupRow env state event = some (target, action)) :
    fault action world = escape env world state event := by
  unfold setupRow at selected
  split at selected
  · split at selected
    · cases selected
      exact fault_of_ok (run_answerTg env world)
    · cases selected
  · obtain ⟨ready, reached, row⟩ := Option.map_eq_some_iff.mp selected
    cases row
    have escaped : escape env world (.fromTg .waitTg) (.updateCall _) =
        env.voipController.fault := if_pos (by rw [reached]; rfl)
    rw [escaped, fault_createTgVoip_bind]
    exact fun _ => fault_bridgeAudio env _
  · rename_i message
    obtain ⟨digits, valid, row⟩ := Option.map_eq_some_iff.mp selected
    cases row
    rw [fault_dialDtmf]
    simp [escape, dtmfFault, valid]
  · split at selected
    · rename_i early
      obtain rfl := eq_of_beq early
      cases selected
      exact fault_dialTg env world
    · cases selected
  · obtain ⟨ready, reached, row⟩ := Option.map_eq_some_iff.mp selected
    cases row
    have escaped : escape env world (.fromSip .waitTg) (.updateCall _) =
        env.voipController.fault := if_pos (by rw [reached]; rfl)
    rw [escaped, fault_bind_of_ok (run_storeTgUserId _ world), fault_createTgVoip_bind]
    exact fun _ => fault_of_ok (run_answerSip env _)
  · split at selected
    · rename_i media
      subst media
      cases selected
      exact fault_bridgeAudio env world
    · cases selected
  · rename_i message
    obtain ⟨digits, valid, row⟩ := Option.map_eq_some_iff.mp selected
    cases row
    rw [fault_dialDtmf]
    simp [escape, dtmfFault, valid]
  · cases selected

/-- A row of its own is the only place where a composite state throws. -/
theorem escape_of_no_setup {env : Env} {state : SmState} {event : Event} (world : World)
    (composite : state.isFromTg || state.isFromSip) (idle : setupRow env state event = none) :
    escape env world state event = none := by
  unfold escape
  split
  · cases composite
  · rename_i call
    simp only [setupRow, Option.map_eq_none_iff] at idle
    simp [voipFault, idle]
  · cases idle
  · rename_i call
    simp only [setupRow, Option.map_eq_none_iff] at idle
    simp [voipFault, idle]
  · cases idle
  · rename_i message
    simp only [setupRow, Option.map_eq_none_iff] at idle
    simp [dtmfFault, idle]
  · rename_i message
    simp only [setupRow, Option.map_eq_none_iff] at idle
    simp [dtmfFault, idle]
  · rfl

theorem fault_composite {env : Env} {state : SmState} {event : Event} (world : World)
    (composite : state.isFromTg || state.isFromSip)
    (table : (machine env).select state event =
      (setupRow env state event).or (endRow event)) :
    fault ((machine env).processEvent state event) world = escape env world state event := by
  cases setup : setupRow env state event with
  | some row =>
      obtain ⟨target, action⟩ := row
      rw [fault_machine world (by rw [table, setup, Option.some_or])]
      exact fault_setup world setup
  | none =>
      rw [escape_of_no_setup world composite setup]
      cases common : endRow event with
      | none => exact fault_ignored world (by rw [table, setup, common, Option.none_or])
      | some row =>
          obtain ⟨target, action⟩ := row
          rw [fault_machine world (by rw [table, setup, common, Option.none_or])]
          exact fault_end world common

theorem fault_processEvent (env : Env) (state : SmState) (event : Event) (world : World) :
    fault ((machine env).processEvent state event) world = escape env world state event := by
  cases state with
  | init => exact fault_init env event world
  | fromTg state => exact fault_composite world rfl (select_fromTg env state event)
  | fromSip state => exact fault_composite world rfl (select_fromSip env state event)
  | x =>
      rw [fault_ignored world (select_x env event)]
      unfold escape
      split <;> first
        | rfl
        | contradiction

theorem retryFault_ne_null (env : Env) (error : TdError) :
    retryFault env error ≠ some .nullDereference := by
  unfold retryFault
  split <;> nofun

theorem createFault_ne_null (env : Env) : createFault env ≠ some .nullDereference := by
  unfold createFault
  split
  · exact retryFault_ne_null env _
  · nofun
  · nofun

theorem dialFault_ne_null (env : Env) (ctx : Context) (cache : Cache) (block : Int) :
    dialFault env ctx cache block ≠ some .nullDereference := by
  have created := createFault_ne_null env
  have retried := retryFault_ne_null env
  unfold dialFault
  split
  · nofun
  · split
    · unfold usernameFault
      split
      · exact created
      · exact retried _
      · split
        · nofun
        · exact created
      · nofun
    · split
      · unfold phoneFault
        split
        · exact created
        · exact retried _
        · nofun
        · split
          · nofun
          · exact created
        · nofun
      · exact created

theorem voipFault_ne_null (env : Env) (call : Call) :
    voipFault env call ≠ some .nullDereference := by
  unfold voipFault
  split
  · cases env.voipController <;> nofun
  · nofun

/-- Only `BridgeAudio` without a controller dereferences a null pointer. -/
theorem escape_null {env : Env} {world : World} {state : SmState} {event : Event}
    (thrown : escape env world state event = some .nullDereference) :
    state = .fromSip .sipWaitMedia ∧ world.ctx.controller = none := by
  unfold escape at thrown
  split at thrown
  · split at thrown
    · unfold getUserFault at thrown
      split at thrown <;> cases thrown
    · cases thrown
  · exact absurd thrown (voipFault_ne_null _ _)
  · exact absurd thrown (dialFault_ne_null _ _ _ _)
  · exact absurd thrown (voipFault_ne_null _ _)
  · split at thrown
    · rename_i missing
      exact ⟨rfl, Option.isNone_iff_eq_none.mp missing⟩
    · cases thrown
  · unfold dtmfFault at thrown
    split at thrown <;> cases thrown
  · unfold dtmfFault at thrown
    split at thrown <;> cases thrown
  · cases thrown

/-! ### The gateway -/

def Outcome.fault? : Outcome → Option Fault
  | .returned _ _ => none
  | .terminated thrown _ => some thrown

def Gateway.receiver (gateway : Gateway) (env : Env) (event : Event) : Option Bridge :=
  match event with
  | .updateNewMessage message =>
      if message.senderId.isUser then none
      else
        match gateway.bridges.filter (Bridge.owns env event) with
        | [bridge] => some bridge
        | _ => none
  | .internalError _ => gateway.bridges.find? (Bridge.owns env event)
  | _ => some ((gateway.bridges.find? (Bridge.owns env event)).getD gateway.newBridge)

theorem firstMatch_find? (owns : Bridge → Bool) (bridges : List Bridge) :
    (firstMatch owns bridges).map (fun split => split.2.1) = bridges.find? owns := by
  unfold firstMatch
  induction bridges with
  | nil => rfl
  | cons head tail ih =>
      cases owned : owns head with
      | true => simp [owned]
      | false =>
          rw [List.find?_cons_of_neg (by simp [owned]), ← ih,
            List.dropWhile_cons_of_pos (by simp [owned])]
          split <;> rfl

theorem deliver_fault (gateway : Gateway) (env : Env) (event : Event)
    (before after : List Bridge) (bridge : Bridge) :
    (gateway.deliver env event before bridge after).fault? =
      escape env (gateway.world bridge.ctx) bridge.state event := by
  rw [← fault_processEvent]
  unfold Gateway.deliver fault
  cases ((machine env).processEvent bridge.state event).run (gateway.world bridge.ctx) with
  | error thrown world => rfl
  | ok state world =>
      dsimp only
      split <;> rfl

theorem deliverMessage_fault (gateway : Gateway) (env : Env) (message : Message)
    (owns : Bridge → Bool) (bridge : Bridge) :
    (gateway.deliverMessage env message owns bridge).fault? =
      escape env (gateway.world bridge.ctx) bridge.state (.updateNewMessage message) := by
  rw [← fault_processEvent]
  unfold Gateway.deliverMessage fault
  cases ((machine env).processEvent bridge.state (.updateNewMessage message)).run
      (gateway.world bridge.ctx) <;> rfl

theorem Outcome.fault_after (outcome : Outcome) (effects : List Logged) :
    (outcome.after effects).fault? = outcome.fault? := by
  cases outcome <;> rfl

theorem searchCall_fault (gateway : Gateway) (env : Env) (event : Event) :
    (gateway.searchCall env event (Bridge.owns env event)).fault? =
      escape env
        (gateway.world ((gateway.bridges.find? (Bridge.owns env event)).getD
          gateway.newBridge).ctx)
        ((gateway.bridges.find? (Bridge.owns env event)).getD gateway.newBridge).state event := by
  rw [← firstMatch_find?]
  unfold Gateway.searchCall
  cases firstMatch (Bridge.owns env event) gateway.bridges with
  | none =>
      rw [Outcome.fault_after]
      exact deliver_fault _ _ _ _ _ _
  | some split => exact deliver_fault _ _ _ _ _ _

theorem processInternalError_fault (gateway : Gateway) (env : Env) (error : InternalError) :
    (gateway.processInternalError env error).fault? =
      (gateway.bridges.find? (fun bridge => bridge.ctx.id == error.ctxId)).bind (fun bridge =>
        escape env (gateway.world bridge.ctx) bridge.state (.internalError error)) := by
  rw [← firstMatch_find?]
  unfold Gateway.processInternalError
  cases firstMatch (fun bridge => bridge.ctx.id == error.ctxId) gateway.bridges with
  | none => rfl
  | some split => exact deliver_fault _ _ _ _ _ _

theorem processMessage_fault (gateway : Gateway) (env : Env) (message : Message) :
    (gateway.processMessage env message).fault? =
      (gateway.receiver env (.updateNewMessage message)).bind (fun bridge =>
        escape env (gateway.world bridge.ctx) bridge.state (.updateNewMessage message)) := by
  have sameTest : Bridge.owns env (.updateNewMessage message) =
      fun bridge => bridge.ctx.userId == message.senderId.castUserId env := rfl
  unfold Gateway.processMessage Gateway.receiver
  dsimp only
  rw [sameTest]
  by_cases sender : message.senderId.isUser = true
  · rw [if_pos sender, if_pos sender]
    rfl
  · rw [if_neg sender, if_neg sender]
    cases gateway.bridges.filter
        (fun bridge => bridge.ctx.userId == message.senderId.castUserId env) with
    | nil => rfl
    | cons first rest =>
        cases rest with
        | nil => exact deliverMessage_fault _ _ _ _ _
        | cons second others => rfl

theorem processEvent_fault (gateway : Gateway) (env : Env) (event : Event) :
    (gateway.processEvent env event).fault? =
      (gateway.receiver env event).bind (fun bridge =>
        escape env (gateway.world bridge.ctx) bridge.state event) := by
  cases event with
  | updateCall call => exact searchCall_fault gateway env (.updateCall call)
  | incomingCall id ext => exact searchCall_fault gateway env (.incomingCall id ext)
  | callStateUpdate id state => exact searchCall_fault gateway env (.callStateUpdate id state)
  | callMediaStateUpdate id hasMedia =>
      exact searchCall_fault gateway env (.callMediaStateUpdate id hasMedia)
  | internalError error => exact processInternalError_fault gateway env error
  | updateNewMessage message => exact processMessage_fault gateway env message

theorem receiver_receives {gateway : Gateway} {env : Env} {event : Event} {bridge : Bridge}
    (received : gateway.receiver env event = some bridge) :
    gateway.Receives env event bridge := by
  have searched : ∀ {found : Option Bridge},
      found = gateway.bridges.find? (Bridge.owns env event) → event.opens = true →
        found.getD gateway.newBridge = bridge → gateway.Receives env event bridge := by
    intro found isFound opens same
    cases found with
    | none =>
        exact .inr ⟨same.symm, opens⟩
    | some owner =>
        cases same
        exact .inl ⟨List.mem_of_find?_eq_some isFound.symm, List.find?_some isFound.symm⟩
  cases event with
  | updateCall call => exact searched rfl rfl (Option.some.inj received)
  | incomingCall id ext => exact searched rfl rfl (Option.some.inj received)
  | callStateUpdate id state => exact searched rfl rfl (Option.some.inj received)
  | callMediaStateUpdate id hasMedia => exact searched rfl rfl (Option.some.inj received)
  | internalError error =>
      exact .inl ⟨List.mem_of_find?_eq_some received, List.find?_some received⟩
  | updateNewMessage message =>
      unfold Gateway.receiver at received
      dsimp only at received
      split at received
      · cases received
      · split at received
        · rename_i only
          cases received
          have member : bridge ∈ gateway.bridges.filter
              (Bridge.owns env (.updateNewMessage message)) := by
            rw [only]
            exact List.mem_singleton.mpr rfl
          rw [List.mem_filter] at member
          exact .inl member
        · cases received

end Tg2Sip.Cpp
