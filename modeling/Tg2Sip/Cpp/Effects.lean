/-
What each action does, in closed form.

`World.after` is the world behind a given context, a list of effects and a
list of queued errors.  The call registry behind it is a function of the
effects: only a dial and a hangup that reached its `Call` object change it.
Every action but `dialTg` is evaluated to such a world, or to the fault it
throws; the rest of the development reads these equations and not the code.
-/

import Tg2Sip.Cpp.Actions

namespace Tg2Sip.Cpp

def SipClient.apply (client : SipClient) : Effect → SipClient
  | .dial _ _ (.ok id) => client.register id
  | .dial _ _ (.error _) => client.discard
  | .sip (.hangup id _) (some _) none => client.forget id
  | _ => client

def World.after (world : World) (ctx : Context) (effects : List Effect)
    (errors : List CallOpParam) : World :=
  { world with
    ctx := ctx
    trace := world.trace ++ effects
    internalEvents := world.internalEvents ++ errors.map (InternalError.mk world.ctx.id)
    sip := effects.foldl SipClient.apply world.sip }

@[simp] theorem World.after_ctx (world : World) (ctx : Context) (effects : List Effect)
    (errors : List CallOpParam) : (world.after ctx effects errors).ctx = ctx := rfl

@[simp] theorem World.after_sip (world : World) (ctx : Context) (effects : List Effect)
    (errors : List CallOpParam) :
    (world.after ctx effects errors).sip = effects.foldl SipClient.apply world.sip := rfl

/-- Two changes in a row are one change, because no action renames its context. -/
theorem World.after_after (world : World) {first second : Context}
    {effects later : List Effect} {errors laterErrors : List CallOpParam}
    (sameId : first.id = world.ctx.id) :
    (world.after first effects errors).after second later laterErrors =
      world.after second (effects ++ later) (errors ++ laterErrors) := by
  simp only [World.after, sameId, List.append_assoc, List.map_append, List.foldl_append]

def Fault.text : Fault → String
  | .pjError reason => reason
  | .runtimeError what => what
  | .outOfRange what => what
  | .nullDereference => ""
  | .wrongObject => ""
  | .emptyVector => ""

def failureErrors (failure : Option Fault) : List CallOpParam :=
  failure.toList.map (fun fault => serverError fault.text)

def failureLog (failed : Bool) : List Effect := if failed then [.logError] else []

-- Every action is evaluated down to these.
attribute [local simp] World.emit World.setCtx World.enqueue World.after SipClient.apply

theorem run_storeSipId (id : Int) (world : World) :
    (storeSipId id).run world =
      .ok () (world.after { world.ctx with sipCallId := id }
        [.action .storeSipId, .associatedSip id] []) := by
  simp [storeSipId]

theorem run_storeTgId (call : Call) (world : World) :
    (storeTgId call).run world =
      .ok () (world.after { world.ctx with tgCallId := call.id }
        [.action .storeTgId, .associatedTg call.id] []) := by
  simp [storeTgId]

theorem run_storeTgUserId (call : Call) (world : World) :
    (storeTgUserId call).run world =
      .ok () (world.after { world.ctx with userId := call.userId }
        [.action .storeTgUserId] []) := by
  simp [storeTgUserId]

theorem run_cleanTgId (world : World) :
    cleanTgId.run world =
      .ok () (world.after { world.ctx with tgCallId := 0 } [.action .cleanTgId] []) := by
  simp [cleanTgId]

theorem run_cleanSipId (world : World) :
    cleanSipId.run world =
      .ok () (world.after { world.ctx with sipCallId := invalidId }
        [.action .cleanSipId] []) := by
  simp [cleanSipId]

theorem run_setHangupPrm (error : InternalError) (world : World) :
    (setHangupPrm error).run world =
      .ok () (world.after { world.ctx with hangupPrm := error.prm }
        [.action .setHangupPrm] []) := by
  simp [setHangupPrm]

theorem run_createTgVoip (env : Env) (call : Call) (ready : CallReady) (world : World) :
    (createTgVoip env call ready).run world =
      match env.voipController with
      | .error reason =>
          .error (.pjError reason) (world.after world.ctx [.action .createTgVoip] [])
      | .ok () =>
          .ok () (world.after
            { world.ctx with controller := some (makeController env.settings call ready) }
            [.action .createTgVoip, .controllerStart] []) := by
  unfold createTgVoip
  cases env.voipController with
  | error reason => simp
  | ok done => simp

theorem run_answerTg (env : Env) (world : World) :
    (answerTg env).run world =
      .ok () (world.after world.ctx
        ([Effect.action .answerTg,
          .query (.acceptCall world.ctx.tgCallId (callProtocol env.settings)) env.acceptCall] ++
          failureLog env.acceptCall.error?.isSome)
        (env.acceptCall.error?.toList.map (fun error => serverError (errorReason error)))) := by
  unfold answerTg
  cases env.acceptCall.error? <;>
    simp [failureLog]

/-- The failure that the registry and the `Call` object produce for an id. -/
def opFailure (world : World) (id : Int) (failure : Option Fault) : Option Fault :=
  match world.sip.calls id with
  | none => some (.runtimeError "CALL_NOT_FOUND")
  | some _ => failure

def Fault.isCallFault : Fault → Bool
  | .pjError _ => true
  | .runtimeError _ => true
  | _ => false

theorem PjResult.fault_isCallFault {Value : Type} (result : PjResult Value) (fault : Fault)
    (failed : result.fault = some fault) : fault.isCallFault = true := by
  cases result with
  | ok value => cases failed
  | error reason =>
      cases failed
      rfl

theorem bridgeFault_isCallFault (env : Env) (fault : Fault)
    (failed : bridgeFault env = some fault) : fault.isCallFault = true := by
  unfold bridgeFault at failed
  split at failed
  · cases failed
    rfl
  · cases failed
    rfl
  · exact PjResult.fault_isCallFault _ fault failed

theorem apply_op (client : SipClient) {op : SipOp} (target : Option CallRef)
    (failure : Option Fault) (notHangup : ∀ id prm, op ≠ .hangup id prm) :
    client.apply (.sip op target failure) = client := by
  cases op with
  | hangup id prm => exact False.elim (notHangup id prm rfl)
  | answer id prm => rfl
  | bridgeAudio id => rfl
  | dialDtmf id digits => rfl

theorem run_catchPj (body : Act Unit) (handler : String → Act Unit) (world : World) :
    (catchPj body handler).run world =
      match body.run world with
      | .ok value after => .ok value after
      | .error (.pjError reason) after => (handler reason).run after
      | .error fault after => .error fault after := by
  unfold catchPj
  rw [Exceptions.run_tryCatch]
  cases body.run world with
  | ok value after => rfl
  | error fault after => cases fault <;> rfl

/-- An operation under the two handlers always returns, and queues what failed. -/
theorem run_caughtOp (op : SipOp) (failure : Option Fault) (world : World)
    (notHangup : ∀ id prm, op ≠ .hangup id prm)
    (caught : ∀ fault, failure = some fault → fault.isCallFault = true) :
    (catchPjOrRuntime (clientOp op failure) (fun reason => enqueue (serverError reason))).run
        world =
      .ok () (world.after world.ctx
        [.sip op (world.sip.calls op.id) (opFailure world op.id failure)]
        (failureErrors (opFailure world op.id failure))) := by
  unfold catchPjOrRuntime
  rw [Exceptions.run_tryCatch, run_clientOp]
  cases found : world.sip.calls op.id with
  | none =>
      simp [opFailure, found, failureErrors, Fault.text, apply_op _ _ _ notHangup, -SipClient.apply]
  | some call =>
      cases failure with
      | none =>
          simp [opFailure, found, failureErrors, apply_op _ _ _ notHangup, -SipClient.apply]
      | some fault =>
          have callFault := caught fault rfl
          cases fault <;> first
            | (cases callFault; done)
            | simp [opFailure, found, failureErrors, Fault.text, apply_op _ _ _ notHangup,
                -SipClient.apply]

def okPrm : CallOpParam := { useDefaultCallSetting := true, statusCode := scOk }

def ringingPrm : CallOpParam := { useDefaultCallSetting := true, statusCode := scRinging }

theorem run_answerSip (env : Env) (world : World) :
    (answerSip env).run world =
      .ok () (world.after world.ctx
        [.action .answerSip,
          .sip (.answer world.ctx.sipCallId okPrm) (world.sip.calls world.ctx.sipCallId)
            (opFailure world world.ctx.sipCallId env.answer.fault)]
        (failureErrors (opFailure world world.ctx.sipCallId env.answer.fault))) := by
  have answered := run_caughtOp (.answer world.ctx.sipCallId okPrm) env.answer.fault
    (world.emit (.action .answerSip)) (fun _ _ same => by cases same)
    (PjResult.fault_isCallFault env.answer)
  unfold answerSip clientAnswer
  simp only [EStateM.run_bind, run_emit, EStateM.run_get]
  apply Eq.trans answered
  simp [SipOp.id, opFailure]

theorem run_bridgeAudio (env : Env) (world : World) :
    (bridgeAudio env).run world =
      if world.ctx.controller.isSome then
        .ok () (world.after world.ctx
          [.action .bridgeAudio,
            .sip (.bridgeAudio world.ctx.sipCallId) (world.sip.calls world.ctx.sipCallId)
              (opFailure world world.ctx.sipCallId (bridgeFault env))]
          (failureErrors (opFailure world world.ctx.sipCallId (bridgeFault env))))
      else .error .nullDereference (world.emit (.action .bridgeAudio)) := by
  have bridged := run_caughtOp (.bridgeAudio world.ctx.sipCallId) (bridgeFault env)
    (world.emit (.action .bridgeAudio)) (fun _ _ same => by cases same)
    (bridgeFault_isCallFault env)
  unfold bridgeAudio clientBridgeAudio
  cases present : world.ctx.controller with
  | none => simp [present]
  | some controller =>
      simp only [EStateM.run_bind, run_emit, EStateM.run_get, World.emit, present,
        Option.isSome_some, if_true]
      apply Eq.trans bridged
      simp [SipOp.id, opFailure]

/-- `DialDtmf` catches only `pj::Error`, so that an id without an entry makes
it throw. -/
theorem run_dialDtmf (env : Env) (digits : String) (world : World) :
    (dialDtmf env digits).run world =
      match world.sip.calls world.ctx.sipCallId with
      | none =>
          .error (.runtimeError "CALL_NOT_FOUND")
            (world.after world.ctx
              [.action .dialDtmf,
                .sip (.dialDtmf world.ctx.sipCallId digits) none
                  (some (.runtimeError "CALL_NOT_FOUND"))] [])
      | some call =>
          .ok () (world.after world.ctx
            ([Effect.action .dialDtmf,
              .sip (.dialDtmf world.ctx.sipCallId digits) (some call) env.dialDtmf.fault] ++
              failureLog env.dialDtmf.fault.isSome) []) := by
  unfold dialDtmf clientDialDtmf
  simp only [EStateM.run_bind, run_emit, EStateM.run_get, run_catchPj, run_clientOp,
    SipOp.id, World.emit]
  cases found : world.sip.calls world.ctx.sipCallId with
  | none => simp
  | some call =>
      cases env.dialDtmf <;>
        simp [PjResult.fault, failureLog]

/-! ### Accepting, dialling and cleaning up -/

theorem parseExtension_keeps {ext : String} {ctx parsed : Context}
    (valid : parseExtension ext ctx = some parsed) :
    parsed.id = ctx.id ∧ parsed.sipCallId = ctx.sipCallId ∧ parsed.tgCallId = ctx.tgCallId ∧
      parsed.controller = ctx.controller ∧ parsed.hangupPrm = ctx.hangupPrm := by
  unfold parseExtension at valid
  split at valid
  · cases valid
    exact ⟨rfl, rfl, rfl, rfl, rfl⟩
  · split at valid
    · cases valid
      exact ⟨rfl, rfl, rfl, rfl, rfl⟩
    · split at valid
      · split at valid
        · cases valid
          exact ⟨rfl, rfl, rfl, rfl, rfl⟩
        · cases valid
        · cases valid
      · cases valid

theorem run_acceptIncomingSip (env : Env) (ext : String) (world : World) :
    (acceptIncomingSip env ext).run world =
      match parseExtension ext world.ctx with
      | none =>
          .ok () (world.after world.ctx [.action .acceptIncomingSip]
            [{ statusCode := scBadExtension }])
      | some parsed =>
          .ok () (world.after parsed
            [.action .acceptIncomingSip,
              .sip (.answer world.ctx.sipCallId ringingPrm)
                (world.sip.calls world.ctx.sipCallId)
                (opFailure world world.ctx.sipCallId env.answer.fault)]
            (failureErrors (opFailure world world.ctx.sipCallId env.answer.fault))) := by
  unfold acceptIncomingSip clientAnswer
  cases valid : parseExtension ext world.ctx with
  | none => simp [valid]
  | some parsed =>
      obtain ⟨sameId, sameSip, _⟩ := parseExtension_keeps valid
      have answered := run_caughtOp (.answer parsed.sipCallId ringingPrm) env.answer.fault
        ((world.emit (.action .acceptIncomingSip)).setCtx (fun _ => parsed))
        (fun _ _ same => by cases same) (PjResult.fault_isCallFault env.answer)
      simp only [EStateM.run_bind, run_emit, EStateM.run_get, World.emit, valid, run_setCtx]
      apply Eq.trans answered
      simp [SipOp.id, opFailure, sameId, sameSip]

/-- The dial requests of a Telegram call, for the user record it names. -/
def dialSipPrm (ctxId : String) (userId : Int) (user : User) : CallOpParam :=
  { useDefaultCallSetting := true, headers := dialSipHeaders ctxId userId user }

theorem run_dialSip (env : Env) (call : Call) (world : World) :
    (dialSip env call).run world =
      match env.getUser.error?, env.getUser.user? with
      | some error, _ =>
          .error (.runtimeError error.message)
            (world.after world.ctx
              [.action .dialSip, .query (.getUser call.userId) env.getUser, .logError] [])
      | none, none =>
          .error .wrongObject
            (world.after world.ctx
              [.action .dialSip, .query (.getUser call.userId) env.getUser] [])
      | none, some user =>
          match env.makeCall with
          | .error reason =>
              .ok () (world.after world.ctx
                [.action .dialSip, .query (.getUser call.userId) env.getUser,
                  .dial env.settings.callbackUri
                    (dialSipPrm world.ctx.id call.userId user) (.error reason)]
                [serverError reason])
          | .ok id =>
              .ok () (world.after { world.ctx with sipCallId := id }
                [.action .dialSip, .query (.getUser call.userId) env.getUser,
                  .dial env.settings.callbackUri
                    (dialSipPrm world.ctx.id call.userId user) (.ok id),
                  .associatedSip id] []) := by
  unfold dialSip
  cases env.getUser.error? with
  | some error => simp
  | none =>
      cases env.getUser.user? with
      | none => simp
      | some user =>
          cases dialled : env.makeCall <;>
            simp [run_catchPj, run_clientDial, dialled, dialSipPrm]

def stopEffects (ctx : Context) : List Effect :=
  if ctx.controller.isSome then [.controllerStop] else []

def discardEffects (ctx : Context) (reply : Object) : List Effect :=
  if ctx.tgCallId ≠ 0 then
    .query (.discardCall ctx.tgCallId false 0 false ctx.tgCallId) reply ::
      failureLog reply.error?.isSome
  else []

def hangupEffects (ctx : Context) (target : Option CallRef) (failure : Option Fault) :
    List Effect :=
  if ctx.sipCallId ≠ invalidId then
    .sip (.hangup ctx.sipCallId ctx.hangupPrm) target failure :: failureLog failure.isSome
  else []

def cleanUpEffects (ctx : Context) (reply : Object) (target : Option CallRef)
    (failure : Option Fault) : List Effect :=
  .action .cleanUp ::
    (stopEffects ctx ++ (discardEffects ctx reply ++ hangupEffects ctx target failure))

/-- A hangup of an id without an entry does nothing and does not fail. -/
def hangupFailure (env : Env) (target : Option CallRef) : Option Fault :=
  match target with
  | none => none
  | some _ => env.hangup.fault

theorem run_stopController (world : World) :
    stopController.run world = .ok () (world.after world.ctx (stopEffects world.ctx) []) := by
  unfold stopController stopEffects
  by_cases present : world.ctx.controller.isSome = true
  · simp [present]
  · simp [present]

theorem run_discardTgCall (env : Env) (world : World) :
    (discardTgCall env).run world =
      .ok () (world.after { world.ctx with tgCallId := 0 }
        (discardEffects world.ctx env.discardCall) []) := by
  unfold discardTgCall discardEffects
  by_cases absent : world.ctx.tgCallId = 0
  · have unchanged : { world.ctx with tgCallId := 0 } = world.ctx := by
      rw [← absent]
    simp [absent, unchanged]
  · by_cases failed : env.discardCall.error?.isSome = true
    · simp [absent, failed, failureLog]
    · simp [absent, failed, failureLog]

theorem run_hangupSipCall (env : Env) (world : World) :
    (hangupSipCall env).run world =
      .ok () (world.after { world.ctx with sipCallId := invalidId }
        (hangupEffects world.ctx (world.sip.calls world.ctx.sipCallId)
          (hangupFailure env (world.sip.calls world.ctx.sipCallId))) []) := by
  unfold hangupSipCall hangupEffects
  by_cases absent : world.ctx.sipCallId = invalidId
  · have unchanged : { world.ctx with sipCallId := invalidId } = world.ctx := by
      rw [← absent]
    simp [absent, unchanged]
  · cases found : world.sip.calls world.ctx.sipCallId with
    | none =>
        simp [absent, found, run_catchPj, run_clientHangup, failureLog, hangupFailure]
    | some call =>
        cases hung : env.hangup <;>
          simp [absent, found, hung, run_catchPj, run_clientHangup, failureLog, hangupFailure,
            PjResult.fault]

theorem apply_discardEffects (client : SipClient) (ctx : Context) (reply : Object) :
    (discardEffects ctx reply).foldl SipClient.apply client = client := by
  unfold discardEffects failureLog
  split
  · split <;> rfl
  · rfl

theorem apply_stopEffects (client : SipClient) (ctx : Context) :
    (stopEffects ctx).foldl SipClient.apply client = client := by
  unfold stopEffects
  split <;> rfl

/-- `CleanUp` always returns; it releases what the context holds on entry. -/
theorem run_cleanUp (env : Env) (world : World) :
    (cleanUp env).run world =
      .ok () (world.after { world.ctx with tgCallId := 0, sipCallId := invalidId }
        (cleanUpEffects world.ctx env.discardCall (world.sip.calls world.ctx.sipCallId)
          (hangupFailure env (world.sip.calls world.ctx.sipCallId))) []) := by
  have announced : world.emit (.action .cleanUp) =
      world.after world.ctx [.action .cleanUp] [] := by
    simp
  -- Neither the stop nor the discard changes the registry the hangup looks at.
  have untouched : (stopEffects world.ctx ++ discardEffects world.ctx env.discardCall).foldl
      SipClient.apply world.sip = world.sip := by
    rw [List.foldl_append, apply_stopEffects, apply_discardEffects]
  unfold cleanUp
  simp only [EStateM.run_bind, run_emit, announced, run_stopController, run_discardTgCall,
    run_hangupSipCall, World.after_ctx, World.after_sip, World.after_after, List.append_nil,
    List.cons_append, List.nil_append, List.foldl_cons, SipClient.apply, untouched]
  simp only [cleanUpEffects, hangupEffects, List.append_assoc]

end Tg2Sip.Cpp
