/-
The actions that do not read the cache.

An action that reads neither the cache nor the effects before it does the same
behind another cache and behind other effects.  Every row of the three tables
is free in this sense but the one that dials.
-/

import Tg2Sip.Cpp.DialTg
import Tg2Sip.Cpp.Machine

namespace Tg2Sip.Cpp

open Exceptions (Equivariant mapState)

def World.given (world : World) (cache : Cache) (earlier : List Effect) : World :=
  { world with cache := cache, trace := earlier ++ world.trace }

theorem World.given_after (world : World) (cache : Cache) (earlier : List Effect) (ctx : Context)
    (effects : List Effect) (errors : List CallOpParam) :
    (world.given cache earlier).after ctx effects errors =
      (world.after ctx effects errors).given cache earlier := by
  simp only [World.after, World.given, List.append_assoc]

theorem World.given_emit (world : World) (cache : Cache) (earlier : List Effect)
    (effect : Effect) :
    (world.given cache earlier).emit effect = (world.emit effect).given cache earlier := by
  simp only [World.emit, World.given, List.append_assoc]

/-- The action reads neither the cache nor the effects before it. -/
def CacheFree {Value : Type} (action : Act Value) : Prop :=
  ∀ cache earlier, Equivariant (fun world => world.given cache earlier) action

theorem CacheFree.pure {Value : Type} (value : Value) : CacheFree (pure value : Act Value) :=
  fun _ _ => .pure _ value

theorem CacheFree.bind {First Second : Type} {first : Act First} {second : First → Act Second}
    (firstFree : CacheFree first) (secondFree : ∀ value, CacheFree (second value)) :
    CacheFree (first >>= second) :=
  fun cache earlier => (firstFree cache earlier).bind (fun value => secondFree value cache earlier)

theorem CacheFree.throw {Value : Type} (thrown : Fault) :
    CacheFree (throw thrown : Act Value) := fun _ _ => .throw _ thrown

theorem emit_cacheFree (effect : Effect) : CacheFree (emit effect) := by
  intro cache earlier world
  rw [run_emit, run_emit, World.given_emit]
  rfl

theorem enqueue_cacheFree (prm : CallOpParam) : CacheFree (enqueue prm) := by
  intro cache earlier world
  rfl

theorem setCtx_cacheFree (change : Context → Context) : CacheFree (setCtx change) := by
  intro cache earlier world
  rfl

theorem storeSipId_cacheFree (id : Int) : CacheFree (storeSipId id) := by
  intro cache earlier world
  rw [run_storeSipId, run_storeSipId, World.given_after]
  rfl

theorem storeTgId_cacheFree (call : Call) : CacheFree (storeTgId call) := by
  intro cache earlier world
  rw [run_storeTgId, run_storeTgId, World.given_after]
  rfl

theorem storeTgUserId_cacheFree (call : Call) : CacheFree (storeTgUserId call) := by
  intro cache earlier world
  rw [run_storeTgUserId, run_storeTgUserId, World.given_after]
  rfl

theorem cleanTgId_cacheFree : CacheFree cleanTgId := by
  intro cache earlier world
  rw [run_cleanTgId, run_cleanTgId, World.given_after]
  rfl

theorem cleanSipId_cacheFree : CacheFree cleanSipId := by
  intro cache earlier world
  rw [run_cleanSipId, run_cleanSipId, World.given_after]
  rfl

theorem setHangupPrm_cacheFree (error : InternalError) : CacheFree (setHangupPrm error) := by
  intro cache earlier world
  rw [run_setHangupPrm, run_setHangupPrm, World.given_after]
  rfl

theorem createTgVoip_cacheFree (env : Env) (call : Call) (ready : CallReady) :
    CacheFree (createTgVoip env call ready) := by
  intro cache earlier world
  rw [run_createTgVoip, run_createTgVoip]
  cases env.voipController with
  | error reason => exact congrArg (EStateM.Result.error _) (World.given_after ..)
  | ok done => exact congrArg (EStateM.Result.ok ()) (World.given_after ..)

theorem answerTg_cacheFree (env : Env) : CacheFree (answerTg env) := by
  intro cache earlier world
  rw [run_answerTg, run_answerTg, World.given_after]
  rfl

theorem answerSip_cacheFree (env : Env) : CacheFree (answerSip env) := by
  intro cache earlier world
  rw [run_answerSip, run_answerSip, World.given_after]
  rfl

theorem cleanUp_cacheFree (env : Env) : CacheFree (cleanUp env) := by
  intro cache earlier world
  rw [run_cleanUp, run_cleanUp, World.given_after]
  rfl

theorem acceptIncomingSip_cacheFree (env : Env) (ext : String) :
    CacheFree (acceptIncomingSip env ext) := by
  intro cache earlier world
  have same : (world.given cache earlier).ctx = world.ctx := rfl
  rw [run_acceptIncomingSip, run_acceptIncomingSip, same]
  cases parseExtension ext world.ctx <;>
    exact congrArg (EStateM.Result.ok ()) (World.given_after ..)

theorem bridgeAudio_cacheFree (env : Env) : CacheFree (bridgeAudio env) := by
  intro cache earlier world
  have same : (world.given cache earlier).ctx = world.ctx := rfl
  rw [run_bridgeAudio, run_bridgeAudio, same]
  cases world.ctx.controller.isSome with
  | true => exact congrArg (EStateM.Result.ok ()) (World.given_after ..)
  | false => exact congrArg (EStateM.Result.error _) (World.given_emit ..)

theorem dialDtmf_cacheFree (env : Env) (digits : String) : CacheFree (dialDtmf env digits) := by
  intro cache earlier world
  have sameCtx : (world.given cache earlier).ctx = world.ctx := rfl
  have sameSip : (world.given cache earlier).sip = world.sip := rfl
  rw [run_dialDtmf, run_dialDtmf, sameCtx, sameSip]
  cases world.sip.calls world.ctx.sipCallId with
  | none => exact congrArg (EStateM.Result.error _) (World.given_after ..)
  | some call => exact congrArg (EStateM.Result.ok ()) (World.given_after ..)

theorem dialSip_cacheFree (env : Env) (call : Call) : CacheFree (dialSip env call) := by
  intro cache earlier world
  rw [run_dialSip, run_dialSip]
  cases env.getUser.error? with
  | some error => exact congrArg (EStateM.Result.error _) (World.given_after ..)
  | none =>
      cases env.getUser.user? with
      | none => exact congrArg (EStateM.Result.error _) (World.given_after ..)
      | some user =>
          cases env.makeCall <;> exact congrArg (EStateM.Result.ok ()) (World.given_after ..)

theorem parseError_cacheFree (env : Env) (error : TdError) : CacheFree (parseError env error) := by
  intro cache earlier world
  rw [run_parseError, run_parseError]
  split <;> rfl

theorem dialFailed_cacheFree (env : Env) (error : TdError) : CacheFree (dialFailed env error) :=
  (emit_cacheFree _).bind (fun _ => (enqueue_cacheFree _).bind (fun _ =>
    parseError_cacheFree env error))

theorem dialById_cacheFree (env : Env) (id : Int) : CacheFree (dialById env id) := by
  unfold dialById
  apply (emit_cacheFree _).bind
  intro _
  cases env.createCall.error? with
  | some error => exact dialFailed_cacheFree env error
  | none =>
      cases env.createCall.callId? with
      | none => exact .throw _
      | some callId => exact (emit_cacheFree _).bind (fun _ => setCtx_cacheFree _)

/-! ### Rows that do not read the cache -/

def RowFree (accept : Event → Option (Act Unit)) : Prop :=
  ∀ event action, accept event = some action → CacheFree action

theorem onUpdateCall_free {guard : Call → Bool} {action : Call → Act Unit}
    (free : ∀ call, CacheFree (action call)) : RowFree (onUpdateCall guard action) := by
  intro event chosen accepted
  cases event with
  | updateCall call =>
      simp only [onUpdateCall] at accepted
      split at accepted
      · cases accepted
        exact free call
      · cases accepted
  | _ => cases accepted

theorem onReady_free {action : Call → CallReady → Act Unit}
    (free : ∀ call ready, CacheFree (action call ready)) : RowFree (onReady action) := by
  intro event chosen accepted
  cases event with
  | updateCall call =>
      obtain ⟨ready, _, rfl⟩ := Option.map_eq_some_iff.mp accepted
      exact free call ready
  | _ => cases accepted

theorem onIncomingCall_free {action : Int → String → Act Unit}
    (free : ∀ id ext, CacheFree (action id ext)) : RowFree (onIncomingCall action) := by
  intro event chosen accepted
  cases event with
  | incomingCall id ext =>
      cases accepted
      exact free id ext
  | _ => cases accepted

theorem onCallState_free {guard : InvState → Bool} {action : Act Unit}
    (free : CacheFree action) : RowFree (onCallState guard action) := by
  intro event chosen accepted
  cases event with
  | callStateUpdate id state =>
      simp only [onCallState] at accepted
      split at accepted
      · cases accepted
        exact free
      · cases accepted
  | _ => cases accepted

theorem onMedia_free {guard : Bool → Bool} {action : Act Unit} (free : CacheFree action) :
    RowFree (onMedia guard action) := by
  intro event chosen accepted
  cases event with
  | callMediaStateUpdate id hasMedia =>
      simp only [onMedia] at accepted
      split at accepted
      · cases accepted
        exact free
      · cases accepted
  | _ => cases accepted

theorem onDtmfMessage_free {action : String → Act Unit}
    (free : ∀ digits, CacheFree (action digits)) : RowFree (onDtmfMessage action) := by
  intro event chosen accepted
  cases event with
  | updateNewMessage message =>
      obtain ⟨digits, _, rfl⟩ := Option.map_eq_some_iff.mp accepted
      exact free digits
  | _ => cases accepted

theorem onInternalError_free {action : InternalError → Act Unit}
    (free : ∀ error, CacheFree (action error)) : RowFree (onInternalError action) := by
  intro event chosen accepted
  cases event with
  | internalError error =>
      cases accepted
      exact free error
  | _ => cases accepted

theorem fromTg_free (env : Env) : ∀ row ∈ fromTg env, RowFree row.accept := by
  simp only [fromTg, List.forall_mem_cons]
  refine ⟨onMedia_free (answerTg_cacheFree env), onReady_free (fun call ready => ?_),
    onDtmfMessage_free (dialDtmf_cacheFree env), List.forall_mem_nil _⟩
  exact (createTgVoip_cacheFree env call ready).bind (fun _ => bridgeAudio_cacheFree env)

theorem stateMachine_free (env : Env) : ∀ row ∈ stateMachine env, RowFree row.accept := by
  simp only [stateMachine, List.forall_mem_cons]
  refine ⟨onUpdateCall_free (fun call => ?_), onUpdateCall_free storeTgId_cacheFree,
    onUpdateCall_free (fun _ => .pure ()), onIncomingCall_free (fun id ext => ?_),
    onCallState_free (.pure ()), onMedia_free (.pure ()),
    onUpdateCall_free (fun _ => cleanTgId_cacheFree), onCallState_free cleanSipId_cacheFree,
    onInternalError_free setHangupPrm_cacheFree,
    onUpdateCall_free (fun _ => cleanTgId_cacheFree),
    onInternalError_free setHangupPrm_cacheFree, onCallState_free cleanSipId_cacheFree,
    List.forall_mem_nil _⟩
  · exact (storeTgId_cacheFree call).bind (fun _ =>
      (storeTgUserId_cacheFree call).bind (fun _ => dialSip_cacheFree env call))
  · exact (storeSipId_cacheFree id).bind (fun _ => acceptIncomingSip_cacheFree env ext)

/-- One row of the table dials. -/
theorem fromSip_free (env : Env) : ∀ row ∈ fromSip env, RowFree row.accept ∨
    row.accept = onCallState (fun state => state == .early) (dialTg env) ∧
      row.target = .fromSip .waitTg := by
  simp only [fromSip, List.forall_mem_cons]
  refine ⟨.inr ⟨trivial, trivial⟩, .inl (onReady_free (fun call ready => ?_)),
    .inl (onMedia_free (bridgeAudio_cacheFree env)),
    .inl (onDtmfMessage_free (dialDtmf_cacheFree env)), List.forall_mem_nil _⟩
  exact (storeTgUserId_cacheFree call).bind (fun _ =>
    (createTgVoip_cacheFree env call ready).bind (fun _ => answerSip_cacheFree env))

theorem onEntry_cacheFree (env : Env) (state : SmState) : CacheFree (onEntry env state) := by
  cases state with
  | x => exact cleanUp_cacheFree env
  | _ => exact .pure ()

/-- An event is processed without the cache, or it is the state of a SIP call
that makes the machine dial. -/
theorem machine_free_or_dials (env : Env) (state : SmState) (event : Event) :
    CacheFree ((machine env).processEvent state event) ∨
      (∃ id callState, event = .callStateUpdate id callState) ∧
        (machine env).processEvent state event =
          (do dialTg env; pure (.fromSip .waitTg)) := by
  cases selected : (machine env).select state event with
  | none =>
      rw [StateTable.Machine.processEvent_of_select_none selected]
      exact .inl (.pure state)
  | some fired =>
      obtain ⟨target, action⟩ := fired
      rw [StateTable.Machine.processEvent_of_select_some selected]
      obtain ⟨row, member, fires⟩ := List.exists_of_findSome?_eq_some selected
      have accepted : row.accept event = some action ∧ row.target = target := by
        unfold StateTable.Row.fire at fires
        split at fires
        · obtain ⟨chosen, accepts, same⟩ := Option.map_eq_some_iff.mp fires
          cases same
          exact ⟨accepts, rfl⟩
        · cases fires
      have free (rowFree : RowFree row.accept) :
          CacheFree (do action; (machine env).onEntry target; pure target) :=
        (rowFree event action accepted.1).bind (fun _ =>
          (onEntry_cacheFree env target).bind (fun _ => .pure target))
      rcases List.mem_append.mp member with nested | enclosing
      · rcases List.mem_append.mp nested with tg | sip
        · exact .inl (free (fromTg_free env row tg))
        · rcases fromSip_free env row sip with rowFree | ⟨accepts, waits⟩
          · exact .inl (free rowFree)
          · have chosen := accepted.1
            rw [accepts] at chosen
            cases event with
            | callStateUpdate id callState =>
                simp only [onCallState] at chosen
                split at chosen
                · cases chosen
                  rw [← accepted.2, waits]
                  exact .inr ⟨⟨id, callState, rfl⟩, rfl⟩
                · cases chosen
            | _ => cases chosen
      · exact .inl (free (stateMachine_free env row enclosing))

end Tg2Sip.Cpp
