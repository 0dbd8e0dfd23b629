/-
Containment of failures.

A failed exchange with Telegram or with the SIP side is contained when it is
logged or queued for the context it belongs to, and the event is survived when
no exception leaves its row.  Which events are survived is a condition on the
answers of the outside: `DialSip` rethrows the error of `getUser`, `DialDtmf`
does not catch the `CALL_NOT_FOUND` of the call registry, `CreateTgVoip` does
not catch what the constructor of its controller throws, `parse_error` reads a
number with `std::stoi`, and a reply of another class is cast unchecked.
-/

import Tg2Sip.Cpp.WellFormed

namespace Tg2Sip.Cpp

/-- The number behind "retry after", if there is one, fits in an `int`. -/
def RetryFits (env : Env) (error : TdError) : Prop :=
  flood env.settings error.message ≠ .overflow

def CreateAnswered (env : Env) : Prop :=
  (∃ id, env.createCall = .callId id) ∨
    ∃ error, env.createCall = .error error ∧ RetryFits env error

def UsernameAnswered (env : Env) (ctx : Context) (cache : Cache) : Prop :=
  match cache.usernameCache ctx.extUsername with
  | some _ => CreateAnswered env
  | none =>
      (∃ error, env.searchPublicChat = .error error ∧ RetryFits env error) ∨
        ∃ chat, env.searchPublicChat = .chat chat ∧
          (chat.type = .private → CreateAnswered env)

def PhoneAnswered (env : Env) (ctx : Context) (cache : Cache) : Prop :=
  match cache.phoneCache ctx.extPhone with
  | some _ => CreateAnswered env
  | none =>
      (∃ error, env.importContacts = .error error ∧ RetryFits env error) ∨
        ∃ userId rest, env.importContacts = .importedContacts (userId :: rest) ∧
          (userId ≠ 0 → CreateAnswered env)

/-- Every request of a dial that is not blocked has an answer that it can read. -/
def DialAnswered (env : Env) (ctx : Context) (cache : Cache) (block : Int) : Prop :=
  block ≤ env.now →
    if ctx.extUsername.isEmpty = false then UsernameAnswered env ctx cache
    else if ctx.extPhone.isEmpty = false then PhoneAnswered env ctx cache
    else CreateAnswered env

/-- The digits of a message are only sent into a call that the registry has. -/
def DtmfAnswered (gateway : Gateway) (ctx : Context) (message : Message) : Prop :=
  message.content.dtmf? ≠ none → gateway.sip.calls ctx.sipCallId ≠ none

/-- A ready call gets its controller when pjsip takes both media ports. -/
def ControllerConstructed (env : Env) (call : Call) : Prop :=
  call.state.ready? ≠ none → env.voipController = .ok ()

/-- The rows whose action can throw, and what keeps each from it. -/
def Survives (gateway : Gateway) (env : Env) (bridge : Bridge) (event : Event) : Prop :=
  match bridge.state, event with
  | .init, .updateCall call =>
      (isIncoming call && call.state.isPending && callbackUriIsSet env.settings) = true →
        ∃ user, env.getUser = .user user
  | .fromTg .waitTg, .updateCall call => ControllerConstructed env call
  | .fromSip .sipWaitConfirm, .callStateUpdate _ .early =>
      DialAnswered env bridge.ctx gateway.cache gateway.blockUntil
  | .fromSip .waitTg, .updateCall call => ControllerConstructed env call
  | .fromTg .waitDtmf, .updateNewMessage message => DtmfAnswered gateway bridge.ctx message
  | .fromSip .waitDtmf, .updateNewMessage message => DtmfAnswered gateway bridge.ctx message
  | _, _ => True

theorem retryFault_eq_none_iff (env : Env) (error : TdError) :
    retryFault env error = none ↔ RetryFits env error := by
  unfold retryFault RetryFits
  split <;> simp_all

theorem createFault_eq_none_iff (env : Env) : createFault env = none ↔ CreateAnswered env := by
  unfold createFault CreateAnswered
  cases env.createCall <;> simp [retryFault_eq_none_iff]

theorem usernameFault_eq_none_iff (env : Env) (ctx : Context) (cache : Cache) :
    usernameFault env ctx cache = none ↔ UsernameAnswered env ctx cache := by
  unfold usernameFault UsernameAnswered
  cases cache.usernameCache ctx.extUsername with
  | some userId => exact createFault_eq_none_iff env
  | none =>
      cases env.searchPublicChat with
      | chat chat => cases kind : chat.type <;> simp [kind, createFault_eq_none_iff]
      | _ => simp [retryFault_eq_none_iff]

theorem phoneFault_eq_none_iff (env : Env) (ctx : Context) (cache : Cache) :
    phoneFault env ctx cache = none ↔ PhoneAnswered env ctx cache := by
  unfold phoneFault PhoneAnswered
  cases cache.phoneCache ctx.extPhone with
  | some userId => exact createFault_eq_none_iff env
  | none =>
      cases env.importContacts with
      | importedContacts userIds =>
          cases userIds with
          | nil => simp
          | cons userId rest =>
              by_cases unregistered : userId = 0 <;>
                simp [unregistered, createFault_eq_none_iff]
      | _ => simp [retryFault_eq_none_iff]

theorem dialFault_eq_none_iff (env : Env) (ctx : Context) (cache : Cache) (block : Int) :
    dialFault env ctx cache block = none ↔ DialAnswered env ctx cache block := by
  unfold dialFault DialAnswered
  by_cases blocked : env.now < block
  · rw [if_pos blocked]
    have early : ¬block ≤ env.now := by omega
    simp only [early, false_implies]
  · rw [if_neg blocked]
    have free : block ≤ env.now := by omega
    simp only [free, true_implies]
    cases named : ctx.extUsername.isEmpty with
    | false => simpa using usernameFault_eq_none_iff env ctx cache
    | true =>
        cases numbered : ctx.extPhone.isEmpty with
        | false => simpa using phoneFault_eq_none_iff env ctx cache
        | true => simpa using createFault_eq_none_iff env

theorem dtmfFault_eq_none_iff (gateway : Gateway) (ctx : Context) (message : Message) :
    dtmfFault (gateway.world ctx) message = none ↔ DtmfAnswered gateway ctx message := by
  change (if message.content.dtmf?.isSome && (gateway.sip.calls ctx.sipCallId).isNone then
    some (Fault.runtimeError "CALL_NOT_FOUND") else none) = none ↔ _
  unfold DtmfAnswered
  cases message.content.dtmf? <;> cases gateway.sip.calls ctx.sipCallId <;> simp

theorem voipFault_eq_none_iff (env : Env) (call : Call) :
    voipFault env call = none ↔ ControllerConstructed env call := by
  unfold voipFault ControllerConstructed
  cases call.state.ready? with
  | none => simp
  | some ready => cases env.voipController <;> simp [PjResult.fault]

theorem getUserFault_eq_none_iff (env : Env) :
    getUserFault env = none ↔ ∃ user, env.getUser = .user user := by
  unfold getUserFault
  cases env.getUser <;> simp

theorem escape_eq_none_iff {gateway : Gateway} {env : Env} {bridge : Bridge} {event : Event}
    (voip : bridge.state.hasVoip = true → bridge.ctx.controller.isSome = true) :
    escape env (gateway.world bridge.ctx) bridge.state event = none ↔
      Survives gateway env bridge event := by
  obtain ⟨ctx, state⟩ := bridge
  unfold escape Survives
  dsimp only
  split
  · split
    · rename_i pending
      simp [getUserFault_eq_none_iff, pending]
    · rename_i pending
      simp [pending]
  · exact voipFault_eq_none_iff env _
  · exact dialFault_eq_none_iff _ _ _ _
  · exact voipFault_eq_none_iff env _
  · have present : (gateway.world ctx).ctx.controller.isNone = false := by
      have isSome : ctx.controller.isSome = true := voip rfl
      rw [Option.isSome_iff_exists] at isSome
      obtain ⟨controller, isController⟩ := isSome
      simp [Gateway.world, isController]
    simp [present]
  · exact dtmfFault_eq_none_iff gateway ctx _
  · exact dtmfFault_eq_none_iff gateway ctx _
  · split <;> simp_all

/-! ### Reports -/

/-- Every failed exchange is logged right after it, or an error is queued. -/
def Reported (errors : List CallOpParam) : List Effect → Prop
  | [] => True
  | effect :: rest =>
      (effect.failed = true → rest.head? = some .logError ∨ errors ≠ []) ∧
        Reported errors rest

theorem Reported.append {errors : List CallOpParam} {first second : List Effect}
    (left : Reported errors first) (right : Reported errors second) :
    Reported errors (first ++ second) := by
  induction first with
  | nil => exact right
  | cons effect rest ih =>
      refine ⟨?_, ih left.2⟩
      intro failed
      rcases left.1 failed with logged | queued
      · left
        change (rest ++ second).head? = some .logError
        rw [List.head?_append, logged]
        rfl
      · exact .inr queued

theorem Reported.cons {errors : List CallOpParam} {effect : Effect} {rest : List Effect}
    (quiet : effect.failed = false) (reported : Reported errors rest) :
    Reported errors (effect :: rest) := by
  refine ⟨?_, reported⟩
  intro failed
  rw [quiet] at failed
  cases failed

theorem Reported.of_quiet {errors : List CallOpParam} {effects : List Effect}
    (quiet : ∀ effect ∈ effects, effect.failed = false) : Reported errors effects := by
  induction effects with
  | nil => trivial
  | cons effect rest ih =>
      apply Reported.cons (quiet effect List.mem_cons_self)
      exact ih (fun other member => quiet other (List.mem_cons_of_mem _ member))

theorem Reported.of_errors {errors : List CallOpParam} (queued : errors ≠ [])
    (effects : List Effect) : Reported errors effects := by
  induction effects with
  | nil => trivial
  | cons effect rest ih => exact ⟨fun _ => .inr queued, ih⟩

@[simp] theorem Effect.failed_query (query : Query) (reply : Object) :
    (Effect.query query reply).failed = reply.error?.isSome := by
  cases reply <;> rfl

@[simp] theorem Effect.failed_sip (op : SipOp) (target : Option CallRef)
    (failure : Option Fault) : (Effect.sip op target failure).failed = failure.isSome := by
  cases failure <;> rfl

theorem Reported.logged {errors : List CallOpParam} {effect : Effect} {failed : Bool}
    (same : effect.failed = failed) :
    Reported errors (effect :: failureLog failed) := by
  unfold failureLog
  cases failed with
  | true => exact ⟨fun _ => .inl rfl, Reported.cons rfl trivial⟩
  | false => exact Reported.cons same trivial

theorem closingEffects_reported (env : Env) (client : SipClient) (ctx : Context)
    (errors : List CallOpParam) : Reported errors (closingEffects env client ctx) := by
  unfold closingEffects cleanUpEffects
  refine ⟨nofun, Reported.append ?_ (Reported.append ?_ ?_)⟩
  · unfold stopEffects
    split
    · exact ⟨nofun, trivial⟩
    · trivial
  · unfold discardEffects
    split
    · exact Reported.logged (Effect.failed_query _ _)
    · trivial
  · unfold hangupEffects
    split
    · exact Reported.logged (Effect.failed_sip _ _ _)
    · trivial

theorem Reported.queued {op : SipOp} {target : Option CallRef} {failure : Option Fault}
    (announced : List Effect) (quiet : ∀ effect ∈ announced, effect.failed = false) :
    Reported (failureErrors failure) (announced ++ [Effect.sip op target failure]) := by
  cases failure with
  | none =>
      apply Reported.append (Reported.of_quiet quiet)
      exact Reported.cons rfl trivial
  | some fault => exact Reported.of_errors (List.cons_ne_nil _ _) _

theorem Removal.announced_quiet {env : Env} {ctx closing : Context} {state : SmState}
    {event : Event} {announced : List Effect}
    (removal : Removal env ctx state event closing announced) :
    ∀ effect ∈ announced, effect.failed = false := by
  cases removal <;> simp [Effect.failed]

theorem DialTrace.reported {env : Env} {ctx : Context} {cache cacheAfter : Cache}
    {block blockAfter : Int} {effects : List Effect} {tg : Option Int}
    {errors : List CallOpParam}
    (traced : DialTrace env ctx cache block effects tg errors cacheAfter blockAfter) :
    Reported errors effects := by
  rcases traced.reports with ⟨id, rfl, answered⟩ | ⟨_, queued⟩
  · cases traced with
    | dialled free resolved created =>
        cases created with
        | created answered =>
            apply Reported.of_quiet
            cases resolved <;> simp [Effect.failed]
  · exact Reported.of_errors queued _

theorem Life.reported {env : Env} {world : World} {state : SmState} {event : Event}
    {change : Change} (life : Life env world state event change) :
    Reported change.errors change.effects := by
  cases life with
  | dialled incoming pending uri answered dialled =>
      apply Reported.of_quiet
      simp [World.moved, diallingEffects, dialled, Effect.failed]
  | undialled incoming pending uri answered failed =>
      exact Reported.of_errors (List.cons_ne_nil _ _) _
  | @accepted id ext parsed extension =>
      exact Reported.queued [.action .storeSipId, .associatedSip id,
        .action .acceptIncomingSip] (by simp [Effect.failed])
  | badExtension extension => exact Reported.of_errors (List.cons_ne_nil _ _) _
  | answeredTg =>
      apply Reported.cons rfl
      exact Reported.logged (Effect.failed_query _ _)
  | readyTg reached =>
      exact Reported.queued (voipEffects ++ [Effect.action .bridgeAudio])
        (by simp [voipEffects, Effect.failed])
  | dialledTg traced => exact Reported.cons rfl traced.reported
  | readySip reached =>
      exact Reported.queued (.action .storeTgUserId :: (voipEffects ++
        [Effect.action .answerSip])) (by simp [voipEffects, Effect.failed])
  | bridgedSip present =>
      exact Reported.queued [.action .bridgeAudio] (by simp [Effect.failed])
  | dtmf final digits found =>
      apply Reported.cons rfl
      exact Reported.logged (Effect.failed_sip _ _ _)
  | ignored unselected => trivial
  | removed removal =>
      exact (Reported.of_quiet removal.announced_quiet).append
        (closingEffects_reported _ _ _ _)

/-- Every failed exchange is logged right after it, or an error is queued for
the context it was made for. -/
def Contained (queued : List InternalError) : List Logged → Prop
  | [] => True
  | (ctxId, effect) :: rest =>
      (effect.failed = true → rest.head? = some (ctxId, .logError) ∨
        ∃ error ∈ queued, error.ctxId = ctxId) ∧ Contained queued rest

theorem contained_tagged {ctxId : String} {errors : List CallOpParam} {effects : List Effect}
    (reported : Reported errors effects) :
    Contained (errors.map (InternalError.mk ctxId)) (tagged ctxId effects) := by
  induction effects with
  | nil => trivial
  | cons effect rest ih =>
      refine ⟨?_, ih reported.2⟩
      intro failed
      rcases reported.1 failed with logged | queued
      · left
        change (rest.map (fun effect => (ctxId, effect))).head? = some (ctxId, .logError)
        rw [List.head?_map, logged]
        rfl
      · obtain ⟨prm, member⟩ := List.exists_mem_of_ne_nil _ queued
        exact .inr ⟨⟨ctxId, prm⟩, List.mem_map.mpr ⟨prm, member, rfl⟩, rfl⟩

theorem stage_reported {errors : List CallOpParam} {announced effects marks : List Effect}
    {event : Event} (begun : announced = [] ∨ announced = [.created])
    (marked : marks = [] ∨ marks = [.deleted]) (reported : Reported errors effects) :
    Reported errors (stageEffects announced event effects marks) := by
  unfold stageEffects
  apply Reported.append
  · rcases begun with rfl | rfl
    · trivial
    · exact ⟨nofun, trivial⟩
  · refine ⟨nofun, reported.append ?_⟩
    rcases marked with rfl | rfl
    · trivial
    · exact ⟨nofun, trivial⟩

theorem Placed.announces {gateway base : Gateway} {env : Env} {event : Event}
    {before after : List Bridge} {bridge : Bridge} {announced : List Effect}
    (placed : Placed gateway env event before bridge after announced base) :
    announced = [] ∨ announced = [.created] := by
  cases placed with
  | found shape owner earlier => exact .inl rfl
  | opened opens foreign => exact .inr rfl

theorem Processed.contained {gateway target : Gateway} {env : Env} {event : Event}
    {effects : List Logged} (processed : Processed gateway env event effects target) :
    ∃ queued, target.internalEvents = gateway.internalEvents ++ queued ∧
      Contained queued effects := by
  cases processed with
  | unrouted silent foreign => exact ⟨[], (List.append_nil _).symm, trivial⟩
  | kept placed life stays =>
      refine ⟨_, congrArg (· ++ _) placed.internalEvents_eq, contained_tagged ?_⟩
      exact stage_reported placed.announces (.inl rfl) life.reported
  | removed placed life closed =>
      refine ⟨_, congrArg (· ++ _) placed.internalEvents_eq, contained_tagged ?_⟩
      exact stage_reported placed.announces (.inr rfl) life.reported

theorem Run.composed {initial state : Gateway} {taken : List Transition}
    (run : Run initial taken state) (start : initial.bridges = []) :
    ∀ bridge ∈ state.bridges, bridge.Composed := by
  have atStart : ∀ bridge ∈ initial.bridges, bridge.Composed := by
    rw [start]
    exact List.forall_mem_nil _
  apply LabelledMachine.Run.stateInvariant atStart _ run (fun _ _ => trivial)
  intro source label output target composed fired _
  cases step_stepped fired with
  | idle empty => exact composed
  | pjsip => exact composed
  | event offered processed =>
      cases offered with
      | dispatch => exact processed.composed composed
      | popInternal queue => exact processed.composed composed

/-- An event is processed to its end, with every failure contained, exactly
when the machine it reaches survives it. -/
theorem processEvent_contained_iff (pid : Nat) (cache : Cache) (started : Int)
    (client : SipClient) {taken : List Transition} {state : Gateway}
    (run : Run (Gateway.initial pid cache started client) taken state)
    (env : Env) (event : Event) :
    (∃ target effects queued, state.processEvent env event = .returned target effects ∧
        target.internalEvents = state.internalEvents ++ queued ∧ Contained queued effects) ↔
      ∀ bridge, state.receiver env event = some bridge → Survives state env bridge event := by
  have composed := run.composed rfl
  have thrown := processEvent_fault state env event
  constructor
  · rintro ⟨target, effects, queued, returned, _⟩ bridge received
    rw [returned, received] at thrown
    apply (escape_eq_none_iff ?_).mp thrown.symm
    rcases (receiver_receives received).started composed with held | ⟨initial, _⟩
    · exact held.voip
    · rw [initial]
      exact nofun
  · intro survived
    cases outcome : state.processEvent env event with
    | returned target effects =>
        obtain ⟨queued, appended, contained⟩ := (processEvent_processed outcome).contained
        exact ⟨target, effects, queued, rfl, appended, contained⟩
    | terminated fault effects =>
        rw [outcome] at thrown
        obtain ⟨bridge, received, escaped⟩ := Option.bind_eq_some_iff.mp thrown.symm
        have quiet : escape env (state.world bridge.ctx) bridge.state event = none := by
          apply (escape_eq_none_iff ?_).mpr (survived bridge received)
          rcases (receiver_receives received).started composed with held | ⟨initial, _⟩
          · exact held.voip
          · rw [initial]
            exact nofun
        rw [quiet] at escaped
        cases escaped

/-- Telegram refuses `getUser` for the caller of a new call. -/
def Env.refusedUser : Env := { Env.sample with getUser := .error ⟨400, "User not found"⟩ }

def Call.samplePending : Call :=
  { id := 9, userId := 42, isOutgoing := false, state := .pending }

theorem processEvent_contained_of_sample :
    ∃ target effects queued,
      Gateway.sample.processEvent Env.sample (.updateCall .samplePending) =
          .returned target effects ∧
        target.internalEvents = Gateway.sample.internalEvents ++ queued ∧
        Contained queued effects := by
  apply (processEvent_contained_iff _ _ _ _ LabelledMachine.Run.nil Env.sample _).mpr
  intro bridge received
  cases received
  exact fun _ => ⟨_, rfl⟩

theorem getUser_error_terminates :
    Run Gateway.sample [] Gateway.sample ∧
      ¬∃ target effects queued,
        Gateway.sample.processEvent Env.refusedUser (.updateCall .samplePending) =
            .returned target effects ∧
          target.internalEvents = Gateway.sample.internalEvents ++ queued ∧
          Contained queued effects := by
  refine ⟨.nil, ?_⟩
  rintro ⟨target, effects, queued, returned, _⟩
  cases returned

end Tg2Sip.Cpp
