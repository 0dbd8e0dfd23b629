/-
What one step of the Go gateway can do.

`Handled` and `Advanced` list the steps of a SIP handler and of the loop with
everything that they change, and `Stepped` those of the system.  Whatever is
said about runs is derived from them.
-/

import Tg2Sip.Go.Gateway

namespace Tg2Sip.Go

/-- The stages between the registration of a call and `TrackInvite`, where a
handler of another method starts as well. -/
def Stage.isLate : Stage → Bool
  | .sendingEvent => true
  | .sendingInternal => true
  | .tracking => true
  | _ => false

/-- What a handler says before it registers a call, and at its end. -/
inductive Spoken (answers : Answers) (handler : Handler) : List Output → Prop where
  | nothing : Spoken answers handler []
  | created {userID : Int} : handler.stage = .creating userID →
      Spoken answers handler
        [.createCall handler.request.callID userID answers.createCall]
  | responded {status : Nat} {reason : String} :
      Spoken answers handler [.respond handler.request.callID status reason]

inductive Handled (gateway : Gateway) (answers : Answers) (handler : Handler) :
    List Output → Stage → Gateway → Prop where
  | alone {output : List Output} {stage : Stage} (blockUntil : Option Int) :
      Spoken answers handler output → handler.stage.isLate = false → stage.isLate = false →
      Handled gateway answers handler output stage { gateway with blockUntil := blockUntil }
  | registered {userID : Int} : handler.stage = .registering userID →
      gateway.loop.locks = false →
      Handled gateway answers handler [.registerInvite handler.request.callID userID]
        .sendingEvent
        (gateway.register handler.request.callID (handler.request.context userID))
  | sentEvent {sent : Channel channelCapacity GatewayEvent} : handler.stage = .sendingEvent →
      gateway.events.send handler.request.event = some sent →
      Handled gateway answers handler [] .sendingInternal { gateway with events := sent }
  | sentInternal {sent : Channel channelCapacity InternalEvent} :
      handler.stage = .sendingInternal →
      gateway.internalEvents.send handler.request.internalEvent = some sent →
      Handled gateway answers handler [] handler.request.afterSends
        { gateway with internalEvents := sent }
  | tracked : handler.stage = .tracking →
      Handled gateway answers handler [] (.responding statusTrying "Trying")
        { gateway with
          sessions := gateway.sessions.insert handler.request.callID handler.request.session }

theorem onError_isLate (gateway : Gateway) (error : TgError) {otherwise : Stage}
    (early : otherwise.isLate = false) : (gateway.onError error otherwise).isLate = false := by
  unfold Gateway.onError
  split
  · rfl
  · exact early

theorem checkBlock_cases (gateway : Gateway) (now : Int) :
    gateway.checkBlock now = (.parsing, none) ∧
        (∀ deadline, gateway.blockUntil = some deadline → deadline < now) ∨
      ∃ deadline, gateway.blockUntil = some deadline ∧ now ≤ deadline ∧
        gateway.checkBlock now =
          (.responding statusServiceUnavailable (floodReason (deadline - now)),
            some deadline) := by
  unfold Gateway.checkBlock
  cases gateway.blockUntil with
  | none => exact .inl ⟨rfl, nofun⟩
  | some deadline =>
      dsimp only
      split
      · rename_i passed
        refine .inl ⟨rfl, ?_⟩
        rintro _ ⟨rfl⟩
        exact passed
      · rename_i ahead
        exact .inr ⟨deadline, rfl, Int.not_lt.mp ahead, rfl⟩

theorem checkBlock_isLate (gateway : Gateway) (now : Int) :
    (gateway.checkBlock now).1.isLate = false := by
  rcases checkBlock_cases gateway now with ⟨same, _⟩ | ⟨deadline, _, _, same⟩
  · rw [same]
    exact rfl
  · rw [same]
    exact rfl

theorem handle_handled {gateway target : Gateway} {answers : Answers} {handler : Handler}
    {output : List Output} {stage : Stage}
    (handles : gateway.handle answers handler = some (output, stage, target)) :
    Handled gateway answers handler output stage target := by
  unfold Gateway.handle at handles
  dsimp only at handles
  have alone : ∀ {said : List Output} {next : Stage}, Spoken answers handler said →
      handler.stage.isLate = false → next.isLate = false →
      some (said, next, gateway) = some (output, stage, target) →
      Handled gateway answers handler output stage target := by
    rintro said next spoken early late same
    cases same
    exact .alone gateway.blockUntil spoken early late
  cases position : handler.stage with
  | checking =>
      simp only [position] at handles
      cases handles
      exact .alone _ .nothing (by rw [position]; rfl) (checkBlock_isLate _ _)
  | parsing =>
      simp only [position] at handles
      have early : handler.stage.isLate = false := by rw [position]; rfl
      split at handles
      · exact alone .nothing early (onError_isLate _ _ rfl) handles
      · exact alone .nothing early rfl handles
      · exact alone .nothing early rfl handles
  | resolving =>
      simp only [position] at handles
      have early : handler.stage.isLate = false := by rw [position]; rfl
      split at handles
      · exact alone .nothing early (onError_isLate _ _ rfl) handles
      · exact alone .nothing early rfl handles
      · exact alone .nothing early rfl handles
  | creating userID =>
      simp only [position] at handles
      refine alone (.created position) (by rw [position]; rfl) ?_ handles
      split
      · exact onError_isLate _ _ rfl
      · rfl
  | blocking wait =>
      simp only [position] at handles
      cases handles
      exact .alone _ .nothing (by rw [position]; rfl) rfl
  | unblocking userID =>
      simp only [position] at handles
      cases handles
      exact .alone _ .nothing (by rw [position]; rfl) rfl
  | registering userID =>
      simp only [position] at handles
      split at handles
      · cases handles
      · rename_i unlocked
        cases handles
        exact .registered position (Bool.eq_false_iff.mpr unlocked)
  | sendingEvent =>
      simp only [position] at handles
      split at handles
      · cases handles
      · rename_i sent sends
        cases handles
        exact .sentEvent position sends
  | sendingInternal =>
      simp only [position] at handles
      split at handles
      · cases handles
      · rename_i sent sends
        cases handles
        exact .sentInternal position sends
  | tracking =>
      simp only [position] at handles
      cases handles
      exact .tracked position
  | responding status reason =>
      simp only [position] at handles
      have early : handler.stage.isLate = false := by rw [position]; rfl
      cases transaction : handler.request.hasTx with
      | true =>
          rw [transaction] at handles
          exact alone .responded early rfl handles
      | false =>
          rw [transaction] at handles
          exact alone .nothing early rfl handles
  | done =>
      simp only [position] at handles
      cases handles

/-! ### The loop -/

def Gateway.at (gateway : Gateway) (loop : Loop) : Gateway := { gateway with loop := loop }

inductive Advanced (gateway : Gateway) (answers : Answers) :
    Loop → List Output → Gateway → Prop where
  | accepted {call : TgCall} : answers.accept = none →
      Advanced gateway answers (.accepting call) [.acceptCall call.id none]
        (gateway.at (.fetchingUser call))
  | refused {call : TgCall} {error : TgError} : answers.accept = some error →
      Advanced gateway answers (.accepting call) [.acceptCall call.id (some error)]
        (gateway.at .select)
  | fetched {call : TgCall} {user : User} : answers.getUser = .ok user →
      Advanced gateway answers (.fetchingUser call) [.getUser call.userID none]
        (gateway.at (.registering call user))
  | unfetched {call : TgCall} {error : TgError} : answers.getUser = .error error →
      Advanced gateway answers (.fetchingUser call) [.getUser call.userID (some error)]
        (gateway.at .select)
  | registered {call : TgCall} {user : User} :
      Advanced gateway answers (.registering call user) [.registerCall call.id user.id]
        ((gateway.register call.key (call.context user)).at (.sendingEvent call user))
  | sentEvent {call : TgCall} {user : User} {sent : Channel channelCapacity GatewayEvent} :
      gateway.events.send (.callState call.key "outgoing") = some sent →
      Advanced gateway answers (.sendingEvent call user) []
        ({ gateway with events := sent }.at (.sendingInternal call user))
  | sentInternal {call : TgCall} {user : User}
      {sent : Channel channelCapacity InternalEvent} :
      gateway.internalEvents.send ⟨call.key, .outgoing⟩ = some sent →
      Advanced gateway answers (.sendingInternal call user) []
        ({ gateway with internalEvents := sent }.at (.dialling call user))
  | dialled {call : TgCall} {user : User} {callID tag : String} :
      answers.dial = .ok (callID, tag) →
      Advanced gateway answers (.dialling call user)
        [.dial call.id (buildUserHeaders call.id user) (.ok callID)]
        ({ gateway with
          sessions :=
            gateway.sessions.insert callID ⟨callID, some tag, none, 1, false⟩ }.at .select)
  | undialled {call : TgCall} {user : User} {reason : String} :
      answers.dial = .error reason →
      Advanced gateway answers (.dialling call user)
        [.dial call.id (buildUserHeaders call.id user) (.error reason)] (gateway.at .select)
  | found {digits : String} {sender : Int} {ctx : Context} :
      answers.order.isPerm gateway.calls.keys = true →
      gateway.findCall sender answers.order = some ctx →
      Advanced gateway answers (.findingCall digits sender) []
        (gateway.at (.dialingDtmf ctx.sipCallID digits))
  | unfound {digits : String} {sender : Int} :
      answers.order.isPerm gateway.calls.keys = true →
      gateway.findCall sender answers.order = none →
      Advanced gateway answers (.findingCall digits sender) [] (gateway.at .select)
  | bumped {callID digits : String} {session : CallSession} :
      gateway.sessions.lookup callID = some session →
      Advanced gateway answers (.dialingDtmf callID digits) []
        ({ gateway with
          sessions := gateway.sessions.insert callID
            { session with cseq := session.cseq + 1 } }.at
          (.sendingInfo { session with cseq := session.cseq + 1 } digits))
  | unbumped {callID digits : String} : gateway.sessions.lookup callID = none →
      Advanced gateway answers (.dialingDtmf callID digits) [] (gateway.at .select)
  | sentInfo {session : CallSession} {digits : String} :
      Advanced gateway answers (.sendingInfo session digits)
        [.sendInfo session.callID digits session.cseq answers.info] (gateway.at .select)
  | met {event : InternalEvent} {ref : Ref} : gateway.calls.lookup event.ctxID = some ref →
      Advanced gateway answers (.lookingUp event) [] (gateway.at (.advancing ref event))
  | missed {event : InternalEvent} : gateway.calls.lookup event.ctxID = none →
      Advanced gateway answers (.lookingUp event) [] (gateway.at .select)
  | moved {ref : Ref} {event : InternalEvent} :
      Advanced gateway answers (.advancing ref event) []
        ({ gateway with
          contexts := gateway.contexts.modify ref
            (fun ctx => { ctx with state := event.typ.state }) }.at
          (if event.typ = InternalEventType.cleanup then .cleaning ref (.delete event.ctxID)
            else .select))
  | cleanedNone {ref : Ref} {after : After} {ctx : Context} :
      gateway.contexts[ref]? = some ctx → ctx.sipCallID = "" →
      Advanced gateway answers (.cleaning ref after) ctx.stops
        (gateway.at (.discarding ref after))
  | cleanedUnknown {ref : Ref} {after : After} {ctx : Context} :
      gateway.contexts[ref]? = some ctx → ctx.sipCallID ≠ "" →
      gateway.sessions.lookup ctx.sipCallID = none →
      Advanced gateway answers (.cleaning ref after) (ctx.stops ++ [Output.hangup ctx.sipCallID])
        (gateway.at (.discarding ref after))
  | cleaned {ref : Ref} {after : After} {ctx : Context} {session : CallSession} :
      gateway.contexts[ref]? = some ctx → ctx.sipCallID ≠ "" →
      gateway.sessions.lookup ctx.sipCallID = some session →
      Advanced gateway answers (.cleaning ref after) (ctx.stops ++ [Output.hangup ctx.sipCallID])
        ({ gateway with
          sessions := gateway.sessions.insert ctx.sipCallID
            { session with cseq := session.cseq + 1 } }.at
          (.sendingBye ref { session with cseq := session.cseq + 1 } after))
  | sentBye {ref : Ref} {session : CallSession} {after : After} : answers.bye = true →
      Advanced gateway answers (.sendingBye ref session after)
        [.sendBye session.callID session.cseq true]
        (gateway.at (.forgetting ref session.callID after))
  | lostBye {ref : Ref} {session : CallSession} {after : After} : answers.bye = false →
      Advanced gateway answers (.sendingBye ref session after)
        [.sendBye session.callID session.cseq false] (gateway.at (.discarding ref after))
  | forgot {ref : Ref} {callID : String} {after : After} :
      Advanced gateway answers (.forgetting ref callID after) []
        ({ gateway with sessions := gateway.sessions.erase callID }.at (.discarding ref after))
  | discarded {ref : Ref} {after : After} {ctx : Context} :
      gateway.contexts[ref]? = some ctx →
      Advanced gateway answers (.discarding ref after)
        (if ctx.tgCallID = 0 then [] else [.discardCall ctx.tgCallID answers.discard])
        (gateway.at after.next)
  | deleted {key : String} :
      Advanced gateway answers (.deleting key) []
        ({ gateway with calls := gateway.calls.erase key }.at .select)

theorem clean_advanced {gateway target : Gateway} {answers : Answers} {output : List Output}
    {ref : Ref} {ctx : Context} {after : After} (found : gateway.contexts[ref]? = some ctx)
    (cleans : gateway.clean ref ctx after = (output, target)) :
    Advanced gateway answers (.cleaning ref after) output target := by
  unfold Gateway.clean Gateway.bump at cleans
  by_cases unnamed : ctx.sipCallID = ""
  · rw [if_pos unnamed] at cleans
    cases cleans
    exact .cleanedNone found unnamed
  · rw [if_neg unnamed] at cleans
    cases session : gateway.sessions.lookup ctx.sipCallID with
    | none =>
        simp only [session] at cleans
        cases cleans
        exact .cleanedUnknown found unnamed session
    | some known =>
        simp only [session] at cleans
        cases cleans
        exact .cleaned found unnamed session

theorem advance_advanced {gateway target : Gateway} {answers : Answers} {output : List Output}
    (advances : gateway.advance answers = some (output, target)) :
    Advanced gateway answers gateway.loop output target := by
  unfold Gateway.advance at advances
  cases position : gateway.loop with
  | select =>
      simp only [position] at advances
      cases advances
  | accepting call =>
      simp only [position] at advances
      cases accept : answers.accept with
      | none =>
          simp only [accept, if_pos] at advances
          cases advances
          exact .accepted accept
      | some error =>
          simp only [accept, reduceCtorEq, if_false] at advances
          cases advances
          exact .refused accept
  | fetchingUser call =>
      simp only [position] at advances
      split at advances
      · cases advances
        exact .unfetched ‹_›
      · cases advances
        exact .fetched ‹_›
  | registering call user =>
      simp only [position] at advances
      cases advances
      exact .registered
  | sendingEvent call user =>
      simp only [position] at advances
      split at advances
      · cases advances
      · cases advances
        exact .sentEvent ‹_›
  | sendingInternal call user =>
      simp only [position] at advances
      split at advances
      · cases advances
      · cases advances
        exact .sentInternal ‹_›
  | dialling call user =>
      simp only [position] at advances
      split at advances
      · cases advances
        exact .undialled ‹_›
      · cases advances
        exact .dialled ‹_›
  | findingCall digits sender =>
      simp only [position] at advances
      split at advances
      · split at advances
        · cases advances
          exact .unfound ‹_› ‹_›
        · cases advances
          exact .found ‹_› ‹_›
      · cases advances
  | dialingDtmf callID digits =>
      simp only [position, Gateway.bump] at advances
      cases session : gateway.sessions.lookup callID with
      | none =>
          simp only [session] at advances
          cases advances
          exact .unbumped session
      | some found =>
          simp only [session] at advances
          cases advances
          exact .bumped session
  | sendingInfo session digits =>
      simp only [position] at advances
      cases advances
      exact .sentInfo
  | lookingUp event =>
      simp only [position] at advances
      split at advances
      · cases advances
        exact .missed ‹_›
      · cases advances
        exact .met ‹_›
  | advancing ref event =>
      simp only [position] at advances
      cases advances
      exact .moved
  | cleaning ref after =>
      simp only [position] at advances
      split at advances
      · cases advances
      · exact clean_advanced ‹_› (Option.some.inj advances)
  | sendingBye ref session after =>
      simp only [position] at advances
      cases sent : answers.bye with
      | true =>
          simp only [sent, if_true] at advances
          cases advances
          exact .sentBye sent
      | false =>
          simp only [sent, Bool.false_eq_true, if_false] at advances
          cases advances
          exact .lostBye sent
  | forgetting ref callID after =>
      simp only [position] at advances
      cases advances
      exact .forgot
  | discarding ref after =>
      simp only [position] at advances
      split at advances
      · cases advances
      · cases advances
        exact .discarded ‹_›
  | deleting key =>
      simp only [position] at advances
      cases advances
      exact .deleted
  | stopped =>
      simp only [position] at advances
      cases advances

inductive Stepped (gateway : Gateway) : Label → List Output → Gateway → Prop where
  | request {request : Request} :
      Stepped gateway (.request request) [.received request]
        { gateway with handlers := gateway.handlers ++ [⟨request, request.start⟩] }
  | handler {index : Nat} {answers : Answers} {handler : Handler} {output : List Output}
      {stage : Stage} {target : Gateway} : gateway.handlers[index]? = some handler →
      Handled gateway answers handler output stage target →
      Stepped gateway (.handler index answers) output
        { target with handlers := target.handlers.set index { handler with stage := stage } }
  | update {update : Update} : gateway.loop = .select →
      Stepped gateway (.update update) update.outputs (gateway.at update.begin)
  | receiveEvent {event : GatewayEvent} {rest : Channel channelCapacity GatewayEvent} :
      gateway.loop = .select → gateway.events.receive = some (event, rest) →
      Stepped gateway .receiveEvent [] { gateway with events := rest }
  | receiveInternal {event : InternalEvent} {rest : Channel channelCapacity InternalEvent} :
      gateway.loop = .select → gateway.internalEvents.receive = some (event, rest) →
      Stepped gateway .receiveInternal []
        ({ gateway with internalEvents := rest }.at (.lookingUp event))
  | cancel {order : List String} : gateway.loop = .select →
      order.isPerm gateway.calls.keys = true →
      Stepped gateway (.cancel order) []
        (gateway.at (After.shutdown (order.filterMap gateway.calls.lookup)).next)
  | loop {answers : Answers} {output : List Output} {target : Gateway} :
      Advanced gateway answers gateway.loop output target →
      Stepped gateway (.loop answers) output target
  | response {callID tag : String} :
      Stepped gateway (.response callID tag) [] (gateway.tagRemote callID tag)

theorem tagRemote_eq (gateway : Gateway) (callID tag : String) :
    ∃ sessions, gateway.tagRemote callID tag = { gateway with sessions := sessions } := by
  unfold Gateway.tagRemote
  split
  · exact ⟨gateway.sessions, rfl⟩
  · exact ⟨_, rfl⟩

theorem step_stepped {gateway target : Gateway} {label : Label} {output : List Output}
    (fired : gateway.step label = some (output, target)) :
    Stepped gateway label output target := by
  cases label with
  | request request =>
      cases fired
      exact .request
  | handler index answers =>
      simp only [Gateway.step] at fired
      split at fired
      · cases fired
      · rename_i handler found
        split at fired
        · cases fired
        · rename_i said stage last handles
          cases fired
          exact .handler found (handle_handled handles)
  | update update =>
      simp only [Gateway.step] at fired
      split at fired
      · cases fired
        exact .update ‹_›
      · cases fired
  | receiveEvent =>
      simp only [Gateway.step] at fired
      split at fired
      · split at fired
        · cases fired
        · cases fired
          exact .receiveEvent ‹_› ‹_›
      · cases fired
  | receiveInternal =>
      simp only [Gateway.step] at fired
      split at fired
      · split at fired
        · cases fired
        · cases fired
          exact .receiveInternal ‹_› ‹_›
      · cases fired
  | cancel order =>
      simp only [Gateway.step] at fired
      split at fired
      · rename_i waiting
        cases fired
        exact .cancel waiting.1 waiting.2
      · cases fired
  | loop answers => exact .loop (advance_advanced fired)
  | response callID tag =>
      cases fired
      exact .response

theorem handler_fired {gateway target : Gateway} {index : Nat} {answers : Answers}
    {output : List Output}
    (fired : gateway.step (.handler index answers) = some (output, target)) :
    ∃ handler stage last, gateway.handlers[index]? = some handler ∧
      gateway.handle answers handler = some (output, stage, last) ∧
      target =
        { last with handlers := last.handlers.set index { handler with stage := stage } } := by
  simp only [Gateway.step] at fired
  split at fired
  · cases fired
  · rename_i handler found
    split at fired
    · cases fired
    · rename_i said stage last handles
      cases fired
      exact ⟨handler, stage, last, found, handles, rfl⟩

theorem Handled.handlers_eq {gateway target : Gateway} {answers : Answers} {handler : Handler}
    {output : List Output} {stage : Stage}
    (handled : Handled gateway answers handler output stage target) :
    target.handlers = gateway.handlers := by
  cases handled <;> rfl

theorem Advanced.handlers_eq {gateway target : Gateway} {answers : Answers}
    {loop : Loop} {output : List Output} (advanced : Advanced gateway answers loop output target) :
    target.handlers = gateway.handlers := by
  cases advanced <;> rfl

theorem Stepped.handler_kept {gateway target : Gateway} {label : Label} {output : List Output}
    (stepped : Stepped gateway label output target) {index : Nat} {handler : Handler}
    (found : gateway.handlers[index]? = some handler)
    (other : ∀ answers, label ≠ .handler index answers) :
    target.handlers[index]? = some handler := by
  have inside := (List.getElem?_eq_some_iff.mp found).1
  cases stepped with
  | request =>
      dsimp only
      rw [List.getElem?_append_left inside]
      exact found
  | @handler moving answers mover output stage last foundMover handled =>
      have different : moving ≠ index := by
        intro same
        apply other answers
        rw [same]
      dsimp only
      rw [List.getElem?_set_ne different, handled.handlers_eq]
      exact found
  | loop advanced =>
      rw [advanced.handlers_eq]
      exact found
  | @response callID tag =>
      obtain ⟨sessions, same⟩ := tagRemote_eq gateway callID tag
      rw [same]
      exact found
  | _ => exact found

end Tg2Sip.Go
