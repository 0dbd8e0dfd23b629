/-
The Go gateway as a system of goroutines.

`Loop` is the position of `Start` and of the functions that it calls, `Stage`
the position of a SIP handler.  One step is one access to shared state or one
request to the outside; everything between two of them is local to its
goroutine.  The mutexes protect single accesses, which are steps here, except
at the end of `Start`, which holds `g.mu` while it cleans up every call.  A
step that is not possible now, such as a send into a full channel, is `none`.
-/

import Tg2Sip.Go.Text
import Tg2Sip.Lib.Run

namespace Tg2Sip.Go

/-- The capacity of `g.events` and `g.internalEvents`. -/
def channelCapacity : Nat := 16

/-- What follows a `cleanUp`: `processInternalEvent` deletes the key that it
was called with, the end of `Start` goes on to the next context. -/
inductive After where
  | delete (key : String)
  | shutdown (rest : List Ref)
  deriving DecidableEq, Repr

inductive Loop where
  | select
  | accepting (call : TgCall)
  | fetchingUser (call : TgCall)
  | registering (call : TgCall) (user : User)
  | sendingEvent (call : TgCall) (user : User)
  | sendingInternal (call : TgCall) (user : User)
  | dialling (call : TgCall) (user : User)
  | findingCall (digits : String) (sender : Int)
  | dialingDtmf (callID digits : String)
  | sendingInfo (session : CallSession) (digits : String)
  | lookingUp (event : InternalEvent)
  | advancing (ref : Ref) (event : InternalEvent)
  | cleaning (ref : Ref) (after : After)
  | sendingBye (ref : Ref) (session : CallSession) (after : After)
  | forgetting (ref : Ref) (callID : String) (after : After)
  | discarding (ref : Ref) (after : After)
  | deleting (key : String)
  | stopped
  deriving DecidableEq, Repr

inductive Stage where
  | checking
  | parsing
  | resolving
  | creating (userID : Int)
  | blocking (wait : Int)
  | unblocking (userID : Int)
  | registering (userID : Int)
  | sendingEvent
  | sendingInternal
  | tracking
  | responding (status : Nat) (reason : String)
  | done
  deriving DecidableEq, Repr

structure Handler where
  request : Request
  stage : Stage
  deriving DecidableEq, Repr

structure Gateway where
  calls : AList (fun _ : String => Ref)
  contexts : List Context
  sessions : AList (fun _ : String => CallSession)
  events : Channel channelCapacity GatewayEvent
  internalEvents : Channel channelCapacity InternalEvent
  blockUntil : Option Int
  extraWait : Int
  peerFlood : Int
  loop : Loop
  handlers : List Handler

/-- The outcomes of the requests a step may make; each step makes at most one.
`dial` returns the Call-ID and the tag of the new INVITE, and `order` is the
order in which an iteration over `g.calls` meets the keys. -/
structure Answers where
  now : Int := 0
  accept : Option TgError := none
  getUser : Except TgError User := .error .other
  createCall : Except TgError Int := .error .other
  discard : Option TgError := none
  parse : Except TgError (Option Int) := .ok none
  resolve : Except TgError (Option Int) := .ok none
  dial : Except String (String × String) := .error ""
  bye : Bool := true
  info : Bool := true
  order : List String := []

def Gateway.register (gateway : Gateway) (key : String) (ctx : Context) : Gateway :=
  { gateway with
    calls := gateway.calls.insert key gateway.contexts.length
    contexts := gateway.contexts ++ [ctx] }

def Gateway.lookup (gateway : Gateway) (key : String) : Option Context :=
  (gateway.calls.lookup key).bind (fun ref => gateway.contexts[ref]?)

/-- `int(wait.Seconds())`; the source goes through a `float64` of seconds, which
may round a long wait up to the next second. -/
def floodReason (wait : Int) : String := "FLOOD_WAIT " ++ toString (wait.tdiv second)

def Gateway.floodWait (gateway : Gateway) (flood : Flood) : Int :=
  wrap64 ((if flood.peer then gateway.peerFlood else flood.wait) + gateway.extraWait)

/-- The branch for an error: a flood error blocks, any other one goes on as given. -/
def Gateway.onError (gateway : Gateway) (error : TgError) (otherwise : Stage) : Stage :=
  match parseFloodError error with
  | some flood => .blocking (gateway.floodWait flood)
  | none => otherwise

def internalError : Stage := .responding statusInternalServerError "Internal error"

/-- The first lines of `handleInvite`: an elapsed block is lifted. -/
def Gateway.checkBlock (gateway : Gateway) (now : Int) : Stage × Option Int :=
  match gateway.blockUntil with
  | none => (.parsing, none)
  | some deadline =>
      if deadline < now then (.parsing, none)
      else (.responding statusServiceUnavailable (floodReason (deadline - now)), some deadline)

def Request.event (request : Request) : GatewayEvent :=
  match request.method with
  | .invite => .callState request.callID "incoming"
  | .ack => .callState request.callID "answered"
  | .bye => .callState request.callID "ended"
  | .info => .media request.callID request.body

def Request.internalEvent (request : Request) : InternalEvent :=
  { ctxID := request.callID
    typ :=
      match request.method with
      | .invite => .incoming
      | .ack => .waitMedia
      | .bye => .cleanup
      | .info => .waitDTMF }

def Request.start (request : Request) : Stage :=
  match request.method with
  | .invite => .checking
  | _ => .sendingEvent

def Request.afterSends (request : Request) : Stage :=
  match request.method with
  | .invite => .tracking
  | .ack => .done
  | _ => .responding statusOK "OK"

/-- `TrackInvite`. -/
def Request.session (request : Request) : CallSession :=
  { callID := request.callID
    localTag := request.toTag
    remoteTag := request.fromTag
    answerable := request.hasTx }

def Request.context (request : Request) (userID : Int) : Context :=
  { id := request.callID
    sipCallID := request.callID
    userID := userID
    state := .incoming }

/-- The end of `Start` holds `g.mu`. -/
def Loop.locks : Loop → Bool
  | .cleaning _ (.shutdown _) => true
  | .sendingBye _ _ (.shutdown _) => true
  | .forgetting _ _ (.shutdown _) => true
  | .discarding _ (.shutdown _) => true
  | _ => false

def Gateway.handle (gateway : Gateway) (answers : Answers) (handler : Handler) :
    Option (List Output × Stage × Gateway) :=
  let request := handler.request
  match handler.stage with
  | .checking =>
      let (stage, blockUntil) := gateway.checkBlock answers.now
      some ([], stage, { gateway with blockUntil := blockUntil })
  | .parsing =>
      match answers.parse with
      | .error error => some ([], gateway.onError error internalError, gateway)
      | .ok none => some ([], .resolving, gateway)
      | .ok (some userID) => some ([], .creating userID, gateway)
  | .resolving =>
      match answers.resolve with
      | .error error => some ([], gateway.onError error internalError, gateway)
      | .ok none => some ([], .responding statusNotFound "Not Found", gateway)
      | .ok (some userID) => some ([], .creating userID, gateway)
  | .creating userID =>
      some ([.createCall request.callID userID answers.createCall],
        match answers.createCall with
        | .error error => gateway.onError error (.registering userID)
        | .ok _ => .unblocking userID,
        gateway)
  | .blocking wait =>
      some ([], .responding statusServiceUnavailable (floodReason wait),
        { gateway with blockUntil := some (answers.now + wait) })
  | .unblocking userID => some ([], .registering userID, { gateway with blockUntil := none })
  | .registering userID =>
      if gateway.loop.locks then none
      else
        some ([.registerInvite request.callID userID], .sendingEvent,
          gateway.register request.callID (request.context userID))
  | .sendingEvent =>
      match gateway.events.send request.event with
      | none => none
      | some sent => some ([], .sendingInternal, { gateway with events := sent })
  | .sendingInternal =>
      match gateway.internalEvents.send request.internalEvent with
      | none => none
      | some sent => some ([], request.afterSends, { gateway with internalEvents := sent })
  | .tracking =>
      some ([], .responding statusTrying "Trying",
        { gateway with sessions := gateway.sessions.insert request.callID request.session })
  | .responding status reason =>
      some (if request.hasTx then [.respond request.callID status reason] else [], .done, gateway)
  | .done => none

/-! ### The loop -/

def InternalEventType.state : InternalEventType → CallState
  | .incoming => .incoming
  | .outgoing => .outgoing
  | .waitMedia => .waitMedia
  | .waitDTMF => .waitDTMF
  | .cleanup => .cleanup

def TgCall.key (call : TgCall) : String := toString call.id

def TgCall.context (call : TgCall) (user : User) : Context :=
  { id := call.key
    tgCallID := call.id
    userID := user.id
    state := .outgoing }

def After.next : After → Loop
  | .delete key => .deleting key
  | .shutdown [] => .stopped
  | .shutdown (ref :: rest) => .cleaning ref (.shutdown rest)

/-- `handleTelegramCall` and `handleTelegramMessage` up to their first access. -/
def Update.begin : Update → Loop
  | .call update =>
      if update.isOutgoing then .select
      else if update.state = .pending then .accepting update else .select
  | .newMessage message =>
      match message.text.bind dtmfDigits, message.sender with
      | some digits, .user sender => .findingCall digits sender
      | _, _ => .select
  | .other => .select

/-- The context that the search of `handleTelegramMessage` stops at. -/
def Gateway.findCall (gateway : Gateway) (sender : Int) (order : List String) :
    Option Context :=
  (order.filterMap gateway.lookup).find?
    (fun ctx => ctx.userID == sender && ctx.state == .waitDTMF)

def Gateway.bump (gateway : Gateway) (callID : String) :
    Option (CallSession × AList (fun _ : String => CallSession)) :=
  match gateway.sessions.lookup callID with
  | none => none
  | some session =>
      let bumped := { session with cseq := session.cseq + 1 }
      some (bumped, gateway.sessions.insert callID bumped)

def Context.stops (ctx : Context) : List Output :=
  if ctx.controller then [.controllerStop] else []

/-- `cleanUp` up to the BYE. -/
def Gateway.clean (gateway : Gateway) (ref : Ref) (ctx : Context) (after : After) :
    List Output × Gateway :=
  if ctx.sipCallID = "" then (ctx.stops, { gateway with loop := .discarding ref after })
  else
    match gateway.bump ctx.sipCallID with
    | none =>
        (ctx.stops ++ [Output.hangup ctx.sipCallID], { gateway with loop := .discarding ref after })
    | some (session, sessions) =>
        (ctx.stops ++ [Output.hangup ctx.sipCallID],
          { gateway with
            sessions := sessions
            loop := .sendingBye ref session after })

def Gateway.advance (gateway : Gateway) (answers : Answers) :
    Option (List Output × Gateway) :=
  match gateway.loop with
  | .select => none
  | .accepting call =>
      some ([.acceptCall call.id answers.accept],
        { gateway with
          loop := if answers.accept = none then .fetchingUser call else .select })
  | .fetchingUser call =>
      match answers.getUser with
      | .error error =>
          some ([.getUser call.userID (some error)], { gateway with loop := .select })
      | .ok user =>
          some ([.getUser call.userID none], { gateway with loop := .registering call user })
  | .registering call user =>
      some ([.registerCall call.id user.id],
        { gateway.register call.key (call.context user) with loop := .sendingEvent call user })
  | .sendingEvent call user =>
      match gateway.events.send (.callState call.key "outgoing") with
      | none => none
      | some sent =>
          some ([], { gateway with events := sent, loop := .sendingInternal call user })
  | .sendingInternal call user =>
      match gateway.internalEvents.send ⟨call.key, .outgoing⟩ with
      | none => none
      | some sent =>
          some ([], { gateway with internalEvents := sent, loop := .dialling call user })
  | .dialling call user =>
      let headers := buildUserHeaders call.id user
      match answers.dial with
      | .error reason =>
          some ([.dial call.id headers (.error reason)], { gateway with loop := .select })
      | .ok (callID, tag) =>
          some ([.dial call.id headers (.ok callID)],
            { gateway with
              sessions := gateway.sessions.insert callID ⟨callID, some tag, none, 1, false⟩
              loop := .select })
  | .findingCall digits sender =>
      if answers.order.isPerm gateway.calls.keys then
        match gateway.findCall sender answers.order with
        | none => some ([], { gateway with loop := .select })
        | some ctx => some ([], { gateway with loop := .dialingDtmf ctx.sipCallID digits })
      else none
  | .dialingDtmf callID digits =>
      match gateway.bump callID with
      | none => some ([], { gateway with loop := .select })
      | some (session, sessions) =>
          some ([], { gateway with sessions := sessions, loop := .sendingInfo session digits })
  | .sendingInfo session digits =>
      some ([.sendInfo session.callID digits session.cseq answers.info],
        { gateway with loop := .select })
  | .lookingUp event =>
      match gateway.calls.lookup event.ctxID with
      | none => some ([], { gateway with loop := .select })
      | some ref => some ([], { gateway with loop := .advancing ref event })
  | .advancing ref event =>
      some ([],
        { gateway with
          contexts := gateway.contexts.modify ref (fun ctx => { ctx with state := event.typ.state })
          loop :=
            if event.typ = .cleanup then .cleaning ref (.delete event.ctxID) else .select })
  | .cleaning ref after =>
      match gateway.contexts[ref]? with
      | none => none
      | some ctx => some (gateway.clean ref ctx after)
  | .sendingBye ref session after =>
      some ([.sendBye session.callID session.cseq answers.bye],
        { gateway with
          loop :=
            if answers.bye then .forgetting ref session.callID after
            else .discarding ref after })
  | .forgetting ref callID after =>
      some ([],
        { gateway with
          sessions := gateway.sessions.erase callID
          loop := .discarding ref after })
  | .discarding ref after =>
      match gateway.contexts[ref]? with
      | none => none
      | some ctx =>
          some (if ctx.tgCallID = 0 then [] else [.discardCall ctx.tgCallID answers.discard],
            { gateway with loop := after.next })
  | .deleting key =>
      some ([], { gateway with calls := gateway.calls.erase key, loop := .select })
  | .stopped => none

/-- `request` starts a handler, `handler` and `loop` let a goroutine take its
next step, and the labels in between are the cases of the `select`.
`response` is the goroutine that `Dial` leaves behind. -/
inductive Label where
  | request (request : Request)
  | handler (index : Nat) (answers : Answers)
  | update (update : Update)
  | receiveEvent
  | receiveInternal
  | cancel (order : List String)
  | loop (answers : Answers)
  | response (callID : String) (tag : String)

def Update.outputs : Update → List Output
  | .call update => [.reported update]
  | _ => []

def Gateway.tagRemote (gateway : Gateway) (callID tag : String) : Gateway :=
  match gateway.sessions.lookup callID with
  | none => gateway
  | some session =>
      { gateway with
        sessions := gateway.sessions.insert callID { session with remoteTag := some tag } }

def Gateway.step : LabelledMachine.Step Gateway Label Output := fun gateway label =>
  match label with
  | .request request =>
      some ([.received request],
        { gateway with handlers := gateway.handlers ++ [⟨request, request.start⟩] })
  | .handler index answers =>
      match gateway.handlers[index]? with
      | none => none
      | some handler =>
          match gateway.handle answers handler with
          | none => none
          | some (output, stage, target) =>
              some (output,
                { target with
                  handlers := target.handlers.set index { handler with stage := stage } })
  | .update update =>
      if gateway.loop = .select then some (update.outputs, { gateway with loop := update.begin })
      else none
  | .receiveEvent =>
      if gateway.loop = .select then
        match gateway.events.receive with
        | none => none
        | some (_, rest) => some ([], { gateway with events := rest })
      else none
  | .receiveInternal =>
      if gateway.loop = .select then
        match gateway.internalEvents.receive with
        | none => none
        | some (event, rest) =>
            some ([], { gateway with internalEvents := rest, loop := .lookingUp event })
      else none
  | .cancel order =>
      if gateway.loop = .select ∧ order.isPerm gateway.calls.keys then
        some ([],
          { gateway with
            loop := (After.shutdown (order.filterMap gateway.calls.lookup)).next })
      else none
  | .loop answers => gateway.advance answers
  | .response callID tag => some ([], gateway.tagRemote callID tag)

def Gateway.initial (extraWait peerFlood : Int) : Gateway :=
  { calls := ∅
    contexts := []
    sessions := ∅
    events := Channel.empty
    internalEvents := Channel.empty
    blockUntil := none
    extraWait := extraWait
    peerFlood := peerFlood
    loop := .select
    handlers := [] }

abbrev Transition := LabelledMachine.Transition Gateway Label Output

abbrev Run (initial : Gateway) := LabelledMachine.Run Gateway.step initial

end Tg2Sip.Go
