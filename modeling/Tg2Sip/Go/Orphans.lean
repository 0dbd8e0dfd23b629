/-
Orphan legs of the Go gateway.

A Telegram call that was accepted and the dialog of an INVITE are each held by
a `Context` under a key of their own, and cleaning up that key releases them,
as long as nothing else is registered there meanwhile.  A Telegram call that
was created and a dialog that was dialled are held by no `Context` at all.
Each leg is followed alone, through everything that the other legs do.
-/

import Mathlib
import Tg2Sip.Go.Legs

namespace Tg2Sip.Go

def Gateway.HoldsCall (gateway : Gateway) (id : Int) : Prop :=
  ∃ key ctx, gateway.lookup key = some ctx ∧ ctx.tgCallID = id

def Gateway.HoldsDialog (gateway : Gateway) (callID : String) : Prop :=
  ∃ key ctx, gateway.lookup key = some ctx ∧ ctx.sipCallID = callID

def Loop.settingUp (id : Int) : Loop → Bool
  | .fetchingUser call => call.id == id
  | .registering call _ => call.id == id
  | _ => false

/-- A Telegram call that the gateway took on is held or released. -/
def CallKept (log : List Output) (gateway : Gateway) (id : Int) : Prop :=
  Said log (Output.accepts id) ∨ Said log (Output.creates id) →
    gateway.HoldsCall id ∨ gateway.loop.settingUp id = true ∨
      Said log (Output.discards id) ∨ Said log (Output.reports id)

/-- A SIP dialog that the gateway took on is held, or released and forgotten. -/
def DialogKept (log : List Output) (gateway : Gateway) (callID : String) : Prop :=
  Said log (Output.invites callID) ∨ Said log (Output.dials callID) →
    gateway.HoldsDialog callID ∨
      (Said log (Output.hangsUp callID) ∨ Said log (Output.byes callID)) ∧
        gateway.sessions.lookup callID = none

def Output.pairs (callID : String) (id : Int) : Output → Prop
  | .createCall other _ (.ok created) => other = callID ∧ created = id
  | .dial other _ (.ok dialled) => dialled = callID ∧ other = id
  | _ => False

/-- Nothing is left to do for anything that has happened so far. -/
def Gateway.Quiet (gateway : Gateway) : Prop :=
  (gateway.loop = .select ∨ gateway.loop = .stopped) ∧ gateway.internalEvents.buffer = [] ∧
    ∀ handler ∈ gateway.handlers, handler.stage = .done

/-- The two legs of one call end together. -/
def PairReleased (log : List Output) (gateway : Gateway) (callID : String) (id : Int) : Prop :=
  Said log (Output.pairs callID id) → gateway.Quiet →
    (Said log (Output.hangsUp callID) ∨ Said log (Output.byes callID) ↔
      Said log (Output.discards id) ∨ Said log (Output.reports id))

/-- The call is not a created one, its user is found unless it is held already,
and no INVITE takes the place of its `Context`. -/
def SparesCall (id : Int) (transition : Transition) : Prop :=
  match transition with
  | ⟨source, .handler index answers, _, _⟩ =>
      ∀ handler ∈ source.handlers[index]?,
        match handler.stage, answers.createCall with
        | .creating _, .ok created => created ≠ id
        | .registering _, _ =>
            handler.request.callID = toString id → source.legs (toString id) ≠ some ("", id)
        | _, _ => True
  | ⟨source, .loop answers, _, _⟩ =>
      match source.loop, answers.getUser with
      | .fetchingUser call, .error _ =>
          call.id = id → source.legs (toString id) = some ("", id)
      | _, _ => True
  | _ => True

def Loop.pastHangup (callID : String) : Loop → Bool
  | .discarding _ (.delete key) => key == callID
  | .deleting key => key == callID
  | _ => false

/-- The dialog is not a dialled one, its `Context` neither replaces nor is
replaced by that of another leg, its session is stored while the `Context` is
there and not yet cleaned up, and the BYE that ends it is sent. -/
def SparesDialog (callID : String) (transition : Transition) : Prop :=
  match transition with
  | ⟨source, .handler index _, _, _⟩ =>
      ∀ handler ∈ source.handlers[index]?, handler.request.callID = callID →
        match handler.stage with
        | .registering _ => ∀ legs ∈ source.legs callID, legs = (callID, 0)
        | .tracking =>
            source.legs callID = some (callID, 0) ∧ source.loop.pastHangup callID = false
        | _ => True
  | ⟨source, .loop answers, _, _⟩ =>
      match source.loop, answers.dial with
      | .registering call _, _ => call.key = callID → source.legs callID ≠ some (callID, 0)
      | .dialling _ _, .ok (dialled, _) => dialled ≠ callID
      | .sendingBye _ session (.delete _), _ => session.callID = callID → answers.bye = true
      | _, _ => True
  | _ => True

/-- What is known of one accepted call: while its key is cleaned up, the loop
works on its `Context`. -/
structure CallFollowed (log : List Output) (gateway : Gateway) (id : Int) : Prop where
  uncreated : ¬Said log (Output.creates id)
  kept : Said log (Output.accepts id) → gateway.legs (toString id) = some ("", id) ∨
    gateway.loop.settingUp id = true ∨ Said log (Output.discards id)
  aimed : ∀ ref, gateway.loop.cleans = some (ref, toString id) →
    gateway.legs (toString id) = some ("", id) → gateway.legsAt ref = some ("", id)
  discarded : gateway.loop = .deleting (toString id) →
    gateway.legs (toString id) = some ("", id) → Said log (Output.discards id)

/-! ### What a turn of the loop says -/

section Turn

variable {gateway target : Gateway} {answers : Answers} {loop : Loop} {output : List Output}

def Output.takesLeg : Output → Bool
  | .acceptCall _ _ => true
  | .createCall _ _ _ => true
  | .registerInvite _ _ => true
  | .dial _ _ _ => true
  | _ => false

theorem Context.stops_takesLeg (ctx : Context) : ∀ said ∈ ctx.stops, said.takesLeg = false := by
  intro said member
  unfold Context.stops at member
  split at member
  · rw [List.mem_singleton.mp member]
    rfl
  · cases member

theorem Advanced.takesLeg (advanced : Advanced gateway answers loop output target)
    {said : Output} (member : said ∈ output) (takes : said.takesLeg = true) :
    (∃ call, loop = .accepting call ∧ said = .acceptCall call.id answers.accept) ∨
      ∃ call user, loop = .dialling call user ∧
        said = .dial call.id (buildUserHeaders call.id user) (answers.dial.map Prod.fst) := by
  have hangs {ctx : Context} (inside : said ∈ ctx.stops ++ [Output.hangup ctx.sipCallID]) :
      said.takesLeg = false := by
    rcases List.mem_append.mp inside with stops | hangup
    · exact ctx.stops_takesLeg said stops
    · rw [List.mem_singleton.mp hangup]
      rfl
  cases advanced with
  | @accepted call accept =>
      rw [List.mem_singleton.mp member, accept]
      exact .inl ⟨call, rfl, rfl⟩
  | @refused call error failed =>
      rw [List.mem_singleton.mp member, failed]
      exact .inl ⟨call, rfl, rfl⟩
  | @dialled call user callID tag answered =>
      rw [List.mem_singleton.mp member, answered]
      exact .inr ⟨call, user, rfl, rfl⟩
  | @undialled call user reason failed =>
      rw [List.mem_singleton.mp member, failed]
      exact .inr ⟨call, user, rfl, rfl⟩
  | @cleanedNone ref after ctx =>
      rw [ctx.stops_takesLeg said member] at takes
      cases takes
  | cleanedUnknown =>
      rw [hangs member] at takes
      cases takes
  | cleaned =>
      rw [hangs member] at takes
      cases takes
  | discarded =>
      split at member
      · cases member
      · rw [List.mem_singleton.mp member] at takes
        cases takes
  | fetched | unfetched | registered | sentInfo | sentBye | lostBye =>
      rw [List.mem_singleton.mp member] at takes
      cases takes
  | _ => cases member

theorem Advanced.not_creates (advanced : Advanced gateway answers loop output target) (id : Int) :
    ¬Said output (Output.creates id) := by
  intro ⟨said, member, creates⟩
  have takes : said.takesLeg = true := by
    cases said <;> first | rfl | cases creates
  rcases advanced.takesLeg member takes with ⟨_, _, rfl⟩ | ⟨_, _, _, rfl⟩ <;> cases creates

theorem Advanced.not_invites (advanced : Advanced gateway answers loop output target)
    (callID : String) : ¬Said output (Output.invites callID) := by
  intro ⟨said, member, invites⟩
  have takes : said.takesLeg = true := by
    cases said <;> first | rfl | cases invites
  rcases advanced.takesLeg member takes with ⟨_, _, rfl⟩ | ⟨_, _, _, rfl⟩ <;> cases invites

theorem Advanced.not_accepts (advanced : Advanced gateway answers loop output target) (id : Int)
    (other : ∀ call, loop = .accepting call → answers.accept ≠ none) :
    ¬Said output (Output.accepts id) := by
  intro ⟨said, member, accepts⟩
  have takes : said.takesLeg = true := by
    cases said <;> first | rfl | cases accepts
  rcases advanced.takesLeg member takes with ⟨call, position, rfl⟩ | ⟨_, _, _, rfl⟩
  · cases accept : answers.accept with
    | none => exact other call position accept
    | some error =>
        rw [accept] at accepts
        cases accepts
  · cases accepts

theorem Advanced.not_dials (advanced : Advanced gateway answers loop output target)
    (callID : String)
    (other : ∀ call user tag, loop = .dialling call user → answers.dial ≠ .ok (callID, tag)) :
    ¬Said output (Output.dials callID) := by
  intro ⟨said, member, dials⟩
  have takes : said.takesLeg = true := by
    cases said <;> first | rfl | cases dials
  rcases advanced.takesLeg member takes with ⟨_, _, rfl⟩ | ⟨call, user, position, rfl⟩
  · cases dials
  · cases dialled : answers.dial with
    | ok pair =>
        rw [dialled] at dials
        apply other call user pair.2 position
        rw [dialled, ← show pair.1 = callID from dials]
    | error reason =>
        rw [dialled] at dials
        cases dials

end Turn

section OneCall

variable {log output : List Output} {gateway target : Gateway} {id : Int}

theorem toString_key {call : TgCall} (same : toString id = call.key) : id = call.id :=
  Int.repr_injective same

theorem CallFollowed.next (followed : CallFollowed log gateway id)
    (legs : target.legs (toString id) = gateway.legs (toString id))
    (setting : gateway.loop.settingUp id = true →
      target.loop.settingUp id = true ∨ gateway.legs (toString id) = some ("", id))
    (aimed : ∀ ref, target.loop.cleans = some (ref, toString id) →
      gateway.legs (toString id) = some ("", id) → target.legsAt ref = some ("", id))
    (discarded : target.loop = .deleting (toString id) →
      gateway.legs (toString id) = some ("", id) → Said (log ++ output) (Output.discards id))
    (uncreated : ¬Said output (Output.creates id))
    (accepted : Said output (Output.accepts id) → target.loop.settingUp id = true) :
    CallFollowed (log ++ output) target id where
  uncreated := by
    intro said
    rcases said_append.mp said with earlier | now
    · exact followed.uncreated earlier
    · exact uncreated now
  kept := by
    intro said
    rw [legs]
    rcases said_append.mp said with earlier | now
    · rcases followed.kept earlier with held | settingUp | released
      · exact .inl held
      · rcases setting settingUp with still | held
        · exact .inr (.inl still)
        · exact .inl held
      · exact .inr (.inr (released.append _))
    · exact .inr (.inl (accepted now))
  aimed := by
    rw [legs]
    exact aimed
  discarded := by
    rw [legs]
    exact discarded

theorem CallFollowed.beside (followed : CallFollowed log gateway id)
    (legs : target.legs (toString id) = gateway.legs (toString id))
    (loop : target.loop = gateway.loop)
    (legsAt : ∀ ref found, gateway.legsAt ref = some found → target.legsAt ref = some found)
    (uncreated : ¬Said output (Output.creates id))
    (unaccepted : ¬Said output (Output.accepts id)) :
    CallFollowed (log ++ output) target id := by
  apply followed.next legs _ _ _ uncreated (fun said => absurd said unaccepted)
  · rw [loop]
    exact .inl
  · rw [loop]
    intro ref cleans held
    exact legsAt ref _ (followed.aimed ref cleans held)
  · rw [loop]
    intro deleting held
    exact (followed.discarded deleting held).append _

theorem CallFollowed.idle (followed : CallFollowed log gateway id)
    (legs : target.legs (toString id) = gateway.legs (toString id))
    (settled : gateway.loop.settingUp id = false) (cleans : target.loop.cleans = none)
    (deleting : ∀ key, target.loop ≠ .deleting key)
    (uncreated : ¬Said output (Output.creates id))
    (unaccepted : ¬Said output (Output.accepts id)) :
    CallFollowed (log ++ output) target id := by
  apply followed.next legs _ _ _ uncreated (fun said => absurd said unaccepted)
  · intro settingUp
    rw [settled] at settingUp
    cases settingUp
  · intro ref aims
    rw [cleans] at aims
    cases aims
  · intro same
    exact absurd same (deleting _)

theorem CallFollowed.cleaning (followed : CallFollowed log gateway id)
    (legs : target.legs (toString id) = gateway.legs (toString id))
    (legsAt : target.legsAt = gateway.legsAt)
    (settled : gateway.loop.settingUp id = false)
    (cleans : target.loop.cleans = gateway.loop.cleans)
    (deleting : ∀ key, target.loop ≠ .deleting key)
    (uncreated : ¬Said output (Output.creates id))
    (unaccepted : ¬Said output (Output.accepts id)) :
    CallFollowed (log ++ output) target id := by
  apply followed.next legs _ _ _ uncreated (fun said => absurd said unaccepted)
  · intro settingUp
    rw [settled] at settingUp
    cases settingUp
  · rw [cleans, legsAt]
    exact followed.aimed
  · intro same
    exact absurd same (deleting _)

theorem Spoken.unaccepted {answers : Answers} {handler : Handler}
    (spoken : Spoken answers handler output) : ¬Said output (Output.accepts id) := by
  cases spoken with
  | nothing => exact not_said_nil
  | created position => exact not_said_singleton not_false
  | responded => exact not_said_singleton not_false

theorem Handled.callFollowed {answers : Answers} {handler : Handler} {stage : Stage}
    {handlers : List Handler} (handled : Handled gateway answers handler output stage target)
    (pointed : gateway.Pointed) (nonzero : id ≠ 0)
    (uncreated : ∀ userID, handler.stage = .creating userID → answers.createCall ≠ .ok id)
    (unreplaced : ∀ userID, handler.stage = .registering userID →
      handler.request.callID = toString id → gateway.legs (toString id) ≠ some ("", id))
    (followed : CallFollowed log gateway id) :
    CallFollowed (log ++ output) { target with handlers := handlers } id := by
  cases handled with
  | alone blockUntil spoken early late =>
      refine followed.beside rfl rfl (fun _ _ found => found) ?_ spoken.unaccepted
      cases spoken with
      | nothing => exact not_said_nil
      | @created userID position =>
          rw [said_singleton]
          intro creates
          cases answer : answers.createCall with
          | error error =>
              rw [answer] at creates
              exact creates
          | ok created =>
              rw [answer] at creates
              apply uncreated userID position
              rw [answer]
              exact congrArg _ creates
      | responded => exact not_said_singleton not_false
  | @registered userID position unlocked =>
      have uncreatedNow : ¬Said [Output.registerInvite handler.request.callID userID]
          (Output.creates id) := not_said_singleton not_false
      have unacceptedNow : ¬Said [Output.registerInvite handler.request.callID userID]
          (Output.accepts id) := not_said_singleton not_false
      by_cases same : handler.request.callID = toString id
      · have gone : Gateway.legs { gateway.register handler.request.callID
            (handler.request.context userID) with handlers := handlers } (toString id) ≠
              some ("", id) := by
          intro held
          rw [← same] at held
          have legs := (legs_register_self gateway _ (handler.request.context userID)).symm.trans
            held
          exact nonzero (congrArg Prod.snd (Option.some.inj legs)).symm
        refine ⟨?_, ?_, fun _ _ held => absurd held gone, fun _ held => absurd held gone⟩
        · intro said
          exact (said_append.mp said).elim followed.uncreated uncreatedNow
        · intro said
          have earlier := (said_append.mp said).resolve_right unacceptedNow
          rcases followed.kept earlier with held | settingUp | released
          · exact absurd held (unreplaced userID position same)
          · exact .inr (.inl settingUp)
          · exact .inr (.inr (released.append _))
      · have legs := legs_register_of_ne pointed (handler.request.context userID) (Ne.symm same)
        exact followed.beside legs rfl (fun _ _ => legsAt_register gateway handler.request.callID _)
          uncreatedNow unacceptedNow
  | _ => exact followed.beside rfl rfl (fun _ _ found => found) not_said_nil not_said_nil

theorem After.shutdown_cleans (rest : List Ref) :
    (After.shutdown rest).next.cleans = none ∧
      ∀ key, (After.shutdown rest).next ≠ .deleting key := by
  cases rest <;> exact ⟨rfl, nofun⟩

theorem cleans_moved (ref : Ref) (event : InternalEvent) :
    Loop.cleans (if event.typ = .cleanup then .cleaning ref (.delete event.ctxID) else .select) =
      (Loop.advancing ref event).cleans := by
  by_cases isCleanup : event.typ = .cleanup
  · simp only [if_pos isCleanup, Loop.cleans]
  · simp only [if_neg isCleanup, Loop.cleans]

theorem legs_write (gateway : Gateway) (ref : Ref) (state : CallState) :
    Gateway.legs { gateway with
      contexts := gateway.contexts.modify ref (fun ctx => { ctx with state := state }) } =
        gateway.legs := by
  funext key
  exact congrArg (Option.bind (gateway.calls.lookup key)) (legsAt_modify gateway ref state)

theorem Advanced.callFollowed {answers : Answers}
    (advanced : Advanced gateway answers gateway.loop output target) (pointed : gateway.Pointed)
    (nonzero : id ≠ 0)
    (fetched : ∀ call error, gateway.loop = .fetchingUser call → answers.getUser = .error error →
      call.id = id → gateway.legs (toString id) = some ("", id))
    (followed : CallFollowed log gateway id) : CallFollowed (log ++ output) target id := by
  generalize position : gateway.loop = loop at advanced
  have settled (other : loop.settingUp id = false) : gateway.loop.settingUp id = false := by
    rw [position]
    exact other
  have aimed := followed.aimed
  rw [position] at aimed
  have uncreated := advanced.not_creates id
  have unaccepted := advanced.not_accepts id
  cases advanced with
  | @accepted call accept =>
      refine followed.next rfl ?_ nofun nofun uncreated ?_
      · intro settingUp
        rw [position] at settingUp
        cases settingUp
      · intro accepts
        exact beq_iff_eq.mpr (said_singleton.mp accepts)
  | @fetched call user answered =>
      refine followed.next rfl ?_ nofun nofun uncreated (fun said => absurd said (unaccepted nofun))
      intro settingUp
      rw [position] at settingUp
      exact .inl settingUp
  | @unfetched call error failed =>
      refine followed.next rfl ?_ nofun nofun uncreated (fun said => absurd said (unaccepted nofun))
      intro settingUp
      rw [position] at settingUp
      exact .inr (fetched call error position failed (beq_iff_eq.mp settingUp))
  | @registered call user =>
      by_cases same : toString id = call.key
      · have named : id = call.id := toString_key same
        have held : Gateway.legs ((gateway.register call.key (call.context user)).at
            (.sendingEvent call user)) (toString id) = some ("", id) := by
          rw [same]
          refine (legs_register_self gateway call.key (call.context user)).trans ?_
          rw [named]
          rfl
        refine ⟨?_, fun _ => .inl held, nofun, nofun⟩
        intro said
        exact (said_append.mp said).elim followed.uncreated uncreated
      · have legs := legs_register_of_ne pointed (call.context user) same
        have other : (call.id == id) = false := by
          rw [beq_eq_false_iff_ne]
          intro equal
          apply same
          rw [← equal]
          rfl
        exact followed.idle legs (settled other) rfl nofun uncreated (unaccepted nofun)
  | @met event ref found =>
      refine followed.next rfl ?_ ?_ nofun uncreated (fun said => absurd said (unaccepted nofun))
      · intro settingUp
        rw [position] at settingUp
        cases settingUp
      · intro other cleans held
        change Loop.cleans (.advancing ref event) = some (other, toString id) at cleans
        unfold Loop.cleans at cleans
        dsimp only at cleans
        split at cleans
        · obtain ⟨rfl, key⟩ := Prod.mk.inj (Option.some.inj cleans)
          unfold Gateway.legs at held
          rw [← key, found] at held
          exact held
        · cases cleans
  | @moved ref event =>
      apply followed.cleaning
      · exact congrFun (legs_write gateway ref event.typ.state) _
      · exact legsAt_modify gateway ref event.typ.state
      · exact settled rfl
      · rw [position]
        exact cleans_moved ref event
      · intro key
        change (if event.typ = .cleanup then _ else _) ≠ Loop.deleting key
        split <;> nofun
      · exact uncreated
      · exact unaccepted nofun
  | @cleanedNone _ after | @cleanedUnknown _ after | @cleaned _ after | @sentBye _ _ after
  | @lostBye _ _ after | @forgot _ _ after =>
      refine followed.cleaning rfl rfl (settled rfl) ?_ nofun uncreated (unaccepted nofun)
      rw [position]
      cases after <;> rfl
  | @discarded ref after ctx found =>
      cases after with
      | delete key =>
          refine followed.next rfl ?_ nofun ?_ uncreated
            (fun said => absurd said (unaccepted nofun))
          · intro settingUp
            rw [settled rfl] at settingUp
            cases settingUp
          · intro deleting held
            have same : key = toString id := Loop.deleting.inj deleting
            have legs := aimed ref (congrArg (fun key => some (ref, key)) same) held
            unfold Gateway.legsAt at legs
            rw [found] at legs
            have named : ctx.tgCallID = id := congrArg Prod.snd (Option.some.inj legs)
            rw [named, if_neg nonzero]
            exact said_append.mpr (.inr (said_singleton.mpr rfl))
      | shutdown rest =>
          obtain ⟨cleans, deleting⟩ := After.shutdown_cleans rest
          exact followed.idle rfl (settled rfl) cleans deleting uncreated
            (unaccepted nofun)
  | @deleted key =>
      by_cases same : toString id = key
      · rw [← same] at position
        refine ⟨?_, ?_, nofun, nofun⟩
        · rw [List.append_nil]
          exact followed.uncreated
        · rw [List.append_nil]
          intro said
          rcases followed.kept said with held | settingUp | released
          · exact .inr (.inr (followed.discarded position held))
          · rw [settled rfl] at settingUp
            cases settingUp
          · exact .inr (.inr released)
      · exact followed.idle (legs_erase_of_ne gateway same) (settled rfl) rfl nofun uncreated
          (unaccepted nofun)
  | refused failed =>
      rw [failed] at unaccepted
      exact followed.idle rfl (settled rfl) rfl nofun uncreated
        (unaccepted (fun _ _ => Option.some_ne_none _))
  | _ => exact followed.idle rfl (settled rfl) rfl nofun uncreated (unaccepted nofun)

theorem begin_cleans (update : Update) :
    update.begin.cleans = none ∧ ∀ key, update.begin ≠ .deleting key := by
  unfold Update.begin
  split
  · split
    · exact ⟨rfl, nofun⟩
    · split <;> exact ⟨rfl, nofun⟩
  · split <;> exact ⟨rfl, nofun⟩
  · exact ⟨rfl, nofun⟩

theorem outputs_silent (update : Update) {kind : Output → Prop}
    (silent : ∀ call, ¬kind (.reported call)) : ¬Said update.outputs kind := by
  cases update with
  | call call => exact not_said_singleton (silent call)
  | newMessage message => exact not_said_nil
  | other => exact not_said_nil

theorem Stepped.callFollowed {label : Label} (stepped : Stepped gateway label output target)
    (pointed : gateway.Pointed) (nonzero : id ≠ 0)
    (spares : SparesCall id ⟨gateway, label, output, target⟩)
    (followed : CallFollowed log gateway id) : CallFollowed (log ++ output) target id := by
  have waits (waiting : gateway.loop = .select) : gateway.loop.settingUp id = false := by
    rw [waiting]
    rfl
  cases stepped with
  | request =>
      exact followed.beside rfl rfl (fun _ _ found => found) (not_said_singleton not_false)
        (not_said_singleton not_false)
  | @handler index answers handler output stage last found handled =>
      have spared := spares handler found
      apply handled.callFollowed pointed nonzero _ _ followed
      · intro userID position answered
        rw [position, answered] at spared
        exact spared rfl
      · intro userID position
        rw [position] at spared
        exact spared
  | @update update waiting =>
      obtain ⟨cleans, deleting⟩ := begin_cleans update
      exact followed.idle rfl (waits waiting) cleans deleting
        (outputs_silent update (fun _ => not_false)) (outputs_silent update (fun _ => not_false))
  | receiveEvent waiting receives =>
      exact followed.beside rfl rfl (fun _ _ found => found) not_said_nil not_said_nil
  | receiveInternal waiting receives =>
      exact followed.idle rfl (waits waiting) rfl nofun not_said_nil not_said_nil
  | @cancel order waiting enumerated =>
      obtain ⟨cleans, deleting⟩ := After.shutdown_cleans (order.filterMap gateway.calls.lookup)
      exact followed.idle rfl (waits waiting) cleans deleting not_said_nil not_said_nil
  | @loop answers output target advanced =>
      apply advanced.callFollowed pointed nonzero _ followed
      intro call error position failed
      unfold SparesCall at spares
      simp only [position, failed] at spares
      exact spares
  | @response callID tag =>
      obtain ⟨sessions, same⟩ := tagRemote_eq gateway callID tag
      rw [same]
      exact followed.beside rfl rfl (fun _ _ present => present) not_said_nil not_said_nil

end OneCall

/-! ### One SIP dialog -/

/-- The key of the dialog belongs to another leg. -/
def Gateway.Foreign (gateway : Gateway) (callID : String) : Prop :=
  ∃ legs, gateway.legs callID = some legs ∧ legs ≠ (callID, 0)

/-- The `Context` is that of the dialog, or the key is not the dialog's. -/
def Gateway.Aims (gateway : Gateway) (ref : Ref) (callID : String) : Prop :=
  gateway.legsAt ref = some (callID, 0) ∨ gateway.Foreign callID

def Gateway.Ending (gateway : Gateway) (callID : String) : Prop :=
  match gateway.loop with
  | .advancing ref event => event = ⟨callID, .cleanup⟩ → gateway.Aims ref callID
  | .cleaning ref (.delete key) => key = callID → gateway.Aims ref callID
  | .sendingBye _ session (.delete key) =>
      key = callID → session.callID = callID ∨ gateway.Foreign callID
  | .forgetting _ other (.delete key) => key = callID → other = callID ∨ gateway.Foreign callID
  | .discarding _ (.delete key) => key = callID → gateway.sessions.lookup callID = none
  | .deleting key => key = callID → gateway.sessions.lookup callID = none
  | _ => True

structure DialogFollowed (log : List Output) (gateway : Gateway) (callID : String) : Prop where
  undialled : ¬Said log (Output.dials callID)
  kept : Said log (Output.invites callID) → gateway.legs callID = some (callID, 0) ∨
    Said log (Output.byes callID) ∧ gateway.sessions.lookup callID = none
  held : gateway.sessions.lookup callID ≠ none → gateway.legs callID = some (callID, 0)
  ending : gateway.Ending callID

section OneDialog

variable {log output : List Output} {gateway target : Gateway} {callID : String}

theorem DialogFollowed.next (followed : DialogFollowed log gateway callID)
    (legs : target.legs callID = gateway.legs callID)
    (sessions : target.sessions.lookup callID = none ↔ gateway.sessions.lookup callID = none)
    (ending : target.Ending callID) (undialled : ¬Said output (Output.dials callID))
    (uninvited : ¬Said output (Output.invites callID)) :
    DialogFollowed (log ++ output) target callID where
  undialled := by
    intro said
    exact (said_append.mp said).elim followed.undialled undialled
  kept := by
    intro said
    rw [legs, sessions]
    rcases followed.kept ((said_append.mp said).resolve_right uninvited) with held | released
    · exact .inl held
    · exact .inr ⟨released.1.append _, released.2⟩
  held := by
    intro known
    rw [legs]
    exact followed.held (fun missing => known (sessions.mpr missing))
  ending := ending

theorem DialogFollowed.missing_of_foreign (followed : DialogFollowed log gateway callID)
    (foreign : gateway.Foreign callID) : gateway.sessions.lookup callID = none := by
  by_contra known
  obtain ⟨legs, found, other⟩ := foreign
  exact other (Option.some.inj (found.symm.trans (followed.held known)))

theorem insert_missing_iff {sessions : AList (fun _ : String => CallSession)} {key : String}
    {session stored : CallSession} (present : sessions.lookup key = some session) :
    (sessions.insert key stored).lookup callID = none ↔ sessions.lookup callID = none := by
  by_cases same : callID = key
  · rw [same, AList.lookup_insert, present]
    exact iff_of_false nofun nofun
  · rw [AList.lookup_insert_ne same]

theorem sip_of_legsAt {ref : Ref} {ctx : Context} (found : gateway.contexts[ref]? = some ctx)
    (own : gateway.legsAt ref = some (callID, 0)) : ctx.sipCallID = callID := by
  unfold Gateway.legsAt at own
  rw [found] at own
  exact congrArg Prod.fst (Option.some.inj own)

theorem Gateway.Ending.beside (ending : gateway.Ending callID) (loop : target.loop = gateway.loop)
    (legsAt : ∀ ref found, gateway.legsAt ref = some found → target.legsAt ref = some found)
    (foreign : gateway.Foreign callID → target.Foreign callID)
    (missing : gateway.loop.pastHangup callID = true → gateway.sessions.lookup callID = none →
      target.sessions.lookup callID = none) : target.Ending callID := by
  unfold Gateway.Ending at ending ⊢
  rw [loop]
  cases position : gateway.loop with
  | advancing ref event =>
      rw [position] at ending
      intro same
      exact (ending same).imp (legsAt ref _) foreign
  | cleaning ref after =>
      rw [position] at ending
      cases after with
      | shutdown rest => trivial
      | delete key =>
          intro same
          exact (ending same).imp (legsAt ref _) foreign
  | sendingBye ref session after =>
      rw [position] at ending
      cases after with
      | shutdown rest => trivial
      | delete key =>
          intro same
          exact (ending same).imp_right foreign
  | forgetting ref other after =>
      rw [position] at ending
      cases after with
      | shutdown rest => trivial
      | delete key =>
          intro same
          exact (ending same).imp_right foreign
  | discarding ref after =>
      rw [position] at ending missing
      cases after with
      | shutdown rest => trivial
      | delete key =>
          intro same
          exact missing (beq_iff_eq.mpr same) (ending same)
  | deleting key =>
      rw [position] at ending missing
      intro same
      exact missing (beq_iff_eq.mpr same) (ending same)
  | _ => trivial

theorem Spoken.undialled {answers : Answers} {handler : Handler}
    (spoken : Spoken answers handler output) :
    ¬Said output (Output.dials callID) ∧ ¬Said output (Output.invites callID) := by
  cases spoken with
  | nothing => exact ⟨not_said_nil, not_said_nil⟩
  | created position =>
      exact ⟨not_said_singleton not_false, not_said_singleton not_false⟩
  | responded => exact ⟨not_said_singleton not_false, not_said_singleton not_false⟩

theorem Handled.dialogFollowed {answers : Answers} {handler : Handler} {stage : Stage}
    {handlers : List Handler} (handled : Handled gateway answers handler output stage target)
    (pointed : gateway.Pointed)
    (unreplacing : ∀ userID, handler.stage = .registering userID →
      handler.request.callID = callID → ∀ legs ∈ gateway.legs callID, legs = (callID, 0))
    (tracked : handler.stage = .tracking → handler.request.callID = callID →
      gateway.legs callID = some (callID, 0) ∧ gateway.loop.pastHangup callID = false)
    (followed : DialogFollowed log gateway callID) :
    DialogFollowed (log ++ output) { target with handlers := handlers } callID := by
  cases handled with
  | alone blockUntil spoken early late =>
      exact followed.next rfl Iff.rfl followed.ending spoken.undialled.1 spoken.undialled.2
  | @registered userID position unlocked =>
      have legsAt (ref : Ref) (found : String × Int) (present : gateway.legsAt ref = some found) :=
        legsAt_register gateway handler.request.callID (handler.request.context userID) present
      by_cases same : handler.request.callID = callID
      · have legs : Gateway.legs { gateway.register handler.request.callID
            (handler.request.context userID) with handlers := handlers } callID =
              some (callID, 0) := by
          rw [← same]
          exact legs_register_self gateway _ (handler.request.context userID)
        refine ⟨?_, fun _ => .inl legs, fun _ => legs, ?_⟩
        · intro said
          exact (said_append.mp said).elim followed.undialled (not_said_singleton not_false)
        · refine followed.ending.beside rfl legsAt ?_ ?_
          · intro foreign
            obtain ⟨old, found, other⟩ := foreign
            exact absurd (unreplacing userID position same old found) other
          · exact fun _ missing => missing
      · have legs := legs_register_of_ne pointed (handler.request.context userID) (Ne.symm same)
        refine followed.next legs Iff.rfl ?_ (not_said_singleton not_false)
          (not_said_singleton same)
        refine followed.ending.beside rfl legsAt ?_ ?_
        · intro foreign
          obtain ⟨old, found, other⟩ := foreign
          exact ⟨old, legs.trans found, other⟩
        · exact fun _ missing => missing
  | tracked position =>
      by_cases same : handler.request.callID = callID
      · obtain ⟨held, ahead⟩ := tracked position same
        refine ⟨?_, fun _ => .inl held, fun _ => held, ?_⟩
        · rw [List.append_nil]
          exact followed.undialled
        · refine followed.ending.beside rfl (fun _ _ found => found) (fun foreign => foreign) ?_
          intro past
          rw [ahead] at past
          cases past
      · have sessions : (gateway.sessions.insert handler.request.callID
            handler.request.session).lookup callID = gateway.sessions.lookup callID :=
          AList.lookup_insert_ne (Ne.symm same)
        refine followed.next rfl (iff_of_eq (congrArg (· = none) sessions)) ?_ not_said_nil
          not_said_nil
        refine followed.ending.beside rfl (fun _ _ found => found) (fun foreign => foreign) ?_
        intro _ missing
        exact sessions.trans missing
  | _ => exact followed.next rfl Iff.rfl followed.ending not_said_nil not_said_nil

theorem After.shutdown_ending (gateway : Gateway) (rest : List Ref) (callID : String) :
    (gateway.at (After.shutdown rest).next).Ending callID := by
  cases rest <;> trivial

theorem aims_of_found (pointed : gateway.Pointed) {ref : Ref}
    (found : gateway.calls.lookup callID = some ref) : gateway.Aims ref callID := by
  have allocated := pointed callID ref found
  have legs : gateway.legs callID = gateway.legsAt ref := by
    unfold Gateway.legs
    rw [found]
    rfl
  cases shape : gateway.legsAt ref with
  | none =>
      unfold Gateway.legsAt at shape
      rw [List.getElem?_eq_getElem allocated] at shape
      cases shape
  | some pair =>
      by_cases own : pair = (callID, 0)
      · rw [own] at shape
        exact .inl shape
      · exact .inr ⟨pair, legs.trans shape, own⟩

theorem aims_write (gateway : Gateway) (ref : Ref) (state : CallState) (callID : String) :
    Gateway.Aims { gateway with
      contexts := gateway.contexts.modify ref (fun ctx => { ctx with state := state }) }
        ref callID ↔ gateway.Aims ref callID := by
  unfold Gateway.Aims Gateway.Foreign
  rw [legsAt_modify gateway ref state, legs_write gateway ref state]

theorem erase_missing (sessions : AList (fun _ : String => CallSession)) (other callID : String)
    (missing : sessions.lookup callID = none) : (sessions.erase other).lookup callID = none := by
  by_cases same : callID = other
  · rw [same, AList.lookup_erase]
  · rw [AList.lookup_erase_ne same]
    exact missing

theorem Advanced.dialogFollowed {answers : Answers}
    (advanced : Advanced gateway answers gateway.loop output target) (pointed : gateway.Pointed)
    (filed : gateway.Filed) (named : callID ≠ "")
    (byes : ∀ key, gateway.loop.ends = some key → Said log (Output.byes key))
    (unreplaced : ∀ call user, gateway.loop = .registering call user → call.key = callID →
      gateway.legs callID ≠ some (callID, 0))
    (undialled : ∀ call user dialled tag, gateway.loop = .dialling call user →
      answers.dial = .ok (dialled, tag) → dialled ≠ callID)
    (sent : ∀ ref session key, gateway.loop = .sendingBye ref session (.delete key) →
      session.callID = callID → answers.bye = true)
    (followed : DialogFollowed log gateway callID) :
    DialogFollowed (log ++ output) target callID := by
  generalize position : gateway.loop = loop at advanced
  have ending := followed.ending
  unfold Gateway.Ending at ending
  rw [position] at ending
  have uninvited := advanced.not_invites callID
  have silent : ¬Said output (Output.dials callID) := by
    apply advanced.not_dials
    intro call user tag dialling answered
    exact undialled call user callID tag (position.trans dialling) answered rfl
  cases advanced with
  | @registered call user =>
      by_cases same : callID = call.key
      · have unheld := unreplaced call user position same.symm
        have missing : gateway.sessions.lookup callID = none := by
          by_contra known
          exact unheld (followed.held known)
        refine ⟨?_, ?_, fun known => absurd missing known, trivial⟩
        · intro said
          exact (said_append.mp said).elim followed.undialled silent
        · intro said
          have earlier := (said_append.mp said).resolve_right uninvited
          rcases followed.kept earlier with held | released
          · exact absurd held unheld
          · exact .inr ⟨released.1.append _, released.2⟩
      · have legs := legs_register_of_ne pointed (call.context user) same
        exact followed.next legs Iff.rfl trivial silent uninvited
  | @dialled call user dialled tag answered =>
      have other := undialled call user dialled tag position answered
      refine followed.next rfl ?_ trivial silent uninvited
      exact iff_of_eq (congrArg (· = none) (AList.lookup_insert_ne (Ne.symm other)))
  | bumped present =>
      exact followed.next rfl (insert_missing_iff present) trivial silent uninvited
  | @met event ref found =>
      refine followed.next rfl Iff.rfl ?_ silent uninvited
      intro same
      have key : event.ctxID = callID := congrArg InternalEvent.ctxID same
      rw [key] at found
      exact aims_of_found pointed found
  | @moved ref event =>
      refine followed.next (congrFun (legs_write gateway ref event.typ.state) _) Iff.rfl ?_ silent
        uninvited
      unfold Gateway.Ending
      by_cases isCleanup : event.typ = .cleanup
      · simp only [Gateway.at, isCleanup, if_true]
        intro same
        exact (aims_write gateway ref _ callID).mpr (ending (by rw [← same, ← isCleanup]))
      · simp only [Gateway.at, isCleanup, if_false]
  | @cleanedNone ref after ctx found unnamed =>
      refine followed.next rfl Iff.rfl ?_ silent uninvited
      cases after with
      | shutdown rest => trivial
      | delete key =>
          intro same
          rcases ending same with own | foreign
          · exact absurd (unnamed.symm.trans (sip_of_legsAt found own)).symm named
          · exact followed.missing_of_foreign foreign
  | @cleanedUnknown ref after ctx found isNamed missing =>
      refine followed.next rfl Iff.rfl ?_ silent uninvited
      cases after with
      | shutdown rest => trivial
      | delete key =>
          intro same
          rcases ending same with own | foreign
          · rw [sip_of_legsAt found own] at missing
            exact missing
          · exact followed.missing_of_foreign foreign
  | @cleaned ref after ctx session found isNamed present =>
      refine followed.next rfl (insert_missing_iff present) ?_ silent uninvited
      cases after with
      | shutdown rest => trivial
      | delete key =>
          intro same
          rcases ending same with own | foreign
          · exact .inl ((filed _ session present).trans (sip_of_legsAt found own))
          · exact .inr foreign
  | @sentBye ref session after sends =>
      refine followed.next rfl Iff.rfl ?_ silent uninvited
      cases after <;> exact ending
  | @lostBye ref session after lost =>
      refine followed.next rfl Iff.rfl ?_ silent uninvited
      cases after with
      | shutdown rest => trivial
      | delete key =>
          intro same
          rcases ending same with own | foreign
          · have sends := sent ref session key position own
            rw [lost] at sends
            cases sends
          · exact followed.missing_of_foreign foreign
  | @forgot ref other after =>
      have dropped := erase_missing gateway.sessions other callID
      refine ⟨?_, ?_, ?_, ?_⟩
      · rw [List.append_nil]
        exact followed.undialled
      · rw [List.append_nil]
        intro said
        exact (followed.kept said).imp_right (fun released => ⟨released.1, dropped released.2⟩)
      · intro known
        exact followed.held (fun missing => known (dropped missing))
      · cases after with
        | shutdown rest => trivial
        | delete key =>
            intro same
            rcases ending same with own | foreign
            · rw [← own]
              exact AList.lookup_erase _ _
            · exact dropped (followed.missing_of_foreign foreign)
  | @discarded ref after ctx found =>
      refine followed.next rfl Iff.rfl ?_ silent uninvited
      cases after with
      | delete key => exact ending
      | shutdown rest => exact After.shutdown_ending gateway rest callID
  | @deleted key =>
      by_cases same : key = callID
      · have missing := ending same
        have received : Said log (Output.byes callID) := by
          apply byes
          rw [position, ← same]
          rfl
        refine ⟨?_, ?_, fun known => absurd missing known, trivial⟩
        · rw [List.append_nil]
          exact followed.undialled
        · rw [List.append_nil]
          exact fun _ => .inr ⟨received, missing⟩
      · exact followed.next (legs_erase_of_ne gateway (Ne.symm same)) Iff.rfl trivial silent
          uninvited
  | _ => exact followed.next rfl Iff.rfl trivial silent uninvited

theorem begin_ending (gateway : Gateway) (update : Update) :
    (gateway.at update.begin).Ending callID := by
  change Gateway.Ending { gateway with loop := update.begin } callID
  unfold Update.begin
  split
  · split
    · trivial
    · split <;> trivial
  · split <;> trivial
  · trivial

theorem tagRemote_missing_iff (gateway : Gateway) (key tag callID : String) :
    (gateway.tagRemote key tag).sessions.lookup callID = none ↔
      gateway.sessions.lookup callID = none := by
  unfold Gateway.tagRemote
  split
  · rfl
  · exact insert_missing_iff ‹_›

theorem Stepped.dialogFollowed {label : Label} (stepped : Stepped gateway label output target)
    (pointed : gateway.Pointed) (filed : gateway.Filed) (heard : Heard log gateway)
    (named : callID ≠ "") (spares : SparesDialog callID ⟨gateway, label, output, target⟩)
    (followed : DialogFollowed log gateway callID) :
    DialogFollowed (log ++ output) target callID := by
  cases stepped with
  | request =>
      exact followed.next rfl Iff.rfl followed.ending (not_said_singleton not_false)
        (not_said_singleton not_false)
  | @handler index answers handler output stage last found handled =>
      apply handled.dialogFollowed pointed _ _ followed
      · intro userID position same
        have spared := spares handler found same
        rw [position] at spared
        exact spared
      · intro position same
        have spared := spares handler found same
        rw [position] at spared
        exact spared
  | @update update waiting =>
      exact followed.next rfl Iff.rfl (begin_ending gateway update)
        (outputs_silent update (fun _ => not_false)) (outputs_silent update (fun _ => not_false))
  | receiveEvent waiting receives =>
      exact followed.next rfl Iff.rfl followed.ending not_said_nil not_said_nil
  | receiveInternal waiting receives =>
      exact followed.next rfl Iff.rfl trivial not_said_nil not_said_nil
  | @cancel order waiting enumerated =>
      exact followed.next rfl Iff.rfl (After.shutdown_ending gateway _ callID) not_said_nil
        not_said_nil
  | @loop answers output target advanced =>
      unfold SparesDialog at spares
      dsimp only at spares
      apply advanced.dialogFollowed pointed filed named heard.ending _ _ _ followed
      · intro call user position
        rw [position] at spares
        exact spares
      · intro call user dialled tag position answered
        rw [position, answered] at spares
        exact spares
      · intro ref session key position
        rw [position] at spares
        exact spares
  | @response key tag =>
      obtain ⟨sessions, same⟩ := tagRemote_eq gateway key tag
      have missing := tagRemote_missing_iff gateway key tag callID
      rw [same] at missing ⊢
      refine followed.next rfl missing ?_ not_said_nil not_said_nil
      exact followed.ending.beside rfl (fun _ _ present => present) (fun foreign => foreign)
        (fun _ => missing.mpr)

end OneDialog

/-! ### Whole runs -/

section WholeRuns

variable {extraWait peerFlood : Int} {taken : List Transition} {state : Gateway}

theorem run_callFollowed (run : Run (Gateway.initial extraWait peerFlood) taken state) {id : Int}
    (nonzero : id ≠ 0) (spared : ∀ transition ∈ taken, SparesCall id transition) :
    CallFollowed (LabelledMachine.history taken) state id := by
  induction run with
  | nil => exact ⟨not_said_nil, fun said => absurd said not_said_nil, nofun, nofun⟩
  | @snoc earlier source target label output reached fired ih =>
      rw [List.forall_mem_append, List.forall_mem_singleton] at spared
      rw [LabelledMachine.history_append, LabelledMachine.history_cons,
        LabelledMachine.history_nil, List.append_nil]
      exact (step_stepped fired).callFollowed (run_pointed reached) nonzero spared.2 (ih spared.1)

theorem run_dialogFollowed (run : Run (Gateway.initial extraWait peerFlood) taken state)
    {callID : String} (named : callID ≠ "")
    (spared : ∀ transition ∈ taken, SparesDialog callID transition) :
    DialogFollowed (LabelledMachine.history taken) state callID := by
  induction run with
  | nil =>
      exact ⟨not_said_nil, fun said => absurd said not_said_nil, fun known => absurd rfl known,
        trivial⟩
  | @snoc earlier source target label output reached fired ih =>
      rw [List.forall_mem_append, List.forall_mem_singleton] at spared
      rw [LabelledMachine.history_append, LabelledMachine.history_cons,
        LabelledMachine.history_nil, List.append_nil]
      exact (step_stepped fired).dialogFollowed (run_pointed reached) (run_filed reached)
        (run_heard reached) named spared.2 (ih spared.1)

theorem holds_of_legs {key sip : String} {tg : Int} (found : state.legs key = some (sip, tg)) :
    state.HoldsCall tg ∧ state.HoldsDialog sip := by
  rw [legs_eq_lookup] at found
  obtain ⟨ctx, present, same⟩ := Option.map_eq_some_iff.mp found
  exact ⟨⟨key, ctx, present, congrArg Prod.snd same⟩, ⟨key, ctx, present, congrArg Prod.fst same⟩⟩

theorem said_pairs {log : List Output} {callID : String} {id : Int}
    (paired : Said log (Output.pairs callID id)) :
    Said log (Output.creates id) ∨ Said log (Output.dials callID) := by
  obtain ⟨output, member, pairs⟩ := paired
  unfold Output.pairs at pairs
  split at pairs
  · exact .inl ⟨_, member, pairs.2⟩
  · exact .inr ⟨_, member, pairs.1⟩
  · cases pairs

/-- Legs that every step spares are not orphaned, whatever happens to others. -/
theorem spared_legs_are_kept (run : Run (Gateway.initial extraWait peerFlood) taken state) :
    (∀ id, id ≠ 0 → (∀ transition ∈ taken, SparesCall id transition) →
      CallKept (LabelledMachine.history taken) state id) ∧
    (∀ callID, callID ≠ "" → (∀ transition ∈ taken, SparesDialog callID transition) →
      DialogKept (LabelledMachine.history taken) state callID) ∧
    ∀ callID id, callID ≠ "" → id ≠ 0 →
      (∀ transition ∈ taken, SparesDialog callID transition ∧ SparesCall id transition) →
      PairReleased (LabelledMachine.history taken) state callID id := by
  refine ⟨?_, ?_, ?_⟩
  · intro id nonzero spared started
    have followed := run_callFollowed run nonzero spared
    rcases followed.kept (started.resolve_right followed.uncreated) with held | settingUp | released
    · exact .inl (holds_of_legs held).1
    · exact .inr (.inl settingUp)
    · exact .inr (.inr (.inl released))
  · intro callID named spared started
    have followed := run_dialogFollowed run named spared
    rcases followed.kept (started.resolve_right followed.undialled) with held | released
    · exact .inl (holds_of_legs held).2
    · exact .inr ⟨.inr released.1, released.2⟩
  · intro callID id named nonzero spared paired
    have call := run_callFollowed run nonzero (fun transition member =>
      (spared transition member).2)
    have dialog := run_dialogFollowed run named (fun transition member =>
      (spared transition member).1)
    rcases said_pairs paired with created | dialled
    · exact absurd created call.uncreated
    · exact absurd dialled dialog.undialled

end WholeRuns

instance (id : Int) : DecidablePred (SparesCall id) := fun transition =>
  match transition with
  | ⟨source, .handler index answers, _, _⟩ => by
      unfold SparesCall
      dsimp only
      have each (handler : Handler) : Decidable (match handler.stage, answers.createCall with
          | .creating _, .ok created => created ≠ id
          | .registering _, _ =>
              handler.request.callID = toString id → source.legs (toString id) ≠ some ("", id)
          | _, _ => True) := by
        split <;> infer_instance
      infer_instance
  | ⟨source, .loop answers, _, _⟩ => by
      unfold SparesCall
      dsimp only
      split <;> infer_instance
  | ⟨_, .request _, _, _⟩ => isTrue trivial
  | ⟨_, .update _, _, _⟩ => isTrue trivial
  | ⟨_, .receiveEvent, _, _⟩ => isTrue trivial
  | ⟨_, .receiveInternal, _, _⟩ => isTrue trivial
  | ⟨_, .cancel _, _, _⟩ => isTrue trivial
  | ⟨_, .response _ _, _, _⟩ => isTrue trivial

instance (callID : String) : DecidablePred (SparesDialog callID) := fun transition =>
  match transition with
  | ⟨source, .handler index answers, _, _⟩ => by
      unfold SparesDialog
      dsimp only
      have each (handler : Handler) : Decidable (handler.request.callID = callID →
          match handler.stage with
          | .registering _ => ∀ legs ∈ source.legs callID, legs = (callID, 0)
          | .tracking =>
              source.legs callID = some (callID, 0) ∧ source.loop.pastHangup callID = false
          | _ => True) := by
        split <;> infer_instance
      infer_instance
  | ⟨source, .loop answers, _, _⟩ => by
      unfold SparesDialog
      dsimp only
      split <;> infer_instance
  | ⟨_, .request _, _, _⟩ => isTrue trivial
  | ⟨_, .update _, _, _⟩ => isTrue trivial
  | ⟨_, .receiveEvent, _, _⟩ => isTrue trivial
  | ⟨_, .receiveInternal, _, _⟩ => isTrue trivial
  | ⟨_, .cancel _, _, _⟩ => isTrue trivial
  | ⟨_, .response _ _, _, _⟩ => isTrue trivial

def sampleInvite : List Label :=
  [Label.request { method := .invite, callID := "a" }, .handler 0 {},
    .handler 0 { parse := .ok (some 11) }, .handler 0 { createCall := .ok 9 }] ++
    List.replicate 6 (Label.handler 0 {})

def sampleBye : List Label :=
  [Label.request { method := .bye, callID := "a" }, .handler 1 {}, .handler 1 {}, .handler 1 {},
    .receiveInternal, .loop {}, .loop {}, .receiveInternal] ++ List.replicate 7 (Label.loop {})

def sampleIncoming : List Label :=
  [.update (.call { id := 7, userID := 11, isOutgoing := false, state := .pending }), .loop {},
    .loop { getUser := .ok ⟨11, "", "", none, ""⟩ },
    .loop {}, .loop {}, .loop {}, .loop { dial := .ok ("d", "t") }, .receiveInternal, .loop {},
    .loop {}]

theorem spared_legs_are_kept_beside_others :
    ∃ taken state, Run (Gateway.initial 0 0) taken state ∧
      (∀ transition ∈ taken, SparesCall 7 transition) ∧
      (∀ transition ∈ taken, SparesDialog "a" transition) ∧
      CallKept (LabelledMachine.history taken) state 7 ∧
      DialogKept (LabelledMachine.history taken) state "a" ∧
      PairReleased (LabelledMachine.history taken) state "a" 7 := by
  have replayed : LabelledMachine.replay Gateway.step (Gateway.initial 0 0)
      (sampleIncoming ++ sampleInvite ++ sampleBye) = some (_, _) := rfl
  have run := LabelledMachine.Run.of_replay replayed
  have call := LabelledMachine.replay_forall (SparesCall 7) replayed (by decide)
  have dialog := LabelledMachine.replay_forall (SparesDialog "a") replayed (by decide)
  obtain ⟨calls, dialogs, pairs⟩ := spared_legs_are_kept run
  exact ⟨_, _, run, call, dialog, calls 7 (by decide) call, dialogs "a" (by decide) dialog,
    pairs "a" 7 (by decide) (by decide) (fun transition member =>
      ⟨dialog transition member, call transition member⟩)⟩

instance (id : Int) : DecidablePred (Output.discards id) := fun output => by
  unfold Output.discards
  split <;> infer_instance

instance (id : Int) : DecidablePred (Output.reports id) := fun output => by
  unfold Output.reports
  split <;> infer_instance

instance (id : Int) : DecidablePred (Output.creates id) := fun output => by
  unfold Output.creates
  split <;> infer_instance

instance (log : List Output) (kind : Output → Prop) [DecidablePred kind] :
    Decidable (Said log kind) :=
  inferInstanceAs (Decidable (∃ output ∈ log, kind output))

/-- The INVITE is accepted, ended by its peer and cleaned up, and the Telegram
call that was created for it goes on without anybody knowing it. -/
theorem created_call_is_orphaned :
    ¬∀ taken state, Run (Gateway.initial 0 0) taken state →
      (∀ id, CallKept (LabelledMachine.history taken) state id) ∧
      (∀ callID, DialogKept (LabelledMachine.history taken) state callID) ∧
      ∀ callID id, PairReleased (LabelledMachine.history taken) state callID id := by
  intro always
  have replayed : LabelledMachine.replay Gateway.step (Gateway.initial 0 0)
      (sampleInvite ++ sampleBye) = some (_, _) := rfl
  have kept := (always _ _ (LabelledMachine.Run.of_replay replayed)).1 9 (.inr (by decide))
  rcases kept with held | settingUp | discarded | reported
  · obtain ⟨key, ctx, found, _⟩ := held
    cases found
  · cases settingUp
  · exact absurd discarded (by decide)
  · exact absurd reported (by decide)

end Tg2Sip.Go
