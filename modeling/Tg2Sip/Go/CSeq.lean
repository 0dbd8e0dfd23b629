/-
CSeq numbers within a dialog.

A session keeps a counter that is advanced before each INFO and BYE.  For one
Call-ID the gateway is a counter with the number that the loop is about to
send.  The counter starts anew whenever a session is stored, also over a
session that has already sent: this is where the numbers of one Call-ID stop
increasing.
-/

import Tg2Sip.Go.Legs
import Tg2Sip.Lib.Numbering

namespace Tg2Sip.Go

open Numbering (Step Event)

def Output.number? (callID : String) : Output → Option Nat
  | .sendBye sentID cseq true => if sentID = callID then some cseq.toNat else none
  | .sendInfo sentID _ cseq true => if sentID = callID then some cseq.toNat else none
  | _ => none

def numbers (callID : String) (log : List Output) : List Nat :=
  log.filterMap (Output.number? callID)

def Loop.sending : Loop → Option CallSession
  | .sendingInfo session _ => some session
  | .sendingBye _ session _ => some session
  | _ => none

def Loop.pending (loop : Loop) (callID : String) : Option Nat :=
  match loop.sending with
  | some session => if session.callID = callID then some session.cseq.toNat else none
  | none => none

def Gateway.counter (gateway : Gateway) (callID : String) : Option Nat :=
  (gateway.sessions.lookup callID).map (fun session => session.cseq.toNat)

def Gateway.numbering (gateway : Gateway) (callID : String) : Numbering.State :=
  ⟨gateway.counter callID, gateway.loop.pending callID⟩

/-- The Call-ID under which the transition stores a new session. -/
def opens (transition : Transition) : Option String :=
  match transition with
  | ⟨source, .handler index _, _, _⟩ =>
      match source.handlers[index]? with
      | some handler => if handler.stage = .tracking then some handler.request.callID else none
      | none => none
  | ⟨source, .loop answers, _, _⟩ =>
      match source.loop, answers.dial with
      | .dialling _ _, .ok (callID, _) => some callID
      | _, _ => none
  | _ => none

/-- The Call-ID whose counter the transition advances. -/
def advances (transition : Transition) : Option String :=
  match transition with
  | ⟨source, .loop _, _, _⟩ =>
      match source.loop with
      | .dialingDtmf callID _ => some callID
      | .cleaning ref _ =>
          (source.contexts[ref]?).bind (fun ctx =>
            if ctx.sipCallID = "" then none else some ctx.sipCallID)
      | _ => none
  | _ => none

theorem numbers_sendInfo (callID : String) (session : CallSession) (digits : String)
    (sent : Bool) :
    numbers callID [.sendInfo session.callID digits session.cseq sent] =
      if sent = true ∧ session.callID = callID then [session.cseq.toNat] else [] := by
  cases sent with
  | true => by_cases same : session.callID = callID <;> simp [numbers, Output.number?, same]
  | false => rfl

theorem numbers_sendBye (callID : String) (session : CallSession) (sent : Bool) :
    numbers callID [.sendBye session.callID session.cseq sent] =
      if sent = true ∧ session.callID = callID then [session.cseq.toNat] else [] := by
  cases sent with
  | true => by_cases same : session.callID = callID <;> simp [numbers, Output.number?, same]
  | false => rfl

theorem numbers_cleanUp (callID : String) (ctx : Context) (output : List Output)
    (silent : numbers callID output = []) : numbers callID (ctx.stops ++ output) = [] := by
  unfold numbers Context.stops at *
  rw [List.filterMap_append, silent]
  split <;> rfl

theorem After.next_sending (after : After) : after.next.sending = none := by
  rcases after with _ | (_ | _) <;> rfl

/-! ### Every step as an event of the counter -/

def Mirrored (callID : String) (transition : Transition) : Prop :=
  ∃ event, Step (2 ^ 64) (transition.source.numbering callID) event
      (numbers callID transition.output) (transition.target.numbering callID) ∧
    (event = .start → opens transition = some callID) ∧
    (event = .advance → advances transition = some callID)

section Mirror

variable {callID : String} {source target : Gateway} {label : Label} {output : List Output}

theorem Mirrored.keep (sameCounter : target.counter callID = source.counter callID)
    (samePending : target.loop.pending callID = source.loop.pending callID)
    (silent : numbers callID output = []) :
    Mirrored callID ⟨source, label, output, target⟩ := by
  refine ⟨.keep, ?_, nofun, nofun⟩
  unfold Gateway.numbering
  rw [sameCounter, samePending, silent]
  exact .keep

theorem pending_of_idle {loop : Loop} (idle : loop.sending = none) :
    loop.pending callID = none := by
  unfold Loop.pending
  rw [idle]

theorem Mirrored.store {key : String} {session : CallSession}
    (stored : target.sessions = source.sessions.insert key session) (first : session.cseq = 1)
    (samePending : target.loop.pending callID = source.loop.pending callID)
    (opened : opens ⟨source, label, output, target⟩ = some key)
    (silent : numbers callID output = []) :
    Mirrored callID ⟨source, label, output, target⟩ := by
  by_cases same : callID = key
  · subst same
    refine ⟨.start, ?_, fun _ => opened, nofun⟩
    have started : target.counter callID = some 1 := by
      unfold Gateway.counter
      rw [stored, AList.lookup_insert, Option.map_some, first]
      rfl
    unfold Gateway.numbering
    rw [started, samePending, silent]
    exact .start
  · apply Mirrored.keep _ samePending silent
    unfold Gateway.counter
    rw [stored, AList.lookup_insert_ne same]

theorem Mirrored.advance {key : String} {session : CallSession}
    (found : source.sessions.lookup key = some session) (named : session.callID = key)
    (stored : target.sessions =
      source.sessions.insert key { session with cseq := session.cseq + 1 })
    (idle : source.loop.sending = none)
    (sending : target.loop.sending = some { session with cseq := session.cseq + 1 })
    (advancing : advances ⟨source, label, output, target⟩ = some key)
    (silent : numbers callID output = []) :
    Mirrored callID ⟨source, label, output, target⟩ := by
  have next : (session.cseq + 1).toNat = (session.cseq.toNat + 1) % 2 ^ 64 :=
    UInt64.toNat_add session.cseq 1
  by_cases same : callID = key
  · subst same
    refine ⟨.advance, ?_, nofun, fun _ => advancing⟩
    have counted : source.counter callID = some session.cseq.toNat := by
      unfold Gateway.counter
      rw [found, Option.map_some]
    have recounted : target.counter callID = some ((session.cseq.toNat + 1) % 2 ^ 64) := by
      unfold Gateway.counter
      rw [stored, AList.lookup_insert, Option.map_some, next]
    have waiting : target.loop.pending callID = some ((session.cseq.toNat + 1) % 2 ^ 64) := by
      unfold Loop.pending
      rw [sending]
      dsimp only
      rw [if_pos named, next]
    unfold Gateway.numbering
    rw [counted, recounted, waiting, pending_of_idle idle, silent]
    exact .advance
  · apply Mirrored.keep _ _ silent
    · unfold Gateway.counter
      rw [stored, AList.lookup_insert_ne same]
    · rw [pending_of_idle idle]
      unfold Loop.pending
      rw [sending]
      dsimp only
      rw [named, if_neg (Ne.symm same)]

theorem Mirrored.send {session : CallSession} (sent : Bool)
    (sending : source.loop.sending = some session) (idle : target.loop.sending = none)
    (sameSessions : target.sessions = source.sessions)
    (number : numbers callID output =
      if sent = true ∧ session.callID = callID then [session.cseq.toNat] else []) :
    Mirrored callID ⟨source, label, output, target⟩ := by
  have sameCounter : target.counter callID = source.counter callID := by
    unfold Gateway.counter
    rw [sameSessions]
  by_cases named : session.callID = callID
  · have waiting : source.loop.pending callID = some session.cseq.toNat := by
      unfold Loop.pending
      rw [sending]
      exact if_pos named
    cases sent with
    | true =>
        refine ⟨.use, ?_, nofun, nofun⟩
        unfold Gateway.numbering
        rw [sameCounter, waiting, pending_of_idle idle, number, if_pos ⟨rfl, named⟩]
        exact .use
    | false =>
        refine ⟨.lose, ?_, nofun, nofun⟩
        unfold Gateway.numbering
        rw [sameCounter, waiting, pending_of_idle idle, number,
          if_neg (fun both => Bool.false_ne_true both.1)]
        exact .lose
  · apply Mirrored.keep sameCounter
    · rw [pending_of_idle idle]
      unfold Loop.pending
      rw [sending]
      exact (if_neg named).symm
    · rw [number, if_neg (fun both => named both.2)]

theorem Mirrored.drop {key : String} (idle : source.loop.sending = none)
    (still : target.loop.sending = none) (erased : target.sessions = source.sessions.erase key)
    (silent : numbers callID output = []) :
    Mirrored callID ⟨source, label, output, target⟩ := by
  by_cases same : callID = key
  · subst same
    refine ⟨.drop, ?_, nofun, nofun⟩
    have gone : target.counter callID = none := by
      unfold Gateway.counter
      rw [erased, AList.lookup_erase, Option.map_none]
    unfold Gateway.numbering
    rw [gone, pending_of_idle idle, pending_of_idle still, silent]
    exact .drop
  · apply Mirrored.keep
    · unfold Gateway.counter
      rw [erased, AList.lookup_erase_ne same]
    · rw [pending_of_idle idle, pending_of_idle still]
    · exact silent

theorem Advanced.mirrored {answers : Answers} (filed : source.Filed)
    (advanced : Advanced source answers source.loop output target) (callID : String) :
    Mirrored callID ⟨source, .loop answers, output, target⟩ := by
  generalize position : source.loop = loop at advanced
  -- Outside the two positions that send, nothing is pending.
  have idle (quiet : loop.sending = none) : source.loop.sending = none := by
    rw [position]
    exact quiet
  have moves (quiet : loop.sending = none) (still : target.loop.sending = none)
      (sameSessions : target.sessions = source.sessions) (silent : numbers callID output = []) :
      Mirrored callID ⟨source, .loop answers, output, target⟩ := by
    apply Mirrored.keep
    · unfold Gateway.counter
      rw [sameSessions]
    · rw [pending_of_idle still, pending_of_idle (idle quiet)]
    · exact silent
  cases advanced with
  | dialled answered =>
      refine Mirrored.store rfl rfl ?_ ?_ rfl
      · rw [pending_of_idle (idle rfl)]
        rfl
      · unfold opens
        dsimp only
        rw [position, answered]
  | @bumped key digits session present =>
      refine Mirrored.advance present (filed key session present) rfl (idle rfl) rfl ?_ rfl
      unfold advances
      dsimp only
      rw [position]
  | @cleaned ref after ctx session found named present =>
      refine Mirrored.advance present (filed ctx.sipCallID session present) rfl (idle rfl) rfl
        ?_ ?_
      · unfold advances
        dsimp only
        rw [position]
        dsimp only
        rw [found, Option.bind_some, if_neg named]
      · exact numbers_cleanUp callID ctx [.hangup ctx.sipCallID] rfl
  | @sentInfo session digits =>
      refine Mirrored.send answers.info (by rw [position]; rfl) rfl rfl ?_
      exact numbers_sendInfo callID session digits answers.info
  | @sentBye ref session after sent =>
      refine Mirrored.send true (by rw [position]; rfl) rfl rfl ?_
      exact numbers_sendBye callID session true
  | @lostBye ref session after lost =>
      refine Mirrored.send false (by rw [position]; rfl) rfl rfl ?_
      exact numbers_sendBye callID session false
  | @forgot ref key after => exact Mirrored.drop (idle rfl) rfl rfl rfl
  | @moved ref event =>
      refine moves rfl ?_ rfl rfl
      change Loop.sending (if event.typ = .cleanup then _ else _) = none
      split <;> rfl
  | @cleanedNone ref after ctx found unnamed =>
      refine moves rfl rfl rfl ?_
      have silent := numbers_cleanUp callID ctx [] rfl
      rwa [List.append_nil] at silent
  | @cleanedUnknown ref after ctx found named unknown =>
      exact moves rfl rfl rfl (numbers_cleanUp callID ctx [.hangup ctx.sipCallID] rfl)
  | @discarded ref after ctx found =>
      refine moves rfl (After.next_sending after) rfl ?_
      split <;> rfl
  | _ => exact moves rfl rfl rfl rfl

theorem Handled.mirrored {index : Nat} {answers : Answers} {handler : Handler} {stage : Stage}
    {handlers : List Handler} (found : source.handlers[index]? = some handler)
    (handled : Handled source answers handler output stage target) (callID : String) :
    Mirrored callID
      ⟨source, .handler index answers, output, { target with handlers := handlers }⟩ := by
  cases handled with
  | alone blockUntil spoken early late =>
      refine Mirrored.keep rfl rfl ?_
      cases spoken <;> rfl
  | tracked position =>
      refine Mirrored.store rfl rfl rfl ?_ rfl
      unfold opens
      dsimp only
      rw [found]
      exact if_pos position
  | _ => exact Mirrored.keep rfl rfl rfl

theorem tagRemote_counter (gateway : Gateway) (key tag callID : String) :
    (gateway.tagRemote key tag).counter callID = gateway.counter callID := by
  unfold Gateway.tagRemote
  split
  · rfl
  · rename_i session found
    unfold Gateway.counter
    by_cases same : callID = key
    · rw [same, AList.lookup_insert, found]
      rfl
    · rw [AList.lookup_insert_ne same]

theorem Update.begin_sending (update : Update) : update.begin.sending = none := by
  unfold Update.begin
  repeat' split
  all_goals rfl

theorem Stepped.mirrored (filed : source.Filed) (stepped : Stepped source label output target)
    (callID : String) : Mirrored callID ⟨source, label, output, target⟩ := by
  cases stepped with
  | request => exact Mirrored.keep rfl rfl rfl
  | handler found handled => exact handled.mirrored found callID
  | @update update waiting =>
      refine Mirrored.keep rfl ?_ ?_
      · rw [waiting]
        exact pending_of_idle (Update.begin_sending update)
      · cases update <;> rfl
  | receiveEvent waiting received => exact Mirrored.keep rfl rfl rfl
  | receiveInternal waiting received =>
      refine Mirrored.keep rfl ?_ rfl
      rw [waiting]
      rfl
  | cancel waiting ordered =>
      refine Mirrored.keep rfl ?_ rfl
      rw [waiting]
      exact pending_of_idle (After.next_sending _)
  | loop advanced => exact advanced.mirrored filed callID
  | @response key tag =>
      obtain ⟨sessions, same⟩ := tagRemote_eq source key tag
      refine Mirrored.keep (tagRemote_counter source key tag callID) ?_ rfl
      rw [same]

end Mirror

/-- A session is stored under a Call-ID with which nothing was sent and nothing
is about to be sent, and a counter that is advanced does not wrap. -/
def Fresh (before : List Transition) (transition : Transition) : Prop :=
  (∀ callID ∈ opens transition, numbers callID (LabelledMachine.history before) = [] ∧
    transition.source.loop.pending callID = none) ∧
  ∀ callID ∈ advances transition, ∀ number ∈ transition.source.counter callID,
    number + 1 < 2 ^ 64

instance (before : List Transition) (transition : Transition) :
    Decidable (Fresh before transition) := by
  unfold Fresh
  infer_instance

theorem run_ordered {extraWait peerFlood : Int} {taken : List Transition} {state : Gateway}
    (run : Run (Gateway.initial extraWait peerFlood) taken state)
    (fresh : LabelledMachine.AdmittedAlong Fresh taken) (callID : String) :
    Numbering.Ordered (numbers callID (LabelledMachine.history taken))
      (state.numbering callID) := by
  apply LabelledMachine.Run.invariantAlong _ _ run fresh
  · exact Numbering.ordered_initial
  · intro taken source label output target earlier ordered fired admitted
    obtain ⟨event, step, opened, advanced⟩ :=
      (step_stepped fired).mirrored (run_filed earlier) callID
    have along : numbers callID (LabelledMachine.history
        (taken ++ [⟨source, label, output, target⟩])) =
        numbers callID (LabelledMachine.history taken) ++ numbers callID output := by
      unfold numbers
      rw [LabelledMachine.history_append, List.filterMap_append]
      simp only [LabelledMachine.history_cons, LabelledMachine.history_nil, List.append_nil]
    rw [along]
    apply step.ordered ordered
    constructor
    · intro starts
      exact admitted.1 callID (opened starts)
    · intro advances
      exact admitted.2 callID (advanced advances)

/-- The CSeq numbers of one Call-ID increase from above that of the INVITE, in
every run that stores sessions only under Call-IDs that have sent nothing. -/
theorem cseq_increases {extraWait peerFlood : Int} {taken : List Transition} {state : Gateway}
    (run : Run (Gateway.initial extraWait peerFlood) taken state)
    (fresh : LabelledMachine.AdmittedAlong Fresh taken) (callID : String) :
    (numbers callID (LabelledMachine.history taken)).Pairwise (· < ·) ∧
      ∀ number ∈ numbers callID (LabelledMachine.history taken), 1 < number := by
  have ordered := run_ordered run fresh callID
  exact ⟨ordered.increasing, ordered.above⟩

def trackedInvite (index : Nat) : List Label :=
  [.handler index {}, .handler index { parse := .ok (some 11) },
    .handler index { createCall := .ok 7 }, .handler index {}, .handler index {},
    .handler index {}, .handler index {}, .handler index {}]

/-- An INVITE, an INFO of the peer that makes the call wait for digits, and a
text message whose digit is sent. -/
def sampleDigits : List Label :=
  [Label.request { method := .invite, callID := "a" }] ++ trackedInvite 0 ++
    [Label.receiveInternal, .loop {}, .loop {}, .request { method := .info, callID := "a" },
      .handler 1 {}, .handler 1 {}, .receiveInternal, .loop {}, .loop {},
      .update (.newMessage ⟨.user 11, some "5"⟩), .loop { order := ["a"] }, .loop {}, .loop {}]

def answeredBye (index : Nat) : List Label :=
  [.request { method := .bye, callID := "a" }, .handler index {}, .handler index {},
    .receiveInternal, .loop {}, .loop {}, .loop {}, .loop {}]

theorem cseq_increases_to_bye :
    ∃ taken state, Run (Gateway.initial 0 0) taken state ∧
      numbers "a" (LabelledMachine.history taken) = [2, 3] ∧
      LabelledMachine.AdmittedAlong Fresh taken ∧
      (numbers "a" (LabelledMachine.history taken)).Pairwise (· < ·) := by
  have replayed : LabelledMachine.replay Gateway.step (Gateway.initial 0 0)
      (sampleDigits ++ answeredBye 2) = some (_, _) := rfl
  have run := LabelledMachine.Run.of_replay replayed
  have fresh := LabelledMachine.replay_admittedAlong Fresh replayed (by decide)
  exact ⟨_, _, run, rfl, fresh, (cseq_increases run fresh "a").1⟩

/-- An INVITE within the dialog starts the counter anew. -/
theorem cseq_repeats_behind_reinvite :
    ¬∀ taken state, Run (Gateway.initial 0 0) taken state → ∀ callID,
      (numbers callID (LabelledMachine.history taken)).Pairwise (· < ·) ∧
        ∀ number ∈ numbers callID (LabelledMachine.history taken), 1 < number := by
  intro always
  have replayed : LabelledMachine.replay Gateway.step (Gateway.initial 0 0)
      (sampleDigits ++ [Label.request { method := .invite, callID := "a" }] ++ trackedInvite 2 ++
        [Label.receiveInternal, .loop {}, .loop {}] ++ answeredBye 3) = some (_, _) := rfl
  have ordered := (always _ _ (LabelledMachine.Run.of_replay replayed) "a").1
  have sent : [2, 2].Pairwise (· < ·) := ordered
  revert sent
  decide

end Tg2Sip.Go
