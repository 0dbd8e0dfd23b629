/-
Digits that a Telegram user sends as a message.

`handleTelegramMessage` goes through `g.calls` in the random order of a Go map
and sends the digits on the first call of the sender that waits for them.  The
order is forgotten exactly when no such call can be sent to, or when there is
only one of them.
-/

import Tg2Sip.Go.Legs
import Tg2Sip.Lib.Enumeration

namespace Tg2Sip.Go

variable {gateway : Gateway} {message : Message} {sender : Int} {digits : String}

/-- The Call-ID and the digits of the INFO that `handleTelegramMessage` sends
when the iteration over `g.calls` meets the keys in the given order. -/
def Gateway.handleTelegramMessage (gateway : Gateway) (message : Message) (order : List String) :
    Option (String × String) :=
  match (Update.newMessage message).begin with
  | .findingCall digits sender =>
      match gateway.findCall sender order with
      | none => none
      | some ctx => (gateway.sessions.lookup ctx.sipCallID).map (fun _ => (ctx.sipCallID, digits))
  | _ => none

def Gateway.Waits (gateway : Gateway) (sender : Int) (key : String) (ctx : Context) : Prop :=
  gateway.lookup key = some ctx ∧ ctx.userID = sender ∧ ctx.state = .waitDTMF

def Gateway.WaitsOnce (gateway : Gateway) (sender : Int) : Prop :=
  ∀ key other ctx otherCtx, gateway.Waits sender key ctx → gateway.Waits sender other otherCtx →
    gateway.calls.lookup key = gateway.calls.lookup other

def Gateway.Sessionless (gateway : Gateway) (sender : Int) : Prop :=
  ∀ key ctx, gateway.Waits sender key ctx → gateway.sessions.lookup ctx.sipCallID = none

/-- The map order decides nothing, and the digits go to the only call that can
be meant. -/
structure Gateway.DigitsDetermined (gateway : Gateway) (message : Message) : Prop where
  same : ∀ first second : List String,
    first.Perm gateway.calls.keys → second.Perm gateway.calls.keys →
      gateway.handleTelegramMessage message first = gateway.handleTelegramMessage message second
  chosen : ∀ (order : List String) (callID digits : String), order.Perm gateway.calls.keys →
    gateway.handleTelegramMessage message order = some (callID, digits) →
      ∃ sender ctx, message.sender = .user sender ∧ gateway.findCall sender order = some ctx ∧
        gateway.WaitsOnce sender ∧ ctx.sipCallID = callID ∧ callID ≠ "" ∧
        (gateway.sessions.lookup callID).isSome

def Gateway.admits (gateway : Gateway) (sender : Int) (key : String) : Bool :=
  (gateway.lookup key).any (fun ctx => ctx.userID == sender && ctx.state == .waitDTMF)

theorem findCall_eq (gateway : Gateway) (sender : Int) (order : List String) :
    gateway.findCall sender order =
      (order.find? (gateway.admits sender)).bind gateway.lookup :=
  List.find?_filterMap

theorem admits_iff {key : String} :
    gateway.admits sender key = true ↔ ∃ ctx, gateway.Waits sender key ctx := by
  unfold Gateway.admits Gateway.Waits
  rw [Option.any_eq_true]
  simp only [Bool.and_eq_true, beq_iff_eq]

theorem Gateway.Waits.mem_keys {key : String} {ctx : Context}
    (waits : gateway.Waits sender key ctx) : key ∈ gateway.calls.keys := by
  have present := waits.1
  unfold Gateway.lookup at present
  obtain ⟨ref, found, _⟩ := Option.bind_eq_some_iff.mp present
  apply AList.mem_keys.mp
  apply AList.lookup_isSome.mp
  rw [found]
  exact Option.isSome_some

theorem findCall_waits {order : List String} {ctx : Context}
    (enumerated : order.Perm gateway.calls.keys)
    (found : gateway.findCall sender order = some ctx) :
    ∃ key, gateway.Waits sender key ctx := by
  rw [findCall_eq] at found
  obtain ⟨key, first, present⟩ := Option.bind_eq_some_iff.mp found
  obtain ⟨_, admitted⟩ := Enumeration.mem_of_first enumerated first
  obtain ⟨other, waits⟩ := admits_iff.mp admitted
  rw [waits.1] at present
  cases present
  exact ⟨key, waits⟩

theorem exists_findCall {key : String} {ctx : Context} (waits : gateway.Waits sender key ctx) :
    ∃ order : List String, order.Perm gateway.calls.keys ∧
      gateway.findCall sender order = some ctx := by
  obtain ⟨order, enumerated, first⟩ :=
    Enumeration.exists_first waits.mem_keys (admits_iff.mpr ⟨ctx, waits⟩)
  refine ⟨order, enumerated, ?_⟩
  rw [findCall_eq, first, Option.bind_some]
  exact waits.1

theorem Gateway.WaitsOnce.eq {key other : String} {ctx otherCtx : Context}
    (once : gateway.WaitsOnce sender) (waits : gateway.Waits sender key ctx)
    (otherWaits : gateway.Waits sender other otherCtx) : ctx = otherCtx := by
  have same := once key other ctx otherCtx waits otherWaits
  have present := waits.1
  unfold Gateway.lookup at present
  rw [same] at present
  exact Option.some.inj (present.symm.trans otherWaits.1)

/-! ### The map order -/

theorem handleTelegramMessage_eq_some {order : List String} {callID said : String}
    (begins : (Update.newMessage message).begin = .findingCall digits sender) :
    gateway.handleTelegramMessage message order = some (callID, said) ↔
      ∃ ctx, gateway.findCall sender order = some ctx ∧ ctx.sipCallID = callID ∧
        said = digits ∧ (gateway.sessions.lookup callID).isSome := by
  unfold Gateway.handleTelegramMessage
  rw [begins]
  dsimp only
  cases found : gateway.findCall sender order with
  | none =>
      constructor
      · intro wrong
        cases wrong
      · intro waits
        obtain ⟨ctx, wrong, _⟩ := waits
        cases wrong
  | some ctx =>
      dsimp only
      rw [Option.map_eq_some_iff]
      constructor
      · intro waits
        obtain ⟨session, present, same⟩ := waits
        cases same
        refine ⟨ctx, rfl, rfl, rfl, ?_⟩
        rw [present]
        exact Option.isSome_some
      · intro waits
        obtain ⟨other, same, rfl, rfl, held⟩ := waits
        cases same
        obtain ⟨session, present⟩ := Option.isSome_iff_exists.mp held
        exact ⟨session, present, rfl⟩

theorem begin_sender (begins : (Update.newMessage message).begin = .findingCall digits sender) :
    message.sender = .user sender := by
  unfold Update.begin at begins
  dsimp only at begins
  split at begins
  · cases begins
    assumption
  · cases begins

theorem handleTelegramMessage_other
    (begins : ∀ digits sender, (Update.newMessage message).begin ≠ .findingCall digits sender)
    (order : List String) : gateway.handleTelegramMessage message order = none := by
  unfold Gateway.handleTelegramMessage
  split
  · rename_i digits sender here
    exact absurd here (begins digits sender)
  · exact rfl

theorem Gateway.Sessionless.sends_nothing (sessionless : gateway.Sessionless sender)
    (begins : (Update.newMessage message).begin = .findingCall digits sender)
    {order : List String} (enumerated : order.Perm gateway.calls.keys) :
    gateway.handleTelegramMessage message order = none := by
  apply Option.eq_none_iff_forall_ne_some.mpr
  intro told
  obtain ⟨callID, said⟩ := told
  intro sends
  obtain ⟨ctx, found, rfl, _, held⟩ := (handleTelegramMessage_eq_some begins).mp sends
  obtain ⟨key, waits⟩ := findCall_waits enumerated found
  rw [sessionless key ctx waits] at held
  cases held

/-- With one match at most the search forgets the order. -/
theorem Gateway.WaitsOnce.findCall_eq (once : gateway.WaitsOnce sender)
    {first second : List String} (firstPerm : first.Perm gateway.calls.keys)
    (secondPerm : second.Perm gateway.calls.keys) :
    gateway.findCall sender first = gateway.findCall sender second := by
  have agree : ∀ key other, key ∈ gateway.calls.keys → gateway.admits sender key = true →
      other ∈ gateway.calls.keys → gateway.admits sender other = true →
      gateway.lookup key = gateway.lookup other := by
    intro key other _ admitted _ otherAdmitted
    obtain ⟨ctx, waits⟩ := admits_iff.mp admitted
    obtain ⟨otherCtx, otherWaits⟩ := admits_iff.mp otherAdmitted
    unfold Gateway.lookup
    rw [once key other ctx otherCtx waits otherWaits]
  rw [Go.findCall_eq, Go.findCall_eq]
  exact Enumeration.answers_agree_iff.mpr agree first second firstPerm secondPerm

theorem Gateway.DigitsDetermined.condition (determined : gateway.DigitsDetermined message)
    (begins : (Update.newMessage message).begin = .findingCall digits sender) :
    gateway.Sessionless sender ∨ gateway.WaitsOnce sender ∧
      ∀ key ctx, gateway.Waits sender key ctx → ctx.sipCallID ≠ "" := by
  by_cases sessionless : gateway.Sessionless sender
  · exact .inl sessionless
  · unfold Gateway.Sessionless at sessionless
    push Not at sessionless
    obtain ⟨key, ctx, waits, session⟩ := sessionless
    obtain ⟨order, enumerated, found⟩ := exists_findCall waits
    have sends := (handleTelegramMessage_eq_some begins).mpr
      ⟨ctx, found, rfl, rfl, Option.isSome_iff_ne_none.mpr session⟩
    obtain ⟨user, chosen, sent, again, once, named, nonempty, _⟩ :=
      determined.chosen order _ _ enumerated sends
    rw [begin_sender begins] at sent
    cases sent
    refine .inr ⟨once, ?_⟩
    intro other otherCtx otherWaits
    rw [← once.eq waits otherWaits]
    exact nonempty

/-- The digits are determined exactly when no waiting call of the user can be
sent to, or when there is one at most and it has a SIP leg. -/
theorem digits_determined_iff :
    gateway.DigitsDetermined message ↔
      ∀ digits sender, (Update.newMessage message).begin = .findingCall digits sender →
        gateway.Sessionless sender ∨ gateway.WaitsOnce sender ∧
          ∀ key ctx, gateway.Waits sender key ctx → ctx.sipCallID ≠ "" := by
  constructor
  · intro determined digits sender begins
    exact determined.condition begins
  · intro condition
    by_cases other :
        ∀ digits sender, (Update.newMessage message).begin ≠ .findingCall digits sender
    · constructor
      · intro first second _ _
        rw [handleTelegramMessage_other other, handleTelegramMessage_other other]
      · intro order callID digits _ sends
        rw [handleTelegramMessage_other other] at sends
        cases sends
    · push Not at other
      obtain ⟨digits, sender, begins⟩ := other
      rcases condition digits sender begins with sessionless | ⟨once, named⟩
      · constructor
        · intro first second firstPerm secondPerm
          rw [sessionless.sends_nothing begins firstPerm,
            sessionless.sends_nothing begins secondPerm]
        · intro order callID said enumerated sends
          rw [sessionless.sends_nothing begins enumerated] at sends
          cases sends
      · constructor
        · intro first second firstPerm secondPerm
          unfold Gateway.handleTelegramMessage
          rw [begins]
          dsimp only
          rw [once.findCall_eq firstPerm secondPerm]
        · intro order callID said enumerated sends
          obtain ⟨ctx, found, rfl, _, held⟩ := (handleTelegramMessage_eq_some begins).mp sends
          obtain ⟨key, waits⟩ := findCall_waits enumerated found
          exact ⟨sender, ctx, begin_sender begins, found, once, rfl, named key ctx waits, held⟩

theorem begin_newMessage (message : Message) :
    (Update.newMessage message).begin = .select ∨
      ∃ digits sender, (Update.newMessage message).begin = .findingCall digits sender := by
  unfold Update.begin
  dsimp only
  split
  · exact .inr ⟨_, _, rfl⟩
  · exact .inl rfl

theorem step_findingCall {answers : Answers}
    (enumerated : answers.order.Perm gateway.calls.keys) :
    (gateway.at (.findingCall digits sender)).step (.loop answers) =
      some ([], gateway.at (match gateway.findCall sender answers.order with
        | none => .select
        | some ctx => .dialingDtmf ctx.sipCallID digits)) := by
  have isPerm : answers.order.isPerm (gateway.at (.findingCall digits sender)).calls.keys =
      true := List.isPerm_iff.mpr enumerated
  have same : (gateway.at (.findingCall digits sender)).findCall sender answers.order =
      gateway.findCall sender answers.order := rfl
  change (gateway.at (.findingCall digits sender)).advance answers = _
  unfold Gateway.advance
  change (if answers.order.isPerm _ then _ else none) = _
  rw [if_pos isPerm, same]
  cases gateway.findCall sender answers.order <;> rfl

/-- The loop that takes the message, and is left alone until it is done, says
what `handleTelegramMessage` says. -/
theorem message_run (filed : gateway.Filed) (waiting : gateway.loop = .select)
    {order : List String} (enumerated : order.Perm gateway.calls.keys) (sent : Bool) :
    ∃ turns taken state cseq, Run gateway taken state ∧
      taken.map LabelledMachine.Transition.label =
        .update (.newMessage message) ::
          List.replicate turns (.loop { order := order, info := sent }) ∧
      state.loop = .select ∧
      LabelledMachine.history taken =
        (gateway.handleTelegramMessage message order).toList.map
          (fun chosen => Output.sendInfo chosen.1 chosen.2 cseq sent) := by
  have taking : gateway.step (.update (.newMessage message)) =
      some ([], gateway.at (Update.newMessage message).begin) := by
    simp only [Gateway.step, if_pos waiting, Update.outputs, Gateway.at]
  have taken := LabelledMachine.Run.nil.snoc taking
  unfold Gateway.handleTelegramMessage
  rcases begin_newMessage message with begins | ⟨digits, sender, begins⟩
  · rw [begins] at taken ⊢
    exact ⟨0, _, _, 0, taken, rfl, rfl, rfl⟩
  · rw [begins] at taken ⊢
    dsimp only
    have searching : (gateway.at (.findingCall digits sender)).step
        (.loop { order := order, info := sent }) =
          some ([], gateway.at (match gateway.findCall sender order with
            | none => .select
            | some ctx => .dialingDtmf ctx.sipCallID digits)) := by
      apply step_findingCall
      exact enumerated
    cases found : gateway.findCall sender order with
    | none =>
        rw [found] at searching
        exact ⟨1, _, _, 0, taken.snoc searching, rfl, rfl, rfl⟩
    | some ctx =>
        rw [found] at searching
        dsimp only at searching ⊢
        have dialling := taken.snoc searching
        cases present : gateway.sessions.lookup ctx.sipCallID with
        | none =>
            have missing : (gateway.at (.dialingDtmf ctx.sipCallID digits)).step
                (.loop { order := order, info := sent }) = some ([], gateway.at .select) := by
              simp only [Gateway.step, Gateway.advance, Gateway.at, Gateway.bump, present]
            exact ⟨2, _, _, 0, dialling.snoc missing, rfl, rfl, rfl⟩
        | some session =>
            have bumping : (gateway.at (.dialingDtmf ctx.sipCallID digits)).step
                (.loop { order := order, info := sent }) =
                  some ([], { gateway with
                    sessions := gateway.sessions.insert ctx.sipCallID
                      { session with cseq := session.cseq + 1 }
                    loop := .sendingInfo { session with cseq := session.cseq + 1 } digits }) := by
              simp only [Gateway.step, Gateway.advance, Gateway.at, Gateway.bump, present]
            refine ⟨3, _, _, session.cseq + 1, (dialling.snoc bumping).snoc rfl, rfl, rfl, ?_⟩
            change [Output.sendInfo session.callID digits (session.cseq + 1) sent] = _
            rw [filed ctx.sipCallID session present]
            exact rfl

def waitingInvite (callID : String) (index : Nat) : List Label :=
  [.request { method := .invite, callID := callID }, .handler index {},
    .handler index { parse := .ok (some 11) }, .handler index { createCall := .ok 9 }] ++
    List.replicate 6 (.handler index {}) ++
    [.receiveInternal, .loop {}, .loop {}, .request { method := .info, callID := callID }] ++
    List.replicate 3 (.handler (index + 1) {}) ++ [.receiveInternal, .loop {}, .loop {}]

/-- Two callers reach the same user, and both send an INFO. -/
theorem digits_follow_map_order :
    ¬∀ taken state, Run (Gateway.initial 0 0) taken state → ∀ message,
      state.DigitsDetermined message := by
  intro always
  have replayed : LabelledMachine.replay Gateway.step (Gateway.initial 0 0)
      (waitingInvite "a" 0 ++ waitingInvite "b" 2) = some (_, _) := rfl
  have run := LabelledMachine.Run.of_replay replayed
  have same := (always _ _ run ⟨.user 11, some "5"⟩).same ["a", "b"] ["b", "a"]
    (by decide) (by decide)
  have different : some ("a", "5") = some ("b", "5") := same
  revert different
  decide

end Tg2Sip.Go
