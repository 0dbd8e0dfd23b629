/-
Digits sent by message.

`intendedDtmf` is what the routing of messages is for: the text of a Telegram
user goes into the one call with that user, if it is bridged and the text is a
dial string.  `process_event` returns early for exactly these senders, so that
the digits of users are dropped, and it reads a user id through a cast from
every other sender.
-/

import Tg2Sip.Cpp.Containment

namespace Tg2Sip.Cpp

def SmState.waitsDtmf : SmState → Bool
  | .fromTg .waitDtmf => true
  | .fromSip .waitDtmf => true
  | _ => false

def dtmfCalls (effects : List Logged) : List (Int × String) :=
  effects.filterMap (fun logged =>
    match logged.2 with
    | .sip (.dialDtmf id digits) _ _ => some (id, digits)
    | _ => none)

def Bridge.dtmf (bridge : Bridge) (message : Message) : List (Int × String) :=
  if bridge.state.waitsDtmf then
    message.content.dtmf?.toList.map (fun digits => (bridge.ctx.sipCallId, digits))
  else []

/-- The digits that reach the only bridge with the given user, if there is one. -/
def Gateway.dtmfFor (gateway : Gateway) (userId : Int) (message : Message) :
    List (Int × String) :=
  match gateway.bridges.filter (fun bridge => bridge.ctx.userId == userId) with
  | [bridge] => bridge.dtmf message
  | _ => []

/-- What the message is meant to dial. -/
def Gateway.intendedDtmf (gateway : Gateway) (message : Message) : List (Int × String) :=
  match message.senderId with
  | .user userId => gateway.dtmfFor userId message
  | .chat _ => []

theorem select_message (env : Env) (state : SmState) (message : Message) :
    (machine env).select state (.updateNewMessage message) =
      if state.waitsDtmf then
        message.content.dtmf?.map (fun digits => (state, dialDtmf env digits))
      else none := by
  cases state with
  | init => exact select_init env _
  | x => exact select_x env _
  | fromTg state =>
      rw [select_fromTg]
      cases state <;> simp [setupRow, endRow, SmState.waitsDtmf]
  | fromSip state =>
      rw [select_fromSip]
      cases state <;> simp [setupRow, endRow, SmState.waitsDtmf]

theorem deliverMessage_dtmf (gateway : Gateway) (env : Env) (message : Message)
    (owns : Bridge → Bool) (bridge : Bridge) :
    dtmfCalls (gateway.deliverMessage env message owns bridge).effects =
      bridge.dtmf message := by
  unfold Gateway.deliverMessage Bridge.dtmf
  have table := select_message env bridge.state message
  cases waits : bridge.state.waitsDtmf with
  | false =>
      rw [waits] at table
      rw [StateTable.Machine.processEvent_of_select_none table]
      rfl
  | true =>
      rw [waits] at table
      cases digits : message.content.dtmf? with
      | none =>
          rw [digits] at table
          rw [StateTable.Machine.processEvent_of_select_none table]
          rfl
      | some text =>
          rw [digits] at table
          have live : bridge.state ≠ .x := by
            intro closed
            rw [closed] at waits
            cases waits
          rw [StateTable.Machine.processEvent_of_select_some table, onEntry_of_ne env live,
            EStateM.run_bind, run_dialDtmf]
          cases (gateway.world bridge.ctx).sip.calls (gateway.world bridge.ctx).ctx.sipCallId with
          | none => rfl
          | some call => cases env.dialDtmf <;> rfl

theorem processMessage_dtmf (gateway : Gateway) (env : Env) (message : Message) :
    dtmfCalls (gateway.processMessage env message).effects =
      if message.senderId.isUser then []
      else gateway.dtmfFor (message.senderId.castUserId env) message := by
  unfold Gateway.processMessage Gateway.dtmfFor
  by_cases sender : message.senderId.isUser = true
  · rw [if_pos sender, if_pos sender]
    rfl
  · rw [if_neg sender, if_neg sender]
    dsimp only
    cases gateway.bridges.filter
        (fun bridge => bridge.ctx.userId == message.senderId.castUserId env) with
    | nil => rfl
    | cons first rest =>
        cases rest with
        | nil => exact deliverMessage_dtmf gateway env message _ first
        | cons second others => rfl

theorem processMessage_bridges {gateway target : Gateway} {env : Env} {message : Message}
    {effects : List Logged} (running : ∀ bridge ∈ gateway.bridges, bridge.state ≠ .x)
    (returned : gateway.processMessage env message = .returned target effects) :
    target.bridges = gateway.bridges := by
  cases processMessage_processed returned with
  | unrouted silent foreign => rfl
  | @kept before after bridge announced base change placed life stays =>
      cases placed with
      | opened opens foreign => cases opens
      | found shape owner earlier =>
          have unchanged : (⟨change.ctx, change.state⟩ : Bridge) = bridge := by
            obtain ⟨ctx, state⟩ := bridge
            cases life with
            | dtmf final digits known => rfl
            | ignored unselected => rfl
            | removed removal => cases removal
          change before ++ ⟨change.ctx, change.state⟩ :: after = gateway.bridges
          rw [unchanged, shape]
  | @removed before after bridge announced base change placed life closed =>
      rcases placed.receives with ⟨member, _⟩ | ⟨_, opens⟩
      · rw [life.message_keeps_state] at closed
        exact absurd closed (running bridge member)
      · cases opens

/-- Exactly one bridge has the user id that is read from the sender; it waits
for digits, and the text is a dial string. -/
def Gateway.DtmfDue (gateway : Gateway) (env : Env) (message : Message) : Prop :=
  ∃ bridge, gateway.bridges.filter
      (fun other => other.ctx.userId == message.senderId.castUserId env) = [bridge] ∧
    bridge.state.waitsDtmf = true ∧ message.content.dtmf? ≠ none

theorem dtmfFor_eq_nil_iff (gateway : Gateway) (env : Env) (message : Message) :
    gateway.dtmfFor (message.senderId.castUserId env) message = [] ↔
      ¬gateway.DtmfDue env message := by
  unfold Gateway.dtmfFor Gateway.DtmfDue
  cases gateway.bridges.filter
      (fun bridge => bridge.ctx.userId == message.senderId.castUserId env) with
  | nil => simp
  | cons first rest =>
      cases rest with
      | cons second others => simp
      | nil =>
          unfold Bridge.dtmf
          cases waits : first.state.waitsDtmf <;> cases message.content.dtmf? <;>
            simp [waits]

def Gateway.DialsAsIntended (gateway : Gateway) (env : Env) (message : Message) : Prop :=
  dtmfCalls (gateway.processEvent env (.updateNewMessage message)).effects =
      gateway.intendedDtmf message ∧
    ∀ target effects,
      gateway.processEvent env (.updateNewMessage message) = .returned target effects →
        target.bridges = gateway.bridges

theorem intendedDtmf_user {message : Message} (gateway : Gateway) (env : Env)
    (sender : message.senderId.isUser = true) :
    gateway.intendedDtmf message =
      gateway.dtmfFor (message.senderId.castUserId env) message := by
  unfold Gateway.intendedDtmf MessageSender.castUserId
  cases sent : message.senderId with
  | user userId => rfl
  | chat chatId =>
      rw [sent] at sender
      cases sender

theorem intendedDtmf_chat {message : Message} (gateway : Gateway)
    (sender : ¬message.senderId.isUser = true) : gateway.intendedDtmf message = [] := by
  unfold Gateway.intendedDtmf
  cases sent : message.senderId with
  | user userId =>
      rw [sent] at sender
      exact absurd rfl sender
  | chat chatId => rfl

/-- The message is handled as intended exactly when there is nothing to dial
for the id read from its sender. -/
theorem message_dials_as_intended_iff (pid : Nat) (cache : Cache) (started : Int)
    (client : SipClient) {taken : List Transition} {state : Gateway}
    (run : Run (Gateway.initial pid cache started client) taken state)
    (env : Env) (message : Message) :
    state.DialsAsIntended env message ↔ ¬state.DtmfDue env message := by
  have running : ∀ bridge ∈ state.bridges, bridge.state ≠ .x :=
    fun bridge member => (run.composed rfl bridge member).running
  have unchanged : ∀ target effects,
      state.processEvent env (.updateNewMessage message) = .returned target effects →
        target.bridges = state.bridges :=
    fun target effects returned => processMessage_bridges running returned
  have dialled := processMessage_dtmf state env message
  have due := dtmfFor_eq_nil_iff state env message
  unfold Gateway.DialsAsIntended
  change dtmfCalls (state.processMessage env message).effects = _ ∧ _ ↔ _
  rw [dialled]
  by_cases sender : message.senderId.isUser = true
  · rw [if_pos sender, intendedDtmf_user state env sender]
    constructor
    · rintro ⟨nothing, _⟩
      exact due.mp nothing.symm
    · intro quiet
      exact ⟨(due.mpr quiet).symm, unchanged⟩
  · rw [if_neg sender, intendedDtmf_chat state sender]
    constructor
    · rintro ⟨nothing, _⟩
      exact due.mp nothing
    · intro quiet
      exact ⟨due.mpr quiet, unchanged⟩

def Message.ofUser (userId : Int) (body : String) : Message :=
  { senderId := .user userId, content := .text body }

/-- The events that bridge the SIP call 5 with the Telegram user 42. -/
def Label.bridging : List Label :=
  [.pjsip (SipClient.register ⟨FiniteMap.empty, 0⟩ 5),
    .dispatch Env.sample (.incomingCall 5 "42"),
    .dispatch Env.sample (.callStateUpdate 5 .early),
    .dispatch Env.sample (.updateCall ⟨7, 42, true, .ready ⟨[], []⟩⟩),
    .dispatch Env.sample (.callMediaStateUpdate 5 true)]

theorem message_dials_as_intended_of_text :
    ∃ taken state, Run Gateway.sample taken state ∧
      state.bridges.map Bridge.state = [.fromSip .waitDtmf] ∧
      state.DialsAsIntended Env.sample (.ofUser 42 "hello") := by
  have run := LabelledMachine.Run.of_replay
    (show LabelledMachine.replay Gateway.step Gateway.sample Label.bridging =
      some (_, _) from rfl)
  refine ⟨_, _, run, rfl, ?_⟩
  apply (message_dials_as_intended_iff _ _ _ _ run Env.sample _).mpr
  rintro ⟨bridge, _, _, dialString⟩
  exact dialString (by decide)

theorem user_digits_are_dropped :
    ∃ taken state, Run Gateway.sample taken state ∧
      state.intendedDtmf (.ofUser 42 "1") = [(5, "1")] ∧
      ¬state.DialsAsIntended Env.sample (.ofUser 42 "1") := by
  have run := LabelledMachine.Run.of_replay
    (show LabelledMachine.replay Gateway.step Gateway.sample Label.bridging =
      some (_, _) from rfl)
  refine ⟨_, _, run, rfl, ?_⟩
  rintro ⟨dialled, _⟩
  cases dialled

end Tg2Sip.Cpp
