/-
The loop that drains the channels also sends on them.

From the answer of `getUser` on nothing keeps `handleTelegramCall` from its
two sends, and nobody else receives.  So the loop gets stuck unless the
channels then have room and the handlers leave it a slot.  A stuck loop stays
stuck: it neither receives nor sees that its context was canceled.
-/

import Tg2Sip.Go.Steps

namespace Tg2Sip.Go

/-- The loop is in a send on a full channel. -/
def Gateway.Blocked (gateway : Gateway) : Prop :=
  match gateway.loop with
  | .sendingEvent _ _ => gateway.events.free = 0
  | .sendingInternal _ _ => gateway.internalEvents.free = 0
  | _ => False

def Loop.owesEvent : Loop → Bool
  | .registering _ _ => true
  | .sendingEvent _ _ => true
  | _ => false

def Loop.owesInternal : Loop → Bool
  | .registering _ _ => true
  | .sendingEvent _ _ => true
  | .sendingInternal _ _ => true
  | _ => false

/-- The loop has yet to send on a full channel. -/
def Gateway.Doomed (gateway : Gateway) : Prop :=
  gateway.loop.owesEvent = true ∧ gateway.events.free = 0 ∨
    gateway.loop.owesInternal = true ∧ gateway.internalEvents.free = 0

theorem Gateway.Blocked.doomed {gateway : Gateway} (blocked : gateway.Blocked) :
    gateway.Doomed := by
  unfold Gateway.Blocked at blocked
  unfold Gateway.Doomed
  cases position : gateway.loop with
  | sendingEvent call user =>
      rw [position] at blocked
      exact .inl ⟨rfl, blocked⟩
  | sendingInternal call user =>
      rw [position] at blocked
      exact .inr ⟨rfl, blocked⟩
  | _ =>
      rw [position] at blocked
      cases blocked

/-- The steps that leave the loop its slots: both channels have room when an
accepted call gets its user, and until the loop has sent on a channel the
handlers send on it only while two slots are free. -/
def Considerate (transition : Transition) : Prop :=
  match transition with
  | ⟨source, .loop answers, _, _⟩ =>
      match source.loop, answers.getUser with
      | .fetchingUser _, .ok _ => 0 < source.events.free ∧ 0 < source.internalEvents.free
      | _, _ => True
  | ⟨source, .handler index _, _, _⟩ =>
      ∀ handler ∈ source.handlers[index]?,
        (handler.stage = .sendingEvent → source.loop.owesEvent = true →
          2 ≤ source.events.free) ∧
        (handler.stage = .sendingInternal → source.loop.owesInternal = true →
          2 ≤ source.internalEvents.free)
  | _ => True

theorem begin_owes (update : Update) :
    update.begin.owesEvent = false ∧ update.begin.owesInternal = false := by
  unfold Update.begin
  split
  · split
    · exact ⟨rfl, rfl⟩
    · split <;> exact ⟨rfl, rfl⟩
  · split <;> exact ⟨rfl, rfl⟩
  · exact ⟨rfl, rfl⟩

theorem After.next_owes (after : After) :
    after.next.owesEvent = false ∧ after.next.owesInternal = false := by
  cases after with
  | delete key => exact ⟨rfl, rfl⟩
  | shutdown rest => cases rest <;> exact ⟨rfl, rfl⟩

theorem not_doomed_of_debtless {gateway : Gateway} (debtless : gateway.loop.owesEvent = false ∧
    gateway.loop.owesInternal = false) : ¬gateway.Doomed := by
  intro doomed
  rcases doomed with ⟨owes, _⟩ | ⟨owes, _⟩
  · rw [debtless.1] at owes
    cases owes
  · rw [debtless.2] at owes
    cases owes

/-- Only the loop's own turn makes it owe something, when a user was fetched. -/
theorem Advanced.not_doomed {gateway target : Gateway} {answers : Answers}
    {output : List Output} (advanced : Advanced gateway answers gateway.loop output target)
    (safe : ¬gateway.Doomed)
    (considerate : Considerate ⟨gateway, .loop answers, output, target⟩) : ¬target.Doomed := by
  generalize position : gateway.loop = loop at advanced
  unfold Gateway.Doomed at safe
  rw [position] at safe
  cases advanced with
  | @fetched call user answered =>
      simp only [Considerate, position, answered] at considerate
      intro doomed
      rcases doomed with ⟨_, full⟩ | ⟨_, full⟩
      · exact absurd full (Nat.ne_of_gt considerate.1)
      · exact absurd full (Nat.ne_of_gt considerate.2)
  | @registered call user =>
      intro doomed
      rcases doomed with ⟨_, full⟩ | ⟨_, full⟩
      · exact safe (.inl ⟨rfl, full⟩)
      · exact safe (.inr ⟨rfl, full⟩)
  | @sentEvent call user sent sends =>
      intro doomed
      rcases doomed with ⟨owes, _⟩ | ⟨_, full⟩
      · cases owes
      · exact safe (.inr ⟨rfl, full⟩)
  | @moved ref event =>
      apply not_doomed_of_debtless
      change Loop.owesEvent (if _ then _ else _) = false ∧
        Loop.owesInternal (if _ then _ else _) = false
      split <;> exact ⟨rfl, rfl⟩
  | discarded found => exact not_doomed_of_debtless (After.next_owes _)
  | _ => exact not_doomed_of_debtless ⟨rfl, rfl⟩

/-- A handler can doom the loop only by a send that takes the last slot. -/
theorem Handled.doomed_iff {gateway target : Gateway} {answers : Answers} {handler : Handler}
    {output : List Output} {stage : Stage} {handlers : List Handler}
    (handled : Handled gateway answers handler output stage target) (safe : ¬gateway.Doomed) :
    ¬Gateway.Doomed { target with handlers := handlers } ↔
      (handler.stage = .sendingEvent → gateway.loop.owesEvent = true →
          2 ≤ gateway.events.free) ∧
        (handler.stage = .sendingInternal → gateway.loop.owesInternal = true →
          2 ≤ gateway.internalEvents.free) := by
  cases handled with
  | alone blockUntil spoken early late =>
      refine ⟨fun _ => ⟨?_, ?_⟩, fun _ => safe⟩
      · intro position
        rw [position] at early
        cases early
      · intro position
        rw [position] at early
        cases early
  | registered position unlocked =>
      refine ⟨fun _ => ⟨?_, ?_⟩, fun _ => safe⟩
      · intro other
        rw [position] at other
        cases other
      · intro other
        rw [position] at other
        cases other
  | tracked position =>
      refine ⟨fun _ => ⟨?_, ?_⟩, fun _ => safe⟩
      · intro other
        rw [position] at other
        cases other
      · intro other
        rw [position] at other
        cases other
  | @sentEvent sent position sends =>
      have taken := Channel.free_of_send sends
      constructor
      · intro safeAfter
        constructor
        · intro _ owes
          have room : sent.free ≠ 0 := fun full => safeAfter (.inl ⟨owes, full⟩)
          omega
        · intro other
          rw [position] at other
          cases other
      · rintro ⟨enough, _⟩ (⟨owes, full⟩ | rest)
        · have room := enough position owes
          change sent.free = 0 at full
          omega
        · exact safe (.inr rest)
  | @sentInternal sent position sends =>
      have taken := Channel.free_of_send sends
      constructor
      · intro safeAfter
        constructor
        · intro other
          rw [position] at other
          cases other
        · intro _ owes
          have room : sent.free ≠ 0 := fun full => safeAfter (.inr ⟨owes, full⟩)
          omega
      · rintro ⟨_, enough⟩ (rest | ⟨owes, full⟩)
        · exact safe (.inl rest)
        · have room := enough position owes
          change sent.free = 0 at full
          omega

theorem Stepped.not_doomed {gateway target : Gateway} {label : Label} {output : List Output}
    (stepped : Stepped gateway label output target) (safe : ¬gateway.Doomed)
    (considerate : Considerate ⟨gateway, label, output, target⟩) : ¬target.Doomed := by
  cases stepped with
  | request => exact safe
  | handler found handled => exact (handled.doomed_iff safe).mpr (considerate _ found)
  | update waiting => exact not_doomed_of_debtless (begin_owes _)
  | receiveEvent waiting receives =>
      apply not_doomed_of_debtless
      change gateway.loop.owesEvent = false ∧ gateway.loop.owesInternal = false
      rw [waiting]
      exact ⟨rfl, rfl⟩
  | receiveInternal waiting receives => exact not_doomed_of_debtless ⟨rfl, rfl⟩
  | cancel waiting enumerated => exact not_doomed_of_debtless (After.next_owes _)
  | loop advanced => exact advanced.not_doomed safe considerate
  | @response callID tag =>
      obtain ⟨sessions, same⟩ := tagRemote_eq gateway callID tag
      rw [same]
      exact safe

theorem Stepped.doomed {gateway target : Gateway} {label : Label} {output : List Output}
    (stepped : Stepped gateway label output target) (safe : ¬gateway.Doomed)
    (inconsiderate : ¬Considerate ⟨gateway, label, output, target⟩) : target.Doomed := by
  cases stepped with
  | @handler index answers handler output stage last found handled =>
      by_contra safeAfter
      refine inconsiderate (fun other present => ?_)
      cases Option.some.inj (found.symm.trans present)
      exact (handled.doomed_iff safe).mp safeAfter
  | @loop answers output target advanced =>
      generalize position : gateway.loop = loop at advanced
      cases advanced with
      | @fetched call user answered =>
          simp only [Considerate, position, answered, Nat.pos_iff_ne_zero, not_and_or,
            not_not] at inconsiderate
          rcases inconsiderate with full | full
          · exact .inl ⟨rfl, full⟩
          · exact .inr ⟨rfl, full⟩
      | unfetched failed =>
          refine absurd ?_ inconsiderate
          simp only [Considerate, position, failed]
      | _ =>
          refine absurd ?_ inconsiderate
          simp only [Considerate, position]
  | _ => exact absurd trivial inconsiderate

/-! ### Doom is final -/

theorem Handled.stays_doomed {gateway target : Gateway} {answers : Answers} {handler : Handler}
    {output : List Output} {stage : Stage} {handlers : List Handler}
    (handled : Handled gateway answers handler output stage target) (doomed : gateway.Doomed) :
    Gateway.Doomed { target with handlers := handlers } := by
  cases handled with
  | @sentEvent sent position sends =>
      have taken := Channel.free_of_send sends
      rcases doomed with ⟨owes, full⟩ | rest
      · omega
      · exact .inr rest
  | @sentInternal sent position sends =>
      have taken := Channel.free_of_send sends
      rcases doomed with rest | ⟨owes, full⟩
      · exact .inl rest
      · omega
  | _ => exact doomed

theorem Advanced.stays_doomed {gateway target : Gateway} {answers : Answers}
    {output : List Output} (advanced : Advanced gateway answers gateway.loop output target)
    (doomed : gateway.Doomed) : target.Doomed := by
  generalize position : gateway.loop = loop at advanced
  unfold Gateway.Doomed at doomed
  rw [position] at doomed
  cases advanced with
  | registered => exact doomed
  | sentEvent sends =>
      have taken := Channel.free_of_send sends
      rcases doomed with ⟨_, full⟩ | ⟨_, full⟩
      · omega
      · exact .inr ⟨rfl, full⟩
  | sentInternal sends =>
      have taken := Channel.free_of_send sends
      rcases doomed with ⟨owes, _⟩ | ⟨_, full⟩
      · cases owes
      · omega
  | _ => rcases doomed with ⟨owes, _⟩ | ⟨owes, _⟩ <;> cases owes

theorem Stepped.stays_doomed {gateway target : Gateway} {label : Label} {output : List Output}
    (stepped : Stepped gateway label output target) (doomed : gateway.Doomed) :
    target.Doomed := by
  have waits (waiting : gateway.loop = .select) : False := by
    apply not_doomed_of_debtless _ doomed
    rw [waiting]
    exact ⟨rfl, rfl⟩
  cases stepped with
  | request => exact doomed
  | handler found handled => exact handled.stays_doomed doomed
  | update waiting => exact (waits waiting).elim
  | receiveEvent waiting receives => exact (waits waiting).elim
  | receiveInternal waiting receives => exact (waits waiting).elim
  | cancel waiting enumerated => exact (waits waiting).elim
  | loop advanced => exact advanced.stays_doomed doomed
  | @response callID tag =>
      obtain ⟨sessions, same⟩ := tagRemote_eq gateway callID tag
      rw [same]
      exact doomed

/-- A run continues with turns of the loop alone up to a state with the property. -/
def LoopReaches (initial : Gateway) (taken : List Transition) (property : Gateway → Prop) :
    Prop :=
  ∃ more state, Run initial (taken ++ more) state ∧ property state ∧
    ∀ transition ∈ more, ∃ answers, transition.label = .loop answers

section Continuation

variable {initial gateway : Gateway} {taken : List Transition}

theorem LoopReaches.now {property : Gateway → Prop} (run : Run initial taken gateway)
    (held : property gateway) : LoopReaches initial taken property := by
  refine ⟨[], gateway, ?_, held, List.forall_mem_nil _⟩
  rw [List.append_nil]
  exact run

theorem LoopReaches.turn {property : Gateway → Prop} {answers : Answers}
    {output : List Output} {target : Gateway}
    (later : LoopReaches initial (taken ++ [⟨gateway, .loop answers, output, target⟩]) property) :
    LoopReaches initial taken property := by
  obtain ⟨more, state, run, held, turns⟩ := later
  rw [List.append_assoc] at run
  refine ⟨_, state, run, held, ?_⟩
  intro transition member
  rcases List.mem_cons.mp member with rfl | inMore
  · exact ⟨answers, rfl⟩
  · exact turns transition inMore

theorem sendingEvent_blocks {call : TgCall} {user : User} (run : Run initial taken gateway)
    (position : gateway.loop = .sendingEvent call user)
    (full : gateway.events.free = 0 ∨ gateway.internalEvents.free = 0) :
    LoopReaches initial taken Gateway.Blocked := by
  cases sends : gateway.events.send (.callState call.key "outgoing") with
  | none =>
      apply LoopReaches.now run
      unfold Gateway.Blocked
      rw [position]
      exact Channel.send_eq_none_iff.mp sends
  | some sent =>
      have room := Channel.free_of_send sends
      have internal : gateway.internalEvents.free = 0 := by
        rcases full with events | internal
        · omega
        · exact internal
      have fired : gateway.step (.loop {}) =
          some ([], { gateway with events := sent, loop := .sendingInternal call user }) := by
        simp only [Gateway.step, Gateway.advance, position, sends]
      apply LoopReaches.turn
      apply LoopReaches.now (run.snoc fired)
      exact internal

theorem Gateway.Doomed.blocks (run : Run initial taken gateway) (doomed : gateway.Doomed) :
    LoopReaches initial taken Gateway.Blocked := by
  have doom := doomed
  unfold Gateway.Doomed at doom
  cases position : gateway.loop with
  | registering call user =>
      have full : gateway.events.free = 0 ∨ gateway.internalEvents.free = 0 :=
        doom.imp And.right And.right
      have fired : gateway.step (.loop {}) =
          some ([.registerCall call.id user.id],
            { gateway.register call.key (call.context user) with
              loop := .sendingEvent call user }) := by
        simp only [Gateway.step, Gateway.advance, position]
      apply LoopReaches.turn
      exact sendingEvent_blocks (run.snoc fired) rfl full
  | sendingEvent call user =>
      exact sendingEvent_blocks run position (doom.imp And.right And.right)
  | sendingInternal call user =>
      apply LoopReaches.now run
      rw [position] at doom
      unfold Gateway.Blocked
      rw [position]
      rcases doom with ⟨owes, _⟩ | ⟨_, full⟩
      · cases owes
      · exact full
  | _ =>
      rw [position] at doom
      rcases doom with ⟨owes, _⟩ | ⟨owes, _⟩ <;> cases owes

end Continuation

theorem initial_not_doomed (extraWait peerFlood : Int) :
    ¬(Gateway.initial extraWait peerFlood).Doomed :=
  not_doomed_of_debtless ⟨rfl, rfl⟩

section WholeRuns

variable {extraWait peerFlood : Int} {taken : List Transition} {state : Gateway}

theorem considerate_iff_not_doomed
    (run : Run (Gateway.initial extraWait peerFlood) taken state) :
    (∀ transition ∈ taken, Considerate transition) ↔ ¬state.Doomed := by
  induction run with
  | nil => exact iff_of_true (List.forall_mem_nil _) (initial_not_doomed extraWait peerFlood)
  | @snoc earlier source target label output reached fired ih =>
      have stepped := step_stepped fired
      rw [List.forall_mem_append, List.forall_mem_singleton, ih]
      constructor
      · intro allowed
        exact stepped.not_doomed allowed.1 allowed.2
      · intro safeAfter
        have safe : ¬source.Doomed := fun doomed => safeAfter (stepped.stays_doomed doomed)
        constructor
        · exact safe
        · by_contra inconsiderate
          exact safeAfter (stepped.doomed safe inconsiderate)

/-- A run with considerate steps does not block the loop, and after any other
run the loop goes on to block itself, whatever has happened in between. -/
theorem loop_waits_on_itself_iff (run : Run (Gateway.initial extraWait peerFlood) taken state) :
    ((∀ transition ∈ taken, Considerate transition) → ¬state.Blocked) ∧
      ((¬∀ transition ∈ taken, Considerate transition) →
        LoopReaches (Gateway.initial extraWait peerFlood) taken Gateway.Blocked) := by
  constructor
  · intro considerate blocked
    exact (considerate_iff_not_doomed run).mp considerate blocked.doomed
  · intro inconsiderate
    have doomed : state.Doomed := by
      by_contra safe
      exact inconsiderate ((considerate_iff_not_doomed run).mpr safe)
    exact doomed.blocks run

end WholeRuns

def sampleCall : TgCall := { id := 7, userID := 11, isOutgoing := false, state := .pending }

def sampleUser : User :=
  { id := 11, firstName := "Ada", lastName := "", usernames := none, phoneNumber := "" }

def Loop.fetches : Loop → Bool
  | .fetchingUser _ => true
  | _ => false

theorem considerate_loop_iff {source target : Gateway} {answers : Answers}
    {output : List Output} :
    (source.loop.fetches = true → answers.getUser.isOk = true →
        0 < source.events.free ∧ 0 < source.internalEvents.free) ↔
      Considerate ⟨source, .loop answers, output, target⟩ := by
  cases position : source.loop with
  | fetchingUser call =>
      cases answered : answers.getUser <;>
        simp [Considerate, position, answered, Loop.fetches, Except.isOk, Except.toBool]
  | _ => simp [Considerate, position, Loop.fetches]

instance : DecidablePred Considerate := fun transition =>
  match transition with
  | ⟨_, .loop _, _, _⟩ => decidable_of_iff _ considerate_loop_iff
  | ⟨source, .handler index _, _, _⟩ => by
      unfold Considerate
      dsimp only
      infer_instance
  | ⟨_, .request _, _, _⟩ => isTrue trivial
  | ⟨_, .update _, _, _⟩ => isTrue trivial
  | ⟨_, .receiveEvent, _, _⟩ => isTrue trivial
  | ⟨_, .receiveInternal, _, _⟩ => isTrue trivial
  | ⟨_, .cancel _, _, _⟩ => isTrue trivial
  | ⟨_, .response _ _, _, _⟩ => isTrue trivial

def sampleConsiderate : List Label :=
  [.request { method := .ack, callID := "a" }, .update (.call sampleCall), .loop {},
    .handler 0 {}, .loop { getUser := .ok sampleUser }, .handler 0 {}, .loop {}, .loop {},
    .loop {}]

theorem loop_goes_on_beside_ack :
    ∃ taken state, Run (Gateway.initial 0 0) taken state ∧
      state.loop = .dialling sampleCall sampleUser ∧
      (∀ transition ∈ taken, Considerate transition) ∧ ¬state.Blocked := by
  have replayed : LabelledMachine.replay Gateway.step (Gateway.initial 0 0) sampleConsiderate =
      some (_, _) := rfl
  have run := LabelledMachine.Run.of_replay replayed
  have considerate := LabelledMachine.replay_forall Considerate replayed (by decide)
  exact ⟨_, _, run, rfl, considerate, (loop_waits_on_itself_iff run).1 considerate⟩

/-- Sixteen ACKs fill `g.events` before the loop has registered its call. -/
def sampleFlood : List Label :=
  (List.range 16).map (fun _ => Label.request { method := .ack, callID := "a" }) ++
    (List.range 16).map (fun index => Label.handler index {}) ++
    [Label.update (.call sampleCall), .loop {}, .loop { getUser := .ok sampleUser }, .loop {}]

theorem loop_blocks_itself :
    ¬∀ taken state, Run (Gateway.initial 0 0) taken state → ¬state.Blocked := by
  intro never
  have replayed : LabelledMachine.replay Gateway.step (Gateway.initial 0 0) sampleFlood =
      some (_, _) := rfl
  exact never _ _ (LabelledMachine.Run.of_replay replayed) (by rfl)

end Tg2Sip.Go
