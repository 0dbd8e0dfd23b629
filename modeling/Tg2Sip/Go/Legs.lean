/-
Legs, and where they come from.

A `Context` holds a SIP leg or a Telegram leg by its id; `legs` is the table
of the calls with nothing but these ids.  No step changes the legs of a
`Context`, so the table changes only where a call is registered or deleted.
The second half says in which log entry everything that the gateway works on
has its origin, in every run.
-/

import Tg2Sip.Go.Steps

namespace Tg2Sip.Go

def Said (log : List Output) (kind : Output → Prop) : Prop := ∃ output ∈ log, kind output

theorem said_append {log more : List Output} {kind : Output → Prop} :
    Said (log ++ more) kind ↔ Said log kind ∨ Said more kind := by
  unfold Said
  simp only [List.mem_append, or_and_right, exists_or]

theorem Said.append {log : List Output} {kind : Output → Prop} (said : Said log kind)
    (more : List Output) : Said (log ++ more) kind :=
  said_append.mpr (.inl said)

theorem said_singleton {output : Output} {kind : Output → Prop} :
    Said [output] kind ↔ kind output := by
  unfold Said
  simp only [List.mem_singleton, exists_eq_left]

theorem not_said_singleton {output : Output} {kind : Output → Prop} (other : ¬kind output) :
    ¬Said [output] kind :=
  said_singleton.not.mpr other

theorem not_said_nil {kind : Output → Prop} : ¬Said [] kind := by
  intro said
  obtain ⟨output, member, _⟩ := said
  cases member

def Output.accepts (id : Int) : Output → Prop
  | .acceptCall other none => other = id
  | _ => False

def Output.creates (id : Int) : Output → Prop
  | .createCall _ _ (.ok other) => other = id
  | _ => False

def Output.discards (id : Int) : Output → Prop
  | .discardCall other _ => other = id
  | _ => False

def Output.reports (id : Int) : Output → Prop
  | .reported call => call.id = id ∧ call.state = .discarded
  | _ => False

/-- The gateway takes on the dialog of an INVITE. -/
def Output.invites (callID : String) : Output → Prop
  | .registerInvite other _ => other = callID
  | _ => False

def Output.dials (callID : String) : Output → Prop
  | .dial _ _ (.ok other) => other = callID
  | _ => False

def Output.hangsUp (callID : String) : Output → Prop
  | .hangup other => other = callID
  | _ => False

def Output.byes (callID : String) : Output → Prop
  | .received request => request.method = .bye ∧ request.callID = callID
  | _ => False

def Context.legs (ctx : Context) : String × Int := (ctx.sipCallID, ctx.tgCallID)

def Gateway.legsAt (gateway : Gateway) (ref : Ref) : Option (String × Int) :=
  gateway.contexts[ref]?.map Context.legs

def Gateway.legs (gateway : Gateway) (key : String) : Option (String × Int) :=
  (gateway.calls.lookup key).bind gateway.legsAt

def Gateway.Pointed (gateway : Gateway) : Prop :=
  ∀ key ref, gateway.calls.lookup key = some ref → ref < gateway.contexts.length

def Gateway.Filed (gateway : Gateway) : Prop :=
  ∀ key session, gateway.sessions.lookup key = some session → session.callID = key

theorem legs_eq_lookup (gateway : Gateway) (key : String) :
    gateway.legs key = (gateway.lookup key).map Context.legs := by
  unfold Gateway.legs Gateway.lookup Gateway.legsAt
  cases gateway.calls.lookup key <;> rfl

theorem legsAt_register (gateway : Gateway) (key : String) (ctx : Context) {ref : Ref}
    {legs : String × Int} (found : gateway.legsAt ref = some legs) :
    (gateway.register key ctx).legsAt ref = some legs := by
  unfold Gateway.legsAt at found ⊢
  obtain ⟨old, present, same⟩ := Option.map_eq_some_iff.mp found
  have allocated := (List.getElem?_eq_some_iff.mp present).1
  change (gateway.contexts ++ [ctx])[ref]?.map Context.legs = some legs
  rw [List.getElem?_append_left allocated, present, ← same]
  rfl

theorem legs_register_self (gateway : Gateway) (key : String) (ctx : Context) :
    (gateway.register key ctx).legs key = some ctx.legs := by
  unfold Gateway.legs Gateway.legsAt Gateway.register
  rw [AList.lookup_insert, Option.bind_some, List.getElem?_concat_length]
  rfl

theorem legs_register_of_ne {gateway : Gateway} (pointed : gateway.Pointed) {key other : String}
    (ctx : Context) (different : other ≠ key) :
    (gateway.register key ctx).legs other = gateway.legs other := by
  unfold Gateway.legs Gateway.register
  rw [AList.lookup_insert_ne different]
  cases found : gateway.calls.lookup other with
  | none => rfl
  | some ref =>
      change (gateway.contexts ++ [ctx])[ref]?.map Context.legs = _
      rw [List.getElem?_append_left (pointed other ref found)]
      rfl

theorem legsAt_modify (gateway : Gateway) (ref : Ref) (state : CallState) :
    Gateway.legsAt { gateway with
      contexts := gateway.contexts.modify ref (fun ctx => { ctx with state := state }) } =
      gateway.legsAt := by
  funext other
  unfold Gateway.legsAt
  change (gateway.contexts.modify ref _)[other]?.map Context.legs = _
  rw [List.getElem?_modify]
  cases gateway.contexts[other]? with
  | none => rfl
  | some ctx =>
      by_cases same : ref = other
      · simp only [if_pos same, Option.map_eq_map, Option.map_some, Context.legs]
      · simp only [if_neg same, Option.map_eq_map, Option.map_some]

theorem legs_erase_of_ne (gateway : Gateway) {key other : String} (different : other ≠ key) :
    Gateway.legs { gateway with calls := gateway.calls.erase key } other =
      gateway.legs other := by
  unfold Gateway.legs
  rw [AList.lookup_erase_ne different]
  rfl

theorem register_pointed {gateway : Gateway} (pointed : gateway.Pointed) (key : String)
    (ctx : Context) : (gateway.register key ctx).Pointed := by
  intro other ref found
  change (gateway.calls.insert key gateway.contexts.length).lookup other = some ref at found
  change ref < (gateway.contexts ++ [ctx]).length
  rw [List.length_append, List.length_singleton]
  by_cases same : other = key
  · rw [same, AList.lookup_insert] at found
    cases found
    exact Nat.lt_succ_self _
  · rw [AList.lookup_insert_ne same] at found
    exact Nat.lt_succ_of_lt (pointed other ref found)

theorem Advanced.pointed {gateway target : Gateway} {answers : Answers} {output : List Output}
    {loop : Loop} (advanced : Advanced gateway answers loop output target)
    (pointed : gateway.Pointed) : target.Pointed := by
  cases advanced with
  | registered => exact register_pointed pointed _ _
  | moved =>
      intro key ref found
      change ref < (gateway.contexts.modify _ _).length
      rw [List.length_modify]
      exact pointed key ref found
  | @deleted key =>
      intro other ref found
      change (gateway.calls.erase key).lookup other = some ref at found
      by_cases same : other = key
      · rw [same, AList.lookup_erase] at found
        cases found
      · rw [AList.lookup_erase_ne same] at found
        exact pointed other ref found
  | _ => exact pointed

theorem Stepped.pointed {gateway target : Gateway} {label : Label} {output : List Output}
    (stepped : Stepped gateway label output target) (pointed : gateway.Pointed) :
    target.Pointed := by
  cases stepped with
  | handler found handled =>
      cases handled with
      | registered position unlocked => exact register_pointed pointed _ _
      | _ => exact pointed
  | loop advanced => exact advanced.pointed pointed
  | @response callID tag =>
      obtain ⟨sessions, same⟩ := tagRemote_eq gateway callID tag
      rw [same]
      exact pointed
  | _ => exact pointed

theorem insert_filed {sessions : AList (fun _ : String => CallSession)}
    (filed : ∀ key session, sessions.lookup key = some session → session.callID = key)
    {key : String} {session : CallSession} (named : session.callID = key) :
    ∀ other found, (sessions.insert key session).lookup other = some found →
      found.callID = other := by
  intro other found present
  by_cases same : other = key
  · rw [same, AList.lookup_insert] at present
    cases present
    exact named.trans same.symm
  · rw [AList.lookup_insert_ne same] at present
    exact filed other found present

theorem Advanced.filed {gateway target : Gateway} {answers : Answers} {output : List Output}
    {loop : Loop} (advanced : Advanced gateway answers loop output target)
    (filed : gateway.Filed) : target.Filed := by
  cases advanced with
  | dialled answered => exact insert_filed filed rfl
  | @bumped callID digits session present =>
      apply insert_filed filed
      exact filed callID session present
  | @cleaned ref after ctx session found named present =>
      apply insert_filed filed
      exact filed ctx.sipCallID session present
  | @forgot ref callID after =>
      intro key session found
      change (gateway.sessions.erase callID).lookup key = some session at found
      by_cases same : key = callID
      · rw [same, AList.lookup_erase] at found
        cases found
      · rw [AList.lookup_erase_ne same] at found
        exact filed key session found
  | _ => exact filed

theorem Stepped.filed {gateway target : Gateway} {label : Label} {output : List Output}
    (stepped : Stepped gateway label output target) (filed : gateway.Filed) :
    target.Filed := by
  cases stepped with
  | handler found handled =>
      cases handled with
      | tracked position => exact insert_filed filed rfl
      | _ => exact filed
  | loop advanced => exact advanced.filed filed
  | @response callID tag =>
      unfold Gateway.tagRemote
      split
      · exact filed
      · rename_i session present
        apply insert_filed filed
        exact filed callID session present
  | _ => exact filed

/-! ### Clean-ups -/

def Loop.cleans : Loop → Option (Ref × String)
  | .advancing ref event => if event.typ = .cleanup then some (ref, event.ctxID) else none
  | .cleaning ref (.delete key) => some (ref, key)
  | .sendingBye ref _ (.delete key) => some (ref, key)
  | .forgetting ref _ (.delete key) => some (ref, key)
  | .discarding ref (.delete key) => some (ref, key)
  | _ => none

/-- The key of the clean-up event that the loop works on. -/
def Loop.ends : Loop → Option String
  | .lookingUp event => if event.typ = .cleanup then some event.ctxID else none
  | .deleting key => some key
  | loop => loop.cleans.map Prod.snd

theorem ends_advancing (ref : Ref) (event : InternalEvent) :
    (Loop.advancing ref event).ends = (Loop.lookingUp event).ends := by
  simp only [Loop.ends, Loop.cleans]
  split <;> rfl

theorem ends_moved (ref : Ref) (event : InternalEvent) :
    Loop.ends (if event.typ = .cleanup then .cleaning ref (.delete event.ctxID) else .select) =
      (Loop.advancing ref event).ends := by
  by_cases isCleanup : event.typ = .cleanup
  · simp only [if_pos isCleanup, Loop.ends, Loop.cleans]
  · simp only [if_neg isCleanup, Loop.ends, Loop.cleans, Option.map_none]

/-- Requests are in the log, and every clean-up follows a BYE. -/
structure Heard (log : List Output) (gateway : Gateway) : Prop where
  requests : ∀ handler ∈ gateway.handlers, Output.received handler.request ∈ log
  queued : ∀ event ∈ gateway.internalEvents.buffer, event.typ = .cleanup →
    Said log (Output.byes event.ctxID)
  ending : ∀ key, gateway.loop.ends = some key → Said log (Output.byes key)

theorem Heard.append {log : List Output} {gateway target : Gateway} (heard : Heard log gateway)
    (output : List Output) (sameHandlers : target.handlers = gateway.handlers)
    (sameEvents : target.internalEvents.buffer ⊆ gateway.internalEvents.buffer)
    (ending : ∀ key, target.loop.ends = some key → Said log (Output.byes key)) :
    Heard (log ++ output) target where
  requests := by
    intro handler member
    rw [sameHandlers] at member
    exact List.mem_append_left _ (heard.requests handler member)
  queued := by
    intro event member isCleanup
    exact (heard.queued event (sameEvents member) isCleanup).append _
  ending := fun key ends => (ending key ends).append _

theorem begin_ends (update : Update) : update.begin.ends = none := by
  unfold Update.begin
  split
  · split
    · rfl
    · split <;> rfl
  · split <;> rfl
  · rfl

theorem After.shutdown_ends (rest : List Ref) : (After.shutdown rest).next.ends = none := by
  cases rest <;> rfl

theorem Advanced.heard {log : List Output} {gateway target : Gateway} {answers : Answers}
    {output : List Output} (advanced : Advanced gateway answers gateway.loop output target)
    (heard : Heard log gateway) : Heard (log ++ output) target := by
  generalize position : gateway.loop = loop at advanced
  have ending := heard.ending
  rw [position] at ending
  cases advanced with
  | @sentInternal call user sent sends =>
      refine ⟨fun handler member => List.mem_append_left _ (heard.requests handler member), ?_,
        nofun⟩
      intro event member isCleanup
      change event ∈ sent.buffer at member
      rw [Channel.send_buffer sends, List.mem_append, List.mem_singleton] at member
      rcases member with earlier | rfl
      · exact (heard.queued event earlier isCleanup).append _
      · cases isCleanup
  | @met event ref found =>
      refine heard.append _ rfl (List.Subset.refl _) ?_
      intro key ends
      exact ending key ((ends_advancing ref event).symm.trans ends)
  | @moved ref event =>
      refine heard.append _ rfl (List.Subset.refl _) ?_
      intro key ends
      exact ending key ((ends_moved ref event).symm.trans ends)
  | @discarded ref after ctx found =>
      refine heard.append _ rfl (List.Subset.refl _) ?_
      cases after with
      | delete key => exact ending
      | shutdown rest =>
          intro key ends
          change (After.shutdown rest).next.ends = some key at ends
          rw [After.shutdown_ends] at ends
          cases ends
  | @cleanedNone ref after ctx found unnamed =>
      refine heard.append _ rfl (List.Subset.refl _) ?_
      cases after <;> exact ending
  | @cleanedUnknown ref after ctx found named missing =>
      refine heard.append _ rfl (List.Subset.refl _) ?_
      cases after <;> exact ending
  | @cleaned ref after ctx session found named present =>
      refine heard.append _ rfl (List.Subset.refl _) ?_
      cases after <;> exact ending
  | @sentBye ref session after sent =>
      refine heard.append _ rfl (List.Subset.refl _) ?_
      cases after <;> exact ending
  | @lostBye ref session after lost =>
      refine heard.append _ rfl (List.Subset.refl _) ?_
      cases after <;> exact ending
  | @forgot ref callID after =>
      refine heard.append _ rfl (List.Subset.refl _) ?_
      cases after <;> exact ending
  | _ => exact heard.append _ rfl (List.Subset.refl _) nofun

theorem Handler.byes {log : List Output} {handler : Handler}
    (received : Output.received handler.request ∈ log)
    (isCleanup : handler.request.internalEvent.typ = .cleanup) :
    Said log (Output.byes handler.request.callID) := by
  refine ⟨_, received, ?_, rfl⟩
  unfold Request.internalEvent at isCleanup
  cases shape : handler.request.method with
  | bye => rfl
  | _ =>
      rw [shape] at isCleanup
      cases isCleanup

theorem Handled.heard {log : List Output} {gateway target : Gateway} {answers : Answers}
    {handler : Handler} {output : List Output} {stage : Stage}
    (handled : Handled gateway answers handler output stage target) (heard : Heard log gateway)
    (received : Output.received handler.request ∈ log) : Heard (log ++ output) target := by
  cases handled with
  | @sentInternal sent position sends =>
      refine ⟨fun other member => List.mem_append_left _ (heard.requests other member), ?_,
        fun key ends => (heard.ending key ends).append _⟩
      intro event member isCleanup
      change event ∈ sent.buffer at member
      rw [Channel.send_buffer sends, List.mem_append, List.mem_singleton] at member
      rcases member with earlier | rfl
      · exact (heard.queued event earlier isCleanup).append _
      · exact (Handler.byes received isCleanup).append _
  | _ => exact heard.append _ rfl (List.Subset.refl _) heard.ending

theorem Stepped.heard {log : List Output} {gateway target : Gateway} {label : Label}
    {output : List Output} (stepped : Stepped gateway label output target)
    (heard : Heard log gateway) : Heard (log ++ output) target := by
  cases stepped with
  | @request request =>
      refine ⟨?_, fun event member isCleanup => (heard.queued event member isCleanup).append _,
        fun key ends => (heard.ending key ends).append _⟩
      intro handler member
      rcases List.mem_append.mp member with earlier | last
      · exact List.mem_append_left _ (heard.requests handler earlier)
      · rw [List.mem_singleton.mp last]
        exact List.mem_append_right _ (List.mem_singleton.mpr rfl)
  | @handler index answers handler output stage target found handled =>
      have received := heard.requests handler (List.mem_of_getElem? found)
      have kept := handled.heard heard received
      refine ⟨?_, kept.queued, kept.ending⟩
      intro other member
      rcases List.mem_or_eq_of_mem_set member with earlier | rfl
      · exact kept.requests other earlier
      · exact List.mem_append_left _ received
  | @update update waiting =>
      refine heard.append _ rfl (List.Subset.refl _) ?_
      intro key ends
      change update.begin.ends = some key at ends
      rw [begin_ends] at ends
      cases ends
  | receiveEvent waiting receives =>
      exact heard.append _ rfl (List.Subset.refl _) heard.ending
  | @receiveInternal event rest waiting receives =>
      have buffer := Channel.receive_buffer receives
      refine heard.append _ rfl ?_ ?_
      · rw [buffer]
        exact List.subset_cons_self event rest.buffer
      · intro key ends
        change (Loop.lookingUp event).ends = some key at ends
        unfold Loop.ends at ends
        dsimp only at ends
        split at ends
        · cases ends
          apply heard.queued event
          · rw [buffer]
            exact List.mem_cons_self
          · assumption
        · cases ends
  | @cancel order waiting enumerated =>
      refine heard.append _ rfl (List.Subset.refl _) ?_
      intro key ends
      change (After.shutdown _).next.ends = some key at ends
      rw [After.shutdown_ends] at ends
      cases ends
  | loop advanced => exact advanced.heard heard
  | @response callID tag =>
      obtain ⟨sessions, same⟩ := tagRemote_eq gateway callID tag
      rw [same]
      exact heard.append _ rfl (List.Subset.refl _) heard.ending

theorem run_pointed {extraWait peerFlood : Int} {taken : List Transition} {state : Gateway}
    (run : Run (Gateway.initial extraWait peerFlood) taken state) : state.Pointed := by
  have atStart : (Gateway.initial extraWait peerFlood).Pointed := nofun
  apply LabelledMachine.Run.stateInvariant atStart _ run (fun _ _ => trivial)
  intro source label output target pointed fired _
  exact (step_stepped fired).pointed pointed

theorem run_filed {extraWait peerFlood : Int} {taken : List Transition} {state : Gateway}
    (run : Run (Gateway.initial extraWait peerFlood) taken state) : state.Filed := by
  have atStart : (Gateway.initial extraWait peerFlood).Filed := nofun
  apply LabelledMachine.Run.stateInvariant atStart _ run (fun _ _ => trivial)
  intro source label output target filed fired _
  exact (step_stepped fired).filed filed

theorem run_heard {extraWait peerFlood : Int} {taken : List Transition} {state : Gateway}
    (run : Run (Gateway.initial extraWait peerFlood) taken state) :
    Heard (LabelledMachine.history taken) state := by
  have atStart : Heard (LabelledMachine.history ([] : List Transition))
      (Gateway.initial extraWait peerFlood) := ⟨nofun, nofun, nofun⟩
  induction run with
  | nil => exact atStart
  | @snoc earlier source target label output reached fired ih =>
      rw [LabelledMachine.history_append, LabelledMachine.history_cons,
        LabelledMachine.history_nil, List.append_nil]
      exact (step_stepped fired).heard ih

end Tg2Sip.Go
