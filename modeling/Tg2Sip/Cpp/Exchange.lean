/-
The gateway together with the dialogs of pjsip.

pjsip keeps a dialog in one of a fixed number of slots and may use a slot again
as soon as its dialog is over.  The incoming-call handler and the callbacks of
a dialog run on the threads of pjsip and queue events for the main loop; a
callback finds its `Call` object through a weak pointer, so it says nothing
once the registry has dropped the object.  `dialogs` and `own` are not part of
the program: they record the object that was constructed for each dialog and
for the SIP call of each context.
-/

import Tg2Sip.Cpp.SetupOrder

namespace Tg2Sip.Cpp

open FiniteMap (Map)

/-- A SIP event in the queue, with the object that it is about. -/
structure Queued where
  event : Event
  ref : CallRef
  deriving DecidableEq, Repr

structure Exchange where
  gateway : Gateway
  sipEvents : List Queued
  dialogs : Map Int CallRef
  own : Map String CallRef

def Exchange.calls (exchange : Exchange) : Map Int CallRef := exchange.gateway.sip.calls

def Exchange.nextRef (exchange : Exchange) : CallRef := exchange.gateway.sip.constructed

/-- `PJSUA_MAX_CALLS`. -/
def maxCalls : Int := 128

def Exchange.vacant (exchange : Exchange) (id : Int) : Bool :=
  decide (0 ≤ id) && decide (id < maxCalls) && (exchange.dialogs id).isNone

def Exchange.accept (exchange : Exchange) (id : Int) (ext : String) : Exchange :=
  { exchange with
    gateway := { exchange.gateway with sip := exchange.gateway.sip.register id }
    sipEvents := exchange.sipEvents ++ [⟨.incomingCall id ext, exchange.nextRef⟩]
    dialogs := FiniteMap.insert exchange.dialogs id exchange.nextRef }

/-- A callback of the dialog: `held` is the object that the registry keeps for it. -/
def Exchange.callback (exchange : Exchange) (id : Int) (held : Option CallRef)
    (event : Event) : Exchange :=
  match exchange.dialogs id with
  | none => exchange
  | some ref =>
      if held = some ref then
        { exchange with sipEvents := exchange.sipEvents ++ [⟨event, ref⟩] }
      else exchange

def Exchange.hangUp (exchange : Exchange) (id : Int) (held : Option CallRef) : Exchange :=
  { exchange.callback id held (.callStateUpdate id .disconnected) with
    dialogs := FiniteMap.erase exchange.dialogs id }

/-- What an effect of the gateway means to pjsip.  `ref` is the object that the
step is about: the one of the event that was taken from the queue, or the one
that `Dial` constructs.  A hangup may end the dialog at once, before the
registry drops the object. -/
def Exchange.note (ref : CallRef) (atOnce : Bool) (exchange : Exchange) : Logged → Exchange
  | (ctxId, .associatedSip _) =>
      { exchange with own := FiniteMap.insert exchange.own ctxId ref }
  | (_, .dial _ _ (.ok id)) =>
      { exchange with dialogs := FiniteMap.insert exchange.dialogs id ref }
  | (_, .sip (.hangup id _) (some held) none) =>
      if atOnce then exchange.hangUp id (some held) else exchange
  | _ => exchange

def Exchange.allots (exchange : Exchange) : Logged → Bool
  | (_, .dial _ _ (.ok id)) => exchange.vacant id
  | _ => true

def Exchange.turn (exchange : Exchange) (label : Label) (ref : CallRef) (atOnce : Bool) :
    Option (List Logged × Exchange) :=
  match exchange.gateway.step label with
  | none => none
  | some (output, target) =>
      if output.all exchange.allots then
        some (output, output.foldl (Exchange.note ref atOnce) { exchange with gateway := target })
      else none

def Event.isTelegram : Event → Bool
  | .updateCall _ => true
  | .updateNewMessage _ => true
  | _ => false

inductive ExchangeLabel where
  | incoming (id : Int) (ext : String)
  | progress (id : Int) (state : InvState)
  | media (id : Int) (hasMedia : Bool)
  | disconnect (id : Int)
  | telegram (env : Env) (event : Event) (atOnce : Bool)
  | sip (env : Env) (atOnce : Bool)
  | internal (env : Env) (atOnce : Bool)

def Exchange.step : LabelledMachine.Step Exchange ExchangeLabel Logged := fun exchange label =>
  match label with
  | .incoming id ext =>
      if exchange.vacant id then some ([], exchange.accept id ext) else none
  | .progress id state =>
      if state = .disconnected then none
      else some ([], exchange.callback id (exchange.calls id) (.callStateUpdate id state))
  | .media id hasMedia =>
      some ([], exchange.callback id (exchange.calls id) (.callMediaStateUpdate id hasMedia))
  | .disconnect id => some ([], exchange.hangUp id (exchange.calls id))
  | .telegram env event atOnce =>
      if event.isTelegram then exchange.turn (.dispatch env event) exchange.nextRef atOnce
      else none
  | .sip env atOnce =>
      match exchange.sipEvents with
      | [] => none
      | queued :: rest =>
          Exchange.turn { exchange with sipEvents := rest } (.dispatch env queued.event)
            queued.ref atOnce
  | .internal env atOnce => exchange.turn (.popInternal env) exchange.nextRef atOnce

def Exchange.initial (pid : Nat) (cache : Cache) (started : Int) : Exchange :=
  { gateway := Gateway.initial pid cache started ⟨FiniteMap.empty, 0⟩
    sipEvents := []
    dialogs := FiniteMap.empty
    own := FiniteMap.empty }

abbrev ExchangeTransition := LabelledMachine.Transition Exchange ExchangeLabel Logged

abbrev ExchangeRun (initial : Exchange) := LabelledMachine.Run Exchange.step initial

@[simp] theorem callback_gateway (exchange : Exchange) (id : Int) (held : Option CallRef)
    (event : Event) : (exchange.callback id held event).gateway = exchange.gateway := by
  unfold Exchange.callback
  split
  · rfl
  · split <;> rfl

@[simp] theorem hangUp_gateway (exchange : Exchange) (id : Int) (held : Option CallRef) :
    (exchange.hangUp id held).gateway = exchange.gateway := callback_gateway ..

@[simp] theorem note_gateway (ref : CallRef) (atOnce : Bool) (exchange : Exchange)
    (logged : Logged) : (exchange.note ref atOnce logged).gateway = exchange.gateway := by
  unfold Exchange.note
  split
  · rfl
  · rfl
  · split
    · exact hangUp_gateway ..
    · rfl
  · rfl

theorem noted_gateway (ref : CallRef) (atOnce : Bool) (output : List Logged)
    (exchange : Exchange) :
    (output.foldl (Exchange.note ref atOnce) exchange).gateway = exchange.gateway := by
  induction output generalizing exchange with
  | nil => rfl
  | cons logged rest ih =>
      rw [List.foldl_cons, ih]
      exact note_gateway ..

theorem turn_some {exchange target : Exchange} {label : Label} {ref : CallRef} {atOnce : Bool}
    {output : List Logged} (fired : exchange.turn label ref atOnce = some (output, target)) :
    exchange.gateway.step label = some (output, target.gateway) ∧
      (∀ logged ∈ output, exchange.allots logged = true) ∧
      target = output.foldl (Exchange.note ref atOnce)
        { exchange with gateway := target.gateway } := by
  unfold Exchange.turn at fired
  cases stepped : exchange.gateway.step label with
  | none =>
      rw [stepped] at fired
      cases fired
  | some answer =>
      obtain ⟨effects, last⟩ := answer
      rw [stepped] at fired
      dsimp only at fired
      split at fired
      · rename_i allotted
        cases fired
        rw [noted_gateway]
        exact ⟨rfl, List.all_eq_true.mp allotted, rfl⟩
      · cases fired

theorem exchange_simulated {source target : Exchange} {label : ExchangeLabel}
    {output : List Logged} (fired : source.step label = some (output, target)) :
    ∃ seen, source.gateway.step seen = some (output, target.gateway) := by
  have quiet : ∀ client : SipClient, target.gateway = { source.gateway with sip := client } →
      output = [] → ∃ seen, source.gateway.step seen = some (output, target.gateway) := by
    intro client same silent
    rw [same, silent]
    exact ⟨.pjsip client, rfl⟩
  cases label with
  | incoming id ext =>
      simp only [Exchange.step] at fired
      split at fired
      · cases fired
        exact quiet _ rfl rfl
      · cases fired
  | progress id state =>
      simp only [Exchange.step] at fired
      split at fired
      · cases fired
      · cases fired
        exact quiet source.gateway.sip (callback_gateway ..) rfl
  | media id hasMedia =>
      cases fired
      exact quiet source.gateway.sip (callback_gateway ..) rfl
  | disconnect id =>
      cases fired
      exact quiet source.gateway.sip (hangUp_gateway ..) rfl
  | telegram env event atOnce =>
      simp only [Exchange.step] at fired
      split at fired
      · exact ⟨_, (turn_some fired).1⟩
      · cases fired
  | sip env atOnce =>
      simp only [Exchange.step] at fired
      split at fired
      · cases fired
      · exact ⟨_, (turn_some fired).1⟩
  | internal env atOnce => exact ⟨_, (turn_some fired).1⟩

theorem ExchangeRun.gateway {pid : Nat} {cache : Cache} {started : Int}
    {taken : List ExchangeTransition} {state : Exchange}
    (run : ExchangeRun (Exchange.initial pid cache started) taken state) :
    ∃ shown, Run (Gateway.initial pid cache started ⟨FiniteMap.empty, 0⟩) shown state.gateway ∧
      LabelledMachine.history shown = LabelledMachine.history taken := by
  obtain ⟨shown, reached, same⟩ :=
    run.project Exchange.gateway (fun _ _ _ _ fired => exchange_simulated fired)
  exact ⟨shown, reached, LabelledMachine.history_of_outputs same⟩

end Tg2Sip.Cpp
