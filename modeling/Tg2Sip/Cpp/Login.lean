/-
The login dialogue of `gen_db`.

`TDClient` numbers the handling of the authorization states and lets every
handler of a login query remember the number it was made under.  The answer to
a query that was sent under another number is dropped.
-/

import Tg2Sip.Cpp.Authorization
import Tg2Sip.Cpp.Client

namespace Tg2Sip.Tg

open LabelledMachine (history)

/-- The function of `create_authentication_query_handler`, or one that drops
every answer. -/
inductive TDClient.Handler where
  | authentication (id : UInt64)
  | ignore
  deriving DecidableEq

inductive TDClient.Object where
  | updateAuthorizationState (authorizationState : AuthorizationState)
  | error (code : Int) (message : String)
  | other
  deriving DecidableEq

abbrev TDClient.ClientEffect := Effect (Request Empty) TDClient.Object TDClient.Handler

abbrev TDClient.Question := Query (Request Empty) TDClient.Handler

inductive TDClient.Effect where
  | client (effect : TDClient.ClientEffect)
  | cout (text : String)
  | cerr (text : String)
  /-- `"Error: "` and the error, on `cerr`. -/
  | error (code : Int) (message : String)

structure TDClient where
  settings : Settings
  sequenceDone : Bool
  client : Client TDClient.Handler
  authorizationState : Option AuthorizationState
  authenticationQueryId : UInt64
  /-- The words that `cin` still holds. -/
  typed : List String

abbrev TDClient.Result := List TDClient.Effect × TDClient

def TDClient.initial (settings : Settings) (typed : List String) : TDClient :=
  { settings := settings
    sequenceDone := false
    client := Client.initial
    authorizationState := none
    authenticationQueryId := 0
    typed := typed }

/-- `std::cin >> word`, which leaves the word empty at the end of the input. -/
def readWord : List String → String × List String
  | [] => ("", [])
  | word :: rest => (word, rest)

def TDClient.createAuthenticationQueryHandler (self : TDClient) : TDClient.Handler :=
  .authentication self.authenticationQueryId

def TDClient.ask (self : TDClient) (shown : List TDClient.Effect) (typed : List String)
    (queries : List TDClient.Question) : TDClient.Result :=
  let (effects, client) := self.client.sendQueries queries
  (shown ++ effects.map TDClient.Effect.client, { self with client := client, typed := typed })

def TDClient.handleState (self : TDClient) (authorizationState : AuthorizationState) :
    TDClient.Result :=
  match authorizationState with
  | .ready => ([.cerr "Authorization OK\n"], { self with sequenceDone := true })
  | .loggingOut => ([.cerr "Logging out\n"], { self with sequenceDone := true })
  | .closing => ([.cerr "Closing\n"], self)
  | .closed => ([.cerr "Terminated\n"], { self with sequenceDone := true })
  | .waitCode =>
      let (code, typed) := readWord self.typed
      self.ask [.cout "Enter authentication code: "] typed
        [⟨.checkAuthenticationCode code, some self.createAuthenticationQueryHandler⟩]
  | .waitRegistration =>
      let (firstName, between) := readWord self.typed
      let (lastName, typed) := readWord between
      self.ask [.cout "Enter your first name: ", .cout "Enter your last name: "] typed
        [⟨.registerUser firstName lastName, some self.createAuthenticationQueryHandler⟩]
  | .waitPassword =>
      let (password, typed) := readWord self.typed
      self.ask [.cerr "Enter authentication password: "] typed
        [⟨.checkAuthenticationPassword password, some self.createAuthenticationQueryHandler⟩]
  | .waitOtherDeviceConfirmation link =>
      ([.cout ("Confirm this login link on another device: " ++ link ++ "\n")], self)
  | .waitPhoneNumber =>
      if self.settings.phoneNumber.isEmpty then
        let (phoneNumber, typed) := readWord self.typed
        self.ask [.cout "Enter phone number: "] typed
          [⟨.setAuthenticationPhoneNumber phoneNumber,
            some self.createAuthenticationQueryHandler⟩]
      else
        self.ask [] self.typed
          [⟨.setAuthenticationPhoneNumber self.settings.phoneNumber,
            some self.createAuthenticationQueryHandler⟩]
  | .waitEncryptionKey =>
      self.ask [] self.typed
        [⟨.checkDatabaseEncryptionKey "", some self.createAuthenticationQueryHandler⟩,
          ⟨self.settings.initProxy, some .ignore⟩]
  | .waitTdlibParameters =>
      self.ask [] self.typed
        [⟨.setTdlibParameters (some self.settings.initLibParameters),
          some self.createAuthenticationQueryHandler⟩]

def TDClient.onAuthorizationStateUpdate (self : TDClient)
    (authorizationState : AuthorizationState) : TDClient.Result :=
  { self with authenticationQueryId := self.authenticationQueryId + 1 }.handleState
    authorizationState

/-- `none` stands for the dereference of a state that never arrived. -/
def TDClient.checkAuthenticationError (self : TDClient) (object : TDClient.Object) :
    Option TDClient.Result :=
  match object with
  | .error code message =>
      match self.authorizationState with
      | none => none
      | some authorizationState =>
          let (effects, last) := self.onAuthorizationStateUpdate authorizationState
          some (.error code message :: effects, last)
  | _ => some ([], self)

def TDClient.runHandler (self : TDClient) (handler : TDClient.Handler)
    (object : TDClient.Object) : Option TDClient.Result :=
  match handler with
  | .authentication id =>
      if id = self.authenticationQueryId then self.checkAuthenticationError object
      else some ([], self)
  | .ignore => some ([], self)

def TDClient.processUpdate (self : TDClient) (update : TDClient.Object) : TDClient.Result :=
  match update with
  | .updateAuthorizationState authorizationState =>
      { self with authorizationState := some authorizationState }.onAuthorizationStateUpdate
        authorizationState
  | _ => ([], self)

def TDClient.erase (self : TDClient) (id : UInt64) : TDClient :=
  { self with client :=
      { self.client with handlers := FiniteMap.erase self.client.handlers id } }

def TDClient.processResponse (self : TDClient) (response : Response TDClient.Object) :
    Option TDClient.Result :=
  match response.object with
  | none => some ([], self)
  | some object =>
      if response.id = 0 then some (self.processUpdate object)
      else
        match self.client.handlers response.id with
        | none => some ([], self)
        | some handler =>
            match self.runHandler handler object with
            | none => none
            | some (effects, last) =>
                some (.client (.ran response.id handler object) :: effects, last.erase response.id)

/-- One round of `auth`. -/
def TDClient.step : LabelledMachine.Step TDClient (Response TDClient.Object) TDClient.Effect :=
  fun self response => if self.sequenceDone then none else self.processResponse response

abbrev TDClient.Transition :=
  LabelledMachine.Transition TDClient (Response TDClient.Object) TDClient.Effect

abbrev TDClient.Run (settings : Settings) (typed : List String) (taken : List TDClient.Transition)
    (self : TDClient) : Prop :=
  LabelledMachine.Run TDClient.step (TDClient.initial settings typed) taken self

def TDClient.Effect.sentId? : TDClient.Effect → Option UInt64
  | .client effect => effect.sentId?
  | _ => none

def queryIds (log : List TDClient.Effect) : List UInt64 := log.filterMap TDClient.Effect.sentId?

/-- The transition calls `on_authorization_state_update`, which moves the
number on. -/
def TDClient.handles (transition : TDClient.Transition) : Bool :=
  decide (transition.target.authenticationQueryId ≠ transition.source.authenticationQueryId)

def handlings (taken : List TDClient.Transition) : Nat := taken.countP TDClient.handles

/-- The query was sent before a state was handled anew. -/
def Superseded (taken : List TDClient.Transition) (id : UInt64) : Prop :=
  ∃ before transition after, taken = before ++ transition :: after ∧
    TDClient.handles transition = true ∧ id ∈ queryIds (history before)

/-! ### What one step does -/

/-- The queries of one handling: at most one has a handler that looks at its
answer. -/
inductive TDClient.Asks (id : UInt64) : List TDClient.Question → Prop where
  | nothing : TDClient.Asks id []
  | one (function : Request Empty) :
      TDClient.Asks id [⟨function, some (.authentication id)⟩]
  | two (function proxy : Request Empty) :
      TDClient.Asks id [⟨function, some (.authentication id)⟩, ⟨proxy, some .ignore⟩]

structure TDClient.Kept (source : TDClient) (output : List TDClient.Effect) (target : TDClient) :
    Prop where
  number : target.authenticationQueryId = source.authenticationQueryId
  state : target.authorizationState = source.authorizationState
  silent : queryIds output = []
  current : target.client.currentQueryId = source.client.currentQueryId
  handlers : ∀ id handler, target.client.handlers id = some handler →
    source.client.handlers id = some handler

structure TDClient.Handled (source : TDClient) (output : List TDClient.Effect)
    (target : TDClient) : Prop where
  number : target.authenticationQueryId = source.authenticationQueryId + 1
  state : target.authorizationState.isSome = true
  sends : ∃ (queries : List TDClient.Question) (effects : List TDClient.ClientEffect)
    (client : Client TDClient.Handler),
    TDClient.Asks (source.authenticationQueryId + 1) queries ∧
      source.client.sendQueries queries = (effects, client) ∧
      queryIds output = sentIds effects ∧
      target.client.currentQueryId = client.currentQueryId ∧
      ∀ id handler, target.client.handlers id = some handler →
        client.handlers id = some handler

/-- One handling: the number and the state stay, and the queries go out. -/
structure TDClient.Asked (login : TDClient) (effects : List TDClient.Effect) (last : TDClient) :
    Prop where
  number : last.authenticationQueryId = login.authenticationQueryId
  state : last.authorizationState = login.authorizationState
  sends : ∃ (queries : List TDClient.Question) (clientEffects : List TDClient.ClientEffect),
    TDClient.Asks login.authenticationQueryId queries ∧
      login.client.sendQueries queries = (clientEffects, last.client) ∧
      queryIds effects = sentIds clientEffects

section OneStep

variable {self source target last : TDClient} {output effects : List TDClient.Effect}
  {state : AuthorizationState}

theorem queryIds_append (first second : List TDClient.Effect) :
    queryIds (first ++ second) = queryIds first ++ queryIds second :=
  List.filterMap_append

theorem queryIds_client (effects : List TDClient.ClientEffect) :
    queryIds (effects.map TDClient.Effect.client) = sentIds effects := by
  unfold queryIds sentIds
  rw [List.filterMap_map]
  rfl

theorem ask_asked {shown : List TDClient.Effect} {typed : List String}
    {queries : List TDClient.Question} (text : queryIds shown = [])
    (asks : TDClient.Asks self.authenticationQueryId queries)
    (asked : self.ask shown typed queries = (effects, last)) : self.Asked effects last := by
  unfold TDClient.ask at asked
  cases sent : (self.client.sendQueries queries : List TDClient.ClientEffect × _) with
  | mk clientEffects client =>
      rw [sent] at asked
      cases asked
      refine ⟨rfl, rfl, queries, clientEffects, asks, sent, ?_⟩
      rw [queryIds_append, text, queryIds_client, List.nil_append]

theorem handleState_asked (handled : self.handleState state = (effects, last)) :
    self.Asked effects last := by
  cases state with
  | waitCode => exact ask_asked rfl (.one _) handled
  | waitRegistration => exact ask_asked rfl (.one _) handled
  | waitPassword => exact ask_asked rfl (.one _) handled
  | waitPhoneNumber =>
      simp only [TDClient.handleState] at handled
      split at handled
      · exact ask_asked rfl (.one _) handled
      · exact ask_asked rfl (.one _) handled
  | waitEncryptionKey => exact ask_asked rfl (.two _ _) handled
  | waitTdlibParameters => exact ask_asked rfl (.one _) handled
  | _ =>
      cases handled
      exact ⟨rfl, rfl, [], [], .nothing, rfl, rfl⟩

theorem handled_of_authorization (shown : List TDClient.Effect)
    (handled : self.onAuthorizationStateUpdate state = (effects, last))
    (text : queryIds shown = [])
    (number : self.authenticationQueryId = source.authenticationQueryId)
    (client : self.client = source.client) (present : self.authorizationState.isSome = true)
    (current : target.client.currentQueryId = last.client.currentQueryId)
    (handlers : ∀ id handler, target.client.handlers id = some handler →
      last.client.handlers id = some handler)
    (targetNumber : target.authenticationQueryId = last.authenticationQueryId)
    (targetState : target.authorizationState = last.authorizationState) :
    source.Handled (shown ++ effects) target := by
  obtain ⟨newNumber, newState, queries, clientEffects, asks, sent, ids⟩ :=
    handleState_asked handled
  dsimp only at newNumber newState asks sent
  constructor
  · rw [targetNumber, newNumber, number]
  · rw [targetState, newState]
    exact present
  · rw [client] at sent
    rw [number] at asks
    refine ⟨queries, clientEffects, last.client, asks, sent, ?_, current, handlers⟩
    rw [queryIds_append, text, List.nil_append, ids]

@[simp] theorem TDClient.erase_client_handlers (self : TDClient) (id : UInt64) :
    (self.erase id).client.handlers = FiniteMap.erase self.client.handlers id := rfl

theorem erase_handlers {id other : UInt64} {handler : TDClient.Handler}
    (present : (self.erase id).client.handlers other = some handler) :
    self.client.handlers other = some handler := by
  rw [TDClient.erase_client_handlers] at present
  by_cases same : other = id
  · rw [same, FiniteMap.erase_self] at present
    cases present
  · rw [FiniteMap.erase_of_ne _ same] at present
    exact present

theorem kept_self (silent : queryIds output = []) : source.Kept output source :=
  ⟨rfl, rfl, silent, rfl, fun _ _ present => present⟩

theorem kept_erase (id : UInt64) (handler : TDClient.Handler) (object : TDClient.Object) :
    source.Kept [.client (.ran id handler object)] (source.erase id) :=
  ⟨rfl, rfl, rfl, rfl, fun _ _ present => erase_handlers present⟩

theorem kept_or_handled_of_handler {id : UInt64} {handler : TDClient.Handler}
    {object : TDClient.Object} (runs : source.runHandler handler object = some (effects, last)) :
    source.Kept (.client (.ran id handler object) :: effects) (last.erase id) ∨
      source.Handled (.client (.ran id handler object) :: effects) (last.erase id) := by
  cases handler with
  | ignore =>
      cases runs
      exact .inl (kept_erase id _ object)
  | authentication number =>
      simp only [TDClient.runHandler] at runs
      split at runs
      · cases object with
        | error code message =>
            simp only [TDClient.checkAuthenticationError] at runs
            cases known : source.authorizationState with
            | none =>
                rw [known] at runs
                cases runs
            | some state =>
                cases handled : source.onAuthorizationStateUpdate state with
                | mk asked after =>
                    simp only [known, handled] at runs
                    cases runs
                    have present : source.authorizationState.isSome = true := by rw [known]; rfl
                    exact .inr (handled_of_authorization
                      [.client (.ran id _ _), .error code message] handled
                      rfl rfl rfl present rfl (fun _ _ found => erase_handlers found)
                      rfl rfl)
        | _ =>
            cases runs
            exact .inl (kept_erase id _ _)
      · cases runs
        exact .inl (kept_erase id _ object)

theorem step_kept_or_handled {response : Response TDClient.Object}
    (fired : source.step response = some (output, target)) :
    source.Kept output target ∨ source.Handled output target := by
  unfold TDClient.step at fired
  split at fired
  · cases fired
  obtain ⟨id, object⟩ := response
  cases object with
  | none =>
      cases fired
      exact .inl (kept_self rfl)
  | some object =>
      simp only [TDClient.processResponse] at fired
      by_cases update : id = 0
      · rw [if_pos update] at fired
        cases object with
        | updateAuthorizationState state =>
            have handled : ({ source with authorizationState := some state } :
                TDClient).onAuthorizationStateUpdate state = (output, target) :=
              Option.some.inj fired
            exact .inr (handled_of_authorization [] handled rfl rfl rfl rfl rfl
              (fun _ _ found => found) rfl rfl)
        | _ =>
            cases fired
            exact .inl (kept_self rfl)
      · rw [if_neg update] at fired
        cases found : source.client.handlers id with
        | none =>
            simp only [found] at fired
            cases fired
            exact .inl (kept_self rfl)
        | some handler =>
            cases runs : source.runHandler handler object with
            | none =>
                simp only [found, runs] at fired
                cases fired
            | some result =>
                simp only [found, runs] at fired
                cases fired
                exact kept_or_handled_of_handler runs

theorem asks_added {number : UInt64} {queries : List TDClient.Question}
    (asks : TDClient.Asks number queries) {client after : Client TDClient.Handler}
    {clientEffects : List TDClient.ClientEffect}
    (sends : client.sendQueries queries = (clientEffects, after)) {id generation : UInt64}
    (present : after.handlers id = some (.authentication generation)) :
    client.handlers id = some (.authentication generation) ∨
      id = client.nextQueryId ∧ generation = number := by
  have first {between : Client TDClient.Handler} {effects : List TDClient.ClientEffect}
      {function : Request Empty}
      (one : client.sendQuery ⟨function, some (.authentication number)⟩ = (effects, between))
      (found : between.handlers id = some (.authentication generation)) :
      client.handlers id = some (.authentication generation) ∨
        id = client.nextQueryId ∧ generation = number := by
    rcases sendQuery_added one found with before | ⟨same, own⟩
    · exact .inl before
    · cases own
      exact .inr ⟨same, rfl⟩
  cases asks with
  | nothing =>
      cases sends
      exact .inl present
  | one function =>
      cases one : (client.sendQuery ⟨function, some (.authentication number)⟩ :
          List TDClient.ClientEffect × _) with
      | mk effects between =>
          simp only [Client.sendQueries, one] at sends
          cases sends
          exact first one present
  | two function proxy =>
      cases one : (client.sendQuery ⟨function, some (.authentication number)⟩ :
          List TDClient.ClientEffect × _) with
      | mk effects between =>
          cases two : (between.sendQuery ⟨proxy, some .ignore⟩ :
              List TDClient.ClientEffect × _) with
          | mk more last =>
              simp only [Client.sendQueries, one, two] at sends
              cases sends
              rcases sendQuery_added two present with earlier | ⟨_, wrong⟩
              · exact first one earlier
              · cases wrong

end OneStep

/-- Queries and handlings are counted up from one; a handler remembers the
handling it was made in. -/
structure TDClient.Counts (taken : List TDClient.Transition) (login : TDClient) : Prop where
  current : login.client.currentQueryId = UInt64.ofNat (queryIds (history taken)).length
  ids : ∀ id ∈ queryIds (history taken), ∃ index, 0 < index ∧
    index ≤ (queryIds (history taken)).length ∧ id = UInt64.ofNat index
  keys : ∀ id handler, login.client.handlers id = some handler → id ∈ queryIds (history taken)
  number : login.authenticationQueryId = UInt64.ofNat (handlings taken)
  generations : ∀ id generation,
    login.client.handlers id = some (.authentication generation) →
      login.authorizationState.isSome = true ∧
      ∃ handling, handling ≤ handlings taken ∧ generation = UInt64.ofNat handling

section WholeRuns

variable {settings : Settings} {typed : List String} {taken : List TDClient.Transition}
  {self source target : TDClient} {response : Response TDClient.Object}
  {output : List TDClient.Effect}

theorem queryIds_snoc (taken : List TDClient.Transition) (transition : TDClient.Transition) :
    queryIds (history (taken ++ [transition])) =
      queryIds (history taken) ++ queryIds transition.output := by
  rw [LabelledMachine.history_append, LabelledMachine.history_cons, LabelledMachine.history_nil,
    List.append_nil, queryIds_append]

theorem handles_of_kept (kept : source.Kept output target) :
    TDClient.handles ⟨source, response, output, target⟩ = false := by
  simp [TDClient.handles, kept.number]

theorem handles_of_handled (handled : source.Handled output target) :
    TDClient.handles ⟨source, response, output, target⟩ = true := by
  simp [TDClient.handles, handled.number]

theorem handlings_snoc (taken : List TDClient.Transition) (transition : TDClient.Transition) :
    handlings (taken ++ [transition]) =
      handlings taken + if TDClient.handles transition then 1 else 0 := by
  unfold handlings
  rw [List.countP_append, List.countP_singleton]

theorem TDClient.Counts.kept (counts : source.Counts taken) (kept : source.Kept output target) :
    target.Counts (taken ++ [⟨source, response, output, target⟩]) := by
  have ids := queryIds_snoc taken ⟨source, response, output, target⟩
  rw [kept.silent, List.append_nil] at ids
  have handled := handlings_snoc taken ⟨source, response, output, target⟩
  rw [handles_of_kept kept] at handled
  constructor
  · rw [kept.current, ids]
    exact counts.current
  · rw [ids]
    exact counts.ids
  · intro id handler present
    rw [ids]
    exact counts.keys id handler (kept.handlers id handler present)
  · rw [kept.number, handled]
    exact counts.number
  · intro id generation present
    rw [kept.state, handled]
    exact counts.generations id generation (kept.handlers id _ present)

theorem TDClient.Counts.handled (counts : source.Counts taken)
    (handled : source.Handled output target) :
    target.Counts (taken ++ [⟨source, response, output, target⟩]) := by
  obtain ⟨queries, effects, client, asks, sends, outIds, current, handlers⟩ := handled.sends
  obtain ⟨counted, numbered, keys⟩ := sendQueries_ids counts.current sends
  have total := handlings_snoc taken ⟨source, response, output, target⟩
  rw [handles_of_handled handled, if_pos rfl] at total
  constructor
  · rw [current, counted, queryIds_snoc, List.length_append, outIds]
  · intro id member
    rw [queryIds_snoc, List.length_append, outIds]
    rw [queryIds_snoc, outIds] at member
    rcases List.mem_append.mp member with earlier | inside
    · obtain ⟨index, above, below, same⟩ := counts.ids id earlier
      exact ⟨index, above, by omega, same⟩
    · obtain ⟨index, above, below, same⟩ := numbered id inside
      exact ⟨index, by omega, below, same⟩
  · intro id handler present
    rw [queryIds_snoc, outIds, List.mem_append]
    rcases keys id handler (handlers id handler present) with earlier | inside
    · exact .inl (counts.keys id handler earlier)
    · exact .inr inside
  · rw [handled.number, counts.number, total, UInt64.ofNat_add]
    rfl
  · intro id generation present
    refine ⟨handled.state, ?_⟩
    rw [total]
    rcases asks_added asks sends (handlers id _ present) with earlier | ⟨_, own⟩
    · obtain ⟨_, handling, below, same⟩ := counts.generations id generation earlier
      exact ⟨handling, by omega, same⟩
    · refine ⟨handlings taken + 1, Nat.le_refl _, ?_⟩
      rw [own, counts.number, UInt64.ofNat_add]
      rfl

theorem run_counts (run : TDClient.Run settings typed taken self) : self.Counts taken := by
  have atStart : (TDClient.initial settings typed).Counts [] :=
    ⟨rfl, nofun, nofun, rfl, nofun⟩
  apply LabelledMachine.Run.invariant atStart _ run (fun _ _ => trivial)
  intro taken source response output target _ counts fired _
  rcases step_kept_or_handled fired with kept | handled
  · exact counts.kept kept
  · exact counts.handled handled

theorem TDClient.Counts.newest (counts : source.Counts taken)
    (handled : source.Handled output target) (few : handlings taken + 1 < 2 ^ 64) {id : UInt64}
    (present : target.client.handlers id =
      some (.authentication target.authenticationQueryId)) :
    id = source.client.nextQueryId := by
  obtain ⟨queries, effects, client, asks, sends, _, _, handlers⟩ := handled.sends
  rw [handled.number] at present
  rcases asks_added asks sends (handlers id _ present) with earlier | ⟨own, _⟩
  · obtain ⟨_, handling, below, same⟩ := counts.generations id _ earlier
    rw [counts.number] at same
    have next : UInt64.ofNat (handlings taken + 1) = UInt64.ofNat handling := by
      rw [UInt64.ofNat_add]
      exact same
    have equal := ofNat_injective few (by omega) next
    omega
  · exact own

theorem run_single (run : TDClient.Run settings typed taken self)
    (few : handlings taken < 2 ^ 64) {first second : UInt64}
    (firstPresent : self.client.handlers first =
      some (.authentication self.authenticationQueryId))
    (secondPresent : self.client.handlers second =
      some (.authentication self.authenticationQueryId)) : first = second := by
  induction run with
  | nil => cases firstPresent
  | @snoc taken source target response output earlier fired ih =>
      rw [handlings_snoc] at few
      rcases step_kept_or_handled fired with kept | handled
      · rw [kept.number] at firstPresent secondPresent
        exact ih (by omega) (kept.handlers _ _ firstPresent) (kept.handlers _ _ secondPresent)
      · rw [handles_of_handled handled, if_pos rfl] at few
        have counts := run_counts earlier
        exact (counts.newest handled few firstPresent).trans
          (counts.newest handled few secondPresent).symm

theorem Superseded.sent {id : UInt64} (superseded : Superseded taken id) :
    id ∈ queryIds (history taken) := by
  obtain ⟨before, transition, after, rfl, _, member⟩ := superseded
  rw [LabelledMachine.history_append, queryIds_append]
  exact List.mem_append_left _ member

theorem superseded_snoc {transition : TDClient.Transition} {id : UInt64}
    (superseded : Superseded (taken ++ [transition]) id) :
    Superseded taken id ∨ TDClient.handles transition = true ∧ id ∈ queryIds (history taken) := by
  obtain ⟨before, chosen, after, shape, handled, member⟩ := superseded
  rcases List.eq_nil_or_concat after with rfl | ⟨rest, last, rfl⟩
  · obtain ⟨rfl, same⟩ := List.append_inj' shape rfl
    cases same
    exact .inr ⟨handled, member⟩
  · rw [List.concat_eq_append, ← List.cons_append, ← List.append_assoc] at shape
    exact .inl ⟨before, chosen, rest, (List.append_inj' shape rfl).1, handled, member⟩

theorem run_superseded (run : TDClient.Run settings typed taken self)
    (few : handlings taken < 2 ^ 64) (fewQueries : (queryIds (history taken)).length < 2 ^ 64)
    {id : UInt64} (superseded : Superseded taken id) :
    self.client.handlers id ≠ some (.authentication self.authenticationQueryId) := by
  induction run with
  | nil => exact fun present => by cases present
  | @snoc taken source target response output earlier fired ih =>
      intro present
      rw [handlings_snoc] at few
      rw [queryIds_snoc, List.length_append] at fewQueries
      rcases step_kept_or_handled fired with kept | handled
      · rw [kept.number] at present
        rcases superseded_snoc superseded with before | ⟨now, _⟩
        · exact ih (by omega) (by omega) before (kept.handlers id _ present)
        · rw [handles_of_kept kept] at now
          cases now
      · rw [handles_of_handled handled, if_pos rfl] at few
        have counts := run_counts earlier
        have sent : id ∈ queryIds (history taken) := by
          rcases superseded_snoc superseded with before | ⟨_, member⟩
          · exact before.sent
          · exact member
        obtain ⟨index, above, below, same⟩ := counts.ids id sent
        have newest := counts.newest handled few present
        unfold Client.nextQueryId at newest
        rw [counts.current] at newest
        have values := congrArg UInt64.toNat (same.symm.trans newest)
        rw [UInt64.toNat_add, UInt64.toNat_ofNat', UInt64.toNat_ofNat'] at values
        simp only [UInt64.toNat_one] at values
        omega

end WholeRuns

/-! ### Answers -/

structure TDClient.Ignores (login : TDClient) (id : UInt64) (object : TDClient.Object) : Prop where
  ignored : ∃ output, login.processResponse ⟨id, some object⟩ = some (output, login.erase id) ∧
    ∀ effect ∈ output, ∃ handler, effect = .client (.ran id handler object)

/-- An error to the current query handles the state again, once, and its
handler is gone afterwards. -/
structure TDClient.Retries (login : TDClient) (id : UInt64) (code : Int) (message : String) :
    Prop where
  retried : ∃ state, login.authorizationState = some state ∧
    login.processResponse ⟨id, some (.error code message)⟩ =
      some (.client (.ran id login.createAuthenticationQueryHandler (.error code message)) ::
          .error code message :: (login.onAuthorizationStateUpdate state).1,
        (login.onAuthorizationStateUpdate state).2.erase id)
  renumbered : ∀ output last,
    login.processResponse ⟨id, some (.error code message)⟩ = some (output, last) →
      last.authenticationQueryId = login.authenticationQueryId + 1 ∧
      last.client.handlers id = none

/-- At most one question is live; the others are no longer heard. -/
structure OneQuestion (taken : List TDClient.Transition) (login : TDClient) : Prop where
  single : ∀ first second,
    login.client.handlers first = some (.authentication login.authenticationQueryId) →
    login.client.handlers second = some (.authentication login.authenticationQueryId) →
      first = second
  superseded : ∀ id code message, Superseded taken id →
    login.Ignores id (.error code message)
  current : ∀ id code message,
    login.client.handlers id = some (.authentication login.authenticationQueryId) →
      login.Retries id code message

section Answers

variable {settings : Settings} {typed : List String} {taken : List TDClient.Transition}
  {self : TDClient} {id : UInt64}

theorem ignores_of_other (object : TDClient.Object) (nonzero : id ≠ 0)
    (other : self.client.handlers id ≠ some (.authentication self.authenticationQueryId)) :
    self.Ignores id object := by
  constructor
  simp only [TDClient.processResponse, if_neg nonzero]
  cases found : self.client.handlers id with
  | none =>
      refine ⟨[], ?_, nofun⟩
      unfold TDClient.erase
      rw [FiniteMap.erase_absent found]
  | some handler =>
      have dropped : self.runHandler handler object = some ([], self) := by
        cases handler with
        | ignore => rfl
        | authentication number =>
            apply if_neg
            intro same
            rw [found, same] at other
            exact other rfl
      simp only [dropped]
      refine ⟨[.client (.ran id handler object)], rfl, ?_⟩
      intro effect member
      exact ⟨handler, List.mem_singleton.mp member⟩

theorem onAuthorizationStateUpdate_number (state : AuthorizationState) :
    (self.onAuthorizationStateUpdate state).2.authenticationQueryId =
      self.authenticationQueryId + 1 := by
  cases handled : self.onAuthorizationStateUpdate state with
  | mk effects last => exact (handleState_asked handled).number

theorem retries_of_current (code : Int) (message : String) (nonzero : id ≠ 0)
    {state : AuthorizationState} (known : self.authorizationState = some state)
    (current : self.client.handlers id = some (.authentication self.authenticationQueryId)) :
    self.Retries id code message := by
  have step : self.processResponse ⟨id, some (.error code message)⟩ =
      some (.client (.ran id self.createAuthenticationQueryHandler (.error code message)) ::
          .error code message :: (self.onAuthorizationStateUpdate state).1,
        (self.onAuthorizationStateUpdate state).2.erase id) := by
    simp only [TDClient.processResponse, if_neg nonzero, current, TDClient.runHandler, if_true,
      TDClient.checkAuthenticationError, known, TDClient.createAuthenticationQueryHandler]
  constructor
  · exact ⟨state, known, step⟩
  · intro output last processed
    rw [step] at processed
    cases processed
    constructor
    · exact onAuthorizationStateUpdate_number state
    · rw [TDClient.erase_client_handlers, FiniteMap.erase_self]

theorem TDClient.Counts.nonzero (counts : self.Counts taken)
    (few : (queryIds (history taken)).length < 2 ^ 64)
    (sent : id ∈ queryIds (history taken)) : id ≠ 0 := by
  intro zero
  obtain ⟨index, above, below, same⟩ := counts.ids id sent
  have none : 0 = index := ofNat_injective (by decide) (by omega) (zero.symm.trans same)
  omega

/-- Until one of the two counters wraps round, `gen_db` has at most one live
question. -/
theorem login_asks_once (run : TDClient.Run settings typed taken self)
    (fewHandlings : handlings taken < 2 ^ 64)
    (fewQueries : (queryIds (history taken)).length < 2 ^ 64) : OneQuestion taken self := by
  have counts := run_counts run
  constructor
  · intro first second firstPresent secondPresent
    exact run_single run fewHandlings firstPresent secondPresent
  · intro id code message superseded
    apply ignores_of_other _ (counts.nonzero fewQueries superseded.sent)
    exact run_superseded run fewHandlings fewQueries superseded
  · intro id code message current
    obtain ⟨state, known⟩ := Option.isSome_iff_exists.mp (counts.generations id _ current).1
    exact retries_of_current code message
      (counts.nonzero fewQueries (counts.keys id _ current)) known current

end Answers

def retriedLogin : List (Response TDClient.Object) :=
  [⟨0, some (.updateAuthorizationState .waitPhoneNumber)⟩,
    ⟨0, some (.updateAuthorizationState .waitCode)⟩, ⟨1, some (.error 400 "late")⟩,
    ⟨2, some (.error 400 "PHONE_CODE_INVALID")⟩]

theorem login_asks_once_behind_retry :
    ∃ (taken : List TDClient.Transition) (self : TDClient),
      TDClient.Run Settings.sample ["123", "456"] taken self ∧
        self.client.handlers 3 = some (.authentication 3) ∧ handlings taken = 3 ∧
        OneQuestion taken self := by
  have replayed : LabelledMachine.replay TDClient.step
      (TDClient.initial Settings.sample ["123", "456"]) retriedLogin = some (_, _) := rfl
  have run := LabelledMachine.Run.of_replay replayed
  exact ⟨_, _, run, rfl, rfl, login_asks_once run (by decide) (by decide)⟩

theorem run_links {settings : Settings} {typed : List String} {taken : List TDClient.Transition}
    {self : TDClient} (run : TDClient.Run settings typed taken self)
    (running : self.sequenceDone = false) {link : String}
    (waiting : self.authorizationState = some (.waitOtherDeviceConfirmation link))
    (count : Nat) :
    ∃ more, TDClient.Run settings typed (taken ++ more)
      { self with authenticationQueryId := self.authenticationQueryId + UInt64.ofNat count } := by
  induction count with
  | zero =>
      have same : self.authenticationQueryId + UInt64.ofNat 0 = self.authenticationQueryId :=
        UInt64.add_zero self.authenticationQueryId
      refine ⟨[], ?_⟩
      rw [List.append_nil, same]
      exact run
  | succ count ih =>
      obtain ⟨more, reached⟩ := ih
      have fired : TDClient.step
          { self with authenticationQueryId := self.authenticationQueryId + UInt64.ofNat count }
          ⟨0, some (.updateAuthorizationState (.waitOtherDeviceConfirmation link))⟩ =
          some ([.cout ("Confirm this login link on another device: " ++ link ++ "\n")],
            { self with
              authenticationQueryId :=
                self.authenticationQueryId + UInt64.ofNat (count + 1) }) := by
        unfold TDClient.step
        rw [running, if_neg Bool.false_ne_true, UInt64.ofNat_add, ← UInt64.add_assoc]
        simp only [TDClient.processResponse, TDClient.processUpdate,
          TDClient.onAuthorizationStateUpdate, TDClient.handleState, if_true, ← waiting]
        rfl
      have next := reached.snoc fired
      rw [List.append_assoc] at next
      exact ⟨_, next⟩

/-- Two queries without an answer, the first one sent 2^64 handlings before the
second. -/
theorem login_asks_twice_behind_wrap :
    ¬ ∀ (taken : List TDClient.Transition) (self : TDClient),
      TDClient.Run Settings.sample [] taken self → OneQuestion taken self := by
  intro asksOnce
  have replayed : LabelledMachine.replay TDClient.step (TDClient.initial Settings.sample [])
      [⟨0, some (.updateAuthorizationState .waitPhoneNumber)⟩,
        ⟨0, some (.updateAuthorizationState (.waitOtherDeviceConfirmation "tg://login"))⟩] =
          some (_, _) := rfl
  obtain ⟨more, wrapped⟩ :=
    run_links (LabelledMachine.Run.of_replay replayed) rfl rfl (2 ^ 64 - 2)
  have last := wrapped.snoc (show TDClient.step _
    ⟨0, some (.updateAuthorizationState .waitPhoneNumber)⟩ = some (_, _) from rfl)
  have same := (asksOnce _ _ last).single 1 2 (by decide) (by decide)
  cases same

theorem run_encryptionKeys {settings : Settings} {typed : List String}
    {taken : List TDClient.Transition} {self : TDClient}
    (run : TDClient.Run settings typed taken self) (running : self.sequenceDone = false)
    (count : Nat) :
    ∃ more last, TDClient.Run settings typed (taken ++ more) last ∧ last.sequenceDone = false ∧
      handlings (taken ++ more) = handlings taken + count ∧
      (queryIds (history (taken ++ more))).length =
        (queryIds (history taken)).length + 2 * count := by
  induction count with
  | zero =>
      refine ⟨[], self, ?_⟩
      rw [List.append_nil]
      exact ⟨run, running, rfl, rfl⟩
  | succ count ih =>
      obtain ⟨more, last, reached, undone, handled, sent⟩ := ih
      have fired : TDClient.step last ⟨0, some (.updateAuthorizationState .waitEncryptionKey)⟩ =
          some (last.processUpdate (.updateAuthorizationState .waitEncryptionKey)) := by
        unfold TDClient.step
        rw [undone, if_neg Bool.false_ne_true]
        rfl
      have next := reached.snoc fired
      rw [List.append_assoc] at next
      refine ⟨_, _, next, undone, ?_, ?_⟩
      · rw [← List.append_assoc, handlings_snoc, handled, if_pos]
        · omega
        · simp [TDClient.handles]
      · rw [← List.append_assoc, queryIds_snoc, List.length_append, sent]
        exact Nat.add_assoc _ _ _

/-- The 2^64-th query has the id of the updates. -/
theorem run_id_zero {settings : Settings} {typed : List String}
    {taken : List TDClient.Transition} {self : TDClient}
    (run : TDClient.Run settings typed taken self) (running : self.sequenceDone = false)
    (sent : (queryIds (history taken)).length = 2 ^ 64 - 1) :
    ∃ transition last, TDClient.Run settings typed (taken ++ [transition]) last ∧
      last.client.handlers 0 = some (.authentication last.authenticationQueryId) := by
  have counts := run_counts run
  have next : self.client.nextQueryId = 0 := by
    unfold Client.nextQueryId
    rw [counts.current, sent]
    rfl
  have free : self.client.handlers 0 = none := by
    rw [Option.eq_none_iff_forall_not_mem]
    intro handler present
    exact counts.nonzero (by omega) (counts.keys 0 handler present) rfl
  have fired : TDClient.step self ⟨0, some (.updateAuthorizationState .waitEncryptionKey)⟩ =
      some (self.processUpdate (.updateAuthorizationState .waitEncryptionKey)) := by
    unfold TDClient.step
    rw [running, if_neg Bool.false_ne_true]
    rfl
  refine ⟨_, _, run.snoc fired, ?_⟩
  have first := FiniteMap.emplace_absent
    (TDClient.Handler.authentication (self.authenticationQueryId + 1)) free
  have second := FiniteMap.emplace_of_ne (FiniteMap.emplace self.client.handlers 0
    (TDClient.Handler.authentication (self.authenticationQueryId + 1)))
    TDClient.Handler.ignore (show (0 : UInt64) ≠ 0 + 1 by decide)
  change FiniteMap.emplace (FiniteMap.emplace self.client.handlers self.client.nextQueryId
    (TDClient.Handler.authentication (self.authenticationQueryId + 1)))
    (self.client.nextQueryId + 1) TDClient.Handler.ignore 0 = _
  rw [next]
  exact second.trans first

theorem login_loses_answer_behind_wrap :
    ¬ ∀ (taken : List TDClient.Transition) (self : TDClient),
      TDClient.Run Settings.sample [] taken self → handlings taken < 2 ^ 64 →
        OneQuestion taken self := by
  intro asksOnce
  obtain ⟨taken, first, replayed, handled, sent, running⟩ : ∃ taken first,
      LabelledMachine.replay TDClient.step (TDClient.initial Settings.sample [])
        [⟨0, some (.updateAuthorizationState .waitPhoneNumber)⟩] = some (taken, first) ∧
      handlings taken = 1 ∧ (queryIds (history taken)).length = 1 ∧
      first.sequenceDone = false := ⟨_, _, rfl, rfl, rfl, rfl⟩
  obtain ⟨more, self, run, undone, total, queries⟩ :=
    run_encryptionKeys (LabelledMachine.Run.of_replay replayed) running (2 ^ 63 - 1)
  obtain ⟨transition, last, reached, current⟩ := run_id_zero run undone (by omega)
  have few : handlings (taken ++ more ++ [transition]) < 2 ^ 64 := by
    rw [handlings_snoc, total, handled]
    split <;> omega
  obtain ⟨state, _, retried⟩ := ((asksOnce _ _ reached few).current 0 1 "" current).retried
  cases retried

end Tg2Sip.Tg
