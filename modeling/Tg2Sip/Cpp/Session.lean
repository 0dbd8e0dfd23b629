/-
The session of `tg::Client`.

The thread of the client drives a promise, which can be satisfied once, and two
requests, which are moved out of the client when they are sent.  The promise is
satisfied by every state that is not one of the start-up states, so the second
of these states throws on a thread that catches nothing.
-/

import Tg2Sip.Cpp.Authorization
import Tg2Sip.Cpp.Client

namespace Tg2Sip.Tg

open LabelledMachine (history)

variable {Other Callback Payload : Type}

/-- A registered handler: `check_authentication_error`, or what the caller of
`send_query` passed in. -/
inductive Session.Handler (Callback : Type) where
  | authentication
  | callback (callback : Callback)

inductive Session.Object (Payload : Type) where
  | updateAuthorizationState (authorizationState : AuthorizationState)
  | updateConnectionState (ready : Bool)
  | updateCall (payload : Payload)
  | updateNewMessage (payload : Payload)
  | error (code : Int) (message : String)
  | other (payload : Payload)

inductive Session.Log where
  | connected
  | authorizationReady
  | autoSignOnFailed
  | authorizationError (code : Int) (message : String)

def Session.Log.text : Session.Log → String
  | .connected => "TG client connected"
  | .authorizationReady => "TG client authorization ready"
  | .autoSignOnFailed => "TG client auto sign-on failed"
  | .authorizationError _ _ => "TG client authorization error\n"

inductive FutureErrc where
  | promiseAlreadySatisfied

abbrev Session.ClientEffect (Other Callback Payload : Type) :=
  Effect (Option (Request Other)) (Session.Object Payload) (Session.Handler Callback)

inductive Session.Effect (Other Callback Payload : Type) where
  | client (effect : Session.ClientEffect Other Callback Payload)
  | satisfied (ready : Bool)
  | queued (update : Session.Object Payload)
  | logged (log : Session.Log)
  | threw (error : FutureErrc)

structure Session (Other Callback : Type) where
  client : Client (Session.Handler Callback)
  libParameters : Option TdlibParameters
  setProxy : Option (Request Other)
  isReady : Option Bool
  /-- An exception has left the thread function, which ends the process. -/
  terminated : Bool

abbrev Session.Result (Other Callback Payload : Type) :=
  Except FutureErrc (List (Session.Effect Other Callback Payload) × Session Other Callback)

def Session.initial (settings : Settings) : Session Other Callback :=
  { client := Client.initial
    libParameters := some settings.initLibParameters
    setProxy := some settings.initProxy
    isReady := none
    terminated := false }

def setValue (promise : Option Bool) (value : Bool) : Except FutureErrc (Option Bool) :=
  match promise with
  | none => .ok (some value)
  | some _ => .error .promiseAlreadySatisfied

def Session.sendQueries (session : Session Other Callback)
    (queries : List (Query (Option (Request Other)) (Session.Handler Callback))) :
    List (Session.Effect Other Callback Payload) × Session Other Callback :=
  let (effects, client) := session.client.sendQueries queries
  (effects.map Session.Effect.client, { session with client := client })

def Session.satisfy (session : Session Other Callback) (value : Bool) (log : Session.Log) :
    Session.Result Other Callback Payload :=
  (setValue session.isReady value).map (fun promise =>
    ([.satisfied value, .logged log], { session with isReady := promise }))

def Session.onAuthorizationStateUpdate (session : Session Other Callback)
    (authorizationState : AuthorizationState) : Session.Result Other Callback Payload :=
  match authorizationState with
  | .ready => session.satisfy true .authorizationReady
  | .waitEncryptionKey =>
      let moved := session.setProxy
      .ok ({ session with setProxy := none }.sendQueries
        [⟨some (.checkDatabaseEncryptionKey ""), some .authentication⟩,
          ⟨moved, some .authentication⟩])
  | .waitTdlibParameters =>
      let moved := session.libParameters
      .ok ({ session with libParameters := none }.sendQueries
        [⟨some (.setTdlibParameters moved), some .authentication⟩])
  | _ => session.satisfy false .autoSignOnFailed

def Session.processUpdate (session : Session Other Callback) (update : Session.Object Payload) :
    Session.Result Other Callback Payload :=
  match update with
  | .updateAuthorizationState authorizationState =>
      session.onAuthorizationStateUpdate authorizationState
  | .updateConnectionState ready => .ok (if ready then [.logged .connected] else [], session)
  | .updateCall _ => .ok ([.queued update], session)
  | .updateNewMessage _ => .ok ([.queued update], session)
  | _ => .ok ([], session)

def checkAuthenticationError (object : Session.Object Payload) :
    List (Session.Effect Other Callback Payload) :=
  match object with
  | .error code message => [.logged (.authorizationError code message)]
  | _ => []

/-- The queries of a caller are never null. -/
def Session.callerQuery (query : Query Other Callback) :
    Query (Option (Request Other)) (Session.Handler Callback) :=
  ⟨some (.other query.function), query.handler.map .callback⟩

/-- The body of a handler; the callback of a caller may send queries. -/
def Session.runHandler (session : Session Other Callback) (handler : Session.Handler Callback)
    (object : Session.Object Payload) (nested : List (Query Other Callback)) :
    List (Session.Effect Other Callback Payload) × Session Other Callback :=
  match handler with
  | .authentication => (checkAuthenticationError object, session)
  | .callback _ => session.sendQueries (nested.map Session.callerQuery)

def Session.processResponse (session : Session Other Callback)
    (response : Response (Session.Object Payload)) (nested : List (Query Other Callback)) :
    Session.Result Other Callback Payload :=
  match response.object with
  | none => .ok ([], session)
  | some object =>
      if response.id = 0 then session.processUpdate object
      else
        match session.client.handlers response.id with
        | none => .ok ([], session)
        | some handler =>
            let (effects, last) := session.runHandler handler object nested
            .ok (.client (.ran response.id handler object) :: effects,
              { last with client :=
                  { last.client with
                    handlers := FiniteMap.erase last.client.handlers response.id } })

inductive Session.Label (Other Callback Payload : Type) where
  | send (query : Query Other Callback)
  | receive (response : Response (Session.Object Payload)) (nested : List (Query Other Callback))

/-- One round of `loop`, or a `send_query` of another thread. -/
def Session.step : LabelledMachine.Step (Session Other Callback)
    (Session.Label Other Callback Payload) (Session.Effect Other Callback Payload) :=
  fun session label =>
    if session.terminated then none
    else
      match label with
      | .send query => some (session.sendQueries [Session.callerQuery query])
      | .receive response nested =>
          match session.processResponse response nested with
          | .ok result => some result
          | .error error => some ([.threw error], { session with terminated := true })

abbrev Session.Transition (Other Callback Payload : Type) :=
  LabelledMachine.Transition (Session Other Callback) (Session.Label Other Callback Payload)
    (Session.Effect Other Callback Payload)

abbrev Session.Run (settings : Settings)
    (taken : List (Session.Transition Other Callback Payload))
    (session : Session Other Callback) : Prop :=
  LabelledMachine.Run Session.step (Session.initial settings) taken session

def Session.Effect.satisfaction? : Session.Effect Other Callback Payload → Option Bool
  | .satisfied value => some value
  | _ => none

def Session.Effect.thrown? : Session.Effect Other Callback Payload → Option FutureErrc
  | .threw error => some error
  | _ => none

def Session.Effect.request? : Session.Effect Other Callback Payload →
    Option (Option (Request Other))
  | .client effect => effect.sentFunction?
  | _ => none

def tdlibParameters? : Option (Request Other) → Option (Option TdlibParameters)
  | some (.setTdlibParameters parameters) => some parameters
  | _ => none

/-- A null request can only be a request whose pointer was moved from. -/
def proxy? : Option (Request Other) → Option (Option (Request Other))
  | none => some none
  | some request => if request.setsProxy then some (some request) else none

def satisfactions (log : List (Session.Effect Other Callback Payload)) : List Bool :=
  log.filterMap Session.Effect.satisfaction?

def thrown (log : List (Session.Effect Other Callback Payload)) : List FutureErrc :=
  log.filterMap Session.Effect.thrown?

def requests (log : List (Session.Effect Other Callback Payload)) :
    List (Option (Request Other)) :=
  log.filterMap Session.Effect.request?

def parametersSent (log : List (Session.Effect Other Callback Payload)) :
    List (Option TdlibParameters) :=
  (requests log).filterMap tdlibParameters?

def proxiesSent (log : List (Session.Effect Other Callback Payload)) :
    List (Option (Request Other)) :=
  (requests log).filterMap proxy?

def Session.Label.delivers : Session.Label Other Callback Payload → Option AuthorizationState
  | .receive ⟨id, some (.updateAuthorizationState authorizationState)⟩ _ =>
      if id = 0 then some authorizationState else none
  | _ => none

def delivered (taken : List (Session.Transition Other Callback Payload)) :
    List AuthorizationState :=
  taken.filterMap (fun transition => transition.label.delivers)

def further (states : List AuthorizationState) : List AuthorizationState :=
  states.filter (fun state => !state.startsUp)

/-! ### What one step does -/

/-- Everything a step changes besides the TDLib queries. -/
inductive Session.Advanced (source : Session Other Callback) :
    Option AuthorizationState → List (Session.Effect Other Callback Payload) →
      Session Other Callback → Prop where
  | quiet {output : List (Session.Effect Other Callback Payload)}
      (client : Client (Session.Handler Callback)) :
      satisfactions output = [] → thrown output = [] →
      (∀ request ∈ requests output, ∃ other, request = some (Request.other other)) →
      Session.Advanced source none output { source with client := client }
  | parameters {output : List (Session.Effect Other Callback Payload)}
      (client : Client (Session.Handler Callback)) :
      satisfactions output = [] → thrown output = [] →
      requests output = [some (.setTdlibParameters source.libParameters)] →
      Session.Advanced source (some .waitTdlibParameters) output
        { source with client := client, libParameters := none }
  | encryptionKey {output : List (Session.Effect Other Callback Payload)}
      (client : Client (Session.Handler Callback)) :
      satisfactions output = [] → thrown output = [] →
      requests output = [some (.checkDatabaseEncryptionKey ""), source.setProxy] →
      Session.Advanced source (some .waitEncryptionKey) output
        { source with client := client, setProxy := none }
  | satisfied {state : AuthorizationState} (log : Session.Log) :
      state.startsUp = false → source.isReady = none →
      Session.Advanced source (some state)
        [.satisfied (decide (state = .ready)), .logged log]
        { source with isReady := some (decide (state = .ready)) }
  | threw {state : AuthorizationState} (value : Bool) :
      state.startsUp = false → source.isReady = some value →
      Session.Advanced source (some state) [.threw .promiseAlreadySatisfied]
        { source with terminated := true }

section OneStep

variable {source target : Session Other Callback}
  {output : List (Session.Effect Other Callback Payload)}

theorem Session.Advanced.silent (satisfied : satisfactions output = []) (threw : thrown output = [])
    (asked : requests output = []) : source.Advanced none output source := by
  refine .quiet source.client satisfied threw ?_
  rw [asked]
  intro request member
  cases member

theorem satisfactions_client (effects : List (Session.ClientEffect Other Callback Payload)) :
    satisfactions (effects.map Session.Effect.client) = [] := by
  unfold satisfactions
  rw [List.filterMap_map, List.filterMap_eq_nil_iff]
  intro effect _
  rfl

theorem thrown_client (effects : List (Session.ClientEffect Other Callback Payload)) :
    thrown (effects.map Session.Effect.client) = [] := by
  unfold thrown
  rw [List.filterMap_map, List.filterMap_eq_nil_iff]
  intro effect _
  rfl

theorem requests_client (effects : List (Session.ClientEffect Other Callback Payload)) :
    requests (effects.map Session.Effect.client) = sentFunctions effects := by
  unfold requests sentFunctions
  rw [List.filterMap_map]
  rfl

theorem sendQueries_spec
    {queries : List (Query (Option (Request Other)) (Session.Handler Callback))}
    (sends : source.sendQueries queries = (output, target)) :
    (∃ client, target = { source with client := client }) ∧ satisfactions output = [] ∧
      thrown output = [] ∧ requests output = queries.map Query.function := by
  unfold Session.sendQueries at sends
  cases sent : (source.client.sendQueries queries :
      List (Session.ClientEffect Other Callback Payload) × _) with
  | mk effects client =>
      rw [sent] at sends
      cases sends
      rw [satisfactions_client, thrown_client, requests_client, sentFunctions_sendQueries sent]
      exact ⟨⟨client, rfl⟩, rfl, rfl, rfl⟩

theorem advanced_of_callerQueries (queries : List (Query Other Callback))
    (sends : source.sendQueries (queries.map Session.callerQuery) = (output, target)) :
    source.Advanced none output target := by
  obtain ⟨⟨client, rfl⟩, satisfied, threw, sent⟩ := sendQueries_spec sends
  apply Session.Advanced.quiet client satisfied threw
  intro request member
  rw [sent, List.map_map, List.mem_map] at member
  obtain ⟨query, _, rfl⟩ := member
  exact ⟨query.function, rfl⟩

theorem advanced_of_runHandler {handler : Session.Handler Callback}
    {object : Session.Object Payload} {nested : List (Query Other Callback)}
    (runs : source.runHandler handler object nested = (output, target)) :
    source.Advanced none output target := by
  cases handler with
  | callback callback => exact advanced_of_callerQueries nested runs
  | authentication =>
      cases runs
      cases object <;> exact .silent rfl rfl rfl

theorem Session.Advanced.erasing (advanced : source.Advanced none output target) (id : UInt64)
    (handler : Session.Handler Callback) (object : Session.Object Payload) :
    source.Advanced none (.client (.ran id handler object) :: output)
      { target with client :=
          { target.client with handlers := FiniteMap.erase target.client.handlers id } } := by
  cases advanced with
  | quiet client satisfied threw others => exact .quiet _ satisfied threw others

theorem advanced_of_satisfy {state : AuthorizationState} {value : Bool} (log : Session.Log)
    (further : state.startsUp = false) (same : value = decide (state = .ready))
    (steps : (match (source.satisfy value log : Session.Result Other Callback Payload) with
      | .ok result => some result
      | .error error => some ([.threw error], { source with terminated := true })) =
        some (output, target)) : source.Advanced (some state) output target := by
  subst same
  obtain ⟨client, libParameters, setProxy, isReady, terminated⟩ := source
  cases isReady with
  | none =>
      cases steps
      exact .satisfied log further rfl
  | some value =>
      cases steps
      exact .threw value further rfl

theorem advanced_of_authorization {state : AuthorizationState}
    (steps : (match (source.onAuthorizationStateUpdate state :
        Session.Result Other Callback Payload) with
      | .ok result => some result
      | .error error => some ([.threw error], { source with terminated := true })) =
        some (output, target)) : source.Advanced (some state) output target := by
  cases state with
  | waitTdlibParameters =>
      obtain ⟨⟨client, rfl⟩, satisfied, threw, sent⟩ := sendQueries_spec (Option.some.inj steps)
      exact .parameters client satisfied threw sent
  | waitEncryptionKey =>
      obtain ⟨⟨client, rfl⟩, satisfied, threw, sent⟩ := sendQueries_spec (Option.some.inj steps)
      exact .encryptionKey client satisfied threw sent
  | _ => exact advanced_of_satisfy _ rfl (by simp) steps

theorem step_advanced {label : Session.Label Other Callback Payload}
    (fired : source.step label = some (output, target)) :
    source.terminated = false ∧ source.Advanced label.delivers output target := by
  unfold Session.step at fired
  cases ended : source.terminated with
  | true =>
      rw [ended] at fired
      cases fired
  | false =>
      rw [ended, if_neg Bool.false_ne_true] at fired
      refine ⟨rfl, ?_⟩
      cases label with
      | send query => exact advanced_of_callerQueries [query] (Option.some.inj fired)
      | receive response nested =>
          obtain ⟨id, object⟩ := response
          cases object with
          | none =>
              cases fired
              exact .silent rfl rfl rfl
          | some object =>
              simp only [Session.processResponse] at fired
              by_cases update : id = 0
              · rw [if_pos update] at fired
                cases object with
                | updateAuthorizationState state =>
                    simp only [Session.Label.delivers, if_pos update]
                    exact advanced_of_authorization fired
                | updateConnectionState ready =>
                    cases fired
                    cases ready <;> exact .silent rfl rfl rfl
                | _ =>
                    cases fired
                    exact .silent rfl rfl rfl
              · rw [if_neg update] at fired
                have nothing : Session.Label.delivers
                    (.receive ⟨id, some object⟩ nested : Session.Label Other Callback Payload) =
                      none := by
                  cases object <;> first | rfl | exact if_neg update
                rw [nothing]
                cases found : source.client.handlers id with
                | none =>
                    simp only [found] at fired
                    cases fired
                    exact .silent rfl rfl rfl
                | some handler =>
                    cases runs : (source.runHandler handler object nested :
                        List (Session.Effect Other Callback Payload) × _) with
                    | mk effects between =>
                        simp only [found, runs] at fired
                        cases fired
                        exact (advanced_of_runHandler runs).erasing id handler object

end OneStep

/-! ### Whole runs -/

/-- The promise has the value of the first state behind the start-up, and the
second one ends the process. -/
structure Session.Promised (states : List AuthorizationState)
    (log : List (Session.Effect Other Callback Payload)) (session : Session Other Callback) :
    Prop where
  promise : session.isReady = (further states).head?.map (fun state => decide (state = .ready))
  satisfied : satisfactions log = session.isReady.toList
  threw : thrown log = [] ↔ (further states).length ≤ 1
  terminated : session.terminated = false ↔ (further states).length ≤ 1

/-- What a pointer holds that was moved from the given number of times. -/
def leftOver {Stored : Type} (stored : Stored) (moves : Nat) : Option Stored :=
  if moves = 0 then some stored else none

def movedOut {Stored : Type} (stored : Stored) (moves : Nat) : List (Option Stored) :=
  (List.range moves).map (leftOver stored)

/-- Each start-up state moves what is left of its request. -/
structure Session.Moved (settings : Settings) (states : List AuthorizationState)
    (log : List (Session.Effect Other Callback Payload)) (session : Session Other Callback) :
    Prop where
  parameters : session.libParameters =
    leftOver settings.initLibParameters (states.count .waitTdlibParameters)
  parametersMoved : parametersSent log =
    movedOut settings.initLibParameters (states.count .waitTdlibParameters)
  proxy : session.setProxy = leftOver settings.initProxy (states.count .waitEncryptionKey)
  proxiesMoved : proxiesSent log =
    movedOut settings.initProxy (states.count .waitEncryptionKey)

section WholeRuns

variable {settings : Settings} {states : List AuthorizationState}
  {log output : List (Session.Effect Other Callback Payload)}
  {source target : Session Other Callback} {delivers : Option AuthorizationState}

theorem further_append (first second : List AuthorizationState) :
    further (first ++ second) = further first ++ further second :=
  List.filter_append first second

theorem further_of_startsUp {state : AuthorizationState} (startsUp : state.startsUp = true) :
    further [state] = [] := by
  simp [further, startsUp]

theorem further_of_not_startsUp {state : AuthorizationState} (startsUp : state.startsUp = false) :
    further [state] = [state] := by
  simp [further, startsUp]

theorem movedOut_succ {Stored : Type} (stored : Stored) (moves : Nat) :
    movedOut stored (moves + 1) = movedOut stored moves ++ [leftOver stored moves] := by
  unfold movedOut
  rw [List.range_succ, List.map_append, List.map_singleton]

theorem satisfactions_append (first second : List (Session.Effect Other Callback Payload)) :
    satisfactions (first ++ second) = satisfactions first ++ satisfactions second :=
  List.filterMap_append

theorem thrown_append (first second : List (Session.Effect Other Callback Payload)) :
    thrown (first ++ second) = thrown first ++ thrown second :=
  List.filterMap_append

theorem requests_append (first second : List (Session.Effect Other Callback Payload)) :
    requests (first ++ second) = requests first ++ requests second :=
  List.filterMap_append

theorem parametersSent_append (first second : List (Session.Effect Other Callback Payload)) :
    parametersSent (first ++ second) = parametersSent first ++ parametersSent second := by
  unfold parametersSent
  rw [requests_append, List.filterMap_append]

theorem proxiesSent_append (first second : List (Session.Effect Other Callback Payload)) :
    proxiesSent (first ++ second) = proxiesSent first ++ proxiesSent second := by
  unfold proxiesSent
  rw [requests_append, List.filterMap_append]

theorem startsUp_of_mem {state : AuthorizationState} {value : Bool}
    (startsUp : state.startsUp = value) : ∀ other ∈ some state, other.startsUp = value := by
  intro other same
  cases same
  exact startsUp

theorem Session.Promised.spared (promised : source.Promised states log)
    (satisfied : satisfactions output = []) (threw : thrown output = [])
    (startsUp : ∀ state ∈ delivers, state.startsUp = true)
    (promise : target.isReady = source.isReady)
    (terminated : target.terminated = source.terminated) :
    target.Promised (states ++ delivers.toList) (log ++ output) := by
  have same : further (states ++ delivers.toList) = further states := by
    rw [further_append]
    cases delivers with
    | none => exact List.append_nil _
    | some state =>
        rw [Option.toList_some, further_of_startsUp (startsUp state rfl), List.append_nil]
  constructor
  · rw [same, promise]
    exact promised.promise
  · rw [satisfactions_append, satisfied, List.append_nil, promise]
    exact promised.satisfied
  · rw [thrown_append, threw, List.append_nil, same]
    exact promised.threw
  · rw [terminated, same]
    exact promised.terminated

theorem Session.Promised.advanced (promised : source.Promised states log)
    (running : source.terminated = false) (advanced : source.Advanced delivers output target) :
    target.Promised (states ++ delivers.toList) (log ++ output) := by
  cases advanced with
  | quiet client satisfied threw others => exact promised.spared satisfied threw nofun rfl rfl
  | parameters client satisfied threw sent =>
      exact promised.spared satisfied threw (startsUp_of_mem rfl) rfl rfl
  | encryptionKey client satisfied threw sent =>
      exact promised.spared satisfied threw (startsUp_of_mem rfl) rfl rfl
  | @satisfied state line behind empty =>
      have first : further states = [] := by
        have none := promised.promise
        rw [empty] at none
        exact List.head?_eq_none_iff.mp (Option.map_eq_none_iff.mp none.symm)
      have nothing := promised.satisfied
      rw [empty] at nothing
      have quiet : thrown log = [] := by
        apply promised.threw.mpr
        rw [first]
        exact Nat.zero_le 1
      have alone : further (states ++ [state]) = [state] := by
        rw [further_append, first, further_of_not_startsUp behind, List.nil_append]
      rw [Option.toList_some]
      constructor
      · rw [alone]
        rfl
      · rw [satisfactions_append, nothing]
        rfl
      · rw [thrown_append, quiet, alone]
        exact iff_of_true rfl (Nat.le_refl 1)
      · rw [alone]
        exact iff_of_true running (Nat.le_refl 1)
  | @threw state value behind full =>
      have second : 1 ≤ (further states).length := by
        by_contra none
        have first : further states = [] := List.length_eq_zero_iff.mp (by omega)
        have empty := promised.promise
        rw [first, full] at empty
        cases empty
      have length : (further (states ++ [state])).length = (further states).length + 1 := by
        rw [further_append, further_of_not_startsUp behind, List.length_append,
          List.length_singleton]
      constructor
      · rw [Option.toList_some, further_append, List.head?_append_of_ne_nil]
        · exact promised.promise
        · exact List.ne_nil_of_length_pos second
      · rw [satisfactions_append]
        exact (List.append_nil _).trans promised.satisfied
      · rw [Option.toList_some, length, thrown_append]
        constructor
        · intro nothing
          cases List.append_ne_nil_of_right_ne_nil _ (List.cons_ne_nil _ _) nothing
        · intro few
          omega
      · rw [Option.toList_some, length]
        constructor
        · intro running
          cases running
        · intro few
          omega

theorem parametersSent_of_quiet
    (others : ∀ request ∈ requests output, ∃ other, request = some (Request.other other)) :
    parametersSent output = [] := by
  unfold parametersSent
  rw [List.filterMap_eq_nil_iff]
  intro request member
  obtain ⟨other, rfl⟩ := others request member
  rfl

theorem proxiesSent_of_quiet
    (others : ∀ request ∈ requests output, ∃ other, request = some (Request.other other)) :
    proxiesSent output = [] := by
  unfold proxiesSent
  rw [List.filterMap_eq_nil_iff]
  intro request member
  obtain ⟨other, rfl⟩ := others request member
  rfl

theorem proxy?_leftOver (settings : Settings) (moves : Nat) :
    proxy? (leftOver (settings.initProxy : Request Other) moves) =
      some (leftOver settings.initProxy moves) := by
  unfold leftOver
  split
  · simp only [proxy?, setsProxy_initProxy, if_true]
  · rfl

theorem Session.Moved.spared (moved : source.Moved settings states log)
    (parametersNone : parametersSent output = []) (proxiesNone : proxiesSent output = [])
    (startsUp : ∀ state ∈ delivers, state.startsUp = false)
    (parameters : target.libParameters = source.libParameters)
    (proxy : target.setProxy = source.setProxy) :
    target.Moved settings (states ++ delivers.toList) (log ++ output) := by
  have counts {state : AuthorizationState} (starts : state.startsUp = true) :
      (states ++ delivers.toList).count state = states.count state := by
    have absent : state ∉ delivers.toList := by
      intro member
      rw [startsUp state (Option.mem_toList.mp member)] at starts
      cases starts
    rw [List.count_append, List.count_eq_zero_of_not_mem absent, Nat.add_zero]
  constructor
  · rw [parameters, counts rfl]
    exact moved.parameters
  · rw [parametersSent_append, parametersNone, List.append_nil, counts rfl]
    exact moved.parametersMoved
  · rw [proxy, counts rfl]
    exact moved.proxy
  · rw [proxiesSent_append, proxiesNone, List.append_nil, counts rfl]
    exact moved.proxiesMoved

theorem Session.Moved.advanced (moved : source.Moved settings states log)
    (advanced : source.Advanced delivers output target) :
    target.Moved settings (states ++ delivers.toList) (log ++ output) := by
  cases advanced with
  | quiet client satisfied threw others =>
      exact moved.spared (parametersSent_of_quiet others) (proxiesSent_of_quiet others) nofun rfl
        rfl
  | parameters client satisfied threw sent =>
      have own : (states ++ [AuthorizationState.waitTdlibParameters]).count .waitTdlibParameters =
          states.count .waitTdlibParameters + 1 := by
        rw [List.count_append, List.count_singleton_self]
      have other : (states ++ [AuthorizationState.waitTdlibParameters]).count .waitEncryptionKey =
          states.count .waitEncryptionKey := by
        rw [List.count_append, List.count_singleton, if_neg (by decide), Nat.add_zero]
      have last : parametersSent output = [source.libParameters] := by
        unfold parametersSent
        rw [sent]
        rfl
      have none : proxiesSent output = [] := by
        unfold proxiesSent
        rw [sent]
        rfl
      rw [Option.toList_some]
      constructor
      · rw [own]
        rfl
      · rw [parametersSent_append, last, own, movedOut_succ, moved.parametersMoved,
          moved.parameters]
      · rw [other]
        exact moved.proxy
      · rw [proxiesSent_append, none, List.append_nil, other]
        exact moved.proxiesMoved
  | encryptionKey client satisfied threw sent =>
      have own : (states ++ [AuthorizationState.waitEncryptionKey]).count .waitEncryptionKey =
          states.count .waitEncryptionKey + 1 := by
        rw [List.count_append, List.count_singleton_self]
      have other : (states ++ [AuthorizationState.waitEncryptionKey]).count .waitTdlibParameters =
          states.count .waitTdlibParameters := by
        rw [List.count_append, List.count_singleton, if_neg (by decide), Nat.add_zero]
      have none : parametersSent output = [] := by
        unfold parametersSent
        rw [sent, moved.proxy]
        unfold leftOver Settings.initProxy
        split <;> [skip; rfl]
        split <;> rfl
      have last : proxiesSent output = [source.setProxy] := by
        unfold proxiesSent
        rw [sent, moved.proxy]
        simp only [List.filterMap_cons, proxy?_leftOver, List.filterMap_nil]
        rfl
      rw [Option.toList_some]
      constructor
      · rw [other]
        exact moved.parameters
      · rw [parametersSent_append, none, List.append_nil, other]
        exact moved.parametersMoved
      · rw [own]
        rfl
      · rw [proxiesSent_append, last, own, movedOut_succ, moved.proxiesMoved, moved.proxy]
  | satisfied line behind empty =>
      exact moved.spared rfl rfl (startsUp_of_mem behind) rfl rfl
  | threw value behind full =>
      exact moved.spared rfl rfl (startsUp_of_mem behind) rfl rfl

theorem delivered_snoc (taken : List (Session.Transition Other Callback Payload))
    (transition : Session.Transition Other Callback Payload) :
    delivered (taken ++ [transition]) = delivered taken ++ transition.label.delivers.toList := by
  unfold delivered
  rw [List.filterMap_append]
  cases delivers : transition.label.delivers <;> simp [delivers]

variable {taken : List (Session.Transition Other Callback Payload)}
  {session : Session Other Callback}

theorem run_promised_moved (run : Session.Run settings taken session) :
    session.Promised (delivered taken) (history taken) ∧
      session.Moved settings (delivered taken) (history taken) := by
  have atStart : (Session.initial settings : Session Other Callback).Promised []
        ([] : List (Session.Effect Other Callback Payload)) ∧
      (Session.initial settings : Session Other Callback).Moved settings []
        ([] : List (Session.Effect Other Callback Payload)) :=
    ⟨⟨rfl, rfl, iff_of_true rfl (Nat.zero_le 1), iff_of_true rfl (Nat.zero_le 1)⟩,
      ⟨rfl, rfl, rfl, rfl⟩⟩
  apply LabelledMachine.Run.invariant atStart _ run (fun _ _ => trivial)
  intro taken source label output target _ held fired _
  obtain ⟨running, advanced⟩ := step_advanced fired
  rw [delivered_snoc, LabelledMachine.history_append, LabelledMachine.history_cons,
    LabelledMachine.history_nil, List.append_nil]
  exact ⟨held.1.advanced running advanced, held.2.advanced advanced⟩

/-- Whatever is delivered, the first state behind the start-up is the last one
that does not throw. -/
theorem run_threw_iff (run : Session.Run settings taken session) :
    thrown (history taken) = [] ↔ (further (delivered taken)).length ≤ 1 :=
  (run_promised_moved run).1.threw

/-- A session without an exception, a second answer to the promise or a null
request. -/
structure Session.Undisturbed (settings : Settings)
    (taken : List (Session.Transition Other Callback Payload)) : Prop where
  returned : thrown (history taken) = []
  satisfiedOnce : (satisfactions (history taken)).length ≤ 1
  readyFirst : ∀ value ∈ satisfactions (history taken),
    value = true ↔ (further (delivered taken)).head? = some .ready
  parametersOnce : (parametersSent (history taken)).length ≤ 1
  parametersStored : ∀ parameters ∈ parametersSent (history taken),
    parameters = some settings.initLibParameters
  proxyOnce : (proxiesSent (history taken)).length ≤ 1
  proxyStored : ∀ request ∈ proxiesSent (history taken), request = some settings.initProxy

theorem Session.Promised.readyFirst (promised : session.Promised states log) {value : Bool}
    (member : value ∈ satisfactions log) :
    value = true ↔ (further states).head? = some .ready := by
  rw [promised.satisfied, promised.promise, Option.mem_toList, Option.map_eq_some_iff] at member
  obtain ⟨state, first, rfl⟩ := member
  rw [first, decide_eq_true_eq, Option.some.injEq]

theorem length_movedOut {Stored : Type} (stored : Stored) (moves : Nat) :
    (movedOut stored moves).length = moves := by
  unfold movedOut
  rw [List.length_map, List.length_range]

theorem eq_of_mem_movedOut {Stored : Type} {stored : Stored} {moves : Nat} (once : moves ≤ 1)
    {value : Option Stored} (member : value ∈ movedOut stored moves) : value = some stored := by
  unfold movedOut at member
  obtain ⟨index, inside, rfl⟩ := List.mem_map.mp member
  rw [List.mem_range] at inside
  have first : index = 0 := by omega
  rw [first]
  rfl

theorem undisturbed_of_starts (run : Session.Run settings taken session)
    (parameters : (delivered taken).count .waitTdlibParameters ≤ 1)
    (encryptionKey : (delivered taken).count .waitEncryptionKey ≤ 1) :
    Session.Undisturbed settings taken ↔ (further (delivered taken)).length ≤ 1 := by
  obtain ⟨promised, moved⟩ := run_promised_moved run
  constructor
  · intro undisturbed
    exact promised.threw.mp undisturbed.returned
  · intro few
    constructor
    · exact promised.threw.mpr few
    · rw [promised.satisfied]
      exact Option.length_toList_le
    · intro value member
      exact promised.readyFirst member
    · rw [moved.parametersMoved, length_movedOut]
      exact parameters
    · intro sent member
      rw [moved.parametersMoved] at member
      exact eq_of_mem_movedOut parameters member
    · rw [moved.proxiesMoved, length_movedOut]
      exact encryptionKey
    · intro sent member
      rw [moved.proxiesMoved] at member
      exact eq_of_mem_movedOut encryptionKey member

theorem Deliverable.count_le_one (deliverable : Deliverable states) {state : AuthorizationState}
    (startsUp : state.startsUp = true) : states.count state ≤ 1 := by
  obtain ⟨signOn, shutDown, signsOn, shutsDown, cut⟩ := deliverable
  have later : state ∉ signOn ++ shutDown := by
    intro member
    rcases List.mem_append.mp member with inside | inside
    · have contrary := signsOn state inside
      cases state <;> cases startsUp <;> cases contrary
    · have contrary := shutsDown state inside
      cases state <;> cases startsUp <;> cases contrary
  have most := cut.sublist.count_le state
  rw [List.append_assoc, List.count_append, List.count_eq_zero_of_not_mem later] at most
  apply Nat.le_trans most
  cases state <;> cases startsUp <;> decide

/-- A session is undisturbed exactly when at most one state follows the
start-up. -/
theorem session_undisturbed_iff (run : Session.Run settings taken session)
    (deliverable : Deliverable (delivered taken)) :
    Session.Undisturbed settings taken ↔ (further (delivered taken)).length ≤ 1 :=
  undisturbed_of_starts run (deliverable.count_le_one rfl) (deliverable.count_le_one rfl)

end WholeRuns

def deliveries (states : List AuthorizationState) : List (Session.Label String String Nat) :=
  states.map (fun state => .receive ⟨0, some (.updateAuthorizationState state)⟩ [])

/-- The user signs in, and the session is revoked later. -/
theorem session_disturbed_by_revocation :
    ¬ ∀ (taken : List (Session.Transition String String Nat)) (session : Session String String),
      Session.Run Settings.sample taken session → Deliverable (delivered taken) →
        Session.Undisturbed Settings.sample taken := by
  intro undisturbed
  have replayed : LabelledMachine.replay Session.step (Session.initial Settings.sample)
      (deliveries [.waitTdlibParameters, .waitEncryptionKey, .ready, .loggingOut]) =
        some (_, _) := rfl
  have run := LabelledMachine.Run.of_replay replayed
  have returned := (undisturbed _ _ run ⟨[.ready], [.loggingOut], by decide, by decide,
    List.prefix_refl _⟩).returned
  cases returned

/-- A session that is answered between the updates and stays signed on. -/
theorem session_undisturbed_while_ready :
    ∃ (taken : List (Session.Transition String String Nat)) (session : Session String String),
      Session.Run Settings.sample taken session ∧ delivered taken =
        [.waitTdlibParameters, .waitEncryptionKey, .ready] ∧ session.isReady = some true ∧
        Session.Undisturbed Settings.sample taken := by
  have replayed : LabelledMachine.replay Session.step (Session.initial Settings.sample)
      (deliveries [.waitTdlibParameters, .waitEncryptionKey] ++
        [.receive ⟨2, some (.error 400 "bad key")⟩ [], .send ⟨"getMe", some "first"⟩,
          .receive ⟨0, some (.updateCall 5)⟩ []] ++ deliveries [.ready]) = some (_, _) := rfl
  have run := LabelledMachine.Run.of_replay replayed
  exact ⟨_, _, run, rfl, rfl, (session_undisturbed_iff run ⟨[.ready], [], by decide, by decide,
    List.prefix_refl _⟩).mpr (by decide)⟩

end Tg2Sip.Tg
