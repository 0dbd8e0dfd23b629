/-
The TDLib clients.

`tg::Client` and `TDClient` have the same `next_query_id`, `send_query` and
`process_response`.  They differ in what an update or a handler sends while it
is processed, which is here a list of queries that a label carries: a handler
may send any queries, and the map of the handlers then grows between the lookup
of the handler and its erasure.
-/

import Mathlib.Algebra.Group.Nat.Defs
import Mathlib.Data.List.Nodup
import Tg2Sip.Lib.FiniteMap
import Tg2Sip.Lib.Run

namespace Tg2Sip.Tg

open LabelledMachine (history AdmittedAlong)

variable {Function Object Handler : Type}

structure Client (Handler : Type) where
  currentQueryId : UInt64
  handlers : FiniteMap.Map UInt64 Handler

structure Query (Function Handler : Type) where
  function : Function
  handler : Option Handler

/-- `td::Client::Response`; the object of an empty response is null. -/
structure Response (Object : Type) where
  id : UInt64
  object : Option Object

inductive Effect (Function Object Handler : Type) where
  | registered (id : UInt64) (handler : Handler)
  | sent (id : UInt64) (function : Function)
  | ran (id : UInt64) (handler : Handler) (object : Object)

/-- `++current_query_id`. -/
def Client.nextQueryId (client : Client Handler) : UInt64 := client.currentQueryId + 1

def Client.sendQuery (client : Client Handler) (query : Query Function Handler) :
    List (Effect Function Object Handler) × Client Handler :=
  let queryId := client.nextQueryId
  match query.handler with
  | none => ([.sent queryId query.function], { client with currentQueryId := queryId })
  | some handler =>
      ([.registered queryId handler, .sent queryId query.function],
        { currentQueryId := queryId
          handlers := FiniteMap.emplace client.handlers queryId handler })

/-- The queries that are sent while an update or a response is processed. -/
def Client.sendQueries (client : Client Handler) : List (Query Function Handler) →
    List (Effect Function Object Handler) × Client Handler
  | [] => ([], client)
  | query :: rest =>
      let (first, between) := client.sendQuery query
      let (later, last) := between.sendQueries rest
      (first ++ later, last)

/-- `process_response`, with the queries that `process_update` or the handler
sends. -/
def Client.processResponse (client : Client Handler) (response : Response Object)
    (nested : List (Query Function Handler)) :
    List (Effect Function Object Handler) × Client Handler :=
  match response.object with
  | none => ([], client)
  | some object =>
      if response.id = 0 then client.sendQueries nested
      else
        match client.handlers response.id with
        | none => ([], client)
        | some handler =>
            let (sends, last) := client.sendQueries nested
            (.ran response.id handler object :: sends,
              { last with handlers := FiniteMap.erase last.handlers response.id })

inductive Label (Function Object Handler : Type) where
  | send (query : Query Function Handler)
  | receive (response : Response Object) (nested : List (Query Function Handler))

def Client.step : LabelledMachine.Step (Client Handler) (Label Function Object Handler)
    (Effect Function Object Handler) := fun client label =>
  match label with
  | .send query => some (client.sendQuery query)
  | .receive response nested => some (client.processResponse response nested)

def Client.initial : Client Handler := ⟨0, FiniteMap.empty⟩

abbrev Transition (Function Object Handler : Type) :=
  LabelledMachine.Transition (Client Handler) (Label Function Object Handler)
    (Effect Function Object Handler)

abbrev Run (taken : List (Transition Function Object Handler)) (client : Client Handler) : Prop :=
  LabelledMachine.Run Client.step Client.initial taken client

def Effect.sentId? : Effect Function Object Handler → Option UInt64
  | .sent id _ => some id
  | _ => none

def Effect.ranId? : Effect Function Object Handler → Option UInt64
  | .ran id _ _ => some id
  | _ => none

def sentIds (log : List (Effect Function Object Handler)) : List UInt64 :=
  log.filterMap Effect.sentId?

def ranIds (log : List (Effect Function Object Handler)) : List UInt64 :=
  log.filterMap Effect.ranId?

def Effect.sentFunction? : Effect Function Object Handler → Option Function
  | .sent _ function => some function
  | _ => none

def sentFunctions (log : List (Effect Function Object Handler)) : List Function :=
  log.filterMap Effect.sentFunction?

/-- The query id that a response answers; updates and empty responses answer none. -/
def Label.answers : Label Function Object Handler → Option UInt64
  | .send _ => none
  | .receive ⟨_, none⟩ _ => none
  | .receive ⟨id, some _⟩ _ => if id = 0 then none else some id

def answeredIds (taken : List (Transition Function Object Handler)) : List UInt64 :=
  taken.filterMap (fun transition => transition.label.answers)

/-- TDLib answers a query at most once, and only after it was sent. -/
def Honest (before : List (Transition Function Object Handler))
    (transition : Transition Function Object Handler) : Prop :=
  ∀ id ∈ transition.label.answers, id ∈ sentIds (history before) ∧ id ∉ answeredIds before

/-! ### The invariant -/

/-- The ids are counted up from one, and the registered handlers are those of
the queries without an answer. -/
structure Serves (log : List (Effect Function Object Handler)) (answered : List UInt64)
    (client : Client Handler) : Prop where
  current : client.currentQueryId = UInt64.ofNat (sentIds log).length
  numbered : sentIds log =
    (List.range (sentIds log).length).map (fun index => UInt64.ofNat (index + 1))
  known : ∀ id handler, .registered id handler ∈ log → id ∈ sentIds log
  kept : ∀ id handler, client.handlers id = some handler ↔
    .registered id handler ∈ log ∧ id ∉ answered
  ordered : ∀ id handler, .registered id handler ∈ log →
    ∃ function, [.registered id handler, .sent id function] <:+: log
  answeredSent : ∀ id ∈ answered, id ∈ sentIds log

theorem serves_initial :
    Serves ([] : List (Effect Function Object Handler)) [] Client.initial where
  current := rfl
  numbered := rfl
  known := nofun
  kept id handler := by simp [Client.initial, FiniteMap.empty]
  ordered := nofun
  answeredSent := nofun

theorem ofNat_injective {first second : Nat} (firstFits : first < 2 ^ 64)
    (secondFits : second < 2 ^ 64) (same : UInt64.ofNat first = UInt64.ofNat second) :
    first = second := by
  have values := congrArg UInt64.toNat same
  rw [UInt64.toNat_ofNat_of_lt' firstFits, UInt64.toNat_ofNat_of_lt' secondFits] at values
  exact values

section Invariant

variable {log : List (Effect Function Object Handler)} {answered : List UInt64}
  {client : Client Handler}

theorem Serves.nodup (serves : Serves log answered client)
    (few : (sentIds log).length < 2 ^ 64) : (sentIds log).Nodup := by
  rw [serves.numbered]
  apply List.Nodup.map_on _ List.nodup_range
  intro first firstIn second secondIn same
  rw [List.mem_range] at firstIn secondIn
  have next := ofNat_injective (by omega) (by omega) same
  omega

theorem Serves.nonzero (serves : Serves log answered client)
    (few : (sentIds log).length < 2 ^ 64) : 0 ∉ sentIds log := by
  intro member
  rw [serves.numbered, List.mem_map] at member
  obtain ⟨index, inside, zero⟩ := member
  rw [List.mem_range] at inside
  have none : index + 1 = 0 := ofNat_injective (by omega) (by decide) zero
  omega

theorem Serves.nextQueryId (serves : Serves log answered client) :
    client.nextQueryId = UInt64.ofNat ((sentIds log).length + 1) := by
  unfold Client.nextQueryId
  rw [serves.current, UInt64.ofNat_add]
  rfl

theorem Serves.fresh (serves : Serves log answered client)
    (few : (sentIds log).length + 1 < 2 ^ 64) : client.nextQueryId ∉ sentIds log := by
  intro member
  rw [serves.nextQueryId, serves.numbered, List.mem_map] at member
  obtain ⟨index, inside, same⟩ := member
  rw [List.length_map, List.length_range] at same
  rw [List.mem_range] at inside
  have next := ofNat_injective (by omega) (by omega) same
  omega

theorem numbered_snoc {ids : List UInt64} {id : UInt64}
    (numbered : ids = (List.range ids.length).map (fun index => UInt64.ofNat (index + 1)))
    (next : id = UInt64.ofNat (ids.length + 1)) :
    ids ++ [id] = (List.range (ids ++ [id]).length).map
      (fun index => UInt64.ofNat (index + 1)) := by
  rw [List.length_append, List.length_singleton, List.range_succ, List.map_append,
    List.map_singleton, ← numbered, next]

theorem sentIds_append (first second : List (Effect Function Object Handler)) :
    sentIds (first ++ second) = sentIds first ++ sentIds second :=
  List.filterMap_append

section Behind

variable (more : List (Effect Function Object Handler)) {id : UInt64} {handler : Handler}

theorem Serves.known_behind (serves : Serves log answered client)
    (member : Effect.registered id handler ∈ log) : id ∈ sentIds (log ++ more) := by
  rw [sentIds_append]
  exact List.mem_append_left _ (serves.known id handler member)

theorem Serves.ordered_behind (serves : Serves log answered client)
    (member : Effect.registered id handler ∈ log) :
    ∃ function, [Effect.registered id handler, .sent id function] <:+: log ++ more := by
  obtain ⟨function, inside⟩ := serves.ordered id handler member
  exact ⟨function, inside.trans (List.prefix_append _ _).isInfix⟩

theorem Serves.answeredSent_behind (serves : Serves log answered client)
    (member : id ∈ answered) : id ∈ sentIds (log ++ more) := by
  rw [sentIds_append]
  exact List.mem_append_left _ (serves.answeredSent id member)

end Behind

theorem Serves.append {more : List (Effect Function Object Handler)} {current : UInt64}
    (serves : Serves log answered client)
    (silent : ∀ id handler, Effect.registered id handler ∉ more)
    (counted : current = UInt64.ofNat (sentIds (log ++ more)).length)
    (numbered : sentIds (log ++ more) =
      (List.range (sentIds (log ++ more)).length).map (fun index => UInt64.ofNat (index + 1))) :
    Serves (log ++ more) answered { client with currentQueryId := current } := by
  have earlier {id : UInt64} {handler : Handler}
      (member : Effect.registered id handler ∈ log ++ more) : Effect.registered id handler ∈ log :=
    (List.mem_append.mp member).resolve_right (silent id handler)
  constructor
  · exact counted
  · exact numbered
  · intro id handler member
    exact serves.known_behind more (earlier member)
  · intro id handler
    rw [List.mem_append, or_iff_left (silent id handler)]
    exact serves.kept id handler
  · intro id handler member
    exact serves.ordered_behind more (earlier member)
  · intro id member
    exact serves.answeredSent_behind more member

theorem Serves.sendUnhandled (serves : Serves log answered client) (function : Function) :
    Serves (log ++ [Effect.sent client.nextQueryId function]) answered
      { client with currentQueryId := client.nextQueryId } := by
  have ids : sentIds (log ++ [Effect.sent client.nextQueryId function]) =
      sentIds log ++ [client.nextQueryId] := sentIds_append _ _
  apply serves.append
  · intro id handler member
    cases List.mem_singleton.mp member
  · rw [ids, List.length_append]
    exact serves.nextQueryId
  · rw [ids]
    exact numbered_snoc serves.numbered serves.nextQueryId

theorem Serves.sendHandled (serves : Serves log answered client) (function : Function)
    (handler : Handler) (few : (sentIds log).length + 1 < 2 ^ 64) :
    Serves
      (log ++ [Effect.registered client.nextQueryId handler, .sent client.nextQueryId function])
      answered
      { currentQueryId := client.nextQueryId
        handlers := FiniteMap.emplace client.handlers client.nextQueryId handler } := by
  have ids : sentIds (log ++ [Effect.registered client.nextQueryId handler,
      .sent client.nextQueryId function]) = sentIds log ++ [client.nextQueryId] :=
    sentIds_append _ _
  have registered : ∀ id other, Effect.registered id other ∈ log ++
      [Effect.registered client.nextQueryId handler, .sent client.nextQueryId function] ↔
        Effect.registered id other ∈ log ∨ id = client.nextQueryId ∧ other = handler := by
    intro id other
    simp
  have fresh := serves.fresh few
  have unanswered : client.nextQueryId ∉ answered :=
    fun member => fresh (serves.answeredSent _ member)
  have absent : client.handlers client.nextQueryId = none := by
    by_contra present
    obtain ⟨other, found⟩ := Option.ne_none_iff_exists'.mp present
    exact fresh (serves.known _ other ((serves.kept _ other).mp found).1)
  constructor
  · rw [ids, List.length_append]
    exact serves.nextQueryId
  · rw [ids]
    exact numbered_snoc serves.numbered serves.nextQueryId
  · intro id other member
    rcases (registered id other).mp member with earlier | ⟨rfl, _⟩
    · exact serves.known_behind _ earlier
    · rw [ids]
      exact List.mem_append_right _ (List.mem_singleton.mpr rfl)
  · intro id other
    rw [registered]
    dsimp only
    by_cases same : id = client.nextQueryId
    · subst same
      rw [FiniteMap.emplace_absent handler absent, Option.some.injEq]
      constructor
      · intro named
        exact ⟨.inr ⟨rfl, named.symm⟩, unanswered⟩
      · rintro ⟨earlier | ⟨_, named⟩, _⟩
        · exact absurd (serves.known _ other earlier) fresh
        · exact named.symm
    · rw [FiniteMap.emplace_of_ne _ _ same, serves.kept id other]
      simp only [same, false_and, or_false]
  · intro id other member
    rcases (registered id other).mp member with earlier | ⟨rfl, rfl⟩
    · exact serves.ordered_behind _ earlier
    · exact ⟨function, (List.suffix_append _ _).isInfix⟩
  · intro id member
    exact serves.answeredSent_behind _ member

theorem Serves.sendQuery (serves : Serves log answered client)
    {query : Query Function Handler} {effects : List (Effect Function Object Handler)}
    {last : Client Handler} (sends : client.sendQuery query = (effects, last))
    (few : (sentIds log).length + 1 < 2 ^ 64) : Serves (log ++ effects) answered last := by
  unfold Client.sendQuery at sends
  cases handled : query.handler with
  | none =>
      rw [handled] at sends
      cases sends
      exact serves.sendUnhandled query.function
  | some handler =>
      rw [handled] at sends
      cases sends
      exact serves.sendHandled query.function handler few

theorem sentIds_sendQuery {client last : Client Handler} {query : Query Function Handler}
    {effects : List (Effect Function Object Handler)}
    (sends : client.sendQuery query = (effects, last)) :
    sentIds effects = [client.nextQueryId] := by
  unfold Client.sendQuery at sends
  cases handled : query.handler <;> rw [handled] at sends <;> cases sends <;> rfl

theorem sendQueries_cons {query : Query Function Handler} {rest : List (Query Function Handler)}
    {effects : List (Effect Function Object Handler)} {last : Client Handler}
    (sends : client.sendQueries (query :: rest) = (effects, last)) :
    ∃ (first : List (Effect Function Object Handler)) (between : Client Handler)
      (later : List (Effect Function Object Handler)),
      client.sendQuery query = (first, between) ∧ between.sendQueries rest = (later, last) ∧
        effects = first ++ later := by
  unfold Client.sendQueries at sends
  obtain ⟨rfl, rfl⟩ := Prod.mk.inj sends
  exact ⟨_, _, _, rfl, rfl, rfl⟩

theorem Serves.sendQueries (serves : Serves log answered client)
    {queries : List (Query Function Handler)} {effects : List (Effect Function Object Handler)}
    {last : Client Handler} (sends : client.sendQueries queries = (effects, last))
    (few : (sentIds (log ++ effects)).length < 2 ^ 64) :
    Serves (log ++ effects) answered last := by
  induction queries generalizing log client effects with
  | nil =>
      cases sends
      rw [List.append_nil]
      exact serves
  | cons query rest ih =>
      obtain ⟨first, between, later, one, more, rfl⟩ := sendQueries_cons sends
      rw [← List.append_assoc] at few ⊢
      have room : (sentIds log).length + 1 < 2 ^ 64 := by
        rw [sentIds_append, sentIds_append, sentIds_sendQuery one, List.length_append,
          List.length_append, List.length_singleton] at few
        omega
      exact ih (serves.sendQuery one room) more few

theorem Serves.ran (serves : Serves log answered client) (id : UInt64) (handler : Handler)
    (object : Object) : Serves (log ++ [Effect.ran id handler object]) answered client := by
  have ids : sentIds (log ++ [Effect.ran id handler object]) = sentIds log :=
    (sentIds_append log _).trans (List.append_nil _)
  apply serves.append
  · intro key other member
    cases List.mem_singleton.mp member
  · rw [ids]
    exact serves.current
  · rw [ids]
    exact serves.numbered

theorem Serves.erase (serves : Serves log answered client) {id : UInt64}
    (sent : id ∈ sentIds log) :
    Serves log (answered ++ [id])
      { client with handlers := FiniteMap.erase client.handlers id } := by
  constructor
  · exact serves.current
  · exact serves.numbered
  · exact serves.known
  · intro key other
    dsimp only
    rw [List.mem_append, List.mem_singleton]
    by_cases same : key = id
    · subst same
      rw [FiniteMap.erase_self]
      constructor
      · nofun
      · intro both
        obtain ⟨_, unanswered⟩ := both
        exact absurd (.inr rfl) unanswered
    · rw [FiniteMap.erase_of_ne _ same, serves.kept key other]
      simp only [same, or_false]
  · exact serves.ordered
  · intro key member
    rcases List.mem_append.mp member with earlier | last
    · exact serves.answeredSent key earlier
    · rw [List.mem_singleton.mp last]
      exact sent

theorem Serves.unhandled (serves : Serves log answered client) {id : UInt64}
    (sent : id ∈ sentIds log) (absent : client.handlers id = none) :
    Serves log (answered ++ [id]) client := by
  have erased := serves.erase sent
  rw [FiniteMap.erase_absent absent] at erased
  exact erased

theorem Serves.processResponse (serves : Serves log answered client) {response : Response Object}
    {nested : List (Query Function Handler)} {effects : List (Effect Function Object Handler)}
    {last : Client Handler} (processed : client.processResponse response nested = (effects, last))
    (sent : ∀ id ∈ Label.answers (.receive response nested), id ∈ sentIds log)
    (few : (sentIds (log ++ effects)).length < 2 ^ 64) :
    Serves (log ++ effects) (answered ++ (Label.answers (.receive response nested)).toList)
      last := by
  obtain ⟨id, object⟩ := response
  cases object with
  | none =>
      cases processed
      simp only [Label.answers, Option.toList_none, List.append_nil]
      exact serves
  | some object =>
      simp only [Client.processResponse, Label.answers] at sent processed ⊢
      by_cases update : id = 0
      · rw [if_pos update] at processed
        rw [if_pos update, Option.toList_none, List.append_nil]
        exact serves.sendQueries processed few
      · rw [if_neg update] at processed sent
        rw [if_neg update, Option.toList_some]
        have wasSent := sent id rfl
        cases found : client.handlers id with
        | none =>
            simp only [found] at processed
            cases processed
            rw [List.append_nil]
            exact serves.unhandled wasSent found
        | some handler =>
            cases sends : (client.sendQueries nested :
                List (Effect Function Object Handler) × _) with
            | mk nestedEffects between =>
                simp only [found, sends] at processed
                cases processed
                rw [List.append_cons] at few ⊢
                apply ((serves.ran id handler object).sendQueries sends few).erase
                rw [sentIds_append, sentIds_append]
                exact List.mem_append_left _ (List.mem_append_left _ wasSent)

end Invariant

section OneStep

variable {client last : Client Handler} {effects : List (Effect Function Object Handler)}

theorem ranIds_append (first second : List (Effect Function Object Handler)) :
    ranIds (first ++ second) = ranIds first ++ ranIds second :=
  List.filterMap_append

theorem sendQuery_handlers {query : Query Function Handler}
    (sends : client.sendQuery query = (effects, last)) {id : UInt64} {handler : Handler}
    (present : client.handlers id = some handler) : last.handlers id = some handler := by
  unfold Client.sendQuery at sends
  cases handled : query.handler with
  | none =>
      rw [handled] at sends
      cases sends
      exact present
  | some added =>
      rw [handled] at sends
      cases sends
      dsimp only
      by_cases same : id = client.nextQueryId
      · rw [same] at present ⊢
        simp [FiniteMap.emplace, present]
      · rw [FiniteMap.emplace_of_ne _ _ same]
        exact present

theorem ranIds_sendQuery {query : Query Function Handler}
    (sends : client.sendQuery query = (effects, last)) : ranIds effects = [] := by
  unfold Client.sendQuery at sends
  cases handled : query.handler <;> rw [handled] at sends <;> cases sends <;> rfl

theorem sentFunctions_sendQuery {query : Query Function Handler}
    (sends : client.sendQuery query = (effects, last)) :
    sentFunctions effects = [query.function] := by
  unfold Client.sendQuery at sends
  cases handled : query.handler <;> rw [handled] at sends <;> cases sends <;> rfl

theorem sentFunctions_sendQueries {queries : List (Query Function Handler)}
    (sends : client.sendQueries queries = (effects, last)) :
    sentFunctions effects = queries.map Query.function := by
  induction queries generalizing client effects with
  | nil =>
      cases sends
      rfl
  | cons query rest ih =>
      obtain ⟨first, between, later, one, more, rfl⟩ := sendQueries_cons sends
      unfold sentFunctions
      rw [List.filterMap_append, ← sentFunctions, sentFunctions_sendQuery one,
        ← sentFunctions, ih more]
      rfl

theorem sendQueries_keeps {queries : List (Query Function Handler)}
    (sends : client.sendQueries queries = (effects, last)) :
    ranIds effects = [] ∧
      ∀ id handler, client.handlers id = some handler → last.handlers id = some handler := by
  induction queries generalizing client effects with
  | nil =>
      cases sends
      exact ⟨rfl, fun _ _ present => present⟩
  | cons query rest ih =>
      obtain ⟨first, between, later, one, more, rfl⟩ := sendQueries_cons sends
      obtain ⟨laterRuns, laterKeeps⟩ := ih more
      constructor
      · rw [ranIds_append, ranIds_sendQuery one, laterRuns, List.append_nil]
      · intro id handler present
        exact laterKeeps id handler (sendQuery_handlers one present)

theorem sendQuery_added {query : Query Function Handler}
    (sends : client.sendQuery query = (effects, last)) {id : UInt64} {handler : Handler}
    (present : last.handlers id = some handler) :
    client.handlers id = some handler ∨ id = client.nextQueryId ∧ query.handler = some handler := by
  unfold Client.sendQuery at sends
  cases handled : query.handler with
  | none =>
      rw [handled] at sends
      cases sends
      exact .inl present
  | some added =>
      rw [handled] at sends
      cases sends
      dsimp only at present
      by_cases same : id = client.nextQueryId
      · subst same
        cases occupied : client.handlers client.nextQueryId with
        | none =>
            rw [FiniteMap.emplace_absent _ occupied] at present
            exact .inr ⟨rfl, present⟩
        | some other =>
            simp only [FiniteMap.emplace, occupied, Option.isSome_some, if_true] at present
            exact .inl present
      · rw [FiniteMap.emplace_of_ne _ _ same] at present
        exact .inl present

theorem sendQuery_currentQueryId {query : Query Function Handler}
    (sends : client.sendQuery query = (effects, last)) :
    last.currentQueryId = client.nextQueryId := by
  unfold Client.sendQuery at sends
  cases handled : query.handler <;> rw [handled] at sends <;> cases sends <;> rfl

/-- The queries that are sent together are numbered on from the last one. -/
theorem sendQueries_ids {queries : List (Query Function Handler)} {count : Nat}
    (counted : client.currentQueryId = UInt64.ofNat count)
    (sends : client.sendQueries queries = (effects, last)) :
    last.currentQueryId = UInt64.ofNat (count + (sentIds effects).length) ∧
      (∀ id ∈ sentIds effects, ∃ index, count < index ∧
        index ≤ count + (sentIds effects).length ∧ id = UInt64.ofNat index) ∧
      ∀ id handler, last.handlers id = some handler →
        client.handlers id = some handler ∨ id ∈ sentIds effects := by
  induction queries generalizing client effects count with
  | nil =>
      cases sends
      exact ⟨counted, nofun, fun _ _ present => .inl present⟩
  | cons query rest ih =>
      obtain ⟨first, between, later, one, more, rfl⟩ := sendQueries_cons sends
      have next : client.nextQueryId = UInt64.ofNat (count + 1) := by
        unfold Client.nextQueryId
        rw [counted, UInt64.ofNat_add]
        rfl
      have current := (sendQuery_currentQueryId one).trans next
      obtain ⟨laterCurrent, laterIds, laterKeys⟩ := ih current more
      rw [sentIds_append, sentIds_sendQuery one, List.length_append,
        List.length_singleton]
      refine ⟨?_, ?_, ?_⟩
      · rw [laterCurrent, Nat.add_assoc]
      · intro id member
        rcases List.mem_append.mp member with own | inside
        · refine ⟨count + 1, by omega, by omega, ?_⟩
          rw [List.mem_singleton.mp own, next]
        · obtain ⟨index, above, below, same⟩ := laterIds id inside
          exact ⟨index, by omega, by omega, same⟩
      · intro id handler present
        rcases laterKeys id handler present with earlier | inside
        · rcases sendQuery_added one earlier with before | ⟨rfl, _⟩
          · exact .inl before
          · exact .inr (List.mem_append_left _ (List.mem_singleton.mpr rfl))
        · exact .inr (List.mem_append_right _ inside)

/-- A response runs the handler of its id, or it runs nothing and keeps every
handler. -/
theorem processResponse_cases {response : Response Object} {nested : List (Query Function Handler)}
    (processed : client.processResponse response nested = (effects, last)) :
    (∃ id object handler, response = ⟨id, some object⟩ ∧ id ≠ 0 ∧
      client.handlers id = some handler ∧
      ∃ sends, effects = .ran id handler object :: sends ∧ ranIds sends = []) ∨
    ranIds effects = [] ∧
      (∀ id handler, client.handlers id = some handler → last.handlers id = some handler) ∧
      ∀ id ∈ Label.answers (.receive response nested), client.handlers id = none := by
  obtain ⟨id, object⟩ := response
  cases object with
  | none =>
      cases processed
      exact .inr ⟨rfl, fun _ _ present => present, nofun⟩
  | some object =>
      simp only [Client.processResponse] at processed
      by_cases update : id = 0
      · rw [if_pos update] at processed
        obtain ⟨runs, keeps⟩ := sendQueries_keeps processed
        refine .inr ⟨runs, keeps, ?_⟩
        simp only [Label.answers, if_pos update]
        exact nofun
      · rw [if_neg update] at processed
        cases found : client.handlers id with
        | none =>
            simp only [found] at processed
            cases processed
            refine .inr ⟨rfl, fun _ _ present => present, ?_⟩
            simp only [Label.answers, if_neg update]
            rintro _ ⟨rfl⟩
            exact found
        | some handler =>
            cases sends : (client.sendQueries nested :
                List (Effect Function Object Handler) × _) with
            | mk nestedEffects between =>
                simp only [found, sends] at processed
                cases processed
                exact .inl ⟨id, object, handler, rfl, update, found, nestedEffects, rfl,
                  (sendQueries_keeps sends).1⟩

theorem ran_mem_ranIds {log : List (Effect Function Object Handler)} {id : UInt64}
    {handler : Handler} {object : Object} (member : .ran id handler object ∈ log) :
    id ∈ ranIds log :=
  List.mem_filterMap.mpr ⟨_, member, rfl⟩

end OneStep

/-! ### Whole runs -/

/-- A transition runs a handler only with the object of the response that has
its id, and without such a response every handler stays. -/
structure RunsOwn (before : List (Transition Function Object Handler))
    (transition : Transition Function Object Handler) : Prop where
  own : ∀ id handler object, .ran id handler object ∈ transition.output →
    (∃ nested, transition.label = .receive ⟨id, some object⟩ nested) ∧ id ≠ 0 ∧
      .registered id handler ∈ history before
  answered : ∀ id object nested handler, transition.label = .receive ⟨id, some object⟩ nested →
    id ≠ 0 → transition.source.handlers id = some handler →
    .ran id handler object ∈ transition.output
  kept : transition.label.answers = none → ranIds transition.output = [] ∧
    ∀ id handler, transition.source.handlers id = some handler →
      transition.target.handlers id = some handler

structure AnsweredOnce (taken : List (Transition Function Object Handler))
    (client : Client Handler) : Prop where
  distinct : (sentIds (history taken)).Nodup
  nonzero : 0 ∉ sentIds (history taken)
  ranOnce : (ranIds (history taken)).Nodup
  ranOwn : AdmittedAlong RunsOwn taken
  registeredFirst : ∀ id handler, .registered id handler ∈ history taken →
    ∃ function, [.registered id handler, .sent id function] <:+: history taken
  registered : ∀ id handler, client.handlers id = some handler ↔
    .registered id handler ∈ history taken ∧ id ∉ answeredIds taken

section WholeRuns

variable {taken : List (Transition Function Object Handler)} {client : Client Handler}

theorem history_snoc (taken : List (Transition Function Object Handler))
    (transition : Transition Function Object Handler) :
    history (taken ++ [transition]) = history taken ++ transition.output := by
  rw [LabelledMachine.history_append, LabelledMachine.history_cons, LabelledMachine.history_nil,
    List.append_nil]

theorem answeredIds_snoc (taken : List (Transition Function Object Handler))
    (transition : Transition Function Object Handler) :
    answeredIds (taken ++ [transition]) =
      answeredIds taken ++ transition.label.answers.toList := by
  unfold answeredIds
  rw [List.filterMap_append]
  cases answers : transition.label.answers <;> simp [answers]

theorem run_serves (run : Run taken client) (honest : AdmittedAlong Honest taken)
    (few : (sentIds (history taken)).length < 2 ^ 64) :
    Serves (history taken) (answeredIds taken) client := by
  revert few
  apply LabelledMachine.Run.invariantAlong _ _ run honest
  · intro _
    exact serves_initial
  · intro taken source label output target _ serves fired admitted few
    rw [history_snoc] at few ⊢
    rw [answeredIds_snoc]
    have fewBefore : (sentIds (history taken)).length < 2 ^ 64 := by
      rw [sentIds_append, List.length_append] at few
      omega
    cases label with
    | send query =>
        have sends := Option.some.inj fired
        rw [Label.answers, Option.toList_none, List.append_nil]
        apply (serves fewBefore).sendQuery sends
        rw [sentIds_append, List.length_append, sentIds_sendQuery sends] at few
        exact few
    | receive response nested =>
        exact (serves fewBefore).processResponse (Option.some.inj fired)
          (fun id answers => (admitted id answers).1) few

theorem runsOwn_of_serves {transition : Transition Function Object Handler}
    (serves : Serves (history taken) (answeredIds taken) transition.source)
    (fired : transition.source.step transition.label =
      some (transition.output, transition.target)) : RunsOwn taken transition := by
  obtain ⟨source, label, output, target⟩ := transition
  dsimp only at serves fired
  have silent (nothing : ranIds output = []) (id : UInt64) (handler : Handler)
      (object : Object) : .ran id handler object ∉ output := by
    intro member
    have ran := ran_mem_ranIds member
    rw [nothing] at ran
    cases ran
  cases label with
  | send query =>
      have sends := Option.some.inj fired
      have nothing := ranIds_sendQuery sends
      refine ⟨fun id handler object member => absurd member (silent nothing id handler object),
        nofun, fun _ => ⟨nothing, fun id handler present => ?_⟩⟩
      exact sendQuery_handlers sends present
  | receive response nested =>
      have processed := Option.some.inj fired
      rcases processResponse_cases processed with
        ⟨id, object, handler, rfl, nonzero, found, sends, rfl, others⟩ | ⟨nothing, keeps, absent⟩
      · refine ⟨?_, ?_, ?_⟩
        · intro other otherHandler otherObject member
          rcases List.mem_cons.mp member with same | later
          · cases same
            exact ⟨⟨nested, rfl⟩, nonzero, ((serves.kept id handler).mp found).1⟩
          · have ran := ran_mem_ranIds later
            rw [others] at ran
            cases ran
        · rintro other otherObject _ otherHandler ⟨rfl⟩ _ present
          cases found.symm.trans present
          exact List.mem_cons_self
        · intro answersNone
          simp only [Label.answers, if_neg nonzero, reduceCtorEq] at answersNone
      · refine ⟨fun id handler object member => absurd member (silent nothing id handler object),
          ?_, fun _ => ⟨nothing, keeps⟩⟩
        rintro id object _ handler ⟨rfl⟩ nonzero present
        have gone := absent id (if_neg nonzero)
        rw [present] at gone
        cases gone

theorem run_ranOnce (run : Run taken client) (honest : AdmittedAlong Honest taken) :
    (ranIds (history taken)).Nodup ∧ ∀ id ∈ ranIds (history taken), id ∈ answeredIds taken := by
  apply LabelledMachine.Run.invariantAlong _ _ run honest
  · exact ⟨List.nodup_nil, nofun⟩
  · intro taken source label output target _ once fired admitted
    rw [history_snoc, answeredIds_snoc, ranIds_append]
    have silent (nothing : ranIds output = []) :
        (ranIds (history taken) ++ ranIds output).Nodup ∧
          ∀ id ∈ ranIds (history taken) ++ ranIds output,
            id ∈ answeredIds taken ++ label.answers.toList := by
      rw [nothing, List.append_nil]
      exact ⟨once.1, fun id member => List.mem_append_left _ (once.2 id member)⟩
    cases label with
    | send query => exact silent (ranIds_sendQuery (Option.some.inj fired))
    | receive response nested =>
        rcases processResponse_cases (Option.some.inj fired) with
          ⟨id, object, handler, rfl, nonzero, found, sends, rfl, others⟩ | ⟨nothing, _, _⟩
        · have answers : Label.answers (.receive ⟨id, some object⟩ nested) = some id :=
            if_neg nonzero
          have ran : ranIds (.ran id handler object :: sends) = [id] :=
            congrArg (List.cons id) others
          have unanswered := (admitted id answers).2
          rw [ran, answers, Option.toList_some]
          constructor
          · rw [List.nodup_append]
            refine ⟨once.1, List.nodup_singleton id, ?_⟩
            rintro earlier member _ last rfl
            rw [List.mem_singleton] at last
            subst last
            exact unanswered (once.2 _ member)
          · intro other member
            rcases List.mem_append.mp member with earlier | last
            · exact List.mem_append_left _ (once.2 other earlier)
            · exact List.mem_append_right _ last
        · exact silent nothing

/-- Every query gets its own answer, once. -/
theorem every_query_answered_once (run : Run taken client) (honest : AdmittedAlong Honest taken)
    (few : (sentIds (history taken)).length < 2 ^ 64) : AnsweredOnce taken client := by
  have serves := run_serves run honest few
  constructor
  · exact serves.nodup few
  · exact serves.nonzero few
  · exact (run_ranOnce run honest).1
  · intro before transition after shape
    subst shape
    obtain ⟨reached, fired⟩ := run.at_split
    apply runsOwn_of_serves _ fired
    apply run_serves reached honest.earlier
    rw [LabelledMachine.history_append, sentIds_append, List.length_append] at few
    omega
  · exact serves.ordered
  · exact serves.kept

end WholeRuns

/-- A handler that sends two further queries while it runs, between an update
and an empty response. -/
def sampleNested : List (Label String Nat String) :=
  [.send ⟨"getMe", some "first"⟩, .receive ⟨0, some 7⟩ [⟨"setProxy", none⟩],
    .send ⟨"getUser", some "second"⟩, .receive ⟨0, none⟩ [],
    .receive ⟨1, some 8⟩ [⟨"searchContacts", some "third"⟩, ⟨"getUser", some "fourth"⟩],
    .receive ⟨4, some 9⟩ []]

instance (before : List (Transition Function Object Handler))
    (transition : Transition Function Object Handler) : Decidable (Honest before transition) :=
  decidable_of_iff (transition.label.answers.all (fun id =>
      decide (id ∈ sentIds (history before) ∧ id ∉ answeredIds before)) = true) (by
    unfold Honest
    cases transition.label.answers <;> simp)

theorem nested_queries_answered_once :
    ∃ (taken : List (Transition String Nat String)) (client : Client String), Run taken client ∧
      AdmittedAlong Honest taken ∧ ranIds (history taken) = [1, 4] ∧
      client.handlers 3 = some "second" ∧ client.handlers 5 = some "fourth" ∧
      AnsweredOnce taken client := by
  have replayed : LabelledMachine.replay Client.step Client.initial sampleNested =
      some (_, _) := rfl
  have run := LabelledMachine.Run.of_replay replayed
  have honest := LabelledMachine.replay_admittedAlong Honest replayed (by decide)
  exact ⟨_, _, run, honest, by decide, by decide, by decide,
    every_query_answered_once run honest (by decide)⟩

end Tg2Sip.Tg
