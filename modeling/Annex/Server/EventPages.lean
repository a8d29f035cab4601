import Annex.Foundation.SqlAnswer
import Annex.Observe.EventQuery

namespace Annex.Server

open Db Observe Sql

/-! `GET /api/public/events`. -/

/-- Query parameters of the request. -/
structure EventsQuery where
  domain : Option String
  eventType : Option String
  entityType : Option String
  entityId : Option String
  since : Option String
  limit : Option Int
deriving DecidableEq, Repr

structure EventsResponse where
  events : List PublicEvent
  count : Nat
deriving DecidableEq, Repr

/-- The status and the `error` text the request is refused with. -/
inductive EventsRefusal where
  | badRequest (error : String)
  | internalServerError (error : String)
deriving DecidableEq, Repr

/-- The filter of the request. -/
def EventsQuery.filter (params : EventsQuery) : Except EventsRefusal EventFilter :=
  let limit := max 1 (min 1000 (params.limit.getD 100))
  let filter := fun domain : Option EventDomain =>
    ⟨domain, params.eventType, params.entityType, params.entityId, params.since, some limit⟩
  match params.domain with
  | none => .ok (filter none)
  | some text =>
      match EventDomain.fromStr text with
      | some domain => .ok (filter (some domain))
      | none => .error (.badRequest ("invalid domain: " ++ text ++
          ". Expected one of: IDENTITY, PRESENCE, FEDERATION, AGENT, MODERATION"))

def getEventsHandler {Memory : Type} (serverId : Nat) (params : EventsQuery) :
    Sql Database Memory EventsRefusal EventsResponse := do
  let filter ← ofExcept params.filter
  connect fun error => .internalServerError error.text
  let events ← mapErr (fun error => .internalServerError ("observe database error: " ++ error.text))
    (queryEvents serverId filter)
  pure ⟨events, events.length⟩

/-- The limit of a filter of a request lets at least one event through. -/
theorem EventsQuery.positive_of_filter {params : EventsQuery} {filter : EventFilter}
    (made : params.filter = .ok filter) : 1 ≤ filter.pageLimit ∧ filter.pageLimit ≤ 1000 := by
  have clamped : filter.limit = some (max 1 (min 1000 (params.limit.getD 100))) := by
    unfold EventsQuery.filter at made
    split at made
    · cases made
      rfl
    · split at made
      · cases made
        rfl
      · cases made
  unfold EventFilter.pageLimit
  rw [clamped, Option.getD_some]
  omega

/-- The handler answers with what the query of its filter returns. -/
theorem events_of_getEventsHandler {Memory : Type} (serverId : Nat) (params : EventsQuery)
    {session after : Session Database Memory} {response : EventsResponse}
    (answered : getEventsHandler serverId params session = (.ok response, after)) :
    ∃ filter, params.filter = .ok filter ∧
      response.events = eventPage serverId filter session.database.publicEventLog ∧
      response.count = response.events.length := by
  have listed (filter : EventFilter) : Looks (mapErr
      (fun error => EventsRefusal.internalServerError ("observe database error: " ++ error.text))
      (queryEvents serverId filter : Sql Database Memory DbError (List PublicEvent))) :=
    looks_mapErr (looks_query _ _)
  have reads (filter : EventFilter) := looks_bind
    (looks_connect fun error => EventsRefusal.internalServerError error.text) fun _ =>
      looks_bind (listed filter) fun events => looks_pure (EventsResponse.mk events events.length)
  have read := ((looks_bind (looks_ofExcept params.filter) reads).answers answered).1
  rcases (answers_bind (looks_ofExcept _)).mp read with ⟨filter, made, read⟩
  rcases (answers_bind (looks_connect _)).mp read with ⟨_, _, read⟩
  rcases (answers_bind (listed filter)).mp read with ⟨events, found, read⟩
  rw [queryEvents, answers_mapErr (looks_query _ _), answers_query] at found
  rw [answers_pure] at read
  rw [← read, ← Except.ok.inj found]
  exact ⟨filter, answers_ofExcept.mp made, rfl, rfl⟩

end Annex.Server
