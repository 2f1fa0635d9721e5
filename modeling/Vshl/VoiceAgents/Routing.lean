/-
  VoiceAgents/Routing.lean --- an `EventRouter` with several `VoiceAgentEventsHandler`s as
  its filters.

  An `IEventFilter` is to return true if it consumes the event and false otherwise, and the
  router ends at the first filter that returns true.  A handler returns true for an event it
  does not have, and the number of observers for one it has.
-/
import Vshl.VoiceAgents.Delivery

set_option autoImplicit false

namespace Vshl.VoiceAgents

open Vshl.Foundation
open Vshl.Interfaces
open Vshl.Utilities

/-! ## Filters -/

/-- A handler, and the agents whose events it has. -/
structure AgentsFilter where
  handler : VoiceAgentEventsHandler
  registered : String → Prop
  owns : handler.Owns registered

namespace AgentsFilter

/-- A new handler has no agents. -/
def create : AgentsFilter := ⟨.create, _, VoiceAgentEventsHandler.create_owns⟩

/-- The events of one more agent. -/
def add (filter : AgentsFilter) {env : Environment} (henv : env.afbApi = true) (calls : Trace)
    (voiceAgentId : String) : AgentsFilter :=
  ⟨_, _, filter.owns.createVshlEvents henv calls voiceAgentId⟩

/-- The events of one agent less. -/
def remove (filter : AgentsFilter) (voiceAgentId : String) : AgentsFilter :=
  ⟨_, _, filter.owns.removeVshlEvents voiceAgentId⟩

/-- The filter has the event, as `onIncomingEvent` finds out. -/
def Holds (filter : AgentsFilter) (eventName voiceAgentId : String) : Prop :=
  createEventNameWithVAId eventName voiceAgentId ∈ filter.handler.mEventsMap

/-- The event object is this one. -/
def HoldsEvent (filter : AgentsFilter) (eventName voiceAgentId : String) (event : EventPtr) :
    Prop :=
  filter.handler.mEventsMap.find (createEventNameWithVAId eventName voiceAgentId) =
    some (some event)

end AgentsFilter

/-- No agent is registered with two filters. -/
def DisjointFilters (filters : FilterPtr → AgentsFilter) (router : EventRouter) : Prop :=
  ∀ f ∈ router.mEventFilters, ∀ g ∈ router.mEventFilters, ∀ id,
    (filters f).registered id → (filters g).registered id → f = g

/-- Then no event is with two filters, whatever its name is. -/
theorem DisjointFilters.holder_unique {filters : FilterPtr → AgentsFilter}
    {router : EventRouter} (h : DisjointFilters filters router) {f g : FilterPtr}
    (hf : f ∈ router.mEventFilters) (hg : g ∈ router.mEventFilters)
    {eventName voiceAgentId : String} (hholds : (filters f).Holds eventName voiceAgentId)
    (hholds' : (filters g).Holds eventName voiceAgentId) : f = g := by
  obtain ⟨id, hid, hof⟩ := ((filters f).owns _).mp hholds
  obtain ⟨id', hid', hof'⟩ := ((filters g).owns _).mp hholds'
  obtain rfl := hof.id_unique hof'
  exact h f hf g hg id hid hid'

/-! ## Offering an event -/

section

variable {env : Environment} {filters : FilterPtr → AgentsFilter} {calls : Trace}
  {eventName voiceAgentId payload : String}

/-- What one filter answers. -/
def answer (env : Environment) (filter : AgentsFilter) (calls : Trace)
    (eventName voiceAgentId payload : String) : Except Fault Bool × Trace :=
  filter.handler.onIncomingEvent env calls eventName voiceAgentId payload

theorem answer_of_not_holds {filter : AgentsFilter}
    (h : ¬ filter.Holds eventName voiceAgentId) :
    answer env filter calls eventName voiceAgentId payload = (.ok true, calls) := by
  have hnone := UnorderedMap.find_eq_none.mpr h
  simp only [answer, VoiceAgentEventsHandler.onIncomingEvent, hnone]

theorem answer_of_holdsEvent {filter : AgentsFilter} {event : EventPtr}
    (h : filter.HoldsEvent eventName voiceAgentId event) :
    answer env filter calls eventName voiceAgentId payload =
      (.ok (env.publishEvent calls event (jsonObjectNewString payload) != 0),
        calls ++ [.publishEvent event (jsonObjectNewString payload)
          (env.publishEvent calls event (jsonObjectNewString payload))]) := by
  have hfind : filter.handler.mEventsMap.find
      (createEventNameWithVAId eventName voiceAgentId) = some (some event) := h
  simp only [answer, VoiceAgentEventsHandler.onIncomingEvent, hfind]
  rfl

/-- The loop of the router over these filters. -/
def offerAll (env : Environment) (filters : FilterPtr → AgentsFilter)
    (eventName voiceAgentId payload : String) (order : List FilterPtr) (calls : Trace) :
    Except Fault Bool × Trace :=
  EventRouter.offer (fun filter calls => answer env (filters filter) calls)
    eventName voiceAgentId payload order calls

/-- A filter that does not have the event ends the loop. -/
theorem offerAll_of_not_holds {first : FilterPtr} {rest : List FilterPtr}
    (h : ¬ (filters first).Holds eventName voiceAgentId) :
    offerAll env filters eventName voiceAgentId payload (first :: rest) calls =
      (.ok true, calls) := by
  simp only [offerAll, EventRouter.offer, answer_of_not_holds h]

theorem offerAll_calls_of_not_holds {order : List FilterPtr}
    (h : ∀ f ∈ order, ¬ (filters f).Holds eventName voiceAgentId) :
    (offerAll env filters eventName voiceAgentId payload order calls).2 = calls := by
  cases order with
  | nil => rfl
  | cons first rest => rw [offerAll_of_not_holds (h first List.mem_cons_self)]

/-- A holder that comes first publishes, and nobody after it does. -/
theorem offerAll_of_holdsEvent {first : FilterPtr} {rest : List FilterPtr} {event : EventPtr}
    (hfirst : (filters first).HoldsEvent eventName voiceAgentId event)
    (hrest : ∀ f ∈ rest, ¬ (filters f).Holds eventName voiceAgentId) :
    (offerAll env filters eventName voiceAgentId payload (first :: rest) calls).2 =
      calls ++ [.publishEvent event (jsonObjectNewString payload)
        (env.publishEvent calls event (jsonObjectNewString payload))] := by
  simp only [offerAll, EventRouter.offer, answer_of_holdsEvent hfirst]
  cases env.publishEvent calls event (jsonObjectNewString payload) != 0 with
  | false => exact offerAll_calls_of_not_holds hrest
  | true => rfl

end

/-! ## What a router should do, and when it does -/

section

variable (env : Environment) (filters : FilterPtr → AgentsFilter) (router : EventRouter)
  (calls : Trace) (eventName voiceAgentId payload : String)

/-- An incoming event, through a router with these filters. -/
def routeToFilters : Except Fault Bool × Trace :=
  router.handleIncomingEvent (fun filter calls => answer env (filters filter) calls)
    calls eventName voiceAgentId payload

/-- The pushes of an incoming event. -/
def routedPushes : List (EventPtr × Json) :=
  pushes ((routeToFilters env filters router calls eventName voiceAgentId payload).2.drop
    calls.length)

/-- If a filter has the event, the payload is pushed once, on the filter's event object. -/
def Delivered : Prop :=
  ∀ f ∈ router.mEventFilters, (filters f).Holds eventName voiceAgentId →
    ∃ event, (filters f).HoldsEvent eventName voiceAgentId event ∧
      routedPushes env filters router calls eventName voiceAgentId payload =
        [(event, jsonObjectNewString payload)]

/-- The rule of `IEventFilter`: true if it consumes the event, false otherwise. -/
def FollowsRule (filter : AgentsFilter) : Prop :=
  (answer env filter calls eventName voiceAgentId payload).1 = .ok true ↔
    filter.Holds eventName voiceAgentId

/-- A filter that has the event comes first in the router's order. -/
def HolderFirst : Prop :=
  ∀ f ∈ router.mEventFilters, (filters f).Holds eventName voiceAgentId →
    router.mEventFilters.toList.head? = some f ∧
      ∃ event, (filters f).HoldsEvent eventName voiceAgentId event

/-- The filter has the event, and somebody observes it. -/
def HoldsObserved (filter : AgentsFilter) : Prop :=
  ∃ event, filter.HoldsEvent eventName voiceAgentId event ∧
    env.publishEvent calls event (jsonObjectNewString payload) ≠ 0

end

section

variable {env : Environment} {filters : FilterPtr → AgentsFilter} {router : EventRouter}
  {calls : Trace} {eventName voiceAgentId payload : String}

theorem routedPushes_eq :
    routedPushes env filters router calls eventName voiceAgentId payload =
      pushes ((offerAll env filters eventName voiceAgentId payload router.mEventFilters.toList
        calls).2.drop calls.length) := rfl

theorem followsRule_iff (env : Environment) (calls : Trace)
    (eventName voiceAgentId payload : String) (filter : AgentsFilter) :
    FollowsRule env calls eventName voiceAgentId payload filter ↔
      HoldsObserved env calls eventName voiceAgentId payload filter := by
  unfold FollowsRule HoldsObserved AgentsFilter.Holds AgentsFilter.HoldsEvent
  rw [UnorderedMap.mem_iff_find]
  simp only [answer, VoiceAgentEventsHandler.onIncomingEvent]
  cases hfind : filter.handler.mEventsMap.find
      (createEventNameWithVAId eventName voiceAgentId) with
  | none => simp
  | some stored =>
      cases stored with
      | none => simp
      | some event => simp [Environment.doPublishEvent]

theorem delivered_iff (h : DisjointFilters filters router) :
    Delivered env filters router calls eventName voiceAgentId payload ↔
      HolderFirst filters router eventName voiceAgentId := by
  constructor
  · intro hdelivered f hf hholds
    obtain ⟨event, hevent, hpushes⟩ := hdelivered f hf hholds
    refine ⟨?_, event, hevent⟩
    cases horder : router.mEventFilters.toList with
    | nil =>
        rw [UnorderedSet.mem_def, horder] at hf
        exact absurd hf (by simp)
    | cons first rest =>
        by_cases hfirst : (filters first).Holds eventName voiceAgentId
        · have hmem : first ∈ router.mEventFilters := by
            rw [UnorderedSet.mem_def, horder]
            exact List.mem_cons_self
          rw [h.holder_unique hmem hf hfirst hholds]
          rfl
        · -- the loop ends before the holder has been asked
          rw [routedPushes_eq, horder, offerAll_of_not_holds hfirst, List.drop_length] at hpushes
          exact absurd hpushes (by simp [pushes])
  · intro hfirst f hf hholds
    obtain ⟨hhead, event, hevent⟩ := hfirst f hf hholds
    obtain ⟨rest, horder⟩ := List.head?_eq_some_iff.mp hhead
    have hrest : ∀ g ∈ rest, ¬ (filters g).Holds eventName voiceAgentId := by
      intro g hg hholds'
      have hmem : g ∈ router.mEventFilters := by
        rw [UnorderedSet.mem_def, horder]
        exact List.mem_cons_of_mem f hg
      have hnodup := router.mEventFilters.nodup
      rw [horder, List.nodup_cons] at hnodup
      rw [h.holder_unique hmem hf hholds' hholds] at hg
      exact hnodup.1 hg
    refine ⟨event, hevent, ?_⟩
    rw [routedPushes_eq, horder, offerAll_of_holdsEvent hevent hrest, List.drop_left]
    rfl

end

/-- The payload is delivered exactly when the filter that has the event comes first, and a
filter follows the rule exactly for an event that it has and somebody observes. -/
theorem routing_iff {filters : FilterPtr → AgentsFilter} {router : EventRouter}
    (h : DisjointFilters filters router) (env : Environment) (calls : Trace)
    (eventName voiceAgentId payload : String) :
    (Delivered env filters router calls eventName voiceAgentId payload ↔
        HolderFirst filters router eventName voiceAgentId) ∧
      ∀ f ∈ router.mEventFilters,
        (FollowsRule env calls eventName voiceAgentId payload (filters f) ↔
          HoldsObserved env calls eventName voiceAgentId payload (filters f)) :=
  ⟨delivered_iff h, fun f _ => followsRule_iff env calls eventName voiceAgentId payload
    (filters f)⟩

/-! ## Two filters -/

/-- The first filter has the agent `VA-001`, the others `VA-002`. -/
def twoFilters (f : FilterPtr) : AgentsFilter :=
  let first := VoiceAgentEventsHandler.create.createVshlEventsForVoiceAgent .obliging [] "VA-001"
  AgentsFilter.create.add (rfl : Environment.obliging.afbApi = true)
    (if f = 0 then [] else first.2) (if f = 0 then "VA-001" else "VA-002")

/-- A router that asks the second filter first. -/
def routerOfTwo : EventRouter := ⟨⟨[1, 0], by decide⟩⟩

theorem twoFilters_disjoint : DisjointFilters twoFilters routerOfTwo := by
  have hone : ∀ f id, (twoFilters f).registered id →
      id = if f = 0 then "VA-001" else "VA-002" :=
    fun f id hid => Or.resolve_left hid not_false
  have hmem : ∀ f ∈ routerOfTwo.mEventFilters, f = 1 ∨ f = 0 := by
    intro f hf
    simpa [UnorderedSet.mem_def, routerOfTwo] using hf
  intro f hf g hg id hid hid'
  have hsame := (hone f id hid).symm.trans (hone g id hid')
  rcases hmem f hf with rfl | rfl
  · rcases hmem g hg with rfl | rfl
    · rfl
    · exact absurd hsame (by decide)
  · rcases hmem g hg with rfl | rfl
    · exact absurd hsame (by decide)
    · rfl

theorem routing_iff_two :
    Delivered .obliging twoFilters routerOfTwo [] VSHL_EVENT_AUTH_STATE_EVENT "VA-002" "" ↔
      HolderFirst twoFilters routerOfTwo VSHL_EVENT_AUTH_STATE_EVENT "VA-002" :=
  (routing_iff twoFilters_disjoint .obliging [] _ _ _).1

/-- The second filter answers true for an event of the first, which is never asked. -/
theorem event_withheld :
    ¬ ∀ (env : Environment) (filters : FilterPtr → AgentsFilter) (router : EventRouter)
        (calls : Trace) (eventName voiceAgentId payload : String),
      DisjointFilters filters router →
      Delivered env filters router calls eventName voiceAgentId payload ∧
        ∀ f ∈ router.mEventFilters,
          FollowsRule env calls eventName voiceAgentId payload (filters f) := by
  intro h
  obtain ⟨hdelivered, -⟩ := h .obliging twoFilters routerOfTwo [] VSHL_EVENT_AUTH_STATE_EVENT
    "VA-001" "" twoFilters_disjoint
  have hholds : (twoFilters 0).Holds VSHL_EVENT_AUTH_STATE_EVENT "VA-001" :=
    ((twoFilters 0).owns _).mpr ⟨"VA-001", Or.inr rfl, _, by decide, rfl⟩
  obtain ⟨event, -, hpushes⟩ := hdelivered 0 (by decide) hholds
  have hnone : routedPushes .obliging twoFilters routerOfTwo [] VSHL_EVENT_AUTH_STATE_EVENT
      "VA-001" "" = [] := rfl
  rw [hnone] at hpushes
  exact absurd hpushes (by simp)

end Vshl.VoiceAgents
