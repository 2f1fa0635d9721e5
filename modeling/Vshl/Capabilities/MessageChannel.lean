/-
  Capabilities/MessageChannel.lean --- `SubscriberForwarder`, `PublisherForwarder` and
  the `MessageChannel` that connects them.
-/
import Vshl.Capabilities.Capability
import Vshl.Foundation.Unordered

set_option autoImplicit false

namespace Vshl.Capabilities

open Vshl.Foundation
open Vshl.Interfaces

/-- The events of one direction, by action.  No null event is ever stored. -/
abbrev EventsMap := UnorderedMap String EventPtr

/-- The state of a `SubscriberForwarder`; it never changes once it is constructed. -/
structure SubscriberForwarder where
  mCapability : CapabilityPtr
  mUpstreamEventsMap : EventsMap
  mDownstreamEventsMap : EventsMap

namespace SubscriberForwarder

/-- One round of the loops of `createEvents`. -/
def createEvent (env : Environment) (state : EventsMap × Trace) (eventName : String) :
    EventsMap × Trace :=
  if eventName ∉ state.1 ∧ env.afbApi then
    match env.doCreateEvent state.2 eventName with
    | (none, calls) => (state.1, calls)
    | (some event, calls) => (state.1.emplace eventName event, calls)
  else state

/-- The loop of `createEvents` over the actions of one direction. -/
def createEventsOf (env : Environment) (calls : Trace) (eventNames : List String) :
    EventsMap × Trace :=
  eventNames.foldl (createEvent env) (∅, calls)

/-- `SubscriberForwarder::create`, with the `createEvents` of its constructor. -/
def create (env : Environment) (capabilities : CapabilityObjects) (calls : Trace)
    (capability : CapabilityPtr) : Option SubscriberForwarder × Trace :=
  if env.afbApi = false then (none, calls)
  else
    let upstream := createEventsOf env calls (capabilities capability).getUpstreamMessages
    let downstream :=
      createEventsOf env upstream.2 (capabilities capability).getDownstreamMessages
    (some ⟨capability, upstream.1, downstream.1⟩, downstream.2)

/-- `SubscriberForwarder::forwardMessage`. -/
def forwardMessage (env : Environment) (capabilities : CapabilityObjects)
    (forwarder : SubscriberForwarder) (calls : Trace) (action payload : String) :
    Bool × Trace :=
  match forwarder.mUpstreamEventsMap.find action with
  | some event =>
      let published := env.doPublishEvent calls event (jsonObjectNewString payload)
      (true, onMessagePublished env capabilities published.2 forwarder.mCapability action)
  | none =>
      match forwarder.mDownstreamEventsMap.find action with
      | some event => (true, (env.doPublishEvent calls event (jsonObjectNewString payload)).2)
      | none => (false, calls)

/-- `SubscriberForwarder::subscribe`. -/
def subscribe (env : Environment) (forwarder : SubscriberForwarder) (calls : Trace)
    (request : RequestPtr) (action : String) : Bool × Trace :=
  match forwarder.mUpstreamEventsMap.find action with
  | some event => env.doSubscribe calls event request
  | none =>
      match forwarder.mDownstreamEventsMap.find action with
      | some event => env.doSubscribe calls event request
      | none => (false, calls)

end SubscriberForwarder

/-- A `PublisherForwarder`. -/
structure PublisherForwarder where
  mSubscriberForwarder : Option SubscriberForwarder

/-- `PublisherForwarder::forwardMessage`. -/
def PublisherForwarder.forwardMessage (env : Environment) (capabilities : CapabilityObjects)
    (forwarder : PublisherForwarder) (calls : Trace) (action payload : String) :
    Bool × Trace :=
  match forwarder.mSubscriberForwarder with
  | none => (false, calls)
  | some subscriber => subscriber.forwardMessage env capabilities calls action payload

/-- A `MessageChannel`. -/
structure MessageChannel where
  mPublisherForwarder : PublisherForwarder
  mSubscriberForwarder : Option SubscriberForwarder

namespace MessageChannel

/-- `MessageChannel::create`. -/
def create (env : Environment) (capabilities : CapabilityObjects) (calls : Trace)
    (capability : CapabilityPtr) : MessageChannel × Trace :=
  let subscriber := SubscriberForwarder.create env capabilities calls capability
  (⟨⟨subscriber.1⟩, subscriber.1⟩, subscriber.2)

/-- `MessageChannel::publish`. -/
def publish (env : Environment) (capabilities : CapabilityObjects) (channel : MessageChannel)
    (calls : Trace) (action payload : String) : Bool × Trace :=
  channel.mPublisherForwarder.forwardMessage env capabilities calls action payload

/-- `MessageChannel::subscribe`. -/
def subscribe (env : Environment) (channel : MessageChannel) (calls : Trace)
    (request : RequestPtr) (action : String) : Except Fault Bool × Trace :=
  match channel.mSubscriberForwarder with
  | none => (.error .nullDereference, calls)
  | some subscriber =>
      let subscribed := subscriber.subscribe env calls request action
      (.ok subscribed.1, subscribed.2)

/-- The channel around a forwarder that could be created. -/
def around (forwarder : SubscriberForwarder) : MessageChannel :=
  ⟨⟨some forwarder⟩, some forwarder⟩

theorem around_inj {forwarder forwarder' : SubscriberForwarder}
    (h : around forwarder = around forwarder') : forwarder = forwarder' :=
  Option.some.inj (congrArg mSubscriberForwarder h)

end MessageChannel

/-! ## The events of a forwarder -/

namespace SubscriberForwarder

/-- The event an action stands for: an upstream one, or else a downstream one. -/
def resolve (forwarder : SubscriberForwarder) (action : String) : Option EventPtr :=
  match forwarder.mUpstreamEventsMap.find action with
  | some event => some event
  | none => forwarder.mDownstreamEventsMap.find action

theorem subscribe_eq (env : Environment) (forwarder : SubscriberForwarder) (calls : Trace)
    (request : RequestPtr) (action : String) :
    forwarder.subscribe env calls request action =
      match forwarder.resolve action with
      | some event => env.doSubscribe calls event request
      | none => (false, calls) := by
  unfold subscribe resolve
  cases forwarder.mUpstreamEventsMap.find action with
  | some event => rfl
  | none => rfl

/-- Who is told of a published action: the capability, if the action is upstream. -/
def notified (env : Environment) (capabilities : CapabilityObjects)
    (forwarder : SubscriberForwarder) (calls : Trace) (action : String) : Trace :=
  if action ∈ forwarder.mUpstreamEventsMap then
    onMessagePublished env capabilities calls forwarder.mCapability action
  else calls

/-- Publishing uses the event that subscribing uses. -/
theorem forwardMessage_eq (env : Environment) (capabilities : CapabilityObjects)
    (forwarder : SubscriberForwarder) (calls : Trace) (action payload : String) :
    forwarder.forwardMessage env capabilities calls action payload =
      match forwarder.resolve action with
      | some event =>
          (true, forwarder.notified env capabilities
            (env.doPublishEvent calls event (jsonObjectNewString payload)).2 action)
      | none => (false, calls) := by
  unfold forwardMessage resolve notified
  cases hup : forwarder.mUpstreamEventsMap.find action with
  | some event =>
      have hmem := UnorderedMap.mem_iff_find.mpr ⟨event, hup⟩
      simp only [hmem, if_true]
  | none =>
      have hnot := UnorderedMap.find_eq_none.mp hup
      simp only [hnot, if_false]

/-- The capability hears of an upstream action once, of a downstream action not at
all, and what it does then publishes nothing. -/
theorem notified_calls (env : Environment) (capabilities : CapabilityObjects)
    (forwarder : SubscriberForwarder) (calls : Trace) (action : String) :
    ∃ told : Trace, forwarder.notified env capabilities calls action = calls ++ told ∧
      (action ∈ forwarder.mUpstreamEventsMap →
        ∃ launch : Trace,
          told = .onMessagePublished forwarder.mCapability action :: launch ∧
          ∀ call ∈ launch, IsLaunch call) ∧
      (action ∉ forwarder.mUpstreamEventsMap → told = []) := by
  unfold notified
  split
  · rename_i hup
    obtain ⟨launch, hlaunch, hcalls⟩ := (capabilities forwarder.mCapability).react_calls env
      (calls ++ [.onMessagePublished forwarder.mCapability action]) action
    refine ⟨.onMessagePublished forwarder.mCapability action :: launch, ?_, ?_, ?_⟩
    · simp only [onMessagePublished, hlaunch, List.append_assoc, List.singleton_append]
    · intro _
      exact ⟨launch, rfl, hcalls⟩
    · intro hnot
      exact absurd hup hnot
  · rename_i hup
    exact ⟨[], (List.append_nil calls).symm, fun h => absurd h hup, fun _ => rfl⟩

theorem resolve_isSome_iff {forwarder : SubscriberForwarder} {action : String} :
    (∃ event, forwarder.resolve action = some event) ↔
      action ∈ forwarder.mUpstreamEventsMap ∨ action ∈ forwarder.mDownstreamEventsMap := by
  unfold resolve
  cases hup : forwarder.mUpstreamEventsMap.find action with
  | some event =>
      have hmem := UnorderedMap.mem_iff_find.mpr ⟨event, hup⟩
      exact ⟨fun _ => Or.inl hmem, fun _ => ⟨event, rfl⟩⟩
  | none =>
      have hnot := UnorderedMap.find_eq_none.mp hup
      simp only [hnot, false_or]
      exact UnorderedMap.mem_iff_find.symm

/-- The forwarder holds the event. -/
def Holds (forwarder : SubscriberForwarder) (event : EventPtr) : Prop :=
  (∃ action, forwarder.mUpstreamEventsMap.find action = some event) ∨
    ∃ action, forwarder.mDownstreamEventsMap.find action = some event

theorem holds_of_resolve {forwarder : SubscriberForwarder} {action : String}
    {event : EventPtr} (h : forwarder.resolve action = some event) :
    forwarder.Holds event := by
  unfold resolve at h
  cases hup : forwarder.mUpstreamEventsMap.find action with
  | some found =>
      rw [hup] at h
      exact Or.inl ⟨action, hup.trans h⟩
  | none =>
      rw [hup] at h
      exact Or.inr ⟨action, h⟩

/-! ### Creation -/

/-- What the loop over one direction has done so far: it appended `createEvent`
calls, and the events in the map are those the successful ones made, each under its
name. -/
structure Made (start : Trace) (state : EventsMap × Trace) : Prop where
  calls : ∃ added : Trace, state.2 = start ++ added ∧
    (∀ call ∈ added, ∃ name nonNull, call = .createEvent name nonNull) ∧
    ∀ name, name ∈ state.1 ↔ .createEvent name true ∈ added
  backed : ∀ name event, state.1.find name = some event →
    start.length ≤ event ∧ state.2[event]? = some (.createEvent name true)

theorem made_start (start : Trace) : Made start (∅, start) := by
  refine ⟨⟨[], (List.append_nil start).symm, by simp, ?_⟩, ?_⟩
  · intro name
    simp
  · intro name event h
    exact absurd h ((UnorderedMap.find_empty name).trans_ne (by simp))

theorem Made.createEvent {env : Environment} {start : Trace} {state : EventsMap × Trace}
    (h : Made start state) (eventName : String) :
    Made start (createEvent env state eventName) := by
  unfold SubscriberForwarder.createEvent
  split
  · rename_i hguard
    obtain ⟨added, hcalls, honly, hkeys⟩ := h.calls
    have hnone := UnorderedMap.find_eq_none.mpr hguard.1
    have hlength : start.length ≤ state.2.length := by
      rw [hcalls, List.length_append]
      omega
    have hold : ∀ name event, state.1.find name = some event → ∀ call : Call,
        start.length ≤ event ∧
          (state.2 ++ [call])[event]? = some (.createEvent name true) := by
      intro name event hfind call
      obtain ⟨hle, hget⟩ := h.backed name event hfind
      obtain ⟨hlt, -⟩ := List.getElem?_eq_some_iff.mp hget
      rw [List.getElem?_append_left hlt]
      exact ⟨hle, hget⟩
    cases hnonNull : env.createEvent state.2 eventName with
    | false =>
        simp only [Environment.doCreateEvent, hnonNull, Bool.false_eq_true, if_false]
        refine ⟨⟨added ++ [.createEvent eventName false], ?_, ?_, ?_⟩, ?_⟩
        · rw [hcalls, List.append_assoc]
        · intro call hcall
          rcases List.mem_append.mp hcall with hmem | hmem
          · exact honly call hmem
          · exact ⟨_, _, List.mem_singleton.mp hmem⟩
        · intro name
          rw [hkeys name]
          simp
        · intro name event hfind
          exact hold name event hfind _
    | true =>
        simp only [Environment.doCreateEvent, hnonNull, if_true]
        refine ⟨⟨added ++ [.createEvent eventName true], ?_, ?_, ?_⟩, ?_⟩
        · rw [hcalls, List.append_assoc]
        · intro call hcall
          rcases List.mem_append.mp hcall with hmem | hmem
          · exact honly call hmem
          · exact ⟨_, _, List.mem_singleton.mp hmem⟩
        · intro name
          rw [UnorderedMap.mem_emplace, hkeys name]
          simp only [List.mem_append, List.mem_singleton, Call.createEvent.injEq, and_true]
          exact or_comm
        · intro name event hfind
          rw [UnorderedMap.find_emplace_of_none _ hnone] at hfind
          split at hfind
          · rename_i hname
            obtain rfl := Option.some.inj hfind
            rw [hname]
            exact ⟨hlength, by simp⟩
          · exact hold name event hfind _
  · exact h

theorem createEventsOf_made (env : Environment) (calls : Trace) (eventNames : List String) :
    Made calls (createEventsOf env calls eventNames) := by
  refine List.foldlRecOn (motive := Made calls) eventNames _ (made_start calls) ?_
  intro state hstate name _
  exact hstate.createEvent name

/-- What `create` leaves: the actions with an event are those for which an event was
created, and every event is new. -/
structure CreatedAt (capability : CapabilityPtr) (start : Trace)
    (forwarder : SubscriberForwarder) (finish : Trace) : Prop where
  capability : forwarder.mCapability = capability
  calls : ∃ added : Trace, finish = start ++ added ∧
    (∀ call ∈ added, ∃ name nonNull, call = .createEvent name nonNull) ∧
    ∀ action, (∃ event, forwarder.resolve action = some event) ↔
      .createEvent action true ∈ added
  fresh : ∀ event, forwarder.Holds event →
    start.length ≤ event ∧ event < finish.length
  backed : ∀ action event, forwarder.resolve action = some event →
    finish[event]? = some (.createEvent action true)

theorem create_createdAt {env : Environment} (henv : env.afbApi = true)
    (capabilities : CapabilityObjects) (calls : Trace) (capability : CapabilityPtr) :
    ∃ forwarder calls', create env capabilities calls capability = (some forwarder, calls') ∧
      CreatedAt capability calls forwarder calls' := by
  unfold create
  rw [if_neg (by simp [henv])]
  refine ⟨_, _, rfl, ?_⟩
  have hup := createEventsOf_made env calls (capabilities capability).getUpstreamMessages
  generalize createEventsOf env calls (capabilities capability).getUpstreamMessages =
    upstream at hup ⊢
  have hdown := createEventsOf_made env upstream.2
    (capabilities capability).getDownstreamMessages
  generalize createEventsOf env upstream.2 (capabilities capability).getDownstreamMessages =
    downstream at hdown ⊢
  obtain ⟨added, hcalls, honly, hkeys⟩ := hup.calls
  obtain ⟨added', hcalls', honly', hkeys'⟩ := hdown.calls
  have hlength : calls.length ≤ upstream.2.length := by
    rw [hcalls, List.length_append]
    omega
  -- an upstream event is found at its place in the longer trace too
  have hupget : ∀ name event, upstream.1.find name = some event →
      downstream.2[event]? = some (.createEvent name true) := by
    intro name event hfind
    obtain ⟨-, hget⟩ := hup.backed name event hfind
    obtain ⟨hlt, -⟩ := List.getElem?_eq_some_iff.mp hget
    rw [hcalls', List.getElem?_append_left hlt]
    exact hget
  refine ⟨rfl, ⟨added ++ added', ?_, ?_, ?_⟩, ?_, ?_⟩
  · rw [hcalls', hcalls, List.append_assoc]
  · intro call hcall
    rcases List.mem_append.mp hcall with h | h
    · exact honly call h
    · exact honly' call h
  · intro action
    rw [resolve_isSome_iff, List.mem_append]
    exact or_congr (hkeys action) (hkeys' action)
  · intro event hholds
    rcases hholds with ⟨action, hfind⟩ | ⟨action, hfind⟩
    · obtain ⟨hlt, -⟩ := List.getElem?_eq_some_iff.mp (hupget action event hfind)
      exact ⟨(hup.backed action event hfind).1, hlt⟩
    · obtain ⟨hle, hget⟩ := hdown.backed action event hfind
      obtain ⟨hlt, -⟩ := List.getElem?_eq_some_iff.mp hget
      exact ⟨le_trans hlength hle, hlt⟩
  · intro action event hresolve
    simp only [resolve] at hresolve
    cases hfind : upstream.1.find action with
    | some found =>
        rw [hfind] at hresolve
        exact hupget action event (hfind.trans hresolve)
    | none =>
        rw [hfind] at hresolve
        exact (hdown.backed action event hresolve).2

/-! ### Calls are only added -/

theorem create_extends (env : Environment) (capabilities : CapabilityObjects)
    (calls : Trace) (capability : CapabilityPtr) :
    calls <+: (create env capabilities calls capability).2 := by
  cases henv : env.afbApi with
  | false =>
      simp only [create, henv, if_true]
      exact List.prefix_refl calls
  | true =>
      obtain ⟨forwarder, calls', hcreate, hcreated⟩ :=
        create_createdAt henv capabilities calls capability
      obtain ⟨added, hcalls, -⟩ := hcreated.calls
      rw [hcreate, hcalls]
      exact List.prefix_append calls added

theorem subscribe_extends (env : Environment) (forwarder : SubscriberForwarder)
    (calls : Trace) (request : RequestPtr) (action : String) :
    calls <+: (forwarder.subscribe env calls request action).2 := by
  rw [subscribe_eq]
  cases forwarder.resolve action with
  | some event => exact List.prefix_append calls _
  | none => exact List.prefix_refl calls

theorem forwardMessage_extends (env : Environment) (capabilities : CapabilityObjects)
    (forwarder : SubscriberForwarder) (calls : Trace) (action payload : String) :
    calls <+: (forwarder.forwardMessage env capabilities calls action payload).2 := by
  rw [forwardMessage_eq]
  cases forwarder.resolve action with
  | none => exact List.prefix_refl calls
  | some event =>
      obtain ⟨told, htold, -⟩ := forwarder.notified_calls env capabilities
        (env.doPublishEvent calls event (jsonObjectNewString payload)).2 action
      simp only [htold]
      exact (List.prefix_append calls _).trans (List.prefix_append _ told)

end SubscriberForwarder

end Vshl.Capabilities
