/-
  Capabilities/CapabilityMessagingService.lean --- `CapabilityMessagingService` and
  its runs.

  A channel is made by the first subscription under a capability's name, for the
  capability object of that subscription, and stays for good.
-/
import Vshl.Capabilities.MessageChannel
import Vshl.Foundation.Machine

set_option autoImplicit false

namespace Vshl.Capabilities

open Vshl.Foundation
open Vshl.Interfaces

/-- The state of a `CapabilityMessagingService`. -/
structure CapabilityMessagingService where
  mMessageChannelsMap : UnorderedMap String MessageChannel

namespace CapabilityMessagingService

/-- `CapabilityMessagingService::create`. -/
def create (env : Environment) : Option CapabilityMessagingService :=
  if env.afbApi then some ⟨∅⟩ else none

/-- `CapabilityMessagingService::getMessageChannel`. -/
def getMessageChannel (env : Environment) (capabilities : CapabilityObjects)
    (service : CapabilityMessagingService) (calls : Trace) (capability : CapabilityPtr) :
    Option MessageChannel × CapabilityMessagingService × Trace :=
  let capabilityName := (capabilities capability).getName
  if capabilityName = "" then (none, service, calls)
  else
    match service.mMessageChannelsMap.find capabilityName with
    | none =>
        let created := MessageChannel.create env capabilities calls capability
        (some created.1, ⟨service.mMessageChannelsMap.emplace capabilityName created.1⟩,
          created.2)
    | some channel => (some channel, service, calls)

/-- `CapabilityMessagingService::subscribe`. -/
def subscribe (env : Environment) (capabilities : CapabilityObjects)
    (service : CapabilityMessagingService) (calls : Trace) (request : RequestPtr)
    (capability : CapabilityPtr) (action : String) :
    Except Fault Bool × CapabilityMessagingService × Trace :=
  if (capabilities capability).getName = "" then (.ok false, service, calls)
  else
    match service.getMessageChannel env capabilities calls capability with
    | (none, service, calls) => (.error .nullDereference, service, calls)
    | (some channel, service, calls) =>
        let subscribed := channel.subscribe env calls request action
        (subscribed.1, service, subscribed.2)

/-- `CapabilityMessagingService::publish`. -/
def publish (env : Environment) (capabilities : CapabilityObjects)
    (service : CapabilityMessagingService) (calls : Trace) (capability : CapabilityPtr)
    (action payload : String) : Bool × Trace :=
  let capabilityName := (capabilities capability).getName
  if capabilityName = "" then (false, calls)
  else
    match service.mMessageChannelsMap.find capabilityName with
    | none => (false, calls)
    | some channel => channel.publish env capabilities calls action payload

theorem subscribe_extends (env : Environment) (capabilities : CapabilityObjects)
    (service : CapabilityMessagingService) (calls : Trace) (request : RequestPtr)
    (capability : CapabilityPtr) (action : String) :
    calls <+: (service.subscribe env capabilities calls request capability action).2.2 := by
  have hchannel : ∀ (channel : MessageChannel) (calls : Trace),
      calls <+: (channel.subscribe env calls request action).2 := by
    intro channel calls
    unfold MessageChannel.subscribe
    cases channel.mSubscriberForwarder with
    | none => exact List.prefix_refl calls
    | some forwarder => exact forwarder.subscribe_extends env calls request action
  unfold subscribe getMessageChannel
  by_cases hname : (capabilities capability).getName = ""
  · simp only [hname, if_true]
    exact List.prefix_refl calls
  · simp only [hname, if_false]
    cases service.mMessageChannelsMap.find (capabilities capability).getName with
    | none =>
        exact (SubscriberForwarder.create_extends env capabilities calls capability).trans
          (hchannel _ _)
    | some channel => exact hchannel channel calls

theorem publish_extends (env : Environment) (capabilities : CapabilityObjects)
    (service : CapabilityMessagingService) (calls : Trace) (capability : CapabilityPtr)
    (action payload : String) :
    calls <+: (service.publish env capabilities calls capability action payload).2 := by
  unfold publish
  by_cases hname : (capabilities capability).getName = ""
  · simp only [hname, if_true]
    exact List.prefix_refl calls
  · simp only [hname, if_false]
    cases service.mMessageChannelsMap.find (capabilities capability).getName with
    | none => exact List.prefix_refl calls
    | some channel =>
        simp only [MessageChannel.publish, PublisherForwarder.forwardMessage]
        cases channel.mPublisherForwarder.mSubscriberForwarder with
        | none => exact List.prefix_refl calls
        | some forwarder =>
            exact forwarder.forwardMessage_extends env capabilities calls action payload

end CapabilityMessagingService

/-! ## Runs -/

/-- A messaging service and the calls made so far. -/
structure Messaging where
  service : CapabilityMessagingService
  calls : Trace

/-- One call. -/
inductive MessagingOp where
  | subscribe (request : RequestPtr) (capability : CapabilityPtr) (action : String)
  | publish (capability : CapabilityPtr) (action payload : String)
  deriving DecidableEq

namespace Messaging

/-- A new service. -/
def initial : Messaging := ⟨⟨∅⟩, []⟩

def step (env : Environment) (capabilities : CapabilityObjects) (s : Messaging) :
    MessagingOp → Messaging × Except Fault Bool
  | .subscribe request capability action =>
      let done := s.service.subscribe env capabilities s.calls request capability action
      (⟨done.2.1, done.2.2⟩, done.1)
  | .publish capability action payload =>
      let done := s.service.publish env capabilities s.calls capability action payload
      ({ s with calls := done.2 }, .ok done.1)

/-- The service as a machine. -/
def machine (env : Environment) (capabilities : CapabilityObjects) :
    Machine Messaging MessagingOp (Except Fault Bool) :=
  ⟨step env capabilities⟩

/-- The channel under a name. -/
def channel (s : Messaging) (name : String) : Option MessageChannel :=
  s.service.mMessageChannelsMap.find name

theorem forwarder_unique {s : Messaging} {name : String}
    {forwarder forwarder' : SubscriberForwarder}
    (h : s.channel name = some (.around forwarder))
    (h' : s.channel name = some (.around forwarder')) : forwarder = forwarder' :=
  MessageChannel.around_inj (Option.some.inj (h.symm.trans h'))

/-- The invariant of the channels: each has a forwarder, and no two of them share an
event. -/
structure Wf (s : Messaging) : Prop where
  around : ∀ name channel, s.channel name = some channel →
    name ≠ "" ∧ ∃ forwarder, channel = .around forwarder
  backed : ∀ name forwarder action event, s.channel name = some (.around forwarder) →
    forwarder.resolve action = some event →
    s.calls[event]? = some (.createEvent action true)
  old : ∀ name forwarder event, s.channel name = some (.around forwarder) →
    forwarder.Holds event → event < s.calls.length
  disjoint : ∀ name name' forwarder forwarder' event,
    s.channel name = some (.around forwarder) → s.channel name' = some (.around forwarder') →
    forwarder.Holds event → forwarder'.Holds event → name = name'

theorem wf_initial : Wf initial := by
  have hnone : ∀ name channel, initial.channel name ≠ some channel := by
    intro name channel
    exact (UnorderedMap.find_empty name).trans_ne (by simp)
  exact ⟨fun name channel h => absurd h (hnone name channel),
    fun name _ _ _ h => absurd h (hnone name _), fun name _ _ h => absurd h (hnone name _),
    fun name _ _ _ _ h => absurd h (hnone name _)⟩

/-- More calls do not matter. -/
theorem Wf.ofCalls {s : Messaging} (h : s.Wf) (added : Trace) :
    Wf { s with calls := s.calls ++ added } := by
  refine ⟨h.around, ?_, ?_, h.disjoint⟩
  · intro name forwarder action event hchannel hresolve
    have hget := h.backed name forwarder action event hchannel hresolve
    obtain ⟨hlt, -⟩ := List.getElem?_eq_some_iff.mp hget
    exact (List.getElem?_append_left hlt).trans hget
  · intro name forwarder event hchannel hholds
    have hlt := h.old name forwarder event hchannel hholds
    rw [List.length_append]
    exact Nat.lt_of_lt_of_le hlt (Nat.le_add_right _ _)

/-- The service with one channel more. -/
def withChannel (s : Messaging) (name : String)
    (forwarder : SubscriberForwarder) (calls : Trace) : Messaging :=
  ⟨⟨s.service.mMessageChannelsMap.emplace name (.around forwarder)⟩, calls⟩

theorem channel_withChannel {s : Messaging} {name : String} (hnone : s.channel name = none)
    (forwarder : SubscriberForwarder) (calls : Trace) (name' : String) :
    (s.withChannel name forwarder calls).channel name' =
      if name' = name then some (.around forwarder) else s.channel name' :=
  UnorderedMap.find_emplace_of_none _ hnone name'

theorem Wf.withChannel {s : Messaging} (h : s.Wf) {name : String} (hname : name ≠ "")
    (hnone : s.channel name = none) {capability : CapabilityPtr}
    {forwarder : SubscriberForwarder} {calls : Trace}
    (hcreated : SubscriberForwarder.CreatedAt capability s.calls forwarder calls) :
    (s.withChannel name forwarder calls).Wf := by
  obtain ⟨added, hcalls, -, -⟩ := hcreated.calls
  have hold := h.ofCalls added
  rw [← hcalls] at hold
  -- the new channel's events come after every event of another channel
  have hapart : ∀ name' forwarder' event, s.channel name' = some (.around forwarder') →
      forwarder'.Holds event → ¬ forwarder.Holds event := by
    intro name' forwarder' event hchannel hholds hnew
    have hlt := h.old name' forwarder' event hchannel hholds
    have hle := (hcreated.fresh event hnew).1
    exact absurd hlt (Nat.not_lt.mpr hle)
  have hcases : ∀ name' forwarder',
      (s.withChannel name forwarder calls).channel name' = some (.around forwarder') →
      (name' = name ∧ forwarder' = forwarder) ∨
        s.channel name' = some (.around forwarder') := by
    intro name' forwarder' hchannel
    rw [channel_withChannel hnone] at hchannel
    split at hchannel
    · rename_i heq
      exact Or.inl ⟨heq, (MessageChannel.around_inj (Option.some.inj hchannel)).symm⟩
    · exact Or.inr hchannel
  refine ⟨?_, ?_, ?_, ?_⟩
  · intro name' channel hchannel
    rw [channel_withChannel hnone] at hchannel
    split at hchannel
    · rename_i heq
      exact ⟨heq ▸ hname, forwarder, (Option.some.inj hchannel).symm⟩
    · exact h.around name' channel hchannel
  · intro name' forwarder' action event hchannel hresolve
    rcases hcases name' forwarder' hchannel with ⟨-, rfl⟩ | hbefore
    · exact hcreated.backed action event hresolve
    · exact hold.backed name' forwarder' action event hbefore hresolve
  · intro name' forwarder' event hchannel hholds
    rcases hcases name' forwarder' hchannel with ⟨-, rfl⟩ | hbefore
    · exact (hcreated.fresh event hholds).2
    · exact hold.old name' forwarder' event hbefore hholds
  · intro first second forwarder₁ forwarder₂ event hfirst hsecond hholds₁ hholds₂
    rcases hcases first forwarder₁ hfirst with ⟨rfl, rfl⟩ | hbefore₁
    · rcases hcases second forwarder₂ hsecond with ⟨rfl, -⟩ | hbefore₂
      · rfl
      · exact absurd hholds₁ (hapart second forwarder₂ event hbefore₂ hholds₂)
    · rcases hcases second forwarder₂ hsecond with ⟨rfl, rfl⟩ | hbefore₂
      · exact absurd hholds₂ (hapart first forwarder₁ event hbefore₁ hholds₁)
      · exact h.disjoint first second forwarder₁ forwarder₂ event hbefore₁ hbefore₂ hholds₁
          hholds₂

/-! ### What a call can do -/

section

variable (env : Environment) (capabilities : CapabilityObjects) {s : Messaging}

/-- What is left to do once the channel is there. -/
theorem channel_subscribe (forwarder : SubscriberForwarder) (calls : Trace)
    (request : RequestPtr) (action : String) :
    (MessageChannel.around forwarder).subscribe env calls request action =
      match forwarder.resolve action with
      | some event =>
          (.ok (env.subscribe calls event request),
            calls ++ [.subscribe event request (env.subscribe calls event request)])
      | none => (.ok false, calls) := by
  simp only [MessageChannel.subscribe, MessageChannel.around,
    SubscriberForwarder.subscribe_eq]
  cases forwarder.resolve action with
  | some event => rfl
  | none => rfl

/-- A capability without a name is refused. -/
theorem subscribe_unnamed (request : RequestPtr) {capability : CapabilityPtr}
    (action : String) (hname : (capabilities capability).getName = "") :
    step env capabilities s (.subscribe request capability action) = (s, .ok false) := by
  simp only [step, CapabilityMessagingService.subscribe, hname, if_true]

theorem subscribe_found (request : RequestPtr) {capability : CapabilityPtr}
    (action : String) {forwarder : SubscriberForwarder}
    (hname : (capabilities capability).getName ≠ "")
    (hchannel : s.channel (capabilities capability).getName = some (.around forwarder)) :
    step env capabilities s (.subscribe request capability action) =
      ({ s with calls :=
          ((MessageChannel.around forwarder).subscribe env s.calls request action).2 },
        ((MessageChannel.around forwarder).subscribe env s.calls request action).1) := by
  unfold channel at hchannel
  simp only [step, CapabilityMessagingService.subscribe,
    CapabilityMessagingService.getMessageChannel, if_neg hname, hchannel]

/-- A subscription under a name without a channel makes one. -/
theorem subscribe_missing (request : RequestPtr) {capability : CapabilityPtr}
    (action : String) {forwarder : SubscriberForwarder} {calls : Trace}
    (hname : (capabilities capability).getName ≠ "")
    (hchannel : s.channel (capabilities capability).getName = none)
    (hcreate : SubscriberForwarder.create env capabilities s.calls capability =
      (some forwarder, calls)) :
    step env capabilities s (.subscribe request capability action) =
      (s.withChannel (capabilities capability).getName forwarder
          ((MessageChannel.around forwarder).subscribe env calls request action).2,
        ((MessageChannel.around forwarder).subscribe env calls request action).1) := by
  unfold channel at hchannel
  simp only [step, CapabilityMessagingService.subscribe,
    CapabilityMessagingService.getMessageChannel, if_neg hname, hchannel,
    MessageChannel.create, hcreate]
  rfl

/-- The first subscription under a name makes the channel. -/
theorem subscribe_first {env : Environment} (henv : env.afbApi = true)
    (capabilities : CapabilityObjects) (request : RequestPtr)
    {capability : CapabilityPtr} (action : String)
    (hname : (capabilities capability).getName ≠ "")
    (hchannel : s.channel (capabilities capability).getName = none) :
    ∃ forwarder calls,
      SubscriberForwarder.CreatedAt capability s.calls forwarder calls ∧
      step env capabilities s (.subscribe request capability action) =
        (s.withChannel (capabilities capability).getName forwarder
            ((MessageChannel.around forwarder).subscribe env calls request action).2,
          ((MessageChannel.around forwarder).subscribe env calls request action).1) := by
  obtain ⟨forwarder, calls, hcreate, hcreated⟩ :=
    SubscriberForwarder.create_createdAt henv capabilities s.calls capability
  exact ⟨forwarder, calls, hcreated,
    subscribe_missing env capabilities request action hname hchannel hcreate⟩

/-- The calls of a subscription on an existing channel. -/
theorem channel_subscribe_calls (forwarder : SubscriberForwarder) (calls : Trace)
    (request : RequestPtr) (action : String) :
    ∃ added : Trace,
      ((MessageChannel.around forwarder).subscribe env calls request action).2 =
        calls ++ added ∧
      ∀ call ∈ added, ∃ event result, call = .subscribe event request result := by
  rw [channel_subscribe]
  cases forwarder.resolve action with
  | some event =>
      refine ⟨[_], rfl, ?_⟩
      intro call hcall
      exact ⟨_, _, List.mem_singleton.mp hcall⟩
  | none => exact ⟨[], (List.append_nil calls).symm, by simp⟩

/-- Publishing under a name without a channel does nothing. -/
theorem publish_none {capability : CapabilityPtr} (action payload : String)
    (h : (capabilities capability).getName = "" ∨
      s.channel (capabilities capability).getName = none) :
    step env capabilities s (.publish capability action payload) = (s, .ok false) := by
  unfold channel at h
  simp only [step, CapabilityMessagingService.publish]
  rcases h with hname | hnone
  · rw [if_pos hname]
  · simp only [hnone, ite_self]

theorem publish_found {capability : CapabilityPtr} (action payload : String)
    {forwarder : SubscriberForwarder} (hname : (capabilities capability).getName ≠ "")
    (hchannel : s.channel (capabilities capability).getName = some (.around forwarder)) :
    step env capabilities s (.publish capability action payload) =
      match forwarder.resolve action with
      | some event =>
          let published := env.doPublishEvent s.calls event (jsonObjectNewString payload)
          ({ s with calls := forwarder.notified env capabilities published.2 action },
            .ok true)
      | none => (s, .ok false) := by
  unfold channel at hchannel
  simp only [step, CapabilityMessagingService.publish, if_neg hname, hchannel,
    MessageChannel.publish, MessageChannel.around, PublisherForwarder.forwardMessage,
    SubscriberForwarder.forwardMessage_eq]
  cases forwarder.resolve action with
  | some event => rfl
  | none => rfl

/-- The call is a subscription under this name. -/
def SubscribesTo (capabilities : CapabilityObjects) (name : String) : MessagingOp → Prop
  | .subscribe _ capability _ => (capabilities capability).getName = name
  | .publish _ _ _ => False

/-- The step makes the channel of this name, for the capability it subscribes to. -/
structure Makes (env : Environment) (capabilities : CapabilityObjects) (s : Messaging)
    (name : String) (first : CapabilityPtr) (forwarder : SubscriberForwarder)
    (s' : Messaging) : Prop where
  missing : s.channel name = none
  made : s'.channel name = some (.around forwarder)
  others : ∀ name', name' ≠ name → s'.channel name' = s.channel name'
  calls : ∃ created added : Trace,
    SubscriberForwarder.CreatedAt first s.calls forwarder created ∧
      s'.calls = created ++ added ∧
      ∀ call ∈ added, ∃ event request result, call = .subscribe event request result

/-- All that a step can do: calls that create no event, or one new channel. -/
inductive Effect (env : Environment) (capabilities : CapabilityObjects) (s : Messaging)
    (op : MessagingOp) (s' : Messaging) : Prop where
  | calls (added : Trace) (h : s' = { s with calls := s.calls ++ added })
      (hnone : ∀ name nonNull, .createEvent name nonNull ∉ added)
      (hthere : ∀ name, name ≠ "" → SubscribesTo capabilities name op →
        s.channel name ≠ none)
  | makes (request : RequestPtr) (first : CapabilityPtr) (action : String)
      (forwarder : SubscriberForwarder) (hop : op = .subscribe request first action)
      (hname : (capabilities first).getName ≠ "")
      (h : Makes env capabilities s (capabilities first).getName first forwarder s')

theorem subscribe_effect {env : Environment} (henv : env.afbApi = true)
    (capabilities : CapabilityObjects) (hwf : s.Wf) (request : RequestPtr)
    (capability : CapabilityPtr) (action : String) :
    Effect env capabilities s (.subscribe request capability action)
      (step env capabilities s (.subscribe request capability action)).1 := by
  by_cases hname : (capabilities capability).getName = ""
  · rw [subscribe_unnamed env capabilities request action hname]
    refine .calls [] (by simp) (by simp) ?_
    intro name hne hsub
    exact absurd (hsub.symm.trans hname) hne
  · cases hchannel : s.channel (capabilities capability).getName with
    | none =>
        obtain ⟨forwarder, created, hcreated, hstep⟩ :=
          subscribe_first henv capabilities request action hname hchannel
        obtain ⟨added, hcalls, honly⟩ := channel_subscribe_calls env forwarder
          created request action
        rw [hstep]
        refine .makes request capability action forwarder rfl hname ⟨hchannel, ?_, ?_, ?_⟩
        · rw [channel_withChannel hchannel, if_pos rfl]
        · intro name' hne
          rw [channel_withChannel hchannel, if_neg hne]
        · refine ⟨created, added, hcreated, hcalls, ?_⟩
          intro call hcall
          obtain ⟨event, result, heq⟩ := honly call hcall
          exact ⟨event, request, result, heq⟩
    | some channel =>
        obtain ⟨-, forwarder, rfl⟩ := hwf.around _ channel hchannel
        obtain ⟨added, hcalls, honly⟩ := channel_subscribe_calls env forwarder
          s.calls request action
        rw [subscribe_found env capabilities request action hname hchannel]
        refine .calls added (by simp only [hcalls]) ?_ ?_
        · intro name nonNull hmem
          obtain ⟨event, result, heq⟩ := honly _ hmem
          exact absurd heq (by simp)
        · intro name hne hsub
          obtain rfl : (capabilities capability).getName = name := hsub
          rw [hchannel]
          simp

/-- A publish adds calls that create no event. -/
theorem publish_calls (hwf : s.Wf) (capability : CapabilityPtr) (action payload : String) :
    ∃ added : Trace,
      (step env capabilities s (.publish capability action payload)).1 =
        { s with calls := s.calls ++ added } ∧
      ∀ name nonNull, Call.createEvent name nonNull ∉ added := by
  cases hchannel : s.channel (capabilities capability).getName with
  | none =>
      rw [publish_none env capabilities action payload (Or.inr hchannel)]
      exact ⟨[], by simp, by simp⟩
  | some channel =>
      obtain ⟨hname, forwarder, rfl⟩ := hwf.around _ channel hchannel
      rw [publish_found env capabilities action payload hname hchannel]
      cases forwarder.resolve action with
      | none => exact ⟨[], by simp, by simp⟩
      | some event =>
          obtain ⟨told, htold, hup, hdown⟩ := forwarder.notified_calls env capabilities
            (env.doPublishEvent s.calls event (jsonObjectNewString payload)).2 action
          simp only [htold]
          refine ⟨_, by simp only [Environment.doPublishEvent, List.append_assoc]; rfl, ?_⟩
          intro name nonNull hmem
          rcases List.mem_append.mp hmem with hpublish | htell
          · exact absurd (List.mem_singleton.mp hpublish) (by simp)
          · by_cases hin : action ∈ forwarder.mUpstreamEventsMap
            · obtain ⟨launch, rfl, hlaunch⟩ := hup hin
              rcases List.mem_cons.mp htell with hfirst | hrest
              · exact absurd hfirst (by simp)
              · exact hlaunch _ hrest
            · rw [hdown hin] at htell
              exact absurd htell (by simp)

theorem step_effect {env : Environment} (henv : env.afbApi = true)
    (capabilities : CapabilityObjects) (hwf : s.Wf) (op : MessagingOp) :
    Effect env capabilities s op ((machine env capabilities).next s op) := by
  cases op with
  | subscribe request capability action =>
      exact subscribe_effect henv capabilities hwf request capability action
  | publish capability action payload =>
      obtain ⟨added, hcalls, hnone⟩ := publish_calls env capabilities hwf capability action payload
      exact .calls added hcalls hnone (fun _ _ hsub => absurd hsub id)

/-- The new channel has an event for the actions that an event was created for. -/
theorem Makes.created {env : Environment} {capabilities : CapabilityObjects} {name : String}
    {first : CapabilityPtr} {forwarder : SubscriberForwarder} {s' : Messaging}
    (h : Makes env capabilities s name first forwarder s') :
    ∃ added : Trace, s'.calls = s.calls ++ added ∧
      ∀ action, (∃ event, forwarder.resolve action = some event) ↔
        .createEvent action true ∈ added := by
  obtain ⟨created, subscribed, hcreated, hcalls, honly⟩ := h.calls
  obtain ⟨events, hevents, -, hkeys⟩ := hcreated.calls
  refine ⟨events ++ subscribed, ?_, ?_⟩
  · rw [hcalls, hevents, List.append_assoc]
  · intro action
    rw [hkeys action, List.mem_append]
    refine ⟨Or.inl, fun h => h.resolve_right ?_⟩
    intro hsub
    obtain ⟨event, by_, result, heq⟩ := honly _ hsub
    exact absurd heq (by simp)

theorem Makes.wf {env : Environment} {capabilities : CapabilityObjects} {name : String}
    {first : CapabilityPtr} {forwarder : SubscriberForwarder} {s' : Messaging}
    (h : Makes env capabilities s name first forwarder s') (hwf : s.Wf)
    (hname : name ≠ "") : s'.Wf := by
  obtain ⟨created, added, hcreated, hcalls, -⟩ := h.calls
  have hwith := (hwf.withChannel hname h.missing hcreated).ofCalls added
  have hsame : ∀ name', s'.channel name' =
      (s.withChannel name forwarder created).channel name' := by
    intro name'
    rw [channel_withChannel h.missing]
    by_cases hne : name' = name
    · rw [if_pos hne, hne]
      exact h.made
    · rw [if_neg hne]
      exact h.others name' hne
  refine ⟨?_, ?_, ?_, ?_⟩
  · intro name' channel hchannel
    exact hwith.around name' channel ((hsame name').symm.trans hchannel)
  · intro name' forwarder' action event hchannel hresolve
    rw [hcalls]
    exact hwith.backed name' forwarder' action event ((hsame name').symm.trans hchannel)
      hresolve
  · intro name' forwarder' event hchannel hholds
    rw [hcalls]
    exact hwith.old name' forwarder' event ((hsame name').symm.trans hchannel) hholds
  · intro first second forwarder₁ forwarder₂ event hfirst hsecond hholds₁ hholds₂
    exact hwith.disjoint first second forwarder₁ forwarder₂ event
      ((hsame first).symm.trans hfirst) ((hsame second).symm.trans hsecond) hholds₁ hholds₂

theorem wf_step {env : Environment} (henv : env.afbApi = true)
    (capabilities : CapabilityObjects) (s : Messaging) (op : MessagingOp) (hwf : s.Wf) :
    ((machine env capabilities).next s op).Wf := by
  rcases step_effect henv capabilities hwf op with
    ⟨added, h, -, -⟩ | ⟨request, first, action, forwarder, -, hname, h⟩
  · rw [h]
    exact hwf.ofCalls added
  · exact h.wf hwf hname

theorem wf_run {env : Environment} (henv : env.afbApi = true)
    (capabilities : CapabilityObjects) (ops : List MessagingOp) :
    ((machine env capabilities).run initial ops).Wf :=
  (machine env capabilities).run_invariant (wf_step henv capabilities) wf_initial ops

/-- A channel stays. -/
theorem channel_run {env : Environment} (henv : env.afbApi = true)
    (capabilities : CapabilityObjects) {name : String} {channel : MessageChannel}
    (hwf : s.Wf) (h : s.channel name = some channel) (ops : List MessagingOp) :
    ((machine env capabilities).run s ops).channel name = some channel := by
  have hstep : ∀ (s : Messaging) (op : MessagingOp), (s.Wf ∧ s.channel name = some channel) →
      ((machine env capabilities).next s op).Wf ∧
        ((machine env capabilities).next s op).channel name = some channel := by
    intro s op hs
    refine ⟨wf_step henv capabilities s op hs.1, ?_⟩
    rcases step_effect henv capabilities hs.1 op with
      ⟨added, heq, -, -⟩ | ⟨request, first, action, forwarder, -, -, hmakes⟩
    · rw [heq]
      exact hs.2
    · have hne : name ≠ (capabilities first).getName := by
        intro hname
        have hmissing := hmakes.missing
        rw [← hname, hs.2] at hmissing
        exact absurd hmissing (by simp)
      exact (hmakes.others name hne).trans hs.2
  exact ((machine env capabilities).run_invariant
    (I := fun s => s.Wf ∧ s.channel name = some channel) hstep ⟨hwf, h⟩ ops).2

/-! ### Where a channel comes from -/

/-- The run makes the channel in the step after `before`, which is the first
subscription under the name. -/
structure MadeBy (env : Environment) (capabilities : CapabilityObjects)
    (ops before : List MessagingOp) (request : RequestPtr) (first : CapabilityPtr)
    (action name : String) (forwarder : SubscriberForwarder) : Prop where
  split : ∃ after, ops = before ++ .subscribe request first action :: after
  named : (capabilities first).getName = name
  earliest : ∀ op ∈ before, ¬ SubscribesTo capabilities name op
  makes : Makes env capabilities ((machine env capabilities).run initial before) name first
    forwarder ((machine env capabilities).next
      ((machine env capabilities).run initial before) (.subscribe request first action))

theorem MadeBy.concat {env : Environment} {capabilities : CapabilityObjects}
    {ops before : List MessagingOp} {request : RequestPtr}
    {first : CapabilityPtr} {action name : String} {forwarder : SubscriberForwarder}
    (h : MadeBy env capabilities ops before request first action name forwarder)
    (op : MessagingOp) :
    MadeBy env capabilities (ops ++ [op]) before request first action name forwarder := by
  obtain ⟨after, hsplit⟩ := h.split
  refine ⟨⟨after ++ [op], ?_⟩, h.named, h.earliest, h.makes⟩
  rw [hsplit, List.append_assoc, List.cons_append]

/-- There is a channel under a name as soon as something was subscribed under it; it
is the one that the first subscription made. -/
theorem channel_origin {env : Environment} (henv : env.afbApi = true)
    (capabilities : CapabilityObjects) (ops : List MessagingOp) (name : String)
    (hname : name ≠ "") :
    (((machine env capabilities).run initial ops).channel name = none ∧
        ∀ op ∈ ops, ¬ SubscribesTo capabilities name op) ∨
      ∃ before request first action forwarder,
        ((machine env capabilities).run initial ops).channel name =
            some (.around forwarder) ∧
          MadeBy env capabilities ops before request first action name forwarder := by
  induction ops using List.reverseRecOn with
  | nil => exact Or.inl ⟨UnorderedMap.find_empty name, by simp⟩
  | append_singleton ops op ih =>
      have hwf := wf_run henv capabilities ops
      rw [Machine.run_concat]
      rcases ih with ⟨hnone, hearlier⟩ |
        ⟨before, request, first, action, forwarder, hsome, hby⟩
      · rcases step_effect henv capabilities hwf op with
          ⟨added, heq, -, hthere⟩ | ⟨request, first, action, forwarder, rfl, -, hmakes⟩
        · rw [heq]
          refine Or.inl ⟨hnone, ?_⟩
          intro op' hop'
          rcases List.mem_append.mp hop' with hmem | hmem
          · exact hearlier op' hmem
          · rw [List.mem_singleton.mp hmem]
            exact fun hsub => hthere name hname hsub hnone
        · by_cases hsame : name = (capabilities first).getName
          · subst hsame
            exact Or.inr ⟨ops, request, first, action, forwarder, hmakes.made,
              ⟨[], rfl⟩, rfl, hearlier, hmakes⟩
          · refine Or.inl ⟨(hmakes.others name hsame).trans hnone, ?_⟩
            intro op' hop'
            rcases List.mem_append.mp hop' with hmem | hmem
            · exact hearlier op' hmem
            · rw [List.mem_singleton.mp hmem]
              exact fun hsub => hsame hsub.symm
      · exact Or.inr ⟨before, request, first, action, forwarder,
          channel_run henv capabilities hwf hsome [op], hby.concat op⟩

theorem madeBy_of_channel {env : Environment} (henv : env.afbApi = true)
    {capabilities : CapabilityObjects} {ops : List MessagingOp}
    {name : String} {forwarder : SubscriberForwarder}
    (hchannel : ((machine env capabilities).run initial ops).channel name =
      some (.around forwarder)) :
    ∃ before request first action,
      MadeBy env capabilities ops before request first action name forwarder := by
  have hname : name ≠ "" := ((wf_run henv capabilities ops).around name _ hchannel).1
  rcases channel_origin henv capabilities ops name hname with
    ⟨hnone, -⟩ | ⟨before, request, first, action, forwarder', hsome, hby⟩
  · rw [hnone] at hchannel
    exact absurd hchannel (by simp)
  · obtain rfl := forwarder_unique hchannel hsome
    exact ⟨before, request, first, action, hby⟩

/-- Some earlier subscription under the name created an event for the action. -/
def EventCreated (env : Environment) (capabilities : CapabilityObjects)
    (ops : List MessagingOp) (name action : String) : Prop :=
  ∃ before request capability action' after added,
    ops = before ++ .subscribe request capability action' :: after ∧
      (capabilities capability).getName = name ∧
      ((machine env capabilities).next ((machine env capabilities).run initial before)
          (.subscribe request capability action')).calls =
        ((machine env capabilities).run initial before).calls ++ added ∧
      .createEvent action true ∈ added

/-- The actions a channel has events for are those an event was created for. -/
theorem resolve_iff_eventCreated {env : Environment} (henv : env.afbApi = true)
    {capabilities : CapabilityObjects} {ops : List MessagingOp}
    {name : String} {forwarder : SubscriberForwarder}
    (hchannel : ((machine env capabilities).run initial ops).channel name =
      some (.around forwarder)) (action : String) :
    (∃ event, forwarder.resolve action = some event) ↔
      EventCreated env capabilities ops name action := by
  constructor
  · intro hresolve
    obtain ⟨before, request, first, action', hby⟩ := madeBy_of_channel henv hchannel
    obtain ⟨after, hsplit⟩ := hby.split
    obtain ⟨added, hcalls, hkeys⟩ := hby.makes.created
    exact ⟨before, request, first, action', after, added, hsplit, hby.named, hcalls,
      (hkeys action).mp hresolve⟩
  · rintro ⟨before, request, capability, action', after, added, rfl, hnamed, hcalls, hmem⟩
    have hwf' := wf_run henv capabilities before
    rcases step_effect henv capabilities hwf'
        (.subscribe request capability action') with
      ⟨other, heq, hnot, -⟩ | ⟨request', first, action'', forwarder', hop, -, hmakes⟩
    · -- a step that creates no event
      have hother : other = added := by
        have hnext := congrArg Messaging.calls heq
        exact List.append_cancel_left (hnext.symm.trans hcalls)
      exact absurd hmem (hother ▸ hnot action true)
    · obtain ⟨rfl, rfl, rfl⟩ := MessagingOp.subscribe.inj hop
      have hkept : ((machine env capabilities).run initial
          (before ++ .subscribe request capability action' :: after)).channel name =
          some (.around forwarder') := by
        rw [Machine.run_append, Machine.run_cons]
        refine channel_run henv capabilities (wf_step henv capabilities _ _ hwf') ?_ after
        rw [← hnamed]
        exact hmakes.made
      obtain rfl := forwarder_unique hchannel hkept
      obtain ⟨made, hmade, hkeys⟩ := hmakes.created
      obtain rfl : made = added := List.append_cancel_left (hmade.symm.trans hcalls)
      exact (hkeys action).mpr hmem

/-! ### Publishing -/

/-- What a successful `publish` does. -/
structure Published (env : Environment) (capabilities : CapabilityObjects)
    (ops : List MessagingOp) (capability : CapabilityPtr) (action payload : String)
    (s s' : Messaging) (forwarder : SubscriberForwarder) (first : CapabilityPtr)
    (event : EventPtr) : Prop where
  /-- the channel is the one that the first subscription under the name made -/
  channel : s.channel (capabilities capability).getName = some (.around forwarder)
  origin : ∃ before request action' after,
    ops = before ++ .subscribe request first action' :: after ∧
      (capabilities first).getName = (capabilities capability).getName ∧
      ∀ op ∈ before, ¬ SubscribesTo capabilities (capabilities capability).getName op
  /-- subscribing to the action now would subscribe to the same event -/
  subscribed : ∀ request, ∃ result,
    ((machine env capabilities).next s (.subscribe request capability action)).calls =
      s.calls ++ [.subscribe event request result]
  /-- the event is published once, and then the capability of the first subscription is
  told once if the action is upstream and not at all otherwise -/
  published : ∃ observers told,
    s'.calls = s.calls ++
        .publishEvent event (jsonObjectNewString payload) observers :: told ∧
      (action ∈ forwarder.mUpstreamEventsMap →
        ∃ launch : Trace, told = .onMessagePublished first action :: launch ∧
          ∀ call ∈ launch, IsLaunch call) ∧
      (action ∉ forwarder.mUpstreamEventsMap → told = [])
  /-- no channel of another name has the event -/
  own : ∀ name forwarder', name ≠ (capabilities capability).getName →
    s.channel name = some (.around forwarder') → ¬ forwarder'.Holds event

theorem published_of_resolve {env : Environment} (henv : env.afbApi = true)
    {capabilities : CapabilityObjects} {ops : List MessagingOp} {capability : CapabilityPtr}
    {action : String} (payload : String) {forwarder : SubscriberForwarder}
    {event : EventPtr}
    (hchannel : ((machine env capabilities).run initial ops).channel
      (capabilities capability).getName = some (.around forwarder))
    (hresolve : forwarder.resolve action = some event) :
    ∃ first, Published env capabilities ops capability action payload
      ((machine env capabilities).run initial ops)
      ((machine env capabilities).next ((machine env capabilities).run initial ops)
        (.publish capability action payload)) forwarder first event := by
  have hwf := wf_run henv capabilities ops
  have hname : (capabilities capability).getName ≠ "" := (hwf.around _ _ hchannel).1
  obtain ⟨before, request, first, action', hby⟩ := madeBy_of_channel henv hchannel
  obtain ⟨created, -, hcreated, -, -⟩ := hby.makes.calls
  obtain ⟨after, hsplit⟩ := hby.split
  refine ⟨first, hchannel, ⟨before, request, action', after, hsplit, hby.named,
    hby.earliest⟩, ?_, ?_, ?_⟩
  · intro request'
    have hstep := subscribe_found env capabilities request' action hname hchannel
    refine ⟨env.subscribe ((machine env capabilities).run initial ops).calls event
      request', (congrArg (fun p => p.1.calls) hstep).trans ?_⟩
    simp only [channel_subscribe, hresolve]
  · obtain ⟨told, htold, hup, hdown⟩ := forwarder.notified_calls env capabilities
      (env.doPublishEvent ((machine env capabilities).run initial ops).calls event
        (jsonObjectNewString payload)).2 action
    have hstep := publish_found env capabilities action payload hname hchannel
    rw [hresolve] at hstep
    refine ⟨env.publishEvent ((machine env capabilities).run initial ops).calls event
      (jsonObjectNewString payload), told,
      (congrArg (fun p => p.1.calls) hstep).trans ?_, ?_, hdown⟩
    · simp only [htold]
      exact List.append_assoc _ _ _
    · rw [← hcreated.capability]
      exact hup
  · intro name forwarder' hne hother hholds
    exact hne (hwf.disjoint name _ forwarder' forwarder event hother hchannel hholds
      (SubscriberForwarder.holds_of_resolve hresolve))

/-- A publish succeeds exactly if an event was created for the action, and then it is
published once; a refused publish does nothing. -/
structure PublishCorrect (env : Environment) (capabilities : CapabilityObjects)
    (ops : List MessagingOp) (capability : CapabilityPtr) (action payload : String)
    (s : Messaging) (returned : Except Fault Bool) (s' : Messaging) : Prop where
  accepted_iff : returned = .ok true ↔
    EventCreated env capabilities ops (capabilities capability).getName action
  accepted : returned = .ok true → ∃ forwarder first event,
    Published env capabilities ops capability action payload s s' forwarder first event
  refused : returned ≠ .ok true → returned = .ok false ∧ s' = s

/-- A publish that is refused is correct if no event was created for the action. -/
theorem publishCorrect_of_refused {env : Environment} {capabilities : CapabilityObjects}
    {ops : List MessagingOp} {capability : CapabilityPtr} {action payload : String}
    (hstep : step env capabilities s (.publish capability action payload) = (s, .ok false))
    (hnever : ¬ EventCreated env capabilities ops (capabilities capability).getName action) :
    PublishCorrect env capabilities ops capability action payload s
      ((machine env capabilities).output s (.publish capability action payload))
      ((machine env capabilities).next s (.publish capability action payload)) := by
  have hout : (machine env capabilities).output s (.publish capability action payload) =
      .ok false := congrArg Prod.snd hstep
  have hnext : (machine env capabilities).next s (.publish capability action payload) = s :=
    congrArg Prod.fst hstep
  rw [hout, hnext]
  exact ⟨⟨fun h => absurd h (by simp), fun h => absurd h hnever⟩,
    fun h => absurd h (by simp), fun _ => ⟨rfl, rfl⟩⟩

/-- A subscription under the empty name is refused, so it creates no event. -/
theorem not_eventCreated_unnamed (env : Environment) (capabilities : CapabilityObjects)
    (ops : List MessagingOp) (action : String) :
    ¬ EventCreated env capabilities ops "" action := by
  rintro ⟨before, request, capability, action', after, added, -, hnamed, hcalls, hmem⟩
  have hrefused := subscribe_unnamed env capabilities request action'
    (s := (machine env capabilities).run initial before) hnamed
  have hnil : added = [] := by
    have hsame := (congrArg (fun p => p.1.calls) hrefused).symm.trans hcalls
    exact List.append_cancel_left (hsame.symm.trans (List.append_nil _).symm)
  rw [hnil] at hmem
  exact absurd hmem (by simp)

theorem publish_correct {env : Environment} (henv : env.afbApi = true)
    (capabilities : CapabilityObjects) (ops : List MessagingOp)
    (capability : CapabilityPtr) (action payload : String) :
    let s := (machine env capabilities).run initial ops
    let op := MessagingOp.publish capability action payload
    PublishCorrect env capabilities ops capability action payload s
      ((machine env capabilities).output s op) ((machine env capabilities).next s op) := by
  intro s op
  by_cases hname : (capabilities capability).getName = ""
  · refine publishCorrect_of_refused
      (publish_none env capabilities action payload (Or.inl hname)) ?_
    rw [hname]
    exact not_eventCreated_unnamed env capabilities ops action
  · rcases channel_origin henv capabilities ops _ hname with
      ⟨hnone, hnever⟩ | ⟨-, -, -, -, forwarder, hsome, -⟩
    · refine publishCorrect_of_refused
        (publish_none env capabilities action payload (Or.inr hnone)) ?_
      rintro ⟨before, request, capability', action', after, added, rfl, hnamed, -, -⟩
      exact hnever _ (List.mem_append_right before List.mem_cons_self) hnamed
    · have hiff := resolve_iff_eventCreated henv hsome action
      have hstep := publish_found env capabilities action payload hname hsome
      cases hresolve : forwarder.resolve action with
      | none =>
          rw [hresolve] at hstep hiff
          refine publishCorrect_of_refused hstep ?_
          rw [← hiff]
          simp
      | some event =>
          rw [hresolve] at hstep hiff
          have hout : (machine env capabilities).output s op = .ok true :=
            congrArg Prod.snd hstep
          rw [hout]
          refine ⟨by rw [← hiff]; simp, ?_, fun h => absurd rfl h⟩
          intro _
          obtain ⟨first, hpublished⟩ := published_of_resolve henv payload hsome hresolve
          exact ⟨forwarder, first, event, hpublished⟩

end

/-- Nothing is published before the first subscription, and both directions after
it. -/
theorem publish_correct_phonecontrol :
    let capabilities := CapabilitiesFactory.capabilities
    let phone := CapabilitiesFactory.getPhoneControl
    let ops := [.publish phone "phonecontrol/dial" "", .subscribe 7 phone "phonecontrol/stop"]
    let s := (machine .obliging capabilities).run initial ops
    let op := MessagingOp.publish phone "phonecontrol/call_failed" "busy"
    PublishCorrect .obliging capabilities ops phone "phonecontrol/call_failed" "busy" s
        ((machine .obliging capabilities).output s op)
        ((machine .obliging capabilities).next s op) ∧
      (machine .obliging capabilities).output s op = .ok true :=
  ⟨publish_correct rfl _ _ _ _ _, by rfl⟩

end Messaging

end Vshl.Capabilities
