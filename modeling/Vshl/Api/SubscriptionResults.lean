/-
  Api/SubscriptionResults.lean --- which events a client has been subscribed to when a
  handler that subscribes it to a list returns.

  The loop of `subscribe` goes on as long as there is an event object for the name; the loops
  of the capability handlers go on as long as the event object accepts.
-/
import Vshl.Api.Subscriptions

set_option autoImplicit false

namespace Vshl.Api

open Vshl.Foundation
open Vshl.Interfaces
open Vshl.VoiceAgents
open Vshl.Core
open Vshl.Capabilities

/-! ## State events -/

section

variable (env : Environment) {manager : VoiceAgentsDataManager}
  (hnamed : ∀ id p, manager.mVoiceAgents.find id = some p → (manager.agents.object p).mId = id)
  (request : RequestPtr) (voiceAgentId : String)

include hnamed

/-- One round of the loop: it goes on with the calls of a subscription, or it ends with no
call made. -/
theorem askEvent_cases {b : Binding} (hmanager : b.sVoiceAgentsDataManager = manager)
    (name : String) :
    (∃ event added, Subscribable manager name voiceAgentId event ∧ subscriptions added = [] ∧
      (askEvent env request voiceAgentId b name).1 = .ok true ∧
      (askEvent env request voiceAgentId b name).2.calls = b.calls ++
        [.subscribe event request (env.subscribe b.calls event request)] ++ added) ∨
    ((∀ event, ¬ Subscribable manager name voiceAgentId event) ∧
      (askEvent env request voiceAgentId b name).1 ≠ .ok true ∧
      (askEvent env request voiceAgentId b name).2.calls = b.calls) := by
  subst hmanager
  by_cases hevent : ∃ event, Subscribable b.sVoiceAgentsDataManager name voiceAgentId event
  · obtain ⟨event, hevent⟩ := hevent
    obtain ⟨added, hadded, hnone⟩ := subscribe_of_subscribable hnamed hevent env b.calls request
    refine Or.inl ⟨event, added, hevent, hnone, congrArg Prod.fst hadded, ?_⟩
    rw [List.append_assoc]
    exact congrArg Prod.snd hadded
  · refine Or.inr ⟨fun event h => hevent ⟨event, h⟩, ?_, ?_⟩
    · exact fun htrue => hevent ((subscribe_eq_true_iff hnamed).mp htrue)
    · rw [askEvent, VoiceAgentsDataManager.subscribeToVshlEventFromVoiceAgent_eq]
      split
      · rfl
      · rfl
      · rename_i voiceAgent event hfound
        exact absurd ⟨event, (eventFor_eq_some_iff hnamed).mp ⟨voiceAgent, hfound⟩⟩ hevent

/-- The loop goes on exactly as long as there are events. -/
theorem accepted_iff_subscribable {b : Binding} (hmanager : b.sVoiceAgentsDataManager = manager)
    (names : List String) :
    TryEach.Accepted (askEvent env request voiceAgentId) b names ↔
      ∀ name ∈ names, ∃ event, Subscribable manager name voiceAgentId event := by
  induction names generalizing b with
  | nil => simp [TryEach.Accepted]
  | cons name rest ih =>
      rw [List.forall_mem_cons, TryEach.Accepted, ih (by exact hmanager)]
      refine and_congr_left fun _ => ?_
      rcases askEvent_cases env hnamed request voiceAgentId hmanager name with
        ⟨event, added, hevent, -, htrue, -⟩ | ⟨hnone, hrefused, -⟩
      · exact ⟨fun _ => ⟨event, hevent⟩, fun _ => htrue⟩
      · exact ⟨fun htrue => absurd htrue hrefused,
          fun ⟨event, hevent⟩ => absurd hevent (hnone event)⟩

/-- What the rounds before the end of the loop have done. -/
theorem after_accepted {b : Binding} (hmanager : b.sVoiceAgentsDataManager = manager)
    {names : List String}
    (h : TryEach.Accepted (askEvent env request voiceAgentId) b names) :
    ∃ events added,
      List.Forall₂ (fun name event => Subscribable manager name voiceAgentId event) names
        events ∧
      (TryEach.after (askEvent env request voiceAgentId) b names).calls = b.calls ++ added ∧
      subscriptions added = events.map fun event => (event, request) := by
  induction names generalizing b with
  | nil => exact ⟨[], [], .nil, (List.append_nil b.calls).symm, rfl⟩
  | cons name rest ih =>
      rcases askEvent_cases env hnamed request voiceAgentId hmanager name with
        ⟨event, first, hevent, hnone, -, hcalls⟩ | ⟨-, hrefused, -⟩
      · obtain ⟨events, others, hevents, hafter, hothers⟩ := ih (by exact hmanager) h.2
        refine ⟨event :: events,
          [.subscribe event request (env.subscribe b.calls event request)] ++ first ++ others,
          .cons hevent hevents, ?_, ?_⟩
        · rw [TryEach.after, hafter, hcalls]
          simp only [List.append_assoc]
        · rw [subscriptions_append, subscriptions_append, hnone, hothers]
          rfl
      · exact absurd h.1 hrefused

/-- Which of the events have accepted: one is asked once for every place of its name. -/
theorem mem_granted_after {b : Binding} (hmanager : b.sVoiceAgentsDataManager = manager)
    {names : List String}
    (h : TryEach.Accepted (askEvent env request voiceAgentId) b names) {added : Trace}
    (hadded : (TryEach.after (askEvent env request voiceAgentId) b names).calls =
      b.calls ++ added) {event : EventPtr} :
    (event, request) ∈ granted added ↔
      ∃ front name back, names = front ++ name :: back ∧
        Subscribable manager name voiceAgentId event ∧
        env.subscribe (TryEach.after (askEvent env request voiceAgentId) b front).calls event
          request = true := by
  induction names generalizing b added with
  | nil =>
      have hnil : added = [] :=
        List.append_cancel_left (hadded.symm.trans (List.append_nil b.calls).symm)
      rw [hnil]
      simp [granted]
  | cons name rest ih =>
      rcases askEvent_cases env hnamed request voiceAgentId hmanager name with
        ⟨first, made, hfirst, hnone, -, hcalls⟩ | ⟨-, hrefused, -⟩
      · obtain ⟨-, others, -, hafter, -⟩ := after_accepted env hnamed request voiceAgentId
          (by exact hmanager) h.2
        have hsplit : added =
            [.subscribe first request (env.subscribe b.calls first request)] ++ made ++ others := by
          refine List.append_cancel_left (hadded.symm.trans ?_)
          rw [TryEach.after, hafter, hcalls]
          simp only [List.append_assoc]
        have hhead : (event, request) ∈
            granted [.subscribe first request (env.subscribe b.calls first request)] ↔
            Subscribable manager name voiceAgentId event ∧
              env.subscribe b.calls event request = true := by
          constructor
          · intro hmem
            cases haccepts : env.subscribe b.calls first request with
            | false => simp [haccepts, granted, grant] at hmem
            | true =>
                obtain rfl : event = first := by simpa [haccepts, granted, grant] using hmem
                exact ⟨hfirst, haccepts⟩
          · rintro ⟨hevent, haccepts⟩
            obtain rfl := hevent.unique hfirst
            simp [haccepts, granted, grant]
        rw [hsplit, granted_append, granted_append, granted_of_none hnone, List.append_nil,
          List.mem_append, hhead, ih (by exact hmanager) h.2 hafter]
        constructor
        · rintro (⟨hevent, haccepts⟩ | ⟨front, other, back, rfl, hevent, haccepts⟩)
          · exact ⟨[], name, rest, rfl, hevent, haccepts⟩
          · exact ⟨name :: front, other, back, rfl, hevent, haccepts⟩
        · rintro ⟨front, other, back, heq, hevent, haccepts⟩
          cases front with
          | nil =>
              obtain ⟨rfl, rfl⟩ := List.cons.inj heq
              exact Or.inl ⟨hevent, haccepts⟩
          | cons head front =>
              obtain ⟨rfl, rfl⟩ := List.cons.inj heq
              exact Or.inr ⟨front, other, back, rfl, hevent, haccepts⟩
      · exact absurd h.1 hrefused

end

/-! ## Actions -/

/-- The event object that stands for an action, if the capability has a channel. -/
def eventOf (s : Messaging) (capability : CapabilityPtr) (action : String) : Option EventPtr :=
  (s.channel (CapabilitiesFactory.capabilities capability).getName).bind fun channel =>
    channel.mSubscriberForwarder.bind fun forwarder => forwarder.resolve action

/-- How one subscription to an action ends: its event accepts, or nothing was accepted. -/
inductive ActionAsked (request : RequestPtr) (event : Option EventPtr)
    (answer : Except Fault Bool) (added : Trace) : Prop where
  | accepted (found : EventPtr) (hevent : event = some found) (hanswer : answer = .ok true)
      (hmade : subscriptions added = [(found, request)])
      (hgranted : granted added = [(found, request)])
  | refused (hanswer : answer = .ok false)
      (hmade : subscriptions added = event.toList.map fun event => (event, request))
      (hgranted : granted added = [])

/-- Calls before it that subscribe to nothing make no difference. -/
theorem ActionAsked.after {request : RequestPtr} {event : Option EventPtr}
    {answer : Except Fault Bool} {first added : Trace} (hfirst : subscriptions first = [])
    (h : ActionAsked request event answer added) :
    ActionAsked request event answer (first ++ added) := by
  have hsubscriptions : subscriptions (first ++ added) = subscriptions added := by
    rw [subscriptions_append, hfirst, List.nil_append]
  have hgrants : granted (first ++ added) = granted added := by
    rw [granted_append, granted_of_none hfirst, List.nil_append]
  rcases h with ⟨found, hevent, hanswer, hmade, hgranted⟩ | ⟨hanswer, hmade, hgranted⟩
  · exact .accepted found hevent hanswer (hsubscriptions.trans hmade) (hgrants.trans hgranted)
  · exact .refused hanswer (hsubscriptions.trans hmade) (hgrants.trans hgranted)

section

variable {env : Environment} (request : RequestPtr) (capability : CapabilityPtr)

theorem channel_asked (env : Environment) (forwarder : SubscriberForwarder) (calls : Trace)
    (action : String) :
    ∃ added : Trace,
      ((MessageChannel.around forwarder).subscribe env calls request action).2 =
        calls ++ added ∧
      ActionAsked request (forwarder.resolve action)
        ((MessageChannel.around forwarder).subscribe env calls request action).1 added := by
  rw [Messaging.channel_subscribe]
  cases hresolve : forwarder.resolve action with
  | none => exact ⟨[], (List.append_nil calls).symm, .refused rfl rfl rfl⟩
  | some event =>
      refine ⟨[_], rfl, ?_⟩
      cases hanswer : env.subscribe calls event request with
      | false => exact .refused (congrArg Except.ok hanswer) rfl rfl
      | true => exact .accepted event rfl (congrArg Except.ok hanswer) rfl rfl

theorem eventOf_of_channel {s : Messaging} {forwarder : SubscriberForwarder} (action : String)
    (h : s.channel (CapabilitiesFactory.capabilities capability).getName =
      some (.around forwarder)) :
    eventOf s capability action = forwarder.resolve action := by
  rw [eventOf, h]
  rfl

/-- One subscription, whether or not it makes the channel. -/
theorem step_asked (henv : env.afbApi = true) {s : Messaging} (hwf : s.Wf) (action : String) :
    let done := Messaging.step env CapabilitiesFactory.capabilities s
      (.subscribe request capability action)
    ∃ added : Trace, done.1.calls = s.calls ++ added ∧
      ActionAsked request (eventOf done.1 capability action) done.2 added := by
  intro done
  by_cases hname : (CapabilitiesFactory.capabilities capability).getName = ""
  · have hdone : done = (s, .ok false) :=
      Messaging.subscribe_unnamed env CapabilitiesFactory.capabilities request action hname
    have hnone : eventOf s capability action = none := by
      rw [eventOf, hname]
      cases hchannel : s.channel "" with
      | none => rfl
      | some channel => exact absurd rfl (hwf.around "" channel hchannel).1
    refine ⟨[], ?_, ?_⟩
    · rw [hdone, List.append_nil]
    · rw [hdone, hnone]
      exact .refused rfl rfl rfl
  · cases hchannel : s.channel (CapabilitiesFactory.capabilities capability).getName with
    | none =>
        obtain ⟨forwarder, calls, hcreated, hstep⟩ := Messaging.subscribe_first henv
          CapabilitiesFactory.capabilities request action hname hchannel
        obtain ⟨events, hevents, honly, -⟩ := hcreated.calls
        obtain ⟨added, hadded, hasked⟩ := channel_asked request env forwarder calls action
        have hnone : subscriptions events = [] := by
          unfold subscriptions
          rw [List.filterMap_eq_nil_iff]
          intro call hcall
          obtain ⟨name, nonNull, rfl⟩ := honly call hcall
          rfl
        have hdone : done = _ := hstep
        have hevent : eventOf done.1 capability action = forwarder.resolve action := by
          refine eventOf_of_channel capability action ?_
          rw [hdone, Messaging.channel_withChannel hchannel, if_pos rfl]
        refine ⟨events ++ added, ?_, ?_⟩
        · rw [hdone, ← List.append_assoc, ← hevents]
          exact hadded
        · rw [hevent, hdone]
          exact hasked.after hnone
    | some channel =>
        obtain ⟨-, forwarder, rfl⟩ := hwf.around _ channel hchannel
        obtain ⟨added, hadded, hasked⟩ := channel_asked request env forwarder s.calls action
        have hdone : done = _ := Messaging.subscribe_found env CapabilitiesFactory.capabilities
          request action hname hchannel
        have hevent : eventOf done.1 capability action = forwarder.resolve action := by
          rw [hdone]
          exact eventOf_of_channel capability action hchannel
        refine ⟨added, ?_, ?_⟩
        · rw [hdone]
          exact hadded
        · rw [hevent, hdone]
          exact hasked

/-- The object stays. -/
theorem eventOf_run (henv : env.afbApi = true) {s : Messaging} (hwf : s.Wf) {action : String}
    {event : EventPtr} (h : eventOf s capability action = some event) (ops : List MessagingOp) :
    eventOf ((Messaging.machine env CapabilitiesFactory.capabilities).run s ops) capability
      action = some event := by
  obtain ⟨channel, hchannel, hevent⟩ := Option.bind_eq_some_iff.mp h
  have hkept := Messaging.channel_run henv CapabilitiesFactory.capabilities hwf hchannel ops
  rw [eventOf, hkept]
  exact hevent

/-- What the rounds before the end of the loop have done. -/
theorem after_actions_accepted (henv : env.afbApi = true) {b : Binding} (hwf : b.messaging.Wf)
    {actions : List String}
    (h : TryEach.Accepted (askAction env capability request) b actions) :
    ∃ events added,
      List.Forall₂ (fun action event => eventOf
        (TryEach.after (askAction env capability request) b actions).messaging capability
          action = some event) actions events ∧
      (TryEach.after (askAction env capability request) b actions).calls = b.calls ++ added ∧
      subscriptions added = (events.map fun event => (event, request)) ∧
      granted added = events.map fun event => (event, request) := by
  induction actions generalizing b with
  | nil => exact ⟨[], [], .nil, (List.append_nil b.calls).symm, rfl, rfl⟩
  | cons action rest ih =>
      have hnext := Messaging.wf_step henv CapabilitiesFactory.capabilities b.messaging
        (.subscribe request capability action) hwf
      obtain ⟨first, hfirst, hasked⟩ := step_asked request capability henv hwf action
      rcases hasked with ⟨event, hevent, -, hmade, hgranted⟩ | ⟨hanswer, -, -⟩
      · obtain ⟨events, others, hevents, hafter, hmade', hgranted'⟩ := ih (by exact hnext) h.2
        refine ⟨event :: events, first ++ others, .cons ?_ hevents, ?_, ?_, ?_⟩
        · rw [messaging_after_actions]
          exact eventOf_run capability henv hnext hevent _
        · rw [← List.append_assoc]
          exact hafter.trans (congrArg (· ++ others) hfirst)
        · rw [subscriptions_append, hmade, hmade', List.map_cons, List.singleton_append]
        · rw [granted_append, hgranted, hgranted', List.map_cons, List.singleton_append]
      · have htrue := h.1
        exact absurd (hanswer.symm.trans htrue) (by simp)

end

/-! ## A handler that fails -/

/-- The client has been subscribed to the events listed before the first that cannot be
subscribed to, and to nothing if it named no list. -/
def SubscribedBefore (b : Binding) (request : RequestPtr) (eventJ : Option Json) (done : Done) :
    Prop :=
  ∃ made : Trace, done.binding.calls = b.calls ++ made ∧
    (((∀ json ∈ eventJ, ∀ voiceAgentId names, ¬ AsksForEvents json voiceAgentId names) ∧
        subscriptions made = []) ∨
      ∃ json voiceAgentId front name back events, eventJ = some json ∧
        AsksForEvents json voiceAgentId (front ++ name :: back) ∧
        (∀ event, ¬ Subscribable b.sVoiceAgentsDataManager name voiceAgentId event) ∧
        List.Forall₂
          (fun name event => Subscribable b.sVoiceAgentsDataManager name voiceAgentId event)
          front events ∧
        subscriptions made = events.map fun event => (event, request))

/-- The events of the actions listed before the first that failed have accepted the client.
The one that failed has no event, or its event was asked and did not accept. -/
def AcceptedBefore (capability : CapabilityPtr) (b : Binding) (request : RequestPtr)
    (eventJ : Option Json) (done : Done) : Prop :=
  ∃ made : Trace, done.binding.calls = b.calls ++ made ∧
    (((∀ json ∈ eventJ, ∀ actions, ¬ AsksForActions json actions) ∧
        subscriptions made = []) ∨
      ∃ json front action back events, eventJ = some json ∧
        AsksForActions json (front ++ action :: back) ∧
        List.Forall₂
          (fun action event => eventOf done.binding.messaging capability action = some event)
          front events ∧
        granted made = (events.map fun event => (event, request)) ∧
        subscriptions made =
          (events ++ (eventOf done.binding.messaging capability action).toList).map
            fun event => (event, request))

theorem subscriptions_of_process {added : Trace}
    (h : ∀ call ∈ added, VoiceAgentsDataManager.IsSubscriptionCall call) :
    subscriptions added = [] := by
  unfold subscriptions
  rw [List.filterMap_eq_nil_iff]
  intro call hcall
  have honly := h call hcall
  cases call with
  | subscribe event request result => exact absurd honly not_false
  | _ => rfl

/-- The data manager in which the loop of `subscribe` runs has the same agents and events. -/
theorem subscribable_subscribed (env : Environment) {b : Binding} {name voiceAgentId : String}
    {event : EventPtr} :
    Subscribable (subscribed env b).sVoiceAgentsDataManager name voiceAgentId event ↔
      Subscribable b.sVoiceAgentsDataManager name voiceAgentId event := by
  obtain ⟨flag, added, hsubscribed, -⟩ := subscribed_only env b
  rw [hsubscribed]
  exact ⟨fun h => ⟨h.registered, h.name_mem, h.find⟩, fun h => ⟨h.registered, h.name_mem, h.find⟩⟩

theorem subscribed_named (env : Environment) {b : Binding} (h : BindingWf b) :
    ∀ id p, (subscribed env b).sVoiceAgentsDataManager.mVoiceAgents.find id = some p →
      ((subscribed env b).sVoiceAgentsDataManager.agents.object p).mId = id := by
  obtain ⟨flag, added, hsubscribed, -⟩ := subscribed_only env b
  rw [hsubscribed]
  exact h.registry.id_eq

theorem subscribe_failed {env : Environment} {b : Binding} (h : Reachable env b)
    {request : RequestPtr} {eventJ : Option Json}
    (hret : (subscribe env b request eventJ).ret = .ok (-1)) :
    SubscribedBefore b request eventJ (subscribe env b request eventJ) := by
  obtain ⟨flag, process, hsubscribed, honly⟩ := subscribed_only env b
  have hprocess : (subscribed env b).calls = b.calls ++ process := by rw [hsubscribed]
  have hnone := subscriptions_of_process honly
  rcases subscribe_cases env b request eventJ with
    ⟨json, voiceAgentId, names, hjson, hasks, heq⟩ | ⟨hunasked, ret, heq⟩
  · rw [heq] at hret ⊢
    rw [answered_ret_iff, subscribeToEvents_eq] at hret
    obtain ⟨front, name, back, hstops, -⟩ := (TryEach.tryEach_eq_iff (by simp)).mp hret
    have hnamed := subscribed_named env h.wf
    obtain ⟨events, added, hevents, hafter, hmade⟩ :=
      after_accepted env hnamed request voiceAgentId rfl hstops.accepted
    rcases askEvent_cases env hnamed request voiceAgentId
        (after_events_manager env request voiceAgentId (subscribed env b) front) name with
      ⟨event, last, -, -, htrue, -⟩ | ⟨hmissing, -, hcalls⟩
    · exact absurd htrue hstops.refused
    · refine ⟨process ++ added, ?_, Or.inr ⟨json, voiceAgentId, front, name, back, events, hjson,
        hstops.split ▸ hasks, ?_, ?_, ?_⟩⟩
      · rw [answered_binding, subscribeToEvents_eq, TryEach.tryEach_of_stopsAt hstops, hcalls,
          hafter, hprocess, List.append_assoc]
      · exact fun event hevent => hmissing event ((subscribable_subscribed env).mpr hevent)
      · exact hevents.imp fun _ _ => (subscribable_subscribed env).mp
      · rw [subscriptions_append, hnone, hmade, List.nil_append]
  · rw [heq]
    exact ⟨process, hprocess, Or.inl ⟨hunasked, hnone⟩⟩

theorem capabilitySubscribe_failed {env : Environment} {b : Binding} (h : Reachable env b)
    {capability : CapabilityPtr} {info : String} {request : RequestPtr} {eventJ : Option Json}
    (hret : (capabilitySubscribe env capability info b request eventJ).ret = .ok (-1)) :
    AcceptedBefore capability b request eventJ
      (capabilitySubscribe env capability info b request eventJ) := by
  rcases capabilitySubscribe_cases env capability info b request eventJ with
    ⟨json, actions, hjson, hasks, heq⟩ | ⟨hunasked, ret, heq⟩
  · rw [heq] at hret ⊢
    rw [answered_ret_iff, subscribeToActions_eq] at hret
    obtain ⟨front, action, back, hstops, -⟩ := (TryEach.tryEach_eq_iff (by simp)).mp hret
    obtain ⟨events, added, hevents, hafter, hmade, hgranted⟩ :=
      after_actions_accepted request capability h.afbApi h.messagingWf hstops.accepted
    have hwf : (TryEach.after (askAction env capability request) b front).messaging.Wf := by
      rw [messaging_after_actions]
      exact (Messaging.machine env CapabilitiesFactory.capabilities).run_invariant
        (Messaging.wf_step h.afbApi CapabilitiesFactory.capabilities) h.messagingWf _
    obtain ⟨last, hlast, hasked⟩ := step_asked request capability h.afbApi hwf action
    rcases hasked with ⟨event, -, htrue, -, -⟩ | ⟨-, hmade', hgranted'⟩
    · exact absurd htrue hstops.refused
    · have hbinding : (answered (some (.str info))
          (subscribeToActions env capability request b actions)).binding =
          (askAction env capability request
            (TryEach.after (askAction env capability request) b front) action).2 := by
        rw [answered_binding, subscribeToActions_eq, TryEach.tryEach_of_stopsAt hstops]
      refine ⟨added ++ last, ?_, Or.inr ⟨json, front, action, back, events, hjson,
        hstops.split ▸ hasks, ?_, ?_, ?_⟩⟩
      · rw [hbinding, ← List.append_assoc, ← hafter]
        exact hlast
      · refine hevents.imp fun name event hevent => ?_
        rw [hbinding]
        exact eventOf_run capability h.afbApi hwf hevent [.subscribe request capability action]
      · rw [granted_append, hgranted, hgranted', List.append_nil]
      · rw [subscriptions_append, hmade, hmade', hbinding, List.map_append]
        rfl
  · rw [heq]
    exact ⟨[], (List.append_nil b.calls).symm, Or.inl ⟨hunasked, rfl⟩⟩

/-- None of the four undoes anything when it fails. -/
theorem failed_subscription_keeps_front {env : Environment} {b : Binding}
    (h : Reachable env b) (request : RequestPtr) (eventJ : Option Json) :
    ((subscribe env b request eventJ).ret = .ok (-1) →
        SubscribedBefore b request eventJ (subscribe env b request eventJ)) ∧
      ((guiMetadataSubscribe env b request eventJ).ret = .ok (-1) →
        AcceptedBefore CapabilitiesFactory.getGuiMetadata b request eventJ
          (guiMetadataSubscribe env b request eventJ)) ∧
      ((phonecontrolSubscribe env b request eventJ).ret = .ok (-1) →
        AcceptedBefore CapabilitiesFactory.getPhoneControl b request eventJ
          (phonecontrolSubscribe env b request eventJ)) ∧
      ((navigationSubscribe env b request eventJ).ret = .ok (-1) →
        AcceptedBefore CapabilitiesFactory.getNavigation b request eventJ
          (navigationSubscribe env b request eventJ)) :=
  ⟨subscribe_failed h, capabilitySubscribe_failed h, capabilitySubscribe_failed h,
    capabilitySubscribe_failed h⟩

/-- A binding with one agent. -/
def oneAgent : Binding :=
  (machine .obliging).run ((CTLP_ONLOAD .obliging).get rfl)
    [.loadVoiceAgentsConfig (some (encodeAgents [.simple "VA-001" "alexa-api"] "VA-001"))]

theorem oneAgent_reachable : Reachable .obliging oneAgent := ⟨_, _, rfl, rfl⟩

/-- A request for an event that there is and one that there is not. -/
def halfKnown : Json :=
  .obj [(EVENTS_JSON_ATTR_VA_ID, .str "VA-001"),
    (EVENTS_JSON_ATTR_EVENTS, .arr [.str VSHL_EVENT_AUTH_STATE_EVENT, .str "bogus"])]

theorem failed_subscription_keeps_front_half :
    SubscribedBefore oneAgent 7 (some halfKnown)
      (subscribe .obliging oneAgent 7 (some halfKnown)) :=
  (failed_subscription_keeps_front oneAgent_reachable 7 (some halfKnown)).1 (by rfl)

/-- The client stays subscribed to the first of the two events although the handler fails. -/
theorem failed_subscription_keeps_grant :
    ¬ ∀ (env : Environment) (b : Binding) (request : RequestPtr) (eventJ : Option Json),
      Reachable env b → (subscribe env b request eventJ).ret = .ok (-1) →
      ∀ made, (subscribe env b request eventJ).binding.calls = b.calls ++ made →
        granted made = [] := by
  intro h
  have hnone := h .obliging oneAgent 7 (some halfKnown) oneAgent_reachable (by rfl)
    ((subscribe .obliging oneAgent 7 (some halfKnown)).binding.calls.drop oneAgent.calls.length)
    (by rfl)
  exact absurd hnone (by decide)

/-! ## A handler that succeeds -/

/-- The data manager reports a subscription exactly if there is an event and it accepts. -/
def ReportsAnswer (env : Environment) (s : State) (request : RequestPtr)
    (eventName voiceAgentId : String) : Prop :=
  ((VoiceAgents.machine env).output s (.subscribe request eventName voiceAgentId)).result =
      .bool true ↔
    ∃ event, Subscribable s.manager eventName voiceAgentId event ∧
      env.subscribe s.calls event request = true

/-- If there is an event, it accepts. -/
def Accepts (env : Environment) (s : State) (request : RequestPtr)
    (eventName voiceAgentId : String) : Prop :=
  ∀ event, Subscribable s.manager eventName voiceAgentId event →
    env.subscribe s.calls event request = true

theorem reportsAnswer_iff (env : Environment) {s : State} (hwf : AgentsWf s)
    (request : RequestPtr) (eventName voiceAgentId : String) :
    ReportsAnswer env s request eventName voiceAgentId ↔
      Accepts env s request eventName voiceAgentId := by
  have hresult : ((VoiceAgents.machine env).output s
      (.subscribe request eventName voiceAgentId)).result = .bool true ↔
      ∃ event, Subscribable s.manager eventName voiceAgentId event := by
    constructor
    · exact fun htrue => (subscribe_eq_true_iff hwf.id_eq).mp (Result.ofExcept_eq_bool htrue)
    · exact fun hevent => congrArg Result.ofExcept ((subscribe_eq_true_iff hwf.id_eq).mpr hevent)
  unfold ReportsAnswer
  rw [hresult]
  constructor
  · intro h event hevent
    obtain ⟨other, hother, haccepts⟩ := h.mp ⟨event, hevent⟩
    rw [hevent.unique hother]
    exact haccepts
  · intro h
    exact ⟨fun ⟨event, hevent⟩ => ⟨event, hevent, h event hevent⟩,
      fun ⟨event, hevent, _⟩ => ⟨event, hevent⟩⟩

/-- `subscribe` reports a success only if the client was subscribed to every event it asked
for. -/
def SuccessIsGranted (env : Environment) (b : Binding) (request : RequestPtr)
    (eventJ : Option Json) : Prop :=
  ∀ json voiceAgentId names made, eventJ = some json → AsksForEvents json voiceAgentId names →
    (∃ response, (subscribe env b request eventJ).reply = some (.success response)) →
    (subscribe env b request eventJ).binding.calls = b.calls ++ made →
    ∀ name ∈ names, ∃ event, Subscribable b.sVoiceAgentsDataManager name voiceAgentId event ∧
      (event, request) ∈ granted made

/-- The data manager when the names before this one have been subscribed to. -/
def reached (env : Environment) (b : Binding) (request : RequestPtr) (voiceAgentId : String)
    (front : List String) : State :=
  (VoiceAgents.machine env).run (subscribed env b).state
    (front.map fun name => .subscribe request name voiceAgentId)

/-- If there is an event for every name, then each accepts when one of the places of its name
is reached. -/
def EachAccepts (env : Environment) (b : Binding) (request : RequestPtr)
    (eventJ : Option Json) : Prop :=
  ∀ json voiceAgentId names, eventJ = some json → AsksForEvents json voiceAgentId names →
    (∀ name ∈ names, ∃ event, Subscribable b.sVoiceAgentsDataManager name voiceAgentId event) →
    ∀ name ∈ names, ∃ front back, names = front ++ name :: back ∧
      Accepts env (reached env b request voiceAgentId front) request name voiceAgentId

theorem after_events_state (env : Environment) (request : RequestPtr) (voiceAgentId : String)
    (b : Binding) (names : List String) :
    (TryEach.after (askEvent env request voiceAgentId) b names).state =
      (VoiceAgents.machine env).run b.state
        (names.map fun name => .subscribe request name voiceAgentId) := by
  induction names generalizing b with
  | nil => rfl
  | cons name rest ih => exact ih (askEvent env request voiceAgentId b name).2

theorem subscribable_reached {env : Environment} {b : Binding} {request : RequestPtr}
    {voiceAgentId : String} {front : List String} {name : String} {event : EventPtr} :
    Subscribable (reached env b request voiceAgentId front).manager name voiceAgentId event ↔
      Subscribable b.sVoiceAgentsDataManager name voiceAgentId event := by
  obtain ⟨calls, hcalls⟩ := after_events env request voiceAgentId (subscribed env b) front
  rw [← subscribable_subscribed env, reached, ← after_events_state, hcalls]
  rfl

theorem subscribe_of_asks {env : Environment} {b : Binding} {request : RequestPtr}
    {eventJ : Option Json} {json : Json} {voiceAgentId : String} {names : List String}
    (hjson : eventJ = some json) (hasks : AsksForEvents json voiceAgentId names) :
    subscribe env b request eventJ = answered subscribeReply
      (tryEach (askEvent env request voiceAgentId) (subscribed env b) names) := by
  rcases subscribe_cases env b request eventJ with
    ⟨json', voiceAgentId', names', hjson', hasks', heq⟩ | ⟨hunasked, -⟩
  · obtain rfl : json = json' := Option.some.inj (hjson.symm.trans hjson')
    obtain ⟨rfl, rfl⟩ := hasks.unique hasks'
    rw [heq, subscribeToEvents_eq]
  · exact absurd hasks (hunasked json hjson voiceAgentId names)

section

variable {env : Environment} {b : Binding} (h : Reachable env b) {request : RequestPtr}
  {eventJ : Option Json} {json : Json} {voiceAgentId : String} {names : List String}
  (hjson : eventJ = some json) (hasks : AsksForEvents json voiceAgentId names)

include h hjson hasks

theorem subscribe_success_iff :
    (∃ response, (subscribe env b request eventJ).reply = some (.success response)) ↔
      ∀ name ∈ names, ∃ event,
        Subscribable b.sVoiceAgentsDataManager name voiceAgentId event := by
  have hloop := accepted_iff_subscribable env (subscribed_named env h.wf) request voiceAgentId
    rfl names
  simp only [subscribable_subscribed] at hloop
  rw [subscribe_of_asks hjson hasks, ← hloop, ← TryEach.tryEach_eq_true_iff]
  constructor
  · rintro ⟨response, hreply⟩
    rcases htried : tryEach (askEvent env request voiceAgentId) (subscribed env b) names with
      ⟨fault | (_ | _), b'⟩
    · rw [htried] at hreply
      exact absurd hreply (by simp [answered, Binding.return])
    · rw [htried] at hreply
      exact absurd hreply (by simp [answered, Binding.return])
    · rfl
  · exact fun htrue => ⟨subscribeReply, answered_reply_iff.mpr htrue⟩

/-- Which events have accepted the client when `subscribe` succeeds. -/
theorem mem_granted_of_success
    (hall : ∀ name ∈ names, ∃ event,
      Subscribable b.sVoiceAgentsDataManager name voiceAgentId event) {made : Trace}
    (hmade : (subscribe env b request eventJ).binding.calls = b.calls ++ made)
    {name : String} {event : EventPtr}
    (hevent : Subscribable b.sVoiceAgentsDataManager name voiceAgentId event) :
    (event, request) ∈ granted made ↔
      ∃ front back, names = front ++ name :: back ∧
        Accepts env (reached env b request voiceAgentId front) request name voiceAgentId := by
  obtain ⟨flag, process, hsubscribed, honly⟩ := subscribed_only env b
  have hprocess : (subscribed env b).calls = b.calls ++ process := by rw [hsubscribed]
  have hnamed := subscribed_named env h.wf
  have hloop : TryEach.Accepted (askEvent env request voiceAgentId) (subscribed env b) names := by
    rw [accepted_iff_subscribable env hnamed request voiceAgentId rfl]
    simp only [subscribable_subscribed]
    exact hall
  obtain ⟨-, added, -, hafter, -⟩ := after_accepted env hnamed request voiceAgentId rfl hloop
  have hsplit : made = process ++ added := by
    rw [subscribe_of_asks hjson hasks, answered_binding, TryEach.tryEach_of_accepted hloop,
      hafter, hprocess, List.append_assoc] at hmade
    exact (List.append_cancel_left hmade).symm
  rw [hsplit, granted_append, granted_of_none (subscriptions_of_process honly), List.nil_append,
    mem_granted_after env hnamed request voiceAgentId rfl hloop hafter]
  have hcalls : ∀ front, (TryEach.after (askEvent env request voiceAgentId) (subscribed env b)
      front).calls = (reached env b request voiceAgentId front).calls :=
    fun front => congrArg State.calls (after_events_state env request voiceAgentId _ front)
  constructor
  · rintro ⟨front, name', back, rfl, hevent', haccepts⟩
    obtain rfl := hevent.name_unique h.wf.registry.backed ((subscribable_subscribed env).mp hevent')
    refine ⟨front, back, rfl, fun other hother => ?_⟩
    rw [(subscribable_reached.mp hother).unique hevent, ← hcalls]
    exact haccepts
  · rintro ⟨front, back, rfl, haccepts⟩
    refine ⟨front, name, back, rfl, (subscribable_subscribed env).mpr hevent, ?_⟩
    rw [hcalls]
    exact haccepts event (subscribable_reached.mpr hevent)

end

theorem successIsGranted_iff {env : Environment} {b : Binding} (h : Reachable env b)
    (request : RequestPtr) (eventJ : Option Json) :
    SuccessIsGranted env b request eventJ ↔ EachAccepts env b request eventJ := by
  constructor
  · intro hgranted json voiceAgentId names hjson hasks hall name hname
    obtain ⟨made, hmade⟩ := (subscribe_acts env b request eventJ).calls_extend
    obtain ⟨event, hevent, hmem⟩ := hgranted json voiceAgentId names made hjson hasks
      ((subscribe_success_iff h hjson hasks).mpr hall) hmade.symm name hname
    exact (mem_granted_of_success h hjson hasks hall hmade.symm hevent).mp hmem
  · intro haccepts json voiceAgentId names made hjson hasks hsuccess hmade name hname
    have hall := (subscribe_success_iff h hjson hasks).mp hsuccess
    obtain ⟨event, hevent⟩ := hall name hname
    refine ⟨event, hevent, ?_⟩
    exact (mem_granted_of_success h hjson hasks hall hmade hevent).mpr
      (haccepts json voiceAgentId names hjson hasks hall name hname)

/-- The two results agree with what the events answered exactly when no event refuses; the
answer itself is dropped. -/
theorem subscription_results_iff (env : Environment) :
    (∀ ops request eventName voiceAgentId,
      let s := (VoiceAgents.machine env).run .initial ops
      ReportsAnswer env s request eventName voiceAgentId ↔
        Accepts env s request eventName voiceAgentId) ∧
    ∀ b, Reachable env b → ∀ request eventJ,
      SuccessIsGranted env b request eventJ ↔ EachAccepts env b request eventJ :=
  ⟨fun ops => reportsAnswer_iff env (agentsWf_run env ops),
    fun _ h => successIsGranted_iff h⟩

theorem subscription_results_iff_oneAgent :
    SuccessIsGranted .obliging oneAgent 7 (some halfKnown) ↔
      EachAccepts .obliging oneAgent 7 (some halfKnown) :=
  (subscription_results_iff .obliging).2 oneAgent oneAgent_reachable 7 (some halfKnown)

/-- An outside in which no event accepts a subscription. -/
def unsubscribable : Environment :=
  { Environment.obliging with subscribe := fun _ _ _ => false }

/-- A request for one event. -/
def authState : Json :=
  .obj [(EVENTS_JSON_ATTR_VA_ID, .str "VA-001"),
    (EVENTS_JSON_ATTR_EVENTS, .arr [.str VSHL_EVENT_AUTH_STATE_EVENT])]

/-- The event refuses, and both results say that it did not. -/
theorem refused_subscription_reported_as_success :
    (¬ ∀ (env : Environment) ops request eventName voiceAgentId,
        ReportsAnswer env ((VoiceAgents.machine env).run .initial ops) request eventName
          voiceAgentId) ∧
      ¬ ∀ (env : Environment) b, Reachable env b → ∀ request eventJ,
        SuccessIsGranted env b request eventJ := by
  constructor
  · intro hreports
    have hreport := hreports unsubscribable
      [.addNewVoiceAgent (.simple "VA-001" "alexa-api")] 7 VSHL_EVENT_AUTH_STATE_EVENT "VA-001"
    obtain ⟨event, -, haccepts⟩ := hreport.mp (by rfl)
    have hrefuses : ∀ calls, unsubscribable.subscribe calls event 7 = false := fun _ => rfl
    rw [hrefuses] at haccepts
    exact absurd haccepts (by simp)
  · intro hgrants
    let b := (machine unsubscribable).run ((CTLP_ONLOAD unsubscribable).get rfl)
      [.loadVoiceAgentsConfig (some (encodeAgents [.simple "VA-001" "alexa-api"] "VA-001"))]
    have hreachable : Reachable unsubscribable b := ⟨_, _, rfl, rfl⟩
    obtain ⟨made, hmade⟩ := (subscribe_acts unsubscribable b 7 (some authState)).calls_extend
    have hnone : granted made = [] := by
      have hall : granted (subscribe unsubscribable b 7 (some authState)).binding.calls = [] := by
        decide
      rw [← hmade, granted_append] at hall
      exact (List.append_eq_nil_iff.mp hall).2
    have hreply : (subscribe unsubscribable b 7 (some authState)).reply =
        some (.success subscribeReply) := by rfl
    obtain ⟨event, -, hmem⟩ := hgrants unsubscribable b hreachable 7 (some authState)
      authState "VA-001" [VSHL_EVENT_AUTH_STATE_EVENT] made rfl ⟨rfl, rfl⟩ ⟨_, hreply⟩
      hmade.symm VSHL_EVENT_AUTH_STATE_EVENT List.mem_cons_self
    rw [hnone] at hmem
    exact absurd hmem List.not_mem_nil

end Vshl.Api
