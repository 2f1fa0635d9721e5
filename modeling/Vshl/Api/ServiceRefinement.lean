/-
  Api/ServiceRefinement.lean --- the binding is the service.

  What the binding remembers is what the service remembers, whatever the outside answers.
  What a client is told is what the service answers if every event can be created and no
  event refuses a subscription.
-/
import Vshl.Api.EventNames
import Vshl.Api.Service
import Vshl.Api.WellTyped

set_option autoImplicit false

namespace Vshl.Api

open Vshl.Foundation
open Vshl.Interfaces
open Vshl.VoiceAgents
open Vshl.Core
open Vshl.Capabilities

/-- The service that the binding is. -/
def Binding.service (b : Binding) : Service where
  agents id := (b.sVoiceAgentsDataManager.mVoiceAgents.find id).map
    b.sVoiceAgentsDataManager.agents.object
  default := b.sVoiceAgentsDataManager.mDefaultVoiceAgentId
  opened name := (b.messaging.channel name).isSome

theorem service_loaded {env : Environment} {loaded : Binding}
    (h : CTLP_ONLOAD env = some loaded) : loaded.service = .initial := by
  obtain ⟨-, rfl⟩ := CTLP_ONLOAD_eq_some_iff.mp h
  rfl

theorem service_agents_isSome {b : Binding} {id : String} :
    (b.service.agents id).isSome ↔ id ∈ b.sVoiceAgentsDataManager.mVoiceAgents := by
  rw [UnorderedMap.mem_iff_find, ← Option.isSome_iff_exists]
  simp only [Binding.service, Option.isSome_map]

/-! ## Calls on the data manager -/

section

variable (env : Environment)

theorem service_subscribed (b : Binding) : (subscribed env b).service = b.service := by
  obtain ⟨flag, added, hsubscribed, -⟩ := subscribed_only env b
  rw [hsubscribed]
  rfl

theorem service_rehash (b : Binding) (voiceAgents : UnorderedMap String AgentPtr)
    (observers : UnorderedSet ObserverPtr) :
    (b.dataManager env (.rehash voiceAgents observers)).1.service = b.service := by
  have hmanager : (b.dataManager env (.rehash voiceAgents observers)).1.sVoiceAgentsDataManager =
      VoiceAgents.rehash b.sVoiceAgentsDataManager voiceAgents observers := rfl
  have hmessaging : ∀ name, (b.dataManager env
      (.rehash voiceAgents observers)).1.messaging.channel name = b.messaging.channel name :=
    fun _ => rfl
  simp only [Binding.service, hmanager, hmessaging]
  unfold VoiceAgents.rehash
  split
  · rename_i hperm
    simp only [UnorderedMap.Reordered.find hperm.1]
  · rfl

/-- What is merged into the registry is what the service registers. -/
theorem service_of_merged {b b' : Binding} {described : List (Option VoiceAgent.Args)}
    (h : Merged described b.sVoiceAgentsDataManager b'.sVoiceAgentsDataManager)
    (hservice : b'.sCapabilityMessagingService = b.sCapabilityMessagingService) :
    b'.service = b.service.register described := by
  have hagents : ∀ id, b'.service.agents id =
      (b.service.agents id).or ((firstValid described id).bind VoiceAgent.create) := by
    intro id
    simp only [Binding.service]
    cases hfind : b.sVoiceAgentsDataManager.mVoiceAgents.find id with
    | some p =>
        obtain ⟨hkept, hobject⟩ := h.keeps id p hfind
        rw [hkept, Option.map_some, Option.map_some, hobject, Option.some_or]
    | none =>
        rw [Option.map_none, Option.none_or]
        cases hfirst : firstValid described id with
        | none => rw [h.skips id hfind hfirst, Option.map_none, Option.bind_none]
        | some args =>
            obtain ⟨p, hp, hcreate⟩ := h.adds id args hfind hfirst
            rw [hp, Option.map_some, Option.bind_some, hcreate]
  have hopened : ∀ name, b'.service.opened name = b.service.opened name := by
    intro name
    simp only [Binding.service, Binding.messaging, Messaging.channel, hservice]
  have hdefault : b'.service.default = b.service.default := h.default
  calc b'.service = ⟨b'.service.agents, b'.service.default, b'.service.opened⟩ := rfl
    _ = b.service.register described := by
      rw [funext hagents, funext hopened, hdefault]
      rfl

theorem service_setDefault {b : Binding} (hwf : BindingWf b) (id : String) :
    (b.dataManager env (.setDefaultVoiceAgent id)).1.service = b.service.setDefault id := by
  have hmanager : (b.dataManager env (.setDefaultVoiceAgent id)).1.sVoiceAgentsDataManager =
      (b.sVoiceAgentsDataManager.setDefaultVoiceAgent id).manager := rfl
  have hmessaging : ∀ name, (b.dataManager env
      (.setDefaultVoiceAgent id)).1.messaging.channel name = b.messaging.channel name :=
    fun _ => rfl
  simp only [Binding.service, hmanager, hmessaging, Service.setDefault, Option.isSome_map]
  cases hfind : b.sVoiceAgentsDataManager.mVoiceAgents.find id with
  | none =>
      rw [VoiceAgentsDataManager.setDefaultVoiceAgent_refused (by rw [hfind]; simp)]
      rfl
  | some p =>
      have hid : id ≠ "" := hwf.registry.id_ne id p hfind
      rw [VoiceAgentsDataManager.setDefaultVoiceAgent_of_find hid hfind]
      rfl

/-- The data manager's answer is whether the agent is known. -/
theorem setDefault_result {b : Binding} (hwf : BindingWf b) (id : String) :
    (b.dataManager env (.setDefaultVoiceAgent id)).2.result =
      .bool (b.service.agents id).isSome := by
  have hmanager : (b.dataManager env (.setDefaultVoiceAgent id)).2.result =
      .bool (b.sVoiceAgentsDataManager.setDefaultVoiceAgent id).result := rfl
  rw [hmanager]
  simp only [Binding.service, Option.isSome_map]
  cases hfind : b.sVoiceAgentsDataManager.mVoiceAgents.find id with
  | none =>
      rw [VoiceAgentsDataManager.setDefaultVoiceAgent_refused (by rw [hfind]; simp)]
      rfl
  | some p =>
      rw [VoiceAgentsDataManager.setDefaultVoiceAgent_of_find (hwf.registry.id_ne _ p hfind) hfind]
      rfl

/-- The loop over the entries of a configuration, whatever they are. -/
theorem loadAgents_reads {b : Binding} (henv : env.afbApi = true) (hwf : BindingWf b)
    (entries : List Json) :
    (loadAgents env b entries).1 = (readEntries entries).1 ∧
      Merged (readEntries entries).2 b.sVoiceAgentsDataManager
        (loadAgents env b entries).2.1.sVoiceAgentsDataManager ∧
      BindingWf (loadAgents env b entries).2.1 := by
  have hnothing : ∀ manager : VoiceAgentsDataManager, Merged [] manager manager :=
    fun manager => Merged.refl fun id args _ => by simp [firstValid]
  induction entries generalizing b with
  | nil => exact ⟨rfl, hnothing _, hwf⟩
  | cons entry rest ih =>
      have hnext := hwf.acts henv (loadAgent_acts env b entry)
      cases hmisses : missesParam entry with
      | true =>
          have hround : loadAgent env b entry = (.ok (), b, []) := if_pos hmisses
          obtain ⟨hresult, hmerged, hwf'⟩ := ih hwf
          have hsame : Merged [none] b.sVoiceAgentsDataManager b.sVoiceAgentsDataManager :=
            Merged.refl fun id args _ => by simp [firstValid_none]
          simp only [loadAgents, readEntries, hround, hmisses, if_true]
          exact ⟨hresult, hsame.append hmerged, hwf'⟩
      | false =>
          cases hdecode : decodeAgent entry with
          | error fault =>
              have hround : loadAgent env b entry = (.error fault, b, []) := by
                simp only [loadAgent, hmisses, hdecode, Bool.false_eq_true, if_false]
              simp only [loadAgents, readEntries, hround, hmisses, hdecode, Bool.false_eq_true,
                if_false]
              exact ⟨trivial, hnothing _, hwf⟩
          | ok args =>
              have hround : loadAgent env b entry =
                  (.ok (), (b.dataManager env (.addNewVoiceAgent args)).1,
                    (b.dataManager env (.addNewVoiceAgent args)).2.notified) := by
                simp only [loadAgent, hmisses, hdecode, Bool.false_eq_true, if_false]
              rw [hround] at hnext
              obtain ⟨hresult, hmerged, hwf'⟩ := ih hnext
              have hadd := addNewVoiceAgent_merged env b.calls args hwf.registry.lt_next
              simp only [loadAgents, readEntries, hround, hmisses, hdecode, Bool.false_eq_true,
                if_false]
              exact ⟨hresult, hadd.append hmerged, hwf'⟩

end

/-! ## Calls on the messaging service -/

/-- After a subscription the capability has a channel, which has answered. -/
theorem subscribe_channel {env : Environment} (henv : env.afbApi = true) {s : Messaging}
    (hwf : s.Wf) (request : RequestPtr) (capability : CapabilityPtr) (action : String) :
    let done := Messaging.step env CapabilitiesFactory.capabilities s
      (.subscribe request capability action)
    ∃ forwarder calls,
      (s.channel (CapabilitiesFactory.capabilities capability).getName =
          some (.around forwarder) ∨
        ∃ made, SubscriberForwarder.create env CapabilitiesFactory.capabilities s.calls
          capability = (some forwarder, made)) ∧
      done.2 = ((MessageChannel.around forwarder).subscribe env calls request action).1 ∧
      ∀ name, done.1.channel name =
        if name = (CapabilitiesFactory.capabilities capability).getName then
          some (.around forwarder)
        else s.channel name := by
  intro done
  rcases messaging_subscribe_cases henv hwf request capability action with
    ⟨forwarder, hchannel, hdone⟩ | ⟨forwarder, made, hchannel, hcreate, -, hdone⟩
  · refine ⟨forwarder, s.calls, Or.inl hchannel, congrArg Prod.snd hdone, ?_⟩
    intro name
    refine (congrArg (fun t => t.1.channel name) hdone).trans ?_
    split
    · rename_i heq
      rw [heq]
      exact hchannel
    · rfl
  · refine ⟨forwarder, made, Or.inr ⟨made, hcreate⟩, congrArg Prod.snd hdone, ?_⟩
    intro name
    refine (congrArg (fun t => t.1.channel name) hdone).trans ?_
    exact Messaging.channel_withChannel hchannel forwarder _ name

theorem service_askAction {env : Environment} {b : Binding} (h : MoveWf env b)
    (request : RequestPtr) (capability : CapabilityPtr) (action : String) :
    (askAction env capability request b action).2.service =
      { b.service with
        opened := Function.update b.service.opened
          (CapabilitiesFactory.capabilities capability).getName true } := by
  obtain ⟨forwarder, calls, -, -, hchannels⟩ :=
    subscribe_channel h.afbApi h.messaging request capability action
  have hopened : ∀ name, (askAction env capability request b action).2.service.opened name =
      Function.update b.service.opened
        (CapabilitiesFactory.capabilities capability).getName true name := by
    intro name
    refine (congrArg Option.isSome (hchannels name)).trans ?_
    rw [Function.update_apply]
    split
    · rfl
    · rfl
  exact congrArg (Service.mk b.service.agents b.service.default) (funext hopened)

theorem MoveWf.askAction {env : Environment} {b : Binding} (h : MoveWf env b)
    (request : RequestPtr) (capability : CapabilityPtr) (action : String) :
    MoveWf env (askAction env capability request b action).2 :=
  h.move (m := .messaging (.subscribe request capability action)) trivial

/-- The loop of a capability subscription opens the capability, unless it asks for nothing. -/
theorem service_subscribeToActions {env : Environment} {b : Binding} (h : MoveWf env b)
    (request : RequestPtr) (capability : CapabilityPtr) (actions : List String) :
    (subscribeToActions env capability request b actions).2.service =
      b.service.openCapability capability actions := by
  rw [subscribeToActions_eq]
  induction actions generalizing b with
  | nil => rfl
  | cons action rest ih =>
      have hround := service_askAction h request capability action
      have hopen : b.service.openCapability capability (action :: rest) =
          (askAction env capability request b action).2.service := by
        rw [hround, Service.openCapability, if_neg (List.cons_ne_nil _ _)]
      rw [hopen]
      by_cases htrue : (askAction env capability request b action).1 = .ok true
      · rw [TryEach.tryEach_cons_of_true htrue, ih (h.askAction request capability action),
          hround]
        unfold Service.openCapability
        split
        · rfl
        · simp only [Function.update_idem]
      · rw [TryEach.tryEach_cons_of_ne htrue]

/-! ## An outside that fails no event -/

/-- Every event can be created, and none refuses a subscription. -/
structure Dependable (env : Environment) : Prop where
  creates : ∀ calls eventName, env.createEvent calls eventName = true
  subscribes : ∀ calls event request, env.subscribe calls event request = true

/-- Every channel has an event for each action of its capability, and for no other. -/
def ChannelsComplete (b : Binding) : Prop :=
  ∀ capability forwarder,
    b.messaging.channel (CapabilitiesFactory.capabilities capability).getName =
      some (.around forwarder) →
    ∀ action, (∃ event, forwarder.resolve action = some event) ↔ action ∈ actionsOf capability

/-- The binding lacks no event. -/
structure Healthy (env : Environment) (b : Binding) : Prop where
  dependable : Dependable env
  moves : MoveWf env b
  noNulls : NoNulls b.sVoiceAgentsDataManager.mVoiceAgentEventsHandler
  complete : ChannelsComplete b

section

variable {env : Environment}

theorem mem_createEventsOf (henv : env.afbApi = true) (hdependable : Dependable env)
    (calls : Trace) (eventNames : List String) (name : String) :
    name ∈ (SubscriberForwarder.createEventsOf env calls eventNames).1 ↔ name ∈ eventNames := by
  have hround : ∀ (state : EventsMap × Trace) eventName,
      name ∈ (SubscriberForwarder.createEvent env state eventName).1 ↔
        name = eventName ∨ name ∈ state.1 := by
    intro state eventName
    unfold SubscriberForwarder.createEvent
    split
    · simp only [Environment.doCreateEvent, hdependable.creates, if_true]
      exact UnorderedMap.mem_emplace
    · rename_i hguard
      have hmem : eventName ∈ state.1 := by
        by_contra hnot
        exact hguard ⟨hnot, henv⟩
      constructor
      · exact Or.inr
      · rintro (rfl | hbefore)
        · exact hmem
        · exact hbefore
  have hloop : ∀ (eventNames : List String) (state : EventsMap × Trace),
      name ∈ (eventNames.foldl (SubscriberForwarder.createEvent env) state).1 ↔
        name ∈ eventNames ∨ name ∈ state.1 := by
    intro eventNames
    induction eventNames with
    | nil => simp
    | cons eventName rest ih =>
        intro state
        rw [List.foldl_cons, ih, hround, List.mem_cons, ← or_assoc, or_comm (a := name ∈ rest)]
  refine (hloop eventNames (∅, calls)).trans (or_iff_left ?_)
  exact AList.notMem_empty name

theorem resolve_created (henv : env.afbApi = true) (hdependable : Dependable env)
    {calls made : Trace} {capability : CapabilityPtr} {forwarder : SubscriberForwarder}
    (hcreate : SubscriberForwarder.create env CapabilitiesFactory.capabilities calls capability =
      (some forwarder, made)) (action : String) :
    (∃ event, forwarder.resolve action = some event) ↔ action ∈ actionsOf capability := by
  unfold SubscriberForwarder.create at hcreate
  rw [if_neg (by simp [henv])] at hcreate
  obtain rfl := Option.some.inj (congrArg Prod.fst hcreate)
  rw [SubscriberForwarder.resolve_isSome_iff, mem_createEventsOf henv hdependable,
    mem_createEventsOf henv hdependable, actionsOf, List.mem_append]

theorem ChannelsComplete.message {b : Binding} (h : ChannelsComplete b) (hwf : MoveWf env b)
    (hdependable : Dependable env) (op : MessagingOp) : ChannelsComplete (b.message env op) := by
  cases op with
  | publish capability action payload => exact h
  | subscribe request capability action =>
      obtain ⟨forwarder, calls, hmade, -, hchannels⟩ :=
        subscribe_channel hwf.afbApi hwf.messaging request capability action
      have hcomplete : ∀ action, (∃ event, forwarder.resolve action = some event) ↔
          action ∈ actionsOf capability := by
        rcases hmade with hfound | ⟨made, hcreate⟩
        · exact h capability forwarder hfound
        · exact resolve_created hwf.afbApi hdependable hcreate
      intro capability' forwarder' hchannel
      have hchannel' := (hchannels _).symm.trans hchannel
      split at hchannel'
      · rename_i hname
        obtain rfl := MessageChannel.around_inj (Option.some.inj hchannel')
        rw [actionsOf_of_name hname]
        exact hcomplete
      · exact h capability' forwarder' hchannel'

theorem Healthy.move {b : Binding} (h : Healthy env b) {m : Move} (hm : m.IsExposed) :
    Healthy env (b.move env m) := by
  refine ⟨h.dependable, h.moves.move hm, h.noNulls.move h.dependable.creates hm, ?_⟩
  cases m with
  | dataManager op => exact h.complete
  | startListening => exact h.complete
  | messaging op => exact h.complete.message h.moves h.dependable op

theorem Healthy.handle {b : Binding} (h : Healthy env b) (verb : Verb) :
    Healthy env (handle env b verb).binding :=
  (handle_performs env b verb).invariant h fun _ _ hm hb => hb.move hm.isExposed

theorem healthy_loaded (hdependable : Dependable env) {loaded : Binding}
    (hloaded : CTLP_ONLOAD env = some loaded) : Healthy env loaded := by
  refine ⟨hdependable, Reachable.moveWf ⟨loaded, [], hloaded, rfl⟩, noNulls_loaded hloaded, ?_⟩
  obtain ⟨-, rfl⟩ := CTLP_ONLOAD_eq_some_iff.mp hloaded
  intro capability forwarder hchannel
  exact absurd hchannel ((UnorderedMap.find_empty _).trans_ne (by simp))

end

/-! ## The answers of the loops -/

section

variable {env : Environment} {b : Binding}

/-- There is an event to subscribe to exactly if the agent is registered and the name known. -/
theorem subscribable_iff (hwf : BindingWf b)
    (hnulls : NoNulls b.sVoiceAgentsDataManager.mVoiceAgentEventsHandler)
    (eventName voiceAgentId : String) :
    (∃ event, Subscribable b.sVoiceAgentsDataManager eventName voiceAgentId event) ↔
      (b.service.agents voiceAgentId).isSome ∧ eventName ∈ VSHL_EVENTS := by
  rw [service_agents_isSome]
  constructor
  · rintro ⟨event, h⟩
    exact ⟨h.registered, h.name_mem⟩
  · rintro ⟨hregistered, hname⟩
    have hkey : createEventNameWithVAId eventName voiceAgentId ∈
        b.sVoiceAgentsDataManager.mVoiceAgentEventsHandler.mEventsMap :=
      (hwf.registry.owns _).mpr ⟨voiceAgentId, hregistered, eventName, hname, rfl⟩
    obtain ⟨stored, hstored⟩ := UnorderedMap.mem_iff_find.mp hkey
    cases stored with
    | none => exact absurd hstored (hnulls _)
    | some event => exact ⟨event, hregistered, hname, hstored⟩

theorem subscribeToEvents_answer (hwf : BindingWf b)
    (hnulls : NoNulls b.sVoiceAgentsDataManager.mVoiceAgentEventsHandler) (request : RequestPtr)
    (voiceAgentId : String) (events : List String) :
    (subscribeToEvents env request voiceAgentId b events).1 = .ok (decide
      (∀ event ∈ events, (b.service.agents voiceAgentId).isSome ∧ event ∈ VSHL_EVENTS)) := by
  have hnamed : ∀ id p, b.sVoiceAgentsDataManager.mVoiceAgents.find id = some p →
      (b.sVoiceAgentsDataManager.agents.object p).mId = id := hwf.registry.id_eq
  have haccepted := accepted_iff_subscribable env hnamed request voiceAgentId rfl events
  simp only [subscribable_iff hwf hnulls] at haccepted
  rw [subscribeToEvents_eq]
  by_cases hall : ∀ event ∈ events, (b.service.agents voiceAgentId).isSome ∧ event ∈ VSHL_EVENTS
  · rw [decide_eq_true hall]
    exact TryEach.tryEach_eq_true_iff.mpr (haccepted.mpr hall)
  · rw [decide_eq_false hall]
    cases hanswer : (tryEach (askEvent env request voiceAgentId) b events).1 with
    | ok done =>
        cases done with
        | false => rfl
        | true => exact absurd (haccepted.mp (TryEach.tryEach_eq_true_iff.mp hanswer)) hall
    | error fault =>
        obtain ⟨front, name, back, -, -, hfault⟩ :=
          TryEach.tryEach_error_iff.mp ⟨fault, hanswer⟩
        have hsame : (TryEach.after (askEvent env request voiceAgentId) b
            front).sVoiceAgentsDataManager = b.sVoiceAgentsDataManager :=
          after_events_manager env request voiceAgentId b front
        have hnull := (askEvent_fault_iff env hnamed request voiceAgentId hsame name).mp hfault
        exact absurd hnull (hnulls.not_nullEvent name voiceAgentId)

theorem askAction_answer (h : Healthy env b) (request : RequestPtr) (capability : CapabilityPtr)
    (action : String) :
    (askAction env capability request b action).1 =
      .ok (decide (action ∈ actionsOf capability)) := by
  obtain ⟨forwarder, calls, -, hanswer, hchannels⟩ :=
    subscribe_channel h.moves.afbApi h.moves.messaging request capability action
  have hnext := h.move (m := .messaging (.subscribe request capability action)) trivial
  have hresolve := hnext.complete capability forwarder ((hchannels _).trans (if_pos rfl)) action
  refine hanswer.trans ?_
  rw [Messaging.channel_subscribe]
  cases hevent : forwarder.resolve action with
  | some event =>
      rw [decide_eq_true (hresolve.mp ⟨event, hevent⟩)]
      exact congrArg Except.ok (h.dependable.subscribes calls event request)
  | none =>
      have hunknown : action ∉ actionsOf capability := by
        intro hmem
        obtain ⟨event, hsome⟩ := hresolve.mpr hmem
        exact absurd (hevent.symm.trans hsome) (by simp)
      rw [decide_eq_false hunknown]

theorem subscribeToActions_answer (h : Healthy env b) (request : RequestPtr)
    (capability : CapabilityPtr) (actions : List String) :
    (subscribeToActions env capability request b actions).1 =
      .ok (decide (∀ action ∈ actions, action ∈ actionsOf capability)) := by
  rw [subscribeToActions_eq]
  induction actions generalizing b with
  | nil => rfl
  | cons action rest ih =>
      have hround := askAction_answer h request capability action
      by_cases hknown : action ∈ actionsOf capability
      · rw [decide_eq_true hknown] at hround
        have hnext : Healthy env (askAction env capability request b action).2 :=
          h.move (m := .messaging (.subscribe request capability action)) trivial
        rw [TryEach.tryEach_cons_of_true hround, ih hnext]
        simp only [List.forall_mem_cons, hknown, true_and]
      · rw [decide_eq_false hknown] at hround
        rw [TryEach.tryEach_cons_of_ne (by rw [hround]; simp), hround]
        simp only [List.forall_mem_cons, hknown, false_and, decide_false]

theorem publish_answer (h : Healthy env b) (capability : CapabilityPtr)
    (action payload : String) :
    (b.sCapabilityMessagingService.publish env CapabilitiesFactory.capabilities b.calls capability
        action payload).1 =
      decide (b.service.opened (CapabilitiesFactory.capabilities capability).getName = true ∧
        action ∈ actionsOf capability) := by
  refine Except.ok.inj (ε := Fault) ?_
  have hopened : b.service.opened (CapabilitiesFactory.capabilities capability).getName =
      (b.messaging.channel (CapabilitiesFactory.capabilities capability).getName).isSome := rfl
  rw [hopened]
  change (Messaging.step env CapabilitiesFactory.capabilities b.messaging
    (.publish capability action payload)).2 = _
  rcases messaging_publish_cases env h.moves.messaging capability action payload with
    ⟨forwarder, event, hchannel, hevent, hstep⟩ | ⟨hnone, hstep⟩
  · have hknown : action ∈ actionsOf capability :=
      (h.complete capability forwarder hchannel action).mp ⟨event, hevent⟩
    rw [hstep, hchannel]
    simp [hknown]
  · have hrefused : ¬ ((b.messaging.channel
        (CapabilitiesFactory.capabilities capability).getName).isSome = true ∧
          action ∈ actionsOf capability) := by
      rintro ⟨hopen, hmem⟩
      obtain ⟨channel, hchannel⟩ := Option.isSome_iff_exists.mp hopen
      obtain ⟨-, forwarder, rfl⟩ := h.moves.messaging.around _ channel hchannel
      obtain ⟨event, hevent⟩ := (h.complete capability forwarder hchannel action).mpr hmem
      exact absurd ((hnone forwarder hchannel).symm.trans hevent) (by simp)
    rw [hstep, decide_eq_false hrefused]

end

end Vshl.Api
