/-
  Api/EventNames.lean --- the events that a reachable binding has asked for.

  Two events of one name would be one event to the binder.  Every name is asked for once:
  an agent's events when it is registered, an action's when the channel is made, and no
  handler ever removes one.
-/
import Vshl.Api.Confinement

set_option autoImplicit false

namespace Vshl.Api

open Vshl.Foundation
open Vshl.Interfaces
open Vshl.VoiceAgents
open Vshl.Core
open Vshl.Capabilities

/-- The names for which `createEvent` was called, whether or not an event came of it. -/
def createNames (calls : Trace) : List String :=
  calls.filterMap fun
    | .createEvent eventName _ => some eventName
    | _ => none

theorem createNames_append (calls added : Trace) :
    createNames (calls ++ added) = createNames calls ++ createNames added :=
  List.filterMap_append

/-! ## The names of an agent -/

theorem createNames_createVshlEvents {env : Environment} (henv : env.afbApi = true)
    {handler : VoiceAgentEventsHandler} {voiceAgentId : String}
    (hfresh : ∀ eventName ∈ VSHL_EVENTS,
      createEventNameWithVAId eventName voiceAgentId ∉ handler.mEventsMap) (calls : Trace) :
    createNames (handler.createVshlEventsForVoiceAgent env calls voiceAgentId).2 =
      createNames calls ++ VSHL_EVENTS.map (createEventNameWithVAId · voiceAgentId) := by
  unfold VoiceAgentEventsHandler.createVshlEventsForVoiceAgent
  refine foldl_yields (VoiceAgentEventsHandler.createVshlEvent env voiceAgentId)
    (fun state eventName => createEventNameWithVAId eventName voiceAgentId ∈ state.1.mEventsMap)
    (fun state => createNames state.2) (createEventNameWithVAId · voiceAgentId) ?_ (by decide) ?_
    (s := (handler, calls)) hfresh
  · intro state eventName habsent
    simp only [VoiceAgentEventsHandler.createVshlEvent, habsent, henv, not_false_eq_true,
      and_self, if_true, Environment.doCreateEvent, createNames_append]
    rfl
  · intro state eventName hname eventName' hname' hne hmem
    unfold VoiceAgentEventsHandler.createVshlEvent at hmem
    simp only at hmem
    split at hmem
    · rcases UnorderedMap.mem_emplace.mp hmem with hkey | hbefore
      · exact absurd (eventNameWithVAId_inj (noHash_of_mem_VSHL_EVENTS hname')
          (noHash_of_mem_VSHL_EVENTS hname) hkey).1 hne
      · exact hbefore
    · exact hmem

/-! ## The names of a channel -/

/-- The capability objects of the plugin. -/
def allCapabilities : List ICapability :=
  [guimetadata.GuiMetadata, phonecontrol.PhoneControl, navigation.Navigation]

theorem mem_allCapabilities (capability : CapabilityPtr) :
    CapabilitiesFactory.capabilities capability ∈ allCapabilities := by
  unfold CapabilitiesFactory.capabilities
  split
  · simp [allCapabilities]
  · split
    · simp [allCapabilities]
    · simp [allCapabilities]

/-- No action is listed twice. -/
theorem actionsOf_nodup (capability : CapabilityPtr) : (actionsOf capability).Nodup := by
  have hall : ∀ c ∈ allCapabilities,
      (c.getUpstreamMessages ++ c.getDownstreamMessages).Nodup := by decide
  exact hall _ (mem_allCapabilities capability)

/-- No action has the separator of the agents' events in it. -/
theorem noHash_of_action {capability : CapabilityPtr} {action : String}
    (h : action ∈ actionsOf capability) : '#' ∉ action.toList := by
  have hall : ∀ c ∈ allCapabilities, ∀ action ∈ c.getUpstreamMessages ++ c.getDownstreamMessages,
      '#' ∉ action.toList := by decide
  exact hall _ (mem_allCapabilities capability) _ h

/-- No action has the form of an agent's event. -/
theorem not_isEventOf_action {capability : CapabilityPtr} {action : String}
    (h : action ∈ actionsOf capability) (voiceAgentId : String) :
    ¬ IsEventOf voiceAgentId action := by
  rintro ⟨eventName, -, rfl⟩
  refine noHash_of_action h ?_
  simp [createEventNameWithVAId]

/-- Two capabilities that share an action have the same name. -/
theorem getName_of_action {capability capability' : CapabilityPtr} {action : String}
    (h : action ∈ actionsOf capability) (h' : action ∈ actionsOf capability') :
    (CapabilitiesFactory.capabilities capability).getName =
      (CapabilitiesFactory.capabilities capability').getName := by
  have hall : ∀ c ∈ allCapabilities, ∀ c' ∈ allCapabilities,
      ∀ action ∈ c.getUpstreamMessages ++ c.getDownstreamMessages,
        action ∈ c'.getUpstreamMessages ++ c'.getDownstreamMessages →
          c.getName = c'.getName := by decide
  exact hall _ (mem_allCapabilities capability) _ (mem_allCapabilities capability') _ h h'

/-- And two of the same name have the same actions. -/
theorem actionsOf_of_name {capability capability' : CapabilityPtr}
    (h : (CapabilitiesFactory.capabilities capability).getName =
      (CapabilitiesFactory.capabilities capability').getName) :
    actionsOf capability = actionsOf capability' := by
  have hall : ∀ c ∈ allCapabilities, ∀ c' ∈ allCapabilities, c.getName = c'.getName →
      c.getUpstreamMessages ++ c.getDownstreamMessages =
        c'.getUpstreamMessages ++ c'.getDownstreamMessages := by decide
  exact hall _ (mem_allCapabilities capability) _ (mem_allCapabilities capability') h

theorem createNames_createEventsOf {env : Environment} (henv : env.afbApi = true)
    {eventNames : List String} (hnodup : eventNames.Nodup) (calls : Trace) :
    createNames (SubscriberForwarder.createEventsOf env calls eventNames).2 =
      createNames calls ++ eventNames := by
  unfold SubscriberForwarder.createEventsOf
  refine (foldl_yields (SubscriberForwarder.createEvent env)
    (fun state eventName => eventName ∈ state.1) (fun state => createNames state.2) id ?_ hnodup ?_
    (s := (∅, calls)) ?_).trans (by rw [List.map_id])
  · intro state eventName habsent
    simp only [SubscriberForwarder.createEvent, habsent, henv, not_false_eq_true, and_self,
      if_true, Environment.doCreateEvent]
    cases env.createEvent state.2 eventName with
    | false => exact createNames_append _ _
    | true => exact createNames_append _ _
  · intro state eventName _ eventName' _ hne hmem
    unfold SubscriberForwarder.createEvent Environment.doCreateEvent at hmem
    split at hmem
    · cases hnonNull : env.createEvent state.2 eventName with
      | false =>
          simp only [hnonNull, Bool.false_eq_true, if_false] at hmem
          exact hmem
      | true =>
          simp only [hnonNull, if_true] at hmem
          exact (UnorderedMap.mem_emplace.mp hmem).resolve_left hne
    · exact hmem
  · intro eventName _
    exact AList.notMem_empty eventName

theorem createNames_create {env : Environment} (henv : env.afbApi = true)
    (capability : CapabilityPtr) (calls : Trace) :
    createNames (SubscriberForwarder.create env CapabilitiesFactory.capabilities calls
      capability).2 = createNames calls ++ actionsOf capability := by
  have hnodup := List.nodup_append.mp (actionsOf_nodup capability)
  simp only [SubscriberForwarder.create, henv, Bool.true_eq_false, if_false]
  rw [createNames_createEventsOf henv hnodup.2.1, createNames_createEventsOf henv hnodup.1,
    List.append_assoc]
  rfl

/-! ## The names of a move -/

/-- These names were asked for, each for the first time, and they are those of the events
that there are now and were not before. -/
structure NewNames (b b' : Binding) (new : List String) : Prop where
  names : createNames b'.calls = createNames b.calls ++ new
  nodup : new.Nodup
  fresh : ∀ eventName ∈ new, ¬ HasEvent b eventName
  has : ∀ eventName, HasEvent b' eventName ↔ HasEvent b eventName ∨ eventName ∈ new

/-- Only a creation asks for a name. -/
theorem createNames_spell {position : Nat} {emission : Emission} (h : emission.kind ≠ .creation) :
    createNames (emission.spell position) = [] := by
  cases emission with
  | ask api verb request result =>
      simp only [Emission.spell]
      cases result.object with
      | false => rfl
      | true => rfl
  | create eventName nonNull => exact absurd rfl h
  | keep _ _ _ | subscribe _ _ _ | publish _ _ _ | tell _ _ => rfl

theorem createNames_of_kinds {env : Environment} {manager : VoiceAgentsDataManager}
    {kinds : List Kind} {May : String → Prop} {calls calls' : Trace}
    (h : Speaks env manager kinds May calls calls')
    (hkinds : Kind.creation ∉ kinds) : createNames calls' = createNames calls :=
  speaks_filterMap_eq (fun _ _ _ hkind _ => createNames_spell hkind) h hkinds

theorem newNames_nil {b b' : Binding} (hnames : createNames b'.calls = createNames b.calls)
    (hregistered : ∀ id, id ∈ b'.sVoiceAgentsDataManager.mVoiceAgents ↔
      id ∈ b.sVoiceAgentsDataManager.mVoiceAgents)
    (hchannels : ∀ name, b'.messaging.channel name = b.messaging.channel name) :
    NewNames b b' [] := by
  refine ⟨by rw [hnames, List.append_nil], List.nodup_nil, by simp, ?_⟩
  intro eventName
  simp only [HasEvent, Opened, hregistered, hchannels, List.not_mem_nil, or_false]

/-- What is not an add registers nobody. -/
theorem registered_of_not_add (env : Environment) (b : Binding) {op : Op} (hop : Exposed op)
    (hne : ∀ args, op ≠ .addNewVoiceAgent args) (id : String) :
    id ∈ (b.dataManager env op).1.sVoiceAgentsDataManager.mVoiceAgents ↔
      id ∈ b.sVoiceAgentsDataManager.mVoiceAgents := by
  rcases step_effect env b.state op with hframe | ⟨args, rfl, -⟩ | ⟨_, p, rfl, -⟩ |
    ⟨_, p, rfl, -, -, hset⟩
  · have hfind : (b.dataManager env op).1.sVoiceAgentsDataManager.mVoiceAgents.find id =
        b.sVoiceAgentsDataManager.mVoiceAgents.find id := hframe.find id
    rw [UnorderedMap.mem_iff_find, UnorderedMap.mem_iff_find, hfind]
  · exact absurd rfl (hne args)
  · exact absurd hop not_false
  · simp only [Binding.dataManager, hset]
    rfl

theorem add_newNames {env : Environment} {b : Binding} (h : MoveWf env b) (args : VoiceAgent.Args) :
    ∃ new, NewNames b (b.move env (.dataManager (.addNewVoiceAgent args))) new := by
  rcases addNewVoiceAgent_cases env b.state args with hadded | hsame
  · have howns := h.binding.registry.owns
    have hfresh : args.id ∉ b.sVoiceAgentsDataManager.mVoiceAgents :=
      UnorderedMap.find_eq_none.mp hadded.fresh
    have hcalls : (b.move env (.dataManager (.addNewVoiceAgent args))).calls =
        (b.sVoiceAgentsDataManager.mVoiceAgentEventsHandler.createVshlEventsForVoiceAgent env
          b.calls args.id).2 := congrArg Prod.snd hadded.events
    refine ⟨VSHL_EVENTS.map (createEventNameWithVAId · args.id), ?_, ?_, ?_, ?_⟩
    · rw [hcalls]
      refine createNames_createVshlEvents h.afbApi ?_ b.calls
      intro eventName hname hmem
      obtain ⟨id, hid, hof⟩ := (howns _).mp hmem
      obtain rfl := (isEventOf_name_iff hname).mp hof
      exact hfresh hid
    · refine List.Nodup.map_on ?_ (by decide)
      intro eventName hname eventName' hname' heq
      exact (eventNameWithVAId_inj (noHash_of_mem_VSHL_EVENTS hname)
        (noHash_of_mem_VSHL_EVENTS hname') heq).1
    · intro key hkey hevent
      obtain ⟨eventName, hname, rfl⟩ := List.mem_map.mp hkey
      rcases hevent with ⟨id, hid, hof⟩ | ⟨capability, -, haction⟩
      · obtain rfl := (isEventOf_name_iff hname).mp hof
        exact hfresh hid
      · exact not_isEventOf_action haction args.id ⟨eventName, hname, rfl⟩
    · intro key
      have hof : IsEventOf args.id key ↔
          key ∈ VSHL_EVENTS.map (createEventNameWithVAId · args.id) := by
        simp only [IsEventOf, List.mem_map, eq_comm]
      have hmem : ∀ id, id ∈ (b.move env (.dataManager
            (.addNewVoiceAgent args))).sVoiceAgentsDataManager.mVoiceAgents ↔
          id ∈ b.sVoiceAgentsDataManager.mVoiceAgents ∨ id = args.id := hadded.mem_iff
      have hopened : ∀ capability, Opened (b.move env (.dataManager (.addNewVoiceAgent args)))
          capability ↔ Opened b capability := fun _ => Iff.rfl
      simp only [HasEvent, hmem, hopened, ← hof]
      constructor
      · rintro (⟨id, hid | rfl, hkey⟩ | hchannel)
        · exact Or.inl (Or.inl ⟨id, hid, hkey⟩)
        · exact Or.inr hkey
        · exact Or.inl (Or.inr hchannel)
      · rintro ((⟨id, hid, hkey⟩ | hchannel) | hkey)
        · exact Or.inl ⟨id, Or.inl hid, hkey⟩
        · exact Or.inr hchannel
        · exact Or.inl ⟨args.id, Or.inr rfl, hkey⟩
  · have hmanager : (b.dataManager env (.addNewVoiceAgent args)).1.sVoiceAgentsDataManager =
        b.sVoiceAgentsDataManager := congrArg State.manager hsame
    have hcalls : (b.dataManager env (.addNewVoiceAgent args)).1.calls = b.calls :=
      congrArg State.calls hsame
    refine ⟨[], newNames_nil ?_ ?_ ?_⟩
    · simp only [Binding.move, hcalls]
    · intro id
      simp only [Binding.move, hmanager]
    · exact fun _ => rfl

theorem createNames_channel_subscribe (env : Environment) (forwarder : SubscriberForwarder)
    (calls : Trace) (request : RequestPtr) (action : String) :
    createNames ((MessageChannel.around forwarder).subscribe env calls request action).2 =
      createNames calls := by
  rw [Messaging.channel_subscribe]
  cases forwarder.resolve action with
  | none => rfl
  | some event =>
      rw [createNames_append]
      exact List.append_nil _

theorem message_newNames {env : Environment} {b : Binding} (h : MoveWf env b)
    (request : RequestPtr) (capability : CapabilityPtr) (action : String) :
    ∃ new, NewNames b (b.move env (.messaging (.subscribe request capability action))) new := by
  rcases messaging_subscribe_cases h.afbApi h.messaging request capability action with
    ⟨forwarder, -, hstep⟩ | ⟨forwarder, calls, hchannel, hcreate, -, hstep⟩
  · refine ⟨[], newNames_nil ?_ (fun _ => Iff.rfl) ?_⟩
    · simp only [Binding.move, Binding.message, hstep]
      exact createNames_channel_subscribe env forwarder b.calls request action
    · intro name
      simp only [Binding.move, Binding.message, hstep]
      rfl
  · have hnames : createNames (SubscriberForwarder.create env CapabilitiesFactory.capabilities
        b.messaging.calls capability).2 = _ := createNames_create h.afbApi capability b.calls
    rw [hcreate] at hnames
    refine ⟨actionsOf capability, ?_, actionsOf_nodup capability, ?_, ?_⟩
    · simp only [Binding.move, Binding.message, hstep, Messaging.withChannel]
      rw [createNames_channel_subscribe]
      exact hnames
    · intro eventName hmem hevent
      rcases hevent with ⟨id, -, hof⟩ | ⟨capability', ⟨channel, hopened⟩, haction⟩
      · exact not_isEventOf_action hmem id hof
      · rw [← getName_of_action hmem haction, hchannel] at hopened
        exact absurd hopened (by simp)
    · intro eventName
      have hopened : ∀ capability', Opened (b.move env (.messaging
            (.subscribe request capability action))) capability' ↔
          Opened b capability' ∨ (CapabilitiesFactory.capabilities capability').getName =
            (CapabilitiesFactory.capabilities capability).getName := by
        intro capability'
        have hafter : (b.move env (.messaging
              (.subscribe request capability action))).messaging.channel
                (CapabilitiesFactory.capabilities capability').getName =
            if (CapabilitiesFactory.capabilities capability').getName =
                (CapabilitiesFactory.capabilities capability).getName then
              some (.around forwarder)
            else b.messaging.channel (CapabilitiesFactory.capabilities capability').getName := by
          rw [← Messaging.channel_withChannel hchannel forwarder
            ((MessageChannel.around forwarder).subscribe env calls request action).2]
          simp only [Binding.move, Binding.message, hstep]
          rfl
        unfold Opened
        rw [hafter]
        split
        · rename_i hsame
          exact ⟨fun _ => Or.inr hsame, fun _ => ⟨_, rfl⟩⟩
        · rename_i hother
          exact ⟨Or.inl, fun hex => hex.resolve_right hother⟩
      simp only [HasEvent, hopened]
      constructor
      · rintro (hagent | ⟨capability', hopen | hsame, haction⟩)
        · exact Or.inl (Or.inl hagent)
        · exact Or.inl (Or.inr ⟨capability', hopen, haction⟩)
        · rw [actionsOf_of_name hsame] at haction
          exact Or.inr haction
      · rintro ((hagent | ⟨capability', hopen, haction⟩) | haction)
        · exact Or.inl hagent
        · exact Or.inr ⟨capability', Or.inl hopen, haction⟩
        · exact Or.inr ⟨capability, Or.inr rfl, haction⟩

theorem move_newNames {env : Environment} {b : Binding} {m : Move} (hm : m.IsExposed)
    (h : MoveWf env b) (hrequests : RequestsKnown b) : ∃ new, NewNames b (b.move env m) new := by
  have hnone : Kind.creation ∉ m.kinds →
      createNames (b.move env m).calls = createNames b.calls :=
    createNames_of_kinds (move_speaks hm h hrequests)
  cases m with
  | startListening =>
      exact ⟨[], newNames_nil (hnone (by simp [Move.kinds])) (fun _ => Iff.rfl) fun _ => rfl⟩
  | messaging op =>
      cases op with
      | subscribe request capability action => exact message_newNames h request capability action
      | publish capability action payload =>
          exact ⟨[], newNames_nil (hnone (by simp [Move.kinds])) (fun _ => Iff.rfl) fun _ => rfl⟩
  | dataManager op =>
      by_cases hadd : ∃ args, op = .addNewVoiceAgent args
      · obtain ⟨args, rfl⟩ := hadd
        exact add_newNames h args
      · have hne : ∀ args, op ≠ .addNewVoiceAgent args := fun args heq => hadd ⟨args, heq⟩
        have hkinds : Kind.creation ∉ (Move.dataManager op).kinds := by
          cases op with
          | addNewVoiceAgent args => exact absurd rfl (hne args)
          | _ => simp [Move.kinds]
        exact ⟨[], newNames_nil (hnone hkinds) (registered_of_not_add env b hm hne) fun _ => rfl⟩

/-- The events that were asked for, each once, are the events that there are. -/
structure NamesWf (b : Binding) : Prop where
  requests : RequestsKnown b
  nodup : (createNames b.calls).Nodup
  names : ∀ eventName, eventName ∈ createNames b.calls ↔ HasEvent b eventName

theorem NamesWf.move {env : Environment} {b : Binding} {m : Move} (hm : m.IsExposed)
    (hwf : MoveWf env b) (h : NamesWf b) : NamesWf (b.move env m) := by
  obtain ⟨new, hnew⟩ := move_newNames hm hwf h.requests
  refine ⟨move_requestsKnown hm hwf h.requests, ?_, ?_⟩
  · rw [hnew.names]
    refine List.nodup_append.mpr ⟨h.nodup, hnew.nodup, ?_⟩
    rintro name hold name' hmem rfl
    exact hnew.fresh name hmem ((h.names name).mp hold)
  · intro eventName
    rw [hnew.names, List.mem_append, h.names, hnew.has]

theorem Reachable.namesWf {env : Environment} {b : Binding} (h : Reachable env b) :
    NamesWf b := by
  refine h.move_invariant (I := NamesWf) ?_ fun b m hm hwf hb => hb.move hm hwf
  intro loaded hloaded
  have hrequests := (Reachable.speaks ⟨loaded, [], hloaded, rfl⟩).1
  obtain ⟨-, rfl⟩ := CTLP_ONLOAD_eq_some_iff.mp hloaded
  refine ⟨hrequests, List.nodup_nil, ?_⟩
  intro eventName
  refine iff_of_false (by simp [createNames]) ?_
  rintro (⟨id, hid, -⟩ | ⟨capability, ⟨channel, hchannel⟩, -⟩)
  · exact absurd hid (AList.notMem_empty id)
  · exact absurd hchannel ((UnorderedMap.find_empty _).trans_ne (by simp))

/-- Every name is asked for once, and the names are those of the registered agents' events and
of the opened channels' actions. -/
theorem events_created_once {env : Environment} {b : Binding} (h : Reachable env b) :
    (createNames b.calls).Nodup ∧
      ∀ eventName, eventName ∈ createNames b.calls ↔ HasEvent b eventName :=
  ⟨h.namesWf.nodup, h.namesWf.names⟩

theorem events_created_once_busy :
    ((createNames busy.calls).Nodup ∧
      ∀ eventName, eventName ∈ createNames busy.calls ↔ HasEvent busy eventName) ∧
      (createNames busy.calls).length = 13 :=
  ⟨events_created_once busy_reachable, by decide⟩

end Vshl.Api
