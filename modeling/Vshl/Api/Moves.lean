/-
  Api/Moves.lean --- the moves that handlers are made of.

  Unlike an act (`Api/Invariant`), a move is a call with all its arguments, so nothing that
  a handler does is lost.  What holds of every reachable binding is proved move by move.
-/
import Vshl.Api.Subscriptions

set_option autoImplicit false

namespace Vshl.Api

open Vshl.Foundation
open Vshl.Interfaces
open Vshl.VoiceAgents
open Vshl.Core
open Vshl.Capabilities

/-- A call on the data manager, the request processor or the messaging service. -/
inductive Move where
  | dataManager (op : Op)
  | startListening
  | messaging (op : MessagingOp)

/-- `VRRequestProcessor::startListening`, as the binding makes the call. -/
def Binding.listen (env : Environment) (b : Binding) : Binding :=
  let started := VRRequestProcessor.startListening env b.sVoiceAgentsDataManager.agents
    b.sVRRequestProcessor b.calls
  { b with sVRRequestProcessor := started.2.1, calls := started.2.2 }

/-- A call on the messaging service. -/
def Binding.message (env : Environment) (b : Binding) (op : MessagingOp) : Binding :=
  let done := Messaging.step env CapabilitiesFactory.capabilities b.messaging op
  { b with sCapabilityMessagingService := done.1.service, calls := done.1.calls }

/-- The binding after a move. -/
def Binding.move (env : Environment) (b : Binding) : Move → Binding
  | .dataManager op => (b.dataManager env op).1
  | .startListening => b.listen env
  | .messaging op => b.message env op

/-- The moves that the handler of a request can make. -/
def Verb.Permits : Verb → Move → Prop
  | .onAuthStateEvent _, m => ∃ voiceAgentId payload, m =
      .dataManager (.handleIncomingEvent VSHL_EVENT_AUTH_STATE_EVENT voiceAgentId payload)
  | .onConnectionStateEvent _, m => ∃ voiceAgentId payload, m =
      .dataManager (.handleIncomingEvent VSHL_EVENT_CONNECTION_STATE_EVENT voiceAgentId payload)
  | .onDialogStateEvent _, m => ∃ voiceAgentId payload, m =
      .dataManager (.handleIncomingEvent VSHL_EVENT_DIALOG_STATE_EVENT voiceAgentId payload)
  | .loadVoiceAgentsConfig _, m => (∃ args, m = .dataManager (.addNewVoiceAgent args)) ∨
      ∃ voiceAgentId, m = .dataManager (.setDefaultVoiceAgent voiceAgentId)
  | .startListening, m =>
      m = .dataManager .startNewSubscriptionProcess ∨ m = .startListening
  | .cancelListening, _ => False
  | .enumerateVoiceAgents, _ => False
  | .subscribe request _, m => m = .dataManager .startNewSubscriptionProcess ∨
      ∃ eventName voiceAgentId, m =
        .dataManager (.subscribeToVshlEventFromVoiceAgent request eventName voiceAgentId)
  | .setDefaultVoiceAgent _, m =>
      ∃ voiceAgentId, m = .dataManager (.setDefaultVoiceAgent voiceAgentId)
  | .guiMetadataSubscribe request _, m => ∃ action, m =
      .messaging (.subscribe request CapabilitiesFactory.getGuiMetadata action)
  | .guiMetadataPublish _, m => ∃ action payload, m =
      .messaging (.publish CapabilitiesFactory.getGuiMetadata action payload)
  | .phonecontrolSubscribe request _, m => ∃ action, m =
      .messaging (.subscribe request CapabilitiesFactory.getPhoneControl action)
  | .phonecontrolPublish _, m => ∃ action payload, m =
      .messaging (.publish CapabilitiesFactory.getPhoneControl action payload)
  | .navigationSubscribe request _, m => ∃ action, m =
      .messaging (.subscribe request CapabilitiesFactory.getNavigation action)
  | .navigationPublish _, m => ∃ action payload, m =
      .messaging (.publish CapabilitiesFactory.getNavigation action payload)
  | .rehash voiceAgents observers, m => m = .dataManager (.rehash voiceAgents observers)

/-- The moves of handlers: they neither remove an agent nor an observer. -/
def Move.IsExposed : Move → Prop
  | .dataManager op => Exposed op
  | .startListening => True
  | .messaging _ => True

theorem Verb.Permits.isExposed {verb : Verb} {m : Move} (h : verb.Permits m) :
    m.IsExposed := by
  cases verb with
  | onAuthStateEvent | onConnectionStateEvent | onDialogStateEvent =>
      obtain ⟨voiceAgentId, payload, rfl⟩ := h
      trivial
  | loadVoiceAgentsConfig =>
      obtain ⟨args, rfl⟩ | ⟨voiceAgentId, rfl⟩ := h
      · trivial
      · trivial
  | startListening =>
      obtain rfl | rfl := h
      · trivial
      · trivial
  | cancelListening | enumerateVoiceAgents => exact absurd h id
  | subscribe =>
      obtain rfl | ⟨eventName, voiceAgentId, rfl⟩ := h
      · trivial
      · trivial
  | setDefaultVoiceAgent =>
      obtain ⟨voiceAgentId, rfl⟩ := h
      trivial
  | guiMetadataSubscribe | phonecontrolSubscribe | navigationSubscribe =>
      obtain ⟨action, rfl⟩ := h
      trivial
  | guiMetadataPublish | phonecontrolPublish | navigationPublish =>
      obtain ⟨action, payload, rfl⟩ := h
      trivial
  | rehash voiceAgents observers =>
      obtain rfl := h
      trivial

/-! ## Sequences of moves -/

/-- One binding comes of another by moves of a certain kind. -/
inductive Performs (env : Environment) (P : Move → Prop) (b : Binding) : Binding → Prop where
  | refl : Performs env P b b
  | move {b' : Binding} (h : Performs env P b b') (m : Move) (hm : P m) :
      Performs env P b (b'.move env m)

namespace Performs

variable {env : Environment} {P Q : Move → Prop} {b b' b'' : Binding}

theorem one {m : Move} (hm : P m) : Performs env P b (b.move env m) := .move .refl m hm

theorem trans (h : Performs env P b b') (h' : Performs env P b' b'') :
    Performs env P b b'' := by
  induction h' with
  | refl => exact h
  | move _ m hm ih => exact .move ih m hm

theorem mono (h : Performs env P b b') (hmono : ∀ m, P m → Q m) : Performs env Q b b' := by
  induction h with
  | refl => exact .refl
  | move _ m hm ih => exact .move ih m (hmono m hm)

/-- What each of the moves keeps holds after them. -/
theorem invariant {I : Binding → Prop} (h : Performs env P b b') (hb : I b)
    (hmove : ∀ b m, P m → I b → I (b.move env m)) : I b' := by
  induction h with
  | refl => exact hb
  | move _ m hm ih => exact hmove _ m hm ih

end Performs

/-! ## What a call on the messaging service does -/

/-- Every capability of the plugin has a name. -/
theorem getName_ne_empty (capability : CapabilityPtr) :
    (CapabilitiesFactory.capabilities capability).getName ≠ "" := by
  unfold CapabilitiesFactory.capabilities
  split
  · simp [guimetadata.GuiMetadata, guimetadata.NAME]
  · split
    · simp [phonecontrol.PhoneControl, phonecontrol.NAME]
    · simp [navigation.Navigation, navigation.NAME]

/-- A message is pushed on the event of its action, if there is one. -/
theorem messaging_publish_cases (env : Environment) {s : Messaging} (hwf : s.Wf)
    (capability : CapabilityPtr) (action payload : String) :
    (∃ forwarder event,
      s.channel (CapabilitiesFactory.capabilities capability).getName = some (.around forwarder) ∧
      forwarder.resolve action = some event ∧
      Messaging.step env CapabilitiesFactory.capabilities s
          (.publish capability action payload) =
        ({ s with
            calls := forwarder.notified env CapabilitiesFactory.capabilities
              (env.doPublishEvent s.calls event (jsonObjectNewString payload)).2 action },
          .ok true)) ∨
    ((∀ forwarder,
        s.channel (CapabilitiesFactory.capabilities capability).getName =
          some (.around forwarder) → forwarder.resolve action = none) ∧
      Messaging.step env CapabilitiesFactory.capabilities s
        (.publish capability action payload) = (s, .ok false)) := by
  cases hchannel : s.channel (CapabilitiesFactory.capabilities capability).getName with
  | none =>
      refine Or.inr ⟨fun _ hfound => absurd hfound (by simp), ?_⟩
      exact Messaging.publish_none env CapabilitiesFactory.capabilities action payload
        (Or.inr hchannel)
  | some channel =>
      obtain ⟨hname, forwarder, rfl⟩ := hwf.around _ channel hchannel
      have hstep := Messaging.publish_found env CapabilitiesFactory.capabilities action payload
        hname hchannel
      cases hresolve : forwarder.resolve action with
      | some event =>
          rw [hresolve] at hstep
          exact Or.inl ⟨forwarder, event, rfl, hresolve, hstep⟩
      | none =>
          rw [hresolve] at hstep
          refine Or.inr ⟨?_, hstep⟩
          intro found hfound
          obtain rfl := MessageChannel.around_inj (Option.some.inj hfound)
          exact hresolve

/-- A subscription goes to the channel of the capability, which is made first if it is
missing. -/
theorem messaging_subscribe_cases {env : Environment} (henv : env.afbApi = true) {s : Messaging}
    (hwf : s.Wf) (request : RequestPtr) (capability : CapabilityPtr) (action : String) :
    (∃ forwarder,
      s.channel (CapabilitiesFactory.capabilities capability).getName = some (.around forwarder) ∧
      Messaging.step env CapabilitiesFactory.capabilities s
          (.subscribe request capability action) =
        ({ s with
            calls := ((MessageChannel.around forwarder).subscribe env s.calls request action).2 },
          ((MessageChannel.around forwarder).subscribe env s.calls request action).1)) ∨
    (∃ forwarder calls,
      s.channel (CapabilitiesFactory.capabilities capability).getName = none ∧
      SubscriberForwarder.create env CapabilitiesFactory.capabilities s.calls capability =
        (some forwarder, calls) ∧
      SubscriberForwarder.CreatedAt capability s.calls forwarder calls ∧
      Messaging.step env CapabilitiesFactory.capabilities s
          (.subscribe request capability action) =
        (s.withChannel (CapabilitiesFactory.capabilities capability).getName forwarder
            ((MessageChannel.around forwarder).subscribe env calls request action).2,
          ((MessageChannel.around forwarder).subscribe env calls request action).1)) := by
  have hname := getName_ne_empty capability
  cases hchannel : s.channel (CapabilitiesFactory.capabilities capability).getName with
  | some channel =>
      obtain ⟨-, forwarder, rfl⟩ := hwf.around _ channel hchannel
      exact Or.inl ⟨forwarder, rfl, Messaging.subscribe_found env
        CapabilitiesFactory.capabilities request action hname hchannel⟩
  | none =>
      obtain ⟨forwarder, calls, hcreate, hcreated⟩ := SubscriberForwarder.create_createdAt henv
        CapabilitiesFactory.capabilities s.calls capability
      exact Or.inr ⟨forwarder, calls, rfl, hcreate, hcreated, Messaging.subscribe_missing env
        CapabilitiesFactory.capabilities request action hname hchannel hcreate⟩

/-! ## Every handler is a sequence of moves -/

section

variable (env : Environment) {P : Move → Prop} (b : Binding)

theorem onStateEvent_performs (eventName : String) (eventJ : Option Json)
    (hP : ∀ voiceAgentId payload,
      P (.dataManager (.handleIncomingEvent eventName voiceAgentId payload))) :
    Performs env P b (onStateEvent env eventName b eventJ).binding := by
  simp only [onStateEvent]
  split
  · exact .refl
  · split
    · exact .refl
    · split
      · exact .one (hP _ _)
      · exact .one (hP _ _)

theorem loadAgents_performs (entries : List Json)
    (hP : ∀ args, P (.dataManager (.addNewVoiceAgent args))) :
    Performs env P b (loadAgents env b entries).2.1 := by
  induction entries generalizing b with
  | nil => exact .refl
  | cons agentJson rest ih =>
      have hround : Performs env P b (loadAgent env b agentJson).2.1 := by
        unfold loadAgent
        split
        · exact .refl
        · cases decodeAgent agentJson with
          | error fault => exact .refl
          | ok args => exact .one (hP args)
      unfold loadAgents
      rcases hload : loadAgent env b agentJson with ⟨fault | done, b', notified⟩
      · rw [hload] at hround
        exact hround
      · rw [hload] at hround
        exact hround.trans (ih b')

theorem loadDefault_performs (notified : List Notification) (agentsConfigJson : Json)
    (hP : ∀ voiceAgentId, P (.dataManager (.setDefaultVoiceAgent voiceAgentId))) :
    Performs env P b (loadDefault env b notified agentsConfigJson).binding := by
  unfold loadDefault
  cases agentsConfigJson.find? VA_JSON_ATTR_DEFAULT with
  | none => exact .refl
  | some defaultJson =>
      simp only
      cases defaultJson.getString with
      | error fault => exact .refl
      | ok defaultAgentId => exact .one (hP defaultAgentId)

theorem loadVoiceAgentsConfig_performs (argsJ : Option Json)
    (hadd : ∀ args, P (.dataManager (.addNewVoiceAgent args)))
    (hset : ∀ voiceAgentId, P (.dataManager (.setDefaultVoiceAgent voiceAgentId))) :
    Performs env P b (loadVoiceAgentsConfig env b argsJ).binding := by
  unfold loadVoiceAgentsConfig
  cases argsJ with
  | none => exact .refl
  | some agentsConfigJson =>
      simp only
      cases agentsConfigJson.find? VA_JSON_ATTR_AGENTS with
      | none => exact .refl
      | some agentsJson =>
          have hloop := loadAgents_performs env b agentsJson.iterate hadd
          simp only
          rcases hload : loadAgents env b agentsJson.iterate with ⟨fault | done, b', notified⟩
          · rw [hload] at hloop
            exact hloop
          · rw [hload] at hloop
            exact hloop.trans (loadDefault_performs env b' notified agentsConfigJson hset)

/-- The handler starts the subscription process and then calls the request processor. -/
theorem startListening_moves :
    (startListening env b).binding = (subscribed env b).listen env := by
  simp only [startListening]
  split
  · rfl
  · rfl

theorem subscribeToEvents_performs (request : RequestPtr) (voiceAgentId : String)
    (events : List String)
    (hP : ∀ eventName, P (.dataManager
      (.subscribeToVshlEventFromVoiceAgent request eventName voiceAgentId))) :
    Performs env P b (subscribeToEvents env request voiceAgentId b events).2 := by
  induction events generalizing b with
  | nil => exact .refl
  | cons event rest ih =>
      have hmove : Performs env P b (b.dataManager env
          (.subscribeToVshlEventFromVoiceAgent request event voiceAgentId)).1 := .one (hP event)
      simp only [subscribeToEvents]
      split
      · exact hmove
      · exact hmove.trans (ih _)
      · exact hmove

theorem subscribe_performs (request : RequestPtr) (eventJ : Option Json)
    (hstart : P (.dataManager .startNewSubscriptionProcess))
    (hP : ∀ eventName voiceAgentId, P (.dataManager
      (.subscribeToVshlEventFromVoiceAgent request eventName voiceAgentId))) :
    Performs env P b (subscribe env b request eventJ).binding := by
  have hsubscribed : Performs env P b (subscribed env b) := .one hstart
  rcases subscribe_cases env b request eventJ with
    ⟨json, voiceAgentId, events, -, -, heq⟩ | ⟨-, ret, heq⟩
  · rw [heq, answered_binding]
    exact hsubscribed.trans (subscribeToEvents_performs env _ request voiceAgentId events
      fun eventName => hP eventName voiceAgentId)
  · rw [heq]
    exact hsubscribed

theorem setDefaultVoiceAgent_performs (eventJ : Option Json)
    (hP : ∀ voiceAgentId, P (.dataManager (.setDefaultVoiceAgent voiceAgentId))) :
    Performs env P b (setDefaultVoiceAgent env b eventJ).binding := by
  simp only [setDefaultVoiceAgent]
  split
  · exact .refl
  · split
    · exact .refl
    · split
      · exact .refl
      · split
        · exact .one (hP _)
        · exact .one (hP _)

theorem subscribeToActions_performs (capability : CapabilityPtr) (request : RequestPtr)
    (actions : List String)
    (hP : ∀ action, P (.messaging (.subscribe request capability action))) :
    Performs env P b (subscribeToActions env capability request b actions).2 := by
  rw [subscribeToActions_eq]
  induction actions generalizing b with
  | nil => exact .refl
  | cons action rest ih =>
      have hmove : Performs env P b (askAction env capability request b action).2 :=
        .one (hP action)
      by_cases htrue : (askAction env capability request b action).1 = .ok true
      · rw [TryEach.tryEach_cons_of_true htrue]
        exact hmove.trans (ih _)
      · rw [TryEach.tryEach_cons_of_ne htrue]
        exact hmove

theorem capabilitySubscribe_performs (capability : CapabilityPtr) (info : String)
    (request : RequestPtr) (eventJ : Option Json)
    (hP : ∀ action, P (.messaging (.subscribe request capability action))) :
    Performs env P b (capabilitySubscribe env capability info b request eventJ).binding := by
  rcases capabilitySubscribe_cases env capability info b request eventJ with
    ⟨json, actions, -, -, heq⟩ | ⟨-, ret, heq⟩
  · rw [heq, answered_binding]
    exact subscribeToActions_performs env b capability request actions hP
  · rw [heq]
    exact .refl

theorem capabilityPublish_performs (capability : CapabilityPtr) (info : String)
    (eventJ : Option Json)
    (hP : ∀ action payload, P (.messaging (.publish capability action payload))) :
    Performs env P b (capabilityPublish env capability info b eventJ).binding := by
  simp only [capabilityPublish]
  split
  · exact .refl
  · split
    · exact .refl
    · split
      · exact .refl
      · split
        · exact .refl
        · split
          · exact .refl
          · split
            · exact .one (hP _ _)
            · exact .one (hP _ _)

theorem handle_performs (verb : Verb) :
    Performs env verb.Permits b (handle env b verb).binding := by
  cases verb with
  | onAuthStateEvent eventJ =>
      exact onStateEvent_performs env b _ eventJ fun _ _ => ⟨_, _, rfl⟩
  | onConnectionStateEvent eventJ =>
      exact onStateEvent_performs env b _ eventJ fun _ _ => ⟨_, _, rfl⟩
  | onDialogStateEvent eventJ =>
      exact onStateEvent_performs env b _ eventJ fun _ _ => ⟨_, _, rfl⟩
  | loadVoiceAgentsConfig argsJ =>
      exact loadVoiceAgentsConfig_performs env b argsJ (fun _ => Or.inl ⟨_, rfl⟩)
        fun _ => Or.inr ⟨_, rfl⟩
  | startListening =>
      have hlisten : Performs env (Verb.Permits .startListening) b
          ((subscribed env b).listen env) :=
        .move (.one (m := .dataManager .startNewSubscriptionProcess) (Or.inl rfl))
          .startListening (Or.inr rfl)
      rw [← startListening_moves] at hlisten
      exact hlisten
  | cancelListening => exact .refl
  | enumerateVoiceAgents => exact .refl
  | subscribe request eventJ =>
      exact subscribe_performs env b request eventJ (Or.inl rfl)
        fun _ _ => Or.inr ⟨_, _, rfl⟩
  | setDefaultVoiceAgent eventJ =>
      exact setDefaultVoiceAgent_performs env b eventJ fun _ => ⟨_, rfl⟩
  | guiMetadataSubscribe request eventJ =>
      exact capabilitySubscribe_performs env b _ _ request eventJ fun _ => ⟨_, rfl⟩
  | guiMetadataPublish eventJ =>
      exact capabilityPublish_performs env b _ _ eventJ fun _ _ => ⟨_, _, rfl⟩
  | phonecontrolSubscribe request eventJ =>
      exact capabilitySubscribe_performs env b _ _ request eventJ fun _ => ⟨_, rfl⟩
  | phonecontrolPublish eventJ =>
      exact capabilityPublish_performs env b _ _ eventJ fun _ _ => ⟨_, _, rfl⟩
  | navigationSubscribe request eventJ =>
      exact capabilitySubscribe_performs env b _ _ request eventJ fun _ => ⟨_, rfl⟩
  | navigationPublish eventJ =>
      exact capabilityPublish_performs env b _ _ eventJ fun _ _ => ⟨_, _, rfl⟩
  | rehash voiceAgents observers =>
      exact .one (m := .dataManager (.rehash voiceAgents observers)) rfl

end

/-! ## Invariants, move by move -/

/-- The invariants that the proofs about moves can rely on. -/
structure MoveWf (env : Environment) (b : Binding) : Prop where
  afbApi : env.afbApi = true
  binding : BindingWf b
  messaging : b.messaging.Wf

theorem MoveWf.move {env : Environment} {b : Binding} (h : MoveWf env b) {m : Move}
    (hm : m.IsExposed) : MoveWf env (b.move env m) := by
  cases m with
  | dataManager op =>
      obtain ⟨added, hadded⟩ := VoiceAgents.next_calls env b.state op
      have hmessaging : (b.dataManager env op).1.messaging =
          { b.messaging with calls := b.messaging.calls ++ added } := by
        simp only [Binding.messaging, Binding.dataManager]
        exact congrArg _ hadded.symm
      refine ⟨h.afbApi, h.binding.dataManager h.afbApi hm, ?_⟩
      simp only [Binding.move, hmessaging]
      exact h.messaging.ofCalls added
  | startListening =>
      obtain ⟨hdefault, hcalls⟩ := VRRequestProcessor.startListening_keeps env
        b.sVoiceAgentsDataManager.agents b.sVRRequestProcessor b.calls
      refine ⟨h.afbApi, h.binding.other rfl hdefault hcalls, ?_⟩
      obtain ⟨added, hadded⟩ := hcalls
      have hmessaging : (b.listen env).messaging =
          { b.messaging with calls := b.messaging.calls ++ added } := by
        simp only [Binding.messaging, Binding.listen, hadded]
      simp only [Binding.move, hmessaging]
      exact h.messaging.ofCalls added
  | messaging op =>
      have hwf := Messaging.wf_step h.afbApi CapabilitiesFactory.capabilities b.messaging op
        h.messaging
      refine ⟨h.afbApi, h.binding.other rfl rfl ?_, hwf⟩
      cases op with
      | subscribe request capability action =>
          exact CapabilityMessagingService.subscribe_extends env _ _ b.calls request capability
            action
      | publish capability action payload =>
          exact CapabilityMessagingService.publish_extends env _ _ b.calls capability action
            payload

theorem Reachable.handle {env : Environment} {b : Binding} (h : Reachable env b) (verb : Verb) :
    Reachable env (handle env b verb).binding := by
  obtain ⟨loaded, verbs, hloaded, rfl⟩ := h
  exact ⟨loaded, verbs ++ [verb], hloaded, ((machine env).run_concat loaded verbs verb).symm⟩

theorem Reachable.run {env : Environment} {b : Binding} (h : Reachable env b)
    (verbs : List Verb) : Reachable env ((machine env).run b verbs) :=
  (machine env).run_invariant (I := Reachable env) (fun _ verb hb => hb.handle verb) h verbs

theorem Reachable.moveWf {env : Environment} {b : Binding} (h : Reachable env b) :
    MoveWf env b := ⟨h.afbApi, h.wf, h.messagingWf⟩

/-- What holds after the load and is kept by every move of every binding in good order holds
of every reachable binding. -/
theorem Reachable.move_invariant {env : Environment} {I : Binding → Prop}
    (hload : ∀ loaded, CTLP_ONLOAD env = some loaded → I loaded)
    (hmove : ∀ b m, m.IsExposed → MoveWf env b → I b → I (b.move env m)) {b : Binding}
    (h : Reachable env b) : I b := by
  have hboth : MoveWf env b ∧ I b := by
    refine h.invariant (I := fun b => MoveWf env b ∧ I b) ?_ ?_
    · intro loaded hloaded
      exact ⟨Reachable.moveWf ⟨loaded, [], hloaded, rfl⟩, hload loaded hloaded⟩
    · intro b verb hb
      refine (handle_performs env b verb).invariant (I := fun b => MoveWf env b ∧ I b) hb ?_
      intro b m hm hb
      exact ⟨hb.1.move hm.isExposed, hmove b m hm.isExposed hb.1 hb.2⟩
  exact hboth.2

end Vshl.Api
