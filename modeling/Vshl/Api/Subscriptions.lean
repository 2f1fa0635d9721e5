/-
  Api/Subscriptions.lean --- the four handlers that subscribe a client to a list.

  Each is a loop that ends at the first name that fails (`Foundation/TryEach`) and undoes
  nothing.  `subscribe` takes what `subscribeToVshlEventFromVoiceAgent` returns for what
  the event object has answered; the capability handlers look at the answer itself.
-/
import Vshl.Api.Listening
import Vshl.Foundation.TryEach
import Vshl.VoiceAgents.Delivery

set_option autoImplicit false

namespace Vshl.Api

open Vshl.Foundation
open Vshl.Interfaces
open Vshl.VoiceAgents
open Vshl.Core
open Vshl.Capabilities

/-! ## The loops -/

/-- The messaging service and the calls, as the service's machine has them. -/
def Binding.messaging (b : Binding) : Messaging := ⟨b.sCapabilityMessagingService, b.calls⟩

/-- One call of `CapabilityMessagingService::subscribe`. -/
def askAction (env : Environment) (capability : CapabilityPtr) (request : RequestPtr)
    (b : Binding) (action : String) : Except Fault Bool × Binding :=
  let done := Messaging.step env CapabilitiesFactory.capabilities b.messaging
    (.subscribe request capability action)
  (done.2, { b with sCapabilityMessagingService := done.1.service, calls := done.1.calls })

/-- One call of `VoiceAgentsDataManager::subscribeToVshlEventFromVoiceAgent`. -/
def askEvent (env : Environment) (request : RequestPtr) (voiceAgentId : String) (b : Binding)
    (event : String) : Except Fault Bool × Binding :=
  let done := b.sVoiceAgentsDataManager.subscribeToVshlEventFromVoiceAgent env b.calls request
    event voiceAgentId
  (done.1, { b with calls := done.2 })

theorem subscribeToActions_eq (env : Environment) (capability : CapabilityPtr)
    (request : RequestPtr) (b : Binding) (actions : List String) :
    subscribeToActions env capability request b actions =
      tryEach (askAction env capability request) b actions := by
  induction actions generalizing b with
  | nil => rfl
  | cons action rest ih =>
      simp only [subscribeToActions, tryEach, askAction, Messaging.step, Binding.messaging, ← ih]
      rcases b.sCapabilityMessagingService.subscribe env CapabilitiesFactory.capabilities b.calls
        request capability action with ⟨fault | (_ | _), service, calls⟩
      · rfl
      · rfl
      · rfl

theorem dataManager_subscribe (env : Environment) (b : Binding) (request : RequestPtr)
    (event voiceAgentId : String) :
    b.dataManager env (.subscribeToVshlEventFromVoiceAgent request event voiceAgentId) =
      ((askEvent env request voiceAgentId b event).2,
        ⟨[], .ofExcept (askEvent env request voiceAgentId b event).1⟩) := rfl

theorem subscribeToEvents_eq (env : Environment) (request : RequestPtr) (voiceAgentId : String)
    (b : Binding) (events : List String) :
    subscribeToEvents env request voiceAgentId b events =
      tryEach (askEvent env request voiceAgentId) b events := by
  induction events generalizing b with
  | nil => rfl
  | cons event rest ih =>
      simp only [subscribeToEvents, dataManager_subscribe, tryEach, ← ih]
      rcases askEvent env request voiceAgentId b event with ⟨fault | (_ | _), b'⟩
      · rfl
      · rfl
      · rfl

/-! ## What a handler is asked for -/

/-- The request names an agent and a list of events. -/
structure AsksForEvents (json : Json) (voiceAgentId : String) (events : List String) : Prop where
  voiceAgentId : json.find? EVENTS_JSON_ATTR_VA_ID = some (.str voiceAgentId)
  events : json.find? EVENTS_JSON_ATTR_EVENTS = some (.arr (events.map .str))

/-- The request names a list of actions. -/
def AsksForActions (json : Json) (actions : List String) : Prop :=
  json.find? CAPABILITIES_JSON_ATTR_ACTIONS = some (.arr (actions.map .str))

theorem AsksForEvents.unique {json : Json} {id id' : String} {events events' : List String}
    (h : AsksForEvents json id events) (h' : AsksForEvents json id' events') :
    id = id' ∧ events = events' := by
  have hid := Option.some.inj (h.voiceAgentId.symm.trans h'.voiceAgentId)
  have hevents := Option.some.inj (h.events.symm.trans h'.events)
  refine ⟨Json.str.inj hid, ?_⟩
  exact List.map_injective_iff.mpr (fun _ _ => Json.str.inj) (Json.arr.inj hevents)

theorem AsksForActions.unique {json : Json} {actions actions' : List String}
    (h : AsksForActions json actions) (h' : AsksForActions json actions') :
    actions = actions' := by
  have hactions := Option.some.inj (h.symm.trans h')
  exact List.map_injective_iff.mpr (fun _ _ => Json.str.inj) (Json.arr.inj hactions)

/-- How a handler ends after its loop. -/
def answered (response : Option Json) : Except Fault Bool × Binding → Done
  | (.error fault, b) => b.return (.error fault)
  | (.ok false, b) => b.return (.ok (-1))
  | (.ok true, b) => b.succeed response

@[simp] theorem answered_binding (response : Option Json) (done : Except Fault Bool × Binding) :
    (answered response done).binding = done.2 := by
  rcases done with ⟨fault | (_ | _), b⟩ <;> rfl

theorem answered_ret_iff {response : Option Json} {done : Except Fault Bool × Binding} :
    (answered response done).ret = .ok (-1) ↔ done.1 = .ok false := by
  rcases done with ⟨fault | (_ | _), b⟩ <;> simp [answered, Binding.return, Binding.succeed]

theorem answered_reply_iff {response : Option Json} {done : Except Fault Bool × Binding} :
    (answered response done).reply = some (.success response) ↔ done.1 = .ok true := by
  rcases done with ⟨fault | (_ | _), b⟩ <;> simp [answered, Binding.return, Binding.succeed]

/-- The reply of `subscribe`. -/
def subscribeReply : Option Json := some (.str "Subscription to events successfully completed.")

/-- A request that names its events starts the loop; any other is turned away before it. -/
theorem subscribe_cases (env : Environment) (b : Binding) (request : RequestPtr)
    (eventJ : Option Json) :
    (∃ json voiceAgentId events, eventJ = some json ∧ AsksForEvents json voiceAgentId events ∧
      subscribe env b request eventJ = answered subscribeReply
        (subscribeToEvents env request voiceAgentId (subscribed env b) events)) ∨
    ((∀ json ∈ eventJ, ∀ voiceAgentId events, ¬ AsksForEvents json voiceAgentId events) ∧
      ∃ ret, subscribe env b request eventJ = (subscribed env b).return ret) := by
  cases eventJ with
  | none => exact Or.inr ⟨by simp, _, rfl⟩
  | some json =>
      simp only [Option.mem_def, Option.some.injEq, forall_eq']
      cases hid : json.find? EVENTS_JSON_ATTR_VA_ID with
      | none =>
          refine Or.inr ⟨fun id events h => ?_, _, by simp only [subscribe, hid]; rfl⟩
          exact absurd (hid.symm.trans h.voiceAgentId) (by simp)
      | some idJson =>
          cases hstring : idJson.getString with
          | error fault =>
              refine Or.inr ⟨fun id events h => ?_, _, by
                simp only [subscribe, hid, hstring]; rfl⟩
              obtain rfl := Option.some.inj (hid.symm.trans h.voiceAgentId)
              exact absurd hstring (by simp [Json.getString])
          | ok id =>
              obtain rfl := Json.getString_eq_ok_iff.mp hstring
              cases hevents : json.find? EVENTS_JSON_ATTR_EVENTS with
              | none =>
                  refine Or.inr ⟨fun id events h => ?_, _, by
                    simp only [subscribe, hid, hstring, hevents]; rfl⟩
                  exact absurd (hevents.symm.trans h.events) (by simp)
              | some eventsJson =>
                  cases hlist : eventsJson.getStringList with
                  | error fault =>
                      refine Or.inr ⟨fun id events h => ?_, _, by
                        simp only [subscribe, hid, hstring, hevents, hlist]; rfl⟩
                      obtain rfl := Option.some.inj (hevents.symm.trans h.events)
                      exact absurd hlist (by simp [Json.getStringList])
                  | ok events =>
                      obtain rfl := Json.getStringList_eq_ok_iff.mp hlist
                      refine Or.inl ⟨json, id, events, rfl, ⟨hid, hevents⟩, ?_⟩
                      simp only [subscribe, hid, hstring, hevents, hlist]
                      rfl

/-- The same of the capability subscriptions. -/
theorem capabilitySubscribe_cases (env : Environment) (capability : CapabilityPtr)
    (info : String) (b : Binding) (request : RequestPtr) (eventJ : Option Json) :
    (∃ json actions, eventJ = some json ∧ AsksForActions json actions ∧
      capabilitySubscribe env capability info b request eventJ = answered (some (.str info))
        (subscribeToActions env capability request b actions)) ∨
    ((∀ json ∈ eventJ, ∀ actions, ¬ AsksForActions json actions) ∧
      ∃ ret, capabilitySubscribe env capability info b request eventJ = b.return ret) := by
  cases eventJ with
  | none => exact Or.inr ⟨by simp, _, rfl⟩
  | some json =>
      simp only [Option.mem_def, Option.some.injEq, forall_eq']
      cases hactions : json.find? CAPABILITIES_JSON_ATTR_ACTIONS with
      | none =>
          refine Or.inr ⟨fun actions h => ?_, _, by
            simp only [capabilitySubscribe, hactions]; rfl⟩
          exact absurd (hactions.symm.trans h) (by simp)
      | some actionsJson =>
          cases hlist : actionsJson.getStringList with
          | error fault =>
              refine Or.inr ⟨fun actions h => ?_, _, by
                simp only [capabilitySubscribe, hactions, hlist]; rfl⟩
              obtain rfl := Option.some.inj (hactions.symm.trans h)
              exact absurd hlist (by simp [Json.getStringList])
          | ok actions =>
              obtain rfl := Json.getStringList_eq_ok_iff.mp hlist
              refine Or.inl ⟨json, actions, rfl, hactions, ?_⟩
              simp only [capabilitySubscribe, hactions, hlist]
              rfl

/-! ## The channels of a reachable binding -/

theorem messaging_after_actions (env : Environment) (capability : CapabilityPtr)
    (request : RequestPtr) (b : Binding) (actions : List String) :
    (TryEach.after (askAction env capability request) b actions).messaging =
      (Messaging.machine env CapabilitiesFactory.capabilities).run b.messaging
        (actions.map fun action => .subscribe request capability action) := by
  induction actions generalizing b with
  | nil => rfl
  | cons action rest ih => exact ih (askAction env capability request b action).2

/-- However the loop ends, some of the subscriptions have been made. -/
theorem messaging_subscribeToActions (env : Environment) (capability : CapabilityPtr)
    (request : RequestPtr) (b : Binding) (actions : List String) :
    ∃ ops, (subscribeToActions env capability request b actions).2.messaging =
      (Messaging.machine env CapabilitiesFactory.capabilities).run b.messaging ops := by
  rw [subscribeToActions_eq]
  rcases TryEach.accepted_or_stopsAt (askAction env capability request) b actions with
    haccepted | ⟨front, action, back, hstops⟩
  · rw [TryEach.tryEach_of_accepted haccepted]
    exact ⟨_, messaging_after_actions env capability request b actions⟩
  · refine ⟨(front ++ [action]).map fun action => .subscribe request capability action, ?_⟩
    rw [TryEach.tryEach_of_stopsAt hstops, List.map_append, Machine.run_append,
      ← messaging_after_actions]
    rfl

/-- What a handler does to the messaging service: nothing but more calls, or some steps of
its machine. -/
inductive Messages (env : Environment) (b b' : Binding) : Prop where
  | calls (added : Trace)
      (h : b'.messaging = { b.messaging with calls := b.messaging.calls ++ added })
  | run (ops : List MessagingOp)
      (h : b'.messaging =
        (Messaging.machine env CapabilitiesFactory.capabilities).run b.messaging ops)

theorem Messages.refl (env : Environment) (b : Binding) : Messages env b b := .run [] rfl

theorem Messages.wf {env : Environment} (henv : env.afbApi = true) {b b' : Binding}
    (h : Messages env b b') (hwf : b.messaging.Wf) : b'.messaging.Wf := by
  rcases h with ⟨added, h⟩ | ⟨ops, h⟩
  · rw [h]
    exact hwf.ofCalls added
  · rw [h]
    exact (Messaging.machine env CapabilitiesFactory.capabilities).run_invariant
      (Messaging.wf_step henv CapabilitiesFactory.capabilities) hwf ops

theorem Messages.ofActs {env : Environment} {b b' : Binding} (h : Acts env b b')
    (hservice : b'.sCapabilityMessagingService = b.sCapabilityMessagingService) :
    Messages env b b' := by
  obtain ⟨added, hadded⟩ := h.calls_extend
  refine .calls added ?_
  simp only [Binding.messaging, hservice, hadded]

theorem after_events (env : Environment) (request : RequestPtr) (voiceAgentId : String)
    (b : Binding) (events : List String) :
    ∃ calls, TryEach.after (askEvent env request voiceAgentId) b events =
      { b with calls := calls } := by
  induction events generalizing b with
  | nil => exact ⟨b.calls, rfl⟩
  | cons event rest ih => exact ih (askEvent env request voiceAgentId b event).2

theorem after_events_manager (env : Environment) (request : RequestPtr) (voiceAgentId : String)
    (b : Binding) (events : List String) :
    (TryEach.after (askEvent env request voiceAgentId) b events).sVoiceAgentsDataManager =
      b.sVoiceAgentsDataManager := by
  obtain ⟨calls, hcalls⟩ := after_events env request voiceAgentId b events
  rw [hcalls]

/-- Subscribing to events only makes calls. -/
theorem subscribeToEvents_binding (env : Environment) (request : RequestPtr)
    (voiceAgentId : String) (b : Binding) (events : List String) :
    ∃ calls, (subscribeToEvents env request voiceAgentId b events).2 =
      { b with calls := calls } := by
  rw [subscribeToEvents_eq]
  rcases TryEach.accepted_or_stopsAt (askEvent env request voiceAgentId) b events with
    haccepted | ⟨front, event, back, hstops⟩
  · rw [TryEach.tryEach_of_accepted haccepted]
    exact after_events env request voiceAgentId b events
  · rw [TryEach.tryEach_of_stopsAt hstops]
    obtain ⟨calls, hcalls⟩ := after_events env request voiceAgentId b front
    simp only [askEvent, hcalls]
    exact ⟨_, rfl⟩

section

variable (env : Environment) (b : Binding)

theorem onStateEvent_service (eventName : String) (eventJ : Option Json) :
    (onStateEvent env eventName b eventJ).binding.sCapabilityMessagingService =
      b.sCapabilityMessagingService := by
  simp only [onStateEvent]
  split
  · rfl
  · split
    · rfl
    · split
      · rfl
      · rfl

theorem loadAgents_service (entries : List Json) :
    (loadAgents env b entries).2.1.sCapabilityMessagingService =
      b.sCapabilityMessagingService := by
  induction entries generalizing b with
  | nil => rfl
  | cons agentJson rest ih =>
      have hround : (loadAgent env b agentJson).2.1.sCapabilityMessagingService =
          b.sCapabilityMessagingService := by
        unfold loadAgent
        split
        · rfl
        · cases decodeAgent agentJson with
          | error fault => rfl
          | ok args => rfl
      unfold loadAgents
      rcases hload : loadAgent env b agentJson with ⟨fault | done, b', notified⟩
      · rw [hload] at hround
        exact hround
      · rw [hload] at hround
        exact (ih b').trans hround

theorem loadVoiceAgentsConfig_service (argsJ : Option Json) :
    (loadVoiceAgentsConfig env b argsJ).binding.sCapabilityMessagingService =
      b.sCapabilityMessagingService := by
  unfold loadVoiceAgentsConfig
  cases argsJ with
  | none => rfl
  | some agentsConfigJson =>
      simp only
      cases agentsConfigJson.find? VA_JSON_ATTR_AGENTS with
      | none => rfl
      | some agentsJson =>
          have hloop := loadAgents_service env b agentsJson.iterate
          simp only
          rcases hload : loadAgents env b agentsJson.iterate with ⟨fault | done, b', notified⟩
          · rw [hload] at hloop
            exact hloop
          · rw [hload] at hloop
            refine Eq.trans ?_ hloop
            simp only [loadDefault]
            split
            · rfl
            · split
              · rfl
              · rfl

theorem subscribe_service (request : RequestPtr) (eventJ : Option Json) :
    (subscribe env b request eventJ).binding.sCapabilityMessagingService =
      b.sCapabilityMessagingService := by
  have hsubscribed : (subscribed env b).sCapabilityMessagingService =
      b.sCapabilityMessagingService := rfl
  rcases subscribe_cases env b request eventJ with
    ⟨json, voiceAgentId, events, -, -, heq⟩ | ⟨-, ret, heq⟩
  · obtain ⟨calls, hcalls⟩ := subscribeToEvents_binding env request voiceAgentId
      (subscribed env b) events
    rw [heq, answered_binding, hcalls]
    exact hsubscribed
  · rw [heq]
    exact hsubscribed

theorem startListening_service :
    (startListening env b).binding.sCapabilityMessagingService =
      b.sCapabilityMessagingService := by
  simp only [startListening]
  split
  · rfl
  · rfl

theorem setDefaultVoiceAgent_service (eventJ : Option Json) :
    (setDefaultVoiceAgent env b eventJ).binding.sCapabilityMessagingService =
      b.sCapabilityMessagingService := by
  simp only [setDefaultVoiceAgent]
  split
  · rfl
  · split
    · rfl
    · split
      · rfl
      · split
        · rfl
        · rfl

theorem capabilitySubscribe_messages (capability : CapabilityPtr) (info : String)
    (request : RequestPtr) (eventJ : Option Json) :
    Messages env b (capabilitySubscribe env capability info b request eventJ).binding := by
  rcases capabilitySubscribe_cases env capability info b request eventJ with
    ⟨json, actions, -, -, heq⟩ | ⟨-, ret, heq⟩
  · obtain ⟨ops, hops⟩ := messaging_subscribeToActions env capability request b actions
    rw [heq, answered_binding]
    exact .run ops hops
  · rw [heq]
    exact .refl env b

theorem capabilityPublish_messages (capability : CapabilityPtr) (info : String)
    (eventJ : Option Json) :
    Messages env b (capabilityPublish env capability info b eventJ).binding := by
  simp only [capabilityPublish]
  split
  · exact .refl env b
  · split
    · exact .refl env b
    · split
      · exact .refl env b
      · split
        · exact .refl env b
        · split
          · exact .refl env b
          · rename_i action _ _ _ _ _ payload _
            split
            · exact .run [.publish capability action payload] rfl
            · exact .run [.publish capability action payload] rfl

theorem handle_messages (verb : Verb) : Messages env b (handle env b verb).binding := by
  have hacts := handle_acts env b verb
  cases verb with
  | onAuthStateEvent eventJ => exact .ofActs hacts (onStateEvent_service env b _ eventJ)
  | onConnectionStateEvent eventJ => exact .ofActs hacts (onStateEvent_service env b _ eventJ)
  | onDialogStateEvent eventJ => exact .ofActs hacts (onStateEvent_service env b _ eventJ)
  | loadVoiceAgentsConfig argsJ => exact .ofActs hacts (loadVoiceAgentsConfig_service env b argsJ)
  | startListening => exact .ofActs hacts (startListening_service env b)
  | cancelListening => exact .refl env b
  | enumerateVoiceAgents => exact .refl env b
  | subscribe request eventJ => exact .ofActs hacts (subscribe_service env b request eventJ)
  | setDefaultVoiceAgent eventJ => exact .ofActs hacts (setDefaultVoiceAgent_service env b eventJ)
  | guiMetadataSubscribe request eventJ =>
      exact capabilitySubscribe_messages env b _ _ request eventJ
  | guiMetadataPublish eventJ => exact capabilityPublish_messages env b _ _ eventJ
  | phonecontrolSubscribe request eventJ =>
      exact capabilitySubscribe_messages env b _ _ request eventJ
  | phonecontrolPublish eventJ => exact capabilityPublish_messages env b _ _ eventJ
  | navigationSubscribe request eventJ =>
      exact capabilitySubscribe_messages env b _ _ request eventJ
  | navigationPublish eventJ => exact capabilityPublish_messages env b _ _ eventJ
  | rehash voiceAgents observers => exact .ofActs hacts rfl

end

theorem Reachable.messagingWf {env : Environment} {b : Binding} (h : Reachable env b) :
    b.messaging.Wf := by
  refine h.invariant (I := fun b => b.messaging.Wf) ?_ ?_
  · intro loaded hloaded
    obtain ⟨-, rfl⟩ := CTLP_ONLOAD_eq_some_iff.mp hloaded
    exact Messaging.wf_initial
  · exact fun b verb hwf => (handle_messages env b verb).wf h.afbApi hwf

end Vshl.Api
