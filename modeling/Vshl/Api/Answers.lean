/-
  Api/Answers.lean --- which requests a handler answers with a return value, and which end
  in a fault.

  A member of the request that is missing is looked for before it is converted; a member of
  the wrong kind is not, and the exception of the conversion leaves the handler.  Requests are
  values here: that `json::parse` reads back what was printed is assumed (`Interfaces/Json`),
  and a request of which that is not true ends in the exception of `json::parse`.
-/
import Vshl.Api.Config
import Vshl.Api.SubscriptionResults

set_option autoImplicit false

namespace Vshl.Api

open Vshl.Foundation
open Vshl.Interfaces
open Vshl.VoiceAgents
open Vshl.Core
open Vshl.Capabilities

/-- The handler returns 0 or -1 to the controller. -/
def Returns (done : Done) : Prop := done.ret = .ok 0 ∨ done.ret = .ok (-1)

@[simp] theorem returns_return {b : Binding} {ret : Except Fault Int} :
    Returns (b.return ret) ↔ ret = .ok 0 ∨ ret = .ok (-1) := Iff.rfl

@[simp] theorem returns_succeed (b : Binding) (response : Option Json) :
    Returns (b.succeed response) := Or.inl rfl

theorem returns_answered_iff {response : Option Json} {done : Except Fault Bool × Binding} :
    Returns (answered response done) ↔ ¬ ∃ fault, done.1 = .error fault := by
  rcases done with ⟨fault | (_ | _), b⟩
  · simp [answered]
  · simp [answered]
  · simp [answered]

/-! ## The kinds of the members -/

/-- If there is a request and it has the member, the value is like this. -/
def IfPresent (request : Option Json) (key : String) (P : Json → Prop) : Prop :=
  ∀ json ∈ request, ∀ member ∈ json.find? key, P member

/-- The value is a string that is like this. -/
def IsString (P : String → Prop) (json : Json) : Prop := ∃ s, json = .str s ∧ P s

/-- The value is a list of strings that is like this. -/
def IsStrings (P : List String → Prop) (json : Json) : Prop :=
  ∃ strings : List String, json = .arr (strings.map .str) ∧ P strings

theorem ifPresent_null (key : String) (P : Json → Prop) : IfPresent none key P :=
  fun _ hjson => absurd hjson (by simp)

theorem ifPresent_missing {json : Json} {key : String} (h : json.find? key = none)
    (P : Json → Prop) : IfPresent (some json) key P := by
  simp [IfPresent, h]

theorem ifPresent_iff {json : Json} {key : String} {P : Json → Prop} {member : Json}
    (h : json.find? key = some member) : IfPresent (some json) key P ↔ P member := by
  simp [IfPresent, h]

theorem isString_of_ok {json : Json} {s : String} {P : String → Prop}
    (h : json.getString = .ok s) : IsString P json ↔ P s := by
  rw [Json.getString_eq_ok_iff.mp h]
  simp [IsString]

theorem not_isString {json : Json} {fault : Fault} {P : String → Prop}
    (h : json.getString = .error fault) : ¬ IsString P json := by
  rintro ⟨s, rfl, -⟩
  exact absurd h (by simp [Json.getString])

theorem isStrings_of_ok {json : Json} {strings : List String} {P : List String → Prop}
    (h : json.getStringList = .ok strings) : IsStrings P json ↔ P strings := by
  rw [Json.getStringList_eq_ok_iff.mp h]
  constructor
  · rintro ⟨others, heq, hothers⟩
    rw [List.map_injective_iff.mpr (fun _ _ => Json.str.inj) (Json.arr.inj heq)]
    exact hothers
  · exact fun hstrings => ⟨strings, rfl, hstrings⟩

theorem not_isStrings {json : Json} {fault : Fault} {P : List String → Prop}
    (h : json.getStringList = .error fault) : ¬ IsStrings P json := by
  rintro ⟨strings, rfl, -⟩
  exact absurd h (by simp [Json.getStringList])

/-! ## One handler after the other -/

/-- The agent has an event of this name, but creating it yielded null. -/
structure NullEvent (manager : VoiceAgentsDataManager) (eventName voiceAgentId : String) :
    Prop where
  registered : voiceAgentId ∈ manager.mVoiceAgents
  name_mem : eventName ∈ VSHL_EVENTS
  find : manager.mVoiceAgentEventsHandler.mEventsMap.find
    (createEventNameWithVAId eventName voiceAgentId) = some none

section

variable {env : Environment} {b : Binding}

/-- What a state event must be. -/
def TameStateEvent (b : Binding) (eventName : String) (eventJ : Option Json) : Prop :=
  IfPresent eventJ EVENTS_JSON_ATTR_VA_ID
    (IsString fun id => ¬ NullEvent b.sVoiceAgentsDataManager eventName id)

/-- An incoming event ends in a fault exactly if its event is null. -/
theorem handleIncomingEvent_fault_iff (env : Environment) (hwf : RegistryWf b.state)
    {eventName : String} (hname : eventName ∈ VSHL_EVENTS) (voiceAgentId payload : String) :
    (∃ fault, (b.dataManager env
        (.handleIncomingEvent eventName voiceAgentId payload)).2.result = .fault fault) ↔
      NullEvent b.sVoiceAgentsDataManager eventName voiceAgentId := by
  have hresult : (b.dataManager env
      (.handleIncomingEvent eventName voiceAgentId payload)).2.result =
      .ofExcept (b.sVoiceAgentsDataManager.mVoiceAgentEventsHandler.onIncomingEvent env b.calls
        eventName voiceAgentId payload).1 := by
    rw [← routeToDataManager_eq]
    rfl
  rw [hresult, VoiceAgentEventsHandler.onIncomingEvent]
  constructor
  · rintro ⟨fault, hfault⟩
    split at hfault
    · exact absurd hfault (by simp [Result.ofExcept])
    · rename_i hnull
      obtain ⟨id, hid, hof⟩ := (hwf.owns _).mp (UnorderedMap.mem_iff_find.mpr ⟨none, hnull⟩)
      rw [isEventOf_name_iff hname] at hof
      exact ⟨hof ▸ hid, hname, hnull⟩
    · exact absurd hfault (by simp [Result.ofExcept])
  · intro hnull
    rw [hnull.find]
    exact ⟨.nullDereference, rfl⟩

theorem onStateEvent_returns_iff (hwf : RegistryWf b.state) {eventName : String}
    (hname : eventName ∈ VSHL_EVENTS) (eventJ : Option Json) :
    Returns (onStateEvent env eventName b eventJ) ↔ TameStateEvent b eventName eventJ := by
  unfold TameStateEvent
  cases eventJ with
  | none => exact iff_of_true (Or.inr rfl) (ifPresent_null _ _)
  | some json =>
      cases hid : json.find? EVENTS_JSON_ATTR_VA_ID with
      | none =>
          refine iff_of_true ?_ (ifPresent_missing hid _)
          simp [onStateEvent, hid]
      | some idJson =>
          rw [ifPresent_iff hid]
          cases hstring : idJson.getString with
          | error fault =>
              exact iff_of_false (by simp [onStateEvent, hid, hstring]) (not_isString hstring)
          | ok id =>
              rw [isString_of_ok hstring,
                ← handleIncomingEvent_fault_iff env hwf hname id (env.jsonText json)]
              simp only [onStateEvent, Option.getD_some, hid, hstring]
              cases (b.dataManager env
                (.handleIncomingEvent eventName id (env.jsonText json))).2.result with
              | fault fault => simp
              | _ => simp

/-- What a subscription must be: it reaches no null event. -/
def TameSubscribe (b : Binding) (eventJ : Option Json) : Prop :=
  IfPresent eventJ EVENTS_JSON_ATTR_VA_ID (IsString fun id =>
    IfPresent eventJ EVENTS_JSON_ATTR_EVENTS (IsStrings fun names =>
      ∀ front name back, names = front ++ name :: back →
        (∀ earlier ∈ front, ∃ event, Subscribable b.sVoiceAgentsDataManager earlier id event) →
        ¬ NullEvent b.sVoiceAgentsDataManager name id))

theorem askEvent_fault_iff (env : Environment) {manager : VoiceAgentsDataManager}
    (hnamed : ∀ id p, manager.mVoiceAgents.find id = some p → (manager.agents.object p).mId = id)
    (request : RequestPtr) (voiceAgentId : String) {b : Binding}
    (hmanager : b.sVoiceAgentsDataManager = manager) (name : String) :
    (∃ fault, (askEvent env request voiceAgentId b name).1 = .error fault) ↔
      NullEvent manager name voiceAgentId := by
  subst hmanager
  have hnull : NullEvent b.sVoiceAgentsDataManager name voiceAgentId ↔
      ∃ voiceAgent, b.sVoiceAgentsDataManager.eventFor name voiceAgentId =
        some (voiceAgent, none) := by
    rw [eventFor_iff hnamed]
    exact ⟨fun h => ⟨h.registered, h.name_mem, h.find⟩, fun h => ⟨h.1, h.2.1, h.2.2⟩⟩
  rw [hnull, askEvent, VoiceAgentsDataManager.subscribeToVshlEventFromVoiceAgent_eq]
  split
  · rename_i hnone
    simp [hnone]
  · rename_i voiceAgent hfound
    simp [hfound]
  · rename_i voiceAgent event hfound
    simp [hfound]

/-- The loop ends in a fault exactly if it reaches a null event. -/
theorem subscribing_returns_iff (hwf : BindingWf b) (request : RequestPtr) (voiceAgentId : String)
    (names : List String) (response : Option Json) :
    Returns (answered response
        (tryEach (askEvent env request voiceAgentId) (subscribed env b) names)) ↔
      ∀ front name back, names = front ++ name :: back →
        (∀ earlier ∈ front, ∃ event,
          Subscribable b.sVoiceAgentsDataManager earlier voiceAgentId event) →
        ¬ NullEvent b.sVoiceAgentsDataManager name voiceAgentId := by
  have hnamed := subscribed_named env hwf
  have hround : ∀ front name, (∃ fault, (askEvent env request voiceAgentId
      (TryEach.after (askEvent env request voiceAgentId) (subscribed env b) front) name).1 =
        .error fault) ↔ NullEvent b.sVoiceAgentsDataManager name voiceAgentId := by
    intro front name
    rw [askEvent_fault_iff env hnamed request voiceAgentId
      (after_events_manager env request voiceAgentId (subscribed env b) front)]
    obtain ⟨flag, added, hsubscribed, -⟩ := subscribed_only env b
    rw [hsubscribed]
    exact ⟨fun h => ⟨h.registered, h.name_mem, h.find⟩,
      fun h => ⟨h.registered, h.name_mem, h.find⟩⟩
  rw [returns_answered_iff, TryEach.tryEach_error_iff]
  simp only [accepted_iff_subscribable env hnamed request voiceAgentId rfl,
    subscribable_subscribed, hround]
  constructor
  · intro h front name back hsplit haccepted hnull
    exact h ⟨front, name, back, hsplit, haccepted, hnull⟩
  · rintro h ⟨front, name, back, hsplit, haccepted, hnull⟩
    exact h front name back hsplit haccepted hnull

theorem subscribe_returns_iff (hwf : BindingWf b) (request : RequestPtr)
    (eventJ : Option Json) :
    Returns (subscribe env b request eventJ) ↔ TameSubscribe b eventJ := by
  unfold TameSubscribe
  cases eventJ with
  | none => exact iff_of_true (Or.inr rfl) (ifPresent_null _ _)
  | some json =>
      cases hid : json.find? EVENTS_JSON_ATTR_VA_ID with
      | none =>
          refine iff_of_true ?_ (ifPresent_missing hid _)
          simp [subscribe, hid]
      | some idJson =>
          rw [ifPresent_iff hid]
          cases hstring : idJson.getString with
          | error fault =>
              exact iff_of_false (by simp [subscribe, hid, hstring]) (not_isString hstring)
          | ok id =>
              rw [isString_of_ok hstring]
              cases hevents : json.find? EVENTS_JSON_ATTR_EVENTS with
              | none =>
                  refine iff_of_true ?_ (ifPresent_missing hevents _)
                  simp [subscribe, hid, hstring, hevents]
              | some eventsJson =>
                  rw [ifPresent_iff hevents]
                  cases hlist : eventsJson.getStringList with
                  | error fault =>
                      exact iff_of_false (by simp [subscribe, hid, hstring, hevents, hlist])
                        (not_isStrings hlist)
                  | ok names =>
                      rw [isStrings_of_ok hlist]
                      obtain rfl := Json.getString_eq_ok_iff.mp hstring
                      obtain rfl := Json.getStringList_eq_ok_iff.mp hlist
                      rw [subscribe_of_asks rfl ⟨hid, hevents⟩]
                      exact subscribing_returns_iff hwf request id names _

/-- What a request for a new default must be. -/
def TameDefault (eventJ : Option Json) : Prop :=
  IfPresent eventJ VA_JSON_ATTR_ID (IsString fun _ => True)

theorem setDefaultVoiceAgent_returns_iff (eventJ : Option Json) :
    Returns (setDefaultVoiceAgent env b eventJ) ↔ TameDefault eventJ := by
  unfold TameDefault
  cases eventJ with
  | none => exact iff_of_true (Or.inr rfl) (ifPresent_null _ _)
  | some json =>
      cases hid : json.find? VA_JSON_ATTR_ID with
      | none =>
          refine iff_of_true ?_ (ifPresent_missing hid _)
          simp [setDefaultVoiceAgent, hid]
      | some idJson =>
          rw [ifPresent_iff hid]
          cases hstring : idJson.getString with
          | error fault =>
              exact iff_of_false (by simp [setDefaultVoiceAgent, hid, hstring])
                (not_isString hstring)
          | ok id =>
              refine iff_of_true ?_ ((isString_of_ok hstring).mpr trivial)
              simp only [setDefaultVoiceAgent, hid, hstring]
              split
              · exact Or.inl rfl
              · exact Or.inr rfl

/-! ### The configuration -/

/-- What a configuration must be: a complete entry is of the right kinds, and so is the
default. -/
def TameConfig (argsJ : Option Json) : Prop :=
  IfPresent argsJ VA_JSON_ATTR_AGENTS fun agentsJson =>
    (∀ entry ∈ agentsJson.iterate, missesParam entry = false → RightKinds entry) ∧
      IfPresent argsJ VA_JSON_ATTR_DEFAULT (IsString fun _ => True)

theorem loadDefault_returns_iff (notified : List Notification) (config : Json) :
    Returns (loadDefault env b notified config) ↔
      IfPresent (some config) VA_JSON_ATTR_DEFAULT (IsString fun _ => True) := by
  unfold loadDefault
  cases hdefault : config.find? VA_JSON_ATTR_DEFAULT with
  | none => exact iff_of_true (Or.inr rfl) (ifPresent_missing hdefault _)
  | some defaultJson =>
      rw [ifPresent_iff hdefault]
      cases hstring : defaultJson.getString with
      | error fault => exact iff_of_false (by simp [Returns, hstring]) (not_isString hstring)
      | ok id =>
          refine iff_of_true ?_ ((isString_of_ok hstring).mpr trivial)
          simp [Returns, hstring]

theorem loadVoiceAgentsConfig_returns_iff (argsJ : Option Json) :
    Returns (loadVoiceAgentsConfig env b argsJ) ↔ TameConfig argsJ := by
  unfold TameConfig
  cases argsJ with
  | none => exact iff_of_true (Or.inr rfl) (ifPresent_null _ _)
  | some config =>
      cases hagents : config.find? VA_JSON_ATTR_AGENTS with
      | none =>
          refine iff_of_true ?_ (ifPresent_missing hagents _)
          simp [loadVoiceAgentsConfig, hagents]
      | some agentsJson =>
          rw [ifPresent_iff hagents, ← loadAgents_ok_iff env b agentsJson.iterate]
          simp only [loadVoiceAgentsConfig, hagents]
          rcases loadAgents env b agentsJson.iterate with ⟨fault | done, b', notified⟩
          · simp [Returns]
          · simp [loadDefault_returns_iff]

/-! ### Capabilities -/

/-- What a subscription to actions must be. -/
def TameActions (eventJ : Option Json) : Prop :=
  IfPresent eventJ CAPABILITIES_JSON_ATTR_ACTIONS (IsStrings fun _ => True)

/-- What a message must be. -/
def TameMessage (eventJ : Option Json) : Prop :=
  IfPresent eventJ CAPABILITIES_JSON_ATTR_ACTION (IsString fun _ =>
    IfPresent eventJ CAPABILITIES_JSON_ATTR_PAYLOAD (IsString fun _ => True))

/-- No channel is null, so the loop ends in no fault. -/
theorem subscribing_to_actions_returns (henv : env.afbApi = true) (hwf : b.messaging.Wf)
    (capability : CapabilityPtr) (request : RequestPtr) (actions : List String)
    (response : Option Json) :
    Returns (answered response (subscribeToActions env capability request b actions)) := by
  rw [returns_answered_iff, subscribeToActions_eq, TryEach.tryEach_error_iff]
  rintro ⟨front, action, back, -, -, fault, hfault⟩
  have hfront : (TryEach.after (askAction env capability request) b front).messaging.Wf := by
    rw [messaging_after_actions]
    exact (Messaging.machine env CapabilitiesFactory.capabilities).run_invariant
      (Messaging.wf_step henv CapabilitiesFactory.capabilities) hwf _
  obtain ⟨added, -, hasked⟩ := step_asked request capability henv hfront action
  rcases hasked with ⟨event, -, htrue, -, -⟩ | ⟨hfalse, -, -⟩
  · exact absurd (htrue.symm.trans hfault) (by simp)
  · exact absurd (hfalse.symm.trans hfault) (by simp)

theorem capabilitySubscribe_returns_iff (henv : env.afbApi = true) (hwf : b.messaging.Wf)
    (capability : CapabilityPtr) (info : String) (request : RequestPtr) (eventJ : Option Json) :
    Returns (capabilitySubscribe env capability info b request eventJ) ↔ TameActions eventJ := by
  unfold TameActions
  cases eventJ with
  | none => exact iff_of_true (Or.inr rfl) (ifPresent_null _ _)
  | some json =>
      cases hactions : json.find? CAPABILITIES_JSON_ATTR_ACTIONS with
      | none =>
          refine iff_of_true ?_ (ifPresent_missing hactions _)
          simp [capabilitySubscribe, hactions]
      | some actionsJson =>
          rw [ifPresent_iff hactions]
          cases hlist : actionsJson.getStringList with
          | error fault =>
              exact iff_of_false (by simp [capabilitySubscribe, hactions, hlist])
                (not_isStrings hlist)
          | ok actions =>
              refine iff_of_true ?_ ((isStrings_of_ok hlist).mpr trivial)
              have hdone := subscribing_to_actions_returns henv hwf capability request actions
                (some (.str info))
              simp only [capabilitySubscribe, hactions, hlist]
              exact hdone

theorem capabilityPublish_returns_iff (capability : CapabilityPtr) (info : String)
    (eventJ : Option Json) :
    Returns (capabilityPublish env capability info b eventJ) ↔ TameMessage eventJ := by
  unfold TameMessage
  cases eventJ with
  | none => exact iff_of_true (Or.inr rfl) (ifPresent_null _ _)
  | some json =>
      cases haction : json.find? CAPABILITIES_JSON_ATTR_ACTION with
      | none =>
          refine iff_of_true ?_ (ifPresent_missing haction _)
          simp [capabilityPublish, haction]
      | some actionJson =>
          rw [ifPresent_iff haction]
          cases hstring : actionJson.getString with
          | error fault =>
              exact iff_of_false (by simp [capabilityPublish, haction, hstring])
                (not_isString hstring)
          | ok action =>
              rw [isString_of_ok hstring]
              cases hpayload : json.find? CAPABILITIES_JSON_ATTR_PAYLOAD with
              | none =>
                  refine iff_of_true ?_ (ifPresent_missing hpayload _)
                  simp [capabilityPublish, haction, hstring, hpayload]
              | some payloadJson =>
                  rw [ifPresent_iff hpayload]
                  cases htext : payloadJson.getString with
                  | error fault =>
                      exact iff_of_false
                        (by simp [capabilityPublish, haction, hstring, hpayload, htext])
                        (not_isString htext)
                  | ok payload =>
                      refine iff_of_true ?_ ((isString_of_ok htext).mpr trivial)
                      simp only [capabilityPublish, haction, hstring, hpayload, htext]
                      split
                      · exact returns_succeed _ _
                      · exact Or.inr rfl

end

/-! ## Every handler -/

/-- What a request must be to be answered. -/
def Tame (b : Binding) : Verb → Prop
  | .onAuthStateEvent eventJ => TameStateEvent b VSHL_EVENT_AUTH_STATE_EVENT eventJ
  | .onConnectionStateEvent eventJ => TameStateEvent b VSHL_EVENT_CONNECTION_STATE_EVENT eventJ
  | .onDialogStateEvent eventJ => TameStateEvent b VSHL_EVENT_DIALOG_STATE_EVENT eventJ
  | .loadVoiceAgentsConfig argsJ => TameConfig argsJ
  | .subscribe _ eventJ => TameSubscribe b eventJ
  | .setDefaultVoiceAgent eventJ => TameDefault eventJ
  | .guiMetadataSubscribe _ eventJ => TameActions eventJ
  | .phonecontrolSubscribe _ eventJ => TameActions eventJ
  | .navigationSubscribe _ eventJ => TameActions eventJ
  | .guiMetadataPublish eventJ => TameMessage eventJ
  | .phonecontrolPublish eventJ => TameMessage eventJ
  | .navigationPublish eventJ => TameMessage eventJ
  | .startListening => True
  | .cancelListening => True
  | .enumerateVoiceAgents => True
  | .rehash _ _ => True

theorem startListening_returns (env : Environment) (b : Binding) :
    Returns (startListening env b) := by
  simp only [startListening]
  split
  · exact returns_succeed _ _
  · exact Or.inl rfl

/-- A handler returns exactly if no value it comes to convert is of the wrong kind and no
event it comes to use is null. -/
theorem handle_returns_iff {env : Environment} {b : Binding} (h : Reachable env b)
    (verb : Verb) : Returns (handle env b verb) ↔ Tame b verb := by
  have hregistry := h.wf.registry
  cases verb with
  | onAuthStateEvent eventJ =>
      exact onStateEvent_returns_iff hregistry (by simp [VSHL_EVENTS]) eventJ
  | onConnectionStateEvent eventJ =>
      exact onStateEvent_returns_iff hregistry (by simp [VSHL_EVENTS]) eventJ
  | onDialogStateEvent eventJ =>
      exact onStateEvent_returns_iff hregistry (by simp [VSHL_EVENTS]) eventJ
  | loadVoiceAgentsConfig argsJ => exact loadVoiceAgentsConfig_returns_iff argsJ
  | subscribe request eventJ => exact subscribe_returns_iff h.wf request eventJ
  | setDefaultVoiceAgent eventJ => exact setDefaultVoiceAgent_returns_iff eventJ
  | guiMetadataSubscribe request eventJ =>
      exact capabilitySubscribe_returns_iff h.afbApi h.messagingWf _ _ request eventJ
  | phonecontrolSubscribe request eventJ =>
      exact capabilitySubscribe_returns_iff h.afbApi h.messagingWf _ _ request eventJ
  | navigationSubscribe request eventJ =>
      exact capabilitySubscribe_returns_iff h.afbApi h.messagingWf _ _ request eventJ
  | guiMetadataPublish eventJ => exact capabilityPublish_returns_iff _ _ eventJ
  | phonecontrolPublish eventJ => exact capabilityPublish_returns_iff _ _ eventJ
  | navigationPublish eventJ => exact capabilityPublish_returns_iff _ _ eventJ
  | startListening => exact iff_of_true (startListening_returns env b) trivial
  | cancelListening => exact iff_of_true (Or.inl rfl) trivial
  | enumerateVoiceAgents => exact iff_of_true (Or.inl rfl) trivial
  | rehash voiceAgents observers => exact iff_of_true (Or.inl rfl) trivial

/-- An id that is a number. -/
def numericId : Json := .obj [(EVENTS_JSON_ATTR_VA_ID, .num 5 0)]

theorem handle_returns_iff_loaded :
    Returns (handle .obliging ((CTLP_ONLOAD .obliging).get rfl)
        (.onAuthStateEvent (some numericId))) ↔
      Tame ((CTLP_ONLOAD .obliging).get rfl) (.onAuthStateEvent (some numericId)) :=
  handle_returns_iff ⟨_, [], rfl, rfl⟩ _

/-- The exception of its conversion leaves the handler. -/
theorem numeric_id_escapes :
    ¬ ∀ (env : Environment) (b : Binding) (verb : Verb), Reachable env b →
      Returns (handle env b verb) := by
  intro h
  have hreturns := h .obliging ((CTLP_ONLOAD .obliging).get rfl)
    (.onAuthStateEvent (some numericId)) ⟨_, [], rfl, rfl⟩
  have hret : (handle .obliging ((CTLP_ONLOAD .obliging).get rfl)
      (.onAuthStateEvent (some numericId))).ret = .error .typeError := rfl
  rw [Returns, hret] at hreturns
  exact absurd hreturns (by simp)

end Vshl.Api
