/-
  Api/LostEvents.lean --- an event that could not be created.

  No name is asked for twice, so the plugin never tries again.  The agent or the channel
  stays, though, and every later request that is about the event comes to the place where
  it is missing.
-/
import Vshl.Api.Pushes

set_option autoImplicit false

namespace Vshl.Api

open Vshl.Foundation
open Vshl.Interfaces
open Vshl.VoiceAgents
open Vshl.Core
open Vshl.Capabilities
open Vshl.Afb

/-- There is no event of this name, and whoever asks for it is not served. -/
structure Lost (env : Environment) (b : Binding) (eventName : String) : Prop where
  never : ∀ event : EventPtr, b.calls[event]? ≠ some (.createEvent eventName true)
  /-- a state event ends in the null dereference, before anything is called -/
  stateEvent : ∀ verb name json voiceAgentId, verb.stateEvent = some (name, some json) →
    json.find? EVENTS_JSON_ATTR_VA_ID = some (.str voiceAgentId) →
    createEventNameWithVAId name voiceAgentId = eventName →
    (handle env b verb).ret = .error .nullDereference ∧ (handle env b verb).binding.calls = b.calls
  /-- no list with the event in it is accepted -/
  subscription : ∀ request json voiceAgentId events name,
    AsksForEvents json voiceAgentId events → name ∈ events →
    createEventNameWithVAId name voiceAgentId = eventName →
    (handle env b (.subscribe request (some json))).ret ≠ .ok 0
  action : ∀ verb request, ¬ AcceptsAction env b verb request eventName
  message : ∀ verb capability payload, ¬ AcceptsMessage env b verb capability eventName payload

section

variable {env : Environment} {b : Binding} {i : Nat} {eventName : String}

/-- One creation of a name is all there is. -/
theorem not_created_of_failed (h : Reachable env b)
    (hfailed : b.calls[i]? = some (.createEvent eventName false)) (event : EventPtr) :
    b.calls[event]? ≠ some (.createEvent eventName true) := by
  intro hcreated
  obtain rfl := event_unique h.namesWf hfailed hcreated
  exact absurd (hfailed.symm.trans hcreated) (by simp)

/-- The failed event of an agent is stored as a null pointer. -/
theorem find_of_failed (h : Reachable env b) {name voiceAgentId : String}
    (hname : name ∈ VSHL_EVENTS) (hfailed : b.calls[i]? =
      some (.createEvent (createEventNameWithVAId name voiceAgentId) false)) :
    b.sVoiceAgentsDataManager.mVoiceAgentEventsHandler.mEventsMap.find
      (createEventNameWithVAId name voiceAgentId) = some none := by
  have hregistry : RegistryWf b.state := h.wf.registry
  have hmem : createEventNameWithVAId name voiceAgentId ∈ createNames b.calls :=
    List.mem_filterMap.mpr ⟨_, List.mem_of_getElem? hfailed, rfl⟩
  have howner : ∃ id ∈ b.sVoiceAgentsDataManager.mVoiceAgents,
      IsEventOf id (createEventNameWithVAId name voiceAgentId) := by
    rcases (h.namesWf.names _).mp hmem with howner | ⟨capability, -, haction⟩
    · exact howner
    · exact absurd ⟨name, hname, rfl⟩ (not_isEventOf_action haction voiceAgentId)
  obtain ⟨stored, hfind⟩ := UnorderedMap.mem_iff_find.mp ((hregistry.owns _).mpr howner)
  cases stored with
  | none => exact hfind
  | some event =>
      exact absurd (hregistry.backed _ _ hfind) (not_created_of_failed h hfailed event)

theorem onStateEvent_of_null {name voiceAgentId : String} {json : Json}
    (hfind : b.sVoiceAgentsDataManager.mVoiceAgentEventsHandler.mEventsMap.find
      (createEventNameWithVAId name voiceAgentId) = some none)
    (hid : json.find? EVENTS_JSON_ATTR_VA_ID = some (.str voiceAgentId)) :
    (onStateEvent env name b (some json)).ret = .error .nullDereference ∧
      (onStateEvent env name b (some json)).binding.calls = b.calls := by
  have hincoming : b.sVoiceAgentsDataManager.mVoiceAgentEventsHandler.onIncomingEvent env b.calls
      name voiceAgentId (env.jsonText json) = (.error .nullDereference, b.calls) := by
    simp only [VoiceAgentEventsHandler.onIncomingEvent, hfind]
  have hstep : VoiceAgents.step env b.state (.handleIncomingEvent name voiceAgentId
        (env.jsonText json)) = (b.state, ⟨[], .fault .nullDereference⟩) := by
    simp only [VoiceAgents.step, Binding.state, routeToDataManager_eq, hincoming]
    rfl
  simp only [onStateEvent, Option.getD_some, hid, Json.getString, Binding.dataManager, hstep]
  exact ⟨rfl, rfl⟩

/-- A list is accepted only if each of its events is there. -/
theorem subscribable_of_accepted (h : Reachable env b) {request : RequestPtr} {json : Json}
    {voiceAgentId : String} {events : List String} (hasks : AsksForEvents json voiceAgentId events)
    (haccepted : (handle env b (.subscribe request (some json))).ret = .ok 0) {name : String}
    (hmem : name ∈ events) :
    ∃ event, Subscribable b.sVoiceAgentsDataManager name voiceAgentId event := by
  have hret : (subscribe env b request (some json)).ret = .ok 0 := haccepted
  rw [subscribe_of_asks rfl hasks] at hret
  have htrue : (tryEach (askEvent env request voiceAgentId) (subscribed env b) events).1 =
      .ok true := by
    rcases hloop : tryEach (askEvent env request voiceAgentId) (subscribed env b) events with
      ⟨fault | (_ | _), b'⟩
    · simp [hloop, answered, Binding.return] at hret
    · simp [hloop, answered, Binding.return] at hret
    · rfl
  have hall := TryEach.tryEach_eq_true_iff.mp htrue
  rw [accepted_iff_subscribable env (subscribed_named env h.wf) request voiceAgentId rfl] at hall
  obtain ⟨event, hevent⟩ := hall name hmem
  exact ⟨event, (subscribable_subscribed env).mp hevent⟩

theorem lost_of_failed (h : Reachable env b)
    (hfailed : b.calls[i]? = some (.createEvent eventName false)) : Lost env b eventName where
  never := not_created_of_failed h hfailed
  stateEvent := by
    rintro verb name json voiceAgentId hverb hid rfl
    obtain ⟨hname, hhandle⟩ := handle_stateEvent env b hverb
    rw [hhandle]
    exact onStateEvent_of_null (find_of_failed h hname hfailed) hid
  subscription := by
    rintro request json voiceAgentId events name hasks hmem rfl haccepted
    have hregistry : RegistryWf b.state := h.wf.registry
    obtain ⟨event, hevent⟩ := subscribable_of_accepted h hasks haccepted hmem
    exact not_created_of_failed h hfailed event (hregistry.backed _ _ hevent.find)
  action := by
    intro verb request haccepts
    obtain ⟨-, event, -, -, hcreated⟩ := haccepts.granted h
    have hlater := getElem?_of_extends (handle_acts env b verb).calls_extend hfailed
    exact not_created_of_failed (h.handle verb) hlater event hcreated
  message := by
    intro verb capability payload haccepts
    obtain ⟨event, -, -, hcreated, -⟩ := haccepts.pushed h
    exact not_created_of_failed h hfailed event hcreated

end

/-- An event that could not be created is lost for good, whatever is requested later. -/
theorem lost_event_stays_lost {env : Environment} {b : Binding} (h : Reachable env b) {i : Nat}
    {eventName : String} (hfailed : b.calls[i]? = some (.createEvent eventName false))
    (later : List Verb) : Lost env ((machine env).run b later) eventName :=
  lost_of_failed (h.run later) (getElem?_of_extends (run_calls env b later) hfailed)

/-- An outside without the dialog state event of one agent. -/
def voiceless : Environment :=
  { Environment.obliging with
    createEvent := fun _ eventName =>
      eventName ≠ createEventNameWithVAId VSHL_EVENT_DIALOG_STATE_EVENT "VA-001" }

theorem onload_voiceless : (CTLP_ONLOAD voiceless).isSome = true := rfl

/-- Registering the agent again and reporting its state change nothing. -/
theorem lost_event_stays_lost_dialog :
    let load := Verb.loadVoiceAgentsConfig
      (some (encodeAgents [.simple "VA-001" "alexa-api"] "VA-001"))
    let dialogState := Verb.onDialogStateEvent
      (some (.obj [(EVENTS_JSON_ATTR_VA_ID, .str "VA-001")]))
    let b := (machine voiceless).run ((CTLP_ONLOAD voiceless).get onload_voiceless) [load]
    Lost voiceless ((machine voiceless).run b [dialogState, load])
      (createEventNameWithVAId VSHL_EVENT_DIALOG_STATE_EVENT "VA-001") := by
  intro load dialogState b
  have hreachable : Reachable voiceless b := ⟨_, [load], rfl, rfl⟩
  have hfailed : b.calls[2]? = some (.createEvent
      (createEventNameWithVAId VSHL_EVENT_DIALOG_STATE_EVENT "VA-001") false) := rfl
  exact lost_event_stays_lost hreachable hfailed [dialogState, load]

end Vshl.Api
