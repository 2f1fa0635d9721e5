/-
  Api/ServiceHandlers.lean --- every handler does what the service does for its request.
-/
import Vshl.Api.ServiceRefinement

set_option autoImplicit false

namespace Vshl.Api

open Vshl.Foundation
open Vshl.Interfaces
open Vshl.VoiceAgents
open Vshl.Core
open Vshl.Capabilities

/-- The handler leaves what the service leaves, and answers as it does if no event is
missing. -/
structure Refines (env : Environment) (b : Binding) (done : Done) (command : Command) : Prop where
  service : done.binding.service = (b.service.step command).1
  shows : Healthy env b → Shows done (b.service.step command).2

section

variable {env : Environment} {b : Binding}

theorem refines_return {b' : Binding} (hservice : b'.service = b.service)
    (ret : Except Fault Int) :
    Refines env b (b'.return ret) (.nothing (ret.casesOn .fault .returned)) := by
  refine ⟨hservice, fun _ => ?_⟩
  cases ret with
  | error fault => exact ⟨rfl, rfl⟩
  | ok ret => exact ⟨rfl, rfl⟩

/-- A handler that looks for a value in its request and converts it, before it does anything
else.  The handlers do this one value after the other. -/
theorem Refines.field {α : Type} {b' : Binding} (hservice : b'.service = b.service)
    {json : Option Json} {key : String} {get : Json → Except Fault α} {done : Done}
    {command : α → Command} (hnull : json = none → done = b'.return (.ok (-1)))
    (hmissing : ∀ found, json = some found → found.find? key = none →
      done = b'.return (.ok (-1)))
    (hfault : ∀ found member fault, json = some found → found.find? key = some member →
      get member = .error fault → done = b'.return (.error fault))
    (hvalue : ∀ found member value, json = some found → found.find? key = some member →
      get member = .ok value → Refines env b done (command value)) :
    Refines env b done (withField json key get command) := by
  unfold withField
  cases json with
  | none =>
      rw [hnull rfl]
      exact refines_return hservice (.ok (-1))
  | some found =>
      cases hmember : found.find? key with
      | none =>
          rw [hmissing found rfl hmember]
          simp only [hmember]
          exact refines_return hservice (.ok (-1))
      | some member =>
          simp only [hmember]
          cases hget : get member with
          | error fault =>
              rw [hfault found member fault rfl hmember hget]
              exact refines_return hservice (.error fault)
          | ok value => exact hvalue found member value rfl hmember hget

/-- A loop that subscribes, and how the handler ends after it. -/
theorem shows_answered {done : Except Fault Bool × Binding} {response : Option Json} {P : Prop}
    [Decidable P] (h : done.1 = .ok (decide P)) :
    Shows (answered response done) (Service.acceptedIf P) := by
  rcases done with ⟨answer, b'⟩
  obtain rfl : answer = .ok (decide P) := h
  unfold Service.acceptedIf
  split
  · rename_i hP
    rw [decide_eq_true hP]
    exact ⟨⟨response, rfl⟩, rfl⟩
  · rename_i hP
    rw [decide_eq_false hP]
    exact ⟨rfl, rfl⟩

/-! ## State events -/

theorem onStateEvent_refines (h : MoveWf env b) {eventName : String}
    (hname : eventName ∈ VSHL_EVENTS) (eventJ : Option Json) :
    Refines env b (onStateEvent env eventName b eventJ) (stateEventCommand eventJ) := by
  refine Refines.field rfl (fun hnull => absurd hnull (by simp)) ?_ ?_ ?_
  · intro found hfound hmissing
    obtain rfl := Option.some.inj hfound
    simp only [onStateEvent, hmissing]
  · intro found member fault hfound hmember hget
    obtain rfl := Option.some.inj hfound
    simp only [onStateEvent, hmember, hget]
  intro found member voiceAgentId hfound hmember hget
  obtain rfl := Option.some.inj hfound
  simp only [onStateEvent, hmember, hget]
  refine ⟨?_, ?_⟩
  · split
    · rfl
    · rfl
  · intro hhealthy
    have hno := hhealthy.noNulls.not_nullEvent eventName voiceAgentId
    rw [← handleIncomingEvent_fault_iff env h.binding.registry hname voiceAgentId
      (env.jsonText (eventJ.getD .null))] at hno
    split
    · rename_i fault hfault
      exact absurd ⟨fault, hfault⟩ hno
    · exact ⟨rfl, rfl⟩

/-! ## Voice agents -/

theorem loadDefault_refines {loaded : Binding} (hloaded : BindingWf loaded)
    (config : Json) (described : List (Option VoiceAgent.Args))
    (hservice : loaded.service = b.service.register described) (notified : List Notification) :
    Refines env b (loadDefault env loaded notified config)
      (loadCommand config (.ok (), described)) := by
  unfold loadDefault loadCommand
  cases config.find? VA_JSON_ATTR_DEFAULT with
  | none => exact ⟨hservice, fun _ => ⟨rfl, rfl⟩⟩
  | some defaultJson =>
      simp only
      cases defaultJson.getString with
      | error fault => exact ⟨hservice, fun _ => ⟨rfl, rfl⟩⟩
      | ok voiceAgentId =>
          refine ⟨?_, fun _ => ⟨rfl, rfl⟩⟩
          refine (service_setDefault env hloaded voiceAgentId).trans ?_
          rw [hservice]
          rfl

theorem loadVoiceAgentsConfig_refines (h : MoveWf env b) (argsJ : Option Json) :
    Refines env b (loadVoiceAgentsConfig env b argsJ)
      (Verb.loadVoiceAgentsConfig argsJ).command := by
  simp only [Verb.command]
  refine Refines.field rfl ?_ ?_ ?_ ?_
  · rintro rfl
    rfl
  · rintro config rfl hmissing
    simp only [loadVoiceAgentsConfig, hmissing]
  · intro _ _ fault _ _ hfault
    exact absurd hfault (by simp)
  rintro config agentsJson _ rfl hagents hget
  obtain rfl := Except.ok.inj hget
  simp only [loadVoiceAgentsConfig, hagents, Option.getD_some]
  obtain ⟨hresult, hmerged, hwf⟩ := loadAgents_reads env h.afbApi h.binding agentsJson.iterate
  have hservice := service_of_merged hmerged (loadAgents_service env b agentsJson.iterate)
  generalize hread : readEntries agentsJson.iterate = read at hresult hservice ⊢
  rcases hload : loadAgents env b agentsJson.iterate with ⟨fault | done, loaded, notified⟩
  · rw [hload] at hresult hservice
    rcases read with ⟨result, described⟩
    obtain rfl : .error fault = result := hresult
    exact ⟨hservice, fun _ => ⟨rfl, rfl⟩⟩
  · rw [hload] at hresult hservice hwf
    rcases read with ⟨result, described⟩
    obtain rfl : .ok done = result := hresult
    exact loadDefault_refines hwf config described hservice notified

theorem startListening_refines (h : MoveWf env b) :
    Refines env b (startListening env b) .listen := by
  refine ⟨?_, fun _ => ?_⟩
  · rw [startListening_moves]
    exact service_subscribed env b
  · have hdefault : b.service.default = b.sVoiceAgentsDataManager.mDefaultVoiceAgentId := rfl
    simp only [Service.step, hdefault]
    rcases h.binding.agrees with ⟨hunset, hnone⟩ | ⟨p, hfind, hsome⟩
    · rw [if_pos hunset, startListening_of_none env hnone]
      exact ⟨rfl, rfl⟩
    · have hset : b.sVoiceAgentsDataManager.mDefaultVoiceAgentId ≠ "" :=
        h.binding.registry.id_ne _ p hfind
      obtain ⟨hstarted, -, -⟩ := started_of_some h.afbApi hsome
      rw [if_neg hset, startListening_of_ne hstarted]
      exact ⟨⟨_, hstarted, rfl⟩, rfl⟩

/-- The listed agents are those of the service, each once. -/
theorem listed_agents (h : BindingWf b) :
    let manager := b.sVoiceAgentsDataManager
    let listed := manager.getAllVoiceAgents.toList.map manager.agents.object
    (listed.map VoiceAgent.mId).Nodup ∧
      ∀ agent, agent ∈ listed ↔ b.service.agents agent.mId = some agent := by
  intro manager listed
  constructor
  · rw [List.map_map]
    refine List.Nodup.map_on ?_ manager.getAllVoiceAgents.nodup
    intro p hp q hq hsame
    obtain ⟨id, hfind⟩ := VoiceAgentsDataManager.mem_getAllVoiceAgents.mp hp
    obtain ⟨id', hfind'⟩ := VoiceAgentsDataManager.mem_getAllVoiceAgents.mp hq
    have hid : id = id' := by
      rw [← h.registry.id_eq id p hfind, ← h.registry.id_eq id' q hfind']
      exact hsame
    rw [hid, hfind'] at hfind
    exact (Option.some.inj hfind).symm
  · intro agent
    rw [List.mem_map]
    constructor
    · rintro ⟨p, hp, rfl⟩
      obtain ⟨id, hfind⟩ := VoiceAgentsDataManager.mem_getAllVoiceAgents.mp hp
      have hid : (manager.agents.object p).mId = id := h.registry.id_eq id p hfind
      have hfind' : b.sVoiceAgentsDataManager.mVoiceAgents.find id = some p := hfind
      simp only [Binding.service, hid, hfind', Option.map_some]
      rfl
    · intro hagent
      obtain ⟨p, hfind, rfl⟩ := Option.map_eq_some_iff.mp hagent
      exact ⟨p, VoiceAgentsDataManager.mem_getAllVoiceAgents.mpr ⟨_, hfind⟩, rfl⟩

theorem enumerateVoiceAgents_refines (h : MoveWf env b) :
    Refines env b (enumerateVoiceAgents b) .enumerate := by
  obtain ⟨hnodup, hlisted⟩ := listed_agents h.binding
  exact ⟨rfl, fun _ => ⟨⟨_, hnodup, hlisted, rfl⟩, rfl⟩⟩

theorem subscribe_refines (request : RequestPtr) (eventJ : Option Json) :
    Refines env b (subscribe env b request eventJ) (Verb.subscribe request eventJ).command := by
  have hservice := service_subscribed env b
  refine Refines.field hservice ?_ ?_ ?_ ?_
  · rintro rfl
    rfl
  · rintro json rfl hmissing
    simp only [subscribe, hmissing]
    rfl
  · rintro json member fault rfl hmember hget
    simp only [subscribe, hmember, hget]
    rfl
  rintro json idJson voiceAgentId rfl hid hgetId
  refine Refines.field hservice (fun hnull => absurd hnull (by simp)) ?_ ?_ ?_
  · intro json' hjson hmissing
    obtain rfl := Option.some.inj hjson
    simp only [subscribe, hid, hgetId, hmissing]
    rfl
  · intro json' member fault hjson hmember hget
    obtain rfl := Option.some.inj hjson
    simp only [subscribe, hid, hgetId, hmember, hget]
    rfl
  intro json' eventsJson events hjson hevents hget
  obtain rfl := Option.some.inj hjson
  have heq : subscribe env b request (some json) = answered subscribeReply
      (subscribeToEvents env request voiceAgentId (subscribed env b) events) := by
    simp only [subscribe, hid, hgetId, hevents, hget]
    rfl
  rw [heq]
  refine ⟨?_, fun hhealthy => ?_⟩
  · rw [answered_binding]
    obtain ⟨calls, hcalls⟩ :=
      subscribeToEvents_binding env request voiceAgentId (subscribed env b) events
    rw [hcalls]
    exact hservice
  · have hsubscribed : Healthy env (subscribed env b) :=
      hhealthy.move (m := .dataManager .startNewSubscriptionProcess) trivial
    have hanswer : (subscribeToEvents env request voiceAgentId (subscribed env b) events).1 = _ :=
      subscribeToEvents_answer hsubscribed.moves.binding hsubscribed.noNulls request voiceAgentId
        events
    rw [hservice] at hanswer
    exact shows_answered hanswer

theorem setDefaultVoiceAgent_refines (h : MoveWf env b) (eventJ : Option Json) :
    Refines env b (setDefaultVoiceAgent env b eventJ)
      (Verb.setDefaultVoiceAgent eventJ).command := by
  refine Refines.field rfl ?_ ?_ ?_ ?_
  · rintro rfl
    rfl
  · rintro json rfl hmissing
    simp only [setDefaultVoiceAgent, hmissing]
  · rintro json member fault rfl hmember hget
    simp only [setDefaultVoiceAgent, hmember, hget]
  rintro json idJson voiceAgentId rfl hid hget
  have hservice := service_setDefault env h.binding voiceAgentId
  have hresult := setDefault_result env h.binding voiceAgentId
  simp only [setDefaultVoiceAgent, hid, hget, hresult]
  cases hregistered : (b.service.agents voiceAgentId).isSome with
  | true =>
      refine ⟨hservice, fun _ => ?_⟩
      simp only [Service.step, Service.acceptedIf, hregistered, if_true]
      exact ⟨⟨none, rfl⟩, rfl⟩
  | false =>
      refine ⟨hservice, fun _ => ?_⟩
      simp only [Service.step, Service.acceptedIf, hregistered, Bool.false_eq_true, if_false]
      exact ⟨rfl, rfl⟩

/-! ## Capabilities -/

theorem capabilitySubscribe_refines (h : MoveWf env b) (capability : CapabilityPtr)
    (info : String) (request : RequestPtr) (eventJ : Option Json) :
    Refines env b (capabilitySubscribe env capability info b request eventJ)
      (capabilitySubscribeCommand capability eventJ) := by
  refine Refines.field rfl ?_ ?_ ?_ ?_
  · rintro rfl
    rfl
  · rintro json rfl hmissing
    simp only [capabilitySubscribe, hmissing]
  · rintro json member fault rfl hmember hget
    simp only [capabilitySubscribe, hmember, hget]
  rintro json actionsJson actions rfl hactions hget
  have heq : capabilitySubscribe env capability info b request (some json) =
      answered (some (.str info)) (subscribeToActions env capability request b actions) := by
    simp only [capabilitySubscribe, hactions, hget]
    rfl
  rw [heq]
  refine ⟨?_, fun hhealthy => ?_⟩
  · rw [answered_binding]
    exact service_subscribeToActions h request capability actions
  · exact shows_answered (subscribeToActions_answer hhealthy request capability actions)

theorem capabilityPublish_refines (capability : CapabilityPtr) (info : String)
    (eventJ : Option Json) :
    Refines env b (capabilityPublish env capability info b eventJ)
      (capabilityPublishCommand capability eventJ) := by
  refine Refines.field rfl ?_ ?_ ?_ ?_
  · rintro rfl
    rfl
  · rintro json rfl hmissing
    simp only [capabilityPublish, hmissing]
  · rintro json member fault rfl hmember hget
    simp only [capabilityPublish, hmember, hget]
  rintro json actionJson action rfl haction hgetAction
  refine Refines.field rfl (fun hnull => absurd hnull (by simp)) ?_ ?_ ?_
  · intro json' hjson hmissing
    obtain rfl := Option.some.inj hjson
    simp only [capabilityPublish, haction, hgetAction, hmissing]
  · intro json' member fault hjson hmember hget
    obtain rfl := Option.some.inj hjson
    simp only [capabilityPublish, haction, hgetAction, hmember, hget]
  intro json' payloadJson payload hjson hpayload hget
  obtain rfl := Option.some.inj hjson
  simp only [capabilityPublish, haction, hgetAction, hpayload, hget]
  refine ⟨?_, fun hhealthy => ?_⟩
  · split
    · rfl
    · rfl
  · simp only [publish_answer hhealthy capability action payload, decide_eq_true_eq, Service.step,
      Service.acceptedIf]
    split
    · exact ⟨⟨_, rfl⟩, rfl⟩
    · exact ⟨rfl, rfl⟩

/-! ## All handlers -/

theorem handle_refines (h : MoveWf env b) (verb : Verb) :
    Refines env b (handle env b verb) verb.command := by
  cases verb with
  | onAuthStateEvent eventJ => exact onStateEvent_refines h (by simp [VSHL_EVENTS]) eventJ
  | onConnectionStateEvent eventJ => exact onStateEvent_refines h (by simp [VSHL_EVENTS]) eventJ
  | onDialogStateEvent eventJ => exact onStateEvent_refines h (by simp [VSHL_EVENTS]) eventJ
  | loadVoiceAgentsConfig argsJ => exact loadVoiceAgentsConfig_refines h argsJ
  | startListening => exact startListening_refines h
  | cancelListening => exact refines_return rfl (.ok 0)
  | enumerateVoiceAgents => exact enumerateVoiceAgents_refines h
  | subscribe request eventJ => exact subscribe_refines request eventJ
  | setDefaultVoiceAgent eventJ => exact setDefaultVoiceAgent_refines h eventJ
  | guiMetadataSubscribe request eventJ => exact capabilitySubscribe_refines h _ _ request eventJ
  | guiMetadataPublish eventJ => exact capabilityPublish_refines _ _ eventJ
  | phonecontrolSubscribe request eventJ => exact capabilitySubscribe_refines h _ _ request eventJ
  | phonecontrolPublish eventJ => exact capabilityPublish_refines _ _ eventJ
  | navigationSubscribe request eventJ => exact capabilitySubscribe_refines h _ _ request eventJ
  | navigationPublish eventJ => exact capabilityPublish_refines _ _ eventJ
  | rehash voiceAgents observers =>
      exact refines_return (service_rehash env b voiceAgents observers) (.ok 0)

end

/-! ## Whole runs -/

/-- After any requests the binding remembers what the service remembers, and if no event is
ever missing every client has been told what the service answers. -/
theorem service_refined {env : Environment} {loaded : Binding}
    (hloaded : CTLP_ONLOAD env = some loaded) (verbs : List Verb) :
    ((machine env).run loaded verbs).service =
        Service.machine.run .initial (verbs.map Verb.command) ∧
      (Dependable env → List.Forall₂ Shows ((machine env).outputs loaded verbs)
        (Service.machine.outputs .initial (verbs.map Verb.command))) := by
  rw [← service_loaded hloaded]
  have hmoves : MoveWf env loaded := Reachable.moveWf ⟨loaded, [], hloaded, rfl⟩
  have hkeeps : ∀ b verb, MoveWf env b → MoveWf env ((machine env).next b verb) :=
    fun b verb hb => (handle_performs env b verb).invariant hb fun _ _ hm h => h.move hm.isExposed
  have hstep : ∀ b verb, MoveWf env b → ((machine env).next b verb).service =
      Service.machine.next b.service verb.command :=
    fun b verb hb => (handle_refines hb verb).service
  refine ⟨(machine env).run_refines Service.machine Binding.service Verb.command hkeeps hstep
    hmoves verbs, fun hdependable => ?_⟩
  refine (machine env).outputs_refine Service.machine (I := Healthy env) Binding.service
    Verb.command (fun _ verb hb => hb.handle verb) (fun b verb hb => hstep b verb hb.moves) ?_
    (healthy_loaded hdependable hloaded) verbs
  exact fun b verb hb => (handle_refines hb.moves verb).shows hb

theorem obliging_dependable : Dependable .obliging := ⟨fun _ _ => rfl, fun _ _ _ => rfl⟩

/-- A client finds an agent, starts it and opens a capability. -/
def session : List Verb :=
  [.loadVoiceAgentsConfig (some (encodeAgents [.simple "VA-001" "alexa-api"] "VA-001")),
    .enumerateVoiceAgents, .startListening,
    .navigationSubscribe 7 (some (.obj [(CAPABILITIES_JSON_ATTR_ACTIONS,
      .arr [.str navigation.NAVIGATION_CANCEL])]))]

theorem service_refined_session :
    ((machine .obliging).run ((CTLP_ONLOAD .obliging).get rfl) session).service =
        Service.machine.run .initial (session.map Verb.command) ∧
      List.Forall₂ Shows ((machine .obliging).outputs ((CTLP_ONLOAD .obliging).get rfl) session)
        (Service.machine.outputs .initial (session.map Verb.command)) :=
  ⟨(service_refined rfl session).1, (service_refined rfl session).2 obliging_dependable⟩

end Vshl.Api
