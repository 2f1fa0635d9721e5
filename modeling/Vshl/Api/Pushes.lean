/-
  Api/Pushes.lean --- what is pushed over a run.

  A message reaches the clients by one push on an event.  Which event that is is decided by
  a name: the action of a capability's message, or the state event's name with the agent's
  id.  Over a run the pushes are the accepted messages, in the order of their acceptance.
  What is pushed of a message is the C string of its text, so a text with a NUL is cut.
-/
import Vshl.Api.Launches
import Vshl.Api.NativeDelivery

set_option autoImplicit false

namespace Vshl.Api

open Vshl.Foundation
open Vshl.Interfaces
open Vshl.VoiceAgents
open Vshl.Core
open Vshl.Capabilities
open Vshl.Afb

/-! ## Pushes with the names of their events -/

/-- The name for which an event was created. -/
def createdName (calls : Trace) (event : EventPtr) : Option String :=
  match calls[event]? with
  | some (.createEvent eventName _) => some eventName
  | _ => none

/-- The pushes of a trace, in order, each with the name of its event and its payload. -/
def namedPushes (calls : Trace) : List (Option String × Json) :=
  (pushes calls).map fun pushed => (createdName calls pushed.1, pushed.2)

/-- The name and the text of a message. -/
abbrev Message := String × String

/-- The message that an accepted publication carries. -/
def publishedBy (env : Environment) (b : Binding) (verb : Verb) : List Message :=
  match verb.publication with
  | some (_, some json) =>
      match json.find? CAPABILITIES_JSON_ATTR_ACTION, json.find? CAPABILITIES_JSON_ATTR_PAYLOAD with
      | some (.str action), some (.str payload) =>
          if (handle env b verb).ret = .ok 0 then [(action, payload)] else []
      | _, _ => []
  | _ => []

/-- The message that a state event of a registered agent is, if its handler returns. -/
def notifiedBy (env : Environment) (b : Binding) (verb : Verb) : List Message :=
  match verb.stateEvent with
  | some (eventName, some json) =>
      match json.find? EVENTS_JSON_ATTR_VA_ID with
      | some (.str voiceAgentId) =>
          if voiceAgentId ∈ b.sVoiceAgentsDataManager.mVoiceAgents ∧
              (handle env b verb).ret = .ok 0 then
            [(createEventNameWithVAId eventName voiceAgentId, env.jsonText json)]
          else []
      | _ => []
  | _ => []

/-- The messages that are accepted with a request. -/
def pushedBy (env : Environment) (b : Binding) (verb : Verb) : List Message :=
  publishedBy env b verb ++ notifiedBy env b verb

/-- These messages were pushed, each as the C string of its text, and nothing else was. -/
def Pushed (calls : Trace) (messages : List Message) : Prop :=
  namedPushes calls = messages.map fun message => (some message.1, jsonObjectNewString message.2)

/-- These messages were pushed with their whole texts, and nothing else was. -/
def PushedWhole (calls : Trace) (messages : List Message) : Prop :=
  namedPushes calls = messages.map fun message => (some message.1, .str message.2)

/-- No text is cut exactly if none has a NUL. -/
theorem Pushed.whole_iff {calls : Trace} {messages : List Message} (h : Pushed calls messages) :
    PushedWhole calls messages ↔ ∀ message ∈ messages, '\x00' ∉ message.2.toList := by
  unfold PushedWhole
  rw [h, List.map_inj_left]
  simp only [Prod.mk.injEq, true_and, jsonObjectNewString_eq_iff]

theorem pushes_append (calls added : Trace) :
    pushes (calls ++ added) = pushes calls ++ pushes added :=
  List.filterMap_append

theorem createdName_of_some {calls : Trace} {event : EventPtr} {eventName : String}
    {nonNull : Bool} (h : calls[event]? = some (.createEvent eventName nonNull)) :
    createdName calls event = some eventName := by
  simp only [createdName, h]

/-- An event keeps its name. -/
theorem createdName_append {calls : Trace} {event : EventPtr} {eventName : String}
    (h : createdName calls event = some eventName) (added : Trace) :
    createdName (calls ++ added) event = some eventName := by
  unfold createdName at h
  split at h
  · rename_i found hget
    obtain rfl := Option.some.inj h
    exact createdName_of_some (getElem?_of_extends (List.prefix_append calls added) hget)
  · exact absurd h (by simp)

/-- What was pushed stays, and what is pushed on events that were created comes after it. -/
theorem Pushed.append {calls added : Trace} {messages new : List Message}
    (h : Pushed calls messages)
    (hadded : (pushes added).map (fun pushed => (createdName (calls ++ added) pushed.1, pushed.2)) =
      new.map fun message => (some message.1, jsonObjectNewString message.2)) :
    Pushed (calls ++ added) (messages ++ new) := by
  have hbefore : (pushes calls).map (fun pushed =>
        (createdName (calls ++ added) pushed.1, pushed.2)) = namedPushes calls := by
    refine List.map_congr_left ?_
    intro pushed hpushed
    have hmem : (createdName calls pushed.1, pushed.2) ∈ namedPushes calls :=
      List.mem_map.mpr ⟨pushed, hpushed, rfl⟩
    rw [h] at hmem
    obtain ⟨message, -, hmessage⟩ := List.mem_map.mp hmem
    have hname : createdName calls pushed.1 = some message.1 := (congrArg Prod.fst hmessage).symm
    rw [hname, createdName_append hname added]
  unfold Pushed namedPushes
  rw [pushes_append, List.map_append, List.map_append, hbefore, hadded, h]

/-- Calls without a push. -/
theorem Pushed.quiet {calls added : Trace} {messages : List Message} (h : Pushed calls messages)
    (hadded : pushes added = []) : Pushed (calls ++ added) messages := by
  rw [← List.append_nil messages]
  refine h.append ?_
  rw [hadded]
  rfl

/-- One push, on an event that was created. -/
theorem Pushed.one {calls quiet : Trace} {messages : List Message} (h : Pushed calls messages)
    {event : EventPtr} {eventName payload : String} {nonNull : Bool} {observers : Int}
    (hevent : calls[event]? = some (.createEvent eventName nonNull))
    (hquiet : pushes quiet = []) :
    Pushed (calls ++ ([.publishEvent event (jsonObjectNewString payload) observers] ++ quiet))
      (messages ++ [(eventName, payload)]) := by
  refine h.append ?_
  have hname := createdName_append (createdName_of_some hevent)
    ([.publishEvent event (jsonObjectNewString payload) observers] ++ quiet)
  rw [pushes_append, hquiet]
  simp only [pushes, push, List.filterMap_cons, List.filterMap_nil, List.append_nil, List.map_cons,
    List.map_nil, hname]

/-! ## What a request pushes -/

/-- Only a push pushes. -/
theorem pushes_spell {position : Nat} {emission : Emission} (h : emission.kind ≠ .push) :
    pushes (emission.spell position) = [] := by
  cases emission with
  | ask api verb request result =>
      simp only [Emission.spell]
      cases result.object with
      | false => rfl
      | true => rfl
  | publish event payload observers => exact absurd rfl h
  | keep _ _ _ | create _ _ | subscribe _ _ _ | tell _ _ => rfl

theorem pushes_of_kinds {env : Environment} {manager : VoiceAgentsDataManager}
    {kinds : List Kind} {May : String → Prop} {calls calls' : Trace}
    (h : Speaks env manager kinds May calls calls')
    (hkinds : Kind.push ∉ kinds) : pushes calls' = pushes calls :=
  speaks_filterMap_eq (fun _ _ _ hkind _ => pushes_spell hkind) h hkinds

theorem pushes_quiet {quiet : Trace} (h : ∀ call ∈ quiet, EventObjects.Quiet call) :
    pushes quiet = [] := by
  unfold pushes
  rw [List.filterMap_eq_nil_iff]
  intro call hcall
  have hquiet := h call hcall
  cases call with
  | publishEvent _ _ _ => exact absurd hquiet id
  | _ => rfl

/-- A move that is neither a publication nor a state event pushes nothing. -/
theorem move_pushes {env : Environment} {b : Binding} {m : Move} (hm : m.IsExposed)
    (h : MoveWf env b) (hknown : RequestsKnown b) (hkinds : Kind.push ∉ m.kinds)
    {messages : List Message} (hpushed : Pushed b.calls messages) :
    Pushed (b.move env m).calls messages := by
  have hspeaks := move_speaks hm h hknown
  obtain ⟨added, hadded⟩ := hspeaks.extends_log
  have hsame := pushes_of_kinds hspeaks hkinds
  rw [← hadded, pushes_append] at hsame
  rw [← hadded]
  exact hpushed.quiet (List.append_right_eq_self.mp hsame)

/-- A message that is not accepted leaves the calls as they are. -/
theorem publish_refused {env : Environment} {b : Binding} (h : Reachable env b)
    (capability : CapabilityPtr) (action payload : String)
    (hrefused : (Messaging.step env CapabilitiesFactory.capabilities b.messaging
      (.publish capability action payload)).2 ≠ .ok true) :
    (Messaging.step env CapabilitiesFactory.capabilities b.messaging
      (.publish capability action payload)).1.calls = b.calls := by
  rcases messaging_publish_cases env h.messagingWf capability action payload with
    ⟨_, _, -, -, hstep⟩ | ⟨-, hstep⟩
  · rw [hstep] at hrefused
    exact absurd rfl hrefused
  · rw [hstep]
    rfl

theorem publication_pushed {env : Environment} {b : Binding} (h : Reachable env b) {verb : Verb}
    {capability : CapabilityPtr} {eventJ : Option Json}
    (hverb : verb.publication = some (capability, eventJ)) {messages : List Message}
    (hpushed : Pushed b.calls messages) :
    Pushed (handle env b verb).binding.calls (messages ++ publishedBy env b verb) := by
  obtain ⟨info, hhandle⟩ := handle_publication env b hverb
  have hnothing : (handle env b verb).ret ≠ .ok 0 → publishedBy env b verb = [] := by
    intro hret
    simp only [publishedBy, hverb, if_neg hret]
    split
    · split
      · rfl
      · rfl
    · rfl
  rcases capabilityPublish_cases env capability info b eventJ with
    ⟨json, action, payload, rfl, hcarries⟩ | ⟨hsame, hret⟩
  · by_cases hret : (handle env b verb).ret = .ok 0
    · obtain ⟨event, observers, quiet, hevent, hcalls, hquiet⟩ :=
        AcceptsMessage.pushed h (b := b) ⟨⟨json, hverb, hcarries⟩, hret⟩
      have hpublished : publishedBy env b verb = [(action, payload)] := by
        simp only [publishedBy, hverb, hcarries.action, hcarries.payload, if_pos hret]
      rw [hcalls, hpublished, List.append_assoc]
      exact hpushed.one hevent (pushes_quiet hquiet)
    · rw [hnothing hret, List.append_nil]
      have hmove := capabilityPublish_of_carries env capability info b hcarries
      rw [hhandle, hmove] at hret ⊢
      simp only at hret ⊢
      split at hret
      · exact absurd rfl hret
      · rename_i hrefused
        rw [if_neg hrefused]
        simp only [Binding.return, publish_refused h capability action payload hrefused]
        exact hpushed
  · rw [← hhandle] at hsame hret
    rw [hnothing hret, List.append_nil, hsame]
    exact hpushed

/-- A state event is pushed on the event of its name and its agent, if there is one. -/
theorem onStateEvent_pushed {env : Environment} {b : Binding} (h : Reachable env b)
    {eventName voiceAgentId : String} (hname : eventName ∈ VSHL_EVENTS) {json : Json}
    (hid : json.find? EVENTS_JSON_ATTR_VA_ID = some (.str voiceAgentId))
    {messages : List Message} (hpushed : Pushed b.calls messages) :
    Pushed (onStateEvent env eventName b (some json)).binding.calls
      (messages ++ if voiceAgentId ∈ b.sVoiceAgentsDataManager.mVoiceAgents ∧
          (onStateEvent env eventName b (some json)).ret = .ok 0 then
        [(createEventNameWithVAId eventName voiceAgentId, env.jsonText json)]
      else []) := by
  have hregistry : RegistryWf b.state := h.wf.registry
  have hregistered : createEventNameWithVAId eventName voiceAgentId ∈
        b.sVoiceAgentsDataManager.mVoiceAgentEventsHandler.mEventsMap ↔
      voiceAgentId ∈ b.sVoiceAgentsDataManager.mVoiceAgents := by
    refine (hregistry.owns _).trans ⟨?_, ?_⟩
    · intro howner
      obtain ⟨id, hmem, hof⟩ := howner
      obtain rfl := (isEventOf_name_iff hname).mp hof
      exact hmem
    · intro hmem
      exact ⟨voiceAgentId, hmem, eventName, hname, rfl⟩
  have hresult : (b.dataManager env
        (.handleIncomingEvent eventName voiceAgentId (env.jsonText json))).2.result =
      .ofExcept (b.sVoiceAgentsDataManager.mVoiceAgentEventsHandler.onIncomingEvent env b.calls
        eventName voiceAgentId (env.jsonText json)).1 := by
    rw [← routeToDataManager_eq]
    rfl
  have hcalls : (b.dataManager env
        (.handleIncomingEvent eventName voiceAgentId (env.jsonText json))).1.calls =
      (b.sVoiceAgentsDataManager.mVoiceAgentEventsHandler.onIncomingEvent env b.calls
        eventName voiceAgentId (env.jsonText json)).2 := by
    rw [← routeToDataManager_eq]
    rfl
  simp only [onStateEvent, Option.getD_some, hid, Json.getString, hresult]
  unfold VoiceAgentEventsHandler.onIncomingEvent at hcalls ⊢
  cases hfind : b.sVoiceAgentsDataManager.mVoiceAgentEventsHandler.mEventsMap.find
      (createEventNameWithVAId eventName voiceAgentId) with
  | none =>
      have habsent := mt hregistered.mpr (UnorderedMap.find_eq_none.mp hfind)
      rw [hfind] at hcalls
      rw [if_neg (fun hboth => habsent hboth.1), List.append_nil]
      simp only [Result.ofExcept, Binding.return, hcalls]
      exact hpushed
  | some stored =>
      have hthere := hregistered.mp (UnorderedMap.mem_iff_find.mpr ⟨_, hfind⟩)
      rw [hfind] at hcalls
      cases stored with
      | none =>
          simp only [Result.ofExcept, Binding.return, hcalls, reduceCtorEq, and_false, if_false,
            List.append_nil]
          exact hpushed
      | some event =>
          simp only [Result.ofExcept, Binding.return, hcalls, hthere, true_and, if_true]
          have hevent : b.calls[event]? =
              some (.createEvent (createEventNameWithVAId eventName voiceAgentId) true) :=
            hregistry.backed _ _ hfind
          exact hpushed.one hevent rfl

theorem stateEvent_notified {env : Environment} {b : Binding} (h : Reachable env b) {verb : Verb}
    {eventName : String} {eventJ : Option Json}
    (hverb : verb.stateEvent = some (eventName, eventJ)) {messages : List Message}
    (hpushed : Pushed b.calls messages) :
    Pushed (handle env b verb).binding.calls (messages ++ notifiedBy env b verb) := by
  obtain ⟨hname, hhandle⟩ := handle_stateEvent env b hverb
  -- a request without an agent's id is left alone
  have hunnamed : (∀ json, eventJ = some json → ∀ voiceAgentId,
        json.find? EVENTS_JSON_ATTR_VA_ID ≠ some (.str voiceAgentId)) →
      Pushed (handle env b verb).binding.calls (messages ++ notifiedBy env b verb) := by
    intro hno
    have hnothing : notifiedBy env b verb = [] := by
      simp only [notifiedBy, hverb]
      split
      · rename_i json heq
        split
        · rename_i voiceAgentId hfound
          obtain ⟨-, rfl⟩ := Prod.mk.inj (Option.some.inj heq)
          exact absurd hfound (hno json rfl voiceAgentId)
        · rfl
      · rfl
    have hbinding : (onStateEvent env eventName b eventJ).binding = b := by
      simp only [onStateEvent]
      split
      · rfl
      · rename_i idJson hfound
        split
        · rfl
        · rename_i voiceAgentId hstring
          obtain rfl := Json.getString_eq_ok_iff.mp hstring
          cases eventJ with
          | none => exact absurd hfound (by simp [Json.find?])
          | some json => exact absurd hfound (hno json rfl voiceAgentId)
    rw [hhandle, hbinding, hnothing, List.append_nil]
    exact hpushed
  cases eventJ with
  | none => exact hunnamed (fun json hjson => absurd hjson (by simp))
  | some json =>
      by_cases hid : ∃ voiceAgentId, json.find? EVENTS_JSON_ATTR_VA_ID = some (.str voiceAgentId)
      · obtain ⟨voiceAgentId, hid⟩ := hid
        have hnotified := onStateEvent_pushed h hname hid hpushed
        rw [← hhandle] at hnotified
        simp only [notifiedBy, hverb, hid]
        exact hnotified
      · apply hunnamed
        intro json' hjson voiceAgentId hfound
        obtain rfl := Option.some.inj hjson
        exact hid ⟨voiceAgentId, hfound⟩

/-! ## Every run -/

/-- The moves of the other handlers push nothing. -/
theorem Verb.Permits.not_push {verb : Verb} {m : Move} (h : verb.Permits m)
    (hpublication : verb.publication = none) (hstateEvent : verb.stateEvent = none) :
    Kind.push ∉ m.kinds := by
  cases verb with
  | onAuthStateEvent | onConnectionStateEvent | onDialogStateEvent =>
      exact absurd hstateEvent (by simp [Verb.stateEvent])
  | guiMetadataPublish | phonecontrolPublish | navigationPublish =>
      exact absurd hpublication (by simp [Verb.publication])
  | loadVoiceAgentsConfig =>
      obtain ⟨args, rfl⟩ | ⟨voiceAgentId, rfl⟩ := h
      · simp [Move.kinds]
      · simp [Move.kinds]
  | startListening =>
      obtain rfl | rfl := h
      · simp [Move.kinds]
      · simp [Move.kinds]
  | cancelListening | enumerateVoiceAgents => exact absurd h id
  | subscribe =>
      obtain rfl | ⟨eventName, voiceAgentId, rfl⟩ := h
      · simp [Move.kinds]
      · simp [Move.kinds]
  | setDefaultVoiceAgent =>
      obtain ⟨voiceAgentId, rfl⟩ := h
      simp [Move.kinds]
  | guiMetadataSubscribe | phonecontrolSubscribe | navigationSubscribe =>
      obtain ⟨action, rfl⟩ := h
      simp [Move.kinds]
  | rehash voiceAgents observers =>
      obtain rfl := h
      simp [Move.kinds]

theorem handle_pushed {env : Environment} {b : Binding} (h : Reachable env b)
    {messages : List Message} (hpushed : Pushed b.calls messages) (verb : Verb) :
    Pushed (handle env b verb).binding.calls (messages ++ pushedBy env b verb) := by
  unfold pushedBy
  cases hpublication : verb.publication with
  | some publication =>
      obtain ⟨capability, eventJ⟩ := publication
      have hnotified : notifiedBy env b verb = [] := by
        cases verb with
        | guiMetadataPublish | phonecontrolPublish | navigationPublish => rfl
        | _ => exact absurd hpublication (by simp [Verb.publication])
      rw [hnotified, List.append_nil]
      exact publication_pushed h hpublication hpushed
  | none =>
      have hpublished : publishedBy env b verb = [] := by simp only [publishedBy, hpublication]
      rw [hpublished, List.nil_append]
      cases hstateEvent : verb.stateEvent with
      | some stateEvent =>
          obtain ⟨eventName, eventJ⟩ := stateEvent
          exact stateEvent_notified h hstateEvent hpushed
      | none =>
          have hnotified : notifiedBy env b verb = [] := by simp only [notifiedBy, hstateEvent]
          rw [hnotified, List.append_nil]
          have hall := (handle_performs env b verb).invariant
            (I := fun b => MoveWf env b ∧ RequestsKnown b ∧ Pushed b.calls messages)
            ⟨h.moveWf, h.speaks.1, hpushed⟩ ?_
          · exact hall.2.2
          · rintro b m hm ⟨hwf, hknown, hb⟩
            have hexposed := hm.isExposed
            exact ⟨hwf.move hexposed, move_requestsKnown hexposed hwf hknown,
              move_pushes hexposed hwf hknown (hm.not_push hpublication hstateEvent) hb⟩

theorem run_pushed {env : Environment} {loaded : Binding} (h : CTLP_ONLOAD env = some loaded)
    (verbs : List Verb) :
    Pushed ((machine env).run loaded verbs).calls
      ((machine env).collect (pushedBy env) loaded verbs) := by
  have hloaded : Pushed loaded.calls [] := by
    obtain ⟨-, rfl⟩ := CTLP_ONLOAD_eq_some_iff.mp h
    rfl
  refine ((machine env).collect_simulation
    (R := fun b messages => Reachable env b ∧ Pushed b.calls messages) ?_
    ⟨⟨loaded, [], h, rfl⟩, hloaded⟩ verbs).2
  rintro b messages verb ⟨hb, hpushed⟩
  exact ⟨hb.handle verb, handle_pushed hb hpushed verb⟩

/-- Over a run, every accepted message is pushed once, on the event of its name, in the order in
which the messages were accepted, and nothing else is pushed.  The texts of all of them are whole
exactly if none has a NUL. -/
theorem pushes_in_order {env : Environment} {loaded : Binding}
    (h : CTLP_ONLOAD env = some loaded) (verbs : List Verb) :
    let messages := (machine env).collect (pushedBy env) loaded verbs
    Pushed ((machine env).run loaded verbs).calls messages ∧
      (PushedWhole ((machine env).run loaded verbs).calls messages ↔
        ∀ message ∈ messages, '\x00' ∉ message.2.toList) :=
  ⟨run_pushed h verbs, (run_pushed h verbs).whole_iff⟩

/-- Two messages are accepted here: the first call is made before there is a channel, and the
last state event is of an agent that is not registered. -/
theorem pushes_in_order_call :
    let loaded := (CTLP_ONLOAD .obliging).get onload_obliging
    let dial := Verb.phonecontrolPublish (some (dialMessage "5551234"))
    let config := encodeAgents [.simple "VA-001" "alexa-api"] "VA-001"
    let stranger := Json.obj [(EVENTS_JSON_ATTR_VA_ID, .str "VA-002")]
    let verbs := [dial, .loadVoiceAgentsConfig (some config),
      .phonecontrolSubscribe 7 (some dialRequest), connected, dial,
      .onAuthStateEvent (some stranger)]
    PushedWhole ((machine .obliging).run loaded verbs).calls
      [(createEventNameWithVAId VSHL_EVENT_AUTH_STATE_EVENT "VA-001",
          Environment.obliging.jsonText connectedEvent),
        (phonecontrol.PHONECONTROL_DIAL, "5551234")] := by
  intro loaded dial config stranger verbs
  have hmessages : (machine .obliging).collect (pushedBy .obliging) loaded verbs =
      [(createEventNameWithVAId VSHL_EVENT_AUTH_STATE_EVENT "VA-001",
          Environment.obliging.jsonText connectedEvent),
        (phonecontrol.PHONECONTROL_DIAL, "5551234")] := by decide
  obtain ⟨-, hwhole⟩ := pushes_in_order (Option.some_get onload_obliging).symm verbs
  rw [hmessages] at hwhole
  exact hwhole.mpr (by decide)

end Vshl.Api
