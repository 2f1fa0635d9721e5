/-
  Api/AgentSubscriptions.lean --- what clients subscribe to at the agents over a run.

  A client's subscription to an agent's event is two calls: the event is asked to subscribe
  the client, and the agent is told.  No other handler subscribes anybody to an agent's
  event or tells an agent of a subscription.
-/
import Vshl.Api.Pushes

set_option autoImplicit false

namespace Vshl.Api

open Vshl.Foundation
open Vshl.Interfaces
open Vshl.VoiceAgents
open Vshl.Core
open Vshl.Capabilities
open Vshl.Afb

/-! ## Notices -/

/-- One of the two calls of a subscription at an agent. -/
inductive Notice where
  /-- the event of this name is asked to subscribe a client -/
  | passed (eventName : String) (request : RequestPtr)
  /-- this API is told -/
  | told (api : String)
  deriving DecidableEq

/-- Is this the name of an agent's event?  No action of a capability has the separator. -/
def isAgentEvent (eventName : String) : Bool := '#' ∈ eventName.toList

/-- What a call of this trace is to the agents. -/
def notice (calls : Trace) : Call → Option Notice
  | .subscribe event request _ =>
      ((createdName calls event).filter isAgentEvent).map (.passed · request)
  | .callSync api verb none _ => if verb = "subscribe" then some (.told api) else none
  | _ => none

/-- Every event that a client is passed to has a name. -/
def SubscribesNamed (calls : Trace) : Prop :=
  ∀ event request result, Call.subscribe event request result ∈ calls →
    ∃ eventName, createdName calls event = some eventName

/-- These notices were given, and no others. -/
structure Noticed (calls : Trace) (notices : List Notice) : Prop where
  named : SubscribesNamed calls
  notices : calls.filterMap (notice calls) = notices

/-- What was noticed stays, and new calls are read with all events that there are then. -/
theorem Noticed.append {calls added : Trace} {notices new : List Notice}
    (h : Noticed calls notices)
    (hnamed : ∀ event request result, Call.subscribe event request result ∈ added →
      ∃ eventName, createdName (calls ++ added) event = some eventName)
    (hnew : added.filterMap (notice (calls ++ added)) = new) :
    Noticed (calls ++ added) (notices ++ new) := by
  refine ⟨?_, ?_⟩
  · intro event request result hmem
    rcases List.mem_append.mp hmem with hbefore | hadded
    · obtain ⟨eventName, hname⟩ := h.named event request result hbefore
      exact ⟨eventName, createdName_append hname added⟩
    · exact hnamed event request result hadded
  · have hbefore : calls.filterMap (notice (calls ++ added)) = calls.filterMap (notice calls) := by
      refine List.filterMap_congr ?_
      intro call hcall
      cases call with
      | subscribe event request result =>
          obtain ⟨eventName, hname⟩ := h.named event request result hcall
          simp only [notice, hname, createdName_append hname added]
      | callSync api verb argument result =>
          cases argument with
          | none => rfl
          | some _ => rfl
      | _ => rfl
    rw [List.filterMap_append, hbefore, h.notices, hnew]

/-- A call that subscribes nobody and tells no agent. -/
def Unnoticed : Call → Prop
  | .subscribe _ _ _ => False
  | .callSync _ verb request _ => request = none → verb ≠ "subscribe"
  | _ => True

theorem Noticed.unnoticed {calls added : Trace} {notices : List Notice}
    (h : Noticed calls notices) (hadded : ∀ call ∈ added, Unnoticed call) :
    Noticed (calls ++ added) notices := by
  rw [← List.append_nil notices]
  refine h.append ?_ ?_
  · intro event request result hmem
    exact absurd (hadded _ hmem) id
  · rw [List.filterMap_eq_nil_iff]
    intro call hcall
    have hunnoticed := hadded call hcall
    cases call with
    | subscribe event request result => exact absurd hunnoticed id
    | callSync api verb argument result =>
        cases argument with
        | none => exact if_neg (hunnoticed rfl)
        | some _ => rfl
    | _ => rfl

/-! ## Who gives notice -/

/-- Of the emissions, only a question or a subscription can be a notice. -/
theorem unnoticed_of_speaks {env : Environment} {manager : VoiceAgentsDataManager}
    {kinds : List Kind} {May : String → Prop} {calls calls' : Trace}
    (h : Speaks env manager kinds May calls calls') (hquestion : Kind.question ∉ kinds)
    (hsubscription : Kind.subscription ∉ kinds) {notices : List Notice}
    (hnoticed : Noticed calls notices) : Noticed calls' notices := by
  induction h with
  | refl => exact hnoticed
  | @write log _ emission hlawful ih =>
      refine ih.unnoticed ?_
      intro call hcall
      cases emission with
      | ask api verb request result =>
          cases request with
          | none => exact absurd hlawful.kind hquestion
          | some argument =>
              rcases List.mem_cons.mp hcall with rfl | hfree
              · exact fun hnone => absurd hnone (by simp)
              · split at hfree
                · obtain rfl := List.mem_singleton.mp hfree
                  trivial
                · exact absurd hfree List.not_mem_nil
      | keep api verb result =>
          obtain rfl := List.mem_singleton.mp hcall
          have hkept : ∀ verb ∈ keptVerbs, verb ≠ "subscribe" := by decide
          exact fun _ => hkept verb hlawful.grounded.2
      | subscribe _ _ _ => exact absurd hlawful.kind hsubscription
      | create _ _ | publish _ _ _ | tell _ _ =>
          obtain rfl := List.mem_singleton.mp hcall
          trivial

/-- The subscription process tells agents something else. -/
theorem process_unnoticed (env : Environment) (b : Binding) {notices : List Notice}
    (h : Noticed b.calls notices) : Noticed (subscribed env b).calls notices := by
  obtain ⟨flag, added, hsubscribed, honly⟩ := subscribed_only env b
  rw [hsubscribed]
  refine h.unnoticed ?_
  intro call hcall
  have hprocess := honly call hcall
  cases call with
  | callSync api verb argument result =>
      obtain rfl := hprocess
      exact fun _ => by decide
  | free object => trivial
  | _ => exact absurd hprocess id

theorem not_agentEvent_of_action {capability : CapabilityPtr} {action : String}
    (h : action ∈ actionsOf capability) : isAgentEvent action = false :=
  decide_eq_false (noHash_of_action h)

/-- A subscription to an action is none to an agent's event. -/
theorem channel_subscribe_noticed (env : Environment) {calls : Trace} {name : String}
    {forwarder : SubscriberForwarder} (hfor : ForwardsFor name forwarder)
    (hbacked : ∀ action event, forwarder.resolve action = some event →
      calls[event]? = some (.createEvent action true))
    (request : RequestPtr) (action : String) {notices : List Notice} (h : Noticed calls notices) :
    Noticed ((MessageChannel.around forwarder).subscribe env calls request action).2 notices := by
  rw [Messaging.channel_subscribe]
  cases hresolve : forwarder.resolve action with
  | none => exact h
  | some event =>
      have hname := createdName_append (createdName_of_some (hbacked action event hresolve))
        [.subscribe event request (env.subscribe calls event request)]
      have haction : action ∈ actionsOf forwarder.mCapability := by
        rcases SubscriberForwarder.resolve_isSome_iff.mp ⟨event, hresolve⟩ with hup | hdown
        · exact List.mem_append_left _ (hfor.upstream action hup)
        · exact List.mem_append_right _ (hfor.downstream action hdown)
      rw [← List.append_nil notices]
      refine h.append ?_ ?_
      · intro event' request' result' hmem
        obtain ⟨rfl, -, -⟩ := Call.subscribe.inj (List.mem_singleton.mp hmem)
        exact ⟨action, hname⟩
      · refine List.filterMap_cons_none ?_
        simp only [notice, hname, Option.filter_some, not_agentEvent_of_action haction,
          Bool.false_eq_true, if_false, Option.map_none]

theorem message_subscribe_noticed {env : Environment} {b : Binding} (h : MoveWf env b)
    (hforwards : Forwards b) (request : RequestPtr) (capability : CapabilityPtr)
    (action : String) {notices : List Notice} (hnoticed : Noticed b.calls notices) :
    Noticed (b.move env (.messaging (.subscribe request capability action))).calls notices := by
  rcases messaging_subscribe_cases h.afbApi h.messaging request capability action with
    ⟨forwarder, hchannel, hstep⟩ | ⟨forwarder, calls, -, hcreate, hcreated, hstep⟩
  · simp only [Binding.move, Binding.message, hstep]
    exact channel_subscribe_noticed env (hforwards _ forwarder hchannel)
      (fun action event hresolve => h.messaging.backed _ forwarder action event hchannel hresolve)
      request action hnoticed
  · have hspeaks : Speaks env b.sVoiceAgentsDataManager [.creation]
        (· ∈ actionsOf capability) b.calls (SubscriberForwarder.create env
          CapabilitiesFactory.capabilities b.messaging.calls capability).2 :=
      forwarder_create_speaks env b.calls (fun _ hmem => hmem) (by simp)
    rw [hcreate] at hspeaks
    simp only [Binding.move, Binding.message, hstep]
    exact channel_subscribe_noticed env (forwardsFor_create hcreate) hcreated.backed request
      action (unnoticed_of_speaks hspeaks (by simp) (by simp) hnoticed)

/-! ## A subscription at an agent -/

/-- The notices of a list of event names: two for each name, up to the first without an event. -/
def noticesFor (manager : VoiceAgentsDataManager) (request : RequestPtr)
    (voiceAgentId : String) : List String → List Notice
  | [] => []
  | eventName :: rest =>
      match manager.eventFor eventName voiceAgentId with
      | some (voiceAgent, some _) =>
          .passed (createEventNameWithVAId eventName voiceAgentId) request ::
            .told voiceAgent.mApi :: noticesFor manager request voiceAgentId rest
      | _ => []

theorem isAgentEvent_name (eventName voiceAgentId : String) :
    isAgentEvent (createEventNameWithVAId eventName voiceAgentId) = true := by
  simp [isAgentEvent, createEventNameWithVAId]

/-- What the agent hands out when it is told is released at once. -/
theorem callSubscribeVerb_calls {env : Environment} (henv : env.afbApi = true) (calls : Trace)
    (voiceAgent : VoiceAgent) :
    ∃ told freed, (VoiceAgentEventsHandler.callSubscribeVerb env calls voiceAgent).2 =
        calls ++ .callSync voiceAgent.mApi "subscribe" none told :: freed ∧
      ∀ call ∈ freed, ∃ object, call = .free object := by
  obtain ⟨freed, hfreed, hfree⟩ := free_calls
    (env.doCallSync calls voiceAgent.mApi "subscribe" none).2
    (resultObject calls (env.doCallSync calls voiceAgent.mApi "subscribe" none).1)
  refine ⟨env.callSync calls voiceAgent.mApi "subscribe" none, freed, ?_, hfree⟩
  simp only [VoiceAgentEventsHandler.callSubscribeVerb, henv, if_true, hfreed]
  exact List.append_assoc _ _ _

/-- The event is asked, then the agent. -/
theorem askEvent_calls {env : Environment} (henv : env.afbApi = true) {b : Binding}
    (request : RequestPtr) {eventName voiceAgentId : String} {voiceAgent : VoiceAgent}
    {event : EventPtr} (hfound : b.sVoiceAgentsDataManager.eventFor eventName voiceAgentId =
      some (voiceAgent, some event)) :
    ∃ subscribed told freed, (askEvent env request voiceAgentId b eventName).2.calls =
        b.calls ++ .subscribe event request subscribed ::
          .callSync voiceAgent.mApi "subscribe" none told :: freed ∧
      ∀ call ∈ freed, ∃ object, call = .free object := by
  obtain ⟨told, freed, hcalls, hfree⟩ := callSubscribeVerb_calls henv
    (env.doSubscribe b.calls event request).2 voiceAgent
  refine ⟨env.subscribe b.calls event request, told, freed, ?_, hfree⟩
  simp only [askEvent, VoiceAgentsDataManager.subscribeToVshlEventFromVoiceAgent_eq, hfound, hcalls]
  exact List.append_assoc _ _ _

/-- The client is passed to the event, and the agent is told. -/
theorem askEvent_noticed {env : Environment} {b : Binding} (h : MoveWf env b)
    (request : RequestPtr) {eventName voiceAgentId : String} {voiceAgent : VoiceAgent}
    {event : EventPtr} (hfound : b.sVoiceAgentsDataManager.eventFor eventName voiceAgentId =
      some (voiceAgent, some event)) {notices : List Notice} (hnoticed : Noticed b.calls notices) :
    Noticed (askEvent env request voiceAgentId b eventName).2.calls
      (notices ++ [.passed (createEventNameWithVAId eventName voiceAgentId) request,
        .told voiceAgent.mApi]) := by
  have hregistry : RegistryWf b.state := h.binding.registry
  have hevent := (eventFor_eq_some_iff hregistry.id_eq).mp ⟨voiceAgent, hfound⟩
  have hget : b.calls[event]? =
      some (.createEvent (createEventNameWithVAId eventName voiceAgentId) true) :=
    hregistry.backed _ _ hevent.find
  obtain ⟨subscribed, told, freed, hcalls, hfree⟩ := askEvent_calls h.afbApi request hfound
  have hname := createdName_append (createdName_of_some hget)
    (.subscribe event request subscribed :: .callSync voiceAgent.mApi "subscribe" none told ::
      freed)
  rw [hcalls]
  refine hnoticed.append ?_ ?_
  · intro event' request' result' hmem
    rcases List.mem_cons.mp hmem with hfirst | hrest
    · obtain ⟨rfl, -, -⟩ := Call.subscribe.inj hfirst
      exact ⟨_, hname⟩
    · rcases List.mem_cons.mp hrest with hcall | hmemFree
      · exact absurd hcall (by simp)
      · obtain ⟨object, hobject⟩ := hfree _ hmemFree
        exact absurd hobject (by simp)
  · generalize b.calls ++ _ = after at hname ⊢
    have hnothing : freed.filterMap (notice after) = [] := by
      rw [List.filterMap_eq_nil_iff]
      intro call hcall
      obtain ⟨object, rfl⟩ := hfree call hcall
      rfl
    simp only [List.filterMap_cons, notice, hname, hnothing, Option.filter_some,
      isAgentEvent_name, if_true, Option.map_some]

theorem askEvent_of_some {env : Environment} {b : Binding} {request : RequestPtr}
    {eventName voiceAgentId : String} {voiceAgent : VoiceAgent} {event : EventPtr}
    (hfound : b.sVoiceAgentsDataManager.eventFor eventName voiceAgentId =
      some (voiceAgent, some event)) :
    (askEvent env request voiceAgentId b eventName).1 = .ok true := by
  simp only [askEvent, VoiceAgentsDataManager.subscribeToVshlEventFromVoiceAgent_eq, hfound]

/-- Without an event nothing is called, and the loop ends. -/
theorem askEvent_of_ne {env : Environment} {b : Binding} {request : RequestPtr}
    {eventName voiceAgentId : String} (hother : ∀ voiceAgent event,
      b.sVoiceAgentsDataManager.eventFor eventName voiceAgentId ≠ some (voiceAgent, some event)) :
    (askEvent env request voiceAgentId b eventName).1 ≠ .ok true ∧
      (askEvent env request voiceAgentId b eventName).2 = b := by
  unfold askEvent
  rw [VoiceAgentsDataManager.subscribeToVshlEventFromVoiceAgent_eq]
  split
  · exact ⟨by simp, rfl⟩
  · exact ⟨by simp, rfl⟩
  · rename_i voiceAgent event hfound
    exact absurd hfound (hother voiceAgent event)

/-- The loop of `subscribe`. -/
theorem subscribing_noticed {env : Environment} {b : Binding} (h : MoveWf env b)
    (request : RequestPtr) (voiceAgentId : String) (events : List String)
    {notices : List Notice} (hnoticed : Noticed b.calls notices) :
    Noticed (subscribeToEvents env request voiceAgentId b events).2.calls
      (notices ++ noticesFor b.sVoiceAgentsDataManager request voiceAgentId events) := by
  rw [subscribeToEvents_eq]
  induction events generalizing b notices with
  | nil =>
      rw [noticesFor, List.append_nil]
      exact hnoticed
  | cons eventName rest ih =>
      unfold noticesFor
      split
      · rename_i voiceAgent event hfound
        have hnext : MoveWf env (askEvent env request voiceAgentId b eventName).2 :=
          h.move (m := .dataManager (.subscribeToVshlEventFromVoiceAgent request eventName
            voiceAgentId)) trivial
        have hrest := ih hnext (askEvent_noticed h request hfound hnoticed)
        rw [List.append_assoc] at hrest
        rw [TryEach.tryEach_cons_of_true (askEvent_of_some hfound)]
        exact hrest
      · rename_i hother
        have hends : (askEvent env request voiceAgentId b eventName).1 ≠ .ok true ∧
            (askEvent env request voiceAgentId b eventName).2 = b := askEvent_of_ne hother
        obtain ⟨hstop, hsame⟩ := hends
        rw [TryEach.tryEach_cons_of_ne hstop, hsame, List.append_nil]
        exact hnoticed

/-! ## Every run -/

/-- The notices of a request: those of the events that a `subscribe` names. -/
def noticesBy (b : Binding) : Verb → List Notice
  | .subscribe request (some json) =>
      match json.find? EVENTS_JSON_ATTR_VA_ID, json.find? EVENTS_JSON_ATTR_EVENTS with
      | some (.str voiceAgentId), some eventsJson =>
          match eventsJson.getStringList with
          | .ok events => noticesFor b.sVoiceAgentsDataManager request voiceAgentId events
          | .error _ => []
      | _, _ => []
  | _ => []

theorem noticesBy_of_asks {b : Binding} {request : RequestPtr} {json : Json}
    {voiceAgentId : String} {events : List String} (h : AsksForEvents json voiceAgentId events) :
    noticesBy b (.subscribe request (some json)) =
      noticesFor b.sVoiceAgentsDataManager request voiceAgentId events := by
  simp only [noticesBy, h.voiceAgentId, h.events, Json.getStringList_eq_ok_iff.mpr rfl]

theorem noticesBy_of_not_asks {b : Binding} {request : RequestPtr} {eventJ : Option Json}
    (h : ∀ json ∈ eventJ, ∀ voiceAgentId events, ¬ AsksForEvents json voiceAgentId events) :
    noticesBy b (.subscribe request eventJ) = [] := by
  cases eventJ with
  | none => rfl
  | some json =>
      simp only [noticesBy]
      split
      · rename_i voiceAgentId eventsJson hid hevents
        split
        · rename_i events hstrings
          obtain rfl := Json.getStringList_eq_ok_iff.mp hstrings
          exact absurd ⟨hid, hevents⟩ (h json rfl voiceAgentId events)
        · rfl
      · rfl

/-- The flag of the subscription process does not matter. -/
theorem noticesFor_subscribed (env : Environment) (b : Binding) (request : RequestPtr)
    (voiceAgentId : String) (events : List String) :
    noticesFor (subscribed env b).sVoiceAgentsDataManager request voiceAgentId events =
      noticesFor b.sVoiceAgentsDataManager request voiceAgentId events := by
  obtain ⟨flag, added, hsubscribed, -⟩ := subscribed_only env b
  rw [hsubscribed]
  induction events with
  | nil => rfl
  | cons eventName rest ih =>
      simp only [noticesFor, ih]
      rfl

theorem subscribe_noticed {env : Environment} {b : Binding} (h : MoveWf env b)
    (request : RequestPtr) (eventJ : Option Json) {notices : List Notice}
    (hnoticed : Noticed b.calls notices) :
    Noticed (subscribe env b request eventJ).binding.calls
      (notices ++ noticesBy b (.subscribe request eventJ)) := by
  have hprocess : Noticed (subscribed env b).calls notices := process_unnoticed env b hnoticed
  rcases subscribe_cases env b request eventJ with
    ⟨json, voiceAgentId, events, rfl, hasks, heq⟩ | ⟨hnot, ret, heq⟩
  · have hwf : MoveWf env (subscribed env b) :=
      h.move (m := .dataManager .startNewSubscriptionProcess) trivial
    rw [heq, answered_binding, noticesBy_of_asks hasks, ← noticesFor_subscribed env b]
    exact subscribing_noticed hwf request voiceAgentId events hprocess
  · rw [heq, noticesBy_of_not_asks hnot, List.append_nil]
    exact hprocess

theorem move_noticed {env : Environment} {b : Binding} {m : Move} (hm : m.IsExposed)
    (h : MoveWf env b) (hknown : RequestsKnown b) (hforwards : Forwards b)
    (hother : ∀ request eventName voiceAgentId, m ≠ .dataManager
      (.subscribeToVshlEventFromVoiceAgent request eventName voiceAgentId))
    {notices : List Notice} (hnoticed : Noticed b.calls notices) :
    Noticed (b.move env m).calls notices := by
  have hspeaks := move_speaks hm h hknown
  cases m with
  | startListening =>
      exact unnoticed_of_speaks hspeaks (by simp [Move.kinds]) (by simp [Move.kinds]) hnoticed
  | dataManager op =>
      cases op with
      | startNewSubscriptionProcess => exact process_unnoticed env b hnoticed
      | subscribeToVshlEventFromVoiceAgent request eventName voiceAgentId =>
          exact absurd rfl (hother request eventName voiceAgentId)
      | _ =>
          exact unnoticed_of_speaks hspeaks (by simp [Move.kinds]) (by simp [Move.kinds]) hnoticed
  | messaging op =>
      cases op with
      | subscribe request capability action =>
          exact message_subscribe_noticed h hforwards request capability action hnoticed
      | publish capability action payload =>
          exact unnoticed_of_speaks hspeaks (by simp [Move.kinds]) (by simp [Move.kinds]) hnoticed

/-- A binding in good order, in which these notices were given. -/
structure NoticeWf (env : Environment) (b : Binding) (notices : List Notice) : Prop where
  wf : MoveWf env b
  known : RequestsKnown b
  forwards : Forwards b
  noticed : Noticed b.calls notices

theorem NoticeWf.handle {env : Environment} {b : Binding} {notices : List Notice}
    (h : NoticeWf env b notices) (verb : Verb) :
    NoticeWf env ((machine env).next b verb) (notices ++ noticesBy b verb) := by
  -- all but the notices is kept by every move
  have hrest : MoveWf env ((machine env).next b verb) ∧
      RequestsKnown ((machine env).next b verb) ∧ Forwards ((machine env).next b verb) := by
    refine (handle_performs env b verb).invariant
      (I := fun b => MoveWf env b ∧ RequestsKnown b ∧ Forwards b) ⟨h.wf, h.known, h.forwards⟩ ?_
    rintro b m hm ⟨hwf, hknown, hforwards⟩
    exact ⟨hwf.move hm.isExposed, move_requestsKnown hm.isExposed hwf hknown,
      forwards_move hwf hforwards m⟩
  refine ⟨hrest.1, hrest.2.1, hrest.2.2, ?_⟩
  by_cases hsubscribe : ∃ request eventJ, verb = .subscribe request eventJ
  · obtain ⟨request, eventJ, rfl⟩ := hsubscribe
    exact subscribe_noticed h.wf request eventJ h.noticed
  · have hnone : noticesBy b verb = [] := by
      cases verb with
      | subscribe request eventJ => exact absurd ⟨request, eventJ, rfl⟩ hsubscribe
      | _ => rfl
    have hother : ∀ m, verb.Permits m → ∀ request eventName voiceAgentId, m ≠ .dataManager
        (.subscribeToVshlEventFromVoiceAgent request eventName voiceAgentId) := by
      rintro m hm request eventName voiceAgentId rfl
      cases verb with
      | subscribe request' eventJ => exact hsubscribe ⟨request', eventJ, rfl⟩
      | cancelListening | enumerateVoiceAgents => exact hm
      | _ => simp [Verb.Permits] at hm
    rw [hnone, List.append_nil]
    have hall := (handle_performs env b verb).invariant
      (I := fun b => NoticeWf env b notices) h ?_
    · exact hall.noticed
    · intro b m hm hb
      exact ⟨hb.wf.move hm.isExposed, move_requestsKnown hm.isExposed hb.wf hb.known,
        forwards_move hb.wf hb.forwards m,
        move_noticed hm.isExposed hb.wf hb.known hb.forwards (hother m hm) hb.noticed⟩

/-- Over a run, for each name in a list that a client sends, up to the first without an event,
the client is passed to the event and the agent is told, in this order; nobody is passed to an
agent's event and no agent is told otherwise. -/
theorem subscriptions_in_order {env : Environment} {loaded : Binding}
    (h : CTLP_ONLOAD env = some loaded) (verbs : List Verb) :
    Noticed ((machine env).run loaded verbs).calls
      ((machine env).collect noticesBy loaded verbs) := by
  have hloaded : NoticeWf env loaded [] := by
    have hreachable : Reachable env loaded := ⟨loaded, [], h, rfl⟩
    obtain ⟨-, rfl⟩ := CTLP_ONLOAD_eq_some_iff.mp h
    refine ⟨hreachable.moveWf, hreachable.speaks.1, ?_, ?_, rfl⟩
    · intro name forwarder hchannel
      exact absurd hchannel ((UnorderedMap.find_empty name).trans_ne (by simp))
    · intro event request result hmem
      exact absurd hmem List.not_mem_nil
  exact ((machine env).collect_simulation (R := NoticeWf env)
    (fun _ _ verb hwf => hwf.handle verb) hloaded verbs).noticed

/-- The list ends for the agent at a name that is none of its events; the action that the client
subscribes to before is not the agents' business. -/
theorem subscriptions_in_order_unknown :
    let loaded := (CTLP_ONLOAD .obliging).get onload_obliging
    let config := encodeAgents [.simple "VA-001" "alexa-api"] "VA-001"
    let actions := Json.obj
      [(CAPABILITIES_JSON_ATTR_ACTIONS, .arr [.str phonecontrol.PHONECONTROL_DIAL])]
    let events := Json.obj [(EVENTS_JSON_ATTR_VA_ID, .str "VA-001"), (EVENTS_JSON_ATTR_EVENTS,
      .arr [.str VSHL_EVENT_AUTH_STATE_EVENT, .str "bogus", .str VSHL_EVENT_DIALOG_STATE_EVENT])]
    let verbs := [.loadVoiceAgentsConfig (some config), .phonecontrolSubscribe 7 (some actions),
      .subscribe 8 (some events)]
    Noticed ((machine .obliging).run loaded verbs).calls
        ((machine .obliging).collect noticesBy loaded verbs) ∧
      (machine .obliging).collect noticesBy loaded verbs =
        [.passed (createEventNameWithVAId VSHL_EVENT_AUTH_STATE_EVENT "VA-001") 8,
          .told "alexa-api"] := by
  intro loaded config actions events verbs
  exact ⟨subscriptions_in_order (Option.some_get onload_obliging).symm verbs, by decide⟩

end Vshl.Api
