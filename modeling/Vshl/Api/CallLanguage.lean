/-
  Api/CallLanguage.lean --- what a reachable binding has said to the outside.

  The calls of the plugin come in a few forms only: an API is called and what it hands out
  is released at once, or is kept; an event is created, subscribed to or pushed; a
  capability is told of what was pushed.  The trace of every reachable binding is written
  in these forms, each admitted by the agents that are registered and the calls before it.
-/
import Vshl.Api.Moves
import Vshl.Core.Results
import Vshl.Foundation.Blocks

set_option autoImplicit false

namespace Vshl.Api

open Vshl.Foundation
open Vshl.Interfaces
open Vshl.VoiceAgents
open Vshl.Core
open Vshl.Capabilities

/-! ## The forms -/

/-- What the plugin does to the outside in one go. -/
inductive Emission where
  /-- a `callSync`, and the release of what it hands out -/
  | ask (api verb : String) (request : Option Json) (result : CallSyncResult)
  /-- a `callSync`; what it hands out is kept -/
  | keep (api verb : String) (result : CallSyncResult)
  | create (eventName : String) (nonNull : Bool)
  | subscribe (event : EventPtr) (request : RequestPtr) (result : Bool)
  | publish (event : EventPtr) (payload : Json) (observers : Int)
  | tell (capability : CapabilityPtr) (action : String)

/-- What an emission is about. -/
inductive Kind where
  /-- an agent is asked to start its subscriptions or to subscribe -/
  | question
  /-- an application is started or displayed -/
  | launch
  /-- a request is started or cancelled -/
  | session
  | creation
  | subscription
  | push
  | told
  deriving DecidableEq

/-- Agents are asked without an argument, applications with their name. -/
def Emission.kind : Emission → Kind
  | .ask _ _ none _ => .question
  | .ask _ _ (some _) _ => .launch
  | .keep _ _ _ => .session
  | .create _ _ => .creation
  | .subscribe _ _ _ => .subscription
  | .publish _ _ _ => .push
  | .tell _ _ => .told

/-- The calls of an emission, the first of them at this position of the trace. -/
def Emission.spell (position : Nat) : Emission → Trace
  | .ask api verb request result =>
      .callSync api verb request result :: if result.object then [.free position] else []
  | .keep api verb result => [.callSync api verb none result]
  | .create eventName nonNull => [.createEvent eventName nonNull]
  | .subscribe event request result => [.subscribe event request result]
  | .publish event payload observers => [.publishEvent event payload observers]
  | .tell capability action => [.onMessagePublished capability action]

/-- A `callSync` whose result is freed is an `ask`. -/
theorem callSync_free (env : Environment) (calls : Trace) (api verb : String)
    (request : Option Json) :
    free (env.doCallSync calls api verb request).2
        (resultObject calls (env.doCallSync calls api verb request).1) =
      calls ++ Emission.spell calls.length
        (.ask api verb request (env.callSync calls api verb request)) := by
  simp only [Environment.doCallSync, Emission.spell]
  generalize env.callSync calls api verb request = result
  cases hobject : result.object with
  | false => simp [resultObject, hobject, free]
  | true => simp [resultObject, hobject, free]

/-! ## What each function emits -/

/-- An agent with this API is registered. -/
def KnowsApi (manager : VoiceAgentsDataManager) (api : String) : Prop :=
  ∃ id p, manager.mVoiceAgents.find id = some p ∧ (manager.agents.object p).mApi = api

/-- The verbs that are asked of an agent, and those whose result is kept. -/
def askedVerbs : List String := ["startSubscriptionProcess", "subscribe"]
def keptVerbs : List String := [VRRequest.VA_VERB_STARTLISTENING, VRRequest.VA_VERB_CANCEL]

/-- One of the two calls that launch the application of a capability. -/
def IsAppCall (api verb : String) (request : Option Json) : Prop :=
  ∃ capability action app,
    (CapabilitiesFactory.capabilities capability).launches action = some app ∧
      request = some (jsonObjectNewString (app.APP_NAME ++ "@" ++ app.VERSION_NAME)) ∧
      ((api = AppController.START_APP_API ∧ verb = AppController.START_APP_VERB) ∨
        (api = AppController.DISPLAY_APP_API ∧ verb = AppController.DISPLAY_APP_VERB))

/-- What an emission needs after these calls, with these agents; the names of new events are
among `May`. -/
def Grounded (manager : VoiceAgentsDataManager) (May : String → Prop) (log : Trace) :
    Emission → Prop
  | .ask api verb request _ =>
      (KnowsApi manager api ∧ verb ∈ askedVerbs ∧ request = none) ∨ IsAppCall api verb request
  | .keep api verb _ => KnowsApi manager api ∧ verb ∈ keptVerbs
  | .create eventName _ => May eventName
  | .subscribe event _ _ => ∃ eventName, log[event]? = some (.createEvent eventName true)
  | .publish event _ _ => ∃ eventName, log[event]? = some (.createEvent eventName true)
  | .tell _ action => ∃ earlier event payload observers,
      log = earlier ++ [.publishEvent event payload observers] ∧
        earlier[event]? = some (.createEvent action true)

/-- The actions of a capability, in the order in which their events are created. -/
def actionsOf (capability : CapabilityPtr) : List String :=
  (CapabilitiesFactory.capabilities capability).getUpstreamMessages ++
    (CapabilitiesFactory.capabilities capability).getDownstreamMessages

/-- The answer in the emission is the one that the outside gives after these calls. -/
def Emission.Answered (env : Environment) (log : Trace) : Emission → Prop
  | .ask api verb request result => result = env.callSync log api verb request
  | .keep api verb result => result = env.callSync log api verb none
  | .create eventName nonNull => nonNull = env.createEvent log eventName
  | .subscribe event request result => result = env.subscribe log event request
  | .publish event payload observers => observers = env.publishEvent log event payload
  | .tell _ _ => True

/-- The emission is of one of these kinds, has what it needs, and is answered as the outside
answers. -/
structure Lawful (env : Environment) (manager : VoiceAgentsDataManager) (kinds : List Kind)
    (May : String → Prop) (log : Trace) (emission : Emission) : Prop where
  kind : emission.kind ∈ kinds
  grounded : Grounded manager May log emission
  answered : emission.Answered env log

/-- From these calls to those by lawful emissions. -/
abbrev Speaks (env : Environment) (manager : VoiceAgentsDataManager) (kinds : List Kind)
    (May : String → Prop) : Trace → Trace → Prop :=
  Blocks Emission.spell (Lawful env manager kinds May)

/-- What sees emissions of one kind only sees nothing new where there are none. -/
theorem speaks_filterMap_eq {γ : Type} {f : Call → Option γ} {kind : Kind} {env : Environment}
    {manager : VoiceAgentsDataManager} {kinds : List Kind} {May : String → Prop}
    {calls calls' : Trace}
    (hspell : ∀ position log emission, emission.kind ≠ kind → Grounded manager May log emission →
      (emission.spell position).filterMap f = [])
    (h : Speaks env manager kinds May calls calls') (hkinds : kind ∉ kinds) :
    calls'.filterMap f = calls.filterMap f := by
  refine h.filterMap_eq fun log emission hlawful => hspell _ log emission ?_ hlawful.grounded
  intro heq
  exact hkinds (heq ▸ hlawful.kind)

section

variable {manager : VoiceAgentsDataManager} {kinds : List Kind} {May : String → Prop}
  (env : Environment)

theorem callStartSubscriptionProcessAPI_speaks (calls : Trace) {voiceAgent : VoiceAgent}
    (hknown : KnowsApi manager voiceAgent.mApi) (hkind : .question ∈ kinds) :
    Speaks env manager kinds May calls
      (VoiceAgentsDataManager.callStartSubscriptionProcessAPI env calls voiceAgent) := by
  unfold VoiceAgentsDataManager.callStartSubscriptionProcessAPI
  split
  · simp only [callSync_free]
    exact .one (Emission.ask _ _ _ _) ⟨hkind, Or.inl ⟨hknown, by simp [askedVerbs], rfl⟩, rfl⟩
  · exact .refl

theorem startNewSubscriptionProcess_speaks (manager : VoiceAgentsDataManager) (calls : Trace)
    (hkind : .question ∈ kinds) :
    Speaks env manager kinds May calls (manager.startNewSubscriptionProcess env calls).2 := by
  unfold VoiceAgentsDataManager.startNewSubscriptionProcess
  split
  · exact .refl
  · have hloop : (fun state : VoiceAgentsDataManager × Trace =>
          state.1.agents = manager.agents ∧ Speaks env manager kinds May calls state.2)
        (manager.mVoiceAgents.values.foldl
          (VoiceAgentsDataManager.startSubscriptionProcess env) (manager, calls)) := by
      refine List.foldlRecOn (motive := fun state : VoiceAgentsDataManager × Trace =>
          state.1.agents = manager.agents ∧ Speaks env manager kinds May calls state.2)
        manager.mVoiceAgents.values _ ⟨rfl, .refl⟩ ?_
      intro state hstate p hp
      obtain ⟨hagents, hspeaks⟩ := hstate
      obtain ⟨id, hfind⟩ := UnorderedMap.mem_values_iff.mp hp
      refine ⟨hagents, hspeaks.trans ?_⟩
      refine callStartSubscriptionProcessAPI_speaks env state.2 ⟨id, p, hfind, ?_⟩ hkind
      rw [hagents]
    exact hloop.2

theorem callSubscribeVerb_speaks (calls : Trace) {voiceAgent : VoiceAgent}
    (hknown : KnowsApi manager voiceAgent.mApi) (hkind : .question ∈ kinds) :
    Speaks env manager kinds May calls
      (VoiceAgentEventsHandler.callSubscribeVerb env calls voiceAgent).2 := by
  unfold VoiceAgentEventsHandler.callSubscribeVerb
  split
  · simp only [callSync_free]
    exact .one (Emission.ask _ _ _ _) ⟨hkind, Or.inl ⟨hknown, by simp [askedVerbs], rfl⟩, rfl⟩
  · exact .refl

/-- The event is subscribed to before the agent is asked. -/
theorem subscribeToVshlEvent_speaks {calls : Trace} (hwf : RegistryWf ⟨manager, calls⟩)
    (request : RequestPtr) (eventName voiceAgentId : String) (hquestion : .question ∈ kinds)
    (hsubscription : .subscription ∈ kinds) :
    Speaks env manager kinds May calls
      (manager.subscribeToVshlEventFromVoiceAgent env calls request eventName voiceAgentId).2 := by
  rw [VoiceAgentsDataManager.subscribeToVshlEventFromVoiceAgent_eq]
  split
  · exact .refl
  · exact .refl
  · rename_i voiceAgent event hfound
    have hevent := (eventFor_eq_some_iff hwf.id_eq).mp ⟨voiceAgent, hfound⟩
    have hknown : KnowsApi manager voiceAgent.mApi := by
      unfold VoiceAgentsDataManager.eventFor at hfound
      cases hfind : manager.mVoiceAgents.find voiceAgentId with
      | none => simp [hfind] at hfound
      | some p =>
          simp only [hfind] at hfound
          split at hfound
          · obtain ⟨stored, -, hsame⟩ := Option.map_eq_some_iff.mp hfound
            exact ⟨voiceAgentId, p, hfind, by rw [(Prod.mk.inj hsame).1]⟩
          · exact absurd hfound (by simp)
    have hsubscribed : Speaks env manager kinds May calls (env.doSubscribe calls event request).2 :=
      .one (Emission.subscribe event request (env.subscribe calls event request))
        ⟨hsubscription, ⟨_, hwf.backed _ _ hevent.find⟩, rfl⟩
    exact hsubscribed.trans (callSubscribeVerb_speaks env _ hknown hquestion)

theorem onIncomingEvent_speaks {calls : Trace} {handler : VoiceAgentEventsHandler}
    (hbacked : handler.Backed calls) (eventName voiceAgentId payload : String)
    (hkind : .push ∈ kinds) :
    Speaks env manager kinds May calls
      (handler.onIncomingEvent env calls eventName voiceAgentId payload).2 := by
  unfold VoiceAgentEventsHandler.onIncomingEvent
  split
  · exact .refl
  · exact .refl
  · rename_i event hfind
    exact .one (Emission.publish event (jsonObjectNewString payload)
      (env.publishEvent calls event (jsonObjectNewString payload)))
      ⟨hkind, ⟨_, hbacked _ _ hfind⟩, rfl⟩

theorem createVshlEvents_speaks (handler : VoiceAgentEventsHandler) (calls : Trace)
    {voiceAgentId : String} (hmay : ∀ key, IsEventOf voiceAgentId key → May key)
    (hkind : .creation ∈ kinds) :
    Speaks env manager kinds May calls
      (handler.createVshlEventsForVoiceAgent env calls voiceAgentId).2 := by
  unfold VoiceAgentEventsHandler.createVshlEventsForVoiceAgent
  refine List.foldlRecOn
    (motive := fun state : VoiceAgentEventsHandler × Trace =>
      Speaks env manager kinds May calls state.2)
    VSHL_EVENTS _ .refl ?_
  intro state hstate eventName hname
  unfold VoiceAgentEventsHandler.createVshlEvent
  simp only
  split
  · exact .write hstate (.create _ _) ⟨hkind, hmay _ ⟨eventName, hname, rfl⟩, rfl⟩
  · exact hstate

theorem addNewVoiceAgent_speaks (before : VoiceAgentsDataManager) (calls : Trace)
    {args : VoiceAgent.Args} (hmay : ∀ key, IsEventOf args.id key → May key)
    (hkind : .creation ∈ kinds) :
    Speaks env manager kinds May calls (before.addNewVoiceAgent env calls args).2 := by
  rw [VoiceAgentsDataManager.addNewVoiceAgent_eq]
  split
  · exact .refl
  · rename_i voiceAgent hcreate
    split
    · refine createVshlEvents_speaks env _ calls ?_ hkind
      rw [(VoiceAgent.create_eq_some_iff.mp hcreate).1.id]
      exact hmay
    · exact .refl

/-! ### The request processor -/

theorem callVerb_speaks (agents : AgentStore) (calls : Trace) {request : VRRequest}
    (hknown : KnowsApi manager (agents.object request.mVoiceAgent).mApi) {verb : String}
    (hverb : verb ∈ keptVerbs) (hkind : .session ∈ kinds) :
    Speaks env manager kinds May calls (request.callVerb env agents calls verb).2 := by
  rw [VRRequest.callVerb_eq]
  exact .one (Emission.keep _ verb _) ⟨hkind, ⟨hknown, hverb⟩, rfl⟩

theorem cancelEach_speaks (agents : AgentStore) (calls : Trace) {requests : List VRRequest}
    (hknown : ∀ request ∈ requests,
      KnowsApi manager (agents.object request.mVoiceAgent).mApi) (hkind : .session ∈ kinds) :
    Speaks env manager kinds May calls
      (VRRequestProcessorDelegate.cancelEach env agents calls requests) := by
  refine List.foldlRecOn (motive := Speaks env manager kinds May calls) requests _ .refl ?_
  intro log hlog request hrequest
  exact hlog.trans (callVerb_speaks env agents log (hknown request hrequest)
    (by simp [keptVerbs]) hkind)

/-! ### The capabilities -/

theorem callApp_speaks (calls : Trace) {api verb : String} {app : App}
    (happ : IsAppCall api verb
      (some (jsonObjectNewString (app.APP_NAME ++ "@" ++ app.VERSION_NAME))))
    (hkind : .launch ∈ kinds) :
    Speaks env manager kinds May calls
      (AppController.callApp env calls api verb app.APP_NAME app.VERSION_NAME).2 := by
  unfold AppController.callApp
  split
  · exact .refl
  · simp only [callSync_free]
    exact .one (Emission.ask _ _ _ _) ⟨hkind, Or.inr happ, rfl⟩

theorem onMessagePublished_speaks {calls : Trace} {capability : CapabilityPtr} {action : String}
    (htell : Grounded manager May calls (.tell capability action)) (htold : .told ∈ kinds)
    (hlaunch : .launch ∈ kinds) :
    Speaks env manager kinds May calls
      (onMessagePublished env CapabilitiesFactory.capabilities calls capability action) := by
  have hspeaks : Speaks env manager kinds May calls
      (calls ++ [.onMessagePublished capability action]) :=
    .one (Emission.tell capability action) ⟨htold, htell, trivial⟩
  simp only [onMessagePublished, ICapability.react]
  cases happ : (CapabilitiesFactory.capabilities capability).launches action with
  | none => exact hspeaks
  | some app =>
      have hstart : Speaks env manager kinds May (calls ++ [.onMessagePublished capability action])
          (AppController.startApp env (calls ++ [.onMessagePublished capability action])
            app.APP_NAME app.VERSION_NAME).2 :=
        callApp_speaks env _ ⟨capability, action, app, happ, rfl, Or.inl ⟨rfl, rfl⟩⟩ hlaunch
      refine hspeaks.trans (hstart.trans ?_)
      exact callApp_speaks env _ ⟨capability, action, app, happ, rfl, Or.inr ⟨rfl, rfl⟩⟩
        hlaunch

theorem createEventsOf_speaks (calls : Trace) {eventNames : List String}
    (hmay : ∀ eventName ∈ eventNames, May eventName) (hkind : .creation ∈ kinds) :
    Speaks env manager kinds May calls
      (SubscriberForwarder.createEventsOf env calls eventNames).2 := by
  refine List.foldlRecOn
    (motive := fun state : EventsMap × Trace => Speaks env manager kinds May calls state.2)
    eventNames _ .refl ?_
  intro state hstate eventName hname
  unfold SubscriberForwarder.createEvent
  split
  · cases hnonNull : env.createEvent state.2 eventName with
    | false =>
        simp only [Environment.doCreateEvent, hnonNull, Bool.false_eq_true, if_false]
        exact .write hstate (.create eventName false)
          ⟨hkind, hmay eventName hname, hnonNull.symm⟩
    | true =>
        simp only [Environment.doCreateEvent, hnonNull, if_true]
        exact .write hstate (.create eventName true)
          ⟨hkind, hmay eventName hname, hnonNull.symm⟩
  · exact hstate

theorem forwarder_create_speaks (calls : Trace) {capability : CapabilityPtr}
    (hmay : ∀ action ∈ actionsOf capability, May action) (hkind : .creation ∈ kinds) :
    Speaks env manager kinds May calls
      (SubscriberForwarder.create env CapabilitiesFactory.capabilities calls capability).2 := by
  unfold SubscriberForwarder.create
  split
  · exact .refl
  · exact (createEventsOf_speaks env calls
      (fun action haction => hmay action (List.mem_append_left _ haction)) hkind).trans
      (createEventsOf_speaks env _
        (fun action haction => hmay action (List.mem_append_right _ haction)) hkind)

/-- A subscription to an action, on a channel whose events were created. -/
theorem channel_subscribe_speaks {calls : Trace} {forwarder : SubscriberForwarder}
    (hbacked : ∀ action event, forwarder.resolve action = some event →
      calls[event]? = some (.createEvent action true))
    (request : RequestPtr) (action : String) (hkind : .subscription ∈ kinds) :
    Speaks env manager kinds May calls
      ((MessageChannel.around forwarder).subscribe env calls request action).2 := by
  rw [Messaging.channel_subscribe]
  cases hresolve : forwarder.resolve action with
  | none => exact .refl
  | some event =>
      exact .one (Emission.subscribe event request (env.subscribe calls event request))
        ⟨hkind, ⟨action, hbacked action event hresolve⟩, rfl⟩

theorem message_subscribe_speaks (henv : env.afbApi = true) {s : Messaging} (hwf : s.Wf)
    (request : RequestPtr) {capability : CapabilityPtr} (action : String)
    (hmay : s.channel (CapabilitiesFactory.capabilities capability).getName = none →
      ∀ action ∈ actionsOf capability, May action) (hcreation : .creation ∈ kinds)
    (hsubscription : .subscription ∈ kinds) :
    Speaks env manager kinds May s.calls (Messaging.step env CapabilitiesFactory.capabilities s
      (.subscribe request capability action)).1.calls := by
  rcases messaging_subscribe_cases henv hwf request capability action with
    ⟨forwarder, hchannel, hstep⟩ | ⟨forwarder, calls, hchannel, hcreate, hcreated, hstep⟩
  · rw [hstep]
    exact channel_subscribe_speaks env
      (fun action event hresolve => hwf.backed _ forwarder action event hchannel hresolve)
      request action hsubscription
  · have hspeaks : Speaks env manager kinds May s.calls (SubscriberForwarder.create env
        CapabilitiesFactory.capabilities s.calls capability).2 :=
      forwarder_create_speaks env s.calls (hmay hchannel) hcreation
    rw [hcreate] at hspeaks
    rw [hstep]
    exact hspeaks.trans
      (channel_subscribe_speaks env hcreated.backed request action hsubscription)

theorem message_publish_speaks {s : Messaging} (hwf : s.Wf) (capability : CapabilityPtr)
    (action payload : String) (hpush : .push ∈ kinds) (htold : .told ∈ kinds)
    (hlaunch : .launch ∈ kinds) :
    Speaks env manager kinds May s.calls (Messaging.step env CapabilitiesFactory.capabilities s
      (.publish capability action payload)).1.calls := by
  rcases messaging_publish_cases env hwf capability action payload with
    ⟨forwarder, event, hchannel, hresolve, hstep⟩ | ⟨-, hstep⟩
  · have hget := hwf.backed _ forwarder action event hchannel hresolve
    have hpublished : Speaks env manager kinds May s.calls
        (env.doPublishEvent s.calls event (jsonObjectNewString payload)).2 :=
      .one (Emission.publish event (jsonObjectNewString payload)
        (env.publishEvent s.calls event (jsonObjectNewString payload)))
        ⟨hpush, ⟨action, hget⟩, rfl⟩
    rw [hstep]
    refine hpublished.trans ?_
    simp only [SubscriberForwarder.notified]
    split
    · exact onMessagePublished_speaks env ⟨s.calls, event, _, _, rfl, hget⟩ htold hlaunch
    · exact .refl
  · rw [hstep]
    exact .refl

end

/-! ## Every move speaks the language -/

/-- The agents of the stored requests are registered. -/
def RequestsKnown (b : Binding) : Prop :=
  ∀ request ∈ b.sVRRequestProcessor.mVRRequests.values,
    ∃ id, b.sVoiceAgentsDataManager.mVoiceAgents.find id = some request.mVoiceAgent

/-- The default agent of the delegate is registered. -/
theorem MoveWf.default_known {env : Environment} {b : Binding} (h : MoveWf env b) {p : AgentPtr}
    (hp : b.sVRRequestProcessor.mDefaultVoiceAgent = some p) :
    ∃ id, b.sVoiceAgentsDataManager.mVoiceAgents.find id = some p := by
  rcases h.binding.agrees with ⟨-, hnone⟩ | ⟨q, hfind, hq⟩
  · exact absurd (hp.symm.trans hnone) (by simp)
  · obtain rfl : p = q := Option.some.inj (hp.symm.trans hq)
    exact ⟨_, hfind⟩

/-- The calls after the stored requests have been cancelled. -/
def Binding.cancelled (env : Environment) (b : Binding) : Trace :=
  VRRequestProcessorDelegate.cancelEach env b.sVoiceAgentsDataManager.agents b.calls
    b.sVRRequestProcessor.mVRRequests.values

/-- The request that is made then. -/
def Binding.newRequest (env : Environment) (b : Binding) (p : AgentPtr) : VRRequest :=
  ⟨Utilities.generateUUID (env.randomByte (b.cancelled env)), p⟩

/-- `startListening` does nothing, or cancels what is stored and starts the default agent. -/
theorem listen_cases {env : Environment} {b : Binding} (h : MoveWf env b) :
    (b.sVRRequestProcessor.mDefaultVoiceAgent = none ∧ b.listen env = b) ∨
      ∃ p, b.sVRRequestProcessor.mDefaultVoiceAgent = some p ∧
        b.listen env =
          { b with
            sVRRequestProcessor := ⟨some p, UnorderedMap.emplace ∅
              (b.sVoiceAgentsDataManager.agents.object p).mId (b.newRequest env p)⟩
            calls := ((b.newRequest env p).startListening env
              b.sVoiceAgentsDataManager.agents (b.cancelled env)).2 } := by
  cases hdefault : b.sVRRequestProcessor.mDefaultVoiceAgent with
  | none =>
      refine Or.inl ⟨rfl, ?_⟩
      simp only [Binding.listen, VRRequestProcessor.startListening_of_none hdefault]
  | some p =>
      refine Or.inr ⟨p, rfl, ?_⟩
      simp only [Binding.listen, VRRequestProcessor.startListening_of_some h.afbApi
        b.sVoiceAgentsDataManager.agents b.calls hdefault, VRRequest.startListening,
        VRRequest.callVerb_eq]
      rfl

theorem listen_speaks {env : Environment} {b : Binding} (h : MoveWf env b)
    (hrequests : RequestsKnown b) (May : String → Prop) :
    Speaks env b.sVoiceAgentsDataManager [.session] May b.calls (b.listen env).calls := by
  rcases listen_cases h with ⟨-, heq⟩ | ⟨p, hp, heq⟩
  · rw [heq]
    exact .refl
  · obtain ⟨id, hfind⟩ := h.default_known hp
    have hcancels : Speaks env b.sVoiceAgentsDataManager [.session] May b.calls
        (b.cancelled env) := by
      refine cancelEach_speaks env _ b.calls ?_ (by simp)
      intro request hrequest
      obtain ⟨id', hfind'⟩ := hrequests request hrequest
      exact ⟨id', _, hfind', rfl⟩
    rw [heq]
    exact hcancels.trans (callVerb_speaks env _ _ ⟨id, p, hfind, rfl⟩ (by simp [keptVerbs])
      (by simp))

/-- The events that a move creates: those of an agent that is added, or those of a channel
that is made. -/
def Creates (env : Environment) (b : Binding) : Move → String → Prop
  | .dataManager (.addNewVoiceAgent args), eventName =>
      args.id ∈
          (b.dataManager env (.addNewVoiceAgent args)).1.sVoiceAgentsDataManager.mVoiceAgents ∧
        IsEventOf args.id eventName
  | .messaging (.subscribe _ capability _), eventName =>
      b.messaging.channel (CapabilitiesFactory.capabilities capability).getName = none ∧
        eventName ∈ actionsOf capability
  | _, _ => False

/-- The kinds of emissions of a move. -/
def Move.kinds : Move → List Kind
  | .dataManager (.addNewVoiceAgent _) => [.creation]
  | .dataManager (.subscribeToVshlEventFromVoiceAgent _ _ _) => [.subscription, .question]
  | .dataManager .startNewSubscriptionProcess => [.question]
  | .dataManager (.handleIncomingEvent _ _ _) => [.push]
  | .dataManager _ => []
  | .startListening => [.session]
  | .messaging (.subscribe _ _ _) => [.creation, .subscription]
  | .messaging (.publish _ _ _) => [.push, .told, .launch]

theorem dataManager_speaks (env : Environment) {b : Binding} (h : MoveWf env b) {op : Op}
    (hop : Exposed op) :
    Speaks env b.sVoiceAgentsDataManager (Move.dataManager op).kinds
      (Creates env b (.dataManager op)) b.calls (b.dataManager env op).1.calls := by
  have hwf : RegistryWf ⟨b.sVoiceAgentsDataManager, b.calls⟩ := h.binding.registry
  cases op with
  | addNewVoiceAgent args =>
      rcases addNewVoiceAgent_cases env b.state args with hadded | hsame
      · refine addNewVoiceAgent_speaks env b.sVoiceAgentsDataManager b.calls ?_
          (by simp [Move.kinds])
        intro key hof
        exact ⟨(hadded.mem_iff args.id).mpr (Or.inr rfl), hof⟩
      · have hcalls : (b.dataManager env (.addNewVoiceAgent args)).1.calls = b.calls :=
          congrArg State.calls hsame
        rw [hcalls]
        exact .refl
  | setDefaultVoiceAgent voiceAgentId => exact .refl
  | subscribeToVshlEventFromVoiceAgent request eventName voiceAgentId =>
      exact subscribeToVshlEvent_speaks env hwf request eventName voiceAgentId
        (by simp [Move.kinds]) (by simp [Move.kinds])
  | startNewSubscriptionProcess =>
      exact startNewSubscriptionProcess_speaks env _ b.calls (by simp [Move.kinds])
  | handleIncomingEvent eventName voiceAgentId payload =>
      simp only [Binding.dataManager, VoiceAgents.step, Binding.state, routeToDataManager_eq]
      exact onIncomingEvent_speaks env hwf.backed eventName voiceAgentId payload
        (by simp [Move.kinds])
  | rehash voiceAgents observers => exact .refl
  | removeVoiceAgent _ | activateVoiceAgents _ | deactivateVoiceAgents _
  | setActiveWakeWord _ _ | addVoiceAgentsChangeObserver _
  | removeVoiceAgentsChangeObserver _ => exact absurd hop id

theorem move_speaks {env : Environment} {b : Binding} {m : Move} (hm : m.IsExposed)
    (h : MoveWf env b) (hrequests : RequestsKnown b) :
    Speaks env b.sVoiceAgentsDataManager m.kinds (Creates env b m) b.calls
      (b.move env m).calls := by
  cases m with
  | dataManager op => exact dataManager_speaks env h hm
  | startListening => exact listen_speaks h hrequests _
  | messaging op =>
      cases op with
      | subscribe request capability action =>
          exact message_subscribe_speaks env h.afbApi h.messaging request action
            (fun hchannel eventName hmem => ⟨hchannel, hmem⟩) (by simp [Move.kinds])
            (by simp [Move.kinds])
      | publish capability action payload =>
          exact message_publish_speaks env h.messaging capability action payload
            (by simp [Move.kinds]) (by simp [Move.kinds]) (by simp [Move.kinds])

/-! ## Agents stay -/

/-- A move leaves every registered agent where it is, with its API. -/
structure KeepsAgents (before after : VoiceAgentsDataManager) : Prop where
  find : ∀ id p, before.mVoiceAgents.find id = some p → after.mVoiceAgents.find id = some p
  api : ∀ id p, before.mVoiceAgents.find id = some p →
    (after.agents.object p).mApi = (before.agents.object p).mApi

theorem KeepsAgents.refl (manager : VoiceAgentsDataManager) : KeepsAgents manager manager :=
  ⟨fun _ _ h => h, fun _ _ _ => rfl⟩

theorem dataManager_keepsAgents (env : Environment) {b : Binding} (hwf : AgentsWf b.state)
    {op : Op} (hop : Exposed op) :
    KeepsAgents b.sVoiceAgentsDataManager (b.dataManager env op).1.sVoiceAgentsDataManager := by
  rcases step_effect env b.state op with hframe | ⟨args, rfl, hadded⟩ | ⟨id, p, rfl, -⟩ |
    ⟨id, p, rfl, -, -, hset⟩
  · exact ⟨fun id p hfind => (hframe.find id).trans hfind, fun id p _ => (hframe.agents p).api⟩
  · obtain ⟨voiceAgent, -, hagents⟩ := hadded.agents
    refine ⟨?_, ?_⟩
    · intro id p hfind
      refine (hadded.find id).trans ?_
      rw [if_neg]
      · exact hfind
      · rintro rfl
        exact absurd (hfind.symm.trans hadded.fresh) (by simp)
    · intro id p hfind
      have hold := AgentStore.alloc_object_of_lt voiceAgent (hwf.lt_next id p hfind)
      simp only [Binding.dataManager, hagents]
      exact congrArg VoiceAgent.mApi hold
  · exact absurd hop not_false
  · simp only [Binding.dataManager, hset]
    exact ⟨fun _ _ hfind => hfind, fun _ _ _ => rfl⟩

theorem move_keepsAgents {env : Environment} {b : Binding} {m : Move} (hm : m.IsExposed)
    (h : MoveWf env b) :
    KeepsAgents b.sVoiceAgentsDataManager (b.move env m).sVoiceAgentsDataManager := by
  cases m with
  | dataManager op => exact dataManager_keepsAgents env h.binding.registry.toAgentsWf hm
  | startListening => exact .refl _
  | messaging op => exact .refl _

theorem KeepsAgents.knowsApi {before after : VoiceAgentsDataManager}
    (h : KeepsAgents before after) {api : String} (hknown : KnowsApi before api) :
    KnowsApi after api := by
  obtain ⟨id, p, hfind, hapi⟩ := hknown
  exact ⟨id, p, h.find id p hfind, (h.api id p hfind).trans hapi⟩

theorem KeepsAgents.grounded {before after : VoiceAgentsDataManager}
    (h : KeepsAgents before after) {May May' : String → Prop} (hmay : ∀ name, May name → May' name)
    {log : Trace} {emission : Emission} (hgrounded : Grounded before May log emission) :
    Grounded after May' log emission := by
  cases emission with
  | ask api verb request result =>
      exact hgrounded.imp (fun hagent => ⟨h.knowsApi hagent.1, hagent.2⟩) id
  | keep api verb result => exact ⟨h.knowsApi hgrounded.1, hgrounded.2⟩
  | create eventName nonNull => exact hmay eventName hgrounded
  | subscribe _ _ _ | publish _ _ _ | tell _ _ => exact hgrounded

/-- All kinds. -/
def allKinds : List Kind :=
  [.question, .launch, .session, .creation, .subscription, .push, .told]

theorem mem_allKinds (kind : Kind) : kind ∈ allKinds := by
  cases kind with
  | _ => simp [allKinds]

/-- There is a channel under the capability's name. -/
def Opened (b : Binding) (capability : CapabilityPtr) : Prop :=
  ∃ channel,
    b.messaging.channel (CapabilitiesFactory.capabilities capability).getName = some channel

/-- The events that there can be: those of registered agents and those of channels. -/
def HasEvent (b : Binding) (eventName : String) : Prop :=
  (∃ id ∈ b.sVoiceAgentsDataManager.mVoiceAgents, IsEventOf id eventName) ∨
    ∃ capability, Opened b capability ∧ eventName ∈ actionsOf capability

/-- A channel that is there stays, and a subscription leaves one. -/
theorem move_opened {env : Environment} {b : Binding} (h : MoveWf env b) (m : Move)
    {capability : CapabilityPtr}
    (hopen : Opened b capability ∨ ∃ request first action,
      m = .messaging (.subscribe request first action) ∧
        (CapabilitiesFactory.capabilities first).getName =
          (CapabilitiesFactory.capabilities capability).getName) :
    Opened (b.move env m) capability := by
  cases m with
  | dataManager op =>
      refine hopen.resolve_right ?_
      rintro ⟨request, first, action, heq, -⟩
      exact absurd heq (by simp)
  | startListening =>
      refine hopen.resolve_right ?_
      rintro ⟨request, first, action, heq, -⟩
      exact absurd heq (by simp)
  | messaging op =>
      have hstep : ∀ name, (b.move env (.messaging op)).messaging.channel name =
          ((Messaging.machine env CapabilitiesFactory.capabilities).next b.messaging op).channel
            name := fun _ => rfl
      unfold Opened
      rw [hstep]
      rcases hopen with ⟨channel, hchannel⟩ | ⟨request, first, action, heq, hname⟩
      · exact ⟨channel, Messaging.channel_run h.afbApi _ h.messaging hchannel [op]⟩
      · obtain rfl := Move.messaging.inj heq
        rcases Messaging.step_effect h.afbApi CapabilitiesFactory.capabilities h.messaging
          (.subscribe request first action) with
          ⟨added, hsame, -, hthere⟩ | ⟨_, first', _, forwarder, hop, -, hmakes⟩
        · rw [hsame]
          exact Option.ne_none_iff_exists'.mp
            (hthere _ (getName_ne_empty capability) hname)
        · obtain ⟨-, rfl, -⟩ := MessagingOp.subscribe.inj hop
          rw [← hname]
          exact ⟨_, hmakes.made⟩

theorem move_hasEvent {env : Environment} {b : Binding} {m : Move} (hm : m.IsExposed)
    (h : MoveWf env b) {eventName : String}
    (hevent : HasEvent b eventName ∨ Creates env b m eventName) :
    HasEvent (b.move env m) eventName := by
  have hkeep := move_keepsAgents hm h
  rcases hevent with (⟨id, hid, hof⟩ | ⟨capability, hopened, hmem⟩) | hcreates
  · obtain ⟨p, hfind⟩ := UnorderedMap.mem_iff_find.mp hid
    exact Or.inl ⟨id, UnorderedMap.mem_iff_find.mpr ⟨p, hkeep.find id p hfind⟩, hof⟩
  · exact Or.inr ⟨capability, move_opened h m (Or.inl hopened), hmem⟩
  · cases m with
    | dataManager op =>
        cases op with
        | addNewVoiceAgent args => exact Or.inl ⟨args.id, hcreates⟩
        | _ => exact absurd hcreates id
    | startListening => exact absurd hcreates id
    | messaging op =>
        cases op with
        | subscribe request capability action =>
            have hopened := move_opened h (.messaging (.subscribe request capability action))
              (Or.inr ⟨request, capability, action, rfl, rfl⟩)
            exact Or.inr ⟨capability, hopened, hcreates.2⟩
        | publish _ _ _ => exact absurd hcreates id

/-- No notification changes the stored requests. -/
theorem deliver_requests (observer : ObserverPtr) (delegate : VRRequestProcessorDelegate)
    (notified : List Notification) :
    (VRAgentsObserver.deliver observer delegate notified).mVRRequests =
      delegate.mVRRequests := by
  refine List.foldlRecOn
    (motive := fun d : VRRequestProcessorDelegate => d.mVRRequests = delegate.mVRRequests)
    notified _ rfl ?_
  intro d hd notification _
  split
  · cases notification.callback with
    | _ => exact hd
  · exact hd

theorem move_requestsKnown {env : Environment} {b : Binding} {m : Move} (hm : m.IsExposed)
    (h : MoveWf env b) (hrequests : RequestsKnown b) : RequestsKnown (b.move env m) := by
  have hkeep := move_keepsAgents hm h
  have hsame : (b.move env m).sVRRequestProcessor.mVRRequests =
      b.sVRRequestProcessor.mVRRequests → RequestsKnown (b.move env m) := by
    intro hstored request hrequest
    rw [hstored] at hrequest
    obtain ⟨id, hfind⟩ := hrequests request hrequest
    exact ⟨id, hkeep.find id _ hfind⟩
  cases m with
  | dataManager op =>
      apply hsame
      exact deliver_requests _ _ _
  | startListening =>
      rcases listen_cases h with ⟨-, heq⟩ | ⟨p, hp, heq⟩
      · apply hsame
        simp only [Binding.move, heq]
      · obtain ⟨id, hfind⟩ := h.default_known hp
        intro request hrequest
        simp only [Binding.move, heq, UnorderedMap.values,
          UnorderedMap.emplace_empty_entries] at hrequest
        obtain rfl := List.mem_singleton.mp hrequest
        exact ⟨id, hfind⟩
  | messaging op => exact hsame rfl

/-- The trace of a reachable binding is written in lawful emissions. -/
theorem Reachable.speaks {env : Environment} {b : Binding} (h : Reachable env b) :
    RequestsKnown b ∧ Speaks env b.sVoiceAgentsDataManager allKinds (HasEvent b) [] b.calls := by
  refine h.move_invariant (I := fun b => RequestsKnown b ∧
    Speaks env b.sVoiceAgentsDataManager allKinds (HasEvent b) [] b.calls) ?_ ?_
  · intro loaded hloaded
    obtain ⟨-, rfl⟩ := CTLP_ONLOAD_eq_some_iff.mp hloaded
    exact ⟨fun request hrequest => absurd hrequest (by simp [VRRequestProcessorDelegate.create]),
      .refl⟩
  · intro b m hm hwf hb
    have hkeep := move_keepsAgents hm hwf
    refine ⟨move_requestsKnown hm hwf hb.1,
      (hb.2.mono ?_).trans ((move_speaks hm hwf hb.1).mono ?_)⟩
    · intro log emission _ hlawful
      exact ⟨hlawful.kind, hkeep.grounded
        (fun _ hevent => move_hasEvent hm hwf (Or.inl hevent)) hlawful.grounded,
        hlawful.answered⟩
    · intro log emission _ hlawful
      exact ⟨mem_allKinds _, hkeep.grounded
        (fun _ hcreates => move_hasEvent hm hwf (Or.inr hcreates)) hlawful.grounded,
        hlawful.answered⟩

end Vshl.Api
