/-
  Api/Acceptance.lean --- what was accepted once is accepted again.

  Agents, events and channels only ever come to be, and a default is never unset.  So a
  request that has succeeded succeeds whenever it is made again, unless an event of a channel
  refuses the client this time: only the subscriptions to capabilities look at that.
-/
import Vshl.Api.LostEvents
import Vshl.Api.ServiceRefinement

set_option autoImplicit false

namespace Vshl.Api

open Vshl.Foundation
open Vshl.Interfaces
open Vshl.VoiceAgents
open Vshl.Core
open Vshl.Capabilities

/-- The client is told of a success, with or without a value. -/
abbrev Succeeds (done : Done) : Prop := Shows done .accepted

/-! ## What only grows -/

/-- Whatever a request can rely on before is there after. -/
structure Grows (before after : Binding) : Prop where
  registered : ∀ id, id ∈ before.sVoiceAgentsDataManager.mVoiceAgents →
    id ∈ after.sVoiceAgentsDataManager.mVoiceAgents
  subscribable : ∀ eventName id event,
    Subscribable before.sVoiceAgentsDataManager eventName id event →
      Subscribable after.sVoiceAgentsDataManager eventName id event
  default : before.sVoiceAgentsDataManager.mDefaultVoiceAgentId ≠ "" →
    after.sVoiceAgentsDataManager.mDefaultVoiceAgentId ≠ ""
  channel : ∀ name channel, before.messaging.channel name = some channel →
    after.messaging.channel name = some channel

theorem Grows.refl (b : Binding) : Grows b b :=
  ⟨fun _ h => h, fun _ _ _ h => h, id, fun _ _ h => h⟩

theorem Grows.trans {b b' b'' : Binding} (h : Grows b b') (h' : Grows b' b'') : Grows b b'' where
  registered id hid := h'.registered id (h.registered id hid)
  subscribable eventName id event hevent :=
    h'.subscribable eventName id event (h.subscribable eventName id event hevent)
  default hdefault := h'.default (h.default hdefault)
  channel name channel hchannel := h'.channel name channel (h.channel name channel hchannel)

section

variable {env : Environment} {b : Binding}

theorem dataManager_default (env : Environment) (b : Binding) (op : Op)
    (h : b.sVoiceAgentsDataManager.mDefaultVoiceAgentId ≠ "") :
    (b.dataManager env op).1.sVoiceAgentsDataManager.mDefaultVoiceAgentId ≠ "" := by
  simp only [Binding.dataManager]
  rcases step_effect env b.state op with hframe | ⟨args, -, hadded⟩ | ⟨id, p, -, hremoved⟩ |
    ⟨id, p, -, hid, -, hset⟩
  · rw [hframe.default]
    exact h
  · rw [hadded.default]
    exact h
  · rw [hremoved.default]
    exact h
  · rw [hset]
    exact hid

theorem dataManager_grows (env : Environment) (hwf : AgentsWf b.state) {op : Op}
    (hop : Exposed op) : Grows b (b.dataManager env op).1 := by
  have hregistered : ∀ id, id ∈ b.sVoiceAgentsDataManager.mVoiceAgents →
      id ∈ (b.dataManager env op).1.sVoiceAgentsDataManager.mVoiceAgents := by
    intro id hid
    obtain ⟨p, hfind⟩ := UnorderedMap.mem_iff_find.mp hid
    exact UnorderedMap.mem_iff_find.mpr ⟨p, (dataManager_keepsAgents env hwf hop).find id p hfind⟩
  refine ⟨hregistered, ?_, dataManager_default env b op, fun _ _ h => h⟩
  intro eventName id event hevent
  have hremoves : op ≠ .removeVoiceAgent id := by
    rintro rfl
    exact hop
  have hheld : Held ((VoiceAgents.machine env).next b.state op) eventName id event :=
    held_step hwf hremoves ⟨hevent.name_mem, hevent.find⟩
  exact ⟨hregistered id hevent.registered, hevent.name_mem, hheld.find⟩

theorem move_grows (h : MoveWf env b) {m : Move} (hm : m.IsExposed) : Grows b (b.move env m) := by
  cases m with
  | dataManager op => exact dataManager_grows env h.binding.registry.toAgentsWf hm
  | startListening => exact ⟨fun _ h => h, fun _ _ _ h => h, id, fun _ _ h => h⟩
  | messaging op =>
      refine ⟨fun _ h => h, fun _ _ _ h => h, id, ?_⟩
      intro name channel hchannel
      exact Messaging.channel_run h.afbApi _ h.messaging hchannel [op]

theorem run_grows (h : Reachable env b) (later : List Verb) :
    Grows b ((machine env).run b later) := by
  have hstep : ∀ b' verb, MoveWf env b' ∧ Grows b b' →
      MoveWf env (handle env b' verb).binding ∧ Grows b (handle env b' verb).binding := by
    intro b' verb hb'
    refine (handle_performs env b' verb).invariant (I := fun b' => MoveWf env b' ∧ Grows b b')
      hb' ?_
    intro b' m hm hb'
    exact ⟨hb'.1.move hm.isExposed, hb'.2.trans (move_grows hb'.1 hm.isExposed)⟩
  exact ((machine env).run_invariant (I := fun b' => MoveWf env b' ∧ Grows b b') hstep
    ⟨h.moveWf, .refl b⟩ later).2

/-! ## When a request succeeds -/

theorem not_succeeds_of_silent {done : Done} (h : done.reply = none) : ¬ Succeeds done := by
  rintro ⟨⟨response, hreply⟩, -⟩
  exact absurd (h.symm.trans hreply) (by simp)

theorem succeeds_answered_iff {response : Option Json} {done : Except Fault Bool × Binding} :
    Succeeds (answered response done) ↔ done.1 = .ok true := by
  rcases done with ⟨fault | (_ | _), b'⟩
  · exact iff_of_false (not_succeeds_of_silent rfl) (by simp)
  · exact iff_of_false (not_succeeds_of_silent rfl) (by simp)
  · exact iff_of_true ⟨⟨response, rfl⟩, rfl⟩ rfl

theorem onStateEvent_silent (env : Environment) (eventName : String) (b : Binding)
    (eventJ : Option Json) : (onStateEvent env eventName b eventJ).reply = none := by
  simp only [onStateEvent]
  split
  · rfl
  · split
    · rfl
    · split
      · rfl
      · rfl

theorem loadVoiceAgentsConfig_silent (env : Environment) (b : Binding) (argsJ : Option Json) :
    (loadVoiceAgentsConfig env b argsJ).reply = none := by
  unfold loadVoiceAgentsConfig
  split
  · rfl
  · split
    · rfl
    · split
      · rfl
      · unfold loadDefault
        split
        · rfl
        · split
          · rfl
          · rfl

theorem startListening_succeeds_iff (h : MoveWf env b) :
    Succeeds (startListening env b) ↔
      b.sVoiceAgentsDataManager.mDefaultVoiceAgentId ≠ "" := by
  rcases h.binding.agrees with ⟨hunset, hnone⟩ | ⟨p, hfind, hsome⟩
  · refine iff_of_false ?_ (not_not.mpr hunset)
    rw [startListening_of_none env hnone]
    rintro ⟨⟨response, hreply⟩, -⟩
    exact absurd hreply (by simp)
  · obtain ⟨hstarted, -, -⟩ := started_of_some h.afbApi hsome
    rw [startListening_of_ne hstarted]
    exact iff_of_true ⟨⟨_, rfl⟩, rfl⟩ (h.binding.registry.id_ne _ p hfind)

/-- The answer is the data manager's. -/
theorem setDefaultVoiceAgent_succeeds_iff (h : MoveWf env b) (eventJ : Option Json) :
    Succeeds (setDefaultVoiceAgent env b eventJ) ↔
      ∃ json id, eventJ = some json ∧ json.find? VA_JSON_ATTR_ID = some (.str id) ∧
        id ∈ b.sVoiceAgentsDataManager.mVoiceAgents := by
  cases eventJ with
  | none => exact iff_of_false (not_succeeds_of_silent rfl) (by simp)
  | some json =>
      simp only [Option.some.injEq, exists_and_left, exists_eq_left']
      cases hmember : json.find? VA_JSON_ATTR_ID with
      | none =>
          refine iff_of_false ?_ (by simp)
          simp only [setDefaultVoiceAgent, hmember]
          exact not_succeeds_of_silent rfl
      | some idJson =>
          cases hget : idJson.getString with
          | error fault =>
              refine iff_of_false ?_ ?_
              · simp only [setDefaultVoiceAgent, hmember, hget]
                exact not_succeeds_of_silent rfl
              · rintro ⟨id, hid, -⟩
                obtain rfl := Option.some.inj hid
                exact absurd hget (by simp [Json.getString])
          | ok id =>
              obtain rfl := Json.getString_eq_ok_iff.mp hget
              have hresult := setDefault_result env h.binding id
              simp only [Option.some.injEq, Json.str.injEq, exists_eq_left', ←
                service_agents_isSome]
              simp only [setDefaultVoiceAgent, hmember, Json.getString, hresult]
              cases hknown : (b.service.agents id).isSome with
              | true => exact iff_of_true ⟨⟨none, rfl⟩, rfl⟩ rfl
              | false => exact iff_of_false (not_succeeds_of_silent rfl) (by simp)

/-- The agent has each of the events that the request names. -/
theorem subscribe_succeeds_iff (h : Reachable env b) (request : RequestPtr)
    (eventJ : Option Json) :
    Succeeds (subscribe env b request eventJ) ↔
      ∃ json voiceAgentId events, eventJ = some json ∧ AsksForEvents json voiceAgentId events ∧
        ∀ name ∈ events, ∃ event,
          Subscribable b.sVoiceAgentsDataManager name voiceAgentId event := by
  rcases subscribe_cases env b request eventJ with
    ⟨json, voiceAgentId, events, rfl, hasks, heq⟩ | ⟨hunasked, ret, heq⟩
  · have hloop := accepted_iff_subscribable env (subscribed_named env h.wf) request voiceAgentId
      rfl events
    simp only [subscribable_subscribed] at hloop
    rw [heq, succeeds_answered_iff, subscribeToEvents_eq, TryEach.tryEach_eq_true_iff, hloop]
    constructor
    · exact fun hall => ⟨json, voiceAgentId, events, rfl, hasks, hall⟩
    · rintro ⟨json', voiceAgentId', events', hjson, hasks', hall⟩
      obtain rfl := Option.some.inj hjson
      obtain ⟨rfl, rfl⟩ := hasks.unique hasks'
      exact hall
  · rw [heq]
    refine iff_of_false (not_succeeds_of_silent rfl) ?_
    rintro ⟨json, voiceAgentId, events, hjson, hasks, -⟩
    exact hunasked json hjson voiceAgentId events hasks

end

/-! ## Capabilities -/

section

variable {env : Environment} {b : Binding}

/-- An action keeps its event. -/
theorem Grows.eventOf {b' : Binding} (h : Grows b b') {capability : CapabilityPtr}
    {action : String} {event : EventPtr}
    (hevent : eventOf b.messaging capability action = some event) :
    eventOf b'.messaging capability action = some event := by
  obtain ⟨channel, hchannel, hresolve⟩ := Option.bind_eq_some_iff.mp hevent
  exact Option.bind_eq_some_iff.mpr ⟨channel, h.channel _ channel hchannel, hresolve⟩

theorem channel_of_eventOf (hwf : b.messaging.Wf) {capability : CapabilityPtr} {action : String}
    {event : EventPtr} (h : eventOf b.messaging capability action = some event) :
    ∃ forwarder, b.messaging.channel (CapabilitiesFactory.capabilities capability).getName =
      some (.around forwarder) ∧ forwarder.resolve action = some event := by
  obtain ⟨channel, hchannel, hresolve⟩ := Option.bind_eq_some_iff.mp h
  obtain ⟨-, forwarder, rfl⟩ := hwf.around _ channel hchannel
  exact ⟨forwarder, hchannel, hresolve⟩

/-- A message is accepted exactly if there is an event for its action. -/
theorem publish_accepted_iff (env : Environment) (hwf : b.messaging.Wf)
    (capability : CapabilityPtr) (action payload : String) :
    (Messaging.step env CapabilitiesFactory.capabilities b.messaging
        (.publish capability action payload)).2 = .ok true ↔
      ∃ event, eventOf b.messaging capability action = some event := by
  rcases messaging_publish_cases env hwf capability action payload with
    ⟨forwarder, event, hchannel, hresolve, hstep⟩ | ⟨hnone, hstep⟩
  · refine iff_of_true (congrArg Prod.snd hstep) ⟨event, ?_⟩
    rw [eventOf_of_channel capability action hchannel]
    exact hresolve
  · refine iff_of_false ?_ ?_
    · rw [hstep]
      simp
    · rintro ⟨event, hevent⟩
      obtain ⟨forwarder, hchannel, hresolve⟩ := channel_of_eventOf hwf hevent
      exact absurd ((hnone forwarder hchannel).symm.trans hresolve) (by simp)

theorem capabilityPublish_succeeds_iff (hwf : b.messaging.Wf) (capability : CapabilityPtr)
    (info : String) {json : Json} {action payload : String}
    (hcarries : CarriesMessage json action payload) :
    Succeeds (capabilityPublish env capability info b (some json)) ↔
      ∃ event, eventOf b.messaging capability action = some event := by
  rw [← publish_accepted_iff env hwf capability action payload,
    capabilityPublish_of_carries env capability info b hcarries]
  simp only
  split
  · rename_i htrue
    exact iff_of_true ⟨⟨_, rfl⟩, rfl⟩ htrue
  · rename_i hrefused
    exact iff_of_false (not_succeeds_of_silent rfl) hrefused

theorem capabilityPublish_again (hwf : b.messaging.Wf) {capability : CapabilityPtr}
    {info : String} {eventJ : Option Json}
    (hsucceeds : Succeeds (capabilityPublish env capability info b eventJ))
    {b' : Binding} (hwf' : b'.messaging.Wf) (hgrows : Grows b b') :
    Succeeds (capabilityPublish env capability info b' eventJ) := by
  rcases capabilityPublish_cases env capability info b eventJ with
    ⟨json, action, payload, rfl, hcarries⟩ | ⟨-, hret⟩
  · rw [capabilityPublish_succeeds_iff hwf capability info hcarries] at hsucceeds
    rw [capabilityPublish_succeeds_iff hwf' capability info hcarries]
    obtain ⟨event, hevent⟩ := hsucceeds
    exact ⟨event, hgrows.eventOf hevent⟩
  · exact absurd hsucceeds.2 hret

/-- A round for an action that has an event asks that event. -/
theorem askAction_of_event (env : Environment) (hwf : b.messaging.Wf) (request : RequestPtr)
    {capability : CapabilityPtr} {action : String} {event : EventPtr}
    (h : eventOf b.messaging capability action = some event) :
    askAction env capability request b action =
      (.ok (env.subscribe b.calls event request),
        { b with
          calls := b.calls ++ [.subscribe event request (env.subscribe b.calls event request)] })
        := by
  obtain ⟨forwarder, hchannel, hresolve⟩ := channel_of_eventOf hwf h
  unfold askAction
  rw [Messaging.subscribe_found env CapabilitiesFactory.capabilities request action
    (getName_ne_empty capability) hchannel, Messaging.channel_subscribe, hresolve]
  rfl

/-- The calls of a handler that an event has refused: the events before it have accepted. -/
def EndsRefused (request : RequestPtr) (before after : Trace) : Prop :=
  ∃ (accepted : Trace) (event : EventPtr),
    after = before ++ accepted ++ [.subscribe event request false] ∧
      ∀ call ∈ accepted, ∃ event, call = .subscribe event request true

/-- The loop over actions that all have events. -/
theorem subscribing_again (env : Environment) (hwf : b.messaging.Wf) (request : RequestPtr)
    (capability : CapabilityPtr) {actions : List String}
    (hall : ∀ action ∈ actions, ∃ event, eventOf b.messaging capability action = some event) :
    (tryEach (askAction env capability request) b actions).1 = .ok true ∨
      EndsRefused request b.calls (tryEach (askAction env capability request) b actions).2.calls
        := by
  induction actions generalizing b with
  | nil => exact Or.inl rfl
  | cons action rest ih =>
      obtain ⟨event, hevent⟩ := hall action List.mem_cons_self
      have hround := askAction_of_event env hwf request hevent
      cases hanswer : env.subscribe b.calls event request with
      | false =>
          rw [hanswer] at hround
          rw [TryEach.tryEach_cons_of_ne (by rw [hround]; simp), hround]
          exact Or.inr ⟨[], event, by rw [List.append_nil], by simp⟩
      | true =>
          rw [hanswer] at hround
          rw [TryEach.tryEach_cons_of_true (by rw [hround]), hround]
          have hnext : Messaging.Wf (Binding.messaging
              { b with calls := b.calls ++ [.subscribe event request true] }) := hwf.ofCalls _
          rcases ih hnext (fun other hother => hall other (List.mem_cons_of_mem action hother)) with
            htrue | ⟨accepted, refused, hcalls, honly⟩
          · exact Or.inl htrue
          · refine Or.inr ⟨.subscribe event request true :: accepted, refused, ?_, ?_⟩
            · rw [hcalls]
              simp only [List.append_assoc, List.cons_append, List.nil_append]
            · intro call hcall
              rcases List.mem_cons.mp hcall with rfl | hmem
              · exact ⟨event, rfl⟩
              · exact honly call hmem

/-- A list that was accepted left an event for each of its actions. -/
theorem eventOf_of_accepted (h : MoveWf env b) {request : RequestPtr}
    {capability : CapabilityPtr} {actions : List String}
    (htrue : (tryEach (askAction env capability request) b actions).1 = .ok true) :
    ∀ action ∈ actions, ∃ event,
      eventOf (tryEach (askAction env capability request) b actions).2.messaging capability
        action = some event := by
  have hall := TryEach.tryEach_eq_true_iff.mp htrue
  obtain ⟨events, -, hevents, -, -, -⟩ :=
    after_actions_accepted request capability h.afbApi h.messaging hall
  rw [TryEach.tryEach_of_accepted hall]
  intro action haction
  obtain ⟨event, -, hevent⟩ := exists_of_forall₂ hevents haction
  exact ⟨event, hevent⟩

theorem capabilitySubscribe_again (h : MoveWf env b) {capability : CapabilityPtr} {info : String}
    {request : RequestPtr} {eventJ : Option Json}
    (hsucceeds : Succeeds (capabilitySubscribe env capability info b request eventJ))
    {b' : Binding} (hwf : b'.messaging.Wf)
    (hgrows : Grows (capabilitySubscribe env capability info b request eventJ).binding b') :
    Succeeds (capabilitySubscribe env capability info b' request eventJ) ∨
      EndsRefused request b'.calls
        (capabilitySubscribe env capability info b' request eventJ).binding.calls := by
  rcases capabilitySubscribe_cases env capability info b request eventJ with
    ⟨json, actions, rfl, hasks, heq⟩ | ⟨-, ret, heq⟩
  · rw [heq, subscribeToActions_eq] at hsucceeds hgrows
    rw [answered_binding] at hgrows
    have hevents := eventOf_of_accepted h (succeeds_answered_iff.mp hsucceeds)
    have hagain := subscribing_again env hwf request capability fun action haction => by
      obtain ⟨event, hevent⟩ := hevents action haction
      exact ⟨event, hgrows.eventOf hevent⟩
    rcases capabilitySubscribe_cases env capability info b' request (some json) with
      ⟨json', actions', hjson, hasks', heq'⟩ | ⟨hunasked, -⟩
    · obtain rfl := Option.some.inj hjson
      obtain rfl := hasks.unique hasks'
      rw [heq', succeeds_answered_iff, answered_binding, subscribeToActions_eq]
      exact hagain
    · exact absurd hasks (hunasked json rfl actions)
  · rw [heq] at hsucceeds
    exact absurd hsucceeds (not_succeeds_of_silent rfl)

end

/-! ## Requests made again -/

/-- An event of the capability has refused the client. -/
def RefusedByEvent (env : Environment) (b : Binding) (verb : Verb) : Prop :=
  ∃ capability request eventJ, verb.subscription = some (capability, request, eventJ) ∧
    EndsRefused request b.calls (handle env b verb).binding.calls

/-- A request that has succeeded succeeds whenever it is made again, unless it is the
subscription to a capability and an event refuses the client this time. -/
theorem accepted_stays_accepted {env : Environment} {b : Binding} (h : Reachable env b)
    {verb : Verb} (hsucceeds : Succeeds (handle env b verb)) (later : List Verb) :
    let b' := (machine env).run b (verb :: later)
    Succeeds (handle env b' verb) ∨ RefusedByEvent env b' verb := by
  intro b'
  have hb' : Reachable env b' := h.run (verb :: later)
  have hgrows : Grows b b' := run_grows h (verb :: later)
  have hafter : Grows (handle env b verb).binding b' := run_grows (h.handle verb) later
  cases verb with
  | startListening =>
      have hset := (startListening_succeeds_iff h.moveWf).mp hsucceeds
      exact Or.inl ((startListening_succeeds_iff hb'.moveWf).mpr (hgrows.default hset))
  | enumerateVoiceAgents => exact Or.inl ⟨⟨_, rfl⟩, rfl⟩
  | subscribe request eventJ =>
      obtain ⟨json, voiceAgentId, events, hjson, hasks, hall⟩ :=
        (subscribe_succeeds_iff h request eventJ).mp hsucceeds
      refine Or.inl ((subscribe_succeeds_iff hb' request eventJ).mpr
        ⟨json, voiceAgentId, events, hjson, hasks, ?_⟩)
      intro name hname
      obtain ⟨event, hevent⟩ := hall name hname
      exact ⟨event, hgrows.subscribable _ _ _ hevent⟩
  | setDefaultVoiceAgent eventJ =>
      obtain ⟨json, id, hjson, hid, hknown⟩ :=
        (setDefaultVoiceAgent_succeeds_iff h.moveWf eventJ).mp hsucceeds
      exact Or.inl ((setDefaultVoiceAgent_succeeds_iff hb'.moveWf eventJ).mpr
        ⟨json, id, hjson, hid, hgrows.registered id hknown⟩)
  | guiMetadataSubscribe request eventJ | phonecontrolSubscribe request eventJ
  | navigationSubscribe request eventJ =>
      refine (capabilitySubscribe_again h.moveWf hsucceeds hb'.messagingWf hafter).imp id ?_
      exact fun hrefused => ⟨_, request, eventJ, rfl, hrefused⟩
  | guiMetadataPublish eventJ | phonecontrolPublish eventJ | navigationPublish eventJ =>
      exact Or.inl (capabilityPublish_again h.messagingWf hsucceeds hb'.messagingWf hgrows)
  | onAuthStateEvent eventJ | onConnectionStateEvent eventJ | onDialogStateEvent eventJ =>
      exact absurd hsucceeds (not_succeeds_of_silent (onStateEvent_silent env _ b eventJ))
  | loadVoiceAgentsConfig argsJ =>
      exact absurd hsucceeds (not_succeeds_of_silent (loadVoiceAgentsConfig_silent env b argsJ))
  | cancelListening => exact absurd hsucceeds (not_succeeds_of_silent rfl)
  | rehash voiceAgents observers => exact absurd hsucceeds (not_succeeds_of_silent rfl)

/-- An outside in which the events accept one client in all. -/
def fickle : Environment :=
  { Environment.obliging with subscribe := fun calls _ _ => (granted calls).isEmpty }

theorem onload_fickle : (CTLP_ONLOAD fickle).isSome = true := rfl

def fickleLoaded : Binding := (CTLP_ONLOAD fickle).get onload_fickle

/-- A client subscribes to the dial action. -/
def subscribeToDial : Verb := .phonecontrolSubscribe 7 (some dialRequest)

/-- The second time the event refuses. -/
theorem accepted_stays_accepted_refused :
    let b' := (machine fickle).run fickleLoaded [subscribeToDial, .enumerateVoiceAgents]
    (Succeeds (handle fickle b' subscribeToDial) ∨ RefusedByEvent fickle b' subscribeToDial) ∧
      (handle fickle b' subscribeToDial).reply.isNone = true := by
  have hreachable : Reachable fickle fickleLoaded := ⟨_, [], rfl, rfl⟩
  have hsucceeds : Succeeds (handle fickle fickleLoaded subscribeToDial) := ⟨⟨_, rfl⟩, rfl⟩
  exact ⟨accepted_stays_accepted hreachable hsucceeds [.enumerateVoiceAgents], by decide +kernel⟩

end Vshl.Api
