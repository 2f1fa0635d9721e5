/-
  Api/NativeDelivery.lean --- the whole plugin over `AFBApiImpl`: from a client's request to
  the events of the binder.

  The results about handlers speak of event objects; here the objects stand for native events
  that are made late, or never.  A name is what ties the two together, and no name is asked
  for twice.
-/
import Vshl.Afb.NativeEvents
import Vshl.Api.EventNames
import Vshl.Api.Payloads
import Vshl.Api.WellTyped

set_option autoImplicit false

namespace Vshl.Api

open Vshl.Foundation
open Vshl.Interfaces
open Vshl.VoiceAgents
open Vshl.Core
open Vshl.Capabilities
open Vshl.Afb

/-! ## Answered calls -/

/-- The call used an event that was there, and was answered as the outside answers. -/
def AnsweredBy (env : Environment) (before : Trace) : Call → Prop
  | .subscribe event request result =>
      (∃ eventName, before[event]? = some (.createEvent eventName true)) ∧
        result = env.subscribe before event request
  | .publishEvent event payload observers =>
      (∃ eventName, before[event]? = some (.createEvent eventName true)) ∧
        observers = env.publishEvent before event payload
  | _ => True

theorem answered_of_speaks {env : Environment} {manager : VoiceAgentsDataManager}
    {kinds : List Kind} {May : String → Prop} {calls : Trace}
    (h : Speaks env manager kinds May [] calls) {i : Nat} {call : Call}
    (hget : calls[i]? = some call) : AnsweredBy env (calls.take i) call := by
  obtain ⟨log, emission, k, -, hextends, ⟨-, hgrounded, hanswered⟩, rfl, hcall⟩ :=
    h.block_of_entry (Nat.zero_le _) hget
  have hlog : log = calls.take log.length :=
    List.prefix_iff_eq_take.mp ((List.prefix_append _ _).trans hextends)
  cases emission with
  | ask api verb request result =>
      rcases spell_ask_cases hcall with ⟨rfl, rfl⟩ | ⟨rfl, rfl, -⟩
      · trivial
      · trivial
  | subscribe event request result =>
      obtain ⟨rfl, rfl⟩ := one_call hcall
      rw [Nat.add_zero, ← hlog]
      exact ⟨hgrounded, hanswered⟩
  | publish event payload observers =>
      obtain ⟨rfl, rfl⟩ := one_call hcall
      rw [Nat.add_zero, ← hlog]
      exact ⟨hgrounded, hanswered⟩
  | keep _ _ _ | create _ _ | tell _ _ =>
      obtain ⟨rfl, rfl⟩ := one_call hcall
      trivial

/-- Entries that a projection makes something new of are at different places. -/
theorem eq_of_nodup_filterMap {α β : Type} {l : List α} {f : α → Option β}
    (h : (l.filterMap f).Nodup) {i j : Nat} {a a' : α} {b : β} (hi : l[i]? = some a)
    (hj : l[j]? = some a') (ha : f a = some b) (ha' : f a' = some b) : i = j := by
  have hpairs := List.pairwise_filterMap.mp h
  rw [List.pairwise_iff_getElem] at hpairs
  obtain ⟨hilt, rfl⟩ := List.getElem?_eq_some_iff.mp hi
  obtain ⟨hjlt, rfl⟩ := List.getElem?_eq_some_iff.mp hj
  rcases Nat.lt_trichotomy i j with hlt | heq | hgt
  · exact absurd rfl (hpairs i j hilt hjlt hlt b ha b ha')
  · exact heq
  · exact absurd rfl (hpairs j i hjlt hilt hgt b ha' b ha)

/-- Two events of one name are one event. -/
theorem event_unique {b : Binding} (h : NamesWf b) {event event' : EventPtr}
    {eventName : String} {nonNull nonNull' : Bool}
    (hevent : b.calls[event]? = some (.createEvent eventName nonNull))
    (hevent' : b.calls[event']? = some (.createEvent eventName nonNull')) : event = event' :=
  eq_of_nodup_filterMap h.nodup hevent hevent' rfl rfl

/-! ## From a subscription to a push -/

section

variable {native : NativeApi} {binder : Environment} {b : Binding}

/-- The `i`-th call subscribed the client to the event of this name, and the native event that
was made under this name is the one that it was subscribed to. -/
structure Subscribed (native : NativeApi) (calls : Trace) (i : Nat) (eventName : String)
    (request : RequestPtr) (eventHandle : EventHandle) : Prop where
  accepted : ∃ event : EventPtr, calls[i]? = some (.subscribe event request true) ∧
    calls[event]? = some (.createEvent eventName true)
  made : .afbApiMakeEvent (cStr eventName) (some eventHandle) ∈
    nativeCalls native (calls.take (i + 1))
  natively : ∃ checks, nativeCalls native (calls.take (i + 1)) =
    nativeCalls native (calls.take i) ++ checks ++ [.afbReqSubscribe request (some eventHandle) 0]

/-- Between the two, the binder sees one push of the native event and no other call about
events. -/
def PushedOnce (native : NativeApi) (before after : Trace) (eventHandle : EventHandle)
    (payload : String) : Prop :=
  ∃ observers, nativeCalls native after = nativeCalls native before ++
    [.afbEventPush (some eventHandle) (some (jsonObjectNewString payload)) observers]

/-- What an event object stands for, from a subscription on. -/
theorem subscribed_object (hnull : native.NullIsInvalid)
    (h : Reachable (AFBApiImpl.environment native binder) b) {i : Nat} {event : EventPtr}
    {request : RequestPtr} {eventName : String}
    (hget : b.calls[i]? = some (.subscribe event request true))
    (hevent : b.calls[event]? = some (.createEvent eventName true)) :
    ∃ eventHandle found, Subscribed native b.calls i eventName request eventHandle ∧
      (EventObjects.after native b.calls).object event = some found ∧
      found.mAfbEvent = some eventHandle := by
  obtain ⟨hlt, hcall⟩ := List.getElem?_eq_some_iff.mp hget
  obtain ⟨⟨name, hname⟩, htrue⟩ := answered_of_speaks h.speaks.2 hget
  obtain ⟨object, hobject, -⟩ :=
    (EventObjects.stands_after native (b.calls.take i)).there event name true hname
  obtain ⟨eventHandle, checks, found, hfound, hhandle, hcalls⟩ :=
    EventObjects.subscribed_natively binder hnull hobject htrue.symm
  have htake : b.calls.take i ++ [.subscribe event request true] = b.calls.take (i + 1) := by
    rw [← hcall, List.take_append_getElem hlt]
  rw [htake] at hfound hcalls
  -- the object has the name for which the event was created
  obtain ⟨nonNull, hnamed⟩ :=
    (EventObjects.stands_after native (b.calls.take (i + 1))).named event found hfound
  have hthere := getElem?_of_extends (List.take_prefix (i + 1) b.calls) hnamed
  obtain ⟨rfl, -⟩ := Call.createEvent.inj (Option.some.inj (hthere.symm.trans hevent))
  have hmade := (EventObjects.shared_after native (b.calls.take (i + 1))).mine event found
    eventHandle hfound hhandle
  obtain ⟨later, hlater⟩ := List.take_prefix (i + 1) b.calls
  obtain ⟨kept, hkept, hkeeps⟩ := EventObjects.after_object hfound later
  rw [hlater] at hkept
  exact ⟨eventHandle, kept, ⟨⟨event, hget, hevent⟩, hmade, checks, hcalls⟩, hkept,
    hkeeps.handle eventHandle hhandle⟩

/-- What a handler pushes on an event goes to the native event that its object had before. -/
theorem pushed_by_handler {before : Binding}
    (hbefore : Reachable (AFBApiImpl.environment native binder) before) {client : Trace}
    (hgrows : client <+: before.calls) {event : EventPtr} {found : AFBEventImpl}
    (hfound : (EventObjects.after native client).object event = some found)
    {eventHandle : EventHandle} (hhandle : found.mAfbEvent = some eventHandle) {verb : Verb}
    {payload : String} {observers : Int} {quiet : Trace}
    (hcalls : (handle (AFBApiImpl.environment native binder) before verb).binding.calls =
      before.calls ++ [.publishEvent event (jsonObjectNewString payload) observers] ++ quiet)
    (hquiet : ∀ call ∈ quiet, EventObjects.Quiet call) :
    PushedOnce native before.calls
      (handle (AFBApiImpl.environment native binder) before verb).binding.calls eventHandle
      payload := by
  have hafter := hbefore.handle verb
  generalize (handle (AFBApiImpl.environment native binder) before verb).binding = after
    at hafter hcalls ⊢
  obtain ⟨between, hbetween⟩ := hgrows
  obtain ⟨kept, hkept, hkeeps⟩ := EventObjects.after_object hfound between
  rw [hbetween] at hkept
  have hpublished : after.calls[before.calls.length]? =
      some (.publishEvent event (jsonObjectNewString payload) observers) := by
    rw [hcalls]
    simp
  obtain ⟨-, hobservers⟩ := answered_of_speaks hafter.speaks.2 hpublished
  have htake : after.calls.take before.calls.length = before.calls := by
    rw [hcalls, List.append_assoc, List.take_left]
  rw [htake] at hobservers
  refine ⟨observers, ?_⟩
  rw [hcalls, EventObjects.nativeCalls_quiet _ hquiet]
  exact EventObjects.pushed_natively binder hkept (hkeeps.handle eventHandle hhandle) _ hobservers

end

/-! ## From handler to handler -/

/-- What a capability's subscription handler is called with. -/
def Verb.subscription : Verb → Option (CapabilityPtr × RequestPtr × Option Json)
  | .guiMetadataSubscribe request eventJ =>
      some (CapabilitiesFactory.getGuiMetadata, request, eventJ)
  | .phonecontrolSubscribe request eventJ =>
      some (CapabilitiesFactory.getPhoneControl, request, eventJ)
  | .navigationSubscribe request eventJ =>
      some (CapabilitiesFactory.getNavigation, request, eventJ)
  | _ => none

theorem handle_subscription (env : Environment) (b : Binding) {verb : Verb}
    {capability : CapabilityPtr} {request : RequestPtr} {eventJ : Option Json}
    (h : verb.subscription = some (capability, request, eventJ)) :
    ∃ info, handle env b verb = capabilitySubscribe env capability info b request eventJ := by
  cases verb with
  | guiMetadataSubscribe request json =>
      obtain ⟨rfl, rfl, rfl⟩ : _ ∧ _ ∧ _ := by
        simpa only [Verb.subscription, Option.some.injEq, Prod.mk.injEq] using h
      exact ⟨_, rfl⟩
  | phonecontrolSubscribe request json =>
      obtain ⟨rfl, rfl, rfl⟩ : _ ∧ _ ∧ _ := by
        simpa only [Verb.subscription, Option.some.injEq, Prod.mk.injEq] using h
      exact ⟨_, rfl⟩
  | navigationSubscribe request json =>
      obtain ⟨rfl, rfl, rfl⟩ : _ ∧ _ ∧ _ := by
        simpa only [Verb.subscription, Option.some.injEq, Prod.mk.injEq] using h
      exact ⟨_, rfl⟩
  | _ => exact absurd h (by simp [Verb.subscription])

/-- The handler decodes a list with this action from its request and accepts it. -/
structure AcceptsAction (env : Environment) (b : Binding) (verb : Verb) (request : RequestPtr)
    (action : String) : Prop where
  request : ∃ capability json actions,
    verb.subscription = some (capability, request, some json) ∧
      AsksForActions json actions ∧ action ∈ actions
  accepted : (handle env b verb).ret = .ok 0

theorem run_calls (env : Environment) (b : Binding) (verbs : List Verb) :
    b.calls <+: ((machine env).run b verbs).calls :=
  (machine env).run_invariant (I := fun b' => b.calls <+: b'.calls)
    (fun b' verb h => h.trans (handle_acts env b' verb).calls_extend) (List.prefix_refl _) verbs

theorem exists_of_forall₂ {α β : Type} {R : α → β → Prop} {l : List α} {l' : List β}
    (h : List.Forall₂ R l l') {a : α} (ha : a ∈ l) : ∃ b ∈ l', R a b := by
  induction h with
  | nil => exact absurd ha List.not_mem_nil
  | @cons first first' rest rest' hfirst _ ih =>
      rcases List.mem_cons.mp ha with rfl | hrest
      · exact ⟨first', List.mem_cons_self, hfirst⟩
      · obtain ⟨b, hb, hR⟩ := ih hrest
        exact ⟨b, List.mem_cons_of_mem _ hb, hR⟩

theorem grant_eq_some_iff {call : Call} {event : EventPtr} {request : RequestPtr} :
    grant call = some (event, request) ↔ call = .subscribe event request true := by
  constructor
  · intro h
    unfold grant at h
    split at h
    · obtain ⟨rfl, rfl⟩ := Prod.mk.inj (Option.some.inj h)
      rfl
    · exact absurd h (by simp)
  · rintro rfl
    rfl

/-- An accepted action is one to whose event the handler subscribed the client. -/
theorem AcceptsAction.granted {env : Environment} {b : Binding} (hb : Reachable env b)
    {verb : Verb} {request : RequestPtr} {action : String}
    (h : AcceptsAction env b verb request action) :
    ∃ i event : Nat, b.calls.length ≤ i ∧
      (handle env b verb).binding.calls[i]? = some (.subscribe event request true) ∧
        (handle env b verb).binding.calls[event]? =
          some (.createEvent action true) := by
  obtain ⟨capability, json, actions, hverb, hasks, hmem⟩ := h.request
  obtain ⟨info, hhandle⟩ := handle_subscription env b hverb
  have haccepted := h.accepted
  have hwf := (hb.handle verb).messagingWf
  rw [hhandle] at haccepted hwf ⊢
  rcases capabilitySubscribe_cases env capability info b request (some json) with
    ⟨json', actions', hjson, hasks', heq⟩ | ⟨hunasked, -⟩
  · obtain rfl := Option.some.inj hjson
    obtain rfl := hasks.unique hasks'
    rw [heq] at haccepted hwf ⊢
    have htrue : (tryEach (askAction env capability request) b actions).1 = .ok true := by
      rw [← subscribeToActions_eq]
      rcases hloop : subscribeToActions env capability request b actions with
        ⟨fault | (_ | _), b'⟩
      · simp [hloop, answered, Binding.return] at haccepted
      · simp [hloop, answered, Binding.return] at haccepted
      · rfl
    have hall := TryEach.tryEach_eq_true_iff.mp htrue
    obtain ⟨events, added, hevents, hafter, -, hgranted⟩ :=
      after_actions_accepted request capability hb.afbApi hb.messagingWf hall
    have hbinding : (answered (some (.str info))
        (subscribeToActions env capability request b actions)).binding =
          TryEach.after (askAction env capability request) b actions := by
      rw [answered_binding, subscribeToActions_eq, TryEach.tryEach_of_accepted hall]
    rw [hbinding] at hwf ⊢
    obtain ⟨event, hmade, hevent⟩ := exists_of_forall₂ hevents hmem
    have hgrant : (event, request) ∈ VoiceAgents.granted added := by
      rw [hgranted]
      exact List.mem_map.mpr ⟨event, hmade, rfl⟩
    obtain ⟨call, hcall, hsome⟩ := List.mem_filterMap.mp hgrant
    obtain rfl := grant_eq_some_iff.mp hsome
    obtain ⟨i, hi⟩ := List.mem_iff_getElem?.mp hcall
    refine ⟨b.calls.length + i, event, Nat.le_add_right _ _, ?_, ?_⟩
    · rw [hafter, List.getElem?_append_right (Nat.le_add_right _ _), Nat.add_sub_cancel_left]
      exact hi
    · obtain ⟨channel, hchannel, hresolve⟩ := Option.bind_eq_some_iff.mp hevent
      obtain ⟨-, forwarder, rfl⟩ := hwf.around _ channel hchannel
      exact hwf.backed _ forwarder action event hchannel hresolve
  · exact absurd hasks (hunasked json rfl actions)

/-- An accepted message is pushed once, on the event of its action, and what follows does not
concern events. -/
theorem AcceptsMessage.pushed {env : Environment} {b : Binding} (hb : Reachable env b)
    {verb : Verb} {capability : CapabilityPtr} {action payload : String}
    (h : AcceptsMessage env b verb capability action payload) :
    ∃ event observers quiet, b.calls[event]? = some (.createEvent action true) ∧
      (handle env b verb).binding.calls =
        b.calls ++ [.publishEvent event (jsonObjectNewString payload) observers] ++ quiet ∧
      ∀ call ∈ quiet, EventObjects.Quiet call := by
  obtain ⟨hreturned, hcalls⟩ := h.published
  have hwf := hb.messagingWf
  rcases messaging_publish_cases env hwf capability action payload with
    ⟨forwarder, event, hchannel, hresolve, hstep⟩ | ⟨-, hstep⟩
  · obtain ⟨told, htold, hup, hdown⟩ := forwarder.notified_calls env
      CapabilitiesFactory.capabilities
      (env.doPublishEvent b.messaging.calls event (jsonObjectNewString payload)).2 action
    rw [hstep] at hcalls
    simp only [htold] at hcalls
    refine ⟨event, _, told, hwf.backed _ forwarder action event hchannel hresolve, hcalls, ?_⟩
    by_cases hupstream : action ∈ forwarder.mUpstreamEventsMap
    · obtain ⟨launch, rfl, honly⟩ := hup hupstream
      intro call hcall
      rcases List.mem_cons.mp hcall with rfl | hlaunch
      · trivial
      · have hquiet := honly call hlaunch
        cases call with
        | callSync _ _ _ _ | free _ => trivial
        | _ => exact hquiet.elim
    · rw [hdown hupstream]
      simp
  · rw [hstep] at hreturned
    exact absurd hreturned (by simp)

/-- A client whose subscription to an action was accepted is subscribed to one native event, made
under the action's name, on which every message of that action that is accepted later is pushed,
once, whatever comes in between. -/
theorem accepted_message_reaches_client {native : NativeApi} (hnull : native.NullIsInvalid)
    {binder : Environment} {b : Binding}
    (h : Reachable (AFBApiImpl.environment native binder) b) {subscribe : Verb}
    {request : RequestPtr} {action : String}
    (hsubscribe : AcceptsAction (AFBApiImpl.environment native binder) b subscribe request
      action) :
    let env := AFBApiImpl.environment native binder
    let client := (handle env b subscribe).binding
    ∃ i eventHandle, b.calls.length ≤ i ∧
      Subscribed native client.calls i action request eventHandle ∧
      ∀ between publish capability payload,
        AcceptsMessage env ((machine env).run client between) publish capability action payload →
        PushedOnce native ((machine env).run client between).calls
          (handle env ((machine env).run client between) publish).binding.calls eventHandle
          payload := by
  intro env client
  have hclient : Reachable env client := h.handle subscribe
  obtain ⟨i, event, hi, hget, hname⟩ := hsubscribe.granted h
  obtain ⟨eventHandle, found, hsubscribed, hfound, hhandle⟩ :=
    subscribed_object hnull hclient hget hname
  refine ⟨i, eventHandle, hi, hsubscribed, ?_⟩
  intro between publish capability payload hpublish
  have hbefore : Reachable env ((machine env).run client between) := hclient.run between
  have hgrows := run_calls env client between
  obtain ⟨event', observers, quiet, hname', hcalls, hquiet⟩ := hpublish.pushed hbefore
  obtain rfl : event = event' :=
    event_unique hbefore.namesWf (getElem?_of_extends hgrows hname) hname'
  exact pushed_by_handler hbefore hgrows hfound hhandle hcalls hquiet

/-! ## State events -/

/-- The event a state event handler is for, and its argument. -/
def Verb.stateEvent : Verb → Option (String × Option Json)
  | .onAuthStateEvent eventJ => some (VSHL_EVENT_AUTH_STATE_EVENT, eventJ)
  | .onConnectionStateEvent eventJ => some (VSHL_EVENT_CONNECTION_STATE_EVENT, eventJ)
  | .onDialogStateEvent eventJ => some (VSHL_EVENT_DIALOG_STATE_EVENT, eventJ)
  | _ => none

theorem handle_stateEvent (env : Environment) (b : Binding) {verb : Verb} {eventName : String}
    {eventJ : Option Json} (h : verb.stateEvent = some (eventName, eventJ)) :
    eventName ∈ VSHL_EVENTS ∧ handle env b verb = onStateEvent env eventName b eventJ := by
  cases verb with
  | onAuthStateEvent json | onConnectionStateEvent json | onDialogStateEvent json =>
      obtain ⟨rfl, rfl⟩ := Prod.mk.inj (Option.some.inj h)
      exact ⟨by simp [VSHL_EVENTS], rfl⟩
  | _ => exact absurd h (by simp [Verb.stateEvent])

/-- A state event of a registered agent is pushed once, on the event of its name, and nothing
else happens. -/
theorem stateEvent_pushed {native : NativeApi} {binder : Environment} {b : Binding}
    (hb : Reachable (AFBApiImpl.environment native binder) b) {verb : Verb}
    {eventName voiceAgentId : String} {json : Json}
    (hverb : verb.stateEvent = some (eventName, some json))
    (hid : json.find? EVENTS_JSON_ATTR_VA_ID = some (.str voiceAgentId))
    (hregistered : voiceAgentId ∈ b.sVoiceAgentsDataManager.mVoiceAgents) :
    ∃ event observers,
      b.calls[event]? =
          some (.createEvent (createEventNameWithVAId eventName voiceAgentId) true) ∧
        (handle (AFBApiImpl.environment native binder) b verb).binding.calls =
          b.calls ++ [.publishEvent event (jsonObjectNewString (binder.jsonText json))
            observers] := by
  obtain ⟨hname, hhandle⟩ := handle_stateEvent (AFBApiImpl.environment native binder) b hverb
  have hregistry : RegistryWf b.state := hb.wf.registry
  obtain ⟨stored, hfind⟩ : ∃ stored,
      b.sVoiceAgentsDataManager.mVoiceAgentEventsHandler.mEventsMap.find
        (createEventNameWithVAId eventName voiceAgentId) = some stored :=
    UnorderedMap.mem_iff_find.mp
      ((hregistry.owns _).mpr ⟨voiceAgentId, hregistered, eventName, hname, rfl⟩)
  cases stored with
  | none => exact absurd hfind (hb.noNulls (fun _ _ => rfl) _)
  | some event =>
      have hmove : (b.dataManager (AFBApiImpl.environment native binder)
            (.handleIncomingEvent eventName voiceAgentId (binder.jsonText json))).1.calls =
          b.calls ++ [.publishEvent event (jsonObjectNewString (binder.jsonText json))
            ((AFBApiImpl.environment native binder).publishEvent b.calls event
              (jsonObjectNewString (binder.jsonText json)))] := by
        simp only [Binding.dataManager, VoiceAgents.step, Binding.state, routeToDataManager_eq,
          VoiceAgentEventsHandler.onIncomingEvent, hfind]
        rfl
      refine ⟨event, (AFBApiImpl.environment native binder).publishEvent b.calls event
        (jsonObjectNewString (binder.jsonText json)), hregistry.backed _ _ hfind, ?_⟩
      rw [hhandle, ← hmove]
      simp only [onStateEvent, Option.getD_some, hid, Json.getString]
      split
      · rfl
      · rfl

/-- A client that was subscribed to a state event of an agent gets every later one, on the
native event that this subscription was to. -/
theorem state_event_reaches_client {native : NativeApi} (hnull : native.NullIsInvalid)
    {binder : Environment} {b : Binding}
    (h : Reachable (AFBApiImpl.environment native binder) b) {i : Nat} {event : EventPtr}
    {request : RequestPtr} {eventName voiceAgentId : String}
    (hget : b.calls[i]? = some (.subscribe event request true))
    (hevent : b.calls[event]? =
      some (.createEvent (createEventNameWithVAId eventName voiceAgentId) true)) :
    let env := AFBApiImpl.environment native binder
    ∃ eventHandle,
      Subscribed native b.calls i (createEventNameWithVAId eventName voiceAgentId) request
        eventHandle ∧
      ∀ between verb json, verb.stateEvent = some (eventName, some json) →
        json.find? EVENTS_JSON_ATTR_VA_ID = some (.str voiceAgentId) →
        PushedOnce native ((machine env).run b between).calls
          (handle env ((machine env).run b between) verb).binding.calls eventHandle
          (binder.jsonText json) := by
  intro env
  obtain ⟨eventHandle, found, hsubscribed, hfound, hhandle⟩ :=
    subscribed_object hnull h hget hevent
  refine ⟨eventHandle, hsubscribed, ?_⟩
  intro between verb json hverb hid
  have hbefore : Reachable env ((machine env).run b between) := h.run between
  have hgrows := run_calls env b between
  have hthere := getElem?_of_extends hgrows hevent
  obtain ⟨hname, -⟩ := handle_stateEvent env ((machine env).run b between) hverb
  have hregistered : voiceAgentId ∈
      ((machine env).run b between).sVoiceAgentsDataManager.mVoiceAgents := by
    have hmem : createEventNameWithVAId eventName voiceAgentId ∈
        createNames ((machine env).run b between).calls :=
      List.mem_filterMap.mpr ⟨_, List.mem_of_getElem? hthere, rfl⟩
    rcases (hbefore.namesWf.names _).mp hmem with ⟨id, hid', hof⟩ | ⟨capability, -, haction⟩
    · obtain rfl := (isEventOf_name_iff hname).mp hof
      exact hid'
    · exact absurd ⟨eventName, hname, rfl⟩ (not_isEventOf_action haction voiceAgentId)
  obtain ⟨event', observers, hthere', hcalls⟩ :=
    stateEvent_pushed hbefore hverb hid hregistered
  obtain rfl : event = event' := event_unique hbefore.namesWf hthere hthere'
  rw [← List.append_nil (((machine env).run b between).calls ++ _)] at hcalls
  exact pushed_by_handler hbefore hgrows hfound hhandle hcalls (by simp)

/-! ## The binder's events -/

/-- A prefix without a NUL stays. -/
theorem cStr_append {s t : String} (h : '\x00' ∉ s.toList) : cStr (s ++ t) = s ++ cStr t := by
  have hall : ∀ c ∈ s.toList, decide (c ≠ '\x00') = true := by
    intro c hc
    apply decide_eq_true
    rintro rfl
    exact h hc
  rw [← String.toList_inj]
  simp only [cStr, String.toList_append, String.toList_ofList]
  rw [List.takeWhile_append_of_pos hall]

theorem cStr_eventName {eventName : String} (h : eventName ∈ VSHL_EVENTS)
    (voiceAgentId : String) :
    cStr (createEventNameWithVAId eventName voiceAgentId) =
      createEventNameWithVAId eventName (cStr voiceAgentId) := by
  have hall : ∀ name ∈ VSHL_EVENTS, '\x00' ∉ (name ++ "#").toList := by decide
  exact cStr_append (hall eventName h)

theorem cStr_action {capability : CapabilityPtr} {action : String}
    (h : action ∈ actionsOf capability) : cStr action = action := by
  have hall : ∀ c ∈ allCapabilities,
      ∀ action ∈ c.getUpstreamMessages ++ c.getDownstreamMessages,
        '\x00' ∉ action.toList := by decide
  exact cStr_eq_self_iff.mpr (hall _ (mem_allCapabilities capability) action h)

/-- The ids of the registered agents differ, also as C strings. -/
def DistinctIds (b : Binding) : Prop :=
  ∀ id ∈ b.sVoiceAgentsDataManager.mVoiceAgents,
    ∀ id' ∈ b.sVoiceAgentsDataManager.mVoiceAgents, cStr id = cStr id' → id = id'

/-- Then so do the names of all events. -/
theorem eventName_eq {b : Binding} (hids : DistinctIds b) {eventName eventName' : String}
    (h : HasEvent b eventName) (h' : HasEvent b eventName')
    (hsame : cStr eventName = cStr eventName') : eventName = eventName' := by
  rcases h with ⟨id, hid, name, hname, rfl⟩ | ⟨capability, -, haction⟩
  · rcases h' with ⟨id', hid', name', hname', rfl⟩ | ⟨capability', -, haction'⟩
    · rw [cStr_eventName hname, cStr_eventName hname'] at hsame
      obtain ⟨rfl, hcStr⟩ := eventNameWithVAId_inj (noHash_of_mem_VSHL_EVENTS hname)
        (noHash_of_mem_VSHL_EVENTS hname') hsame
      rw [hids id hid id' hid' hcStr]
    · rw [cStr_eventName hname, cStr_action haction'] at hsame
      exact absurd ⟨name, hname, hsame.symm⟩ (not_isEventOf_action haction' (cStr id))
  · rcases h' with ⟨id', hid', name', hname', rfl⟩ | ⟨capability', -, haction'⟩
    · rw [cStr_eventName hname', cStr_action haction] at hsame
      exact absurd ⟨name', hname', hsame⟩ (not_isEventOf_action haction (cStr id'))
    · rw [cStr_action haction, cStr_action haction'] at hsame
      exact hsame

theorem distinctNames {env : Environment} {b : Binding} (h : Reachable env b)
    (hids : DistinctIds b) : EventObjects.DistinctNames b.calls := by
  have hnames := h.namesWf
  have hevent : ∀ (p : EventPtr) eventName nonNull,
      b.calls[p]? = some (.createEvent eventName nonNull) → HasEvent b eventName := by
    intro p eventName nonNull hget
    exact (hnames.names eventName).mp
      (List.mem_filterMap.mpr ⟨_, List.mem_of_getElem? hget, rfl⟩)
  intro p q eventName eventName' nonNull nonNull' hp hq hsame
  obtain rfl := eventName_eq hids (hevent p _ _ hp) (hevent q _ _ hq) hsame
  exact event_unique hnames hp hq

/-- What the binder sees of all events: only what was made is passed on, a null pointer is only
pushed and only right after making the event failed, and each event is made once if no two ids
look the same to the binder. -/
structure NativeDiscipline (b : Binding) (calls : NativeTrace) : Prop where
  passesMade : PassesMade calls
  nullAfterFailure : NullAfterFailure calls
  madeOnce : DistinctIds b → MadeOnce calls

theorem native_discipline {native : NativeApi} (hnull : native.NullIsInvalid)
    {binder : Environment} {b : Binding}
    (h : Reachable (AFBApiImpl.environment native binder) b) :
    NativeDiscipline b (nativeCalls native b.calls) :=
  ⟨(EventObjects.shared_after native b.calls).passesMade,
    EventObjects.nullAfterFailure_after hnull b.calls,
    fun hids => EventObjects.madeOnce_after native (distinctNames h hids)⟩

/-! ## A run over a binder that hesitates -/

theorem hesitant_nullIsInvalid : NativeApi.hesitant.NullIsInvalid := by
  intro calls
  simp [NativeApi.hesitant]

/-- The plugin over a binder that makes no event when it is asked for the first time. -/
def hesitating : Environment := AFBApiImpl.environment .hesitant .obliging

theorem onload_hesitating : (CTLP_ONLOAD hesitating).isSome = true := rfl

/-- The agent is connected. -/
def connectedEvent : Json := .obj [(EVENTS_JSON_ATTR_VA_ID, .str "VA-001")]

def connected : Verb := .onAuthStateEvent (some connectedEvent)

/-- A state event arrives when its native event has not been made yet. -/
def hesitatingRun : Binding :=
  (machine hesitating).run ((CTLP_ONLOAD hesitating).get onload_hesitating)
    [.loadVoiceAgentsConfig (some (encodeAgents [.simple "VA-001" "alexa-api"] "VA-001")),
      connected]

theorem hesitatingRun_reachable : Reachable hesitating hesitatingRun := ⟨_, _, rfl, rfl⟩

/-- The state event is pushed with a null pointer. -/
theorem native_discipline_hesitating :
    NativeDiscipline hesitatingRun (nativeCalls .hesitant hesitatingRun.calls) ∧
      (nativeCalls .hesitant hesitatingRun.calls).length = 2 :=
  ⟨native_discipline hesitant_nullIsInvalid hesitatingRun_reachable, by decide⟩

/-- A request for the dial action. -/
def dialRequest : Json :=
  .obj [(CAPABILITIES_JSON_ATTR_ACTIONS, .arr [.str phonecontrol.PHONECONTROL_DIAL])]

/-- The binding in which a client has subscribed to that action. -/
def hesitatingClient : Binding :=
  (handle hesitating hesitatingRun (.phonecontrolSubscribe 7 (some dialRequest))).binding

theorem hesitating_acceptsAction :
    AcceptsAction hesitating hesitatingRun (.phonecontrolSubscribe 7 (some dialRequest)) 7
      phonecontrol.PHONECONTROL_DIAL :=
  ⟨⟨_, _, [phonecontrol.PHONECONTROL_DIAL], rfl, rfl, by simp⟩, by rfl⟩

theorem hesitating_acceptsMessage :
    AcceptsMessage hesitating ((machine hesitating).run hesitatingClient [connected])
      (.phonecontrolPublish (some (dialMessage "5551234"))) CapabilitiesFactory.getPhoneControl
      phonecontrol.PHONECONTROL_DIAL "5551234" :=
  ⟨⟨_, rfl, rfl, rfl⟩, by decide +kernel⟩

/-- Between the subscription and the call, another native event is made and pushed. -/
theorem accepted_message_reaches_client_dial :
    ∃ i eventHandle, hesitatingRun.calls.length ≤ i ∧
      Subscribed .hesitant hesitatingClient.calls i phonecontrol.PHONECONTROL_DIAL 7
        eventHandle ∧
      PushedOnce .hesitant ((machine hesitating).run hesitatingClient [connected]).calls
        (handle hesitating ((machine hesitating).run hesitatingClient [connected])
          (.phonecontrolPublish (some (dialMessage "5551234")))).binding.calls eventHandle
        "5551234" := by
  obtain ⟨i, eventHandle, hi, hsubscribed, hlater⟩ := accepted_message_reaches_client
    hesitant_nullIsInvalid hesitatingRun_reachable hesitating_acceptsAction
  exact ⟨i, eventHandle, hi, hsubscribed, hlater [connected] _ _ _ hesitating_acceptsMessage⟩

/-- The binding in which a client has subscribed to the state event of the agent. -/
def hesitatingListener : Binding :=
  (handle hesitating hesitatingRun (.subscribe 7 (some authState))).binding

theorem hesitatingListener_subscribed :
    hesitatingListener.calls[5]? = some (.subscribe 0 7 true) := rfl

theorem hesitatingListener_created :
    hesitatingListener.calls[0]? = some (.createEvent
      (createEventNameWithVAId VSHL_EVENT_AUTH_STATE_EVENT "VA-001") true) := rfl

/-- Between the subscription and the state event, another client subscribes to the dial action. -/
theorem state_event_reaches_client_auth :
    ∃ eventHandle,
      Subscribed .hesitant hesitatingListener.calls 5
        (createEventNameWithVAId VSHL_EVENT_AUTH_STATE_EVENT "VA-001") 7 eventHandle ∧
      PushedOnce .hesitant
        ((machine hesitating).run hesitatingListener
          [.phonecontrolSubscribe 8 (some dialRequest)]).calls
        (handle hesitating ((machine hesitating).run hesitatingListener
          [.phonecontrolSubscribe 8 (some dialRequest)]) connected).binding.calls eventHandle
        (hesitating.jsonText connectedEvent) := by
  obtain ⟨eventHandle, hsubscribed, hlater⟩ := state_event_reaches_client hesitant_nullIsInvalid
    (hesitatingRun_reachable.handle _) hesitatingListener_subscribed hesitatingListener_created
  exact ⟨eventHandle, hsubscribed, hlater _ connected connectedEvent rfl rfl⟩

end Vshl.Api
