/-
  Api/Launches.lean --- which applications are launched over a run.

  A capability launches its application when it is told of a certain upstream message.  It
  is told by the channel's forwarder, which tells the capability that the channel was made
  for, and that need not be the one for which the message is published.
-/
import Vshl.Api.EventNames

set_option autoImplicit false

namespace Vshl.Api

open Vshl.Foundation
open Vshl.Interfaces
open Vshl.VoiceAgents
open Vshl.Core
open Vshl.Capabilities

/-! ## What is launched -/

/-- A call that starts or displays an application: the API, the verb and the argument. -/
def launchCall : Call → Option (String × String × Option Json)
  | .callSync api verb request _ =>
      if verb = AppController.START_APP_VERB ∨ verb = AppController.DISPLAY_APP_VERB then
        some (api, verb, request)
      else none
  | _ => none

/-- The launching calls of a trace. -/
def launchCalls (calls : Trace) : List (String × String × Option Json) :=
  calls.filterMap launchCall

theorem launchCalls_append (calls added : Trace) :
    launchCalls (calls ++ added) = launchCalls calls ++ launchCalls added :=
  List.filterMap_append

/-- To launch an application is to start it and to display it. -/
def appCalls (app : App) : List (String × String × Option Json) :=
  let name := some (jsonObjectNewString (app.APP_NAME ++ "@" ++ app.VERSION_NAME))
  [(AppController.START_APP_API, AppController.START_APP_VERB, name),
    (AppController.DISPLAY_APP_API, AppController.DISPLAY_APP_VERB, name)]

/-- The application that the message of an accepted publication launches. -/
def launchedBy (env : Environment) (b : Binding) (verb : Verb) : List App :=
  match verb.publication with
  | some (capability, some json) =>
      match json.find? CAPABILITIES_JSON_ATTR_ACTION with
      | some (.str action) =>
          if (handle env b verb).ret = .ok 0 then
            ((CapabilitiesFactory.capabilities capability).launches action).toList
          else []
      | _ => []
  | _ => []

/-! ## The capability that is told -/

/-- The forwarder was made for a capability of this name; its events are for that capability's
messages. -/
structure ForwardsFor (name : String) (forwarder : SubscriberForwarder) : Prop where
  name_eq : (CapabilitiesFactory.capabilities forwarder.mCapability).getName = name
  upstream : ∀ action ∈ forwarder.mUpstreamEventsMap,
    action ∈ (CapabilitiesFactory.capabilities forwarder.mCapability).getUpstreamMessages
  downstream : ∀ action ∈ forwarder.mDownstreamEventsMap,
    action ∈ (CapabilitiesFactory.capabilities forwarder.mCapability).getDownstreamMessages

/-- Every forwarder is the one of a capability of its channel's name. -/
def Forwards (b : Binding) : Prop :=
  ∀ name forwarder, b.messaging.channel name = some (.around forwarder) →
    ForwardsFor name forwarder

/-- Two capabilities of one name launch the same. -/
theorem launches_of_name {capability capability' : CapabilityPtr}
    (h : (CapabilitiesFactory.capabilities capability).getName =
      (CapabilitiesFactory.capabilities capability').getName) :
    (CapabilitiesFactory.capabilities capability).launches =
      (CapabilitiesFactory.capabilities capability').launches := by
  have hc := mem_allCapabilities capability
  have hc' := mem_allCapabilities capability'
  generalize CapabilitiesFactory.capabilities capability = c at *
  generalize CapabilitiesFactory.capabilities capability' = c' at *
  simp only [allCapabilities, List.mem_cons, List.not_mem_nil, or_false] at hc hc'
  rcases hc with rfl | rfl | rfl
  · rcases hc' with rfl | rfl | rfl
    · rfl
    · exact absurd h (by decide)
    · exact absurd h (by decide)
  · rcases hc' with rfl | rfl | rfl
    · exact absurd h (by decide)
    · rfl
    · exact absurd h (by decide)
  · rcases hc' with rfl | rfl | rfl
    · exact absurd h (by decide)
    · exact absurd h (by decide)
    · rfl

/-- A message that launches an application is not a downstream message. -/
theorem not_downstream_of_launches {capability : CapabilityPtr} {action : String} {app : App}
    (h : (CapabilitiesFactory.capabilities capability).launches action = some app) :
    action ∉ (CapabilitiesFactory.capabilities capability).getDownstreamMessages := by
  have hall : ∀ c ∈ allCapabilities, ∀ action ∈ c.getDownstreamMessages,
      c.launches action = none := by decide
  intro hmem
  exact absurd ((hall _ (mem_allCapabilities capability) action hmem).symm.trans h) (by simp)

/-- Events are created for the names that are asked for. -/
theorem of_mem_createEventsOf {env : Environment} {calls : Trace} {eventNames : List String}
    {eventName : String}
    (h : eventName ∈ (SubscriberForwarder.createEventsOf env calls eventNames).1) :
    eventName ∈ eventNames := by
  unfold SubscriberForwarder.createEventsOf at h
  refine List.foldlRecOn (motive := fun state : EventsMap × Trace =>
    eventName ∈ state.1 → eventName ∈ eventNames) eventNames
    (SubscriberForwarder.createEvent env) ?_ ?_ h
  · exact fun hmem => absurd hmem (AList.notMem_empty eventName)
  · intro state hstate name hname hmem
    unfold SubscriberForwarder.createEvent Environment.doCreateEvent at hmem
    split at hmem
    · cases hnonNull : env.createEvent state.2 name with
      | false =>
          simp only [hnonNull, Bool.false_eq_true, if_false] at hmem
          exact hstate hmem
      | true =>
          simp only [hnonNull, if_true] at hmem
          rcases UnorderedMap.mem_emplace.mp hmem with rfl | hbefore
          · exact hname
          · exact hstate hbefore
    · exact hstate hmem

theorem forwardsFor_create {env : Environment} {calls calls' : Trace}
    {capability : CapabilityPtr} {forwarder : SubscriberForwarder}
    (h : SubscriberForwarder.create env CapabilitiesFactory.capabilities calls capability =
      (some forwarder, calls')) :
    ForwardsFor (CapabilitiesFactory.capabilities capability).getName forwarder := by
  unfold SubscriberForwarder.create at h
  split at h
  · exact absurd (Prod.mk.inj h).1 (by simp)
  · obtain rfl := Option.some.inj (Prod.mk.inj h).1
    exact ⟨rfl, fun _ hmem => of_mem_createEventsOf hmem,
      fun _ hmem => of_mem_createEventsOf hmem⟩

theorem forwards_move {env : Environment} {b : Binding} (h : MoveWf env b)
    (hforwards : Forwards b) (m : Move) : Forwards (b.move env m) := by
  cases m with
  | dataManager op => exact hforwards
  | startListening => exact hforwards
  | messaging op =>
      cases op with
      | publish capability action payload => exact hforwards
      | subscribe request capability action =>
          intro name forwarder hafter
          rcases messaging_subscribe_cases h.afbApi h.messaging request capability action with
            ⟨found, -, hstep⟩ | ⟨made, calls, hchannel, hcreate, -, hstep⟩
          · simp only [Binding.move, Binding.message, hstep] at hafter
            exact hforwards name forwarder hafter
          · have hwith : (b.messaging.withChannel
                  (CapabilitiesFactory.capabilities capability).getName made
                  ((MessageChannel.around made).subscribe env calls request action).2).channel
                    name = some (.around forwarder) := by
              simp only [Binding.move, Binding.message, hstep] at hafter
              exact hafter
            rw [Messaging.channel_withChannel hchannel] at hwith
            split at hwith
            · rename_i heq
              obtain rfl := MessageChannel.around_inj (Option.some.inj hwith)
              rw [heq]
              exact forwardsFor_create hcreate
            · exact hforwards name forwarder hwith

/-! ## What a move launches -/

/-- Only an application's calls launch. -/
theorem launchCalls_spell {position : Nat} {manager : VoiceAgentsDataManager}
    {May : String → Prop} {log : Trace} {emission : Emission} (h : emission.kind ≠ .launch)
    (hgrounded : Grounded manager May log emission) :
    launchCalls (emission.spell position) = [] := by
  have hquiet : ∀ verb ∈ askedVerbs ++ keptVerbs, ¬ (verb = AppController.START_APP_VERB ∨
      verb = AppController.DISPLAY_APP_VERB) := by decide
  cases emission with
  | ask api verb request result =>
      cases request with
      | some argument => exact absurd rfl h
      | none =>
          have hcall : launchCall (.callSync api verb none result) = none := by
            rcases hgrounded with ⟨-, hasked, -⟩ | ⟨_, _, _, -, hrequest, -⟩
            · simp only [launchCall, if_neg (hquiet verb (List.mem_append_left _ hasked))]
            · exact absurd hrequest (by simp)
          have hfree : launchCalls (if result.object then [Call.free position] else []) = [] := by
            split
            · rfl
            · rfl
          exact (List.filterMap_cons_none hcall).trans hfree
  | keep api verb result =>
      have hcall : launchCall (.callSync api verb none result) = none := by
        simp only [launchCall, if_neg (hquiet verb (List.mem_append_right _ hgrounded.2))]
      exact List.filterMap_cons_none hcall
  | create _ _ | subscribe _ _ _ | publish _ _ _ | tell _ _ => rfl

theorem launchCalls_of_kinds {env : Environment} {manager : VoiceAgentsDataManager}
    {kinds : List Kind} {May : String → Prop} {calls calls' : Trace}
    (h : Speaks env manager kinds May calls calls')
    (hkinds : Kind.launch ∉ kinds) : launchCalls calls' = launchCalls calls :=
  speaks_filterMap_eq (fun _ _ _ hkind hgrounded => launchCalls_spell hkind hgrounded) h hkinds

/-- Starting or displaying is one call. -/
theorem launchCalls_callApp {env : Environment} (henv : env.afbApi = true) (calls : Trace)
    {api verb : String}
    (hverb : verb = AppController.START_APP_VERB ∨ verb = AppController.DISPLAY_APP_VERB)
    (name version : String) :
    launchCalls (AppController.callApp env calls api verb name version).2 =
      launchCalls calls ++ [(api, verb, some (jsonObjectNewString (name ++ "@" ++ version)))] := by
  have hspell : ∀ result : CallSyncResult, launchCalls (Emission.spell calls.length
      (.ask api verb (some (jsonObjectNewString (name ++ "@" ++ version))) result)) =
        [(api, verb, some (jsonObjectNewString (name ++ "@" ++ version)))] := by
    intro result
    have hcall : launchCall (.callSync api verb
        (some (jsonObjectNewString (name ++ "@" ++ version))) result) =
          some (api, verb, some (jsonObjectNewString (name ++ "@" ++ version))) := if_pos hverb
    simp only [Emission.spell, launchCalls]
    rw [List.filterMap_cons_some hcall]
    split
    · rfl
    · rfl
  unfold AppController.callApp
  rw [if_neg (by simp [henv])]
  simp only [callSync_free]
  rw [launchCalls_append, hspell]

/-- A capability that is told of a message launches what it launches for it. -/
theorem launchCalls_onMessagePublished {env : Environment} (henv : env.afbApi = true)
    (calls : Trace) (capability : CapabilityPtr) (action : String) :
    launchCalls (onMessagePublished env CapabilitiesFactory.capabilities calls capability action) =
      launchCalls calls ++
        ((CapabilitiesFactory.capabilities capability).launches action).toList.flatMap
          appCalls := by
  have htold : launchCalls (calls ++ [.onMessagePublished capability action]) =
      launchCalls calls := by
    rw [launchCalls_append]
    exact List.append_nil _
  simp only [onMessagePublished, ICapability.react]
  cases (CapabilitiesFactory.capabilities capability).launches action with
  | none => exact htold.trans (List.append_nil _).symm
  | some app =>
      simp only [AppController.startApp, AppController.displayApp]
      rw [launchCalls_callApp henv _ (Or.inr rfl), launchCalls_callApp henv _ (Or.inl rfl), htold,
        List.append_assoc]
      rfl

/-- What is published and accepted launches what it launches for the capability for which it
is published. -/
theorem launchCalls_publish {env : Environment} {b : Binding} (h : MoveWf env b)
    (hforwards : Forwards b) (capability : CapabilityPtr) (action payload : String) :
    let done := Messaging.step env CapabilitiesFactory.capabilities b.messaging
      (.publish capability action payload)
    launchCalls done.1.calls = launchCalls b.calls ++
      (if done.2 = .ok true then
        ((CapabilitiesFactory.capabilities capability).launches action).toList
      else []).flatMap appCalls := by
  intro done
  rcases messaging_publish_cases env h.messaging capability action payload with
    ⟨forwarder, event, hchannel, hresolve, hdone⟩ | ⟨-, hdone⟩
  · have hfor := hforwards _ forwarder hchannel
    have hlaunches := launches_of_name hfor.name_eq
    have hresult : done.2 = .ok true := congrArg Prod.snd hdone
    have hcalls : done.1.calls = forwarder.notified env CapabilitiesFactory.capabilities
        (env.doPublishEvent b.calls event (jsonObjectNewString payload)).2 action :=
      congrArg (fun t => t.1.calls) hdone
    have hpushed : launchCalls
        (env.doPublishEvent b.calls event (jsonObjectNewString payload)).2 =
          launchCalls b.calls := by
      simp only [Environment.doPublishEvent]
      rw [launchCalls_append]
      exact List.append_nil _
    rw [if_pos hresult, hcalls, ← hlaunches, ← hpushed]
    unfold SubscriberForwarder.notified
    split
    · exact launchCalls_onMessagePublished h.afbApi _ _ action
    · -- a downstream message, which launches nothing
      rename_i hup
      have hdown : action ∈ forwarder.mDownstreamEventsMap :=
        (SubscriberForwarder.resolve_isSome_iff.mp ⟨event, hresolve⟩).resolve_left hup
      cases happ : (CapabilitiesFactory.capabilities forwarder.mCapability).launches action with
      | none => exact (List.append_nil _).symm
      | some app =>
          exact absurd (hfor.downstream action hdown) (not_downstream_of_launches happ)
  · have hrefused : done = (b.messaging, .ok false) := hdone
    rw [hrefused, if_neg (by simp)]
    exact (List.append_nil _).symm

/-! ## Every run -/

/-- A request that carries no message is refused, and nothing else happens. -/
theorem capabilityPublish_cases (env : Environment) (capability : CapabilityPtr)
    (info : String) (b : Binding) (eventJ : Option Json) :
    (∃ json action payload, eventJ = some json ∧ CarriesMessage json action payload) ∨
      ((capabilityPublish env capability info b eventJ).binding = b ∧
        (capabilityPublish env capability info b eventJ).ret ≠ .ok 0) := by
  cases eventJ with
  | none => exact Or.inr ⟨rfl, by simp [capabilityPublish, Binding.return]⟩
  | some json =>
      by_cases hmessage : ∃ action payload, CarriesMessage json action payload
      · obtain ⟨action, payload, hcarries⟩ := hmessage
        exact Or.inl ⟨json, action, payload, rfl, hcarries⟩
      · refine Or.inr ?_
        simp only [capabilityPublish]
        split
        · exact ⟨rfl, by simp [Binding.return]⟩
        · rename_i actionJson haction
          split
          · exact ⟨rfl, by simp [Binding.return]⟩
          · rename_i action hstring
            split
            · exact ⟨rfl, by simp [Binding.return]⟩
            · rename_i payloadJson hpayload
              split
              · exact ⟨rfl, by simp [Binding.return]⟩
              · rename_i payload hstring'
                obtain rfl := Json.getString_eq_ok_iff.mp hstring
                obtain rfl := Json.getString_eq_ok_iff.mp hstring'
                exact absurd ⟨action, payload, haction, hpayload⟩ hmessage

/-- A binding in good order, in which these applications were launched. -/
structure LaunchWf (env : Environment) (b : Binding) (apps : List App) : Prop where
  wf : MoveWf env b
  known : RequestsKnown b
  forwards : Forwards b
  launched : launchCalls b.calls = apps.flatMap appCalls

theorem LaunchWf.move {env : Environment} {b : Binding} {apps : List App}
    (h : LaunchWf env b apps) {m : Move} (hm : m.IsExposed)
    (hne : ∀ capability action payload, m ≠ .messaging (.publish capability action payload)) :
    LaunchWf env (b.move env m) apps := by
  have hkinds : Kind.launch ∉ m.kinds := by
    cases m with
    | startListening => simp [Move.kinds]
    | dataManager op =>
        cases op with
        | _ => simp [Move.kinds]
    | messaging op =>
        cases op with
        | subscribe _ _ _ => simp [Move.kinds]
        | publish _ _ _ => exact absurd rfl (hne _ _ _)
  refine ⟨h.wf.move hm, move_requestsKnown hm h.wf h.known,
    forwards_move h.wf h.forwards m, ?_⟩
  rw [launchCalls_of_kinds (move_speaks hm h.wf h.known) hkinds]
  exact h.launched

theorem LaunchWf.publication {env : Environment} {b : Binding} {apps : List App}
    (h : LaunchWf env b apps) {verb : Verb} {capability : CapabilityPtr} {eventJ : Option Json}
    (hverb : verb.publication = some (capability, eventJ)) :
    LaunchWf env (handle env b verb).binding (apps ++ launchedBy env b verb) := by
  obtain ⟨info, hhandle⟩ := handle_publication env b hverb
  rcases capabilityPublish_cases env capability info b eventJ with
    ⟨json, action, payload, rfl, hcarries⟩ | ⟨hsame, hret⟩
  · have hmove := capabilityPublish_of_carries env capability info b hcarries
    have hwf := h.wf.move (m := .messaging (.publish capability action payload)) trivial
    have hknown := move_requestsKnown (m := .messaging (.publish capability action payload))
      trivial h.wf h.known
    have hpublish := launchCalls_publish h.wf h.forwards capability action payload
    have hbinding : (handle env b verb).binding =
        b.move env (.messaging (.publish capability action payload)) := by
      rw [hhandle, hmove]
      simp only
      split
      · rfl
      · rfl
    have hret : (handle env b verb).ret = .ok 0 ↔
        (Messaging.step env CapabilitiesFactory.capabilities b.messaging
          (.publish capability action payload)).2 = .ok true := by
      rw [hhandle, hmove]
      simp only
      split
      · rename_i hok
        exact iff_of_true rfl hok
      · rename_i hrefused
        exact iff_of_false (by simp [Binding.return]) hrefused
    have hlaunched : launchedBy env b verb =
        if (Messaging.step env CapabilitiesFactory.capabilities b.messaging
            (.publish capability action payload)).2 = .ok true then
          ((CapabilitiesFactory.capabilities capability).launches action).toList
        else [] := by
      simp only [launchedBy, hverb, hcarries.action, hret]
    rw [hbinding]
    refine ⟨hwf, hknown, forwards_move h.wf h.forwards _, ?_⟩
    rw [hlaunched, List.flatMap_append, ← h.launched]
    exact hpublish
  · have hnone : launchedBy env b verb = [] := by
      have hfail : (handle env b verb).ret ≠ .ok 0 := by
        rw [hhandle]
        exact hret
      simp only [launchedBy, hverb, if_neg hfail]
      split
      · split
        · rfl
        · rfl
      · rfl
    have hbinding : (handle env b verb).binding = b := by
      rw [hhandle]
      exact hsame
    rw [hnone, List.append_nil, hbinding]
    exact h

theorem LaunchWf.handle {env : Environment} {b : Binding} {apps : List App}
    (h : LaunchWf env b apps) (verb : Verb) :
    LaunchWf env ((machine env).next b verb) (apps ++ launchedBy env b verb) := by
  cases hverb : verb.publication with
  | some publication =>
      obtain ⟨capability, eventJ⟩ := publication
      exact h.publication hverb
  | none =>
      have hnone : launchedBy env b verb = [] := by
        simp only [launchedBy, hverb]
      have hother : ∀ m, verb.Permits m → ∀ capability action payload,
          m ≠ .messaging (.publish capability action payload) := by
        rintro m hm capability action payload rfl
        cases verb with
        | guiMetadataPublish | phonecontrolPublish | navigationPublish =>
            exact absurd hverb (by simp [Verb.publication])
        | cancelListening | enumerateVoiceAgents => exact hm
        | _ => simp [Verb.Permits] at hm
      rw [hnone, List.append_nil]
      refine (handle_performs env b verb).invariant (I := fun b => LaunchWf env b apps) h ?_
      intro b m hm hb
      exact hb.move hm.isExposed (hother m hm)

/-- Over a run, the applications of the accepted messages are started and displayed, one
after the other, and nothing else is. -/
theorem launches_in_order {env : Environment} {loaded : Binding}
    (h : CTLP_ONLOAD env = some loaded) (verbs : List Verb) :
    launchCalls ((machine env).run loaded verbs).calls =
      ((machine env).collect (launchedBy env) loaded verbs).flatMap appCalls := by
  have hloaded : LaunchWf env loaded [] := by
    have hreachable : Reachable env loaded := ⟨loaded, [], h, rfl⟩
    refine ⟨hreachable.moveWf, hreachable.speaks.1, ?_, ?_⟩
    · obtain ⟨-, rfl⟩ := CTLP_ONLOAD_eq_some_iff.mp h
      intro name forwarder hchannel
      exact absurd hchannel ((UnorderedMap.find_empty name).trans_ne (by simp))
    · obtain ⟨-, rfl⟩ := CTLP_ONLOAD_eq_some_iff.mp h
      rfl
  exact ((machine env).collect_simulation (R := LaunchWf env)
    (fun _ _ verb hwf => hwf.handle verb) hloaded verbs).launched

/-- A message before the channel is there is refused and launches nothing, and so does an
accepted one that is not the launching one. -/
theorem launches_in_order_dial :
    let loaded := (CTLP_ONLOAD .obliging).get onload_obliging
    let dial := Verb.phonecontrolPublish (some (dialMessage "5551234"))
    let actions := [.str phonecontrol.PHONECONTROL_DIAL, .str phonecontrol.PHONECONTROL_STOP]
    let stop := Verb.phonecontrolPublish (some (.obj
      [(CAPABILITIES_JSON_ATTR_ACTION, .str phonecontrol.PHONECONTROL_STOP),
        (CAPABILITIES_JSON_ATTR_PAYLOAD, .str "")]))
    let verbs := [dial,
      .phonecontrolSubscribe 7 (some (.obj [(CAPABILITIES_JSON_ATTR_ACTIONS, .arr actions)])),
      dial, stop, dial]
    launchCalls ((machine .obliging).run loaded verbs).calls =
        ((machine .obliging).collect (launchedBy .obliging) loaded verbs).flatMap appCalls ∧
      (machine .obliging).collect (launchedBy .obliging) loaded verbs =
        [phonecontrol.APP, phonecontrol.APP] := by
  intro loaded dial actions stop verbs
  exact ⟨launches_in_order (Option.some_get onload_obliging).symm verbs, by decide⟩

end Vshl.Api
