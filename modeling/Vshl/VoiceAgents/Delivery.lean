/-
  VoiceAgents/Delivery.lean --- which event object a subscription reaches, and which
  incoming events are published on it afterwards.

  The two sides look the event object up independently, by a concatenated name.  They meet
  because the object stays under its name until its agent is removed (`held_step`), and
  because an object is under one name only (`Backed.key_unique`).
-/
import Vshl.VoiceAgents.Registry

set_option autoImplicit false

namespace Vshl.VoiceAgents

open Vshl.Foundation
open Vshl.Interfaces

/-! ## Reading a trace -/

/-- Which event was subscribed to, and for whom. -/
def subscription : Call → Option (EventPtr × RequestPtr)
  | .subscribe event request _ => some (event, request)
  | _ => none

/-- Which event a payload was pushed on. -/
def push : Call → Option (EventPtr × Json)
  | .publishEvent event payload _ => some (event, payload)
  | _ => none

/-- The subscriptions among some calls, in order. -/
def subscriptions (calls : Trace) : List (EventPtr × RequestPtr) := calls.filterMap subscription

/-- Which event accepted a subscription, and for whom. -/
def grant : Call → Option (EventPtr × RequestPtr)
  | .subscribe event request true => some (event, request)
  | _ => none

/-- The subscriptions among some calls that the events accepted, in order. -/
def granted (calls : Trace) : List (EventPtr × RequestPtr) := calls.filterMap grant

theorem subscriptions_append (first second : Trace) :
    subscriptions (first ++ second) = subscriptions first ++ subscriptions second :=
  List.filterMap_append

theorem granted_append (first second : Trace) :
    granted (first ++ second) = granted first ++ granted second :=
  List.filterMap_append

/-- Where nothing was subscribed to, nothing was accepted. -/
theorem granted_of_none {calls : Trace} (h : subscriptions calls = []) : granted calls = [] := by
  unfold subscriptions at h
  unfold granted
  rw [List.filterMap_eq_nil_iff] at h ⊢
  intro call hcall
  have hnone := h call hcall
  cases call with
  | subscribe event request result => exact absurd hnone (by simp [subscription])
  | _ => rfl

/-- The pushes among some calls, in order. -/
def pushes (calls : Trace) : List (EventPtr × Json) := calls.filterMap push

/-- What was pushed on one event. -/
def pushesOn (event : EventPtr) (calls : Trace) : List Json :=
  ((pushes calls).filter fun pushed => pushed.1 = event).map Prod.snd

/-- The calls that one step makes. -/
def madeCalls (env : Environment) (s : State) (op : Op) : Trace :=
  ((machine env).next s op).calls.drop s.calls.length

theorem madeCalls_of_append {env : Environment} {s : State} {op : Op} {added : Trace}
    (h : ((machine env).next s op).calls = s.calls ++ added) : madeCalls env s op = added := by
  rw [madeCalls, h, List.drop_left]

/-! ## One subscription -/

/-- Calling the agent's `subscribe` verb subscribes to no event. -/
theorem callSubscribeVerb_calls (env : Environment) (calls : Trace) (voiceAgent : VoiceAgent) :
    ∃ added : Trace,
      (VoiceAgentEventsHandler.callSubscribeVerb env calls voiceAgent).2 = calls ++ added ∧
        subscriptions added = [] := by
  unfold VoiceAgentEventsHandler.callSubscribeVerb
  split
  · obtain ⟨freed, hfreed, hfree⟩ := free_calls
      (env.doCallSync calls voiceAgent.mApi "subscribe" none).2
      (resultObject calls (env.doCallSync calls voiceAgent.mApi "subscribe" none).1)
    simp only [hfreed]
    refine ⟨_ :: freed, List.append_assoc _ _ _, ?_⟩
    unfold subscriptions
    rw [List.filterMap_eq_nil_iff]
    intro call hcall
    rcases List.mem_cons.mp hcall with rfl | hmem
    · rfl
    · obtain ⟨object, rfl⟩ := hfree call hmem
      rfl
  · exact ⟨[], (List.append_nil calls).symm, rfl⟩

/-- The event object is stored under the name, which is one of the three. -/
structure Held (s : State) (eventName voiceAgentId : String) (event : EventPtr) : Prop where
  name_mem : eventName ∈ VSHL_EVENTS
  find : s.manager.mVoiceAgentEventsHandler.mEventsMap.find
    (createEventNameWithVAId eventName voiceAgentId) = some (some event)

/-- The call that asks for a subscription. -/
abbrev Op.subscribe (request : RequestPtr) (eventName voiceAgentId : String) : Op :=
  .subscribeToVshlEventFromVoiceAgent request eventName voiceAgentId

/-- What a subscription needs: a registered agent, a name in `VSHL_EVENTS` and an event
object under the two. -/
structure Subscribable (manager : VoiceAgentsDataManager) (eventName voiceAgentId : String)
    (event : EventPtr) : Prop where
  registered : voiceAgentId ∈ manager.mVoiceAgents
  name_mem : eventName ∈ VSHL_EVENTS
  find : manager.mVoiceAgentEventsHandler.mEventsMap.find
    (createEventNameWithVAId eventName voiceAgentId) = some (some event)

theorem Subscribable.unique {manager : VoiceAgentsDataManager} {eventName voiceAgentId : String}
    {event event' : EventPtr} (h : Subscribable manager eventName voiceAgentId event)
    (h' : Subscribable manager eventName voiceAgentId event') : event = event' :=
  Option.some.inj (Option.some.inj (h.find.symm.trans h'.find))

/-- An event has one name. -/
theorem Subscribable.name_unique {manager : VoiceAgentsDataManager} {calls : Trace}
    (hbacked : manager.mVoiceAgentEventsHandler.Backed calls) {name name' voiceAgentId : String}
    {event : EventPtr} (h : Subscribable manager name voiceAgentId event)
    (h' : Subscribable manager name' voiceAgentId event) : name = name' := by
  have hkey := hbacked.key_unique h.find h'.find
  exact (eventNameWithVAId_inj (noHash_of_mem_VSHL_EVENTS h.name_mem)
    (noHash_of_mem_VSHL_EVENTS h'.name_mem) hkey).1

/-- What is stored for a subscription, null or not. -/
theorem eventFor_iff {manager : VoiceAgentsDataManager}
    (hnamed : ∀ id p, manager.mVoiceAgents.find id = some p → (manager.agents.object p).mId = id)
    {eventName voiceAgentId : String} {stored : Option EventPtr} :
    (∃ voiceAgent, manager.eventFor eventName voiceAgentId = some (voiceAgent, stored)) ↔
      voiceAgentId ∈ manager.mVoiceAgents ∧ eventName ∈ VSHL_EVENTS ∧
        manager.mVoiceAgentEventsHandler.mEventsMap.find
          (createEventNameWithVAId eventName voiceAgentId) = some stored := by
  unfold VoiceAgentsDataManager.eventFor
  constructor
  · rintro ⟨voiceAgent, h⟩
    cases hagent : manager.mVoiceAgents.find voiceAgentId with
    | none => simp [hagent] at h
    | some p =>
        simp only [hagent, hnamed voiceAgentId p hagent] at h
        split at h
        · rename_i hname
          obtain ⟨found, hfound, hsame⟩ := Option.map_eq_some_iff.mp h
          refine ⟨UnorderedMap.mem_iff_find.mpr ⟨p, hagent⟩, hname, ?_⟩
          rw [hfound, (Prod.mk.inj hsame).2]
        · exact absurd h (by simp)
  · rintro ⟨hregistered, hname, hfind⟩
    obtain ⟨p, hagent⟩ := UnorderedMap.mem_iff_find.mp hregistered
    refine ⟨manager.agents.object p, ?_⟩
    simp only [hagent, hnamed voiceAgentId p hagent, if_pos hname, hfind, Option.map_some]

theorem eventFor_eq_some_iff {manager : VoiceAgentsDataManager}
    (hnamed : ∀ id p, manager.mVoiceAgents.find id = some p → (manager.agents.object p).mId = id)
    {eventName voiceAgentId : String} {event : EventPtr} :
    (∃ voiceAgent, manager.eventFor eventName voiceAgentId = some (voiceAgent, some event)) ↔
      Subscribable manager eventName voiceAgentId event := by
  rw [eventFor_iff hnamed]
  exact ⟨fun h => ⟨h.1, h.2.1, h.2.2⟩, fun h => ⟨h.registered, h.name_mem, h.find⟩⟩

/-- A subscription succeeds exactly if there is an event; what the event answers makes no
difference. -/
theorem subscribe_eq_true_iff {env : Environment} {manager : VoiceAgentsDataManager}
    (hnamed : ∀ id p, manager.mVoiceAgents.find id = some p → (manager.agents.object p).mId = id)
    {calls : Trace} {request : RequestPtr} {eventName voiceAgentId : String} :
    (manager.subscribeToVshlEventFromVoiceAgent env calls request eventName
        voiceAgentId).1 = .ok true ↔
      ∃ event, Subscribable manager eventName voiceAgentId event := by
  simp only [← eventFor_eq_some_iff hnamed,
    VoiceAgentsDataManager.subscribeToVshlEventFromVoiceAgent_eq]
  split
  · rename_i hnone
    simp [hnone]
  · rename_i voiceAgent hnull
    simp [hnull]
  · rename_i voiceAgent event hevent
    simp [hevent]

/-- The calls of a subscription that succeeds. -/
theorem subscribe_of_subscribable {manager : VoiceAgentsDataManager}
    (hnamed : ∀ id p, manager.mVoiceAgents.find id = some p → (manager.agents.object p).mId = id)
    {eventName voiceAgentId : String} {event : EventPtr}
    (h : Subscribable manager eventName voiceAgentId event) (env : Environment) (calls : Trace)
    (request : RequestPtr) :
    ∃ added : Trace,
      manager.subscribeToVshlEventFromVoiceAgent env calls request eventName voiceAgentId =
        (.ok true, calls ++ .subscribe event request (env.subscribe calls event request) :: added) ∧
      subscriptions added = [] := by
  obtain ⟨voiceAgent, hevent⟩ := (eventFor_eq_some_iff hnamed).mpr h
  obtain ⟨added, hadded, hnone⟩ := callSubscribeVerb_calls env
    (env.doSubscribe calls event request).2 voiceAgent
  refine ⟨added, ?_, hnone⟩
  rw [VoiceAgentsDataManager.subscribeToVshlEventFromVoiceAgent_eq, hevent]
  simp only [hadded]
  simp only [Environment.doSubscribe, List.append_assoc, List.singleton_append]

/-- A subscription that succeeds reaches one event object, the one under the name. -/
theorem held_of_subscribe {env : Environment} {s : State} (hwf : AgentsWf s)
    {request : RequestPtr} {eventName voiceAgentId : String}
    (h : ((machine env).output s (.subscribe request eventName voiceAgentId)).result =
      .bool true) :
    ∃ event, Held s eventName voiceAgentId event ∧
      subscriptions (madeCalls env s (.subscribe request eventName voiceAgentId)) =
        [(event, request)] := by
  obtain ⟨event, hevent⟩ :=
    (subscribe_eq_true_iff hwf.id_eq).mp (Result.ofExcept_eq_bool h)
  refine ⟨event, ⟨hevent.name_mem, hevent.find⟩, ?_⟩
  obtain ⟨added, hadded, hnone⟩ := subscribe_of_subscribable hwf.id_eq hevent env s.calls request
  have hcalls : ((machine env).next s (.subscribe request eventName voiceAgentId)).calls =
      s.calls ++ .subscribe event request (env.subscribe s.calls event request) :: added :=
    congrArg Prod.snd hadded
  rw [madeCalls_of_append hcalls, subscriptions, List.filterMap_cons]
  exact congrArg _ hnone

/-- The object stays until its agent is removed. -/
theorem held_step {env : Environment} {s : State} {op : Op} (hwf : AgentsWf s)
    {eventName voiceAgentId : String} {event : EventPtr}
    (hop : op ≠ .removeVoiceAgent voiceAgentId) (h : Held s eventName voiceAgentId event) :
    Held ((machine env).next s op) eventName voiceAgentId event := by
  classical
  refine ⟨h.name_mem, ?_⟩
  rcases next_effect env s op with hs | ⟨args, -, hs⟩ | ⟨id, p, rfl, hs⟩ |
    ⟨id, p, -, -, -, hs⟩
  · rw [hs.events]
    exact h.find
  · have hevents := congrArg Prod.fst hs.events
    simp only at hevents
    rw [hevents]
    exact (VoiceAgentEventsHandler.createVshlEventsForVoiceAgent_created env _ s.calls
      args.id).keeps _ _ h.find
  · rw [hs.events, hwf.id_eq id p hs.found,
      VoiceAgentEventsHandler.find_removeVshlEventsForVoiceAgent, if_neg]
    · exact h.find
    · rw [isEventOf_name_iff h.name_mem]
      intro hid
      exact hop (by rw [hid])
  · rw [hs]
    exact h.find

theorem held_run {env : Environment} {s : State} (hwf : AgentsWf s) {ops : List Op}
    {eventName voiceAgentId : String} {event : EventPtr}
    (hops : Op.removeVoiceAgent voiceAgentId ∉ ops) (h : Held s eventName voiceAgentId event) :
    Held ((machine env).run s ops) eventName voiceAgentId event := by
  refine ((machine env).run_invariant_of_guarded
    (I := fun s => AgentsWf s ∧ Held s eventName voiceAgentId event)
    (G := fun _ op => op ≠ .removeVoiceAgent voiceAgentId) ?_ ⟨hwf, h⟩ ?_).2
  · rintro s op hop ⟨hwf, hheld⟩
    exact ⟨agentsWf_step env s op hwf, held_step hwf hop hheld⟩
  · rw [Machine.guarded_iff_split]
    rintro before op after hsplit rfl
    exact hops (by rw [hsplit]; simp)

/-! ## One incoming event -/

/-- An incoming event makes one push, on the event object under its name, or none. -/
theorem pushes_handleIncomingEvent (env : Environment) (s : State)
    (eventName voiceAgentId payload : String) :
    pushes (madeCalls env s (.handleIncomingEvent eventName voiceAgentId payload)) =
      match s.manager.mVoiceAgentEventsHandler.mEventsMap.find
        (createEventNameWithVAId eventName voiceAgentId) with
      | some (some event) => [(event, jsonObjectNewString payload)]
      | _ => [] := by
  have hcalls : ((machine env).next s
      (.handleIncomingEvent eventName voiceAgentId payload)).calls =
      (s.manager.mVoiceAgentEventsHandler.onIncomingEvent env s.calls eventName voiceAgentId
        payload).2 := by
    simp only [machine, Machine.next, step, routeToDataManager_eq]
  unfold VoiceAgentEventsHandler.onIncomingEvent at hcalls
  split
  · rename_i event hevent
    simp only [hevent] at hcalls
    rw [madeCalls_of_append hcalls]
    rfl
  · rename_i hnone
    cases hevent : s.manager.mVoiceAgentEventsHandler.mEventsMap.find
        (createEventNameWithVAId eventName voiceAgentId) with
    | none =>
        simp only [hevent] at hcalls
        rw [madeCalls_of_append (hcalls.trans (List.append_nil s.calls).symm)]
        rfl
    | some stored =>
        cases stored with
        | none =>
            simp only [hevent] at hcalls
            rw [madeCalls_of_append (hcalls.trans (List.append_nil s.calls).symm)]
            rfl
        | some event => exact absurd hevent (hnone event)

/-- What is pushed on an event object: the payloads of the events of its name. -/
theorem Held.pushesOn {s : State} {eventName voiceAgentId : String} {event : EventPtr}
    (h : Held s eventName voiceAgentId event)
    (hbacked : s.manager.mVoiceAgentEventsHandler.Backed s.calls) (env : Environment)
    {eventName' : String} (hname : eventName' ∈ VSHL_EVENTS) (voiceAgentId' payload : String) :
    pushesOn event (madeCalls env s (.handleIncomingEvent eventName' voiceAgentId' payload)) =
      if eventName' = eventName ∧ voiceAgentId' = voiceAgentId then
        [jsonObjectNewString payload]
      else [] := by
  unfold VoiceAgents.pushesOn
  rw [pushes_handleIncomingEvent]
  split
  · rename_i event' hevent'
    by_cases hsame : event' = event
    · -- one object has one name
      subst hsame
      have hkey := hbacked.key_unique hevent' h.find
      have hparts := eventNameWithVAId_inj (noHash_of_mem_VSHL_EVENTS hname)
        (noHash_of_mem_VSHL_EVENTS h.name_mem) hkey
      rw [if_pos hparts]
      simp
    · rw [if_neg]
      · simp [hsame]
      · rintro ⟨rfl, rfl⟩
        exact hsame (Option.some.inj (Option.some.inj (hevent'.symm.trans h.find)))
  · rename_i hnone
    rw [if_neg]
    · rfl
    · rintro ⟨rfl, rfl⟩
      exact hnone event h.find

/-- An event of an agent that is not registered is pushed on nothing. -/
theorem pushes_of_unregistered {s : State} (hwf : RegistryWf s) (env : Environment)
    {eventName voiceAgentId : String} (hname : '#' ∉ eventName.toList)
    (hid : voiceAgentId ∉ s.manager.mVoiceAgents) (payload : String) :
    pushes (madeCalls env s (.handleIncomingEvent eventName voiceAgentId payload)) = [] := by
  have habsent : createEventNameWithVAId eventName voiceAgentId ∉
      s.manager.mVoiceAgentEventsHandler.mEventsMap := by
    intro hmem
    obtain ⟨owner, howner, name, hmem', hkey⟩ := (hwf.owns _).mp hmem
    obtain ⟨-, hsame⟩ := eventNameWithVAId_inj hname (noHash_of_mem_VSHL_EVENTS hmem') hkey
    rw [hsame] at hid
    exact hid howner
  rw [pushes_handleIncomingEvent, UnorderedMap.find_eq_none.mpr habsent]

/-! ## Delivery over a run -/

/-- The subscription reaches one event object, and until the agent is removed the object
gets the payloads of this event of this agent, each once, and nothing else. -/
def DeliversFrom (env : Environment) (before : List Op) (request : RequestPtr)
    (eventName voiceAgentId : String) : Prop :=
  let op := Op.subscribe request eventName voiceAgentId
  ∃ event, subscriptions (madeCalls env ((machine env).run .initial before) op) =
      [(event, request)] ∧
    ∀ after, Op.removeVoiceAgent voiceAgentId ∉ after →
      ∀ eventName' ∈ VSHL_EVENTS, ∀ voiceAgentId' payload,
        pushesOn event (madeCalls env ((machine env).run .initial (before ++ op :: after))
            (.handleIncomingEvent eventName' voiceAgentId' payload)) =
          if (eventName', voiceAgentId') = (eventName, voiceAgentId) then
            [jsonObjectNewString payload]
          else []

/-- Whatever was subscribed to is delivered, and nothing is pushed for an agent that is not
registered.  The names in `VSHL_EVENTS` have no `#`; an event whose name has one could be
taken for an event of another agent. -/
theorem delivery_correct {env : Environment} (henv : env.afbApi = true) :
    (∀ before request eventName voiceAgentId,
      ((machine env).output ((machine env).run .initial before)
        (.subscribe request eventName voiceAgentId)).result = .bool true →
      DeliversFrom env before request eventName voiceAgentId) ∧
    ∀ ops eventName voiceAgentId payload, '#' ∉ eventName.toList →
      voiceAgentId ∉ ((machine env).run .initial ops).manager.mVoiceAgents →
      pushes (madeCalls env ((machine env).run .initial ops)
        (.handleIncomingEvent eventName voiceAgentId payload)) = [] := by
  constructor
  · intro before request eventName voiceAgentId hsubscribe
    obtain ⟨event, hheld, hone⟩ :=
      held_of_subscribe (registryWf_run henv before).toAgentsWf hsubscribe
    refine ⟨event, hone, ?_⟩
    intro after hafter eventName' hname voiceAgentId' payload
    have hsince : Held ((machine env).run .initial
        (before ++ Op.subscribe request eventName voiceAgentId :: after))
        eventName voiceAgentId event := by
      rw [Machine.run_append]
      refine held_run (registryWf_run henv before).toAgentsWf ?_ hheld
      rw [List.mem_cons, not_or]
      exact ⟨by simp, hafter⟩
    rw [hsince.pushesOn (registryWf_run henv _).backed env hname]
    simp only [Prod.mk.injEq]
  · intro ops eventName voiceAgentId payload hname hid
    exact pushes_of_unregistered (registryWf_run henv ops) env hname hid payload

/-- Two agents whose ids differ by the separator. -/
theorem delivery_correct_separator :
    DeliversFrom .obliging [.addNewVoiceAgent (.simple "VA#1" "api"),
      .addNewVoiceAgent (.simple "1" "api")] 7 VSHL_EVENT_AUTH_STATE_EVENT "VA#1" :=
  (delivery_correct rfl).1 _ 7 _ _ (by decide)

end Vshl.VoiceAgents
