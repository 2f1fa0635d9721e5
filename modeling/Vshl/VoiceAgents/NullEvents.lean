/-
  VoiceAgents/NullEvents.lean --- events that could not be created.

  `createVshlEventsForVoiceAgent` stores what `createEvent` returns without looking at
  it, and what is stored is dereferenced by a subscription and by an incoming event.  So
  a failed creation is seen only much later, and only until the agent is removed.
-/
import Vshl.VoiceAgents.Delivery

set_option autoImplicit false

namespace Vshl.VoiceAgents

open Vshl.Foundation
open Vshl.Interfaces

/-! ## When creating an event failed -/

/-- The agent that an event belongs to is registered. -/
def OwnerRegistered (key : String) (s : State) : Prop :=
  ∃ id ∈ s.manager.mVoiceAgents, IsEventOf id key

/-- The step adds an agent, asks for the event and gets null. -/
def FailsToCreate (env : Environment) (key : String) (s : State) (op : Op) : Prop :=
  ∃ args, op = .addNewVoiceAgent args ∧ .createEvent key false ∈ madeCalls env s op

/-- Creating the event failed when its agent was added, and the agent has been registered
ever since. -/
def CreationFailed (env : Environment) (ops : List Op) (key : String) : Prop :=
  (machine env).Since (OwnerRegistered key) (FailsToCreate env key) .initial ops

/-! ## What the map holds then -/

namespace VoiceAgentEventsHandler

/-- The nulls that creating the events of an agent leaves in the map are those that were
there and those that the calls were answered with. -/
structure NullsCreated (before after : VoiceAgentEventsHandler × Trace) : Prop where
  trace : ∃ added : Trace, after.2 = before.2 ++ added ∧
    ∀ key, after.1.mEventsMap.find key = some none ↔
      before.1.mEventsMap.find key = some none ∨ .createEvent key false ∈ added

theorem NullsCreated.refl (state : VoiceAgentEventsHandler × Trace) : NullsCreated state state :=
  ⟨[], (List.append_nil state.2).symm, by simp⟩

theorem NullsCreated.trans {first second third : VoiceAgentEventsHandler × Trace}
    (h₁ : NullsCreated first second) (h₂ : NullsCreated second third) :
    NullsCreated first third := by
  obtain ⟨added₁, htrace₁, hnulls₁⟩ := h₁.trace
  obtain ⟨added₂, htrace₂, hnulls₂⟩ := h₂.trace
  refine ⟨added₁ ++ added₂, ?_, ?_⟩
  · rw [htrace₂, htrace₁, List.append_assoc]
  · intro key
    rw [hnulls₂, hnulls₁, List.mem_append, or_assoc]

theorem createVshlEvent_nulls (env : Environment) (voiceAgentId eventName : String)
    (state : VoiceAgentEventsHandler × Trace) :
    NullsCreated state (createVshlEvent env voiceAgentId state eventName) := by
  unfold createVshlEvent
  simp only
  split
  · rename_i hguard
    have hnone := UnorderedMap.find_eq_none.mpr hguard.1
    refine ⟨_, rfl, ?_⟩
    intro key
    simp only [UnorderedMap.find_emplace_of_none _ hnone, Environment.doCreateEvent,
      List.mem_singleton, Call.createEvent.injEq]
    by_cases hkey : key = createEventNameWithVAId eventName voiceAgentId
    · subst hkey
      rw [hnone]
      cases env.createEvent state.2 (createEventNameWithVAId eventName voiceAgentId) with
      | false => simp
      | true => simp
    · simp [hkey]
  · exact NullsCreated.refl state

theorem createVshlEventsForVoiceAgent_nulls (env : Environment)
    (handler : VoiceAgentEventsHandler) (calls : Trace) (voiceAgentId : String) :
    NullsCreated (handler, calls)
      (handler.createVshlEventsForVoiceAgent env calls voiceAgentId) := by
  unfold createVshlEventsForVoiceAgent
  refine List.foldlRecOn (motive := NullsCreated (handler, calls)) VSHL_EVENTS _
    (NullsCreated.refl _) ?_
  intro state hstate eventName _
  exact hstate.trans (createVshlEvent_nulls env voiceAgentId eventName state)

end VoiceAgentEventsHandler

/-! ## Steps and runs -/

section

variable {env : Environment} {s : State}

/-- Every event in the map belongs to a registered agent. -/
def EventsOwned (s : State) : Prop :=
  ∀ key ∈ s.manager.mVoiceAgentEventsHandler.mEventsMap, OwnerRegistered key s

theorem eventsOwned_step (hwf : AgentsWf s) (h : EventsOwned s) (op : Op) :
    EventsOwned ((machine env).next s op) := by
  classical
  intro key hkey
  rcases next_effect env s op with hs | ⟨args, -, hs⟩ | ⟨id, p, -, hs⟩ | ⟨id, p, -, -, -, hs⟩
  · rw [hs.events] at hkey
    obtain ⟨id, hid, hof⟩ := h key hkey
    rw [UnorderedMap.mem_iff_find] at hid
    refine ⟨id, UnorderedMap.mem_iff_find.mpr ?_, hof⟩
    rw [hs.find]
    exact hid
  · have hevents := congrArg Prod.fst hs.events
    simp only at hevents
    rw [hevents] at hkey
    rcases (VoiceAgentEventsHandler.createVshlEventsForVoiceAgent_created env _ s.calls
      args.id).keys key hkey with hbefore | hof
    · obtain ⟨id, hid, hof⟩ := h key hbefore
      exact ⟨id, (hs.mem_iff id).mpr (Or.inl hid), hof⟩
    · exact ⟨args.id, (hs.mem_iff args.id).mpr (Or.inr rfl), hof⟩
  · rw [hs.events, hwf.id_eq id p hs.found, UnorderedMap.mem_iff_find] at hkey
    obtain ⟨stored, hfind⟩ := hkey
    rw [VoiceAgentEventsHandler.find_removeVshlEventsForVoiceAgent] at hfind
    split at hfind
    · exact absurd hfind (by simp)
    · rename_i hnot
      obtain ⟨owner, howner, hof⟩ := h key (UnorderedMap.mem_iff_find.mpr ⟨stored, hfind⟩)
      refine ⟨owner, (hs.mem_iff owner).mpr ⟨howner, ?_⟩, hof⟩
      rintro rfl
      exact hnot hof
  · rw [hs] at hkey ⊢
    exact h key hkey

theorem eventsOwned_run (env : Environment) (ops : List Op) :
    EventsOwned ((machine env).run .initial ops) := by
  refine ((machine env).run_invariant (I := fun s => AgentsWf s ∧ EventsOwned s) ?_ ?_ ops).2
  · intro s op hs
    exact ⟨agentsWf_step env s op hs.1, eventsOwned_step hs.1 hs.2 op⟩
  · refine ⟨agentsWf_run env [], ?_⟩
    intro key hkey
    exact absurd hkey (AList.notMem_empty key)

/-- Only adding and removing agents touches the events. -/
theorem events_next (env : Environment) (s : State) {op : Op}
    (hadd : ∀ args, op ≠ .addNewVoiceAgent args) (hremove : ∀ id, op ≠ .removeVoiceAgent id) :
    ((machine env).next s op).manager.mVoiceAgentEventsHandler =
      s.manager.mVoiceAgentEventsHandler := by
  rcases next_effect env s op with hs | ⟨args, hop, -⟩ | ⟨id, p, hop, -⟩ | ⟨id, p, -, -, -, hs⟩
  · exact hs.events
  · exact absurd hop (hadd args)
  · exact absurd hop (hremove id)
  · rw [hs]

/-- After an add the nulls are the old ones and those of its own calls. -/
theorem null_add_iff (env : Environment) (s : State) (args : VoiceAgent.Args) (key : String) :
    ((machine env).next s
        (.addNewVoiceAgent args)).manager.mVoiceAgentEventsHandler.mEventsMap.find key =
        some none ↔
      .createEvent key false ∈ madeCalls env s (.addNewVoiceAgent args) ∨
        s.manager.mVoiceAgentEventsHandler.mEventsMap.find key = some none := by
  rcases addNewVoiceAgent_cases env s args with hadded | hsame
  · obtain ⟨added, hcalls, hnulls⟩ :=
      (VoiceAgentEventsHandler.createVshlEventsForVoiceAgent_nulls env
        s.manager.mVoiceAgentEventsHandler s.calls args.id).trace
    obtain ⟨hevents, htrace⟩ := Prod.ext_iff.mp hadded.events
    simp only at hevents htrace
    have hmade : madeCalls env s (.addNewVoiceAgent args) = added :=
      madeCalls_of_append (htrace.trans hcalls)
    have hfind := hnulls key
    rw [← hevents] at hfind
    rw [hmade, or_comm]
    exact hfind
  · have hnext : (machine env).next s (.addNewVoiceAgent args) = s := hsame
    have hmade : madeCalls env s (.addNewVoiceAgent args) = [] := by
      rw [madeCalls, hnext, List.drop_length]
    rw [hmade, hnext]
    simp

/-- After a removal they are the old ones whose agent is still there. -/
theorem null_remove_iff (hwf : AgentsWf s) {id : String}
    (howned : EventsOwned ((machine env).next s (.removeVoiceAgent id))) (key : String) :
    ((machine env).next s
        (.removeVoiceAgent id)).manager.mVoiceAgentEventsHandler.mEventsMap.find key =
        some none ↔
      OwnerRegistered key ((machine env).next s (.removeVoiceAgent id)) ∧
        s.manager.mVoiceAgentEventsHandler.mEventsMap.find key = some none := by
  classical
  have howner : ((machine env).next s
      (.removeVoiceAgent id)).manager.mVoiceAgentEventsHandler.mEventsMap.find key = some none →
        OwnerRegistered key ((machine env).next s (.removeVoiceAgent id)) :=
    fun hfind => howned key (UnorderedMap.mem_iff_find.mpr ⟨none, hfind⟩)
  rcases removeVoiceAgent_cases env s id with ⟨p, hremoved⟩ | hsame
  · have hfind : ((machine env).next s
        (.removeVoiceAgent id)).manager.mVoiceAgentEventsHandler.mEventsMap.find key =
        if IsEventOf id key then none
        else s.manager.mVoiceAgentEventsHandler.mEventsMap.find key := by
      have hevents := hremoved.events
      rw [hwf.id_eq id p hremoved.found] at hevents
      rw [← VoiceAgentEventsHandler.find_removeVshlEventsForVoiceAgent]
      exact congrArg (fun handler => handler.mEventsMap.find key) hevents
    constructor
    · intro hnull
      refine ⟨howner hnull, ?_⟩
      rw [hfind] at hnull
      split at hnull
      · exact absurd hnull (by simp)
      · exact hnull
    · intro hboth
      obtain ⟨⟨owner, hregistered, hof⟩, hnull⟩ := hboth
      rw [hfind, if_neg]
      · exact hnull
      · intro hgone
        exact ((hremoved.mem_iff owner).mp hregistered).2 (hof.id_unique hgone)
  · have hnext : (machine env).next s (.removeVoiceAgent id) = s := hsame
    rw [hnext] at howner ⊢
    exact ⟨fun h => ⟨howner h, h⟩, fun h => h.2⟩

/-- A null is stored by an add whose `createEvent` failed, and stays as long as the agent
is registered. -/
theorem null_next_iff (hwf : AgentsWf s) {op : Op} (howned : EventsOwned ((machine env).next s op))
    (key : String) :
    ((machine env).next s op).manager.mVoiceAgentEventsHandler.mEventsMap.find key = some none ↔
      OwnerRegistered key ((machine env).next s op) ∧
        (FailsToCreate env key s op ∨
          s.manager.mVoiceAgentEventsHandler.mEventsMap.find key = some none) := by
  have howner : ((machine env).next s op).manager.mVoiceAgentEventsHandler.mEventsMap.find key =
      some none → OwnerRegistered key ((machine env).next s op) :=
    fun hfind => howned key (UnorderedMap.mem_iff_find.mpr ⟨none, hfind⟩)
  by_cases hadd : ∃ args, op = .addNewVoiceAgent args
  · obtain ⟨args, rfl⟩ := hadd
    have hfails : FailsToCreate env key s (.addNewVoiceAgent args) ↔
        .createEvent key false ∈ madeCalls env s (.addNewVoiceAgent args) :=
      ⟨fun ⟨_, _, h⟩ => h, fun h => ⟨args, rfl, h⟩⟩
    have hnull := null_add_iff env s args key
    rw [hfails, ← hnull]
    exact ⟨fun h => ⟨howner h, h⟩, fun h => h.2⟩
  · have hfails : ¬ FailsToCreate env key s op := fun ⟨args, hop, _⟩ => hadd ⟨args, hop⟩
    simp only [hfails, false_or]
    by_cases hremove : ∃ id, op = .removeVoiceAgent id
    · obtain ⟨id, rfl⟩ := hremove
      exact null_remove_iff hwf howned key
    · have hevents := events_next env s (fun args h => hadd ⟨args, h⟩)
        (fun id h => hremove ⟨id, h⟩)
      rw [hevents] at howner ⊢
      exact ⟨fun h => ⟨howner h, h⟩, fun h => h.2⟩

/-- So a null is stored exactly under the names of the events whose creation failed. -/
theorem null_iff_creationFailed (env : Environment) (ops : List Op) (key : String) :
    ((machine env).run .initial ops).manager.mVoiceAgentEventsHandler.mEventsMap.find key =
        some none ↔ CreationFailed env ops key := by
  induction ops using List.reverseRecOn with
  | nil =>
      refine iff_of_false ?_ ?_
      · exact (UnorderedMap.find_empty key).trans_ne (by simp)
      · rintro ⟨before, op, after, hsplit, -⟩
        exact absurd hsplit (by simp)
  | append_singleton ops op ih =>
      have howned := eventsOwned_run env (ops ++ [op])
      rw [CreationFailed, Machine.since_concat, ← CreationFailed, ← ih]
      rw [Machine.run_concat] at howned ⊢
      exact null_next_iff (agentsWf_run env ops) howned key

end

/-! ## When the data manager is safe from them -/

/-- The call asks for an event whose creation failed: it subscribes to it, or it is an
incoming event of its name. -/
def AsksForFailed (env : Environment) (before : List Op) : Op → Prop
  | .subscribeToVshlEventFromVoiceAgent _ eventName voiceAgentId =>
      eventName ∈ VSHL_EVENTS ∧
        CreationFailed env before (createEventNameWithVAId eventName voiceAgentId)
  | .handleIncomingEvent eventName voiceAgentId _ =>
      CreationFailed env before (createEventNameWithVAId eventName voiceAgentId)
  | _ => False

/-- What a call must do after a run: dereference no null, and turn down whatever asks for an
event whose creation failed. -/
structure NullSafe (env : Environment) (before : List Op) (op : Op) : Prop where
  noFault : ∀ fault, ((machine env).output ((machine env).run .initial before) op).result ≠
    .fault fault
  refused : ∀ request eventName voiceAgentId, op = .subscribe request eventName voiceAgentId →
    AsksForFailed env before op →
      ((machine env).output ((machine env).run .initial before) op).result = .bool false
  silent : ∀ eventName voiceAgentId payload,
    op = .handleIncomingEvent eventName voiceAgentId payload → AsksForFailed env before op →
      pushes (madeCalls env ((machine env).run .initial before) op) = []

/-- A subscription ends in a fault exactly if the event is null. -/
theorem subscribe_fault_iff (env : Environment) (before : List Op) (request : RequestPtr)
    (eventName voiceAgentId : String) :
    (∃ fault, ((machine env).output ((machine env).run .initial before)
        (.subscribe request eventName voiceAgentId)).result = .fault fault) ↔
      AsksForFailed env before (.subscribe request eventName voiceAgentId) := by
  have hwf := agentsWf_run env before
  simp only [AsksForFailed, ← null_iff_creationFailed]
  generalize hs : (machine env).run .initial before = s at hwf ⊢
  have howned : EventsOwned s := hs ▸ eventsOwned_run env before
  have hnull : (eventName ∈ VSHL_EVENTS ∧
        s.manager.mVoiceAgentEventsHandler.mEventsMap.find
          (createEventNameWithVAId eventName voiceAgentId) = some none) ↔
      ∃ voiceAgent, s.manager.eventFor eventName voiceAgentId = some (voiceAgent, none) := by
    rw [eventFor_iff hwf.id_eq]
    constructor
    · intro h
      obtain ⟨id, hid, hof⟩ := howned _ (UnorderedMap.mem_iff_find.mpr ⟨none, h.2⟩)
      rw [isEventOf_name_iff h.1] at hof
      exact ⟨hof ▸ hid, h⟩
    · exact fun h => h.2
  have hresult : ((machine env).output s (.subscribe request eventName voiceAgentId)).result =
      .ofExcept (s.manager.subscribeToVshlEventFromVoiceAgent env s.calls request eventName
        voiceAgentId).1 := rfl
  rw [hnull, hresult, VoiceAgentsDataManager.subscribeToVshlEventFromVoiceAgent_eq]
  split
  · rename_i hnone
    simp [hnone, Result.ofExcept]
  · rename_i voiceAgent hfound
    simp [hfound, Result.ofExcept]
  · rename_i voiceAgent event hfound
    simp [hfound, Result.ofExcept]

/-- And so does an incoming event. -/
theorem incoming_fault_iff (env : Environment) (before : List Op)
    (eventName voiceAgentId payload : String) :
    (∃ fault, ((machine env).output ((machine env).run .initial before)
        (.handleIncomingEvent eventName voiceAgentId payload)).result = .fault fault) ↔
      AsksForFailed env before (.handleIncomingEvent eventName voiceAgentId payload) := by
  simp only [AsksForFailed, ← null_iff_creationFailed]
  generalize (machine env).run .initial before = s
  have hresult : ((machine env).output s
      (.handleIncomingEvent eventName voiceAgentId payload)).result =
      .ofExcept (s.manager.mVoiceAgentEventsHandler.onIncomingEvent env s.calls eventName
        voiceAgentId payload).1 := by
    rw [← routeToDataManager_eq]
    rfl
  rw [hresult, VoiceAgentEventsHandler.onIncomingEvent]
  split
  · rename_i hnone
    simp [hnone, Result.ofExcept]
  · rename_i hnull
    simp [hnull, Result.ofExcept]
  · rename_i event hevent
    simp [hevent, Result.ofExcept]

/-- No other call dereferences an event. -/
theorem output_fault_iff (env : Environment) (before : List Op) (op : Op) :
    (∃ fault, ((machine env).output ((machine env).run .initial before) op).result =
        .fault fault) ↔ AsksForFailed env before op := by
  cases op with
  | subscribeToVshlEventFromVoiceAgent request eventName id =>
      exact subscribe_fault_iff env before request eventName id
  | handleIncomingEvent eventName id payload =>
      exact incoming_fault_iff env before eventName id payload
  | _ => exact iff_of_false (by simp [machine, Machine.output, step]) (fun h => h)

/-- A call is safe exactly if it does not ask for an event whose creation failed. -/
theorem nullSafe_iff (env : Environment) (before : List Op) (op : Op) :
    NullSafe env before op ↔ ¬ AsksForFailed env before op := by
  constructor
  · intro hsafe hasks
    obtain ⟨fault, hfault⟩ := (output_fault_iff env before op).mpr hasks
    exact hsafe.noFault fault hfault
  · intro hnot
    refine ⟨?_, ?_, ?_⟩
    · intro fault hfault
      exact hnot ((output_fault_iff env before op).mp ⟨fault, hfault⟩)
    · intro _ _ _ _ hasks
      exact absurd hasks hnot
    · intro _ _ _ _ hasks
      exact absurd hasks hnot

/-- Every call of a run is safe exactly if none of them asks for an event whose creation
failed. -/
theorem null_events_safe_iff (env : Environment) (ops : List Op) :
    (∀ before op after, ops = before ++ op :: after → NullSafe env before op) ↔
      ∀ before op after, ops = before ++ op :: after → ¬ AsksForFailed env before op := by
  simp only [nullSafe_iff]

/-- An agent whose events could not be created is subscribed to. -/
theorem null_event_dereferenced :
    ¬ ∀ (env : Environment) (ops before : List Op) (op : Op) (after : List Op),
      ops = before ++ op :: after → NullSafe env before op := by
  intro h
  have hsafe := h { Environment.obliging with createEvent := fun _ _ => false } _
    [.addNewVoiceAgent (.simple "VA-001" "api")]
    (.subscribe 7 VSHL_EVENT_AUTH_STATE_EVENT "VA-001") [] rfl
  exact hsafe.noFault .nullDereference (by decide)

end Vshl.VoiceAgents
