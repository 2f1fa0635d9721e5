/-
  VoiceAgents/Runs.lean --- a `VoiceAgentsDataManager` as a machine, and what a step
  of it can do.

  An input is a call of a public method, or an event that reaches the data
  manager's filter through a router that has no other filter.  Between two calls
  the unordered containers may be found in any iteration order (`Op.rehash`).
-/
import Vshl.Foundation.Machine
import Vshl.Utilities.EventRouter
import Vshl.VoiceAgents.DataManager
import Mathlib.Data.List.Perm.Basic

set_option autoImplicit false

namespace Vshl.VoiceAgents

open Vshl.Foundation
open Vshl.Interfaces
open Vshl.Utilities

/-- A data manager and the calls made to the outside so far. -/
structure State where
  manager : VoiceAgentsDataManager
  calls : Trace

/-- Before the first call. -/
def State.initial : State := ⟨.create, []⟩

/-- One call. -/
inductive Op where
  | addNewVoiceAgent (args : VoiceAgent.Args)
  | removeVoiceAgent (voiceAgentId : String)
  | setDefaultVoiceAgent (voiceAgentId : String)
  | activateVoiceAgents (voiceAgentIds : UnorderedSet String)
  | deactivateVoiceAgents (voiceAgentIds : UnorderedSet String)
  | setActiveWakeWord (voiceAgentId wakeword : String)
  | subscribeToVshlEventFromVoiceAgent (request : RequestPtr) (eventName voiceAgentId : String)
  | startNewSubscriptionProcess
  | addVoiceAgentsChangeObserver (observer : Option ObserverPtr)
  | removeVoiceAgentsChangeObserver (observer : Option ObserverPtr)
  | handleIncomingEvent (eventName voiceAgentId payload : String)
  | rehash (voiceAgents : UnorderedMap String AgentPtr) (observers : UnorderedSet ObserverPtr)

/-- What a call returns.  A count is a `uint32_t` in the source and has no bound here; the two
are the same number as long as fewer than 2^32 agents are registered. -/
inductive Result where
  | void
  | bool (b : Bool)
  | count (n : Nat)
  | fault (f : Fault)
  deriving DecidableEq, Repr

/-- The result of a method that returns a `bool` or ends in a fault. -/
def Result.ofExcept : Except Fault Bool → Result
  | .ok b => .bool b
  | .error f => .fault f

theorem Result.ofExcept_eq_bool {returned : Except Fault Bool} {b : Bool}
    (h : Result.ofExcept returned = .bool b) : returned = .ok b := by
  cases returned with
  | error fault => exact absurd h (by simp [Result.ofExcept])
  | ok done => exact congrArg Except.ok (Result.bool.inj h)

/-- What the caller and the observers see of a call. -/
structure Output where
  notified : List Notification
  result : Result

/-- The address of the data manager's event filter. -/
def eventFilter : FilterPtr := 0

/-- A router whose only filter is the data manager's. -/
def routerOfDataManager : EventRouter :=
  (EventRouter.create.addEventFilter (some eventFilter)).1

/-- An incoming event, through that router. -/
def routeToDataManager (env : Environment) (manager : VoiceAgentsDataManager)
    (calls : Trace) (eventName voiceAgentId payload : String) : Except Fault Bool × Trace :=
  routerOfDataManager.handleIncomingEvent
    (fun _ => manager.mVoiceAgentEventsHandler.onIncomingEvent env)
    calls eventName voiceAgentId payload

/-- The same containers in another iteration order; anything else is refused. -/
def rehash (manager : VoiceAgentsDataManager) (voiceAgents : UnorderedMap String AgentPtr)
    (observers : UnorderedSet ObserverPtr) : VoiceAgentsDataManager :=
  if voiceAgents.entries.Perm manager.mVoiceAgents.entries ∧
      observers.toList.Perm manager.mVoiceAgentChangeObservers.toList then
    { manager with mVoiceAgents := voiceAgents, mVoiceAgentChangeObservers := observers }
  else manager

/-- One call on the data manager. -/
def step (env : Environment) (s : State) : Op → State × Output
  | .addNewVoiceAgent args =>
      let done := s.manager.addNewVoiceAgent env s.calls args
      (⟨done.1.manager, done.2⟩, ⟨done.1.notified, .bool done.1.result⟩)
  | .removeVoiceAgent voiceAgentId =>
      let done := s.manager.removeVoiceAgent voiceAgentId
      ({ s with manager := done.manager }, ⟨done.notified, .bool done.result⟩)
  | .setDefaultVoiceAgent voiceAgentId =>
      let done := s.manager.setDefaultVoiceAgent voiceAgentId
      ({ s with manager := done.manager }, ⟨done.notified, .bool done.result⟩)
  | .activateVoiceAgents voiceAgentIds =>
      let done := s.manager.activateVoiceAgents voiceAgentIds
      ({ s with manager := done.manager }, ⟨done.notified, .count done.result⟩)
  | .deactivateVoiceAgents voiceAgentIds =>
      let done := s.manager.deactivateVoiceAgents voiceAgentIds
      ({ s with manager := done.manager }, ⟨done.notified, .count done.result⟩)
  | .setActiveWakeWord voiceAgentId wakeword =>
      let done := s.manager.setActiveWakeWord voiceAgentId wakeword
      ({ s with manager := done.manager }, ⟨done.notified, .bool done.result⟩)
  | .subscribeToVshlEventFromVoiceAgent request eventName voiceAgentId =>
      let done := s.manager.subscribeToVshlEventFromVoiceAgent env s.calls request
        eventName voiceAgentId
      ({ s with calls := done.2 }, ⟨[], .ofExcept done.1⟩)
  | .startNewSubscriptionProcess =>
      let done := s.manager.startNewSubscriptionProcess env s.calls
      (⟨done.1, done.2⟩, ⟨[], .void⟩)
  | .addVoiceAgentsChangeObserver observer =>
      let done := s.manager.addVoiceAgentsChangeObserver observer
      ({ s with manager := done.1 }, ⟨[], .bool done.2⟩)
  | .removeVoiceAgentsChangeObserver observer =>
      let done := s.manager.removeVoiceAgentsChangeObserver observer
      ({ s with manager := done.1 }, ⟨[], .bool done.2⟩)
  | .handleIncomingEvent eventName voiceAgentId payload =>
      let done := routeToDataManager env s.manager s.calls eventName voiceAgentId payload
      ({ s with calls := done.2 }, ⟨[], .ofExcept done.1⟩)
  | .rehash voiceAgents observers =>
      ({ s with manager := Vshl.VoiceAgents.rehash s.manager voiceAgents observers },
        ⟨[], .void⟩)

/-- The data manager as a machine. -/
def machine (env : Environment) : Machine State Op Output := ⟨step env⟩

/-! ## What a step can do -/

/-- The step changes neither which agents are registered nor their events nor
the default id. -/
structure Frame (s s' : State) : Prop where
  find : ∀ id, s'.manager.mVoiceAgents.find id = s.manager.mVoiceAgents.find id
  default : s'.manager.mDefaultVoiceAgentId = s.manager.mDefaultVoiceAgentId
  next : s'.manager.agents.next = s.manager.agents.next
  agents : ∀ p, (s.manager.agents.object p).Evolves (s'.manager.agents.object p)
  events : s'.manager.mVoiceAgentEventsHandler = s.manager.mVoiceAgentEventsHandler
  calls : s.calls <+: s'.calls

/-- The step registers a new agent. -/
structure Added (env : Environment) (s : State) (args : VoiceAgent.Args) (s' : State) :
    Prop where
  id_ne : args.id ≠ ""
  fresh : s.manager.mVoiceAgents.find args.id = none
  find : ∀ id, s'.manager.mVoiceAgents.find id =
    if id = args.id then some s.manager.agents.next else s.manager.mVoiceAgents.find id
  default : s'.manager.mDefaultVoiceAgentId = s.manager.mDefaultVoiceAgentId
  agents : ∃ voiceAgent, VoiceAgent.create args = some voiceAgent ∧
    s'.manager.agents = s.manager.agents.alloc voiceAgent
  events : (s'.manager.mVoiceAgentEventsHandler, s'.calls) =
    s.manager.mVoiceAgentEventsHandler.createVshlEventsForVoiceAgent env s.calls args.id

/-- The step removes an agent. -/
structure Removed (s : State) (voiceAgentId : String) (p : AgentPtr) (s' : State) :
    Prop where
  found : s.manager.mVoiceAgents.find voiceAgentId = some p
  find : ∀ id, s'.manager.mVoiceAgents.find id =
    if id = voiceAgentId then none else s.manager.mVoiceAgents.find id
  default : s'.manager.mDefaultVoiceAgentId = s.manager.mDefaultVoiceAgentId
  agents : s'.manager.agents = s.manager.agents
  events : s'.manager.mVoiceAgentEventsHandler =
    s.manager.mVoiceAgentEventsHandler.removeVshlEventsForVoiceAgent
      (s.manager.agents.object p).mId
  calls : s'.calls = s.calls

/-- All that a step can do to the registry. -/
inductive Effect (env : Environment) (s : State) (op : Op) (s' : State) : Prop where
  | frame (h : Frame s s')
  | added (args : VoiceAgent.Args) (hop : op = .addNewVoiceAgent args)
      (h : Added env s args s')
  | removed (voiceAgentId : String) (p : AgentPtr)
      (hop : op = .removeVoiceAgent voiceAgentId) (h : Removed s voiceAgentId p s')
  | defaulted (voiceAgentId : String) (p : AgentPtr)
      (hop : op = .setDefaultVoiceAgent voiceAgentId) (hid : voiceAgentId ≠ "")
      (found : s.manager.mVoiceAgents.find voiceAgentId = some p)
      (h : s' = { s with
        manager := { s.manager with mDefaultVoiceAgentId := voiceAgentId } })

theorem Frame.refl (s : State) : Frame s s :=
  ⟨fun _ => rfl, rfl, rfl, fun _ => VoiceAgent.Evolves.refl _, rfl, List.prefix_refl _⟩

/-- Calls to the outside leave the registry alone. -/
theorem Frame.ofCalls {s : State} {calls : Trace} (h : s.calls <+: calls) :
    Frame s { s with calls := calls } :=
  ⟨fun _ => rfl, rfl, rfl, fun _ => VoiceAgent.Evolves.refl _, rfl, h⟩

theorem Frame.ofAgentsEvolve {s : State} {manager : VoiceAgentsDataManager}
    (h : s.manager.AgentsEvolve manager) : Frame s { s with manager := manager } := by
  obtain ⟨store, rfl, hnext, hev⟩ := h
  exact ⟨fun _ => rfl, rfl, hnext, hev, rfl, List.prefix_refl _⟩

theorem callSubscribeVerb_extends (env : Environment) (calls : Trace)
    (voiceAgent : VoiceAgent) :
    calls <+: (VoiceAgentEventsHandler.callSubscribeVerb env calls voiceAgent).2 := by
  unfold VoiceAgentEventsHandler.callSubscribeVerb
  split
  · exact (List.prefix_append calls _).trans (free_extends _ _)
  · exact List.prefix_refl calls

theorem subscribeToVshlEvent_extends (env : Environment)
    (handler : VoiceAgentEventsHandler) (calls : Trace) (request : RequestPtr)
    (eventName : String) (voiceAgent : VoiceAgent) :
    calls <+: (handler.subscribeToVshlEventFromVoiceAgent env calls request eventName
      voiceAgent).2 := by
  unfold VoiceAgentEventsHandler.subscribeToVshlEventFromVoiceAgent
  split
  · exact List.prefix_refl calls
  · split
    · exact List.prefix_refl calls
    · exact List.prefix_refl calls
    · exact (List.prefix_append calls _).trans (callSubscribeVerb_extends env _ voiceAgent)

theorem onIncomingEvent_extends (env : Environment) (handler : VoiceAgentEventsHandler)
    (calls : Trace) (eventName voiceAgentId payload : String) :
    calls <+: (handler.onIncomingEvent env calls eventName voiceAgentId payload).2 := by
  unfold VoiceAgentEventsHandler.onIncomingEvent
  split
  · exact List.prefix_refl calls
  · exact List.prefix_refl calls
  · exact List.prefix_append calls _

/-- With one filter the router adds nothing to what the filter does. -/
theorem routeToDataManager_eq (env : Environment) (manager : VoiceAgentsDataManager)
    (calls : Trace) (eventName voiceAgentId payload : String) :
    routeToDataManager env manager calls eventName voiceAgentId payload =
      manager.mVoiceAgentEventsHandler.onIncomingEvent env calls eventName voiceAgentId
        payload := by
  unfold routeToDataManager
  have hfilters : routerOfDataManager.mEventFilters.toList = [eventFilter] := rfl
  simp only [EventRouter.handleIncomingEvent, hfilters, EventRouter.offer]
  rcases manager.mVoiceAgentEventsHandler.onIncomingEvent env calls eventName
    voiceAgentId payload with ⟨fault | consumed, calls'⟩
  · rfl
  · cases consumed <;> rfl

/-- An add registers the agent or does nothing. -/
theorem addNewVoiceAgent_cases (env : Environment) (s : State) (args : VoiceAgent.Args) :
    Added env s args (step env s (.addNewVoiceAgent args)).1 ∨
      (step env s (.addNewVoiceAgent args)).1 = s := by
  simp only [step, VoiceAgentsDataManager.addNewVoiceAgent_eq]
  cases hcreate : VoiceAgent.create args with
  | none => exact Or.inr rfl
  | some voiceAgent =>
      have hid : voiceAgent.mId = args.id :=
        (VoiceAgent.create_eq_some_iff.mp hcreate).1.id
      simp only
      split
      · rename_i hnew
        rw [hid] at hnew
        refine Or.inl ⟨hnew.1, hnew.2, ?_, rfl, ⟨voiceAgent, hcreate, rfl⟩, ?_⟩
        · intro id
          simp only [VoiceAgentsDataManager.withAgent, hid]
          exact UnorderedMap.find_emplace_of_none _ hnew.2 id
        · simp only [VoiceAgentsDataManager.withAgent, hid]
      · exact Or.inr rfl

theorem addNewVoiceAgent_effect (env : Environment) (s : State) (args : VoiceAgent.Args) :
    Effect env s (.addNewVoiceAgent args) (step env s (.addNewVoiceAgent args)).1 := by
  rcases addNewVoiceAgent_cases env s args with hadded | hsame
  · exact .added args rfl hadded
  · rw [hsame]
    exact .frame (Frame.refl s)

/-- A removal removes the agent or finds none. -/
theorem removeVoiceAgent_cases (env : Environment) (s : State) (voiceAgentId : String) :
    (∃ p, Removed s voiceAgentId p (step env s (.removeVoiceAgent voiceAgentId)).1) ∨
      (step env s (.removeVoiceAgent voiceAgentId)).1 = s := by
  simp only [step, VoiceAgentsDataManager.removeVoiceAgent_eq]
  cases hfind : s.manager.mVoiceAgents.find voiceAgentId with
  | none => exact Or.inr rfl
  | some p =>
      refine Or.inl ⟨p, hfind, ?_, rfl, rfl, rfl, rfl⟩
      exact UnorderedMap.find_remove _ voiceAgentId

theorem removeVoiceAgent_effect (env : Environment) (s : State) (voiceAgentId : String) :
    Effect env s (.removeVoiceAgent voiceAgentId)
      (step env s (.removeVoiceAgent voiceAgentId)).1 := by
  rcases removeVoiceAgent_cases env s voiceAgentId with ⟨p, hremoved⟩ | hsame
  · exact .removed voiceAgentId p rfl hremoved
  · rw [hsame]
    exact .frame (Frame.refl s)

theorem setDefaultVoiceAgent_effect (env : Environment) (s : State)
    (voiceAgentId : String) :
    Effect env s (.setDefaultVoiceAgent voiceAgentId)
      (step env s (.setDefaultVoiceAgent voiceAgentId)).1 := by
  simp only [step, VoiceAgentsDataManager.setDefaultVoiceAgent_eq]
  split
  · exact .frame (Frame.refl s)
  · rename_i hid
    cases hfind : s.manager.mVoiceAgents.find voiceAgentId with
    | none => exact .frame (Frame.refl s)
    | some p => exact .defaulted voiceAgentId p rfl hid hfind rfl

theorem rehash_frame (s : State) (voiceAgents : UnorderedMap String AgentPtr)
    (observers : UnorderedSet ObserverPtr) :
    Frame s { s with manager := rehash s.manager voiceAgents observers } := by
  unfold rehash
  split
  · rename_i hperm
    refine ⟨?_, rfl, rfl, fun _ => VoiceAgent.Evolves.refl _, rfl, List.prefix_refl _⟩
    exact UnorderedMap.Reordered.find hperm.1
  · exact Frame.refl s

/-- Every step does one of the four things `Effect` lists. -/
theorem step_effect (env : Environment) (s : State) (op : Op) :
    Effect env s op (step env s op).1 := by
  cases op with
  | addNewVoiceAgent args => exact addNewVoiceAgent_effect env s args
  | removeVoiceAgent voiceAgentId => exact removeVoiceAgent_effect env s voiceAgentId
  | setDefaultVoiceAgent voiceAgentId =>
      exact setDefaultVoiceAgent_effect env s voiceAgentId
  | activateVoiceAgents ids =>
      exact .frame (Frame.ofAgentsEvolve
        (VoiceAgentsDataManager.setVoiceAgentsActive_evolves true _ s.manager ids))
  | deactivateVoiceAgents ids =>
      exact .frame (Frame.ofAgentsEvolve
        (VoiceAgentsDataManager.setVoiceAgentsActive_evolves false _ s.manager ids))
  | setActiveWakeWord voiceAgentId wakeword =>
      exact .frame (Frame.ofAgentsEvolve
        (s.manager.setActiveWakeWord_evolves voiceAgentId wakeword))
  | subscribeToVshlEventFromVoiceAgent request eventName voiceAgentId =>
      refine .frame (Frame.ofCalls ?_)
      unfold VoiceAgentsDataManager.subscribeToVshlEventFromVoiceAgent
      cases s.manager.mVoiceAgents.find voiceAgentId with
      | none => exact List.prefix_refl s.calls
      | some p => exact subscribeToVshlEvent_extends env _ s.calls request eventName _
  | startNewSubscriptionProcess =>
      obtain ⟨flag, hflag⟩ := s.manager.startNewSubscriptionProcess_manager env s.calls
      obtain ⟨added, hadded, -⟩ := s.manager.startNewSubscriptionProcess_calls env s.calls
      refine .frame ?_
      simp only [step, hflag, hadded]
      exact ⟨fun _ => rfl, rfl, rfl, fun _ => VoiceAgent.Evolves.refl _, rfl,
        List.prefix_append s.calls added⟩
  | addVoiceAgentsChangeObserver observer =>
      cases observer with
      | none => exact .frame (Frame.refl s)
      | some observer =>
          exact .frame ⟨fun _ => rfl, rfl, rfl, fun _ => VoiceAgent.Evolves.refl _, rfl,
            List.prefix_refl _⟩
  | removeVoiceAgentsChangeObserver observer =>
      cases observer with
      | none => exact .frame (Frame.refl s)
      | some observer =>
          exact .frame ⟨fun _ => rfl, rfl, rfl, fun _ => VoiceAgent.Evolves.refl _, rfl,
            List.prefix_refl _⟩
  | handleIncomingEvent eventName voiceAgentId payload =>
      refine .frame (Frame.ofCalls ?_)
      rw [routeToDataManager_eq]
      exact onIncomingEvent_extends env _ s.calls eventName voiceAgentId payload
  | rehash voiceAgents observers => exact .frame (rehash_frame s voiceAgents observers)

/-- The same of the machine. -/
theorem next_effect (env : Environment) (s : State) (op : Op) :
    Effect env s op ((machine env).next s op) :=
  step_effect env s op

/-- No step takes a call back. -/
theorem next_calls (env : Environment) (s : State) (op : Op) :
    s.calls <+: ((machine env).next s op).calls := by
  rcases next_effect env s op with h | ⟨args, -, h⟩ | ⟨id, p, -, h⟩ | ⟨id, p, -, -, -, h⟩
  · exact h.calls
  · obtain ⟨added, hadded, -⟩ :=
      (VoiceAgentEventsHandler.createVshlEventsForVoiceAgent_created env
        s.manager.mVoiceAgentEventsHandler s.calls args.id).trace
    exact ⟨added, ((congrArg Prod.snd h.events).trans hadded).symm⟩
  · rw [h.calls]
  · rw [h]

/-! ## What the observers are told -/

theorem notifyObservers_callback {manager : VoiceAgentsDataManager} {callback : Callback}
    {p : AgentPtr} {notification : Notification}
    (h : notification ∈ manager.notifyObservers callback p) :
    notification.callback = callback := by
  obtain ⟨observer, -, rfl⟩ := List.mem_map.mp h
  rfl

theorem setVoiceAgentsActive_callback {active : Bool} {callback : Callback}
    {manager : VoiceAgentsDataManager} {voiceAgentIds : UnorderedSet String} :
    ∀ notification ∈
        (VoiceAgentsDataManager.setVoiceAgentsActive active callback manager
          voiceAgentIds).notified,
      notification.callback = callback := by
  refine VoiceAgentsDataManager.setVoiceAgentsActive_induction
    (I := fun state => ∀ notification ∈ state.notified, notification.callback = callback)
    (by simp) ?_
  intro state id hstate
  rcases VoiceAgentsDataManager.setVoiceAgentActive_cases active callback state id with
    ⟨-, hround⟩ | ⟨p, -, -, hround⟩ | ⟨p, -, -, hround⟩
  · rwa [hround]
  · rwa [hround]
  · rw [hround]
    intro notification hmem
    rcases List.mem_append.mp hmem with hold | hnew
    · exact hstate notification hold
    · exact notifyObservers_callback hnew

/-- Only `setDefaultVoiceAgent` reports a change of the default agent. -/
theorem step_callback_ne {env : Environment} {s : State} {op : Op}
    (hop : ∀ id, op ≠ .setDefaultVoiceAgent id) :
    ∀ notification ∈ (step env s op).2.notified,
      notification.callback ≠ .OnDefaultVoiceAgentChanged := by
  intro notification hmem
  cases op with
  | setDefaultVoiceAgent id => exact absurd rfl (hop id)
  | addNewVoiceAgent args =>
      simp only [step, VoiceAgentsDataManager.addNewVoiceAgent_eq] at hmem
      cases hcreate : VoiceAgent.create args with
      | none => simp [hcreate] at hmem
      | some voiceAgent =>
          simp only [hcreate] at hmem
          split at hmem
          · rw [notifyObservers_callback hmem]
            decide
          · simp at hmem
  | removeVoiceAgent id =>
      simp only [step, VoiceAgentsDataManager.removeVoiceAgent_eq] at hmem
      cases hfind : s.manager.mVoiceAgents.find id with
      | none => simp [hfind] at hmem
      | some p =>
          simp only [hfind] at hmem
          rw [notifyObservers_callback hmem]
          decide
  | activateVoiceAgents ids =>
      rw [setVoiceAgentsActive_callback notification hmem]
      decide
  | deactivateVoiceAgents ids =>
      rw [setVoiceAgentsActive_callback notification hmem]
      decide
  | setActiveWakeWord id wakeword =>
      simp only [step, VoiceAgentsDataManager.setActiveWakeWord] at hmem
      split at hmem
      · simp at hmem
      · cases hfind : s.manager.mVoiceAgents.find id with
        | none => simp [hfind] at hmem
        | some p =>
            simp only [hfind] at hmem
            split at hmem
            · rw [notifyObservers_callback hmem]
              decide
            · simp at hmem
  | subscribeToVshlEventFromVoiceAgent request eventName id => simp [step] at hmem
  | startNewSubscriptionProcess => simp [step] at hmem
  | addVoiceAgentsChangeObserver observer => simp [step] at hmem
  | removeVoiceAgentsChangeObserver observer => simp [step] at hmem
  | handleIncomingEvent eventName id payload => simp [step] at hmem
  | rehash voiceAgents observers => simp [step] at hmem

/-! ## The observers and the flag -/

/-- The operation is about the agents and their events only. -/
def AboutAgents : Op → Prop
  | .startNewSubscriptionProcess => False
  | .addVoiceAgentsChangeObserver _ => False
  | .removeVoiceAgentsChangeObserver _ => False
  | .rehash _ _ => False
  | _ => True

/-- It leaves the observers and the flag alone. -/
theorem step_rest (env : Environment) (s : State) {op : Op} (hop : AboutAgents op) :
    (step env s op).1.manager.mVoiceAgentChangeObservers =
        s.manager.mVoiceAgentChangeObservers ∧
      (step env s op).1.manager.mAlreadyPeformedSubscriptions =
        s.manager.mAlreadyPeformedSubscriptions := by
  have hevolve : ∀ {manager : VoiceAgentsDataManager}, s.manager.AgentsEvolve manager →
      manager.mVoiceAgentChangeObservers = s.manager.mVoiceAgentChangeObservers ∧
        manager.mAlreadyPeformedSubscriptions = s.manager.mAlreadyPeformedSubscriptions := by
    intro manager hev
    obtain ⟨store, rfl, -, -⟩ := hev
    exact ⟨rfl, rfl⟩
  cases op with
  | addNewVoiceAgent args =>
      simp only [step, VoiceAgentsDataManager.addNewVoiceAgent_eq]
      cases VoiceAgent.create args with
      | none => exact ⟨rfl, rfl⟩
      | some voiceAgent =>
          simp only
          split
          · exact ⟨rfl, rfl⟩
          · exact ⟨rfl, rfl⟩
  | removeVoiceAgent id =>
      simp only [step, VoiceAgentsDataManager.removeVoiceAgent_eq]
      cases s.manager.mVoiceAgents.find id with
      | none => exact ⟨rfl, rfl⟩
      | some p => exact ⟨rfl, rfl⟩
  | setDefaultVoiceAgent id =>
      simp only [step, VoiceAgentsDataManager.setDefaultVoiceAgent_eq]
      split
      · exact ⟨rfl, rfl⟩
      · cases s.manager.mVoiceAgents.find id with
        | none => exact ⟨rfl, rfl⟩
        | some p => exact ⟨rfl, rfl⟩
  | activateVoiceAgents ids =>
      exact hevolve (VoiceAgentsDataManager.setVoiceAgentsActive_evolves true _ s.manager ids)
  | deactivateVoiceAgents ids =>
      exact hevolve (VoiceAgentsDataManager.setVoiceAgentsActive_evolves false _ s.manager ids)
  | setActiveWakeWord id wakeword =>
      exact hevolve (s.manager.setActiveWakeWord_evolves id wakeword)
  | subscribeToVshlEventFromVoiceAgent request eventName id => exact ⟨rfl, rfl⟩
  | handleIncomingEvent eventName id payload => exact ⟨rfl, rfl⟩
  | startNewSubscriptionProcess => exact hop.elim
  | addVoiceAgentsChangeObserver observer => exact hop.elim
  | removeVoiceAgentsChangeObserver observer => exact hop.elim
  | rehash voiceAgents observers => exact hop.elim

/-- An observer stays registered until it is removed. -/
theorem step_observers {env : Environment} {s : State} {op : Op} {observer : ObserverPtr}
    (hop : op ≠ .removeVoiceAgentsChangeObserver (some observer))
    (h : observer ∈ s.manager.mVoiceAgentChangeObservers) :
    observer ∈ (step env s op).1.manager.mVoiceAgentChangeObservers := by
  have hrest : AboutAgents op →
      observer ∈ (step env s op).1.manager.mVoiceAgentChangeObservers := by
    intro habout
    rw [(step_rest env s habout).1]
    exact h
  cases op with
  | startNewSubscriptionProcess =>
      obtain ⟨flag, hflag⟩ := s.manager.startNewSubscriptionProcess_manager env s.calls
      simp only [step, hflag]
      exact h
  | addVoiceAgentsChangeObserver added =>
      cases added with
      | none => exact h
      | some added => exact UnorderedSet.mem_insert.mpr (Or.inr h)
  | removeVoiceAgentsChangeObserver removed =>
      cases removed with
      | none => exact h
      | some removed =>
          refine UnorderedSet.mem_erase.mpr ⟨?_, h⟩
          intro heq
          apply hop
          rw [heq]
  | rehash voiceAgents observers =>
      simp only [step, Vshl.VoiceAgents.rehash]
      split
      · rename_i hperm
        exact hperm.2.mem_iff.mpr h
      · exact h
  | _ => exact hrest trivial

end Vshl.VoiceAgents
