/-
  VoiceAgents/DataManager.lean --- `VoiceAgentsDataManager`, operation by operation.

  An operation that notifies observers returns the notifications in the order
  they are sent.  Each carries the data manager as the callback would find it
  (`Notification.seen`), because the operations commit and notify in different
  orders.  Observers do not call back into the data manager.
-/
import Vshl.VoiceAgents.EventsHandler

set_option autoImplicit false

namespace Vshl.VoiceAgents

open Vshl.Foundation
open Vshl.Interfaces

/-- The address of an `IVoiceAgentsChangeObserver`. -/
abbrev ObserverPtr := Nat

/-- The state of a `VoiceAgentsDataManager`, with the objects its pointers lead
to.  `mAfbApi` and `mLogger` never change and are not part of it. -/
structure VoiceAgentsDataManager where
  agents : AgentStore
  mVoiceAgentChangeObservers : UnorderedSet ObserverPtr
  mVoiceAgents : UnorderedMap String AgentPtr
  mVoiceAgentEventsHandler : VoiceAgentEventsHandler
  mDefaultVoiceAgentId : String
  mAlreadyPeformedSubscriptions : Bool

/-- The callbacks of `IVoiceAgentsChangeObserver`. -/
inductive Callback where
  | OnDefaultVoiceAgentChanged
  | OnVoiceAgentAdded
  | OnVoiceAgentRemoved
  | OnVoiceAgentActiveWakeWordChanged
  | OnVoiceAgentActivated
  | OnVoiceAgentDeactivated
  deriving DecidableEq, Repr

/-- One callback made on one observer. -/
structure Notification where
  observer : ObserverPtr
  callback : Callback
  voiceAgent : AgentPtr
  /-- the data manager at the moment of the callback -/
  seen : VoiceAgentsDataManager

/-- What an operation leaves behind. -/
structure Outcome (α : Type) where
  manager : VoiceAgentsDataManager
  notified : List Notification
  result : α

namespace VoiceAgentsDataManager

/-- `VoiceAgentsDataManager::create`. -/
def create : VoiceAgentsDataManager where
  agents := .empty
  mVoiceAgentChangeObservers := ∅
  mVoiceAgents := ∅
  mVoiceAgentEventsHandler := .create
  mDefaultVoiceAgentId := ""
  mAlreadyPeformedSubscriptions := false

/-- The loop that makes one callback on every observer. -/
def notifyObservers (manager : VoiceAgentsDataManager) (callback : Callback)
    (voiceAgent : AgentPtr) : List Notification :=
  manager.mVoiceAgentChangeObservers.toList.map fun observer =>
    ⟨observer, callback, voiceAgent, manager⟩

/-- The callbacks that were made on one observer, in order. -/
def received (observer : ObserverPtr) (notified : List Notification) : List Notification :=
  notified.filter fun notification => notification.observer = observer

theorem received_append (observer : ObserverPtr) (first second : List Notification) :
    received observer (first ++ second) = received observer first ++ received observer second :=
  List.filter_append first second

/-- A registered observer gets the callback once. -/
theorem received_notifyObservers {manager : VoiceAgentsDataManager} {observer : ObserverPtr}
    (h : observer ∈ manager.mVoiceAgentChangeObservers) (callback : Callback)
    (voiceAgent : AgentPtr) :
    received observer (manager.notifyObservers callback voiceAgent) =
      [⟨observer, callback, voiceAgent, manager⟩] := by
  have hcount : manager.mVoiceAgentChangeObservers.toList.count observer = 1 :=
    List.count_eq_one_of_mem manager.mVoiceAgentChangeObservers.nodup h
  have honly : manager.mVoiceAgentChangeObservers.toList.filter (fun other => other = observer) =
      [observer] := by
    rw [List.filter_eq, hcount, List.replicate_one]
  unfold received notifyObservers
  rw [List.filter_map]
  exact congrArg (List.map _) honly

/-! ## Activation -/

/-- One round of the loop of `activateVoiceAgents` and `deactivateVoiceAgents`:
the agent is counted whether or not its flag changes. -/
def setVoiceAgentActive (active : Bool) (callback : Callback) (state : Outcome Nat)
    (voiceAgentId : String) : Outcome Nat :=
  match state.manager.mVoiceAgents.find voiceAgentId with
  | none => state
  | some p =>
      let agent := state.manager.agents.object p
      if agent.mIsActive = active then { state with result := state.result + 1 }
      else
        let manager :=
          { state.manager with
            agents := state.manager.agents.set p (agent.setIsActive active) }
        { manager := manager
          notified := state.notified ++ manager.notifyObservers callback p
          result := state.result + 1 }

/-- The common body of `activateVoiceAgents` and `deactivateVoiceAgents`.  Their counter is a
`uint32_t`; it is counted here without a bound. -/
def setVoiceAgentsActive (active : Bool) (callback : Callback)
    (manager : VoiceAgentsDataManager) (voiceAgentIds : UnorderedSet String) :
    Outcome Nat :=
  if voiceAgentIds.isEmpty ∨ manager.mVoiceAgents.isEmpty then ⟨manager, [], 0⟩
  else voiceAgentIds.toList.foldl (setVoiceAgentActive active callback) ⟨manager, [], 0⟩

/-- `VoiceAgentsDataManager::activateVoiceAgents`. -/
def activateVoiceAgents : VoiceAgentsDataManager → UnorderedSet String → Outcome Nat :=
  setVoiceAgentsActive true .OnVoiceAgentActivated

/-- `VoiceAgentsDataManager::deactivateVoiceAgents`. -/
def deactivateVoiceAgents : VoiceAgentsDataManager → UnorderedSet String → Outcome Nat :=
  setVoiceAgentsActive false .OnVoiceAgentDeactivated

/-! ## The default agent and the wakewords -/

/-- `VoiceAgentsDataManager::setDefaultVoiceAgent`.  The observers are told
before the id is stored, and only if the id changes. -/
def setDefaultVoiceAgent (manager : VoiceAgentsDataManager) (voiceAgentId : String) :
    Outcome Bool :=
  if manager.mVoiceAgents.isEmpty ∨ voiceAgentId = "" then ⟨manager, [], false⟩
  else
    match manager.mVoiceAgents.find voiceAgentId with
    | none => ⟨manager, [], false⟩
    | some p =>
        { manager := { manager with mDefaultVoiceAgentId := voiceAgentId }
          notified :=
            if manager.mDefaultVoiceAgentId ≠ voiceAgentId then
              manager.notifyObservers .OnDefaultVoiceAgentChanged p
            else []
          result := true }

/-- `VoiceAgentsDataManager::getDefaultVoiceAgent`. -/
def getDefaultVoiceAgent (manager : VoiceAgentsDataManager) : String :=
  manager.mDefaultVoiceAgentId

/-- `VoiceAgentsDataManager::setActiveWakeWord`.  The result of the agent's own
`setActiveWakeWord` is not looked at. -/
def setActiveWakeWord (manager : VoiceAgentsDataManager)
    (voiceAgentId wakeword : String) : Outcome Bool :=
  if manager.mVoiceAgents.isEmpty ∨ wakeword = "" then ⟨manager, [], false⟩
  else
    match manager.mVoiceAgents.find voiceAgentId with
    | none => ⟨manager, [], false⟩
    | some p =>
        let agent := manager.agents.object p
        if agent.mActiveWakeword ≠ wakeword then
          let changed :=
            { manager with
              agents := manager.agents.set p (agent.setActiveWakeWord wakeword).1 }
          { manager := changed
            notified := changed.notifyObservers .OnVoiceAgentActiveWakeWordChanged p
            result := true }
        else ⟨manager, [], true⟩

/-! ## Registration -/

/-- `VoiceAgentsDataManager::addNewVoiceAgent`. -/
def addNewVoiceAgent (env : Environment) (manager : VoiceAgentsDataManager)
    (calls : Trace) (args : VoiceAgent.Args) : Outcome Bool × Trace :=
  match VoiceAgent.create args with
  | none => (⟨manager, [], false⟩, calls)
  | some voiceAgent =>
      if voiceAgent.mId = "" then (⟨manager, [], false⟩, calls)
      else if manager.mVoiceAgents.isEmpty = false ∧
          voiceAgent.mId ∈ manager.mVoiceAgents then
        (⟨manager, [], false⟩, calls)
      else
        let p := manager.agents.next
        let inserted :=
          { manager with
            agents := manager.agents.alloc voiceAgent
            mVoiceAgents := manager.mVoiceAgents.emplace voiceAgent.mId p }
        let events := inserted.mVoiceAgentEventsHandler.createVshlEventsForVoiceAgent
          env calls voiceAgent.mId
        ({ manager := { inserted with mVoiceAgentEventsHandler := events.1 }
           notified := inserted.notifyObservers .OnVoiceAgentAdded p
           result := true }, events.2)

/-- `VoiceAgentsDataManager::removeVoiceAgent`. -/
def removeVoiceAgent (manager : VoiceAgentsDataManager) (voiceAgentId : String) :
    Outcome Bool :=
  if manager.mVoiceAgents.isEmpty then ⟨manager, [], false⟩
  else
    match manager.mVoiceAgents.find voiceAgentId with
    | none => ⟨manager, [], false⟩
    | some p =>
        let erased :=
          { manager with mVoiceAgents := manager.mVoiceAgents.remove voiceAgentId }
        { manager :=
            { erased with
              mVoiceAgentEventsHandler :=
                erased.mVoiceAgentEventsHandler.removeVshlEventsForVoiceAgent
                  (manager.agents.object p).mId }
          notified := erased.notifyObservers .OnVoiceAgentRemoved p
          result := true }

/-- `VoiceAgentsDataManager::getAllVoiceAgents`. -/
def getAllVoiceAgents (manager : VoiceAgentsDataManager) : UnorderedSet AgentPtr :=
  (∅ : UnorderedSet AgentPtr).insertAll manager.mVoiceAgents.values

/-! ## Subscriptions -/

/-- `VoiceAgentsDataManager::callStartSubscriptionProcessAPI`. -/
def callStartSubscriptionProcessAPI (env : Environment) (calls : Trace)
    (voiceAgent : VoiceAgent) : Trace :=
  if env.afbApi then
    let called := env.doCallSync calls voiceAgent.mApi "startSubscriptionProcess" none
    free called.2 (resultObject calls called.1)
  else calls

/-- One round of the loop of `startNewSubscriptionProcess`.  The flag is set
inside the loop, so it stays down when there is no agent. -/
def startSubscriptionProcess (env : Environment) (state : VoiceAgentsDataManager × Trace)
    (p : AgentPtr) : VoiceAgentsDataManager × Trace :=
  ({ state.1 with mAlreadyPeformedSubscriptions := true },
    callStartSubscriptionProcessAPI env state.2 (state.1.agents.object p))

/-- `VoiceAgentsDataManager::startNewSubscriptionProcess`. -/
def startNewSubscriptionProcess (env : Environment) (manager : VoiceAgentsDataManager)
    (calls : Trace) : VoiceAgentsDataManager × Trace :=
  if manager.mAlreadyPeformedSubscriptions then (manager, calls)
  else manager.mVoiceAgents.values.foldl (startSubscriptionProcess env) (manager, calls)

/-- `VoiceAgentsDataManager::subscribeToVshlEventFromVoiceAgent`. -/
def subscribeToVshlEventFromVoiceAgent (env : Environment)
    (manager : VoiceAgentsDataManager) (calls : Trace) (request : RequestPtr)
    (eventName voiceAgentId : String) : Except Fault Bool × Trace :=
  match manager.mVoiceAgents.find voiceAgentId with
  | none => (.ok false, calls)
  | some p =>
      manager.mVoiceAgentEventsHandler.subscribeToVshlEventFromVoiceAgent env calls
        request eventName (manager.agents.object p)

/-! ## Observers -/

/-- `VoiceAgentsDataManager::addVoiceAgentsChangeObserver`. -/
def addVoiceAgentsChangeObserver (manager : VoiceAgentsDataManager) :
    Option ObserverPtr → VoiceAgentsDataManager × Bool
  | none => (manager, false)
  | some observer =>
      ({ manager with
         mVoiceAgentChangeObservers :=
          manager.mVoiceAgentChangeObservers.insert observer }, true)

/-- `VoiceAgentsDataManager::removeVoiceAgentsChangeObserver`. -/
def removeVoiceAgentsChangeObserver (manager : VoiceAgentsDataManager) :
    Option ObserverPtr → VoiceAgentsDataManager × Bool
  | none => (manager, false)
  | some observer =>
      ({ manager with
         mVoiceAgentChangeObservers :=
          manager.mVoiceAgentChangeObservers.erase observer }, true)

/-! ## What an operation can do

Each lemma lists all outcomes of one operation; later proofs use these and do
not unfold the operations again. -/

/-- Only the flag and the active wakeword of agents changed. -/
def AgentsEvolve (before after : VoiceAgentsDataManager) : Prop :=
  ∃ store : AgentStore, after = { before with agents := store } ∧
    store.next = before.agents.next ∧
    ∀ p, (before.agents.object p).Evolves (store.object p)

theorem AgentsEvolve.refl (manager : VoiceAgentsDataManager) :
    manager.AgentsEvolve manager :=
  ⟨manager.agents, rfl, rfl, fun _ => VoiceAgent.Evolves.refl _⟩

theorem AgentsEvolve.trans {first second third : VoiceAgentsDataManager}
    (h₁ : first.AgentsEvolve second) (h₂ : second.AgentsEvolve third) :
    first.AgentsEvolve third := by
  obtain ⟨store₁, rfl, hnext₁, hev₁⟩ := h₁
  obtain ⟨store₂, rfl, hnext₂, hev₂⟩ := h₂
  exact ⟨store₂, rfl, hnext₂.trans hnext₁, fun p => (hev₁ p).trans (hev₂ p)⟩

theorem agentsEvolve_set (manager : VoiceAgentsDataManager) {p : AgentPtr}
    {agent : VoiceAgent} (h : (manager.agents.object p).Evolves agent) :
    manager.AgentsEvolve { manager with agents := manager.agents.set p agent } := by
  refine ⟨manager.agents.set p agent, rfl, rfl, ?_⟩
  intro q
  by_cases hq : q = p
  · subst hq
    rw [AgentStore.set_object_self]
    exact h
  · rw [AgentStore.set_object_of_ne agent hq]
    exact VoiceAgent.Evolves.refl _

/-- The data manager with the flag of one agent set. -/
def withFlag (manager : VoiceAgentsDataManager) (active : Bool) (p : AgentPtr) :
    VoiceAgentsDataManager :=
  { manager with
    agents := manager.agents.set p ((manager.agents.object p).setIsActive active) }

/-- A round finds no agent, or only counts it, or also sets its flag and tells the
observers. -/
theorem setVoiceAgentActive_cases (active : Bool) (callback : Callback) (state : Outcome Nat)
    (voiceAgentId : String) :
    (state.manager.mVoiceAgents.find voiceAgentId = none ∧
        setVoiceAgentActive active callback state voiceAgentId = state) ∨
      (∃ p, state.manager.mVoiceAgents.find voiceAgentId = some p ∧
        (state.manager.agents.object p).mIsActive = active ∧
        setVoiceAgentActive active callback state voiceAgentId =
          { state with result := state.result + 1 }) ∨
      ∃ p, state.manager.mVoiceAgents.find voiceAgentId = some p ∧
        (state.manager.agents.object p).mIsActive ≠ active ∧
        setVoiceAgentActive active callback state voiceAgentId =
          { manager := state.manager.withFlag active p
            notified :=
              state.notified ++ (state.manager.withFlag active p).notifyObservers callback p
            result := state.result + 1 } := by
  unfold setVoiceAgentActive withFlag
  cases state.manager.mVoiceAgents.find voiceAgentId with
  | none => exact Or.inl ⟨rfl, rfl⟩
  | some p =>
      refine Or.inr ?_
      simp only
      split
      · rename_i hsame
        exact Or.inl ⟨p, rfl, hsame, rfl⟩
      · rename_i hother
        exact Or.inr ⟨p, rfl, hother, rfl⟩

/-- What every round keeps holds after the loop. -/
theorem setVoiceAgentsActive_induction {active : Bool} {callback : Callback}
    {manager : VoiceAgentsDataManager} {voiceAgentIds : UnorderedSet String}
    {I : Outcome Nat → Prop} (hstart : I ⟨manager, [], 0⟩)
    (hround : ∀ state id, I state → I (setVoiceAgentActive active callback state id)) :
    I (setVoiceAgentsActive active callback manager voiceAgentIds) := by
  unfold setVoiceAgentsActive
  split
  · exact hstart
  · refine List.foldlRecOn (motive := I) voiceAgentIds.toList _ hstart ?_
    intro state hstate id _
    exact hround state id hstate

theorem setVoiceAgentActive_evolves (active : Bool) (callback : Callback)
    (state : Outcome Nat) (voiceAgentId : String) :
    state.manager.AgentsEvolve
      (setVoiceAgentActive active callback state voiceAgentId).manager := by
  rcases setVoiceAgentActive_cases active callback state voiceAgentId with
    ⟨-, hround⟩ | ⟨p, -, -, hround⟩ | ⟨p, -, -, hround⟩
  · rw [hround]
    exact AgentsEvolve.refl _
  · rw [hround]
    exact AgentsEvolve.refl _
  · rw [hround]
    exact agentsEvolve_set _ (VoiceAgent.setIsActive_evolves _ active)

theorem setVoiceAgentsActive_evolves (active : Bool) (callback : Callback)
    (manager : VoiceAgentsDataManager) (voiceAgentIds : UnorderedSet String) :
    manager.AgentsEvolve
      (setVoiceAgentsActive active callback manager voiceAgentIds).manager := by
  refine setVoiceAgentsActive_induction (I := fun state => manager.AgentsEvolve state.manager)
    (AgentsEvolve.refl manager) ?_
  intro state id hstate
  exact hstate.trans (setVoiceAgentActive_evolves active callback state id)

theorem setActiveWakeWord_evolves (manager : VoiceAgentsDataManager)
    (voiceAgentId wakeword : String) :
    manager.AgentsEvolve (manager.setActiveWakeWord voiceAgentId wakeword).manager := by
  unfold setActiveWakeWord
  split
  · exact AgentsEvolve.refl manager
  · cases manager.mVoiceAgents.find voiceAgentId with
    | none => exact AgentsEvolve.refl manager
    | some p =>
        simp only
        split
        · exact agentsEvolve_set manager (VoiceAgent.setActiveWakeWord_evolves _ wakeword)
        · exact AgentsEvolve.refl manager

/-- The data manager after a successful `setDefaultVoiceAgent`. -/
def withDefault (manager : VoiceAgentsDataManager) (voiceAgentId : String)
    (p : AgentPtr) : Outcome Bool :=
  { manager := { manager with mDefaultVoiceAgentId := voiceAgentId }
    notified :=
      if manager.mDefaultVoiceAgentId ≠ voiceAgentId then
        manager.notifyObservers .OnDefaultVoiceAgentChanged p
      else []
    result := true }

theorem setDefaultVoiceAgent_eq (manager : VoiceAgentsDataManager)
    (voiceAgentId : String) :
    manager.setDefaultVoiceAgent voiceAgentId =
      if voiceAgentId = "" then ⟨manager, [], false⟩
      else
        match manager.mVoiceAgents.find voiceAgentId with
        | none => ⟨manager, [], false⟩
        | some p => manager.withDefault voiceAgentId p := by
  unfold setDefaultVoiceAgent withDefault
  by_cases hid : voiceAgentId = ""
  · simp [hid]
  · cases hfind : manager.mVoiceAgents.find voiceAgentId with
    | none => simp [hid]
    | some p =>
        simp [hid, UnorderedMap.isEmpty_eq_false_of_find hfind]

/-- The default can be set to a registered agent. -/
theorem setDefaultVoiceAgent_of_find {manager : VoiceAgentsDataManager}
    {voiceAgentId : String} {p : AgentPtr} (hid : voiceAgentId ≠ "")
    (hfind : manager.mVoiceAgents.find voiceAgentId = some p) :
    manager.setDefaultVoiceAgent voiceAgentId = manager.withDefault voiceAgentId p := by
  rw [setDefaultVoiceAgent_eq, if_neg hid, hfind]

/-- And to no other. -/
theorem setDefaultVoiceAgent_refused {manager : VoiceAgentsDataManager}
    {voiceAgentId : String}
    (h : ¬ (voiceAgentId ≠ "" ∧ ∃ p, manager.mVoiceAgents.find voiceAgentId = some p)) :
    manager.setDefaultVoiceAgent voiceAgentId = ⟨manager, [], false⟩ := by
  rw [setDefaultVoiceAgent_eq]
  split
  · rfl
  · rename_i hid
    cases hfind : manager.mVoiceAgents.find voiceAgentId with
    | none => rfl
    | some p => exact absurd ⟨hid, p, hfind⟩ h

/-- The data manager after a successful `removeVoiceAgent`. -/
def withoutAgent (manager : VoiceAgentsDataManager) (voiceAgentId : String)
    (p : AgentPtr) : Outcome Bool :=
  let erased := { manager with mVoiceAgents := manager.mVoiceAgents.remove voiceAgentId }
  { manager :=
      { erased with
        mVoiceAgentEventsHandler :=
          manager.mVoiceAgentEventsHandler.removeVshlEventsForVoiceAgent
            (manager.agents.object p).mId }
    notified := erased.notifyObservers .OnVoiceAgentRemoved p
    result := true }

theorem removeVoiceAgent_eq (manager : VoiceAgentsDataManager) (voiceAgentId : String) :
    manager.removeVoiceAgent voiceAgentId =
      match manager.mVoiceAgents.find voiceAgentId with
      | none => ⟨manager, [], false⟩
      | some p => manager.withoutAgent voiceAgentId p := by
  unfold removeVoiceAgent withoutAgent
  cases hfind : manager.mVoiceAgents.find voiceAgentId with
  | none => simp
  | some p => simp [UnorderedMap.isEmpty_eq_false_of_find hfind]

/-- The data manager after a successful `addNewVoiceAgent`. -/
def withAgent (env : Environment) (manager : VoiceAgentsDataManager) (calls : Trace)
    (voiceAgent : VoiceAgent) : Outcome Bool × Trace :=
  let inserted :=
    { manager with
      agents := manager.agents.alloc voiceAgent
      mVoiceAgents := manager.mVoiceAgents.emplace voiceAgent.mId manager.agents.next }
  let events := manager.mVoiceAgentEventsHandler.createVshlEventsForVoiceAgent
    env calls voiceAgent.mId
  ({ manager := { inserted with mVoiceAgentEventsHandler := events.1 }
     notified := inserted.notifyObservers .OnVoiceAgentAdded manager.agents.next
     result := true }, events.2)

/-- An add succeeds exactly for a well-formed agent with a new non-empty id. -/
theorem addNewVoiceAgent_eq (env : Environment) (manager : VoiceAgentsDataManager)
    (calls : Trace) (args : VoiceAgent.Args) :
    manager.addNewVoiceAgent env calls args =
      match VoiceAgent.create args with
      | none => (⟨manager, [], false⟩, calls)
      | some voiceAgent =>
          if voiceAgent.mId ≠ "" ∧ manager.mVoiceAgents.find voiceAgent.mId = none then
            manager.withAgent env calls voiceAgent
          else (⟨manager, [], false⟩, calls) := by
  unfold addNewVoiceAgent withAgent
  cases VoiceAgent.create args with
  | none => rfl
  | some voiceAgent =>
      by_cases hid : voiceAgent.mId = ""
      · simp [hid]
      · cases hfind : manager.mVoiceAgents.find voiceAgent.mId with
        | none => simp [hid, hfind, UnorderedMap.find_eq_none.mp hfind]
        | some p =>
            simp [hid, hfind, UnorderedMap.isEmpty_eq_false_of_find hfind,
              UnorderedMap.mem_iff_find.mpr ⟨p, hfind⟩]

/-- The calls of a subscription process. -/
def IsSubscriptionCall : Call → Prop
  | .callSync _ verb _ _ => verb = "startSubscriptionProcess"
  | .free _ => True
  | _ => False

theorem callStartSubscriptionProcessAPI_calls (env : Environment) (calls : Trace)
    (voiceAgent : VoiceAgent) :
    ∃ added : Trace,
      callStartSubscriptionProcessAPI env calls voiceAgent = calls ++ added ∧
        ∀ call ∈ added, IsSubscriptionCall call := by
  unfold callStartSubscriptionProcessAPI
  split
  · obtain ⟨freed, hfreed, hfree⟩ := free_calls
      (env.doCallSync calls voiceAgent.mApi "startSubscriptionProcess" none).2
      (resultObject calls
        (env.doCallSync calls voiceAgent.mApi "startSubscriptionProcess" none).1)
    simp only [hfreed]
    refine ⟨_ :: freed, List.append_assoc _ _ _, ?_⟩
    intro call hcall
    rcases List.mem_cons.mp hcall with rfl | hmem
    · rfl
    · obtain ⟨object, rfl⟩ := hfree call hmem
      trivial
  · exact ⟨[], (List.append_nil calls).symm, by simp⟩

/-- What every round keeps holds after the loop. -/
theorem startNewSubscriptionProcess_induction {env : Environment}
    {manager : VoiceAgentsDataManager} {calls : Trace}
    {I : VoiceAgentsDataManager × Trace → Prop} (hstart : I (manager, calls))
    (hround : ∀ state p, I state → I (startSubscriptionProcess env state p)) :
    I (manager.startNewSubscriptionProcess env calls) := by
  unfold startNewSubscriptionProcess
  split
  · exact hstart
  · refine List.foldlRecOn (motive := I) manager.mVoiceAgents.values _ hstart ?_
    intro state hstate p _
    exact hround state p hstate

/-- `startNewSubscriptionProcess` changes nothing but its flag. -/
theorem startNewSubscriptionProcess_manager (env : Environment)
    (manager : VoiceAgentsDataManager) (calls : Trace) :
    ∃ flag, (manager.startNewSubscriptionProcess env calls).1 =
      { manager with mAlreadyPeformedSubscriptions := flag } := by
  refine startNewSubscriptionProcess_induction
    (I := fun state => ∃ flag, state.1 =
      { manager with mAlreadyPeformedSubscriptions := flag })
    ⟨manager.mAlreadyPeformedSubscriptions, rfl⟩ ?_
  rintro state p ⟨flag, hflag⟩
  refine ⟨true, ?_⟩
  rw [startSubscriptionProcess, hflag]

theorem startNewSubscriptionProcess_calls (env : Environment)
    (manager : VoiceAgentsDataManager) (calls : Trace) :
    ∃ added : Trace,
      (manager.startNewSubscriptionProcess env calls).2 = calls ++ added ∧
        ∀ call ∈ added, IsSubscriptionCall call := by
  refine startNewSubscriptionProcess_induction
    (I := fun state => ∃ added : Trace, state.2 = calls ++ added ∧
      ∀ call ∈ added, IsSubscriptionCall call)
    ⟨[], (List.append_nil calls).symm, by simp⟩ ?_
  rintro state p ⟨first, hfirst, honly⟩
  obtain ⟨others, hothers, honly'⟩ :=
    callStartSubscriptionProcessAPI_calls env state.2 (state.1.agents.object p)
  refine ⟨first ++ others, ?_, ?_⟩
  · rw [startSubscriptionProcess, hothers, hfirst, List.append_assoc]
  · intro call hcall
    rcases List.mem_append.mp hcall with hmem | hmem
    · exact honly call hmem
    · exact honly' call hmem

/-- What a subscription finds: a registered agent and, if the name is in `VSHL_EVENTS`, what
is stored as the agent's event of this name. -/
def eventFor (manager : VoiceAgentsDataManager) (eventName voiceAgentId : String) :
    Option (VoiceAgent × Option EventPtr) :=
  match manager.mVoiceAgents.find voiceAgentId with
  | none => none
  | some p =>
      if eventName ∈ VSHL_EVENTS then
        (manager.mVoiceAgentEventsHandler.mEventsMap.find
          (createEventNameWithVAId eventName (manager.agents.object p).mId)).map
            fun stored => (manager.agents.object p, stored)
      else none

theorem subscribeToVshlEventFromVoiceAgent_eq (env : Environment)
    (manager : VoiceAgentsDataManager) (calls : Trace) (request : RequestPtr)
    (eventName voiceAgentId : String) :
    manager.subscribeToVshlEventFromVoiceAgent env calls request eventName voiceAgentId =
      match manager.eventFor eventName voiceAgentId with
      | none => (.ok false, calls)
      | some (_, none) => (.error .nullDereference, calls)
      | some (voiceAgent, some event) =>
          (.ok true, (VoiceAgentEventsHandler.callSubscribeVerb env
            (env.doSubscribe calls event request).2 voiceAgent).2) := by
  unfold subscribeToVshlEventFromVoiceAgent eventFor
    VoiceAgentEventsHandler.subscribeToVshlEventFromVoiceAgent
  cases manager.mVoiceAgents.find voiceAgentId with
  | none => rfl
  | some p =>
      simp only
      by_cases hname : eventName ∈ VSHL_EVENTS
      · rw [if_neg (not_not_intro hname), if_pos hname]
        cases manager.mVoiceAgentEventsHandler.mEventsMap.find
            (createEventNameWithVAId eventName (manager.agents.object p).mId) with
        | none => rfl
        | some stored => cases stored <;> rfl
      · rw [if_pos hname, if_neg hname]

/-- `getAllVoiceAgents` is what the map holds. -/
theorem mem_getAllVoiceAgents {manager : VoiceAgentsDataManager} {p : AgentPtr} :
    p ∈ manager.getAllVoiceAgents ↔ ∃ id, manager.mVoiceAgents.find id = some p := by
  unfold getAllVoiceAgents
  rw [UnorderedSet.mem_insertAll, UnorderedMap.mem_values_iff]
  simp only [UnorderedSet.notMem_empty, false_or]

end VoiceAgentsDataManager

end Vshl.VoiceAgents
