/-
  VoiceAgents/Mirror.lean --- the copy of the registry that an observer keeps.

  The copy is fed by callbacks only, so it shows what the data manager holds exactly if
  every change is told and nothing is told that did not happen.  An observer that is
  registered whenever an agent is (`Watched`) misses nothing.
-/
import Vshl.VoiceAgents.Registry

set_option autoImplicit false

namespace Vshl.VoiceAgents

open Vshl.Foundation
open Vshl.Interfaces
open VoiceAgentsDataManager

/-- What an observer knows of the registry. -/
structure Mirror where
  agent : String → Option VoiceAgent
  defaultId : String

namespace Mirror

/-- Before the first callback. -/
def empty : Mirror := ⟨fun _ => none, ""⟩

/-- Set or erase the entry under an id. -/
def put (mirror : Mirror) (id : String) (entry : Option VoiceAgent) : Mirror :=
  { mirror with agent := Function.update mirror.agent id entry }

/-- The reaction to one callback; the agent is read as the callback finds it. -/
def observe (mirror : Mirror) (notification : Notification) : Mirror :=
  let voiceAgent := notification.seen.agents.object notification.voiceAgent
  let known := mirror.agent voiceAgent.mId
  match notification.callback with
  | .OnDefaultVoiceAgentChanged => { mirror with defaultId := voiceAgent.mId }
  | .OnVoiceAgentAdded => mirror.put voiceAgent.mId (some voiceAgent)
  | .OnVoiceAgentRemoved => mirror.put voiceAgent.mId none
  | .OnVoiceAgentActiveWakeWordChanged =>
      mirror.put voiceAgent.mId (known.map fun agent =>
        { agent with mActiveWakeword := voiceAgent.mActiveWakeword })
  | .OnVoiceAgentActivated =>
      mirror.put voiceAgent.mId (known.map fun agent => agent.setIsActive true)
  | .OnVoiceAgentDeactivated =>
      mirror.put voiceAgent.mId (known.map fun agent => agent.setIsActive false)

/-- The reaction to what one operation tells. -/
def observeAll (mirror : Mirror) (observer : ObserverPtr) (notified : List Notification) :
    Mirror :=
  (received observer notified).foldl observe mirror

/-- The copy after a run. -/
def after (env : Environment) (observer : ObserverPtr) (ops : List Op) : Mirror :=
  (machine env).replay (fun mirror _ output => mirror.observeAll observer output.notified)
    .initial .empty ops

/-- The copy is what the data manager holds. -/
structure Shows (mirror : Mirror) (manager : VoiceAgentsDataManager) : Prop where
  agents : ∀ id, mirror.agent id = (manager.mVoiceAgents.find id).map manager.agents.object
  default : mirror.defaultId = manager.getDefaultVoiceAgent

@[simp] theorem observeAll_nil (mirror : Mirror) (observer : ObserverPtr) :
    mirror.observeAll observer [] = mirror := rfl

theorem observeAll_append (mirror : Mirror) (observer : ObserverPtr)
    (first second : List Notification) :
    mirror.observeAll observer (first ++ second) =
      (mirror.observeAll observer first).observeAll observer second := by
  simp only [observeAll, received_append, List.foldl_append]

theorem observeAll_notifyObservers {manager : VoiceAgentsDataManager} {observer : ObserverPtr}
    (h : observer ∈ manager.mVoiceAgentChangeObservers) (mirror : Mirror)
    (callback : Callback) (voiceAgent : AgentPtr) :
    mirror.observeAll observer (manager.notifyObservers callback voiceAgent) =
      mirror.observe ⟨observer, callback, voiceAgent, manager⟩ := by
  rw [observeAll, received_notifyObservers h]
  rfl

end Mirror

/-- The observer is registered, or there is no agent to be told of. -/
def Watched (observer : ObserverPtr) (manager : VoiceAgentsDataManager) : Prop :=
  observer ∈ manager.mVoiceAgentChangeObservers ∨ ∀ id, manager.mVoiceAgents.find id = none

theorem Watched.mem {observer : ObserverPtr} {manager : VoiceAgentsDataManager}
    (h : Watched observer manager) {id : String} {p : AgentPtr}
    (hfind : manager.mVoiceAgents.find id = some p) :
    observer ∈ manager.mVoiceAgentChangeObservers := by
  rcases h with hmem | hnone
  · exact hmem
  · exact absurd (hfind.symm.trans (hnone id)) (by simp)

/-- Every agent is registered under its own id. -/
def Named (manager : VoiceAgentsDataManager) : Prop :=
  ∀ id p, manager.mVoiceAgents.find id = some p → (manager.agents.object p).mId = id

/-! ## One change -/

namespace Mirror

section

variable {mirror : Mirror} {manager : VoiceAgentsDataManager}

/-- One object changes, and its entry with it. -/
theorem Shows.set (h : mirror.Shows manager) (hnamed : Named manager) {id : String}
    {p : AgentPtr} (hfind : manager.mVoiceAgents.find id = some p) (agent : VoiceAgent) :
    (mirror.put id (some agent)).Shows
      { manager with agents := manager.agents.set p agent } := by
  refine ⟨?_, h.default⟩
  intro id'
  by_cases hid : id' = id
  · subst hid
    simp only [put, Function.update_self, hfind, Option.map_some, AgentStore.set_object_self]
  · simp only [put, Function.update_of_ne hid, h.agents id']
    cases hfind' : manager.mVoiceAgents.find id' with
    | none => rfl
    | some q =>
        -- two ids are never stored with one pointer
        have hne : q ≠ p := by
          rintro rfl
          exact hid ((hnamed id' q hfind').symm.trans (hnamed id q hfind))
        simp only [Option.map_some, AgentStore.set_object_of_ne agent hne]

theorem Shows.agent_eq (h : mirror.Shows manager) {id : String} {p : AgentPtr}
    (hfind : manager.mVoiceAgents.find id = some p) :
    mirror.agent id = some (manager.agents.object p) := by
  rw [h.agents, hfind, Option.map_some]

/-! ## One operation -/

variable {observer : ObserverPtr}

theorem Shows.addNewVoiceAgent (h : mirror.Shows manager) (env : Environment) (calls : Trace)
    (args : VoiceAgent.Args)
    (hlt : ∀ id p, manager.mVoiceAgents.find id = some p → p < manager.agents.next)
    (hwatched : Watched observer (manager.addNewVoiceAgent env calls args).1.manager) :
    (mirror.observeAll observer (manager.addNewVoiceAgent env calls args).1.notified).Shows
      (manager.addNewVoiceAgent env calls args).1.manager := by
  rw [addNewVoiceAgent_eq] at hwatched ⊢
  cases hcreate : VoiceAgent.create args with
  | none => exact h
  | some voiceAgent =>
      simp only [hcreate] at hwatched ⊢
      split
      · rename_i hnew
        rw [if_pos hnew] at hwatched
        have hfind : ∀ id, (manager.withAgent env calls voiceAgent).1.manager.mVoiceAgents.find id =
            if id = voiceAgent.mId then some manager.agents.next
            else manager.mVoiceAgents.find id :=
          UnorderedMap.find_emplace_of_none _ hnew.2
        -- the agent is in the map when the observers are told, so the observer is one of them
        have hmem : observer ∈ manager.mVoiceAgentChangeObservers :=
          hwatched.mem ((hfind voiceAgent.mId).trans (if_pos rfl))
        have htold : mirror.observeAll observer
            (manager.withAgent env calls voiceAgent).1.notified =
            mirror.put voiceAgent.mId (some voiceAgent) := by
          refine (observeAll_notifyObservers ?_ mirror _ _).trans ?_
          · exact hmem
          · simp only [observe, AgentStore.alloc_object_next]
        rw [htold]
        refine ⟨?_, h.default⟩
        intro id
        rw [hfind]
        by_cases hid : id = voiceAgent.mId
        · rw [if_pos hid, hid]
          simp [put, withAgent]
        · rw [if_neg hid]
          simp only [put, Function.update_of_ne hid, h.agents id]
          cases hold : manager.mVoiceAgents.find id with
          | none => rfl
          | some p =>
              have hsame := AgentStore.alloc_object_of_lt voiceAgent (hlt id p hold)
              exact congrArg some hsame.symm
      · exact h

theorem Shows.removeVoiceAgent (h : mirror.Shows manager) (hnamed : Named manager)
    (hwatched : Watched observer manager) (voiceAgentId : String) :
    (mirror.observeAll observer (manager.removeVoiceAgent voiceAgentId).notified).Shows
      (manager.removeVoiceAgent voiceAgentId).manager := by
  rw [removeVoiceAgent_eq]
  cases hfind : manager.mVoiceAgents.find voiceAgentId with
  | none => exact h
  | some p =>
      have htold : mirror.observeAll observer
          (manager.withoutAgent voiceAgentId p).notified = mirror.put voiceAgentId none := by
        refine (observeAll_notifyObservers ?_ mirror _ _).trans ?_
        · exact hwatched.mem hfind
        · simp only [observe, hnamed voiceAgentId p hfind]
      simp only [htold]
      refine ⟨?_, h.default⟩
      intro id
      simp only [withoutAgent, UnorderedMap.find_remove]
      by_cases hid : id = voiceAgentId
      · simp [put, hid]
      · rw [if_neg hid]
        simp only [put, Function.update_of_ne hid, h.agents id]

theorem Shows.setDefaultVoiceAgent (h : mirror.Shows manager) (hnamed : Named manager)
    (hwatched : Watched observer manager) (voiceAgentId : String) :
    (mirror.observeAll observer (manager.setDefaultVoiceAgent voiceAgentId).notified).Shows
      (manager.setDefaultVoiceAgent voiceAgentId).manager := by
  rw [setDefaultVoiceAgent_eq]
  split
  · exact h
  · cases hfind : manager.mVoiceAgents.find voiceAgentId with
    | none => exact h
    | some p =>
        by_cases hsame : manager.mDefaultVoiceAgentId = voiceAgentId
        · -- nothing is told, and nothing changes
          simp only [withDefault, hsame, ne_eq, not_true_eq_false, if_false, observeAll_nil]
          exact ⟨h.agents, h.default.trans hsame⟩
        · simp only [withDefault, ne_eq, hsame, not_false_eq_true, if_true,
            observeAll_notifyObservers (hwatched.mem hfind)]
          exact ⟨h.agents, hnamed voiceAgentId p hfind⟩

theorem Shows.setActiveWakeWord (h : mirror.Shows manager) (hnamed : Named manager)
    (hwatched : Watched observer manager) (voiceAgentId wakeword : String) :
    (mirror.observeAll observer
        (manager.setActiveWakeWord voiceAgentId wakeword).notified).Shows
      (manager.setActiveWakeWord voiceAgentId wakeword).manager := by
  unfold VoiceAgentsDataManager.setActiveWakeWord
  split
  · exact h
  · cases hfind : manager.mVoiceAgents.find voiceAgentId with
    | none => exact h
    | some p =>
        simp only
        split
        · have hid : ((manager.agents.object p).setActiveWakeWord wakeword).1.mId =
              voiceAgentId :=
            ((manager.agents.object p).setActiveWakeWord_evolves wakeword).id.trans
              (hnamed voiceAgentId p hfind)
          have htold : mirror.observeAll observer
              (notifyObservers
                { manager with
                  agents := manager.agents.set p
                    ((manager.agents.object p).setActiveWakeWord wakeword).1 }
                .OnVoiceAgentActiveWakeWordChanged p) =
              mirror.put voiceAgentId
                (some ((manager.agents.object p).setActiveWakeWord wakeword).1) := by
            refine (observeAll_notifyObservers ?_ mirror _ _).trans ?_
            · exact hwatched.mem hfind
            · simp only [observe, AgentStore.set_object_self, hid, h.agent_eq hfind,
                Option.map_some]
              unfold VoiceAgent.setActiveWakeWord
              split <;> rfl
          rw [htold]
          exact h.set hnamed hfind _
        · exact h

/-- The callback tells of an agent that becomes active, or inactive. -/
def Announces (callback : Callback) (active : Bool) : Prop :=
  callback = .OnVoiceAgentActivated ∧ active = true ∨
    callback = .OnVoiceAgentDeactivated ∧ active = false

theorem observe_of_announces {callback : Callback} {active : Bool}
    (h : Announces callback active) (mirror : Mirror) (p : AgentPtr)
    (seen : VoiceAgentsDataManager) :
    mirror.observe ⟨observer, callback, p, seen⟩ =
      mirror.put (seen.agents.object p).mId
        ((mirror.agent (seen.agents.object p).mId).map fun agent => agent.setIsActive active) := by
  rcases h with ⟨rfl, rfl⟩ | ⟨rfl, rfl⟩
  · rfl
  · rfl

/-- One round of the loop of `activateVoiceAgents` and `deactivateVoiceAgents`. -/
theorem Shows.setVoiceAgentActive {callback : Callback} {active : Bool}
    (hcallback : Announces callback active) {state : Outcome Nat}
    (h : (mirror.observeAll observer state.notified).Shows state.manager)
    (hnamed : Named state.manager) (hwatched : Watched observer state.manager)
    (voiceAgentId : String) :
    (mirror.observeAll observer
        (VoiceAgentsDataManager.setVoiceAgentActive active callback state
          voiceAgentId).notified).Shows
      (VoiceAgentsDataManager.setVoiceAgentActive active callback state
        voiceAgentId).manager := by
  rcases VoiceAgentsDataManager.setVoiceAgentActive_cases active callback state voiceAgentId with
    ⟨-, hround⟩ | ⟨p, -, -, hround⟩ | ⟨p, hfind, -, hround⟩
  · rwa [hround]
  · rwa [hround]
  · have hid : ((state.manager.agents.object p).setIsActive active).mId = voiceAgentId :=
      hnamed voiceAgentId p hfind
    rw [hround]
    simp only
    rw [observeAll_append, observeAll_notifyObservers]
    · rw [observe_of_announces hcallback]
      simp only [withFlag, AgentStore.set_object_self, hid, h.agent_eq hfind, Option.map_some]
      exact h.set hnamed hfind _
    · exact hwatched.mem hfind

end

end Mirror

theorem Named.agentsEvolve {manager manager' : VoiceAgentsDataManager} (h : Named manager)
    (hev : manager.AgentsEvolve manager') : Named manager' := by
  obtain ⟨store, rfl, -, hobject⟩ := hev
  intro id p hfind
  exact (hobject p).id.trans (h id p hfind)

theorem Watched.agentsEvolve {observer : ObserverPtr} {manager manager' : VoiceAgentsDataManager}
    (h : Watched observer manager) (hev : manager.AgentsEvolve manager') :
    Watched observer manager' := by
  obtain ⟨store, rfl, -, -⟩ := hev
  exact h

namespace Mirror

theorem Shows.setVoiceAgentsActive {mirror : Mirror} {manager : VoiceAgentsDataManager}
    {observer : ObserverPtr} {callback : Callback} {active : Bool} (h : mirror.Shows manager)
    (hcallback : Announces callback active) (hnamed : Named manager)
    (hwatched : Watched observer manager) (voiceAgentIds : UnorderedSet String) :
    (mirror.observeAll observer
        (VoiceAgentsDataManager.setVoiceAgentsActive active callback manager
          voiceAgentIds).notified).Shows
      (VoiceAgentsDataManager.setVoiceAgentsActive active callback manager
        voiceAgentIds).manager := by
  -- what is registered and who watches stays the same in the loop
  refine (VoiceAgentsDataManager.setVoiceAgentsActive_induction
    (I := fun state => manager.AgentsEvolve state.manager ∧
      (mirror.observeAll observer state.notified).Shows state.manager)
    ⟨AgentsEvolve.refl manager, h⟩ ?_).2
  rintro state id ⟨hevolves, hshows⟩
  refine ⟨hevolves.trans (setVoiceAgentActive_evolves active callback state id), ?_⟩
  exact hshows.setVoiceAgentActive hcallback (hnamed.agentsEvolve hevolves)
    (hwatched.agentsEvolve hevolves) id

/-! ## Any operation, any run -/

section

variable {env : Environment} {observer : ObserverPtr} {mirror : Mirror} {s : State}

/-- An operation that tells nothing and changes neither an agent nor the default. -/
theorem Shows.ofSame {manager manager' : VoiceAgentsDataManager} (h : mirror.Shows manager)
    (hfind : ∀ id, manager'.mVoiceAgents.find id = manager.mVoiceAgents.find id)
    (hagents : manager'.agents = manager.agents)
    (hdefault : manager'.mDefaultVoiceAgentId = manager.mDefaultVoiceAgentId) :
    mirror.Shows manager' := by
  refine ⟨?_, h.default.trans hdefault.symm⟩
  intro id
  rw [hfind, hagents]
  exact h.agents id

theorem Shows.step (hwf : AgentsWf s) (h : mirror.Shows s.manager) (op : Op)
    (hwatched : Watched observer s.manager)
    (hnext : Watched observer ((machine env).next s op).manager) :
    (mirror.observeAll observer ((machine env).output s op).notified).Shows
      ((machine env).next s op).manager := by
  cases op with
  | addNewVoiceAgent args => exact h.addNewVoiceAgent env s.calls args hwf.lt_next hnext
  | removeVoiceAgent id => exact h.removeVoiceAgent hwf.id_eq hwatched id
  | setDefaultVoiceAgent id => exact h.setDefaultVoiceAgent hwf.id_eq hwatched id
  | activateVoiceAgents ids =>
      exact h.setVoiceAgentsActive (Or.inl ⟨rfl, rfl⟩) hwf.id_eq hwatched ids
  | deactivateVoiceAgents ids =>
      exact h.setVoiceAgentsActive (Or.inr ⟨rfl, rfl⟩) hwf.id_eq hwatched ids
  | setActiveWakeWord id wakeword =>
      exact h.setActiveWakeWord hwf.id_eq hwatched id wakeword
  | subscribeToVshlEventFromVoiceAgent request eventName id => exact h
  | startNewSubscriptionProcess =>
      obtain ⟨flag, hflag⟩ := s.manager.startNewSubscriptionProcess_manager env s.calls
      refine h.ofSame ?_ ?_ ?_ <;> simp only [machine, Machine.next, VoiceAgents.step, hflag]
      exact fun _ => trivial
  | addVoiceAgentsChangeObserver added =>
      cases added with
      | none => exact h
      | some added => exact h.ofSame (fun _ => rfl) rfl rfl
  | removeVoiceAgentsChangeObserver removed =>
      cases removed with
      | none => exact h
      | some removed => exact h.ofSame (fun _ => rfl) rfl rfl
  | handleIncomingEvent eventName id payload => exact h
  | rehash voiceAgents observers =>
      obtain ⟨hfind, hdefault, -, -, -, -⟩ := rehash_frame s voiceAgents observers
      refine h.ofSame hfind ?_ hdefault
      simp only [machine, Machine.next, VoiceAgents.step, VoiceAgents.rehash]
      split <;> rfl

end

theorem shows_initial : empty.Shows State.initial.manager := by
  refine ⟨?_, rfl⟩
  intro id
  have hnone : State.initial.manager.mVoiceAgents.find id = none := UnorderedMap.find_empty id
  rw [hnone]
  rfl

end Mirror

/-- After every run in which the observer is registered whenever an agent is, its copy is
what the data manager holds. -/
theorem mirror_shows {env : Environment} {observer : ObserverPtr} {ops : List Op}
    (hwatched : ∀ front back, ops = front ++ back →
      Watched observer ((machine env).run .initial front).manager) :
    (Mirror.after env observer ops).Shows ((machine env).run .initial ops).manager := by
  have hguarded : (machine env).Guarded
      (fun s op => Watched observer s.manager ∧
        Watched observer ((machine env).next s op).manager) .initial ops := by
    rw [Machine.guarded_iff_split]
    intro front op back hsplit
    refine ⟨hwatched front _ hsplit, ?_⟩
    rw [← Machine.run_concat]
    exact hwatched (front ++ [op]) back (by rw [hsplit, List.append_assoc]; rfl)
  refine ((machine env).replay_simulation_of_guarded
    (R := fun s (mirror : Mirror) => AgentsWf s ∧ mirror.Shows s.manager) ?_ ?_ hguarded).2
  · rintro s mirror op ⟨hnow, hnext⟩ ⟨hwf, hshows⟩
    exact ⟨agentsWf_step env s op hwf, hshows.step hwf op hnow hnext⟩
  · exact ⟨registryWf_initial.toAgentsWf, Mirror.shows_initial⟩

/-- No agent was ever registered before the observer, and it is not removed. -/
structure ObservesFromStart (env : Environment) (observer : ObserverPtr)
    (before after : List Op) : Prop where
  noAgent : ∀ front back, before = front ++ back →
    ∀ id, ((machine env).run .initial front).manager.mVoiceAgents.find id = none
  kept : .removeVoiceAgentsChangeObserver (some observer) ∉ after

theorem ObservesFromStart.watched {env : Environment} {observer : ObserverPtr}
    {before after : List Op} (h : ObservesFromStart env observer before after) :
    ∀ front back,
      before ++ .addVoiceAgentsChangeObserver (some observer) :: after = front ++ back →
      Watched observer ((machine env).run .initial front).manager := by
  intro front back hsplit
  rcases List.append_eq_append_iff.mp hsplit with ⟨since, rfl, hrest⟩ | ⟨rest, hbefore, -⟩
  · cases since with
    | nil => exact Or.inr (h.noAgent _ [] (by simp))
    | cons first kept =>
        obtain ⟨rfl, rfl⟩ := List.cons.inj hrest
        rw [Machine.run_append, Machine.run_cons]
        refine Or.inl ((machine env).run_invariant_of_guarded
          (I := fun s => observer ∈ s.manager.mVoiceAgentChangeObservers)
          (G := fun _ op => op ≠ .removeVoiceAgentsChangeObserver (some observer)) ?_ ?_ ?_)
        · exact fun s op hop hmem => step_observers hop hmem
        · exact UnorderedSet.mem_insert.mpr (Or.inl rfl)
        · rw [Machine.guarded_iff_split]
          rintro early op late hkept rfl
          exact h.kept (by rw [hkept]; simp)
  · exact Or.inr (h.noAgent front rest hbefore)

/-- An observer that is there from the start can rebuild the registry at any time: the
operations after it are arbitrary, so the copy is right after each of them. -/
theorem mirror_faithful {env : Environment} {observer : ObserverPtr} {before after : List Op}
    (h : ObservesFromStart env observer before after) :
    let ops := before ++ .addVoiceAgentsChangeObserver (some observer) :: after
    (Mirror.after env observer ops).Shows ((machine env).run .initial ops).manager :=
  mirror_shows h.watched

/-- Another observer comes first and goes again; of two agents one is left. -/
theorem mirror_faithful_two_agents :
    let before : List Op := [.addVoiceAgentsChangeObserver (some 1)]
    let after : List Op := [.addNewVoiceAgent (.simple "VA-001" "first"),
      .addNewVoiceAgent (.simple "VA-002" "second"), .setDefaultVoiceAgent "VA-002",
      .removeVoiceAgentsChangeObserver (some 1),
      .deactivateVoiceAgents ((∅ : UnorderedSet String).insert "VA-002"),
      .removeVoiceAgent "VA-001"]
    let ops := before ++ .addVoiceAgentsChangeObserver (some 0) :: after
    (Mirror.after .obliging 0 ops).Shows ((machine .obliging).run .initial ops).manager ∧
      (Mirror.after .obliging 0 ops).agent "VA-001" = none ∧
      (Mirror.after .obliging 0 ops).agent "VA-002" =
        some { VoiceAgent.simple "VA-002" "second" with mIsActive := false } ∧
      (Mirror.after .obliging 0 ops).defaultId = "VA-002" := by
  intro before after ops
  refine ⟨mirror_faithful ⟨?_, by simp [after]⟩, by decide, by decide, by decide⟩
  intro front back hsplit id
  rcases List.singleton_eq_append_iff.mp hsplit with ⟨rfl, -⟩ | ⟨rfl, -⟩
  · exact UnorderedMap.find_empty id
  · exact UnorderedMap.find_empty id

end Vshl.VoiceAgents
