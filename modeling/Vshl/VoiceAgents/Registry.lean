/-
  VoiceAgents/Registry.lean --- what holds of the registry of a data manager after
  every run: the map of agents and the map of events agree, every agent is the one
  that was added, and what is left of the default id.
-/
import Vshl.VoiceAgents.Runs

set_option autoImplicit false

namespace Vshl.VoiceAgents

open Vshl.Foundation
open Vshl.Interfaces

/-! ## The agents -/

/-- The invariant of the map of agents. -/
structure AgentsWf (s : State) : Prop where
  id_ne : ∀ id p, s.manager.mVoiceAgents.find id = some p → id ≠ ""
  id_eq : ∀ id p, s.manager.mVoiceAgents.find id = some p →
    (s.manager.agents.object p).mId = id
  lt_next : ∀ id p, s.manager.mVoiceAgents.find id = some p → p < s.manager.agents.next
  wf : ∀ id p, s.manager.mVoiceAgents.find id = some p → (s.manager.agents.object p).Wf

theorem AgentsWf.of_empty {s : State}
    (hempty : ∀ id, s.manager.mVoiceAgents.find id = none) : AgentsWf s := by
  have hnone : ∀ id p, s.manager.mVoiceAgents.find id ≠ some p := by
    intro id p
    rw [hempty id]
    simp
  exact ⟨fun id p h => absurd h (hnone id p), fun id p h => absurd h (hnone id p),
    fun id p h => absurd h (hnone id p), fun id p h => absurd h (hnone id p)⟩

theorem AgentsWf.frame {s s' : State} (hwf : AgentsWf s) (h : Frame s s') :
    AgentsWf s' := by
  refine ⟨?_, ?_, ?_, ?_⟩
  · intro id p hfind
    rw [h.find] at hfind
    exact hwf.id_ne id p hfind
  · intro id p hfind
    rw [h.find] at hfind
    exact (h.agents p).id.trans (hwf.id_eq id p hfind)
  · intro id p hfind
    rw [h.find] at hfind
    rw [h.next]
    exact hwf.lt_next id p hfind
  · intro id p hfind
    rw [h.find] at hfind
    exact (h.agents p).wf (hwf.wf id p hfind)

/-- Which agents are there after an add. -/
theorem Added.mem_iff {env : Environment} {s s' : State} {args : VoiceAgent.Args}
    (h : Added env s args s') (id : String) :
    id ∈ s'.manager.mVoiceAgents ↔ id ∈ s.manager.mVoiceAgents ∨ id = args.id := by
  simp only [UnorderedMap.mem_iff_find, h.find]
  by_cases hid : id = args.id
  · simp [hid]
  · simp [hid]

theorem Added.next {env : Environment} {s s' : State} {args : VoiceAgent.Args}
    (h : Added env s args s') : s'.manager.agents.next = s.manager.agents.next + 1 := by
  obtain ⟨voiceAgent, -, hagents⟩ := h.agents
  rw [hagents, AgentStore.alloc_next]

/-- An agent found after an add is the new one or was there before and is
untouched. -/
theorem Added.find_cases {env : Environment} {s s' : State} {args : VoiceAgent.Args}
    (h : Added env s args s') (hwf : AgentsWf s) {id : String} {p : AgentPtr}
    (hfind : s'.manager.mVoiceAgents.find id = some p) :
    (id = args.id ∧ p = s.manager.agents.next ∧
        VoiceAgent.create args = some (s'.manager.agents.object p)) ∨
      (s.manager.mVoiceAgents.find id = some p ∧
        s'.manager.agents.object p = s.manager.agents.object p) := by
  obtain ⟨voiceAgent, hcreate, hagents⟩ := h.agents
  rw [h.find] at hfind
  split at hfind
  · rename_i hid
    obtain rfl := Option.some.inj hfind
    refine Or.inl ⟨hid, rfl, ?_⟩
    rw [hagents, AgentStore.alloc_object_next]
    exact hcreate
  · refine Or.inr ⟨hfind, ?_⟩
    rw [hagents]
    exact AgentStore.alloc_object_of_lt voiceAgent (hwf.lt_next id p hfind)

theorem AgentsWf.added {env : Environment} {s s' : State} {args : VoiceAgent.Args}
    (hwf : AgentsWf s) (h : Added env s args s') : AgentsWf s' := by
  refine ⟨?_, ?_, ?_, ?_⟩
  · intro id p hfind
    rcases h.find_cases hwf hfind with ⟨hid, -, -⟩ | ⟨hold, -⟩
    · rw [hid]
      exact h.id_ne
    · exact hwf.id_ne id p hold
  · intro id p hfind
    rcases h.find_cases hwf hfind with ⟨hid, -, hcreate⟩ | ⟨hold, hsame⟩
    · rw [hid]
      exact (VoiceAgent.create_eq_some_iff.mp hcreate).1.id
    · rw [hsame]
      exact hwf.id_eq id p hold
  · intro id p hfind
    rw [h.next]
    rcases h.find_cases hwf hfind with ⟨-, hp, -⟩ | ⟨hold, -⟩
    · rw [hp]
      exact Nat.lt_succ_self _
    · exact Nat.lt_succ_of_lt (hwf.lt_next id p hold)
  · intro id p hfind
    rcases h.find_cases hwf hfind with ⟨-, -, hcreate⟩ | ⟨hold, hsame⟩
    · exact (VoiceAgent.create_eq_some_iff.mp hcreate).2.1
    · rw [hsame]
      exact hwf.wf id p hold

theorem Removed.mem_iff {s s' : State} {voiceAgentId : String} {p : AgentPtr}
    (h : Removed s voiceAgentId p s') (id : String) :
    id ∈ s'.manager.mVoiceAgents ↔ id ∈ s.manager.mVoiceAgents ∧ id ≠ voiceAgentId := by
  simp only [UnorderedMap.mem_iff_find, h.find]
  by_cases hid : id = voiceAgentId
  · simp [hid]
  · simp [hid]

theorem Removed.find_of_find {s s' : State} {voiceAgentId : String} {p : AgentPtr}
    (h : Removed s voiceAgentId p s') {id : String} {q : AgentPtr}
    (hfind : s'.manager.mVoiceAgents.find id = some q) :
    s.manager.mVoiceAgents.find id = some q := by
  rw [h.find] at hfind
  split at hfind
  · exact absurd hfind (by simp)
  · exact hfind

theorem AgentsWf.removed {s s' : State} {voiceAgentId : String} {p : AgentPtr}
    (hwf : AgentsWf s) (h : Removed s voiceAgentId p s') : AgentsWf s' := by
  refine ⟨?_, ?_, ?_, ?_⟩
  · intro id q hfind
    exact hwf.id_ne id q (h.find_of_find hfind)
  · intro id q hfind
    rw [h.agents]
    exact hwf.id_eq id q (h.find_of_find hfind)
  · intro id q hfind
    rw [h.agents]
    exact hwf.lt_next id q (h.find_of_find hfind)
  · intro id q hfind
    rw [h.agents]
    exact hwf.wf id q (h.find_of_find hfind)

theorem agentsWf_step (env : Environment) (s : State) (op : Op) (hwf : AgentsWf s) :
    AgentsWf ((machine env).next s op) := by
  rcases next_effect env s op with h | ⟨args, -, h⟩ | ⟨id, p, -, h⟩ | ⟨id, p, -, -, -, h⟩
  · exact hwf.frame h
  · exact hwf.added h
  · exact hwf.removed h
  · rw [h]
    exact ⟨hwf.id_ne, hwf.id_eq, hwf.lt_next, hwf.wf⟩

theorem agentsWf_run (env : Environment) (ops : List Op) :
    AgentsWf ((machine env).run State.initial ops) :=
  (machine env).run_invariant (agentsWf_step env) (AgentsWf.of_empty UnorderedMap.find_empty) ops

/-! ## The agents and their events -/

/-- The invariant of the two maps. -/
structure RegistryWf (s : State) : Prop extends AgentsWf s where
  owns : s.manager.mVoiceAgentEventsHandler.Owns fun id => id ∈ s.manager.mVoiceAgents
  backed : s.manager.mVoiceAgentEventsHandler.Backed s.calls

theorem registryWf_initial : RegistryWf State.initial := by
  refine ⟨AgentsWf.of_empty UnorderedMap.find_empty, ?_, ?_⟩
  · intro key
    refine (VoiceAgentEventsHandler.create_owns key).trans ?_
    have hnone : ∀ id, id ∉ State.initial.manager.mVoiceAgents :=
      fun id => AList.notMem_empty id
    simp only [hnone, false_and, exists_false]
  · intro key event h
    exact absurd h ((UnorderedMap.find_empty key).trans_ne (by simp))

theorem RegistryWf.frame {s s' : State} (hwf : RegistryWf s) (h : Frame s s') :
    RegistryWf s' := by
  refine ⟨hwf.toAgentsWf.frame h, ?_, ?_⟩
  · intro key
    rw [h.events]
    simp only [UnorderedMap.mem_iff_find, h.find]
    simpa only [UnorderedMap.mem_iff_find] using hwf.owns key
  · rw [h.events]
    obtain ⟨added, hadded⟩ := h.calls
    rw [← hadded]
    exact hwf.backed.append added

theorem RegistryWf.added {env : Environment} (henv : env.afbApi = true) {s s' : State}
    {args : VoiceAgent.Args} (hwf : RegistryWf s) (h : Added env s args s') :
    RegistryWf s' := by
  obtain ⟨hhandler, hcalls⟩ := Prod.ext_iff.mp h.events
  simp only at hhandler hcalls
  have hcreated := VoiceAgentEventsHandler.createVshlEventsForVoiceAgent_created env
    s.manager.mVoiceAgentEventsHandler s.calls args.id
  refine ⟨hwf.toAgentsWf.added h, ?_, ?_⟩
  · intro key
    rw [hhandler]
    simp only [h.mem_iff]
    exact hwf.owns.createVshlEvents henv s.calls args.id key
  · rw [hhandler, hcalls]
    exact hcreated.backed hwf.backed

theorem RegistryWf.removed {s s' : State} {voiceAgentId : String} {p : AgentPtr}
    (hwf : RegistryWf s) (h : Removed s voiceAgentId p s') : RegistryWf s' := by
  have hid : (s.manager.agents.object p).mId = voiceAgentId :=
    hwf.id_eq voiceAgentId p h.found
  refine ⟨hwf.toAgentsWf.removed h, ?_, ?_⟩
  · intro key
    rw [h.events, hid]
    simp only [h.mem_iff]
    exact hwf.owns.removeVshlEvents voiceAgentId key
  · rw [h.events, h.calls]
    exact hwf.backed.removeVshlEvents _

theorem registryWf_step {env : Environment} (henv : env.afbApi = true) (s : State) (op : Op)
    (hwf : RegistryWf s) : RegistryWf ((machine env).next s op) := by
  rcases next_effect env s op with h | ⟨args, -, h⟩ | ⟨id, p, -, h⟩ | ⟨id, p, -, -, -, h⟩
  · exact hwf.frame h
  · exact hwf.added henv h
  · exact hwf.removed h
  · rw [h]
    exact ⟨⟨hwf.id_ne, hwf.id_eq, hwf.lt_next, hwf.wf⟩, hwf.owns, hwf.backed⟩

theorem registryWf_run {env : Environment} (henv : env.afbApi = true) (ops : List Op) :
    RegistryWf ((machine env).run State.initial ops) :=
  (machine env).run_invariant (registryWf_step henv) registryWf_initial ops

/-! ## Where an agent comes from -/

/-- Some step of the run registered the object under the id, with these
arguments. -/
def AddedBy (env : Environment) (ops : List Op) (id : String) (p : AgentPtr)
    (args : VoiceAgent.Args) : Prop :=
  ∃ before after, ops = before ++ .addNewVoiceAgent args :: after ∧ args.id = id ∧
    ((machine env).run State.initial before).manager.mVoiceAgents.find id = none ∧
    ((machine env).next ((machine env).run State.initial before)
      (.addNewVoiceAgent args)).manager.mVoiceAgents.find id = some p

theorem AddedBy.concat {env : Environment} {ops : List Op} {id : String} {p : AgentPtr}
    {args : VoiceAgent.Args} (h : AddedBy env ops id p args) (op : Op) :
    AddedBy env (ops ++ [op]) id p args := by
  obtain ⟨before, after, hops, hrest⟩ := h
  refine ⟨before, after ++ [op], ?_, hrest⟩
  rw [hops, List.append_assoc, List.cons_append]

/-- Every registered agent was added by the run, and what never changes about an
agent is as it was then.  The induction is on the run from its end, because the
last step is the one `step_effect` speaks of. -/
theorem addedBy_run {env : Environment} (henv : env.afbApi = true) (ops : List Op) :
    ∀ id p, ((machine env).run State.initial ops).manager.mVoiceAgents.find id = some p →
      ∃ args, AddedBy env ops id p args ∧
        (((machine env).run State.initial ops).manager.agents.object p).CreatedFrom
          args := by
  induction ops using List.reverseRecOn with
  | nil =>
      intro id p hfind
      exact absurd hfind ((UnorderedMap.find_empty id).trans_ne (by simp))
  | append_singleton ops op ih =>
      intro id p hfind
      have hwf := registryWf_run henv ops
      rw [Machine.run_concat] at hfind ⊢
      rcases next_effect env ((machine env).run State.initial ops) op with
        h | ⟨args, rfl, h⟩ | ⟨removed, q, -, h⟩ | ⟨newDefault, q, -, -, -, h⟩
      · obtain ⟨args, hadded, hcreated⟩ := ih id p ((h.find id).symm.trans hfind)
        exact ⟨args, hadded.concat op, hcreated.evolves (h.agents p)⟩
      · rcases h.find_cases hwf.toAgentsWf hfind with ⟨rfl, rfl, hcreate⟩ | ⟨hold, hsame⟩
        · exact ⟨args, ⟨ops, [], rfl, rfl, h.fresh, hfind⟩,
            (VoiceAgent.create_eq_some_iff.mp hcreate).1⟩
        · obtain ⟨oldArgs, hadded, hcreated⟩ := ih id p hold
          refine ⟨oldArgs, hadded.concat _, ?_⟩
          rw [hsame]
          exact hcreated
      · obtain ⟨args, hadded, hcreated⟩ := ih id p (h.find_of_find hfind)
        refine ⟨args, hadded.concat op, ?_⟩
        rw [h.agents]
        exact hcreated
      · rw [h] at hfind ⊢
        obtain ⟨args, hadded, hcreated⟩ := ih id p hfind
        exact ⟨args, hadded.concat op, hcreated⟩

/-! ## The registry after any run -/

/-- What holds of the two maps after a run. -/
structure RegistryConsistent (env : Environment) (ops : List Op) (s : State) : Prop where
  /-- the agents are stored under their own non-empty ids, have an active wakeword
  of their own and are otherwise as the run added them -/
  agents : ∀ id p, s.manager.mVoiceAgents.find id = some p →
    id ≠ "" ∧ (s.manager.agents.object p).mId = id ∧
      (s.manager.agents.object p).mActiveWakeword ∈
        (s.manager.agents.object p).mWakewords ∧
      ∃ args, AddedBy env ops id p args ∧
        (s.manager.agents.object p).CreatedFrom args
  /-- the events are those of the registered agents -/
  events : ∀ key, key ∈ s.manager.mVoiceAgentEventsHandler.mEventsMap ↔
    ∃ eventName ∈ VSHL_EVENTS, ∃ id ∈ s.manager.mVoiceAgents,
      key = eventName ++ "#" ++ id
  /-- removing an agent takes all of its events -/
  removesOwn : ∀ id ∈ s.manager.mVoiceAgents, ∀ eventName ∈ VSHL_EVENTS,
    eventName ++ "#" ++ id ∉ ((machine env).next s
      (.removeVoiceAgent id)).manager.mVoiceAgentEventsHandler.mEventsMap
  /-- and leaves every other agent its events -/
  keepsOthers : ∀ id id', id' ≠ id → ∀ eventName ∈ VSHL_EVENTS,
    ((machine env).next s (.removeVoiceAgent id)).manager.mVoiceAgentEventsHandler.mEventsMap.find
        (eventName ++ "#" ++ id') =
      s.manager.mVoiceAgentEventsHandler.mEventsMap.find (eventName ++ "#" ++ id')

theorem RegistryWf.find_events_removeVoiceAgent (env : Environment) {s : State}
    (hwf : RegistryWf s) {id : String} (hid : id ∈ s.manager.mVoiceAgents)
    {eventName id' : String} (hname : eventName ∈ VSHL_EVENTS) :
    ((machine env).next s (.removeVoiceAgent id)).manager.mVoiceAgentEventsHandler.mEventsMap.find
        (createEventNameWithVAId eventName id') =
      if id = id' then none
      else s.manager.mVoiceAgentEventsHandler.mEventsMap.find
        (createEventNameWithVAId eventName id') := by
  classical
  obtain ⟨p, hp⟩ := UnorderedMap.mem_iff_find.mp hid
  have hstep : (machine env).next s (.removeVoiceAgent id) =
      { s with manager := (s.manager.withoutAgent id p).manager } := by
    simp only [machine, Machine.next, step, VoiceAgentsDataManager.removeVoiceAgent_eq, hp]
  rw [hstep]
  simp only [VoiceAgentsDataManager.withoutAgent, hwf.id_eq id p hp,
    VoiceAgentEventsHandler.find_removeVshlEventsForVoiceAgent, isEventOf_name_iff hname]

theorem registry_consistent {env : Environment} (henv : env.afbApi = true) (ops : List Op) :
    RegistryConsistent env ops ((machine env).run State.initial ops) := by
  have hwf := registryWf_run henv ops
  refine ⟨?_, ?_, ?_, ?_⟩
  · intro id p hfind
    exact ⟨hwf.id_ne id p hfind, hwf.id_eq id p hfind, hwf.wf id p hfind,
      addedBy_run henv ops id p hfind⟩
  · intro key
    rw [hwf.owns key]
    constructor
    · intro howned
      obtain ⟨id, hid, eventName, hname, hkey⟩ := howned
      exact ⟨eventName, hname, id, hid, hkey⟩
    · intro hpair
      obtain ⟨eventName, hname, id, hid, hkey⟩ := hpair
      exact ⟨id, hid, eventName, hname, hkey⟩
  · intro id hid eventName hname
    rw [← UnorderedMap.find_eq_none]
    exact (hwf.find_events_removeVoiceAgent env hid hname).trans (if_pos rfl)
  · intro id id' hne eventName hname
    by_cases hid : id ∈ ((machine env).run State.initial ops).manager.mVoiceAgents
    · exact (hwf.find_events_removeVoiceAgent env hid hname).trans (if_neg (Ne.symm hne))
    · have hnone := UnorderedMap.find_eq_none.mpr hid
      simp only [machine, Machine.next, step, VoiceAgentsDataManager.removeVoiceAgent_eq]
      simp only [machine] at hnone
      rw [hnone]

/-- One id contains the separator, and one is registered twice. -/
theorem registry_consistent_separator :
    let ops := [.addNewVoiceAgent (.simple "VA#1" "api"),
      .addNewVoiceAgent (.simple "1" "api"), .removeVoiceAgent "1",
      .addNewVoiceAgent (.simple "1" "other")]
    RegistryConsistent .obliging ops ((machine .obliging).run State.initial ops) :=
  registry_consistent rfl _

/-! ## The default id -/

/-- The default id is empty or registered. -/
def DefaultRegistered (manager : VoiceAgentsDataManager) : Prop :=
  manager.getDefaultVoiceAgent = "" ∨ manager.getDefaultVoiceAgent ∈ manager.mVoiceAgents

instance (manager : VoiceAgentsDataManager) : Decidable (DefaultRegistered manager) :=
  inferInstanceAs (Decidable (_ ∨ _))

/-- The call removes the agent whose id is the default. -/
def RemovesDefault (s : State) (op : Op) : Prop :=
  s.manager.mDefaultVoiceAgentId ≠ "" ∧
    op = .removeVoiceAgent s.manager.mDefaultVoiceAgentId

theorem defaultRegistered_step (env : Environment) (s : State) (op : Op)
    (hop : ¬ RemovesDefault s op) (h : DefaultRegistered s.manager) :
    DefaultRegistered ((machine env).next s op).manager := by
  unfold DefaultRegistered VoiceAgentsDataManager.getDefaultVoiceAgent at h ⊢
  rcases next_effect env s op with hs | ⟨args, -, hs⟩ | ⟨id, p, rfl, hs⟩ |
    ⟨id, p, -, -, hfind, hs⟩
  · rw [hs.default]
    simp only [UnorderedMap.mem_iff_find] at h ⊢
    exact h.imp_right fun hex => hex.imp fun p hp => (hs.find _).trans hp
  · rw [hs.default]
    exact h.imp_right fun hmem => (hs.mem_iff _).mpr (Or.inl hmem)
  · rw [hs.default]
    by_cases hempty : s.manager.mDefaultVoiceAgentId = ""
    · exact Or.inl hempty
    · refine h.imp_right fun hmem => (hs.mem_iff _).mpr ⟨hmem, ?_⟩
      intro hid
      exact hop ⟨hempty, by rw [hid]⟩
  · rw [hs]
    exact Or.inr (UnorderedMap.mem_iff_find.mpr ⟨p, hfind⟩)

/-- Removing the default agent leaves its id behind as the default. -/
theorem removesDefault_step (env : Environment) (s : State) (op : Op)
    (hop : RemovesDefault s op) : ¬ DefaultRegistered ((machine env).next s op).manager := by
  obtain ⟨hne, rfl⟩ := hop
  unfold DefaultRegistered VoiceAgentsDataManager.getDefaultVoiceAgent
  simp only [machine, Machine.next, step, VoiceAgentsDataManager.removeVoiceAgent_eq,
    UnorderedMap.mem_iff_find]
  cases hfind : s.manager.mVoiceAgents.find s.manager.mDefaultVoiceAgentId with
  | none => simp [hne, hfind]
  | some p => simp [hne, VoiceAgentsDataManager.withoutAgent, UnorderedMap.find_remove]

/-- The default never dangles during a run exactly when no step of the run
removes the default agent. -/
theorem default_registered_iff (env : Environment) (ops : List Op) :
    (∀ before after, ops = before ++ after →
        DefaultRegistered ((machine env).run State.initial before).manager) ↔
      (machine env).Guarded (fun s op => ¬ RemovesDefault s op) State.initial ops := by
  constructor
  · intro hall
    rw [Machine.guarded_iff_split]
    intro before op after hops hremoves
    refine removesDefault_step env _ op hremoves ?_
    rw [← Machine.run_concat]
    exact hall (before ++ [op]) after (by rw [hops, List.append_assoc]; rfl)
  · intro hguarded before after hops
    refine (machine env).run_invariant_of_guarded
      (I := fun s => DefaultRegistered s.manager)
      (G := fun s op => ¬ RemovesDefault s op) (defaultRegistered_step env) (Or.inl rfl) ?_
    rw [Machine.guarded_iff_split] at hguarded ⊢
    intro first op rest hsplit
    exact hguarded first op (rest ++ after)
      (by rw [hops, hsplit, List.append_assoc, List.cons_append])

/-- An agent is added, made the default and removed. -/
theorem default_dangles :
    ¬ ∀ (env : Environment) (ops : List Op), env.afbApi = true →
      DefaultRegistered ((machine env).run State.initial ops).manager := by
  intro h
  have hrun := h .obliging [.addNewVoiceAgent (.simple "VA-001" "api"),
    .setDefaultVoiceAgent "VA-001", .removeVoiceAgent "VA-001"] rfl
  exact absurd hrun (by decide)

end Vshl.VoiceAgents
