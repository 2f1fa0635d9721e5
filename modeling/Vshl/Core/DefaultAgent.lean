/-
  Core/DefaultAgent.lean --- the two notions of a default agent: the id kept by
  `VoiceAgentsDataManager`, and the object kept by `VRRequestProcessorDelegate`.

  The delegate hears of a change through its observer, and the data manager
  notifies only when the id changes.  So the delegate misses it when an agent is
  removed and another is registered under the id that is still the default.
-/
import Vshl.Core.VRRequestProcessor
import Vshl.VoiceAgents.Registry

set_option autoImplicit false

namespace Vshl.Core

open Vshl.Foundation
open Vshl.Interfaces
open Vshl.VoiceAgents

/-- A data manager whose only observer is the one of a request processor. -/
def observedFrom (observer : ObserverPtr) : State :=
  ⟨(VoiceAgentsDataManager.create.addVoiceAgentsChangeObserver (some observer)).1, []⟩

/-- The data manager, with the delegate that its notifications reach. -/
def observedMachine (env : Environment) (observer : ObserverPtr) :
    Machine (State × VRRequestProcessorDelegate) Op Output :=
  (machine env).tracked fun delegate _ out =>
    VRAgentsObserver.deliver observer delegate out.notified

/-- The data manager and the delegate after a run. -/
def observedRun (env : Environment) (observer : ObserverPtr) (ops : List Op) :
    State × VRRequestProcessorDelegate :=
  (observedMachine env observer).run
    (observedFrom observer, VRRequestProcessorDelegate.create) ops

theorem observedRun_fst (env : Environment) (observer : ObserverPtr) (ops : List Op) :
    (observedRun env observer ops).1 = (machine env).run (observedFrom observer) ops :=
  (machine env).tracked_run_fst _ _ _ ops

theorem observedRun_concat (env : Environment) (observer : ObserverPtr) (ops : List Op)
    (op : Op) :
    observedRun env observer (ops ++ [op]) =
      (observedMachine env observer).next (observedRun env observer ops) op :=
  (observedMachine env observer).run_concat _ ops op

/-! ## One step -/

/-- A step that does not set the default leaves the delegate alone. -/
theorem observedMachine_next_of_ne {env : Environment} {observer : ObserverPtr}
    {s : State × VRRequestProcessorDelegate} {op : Op}
    (hop : ∀ id, op ≠ .setDefaultVoiceAgent id) :
    ((observedMachine env observer).next s op).2 = s.2 :=
  VRAgentsObserver.deliver_of_ne observer _ s.2 (step_callback_ne hop)

/-- Setting the default reaches the delegate exactly if the id changes. -/
theorem observedMachine_next_setDefault (env : Environment) {observer : ObserverPtr}
    {s : State × VRRequestProcessorDelegate} {id : String} {p : AgentPtr}
    (hobserved : observer ∈ s.1.manager.mVoiceAgentChangeObservers) (hid : id ≠ "")
    (hfind : s.1.manager.mVoiceAgents.find id = some p) :
    (observedMachine env observer).next s (.setDefaultVoiceAgent id) =
      ({ s.1 with manager := { s.1.manager with mDefaultVoiceAgentId := id } },
        if s.1.manager.mDefaultVoiceAgentId = id then s.2
        else s.2.setDefaultVoiceAgent (some p)) := by
  have hstep : step env s.1 (.setDefaultVoiceAgent id) =
      ({ s.1 with manager := (s.1.manager.withDefault id p).manager },
        ⟨(s.1.manager.withDefault id p).notified, .bool true⟩) := by
    simp only [step, VoiceAgentsDataManager.setDefaultVoiceAgent_of_find hid hfind]
    rfl
  simp only [observedMachine, Machine.tracked, Machine.next, Machine.output, machine,
    hstep, VoiceAgentsDataManager.withDefault]
  by_cases hsame : s.1.manager.mDefaultVoiceAgentId = id
  · simp [hsame]
  · simp only [hsame, ne_eq, not_false_eq_true, if_true, if_false]
    rw [VRAgentsObserver.deliver_notifyObservers hobserved]
    rfl

theorem setDefault_result_iff {env : Environment} {s : State} {id : String} :
    ((machine env).output s (.setDefaultVoiceAgent id)).result = .bool true ↔
      id ≠ "" ∧ ∃ p, s.manager.mVoiceAgents.find id = some p := by
  simp only [machine, Machine.output, step]
  by_cases hfound : id ≠ "" ∧ ∃ p, s.manager.mVoiceAgents.find id = some p
  · obtain ⟨hid, p, hfind⟩ := hfound
    rw [VoiceAgentsDataManager.setDefaultVoiceAgent_of_find hid hfind]
    exact ⟨fun _ => ⟨hid, p, hfind⟩, fun _ => rfl⟩
  · rw [VoiceAgentsDataManager.setDefaultVoiceAgent_refused hfound]
    exact ⟨fun h => absurd h (by simp), fun h => absurd h hfound⟩

theorem addNewVoiceAgent_result_iff {env : Environment} {s : State}
    {args : VoiceAgent.Args} :
    ((machine env).output s (.addNewVoiceAgent args)).result = .bool true ↔
      ∃ voiceAgent, VoiceAgent.create args = some voiceAgent ∧ voiceAgent.mId ≠ "" ∧
        s.manager.mVoiceAgents.find voiceAgent.mId = none := by
  simp only [machine, Machine.output, step, VoiceAgentsDataManager.addNewVoiceAgent_eq]
  cases hcreate : VoiceAgent.create args with
  | none => simp
  | some voiceAgent =>
      simp only [Option.some.injEq, exists_eq_left']
      split
      · rename_i hnew
        exact ⟨fun _ => hnew, fun _ => rfl⟩
      · rename_i hnew
        exact ⟨fun h => absurd h (by simp), fun h => absurd h hnew⟩

/-! ## The delegate follows unless the default was registered again -/

/-- The step registers an agent under this id. -/
def Registers (env : Environment) (id : String) (s : State) (op : Op) : Prop :=
  ∃ args, op = .addNewVoiceAgent args ∧ args.id = id ∧
    ((machine env).output s op).result = .bool true

/-- An agent was registered under the id while it was the default, and it has been
the default ever since. -/
def Reregistered (env : Environment) (observer : ObserverPtr) (ops : List Op)
    (id : String) : Prop :=
  (machine env).Since (fun s => s.manager.getDefaultVoiceAgent = id) (Registers env id)
    (observedFrom observer) ops

/-- What the delegate knows of the default agent: the object that was registered
under the id when the id became the default. -/
structure Tracks (env : Environment) (observer : ObserverPtr) (ops : List Op)
    (s : State × VRRequestProcessorDelegate) : Prop where
  observed : observer ∈ s.1.manager.mVoiceAgentChangeObservers
  agentsWf : AgentsWf s.1
  known : s.1.manager.mDefaultVoiceAgentId ≠ "" →
    ∃ q, s.2.mDefaultVoiceAgent = some q ∧ q < s.1.manager.agents.next ∧
      ∀ p, s.1.manager.mVoiceAgents.find s.1.manager.mDefaultVoiceAgentId = some p →
        (p = q ↔ ¬ Reregistered env observer ops s.1.manager.mDefaultVoiceAgentId)

theorem Registers.fresh {env : Environment} {id : String} {s : State} {op : Op}
    (h : Registers env id s op) :
    s.manager.mVoiceAgents.find id = none ∧
      (step env s op).1.manager.mVoiceAgents.find id = some s.manager.agents.next := by
  obtain ⟨args, rfl, rfl, hresult⟩ := h
  obtain ⟨voiceAgent, hcreate, hne, hnone⟩ := addNewVoiceAgent_result_iff.mp hresult
  have hid := (VoiceAgent.create_eq_some_iff.mp hcreate).1.id
  rw [hid] at hne hnone
  refine ⟨hnone, ?_⟩
  simp only [step, VoiceAgentsDataManager.addNewVoiceAgent_eq, hcreate, hid,
    VoiceAgentsDataManager.withAgent]
  rw [if_pos ⟨hne, hnone⟩]
  simp only [UnorderedMap.find_emplace_of_none _ hnone, if_true]

theorem registers_of_added {env : Environment} {s s' : State} {args : VoiceAgent.Args}
    (h : Added env s args s') : Registers env args.id s (.addNewVoiceAgent args) := by
  obtain ⟨voiceAgent, hcreate, -⟩ := h.agents
  have hid := (VoiceAgent.create_eq_some_iff.mp hcreate).1.id
  refine ⟨args, rfl, rfl, addNewVoiceAgent_result_iff.mpr ⟨voiceAgent, hcreate, ?_, ?_⟩⟩
  · rw [hid]
    exact h.id_ne
  · rw [hid]
    exact h.fresh

section

variable {env : Environment} {observer : ObserverPtr} {ops : List Op} {op : Op}
  {s : State × VRRequestProcessorDelegate}

theorem reregistered_concat {id : String} (hs : s = observedRun env observer ops) :
    Reregistered env observer (ops ++ [op]) id ↔
      (step env s.1 op).1.manager.mDefaultVoiceAgentId = id ∧
        (Registers env id s.1 op ∨ Reregistered env observer ops id) := by
  unfold Reregistered
  rw [Machine.since_concat, Machine.run_concat, hs, observedRun_fst]
  rfl

/-- A step that changes neither the default nor who is registered under it. -/
theorem Tracks.keep (hs : s = observedRun env observer ops) (h : Tracks env observer ops s)
    (hop : ∀ id, op ≠ .setDefaultVoiceAgent id)
    (hkeeps : op ≠ .removeVoiceAgentsChangeObserver (some observer))
    (hdefault : (step env s.1 op).1.manager.mDefaultVoiceAgentId =
      s.1.manager.mDefaultVoiceAgentId)
    (hnext : s.1.manager.agents.next ≤ (step env s.1 op).1.manager.agents.next)
    (hfind : ∀ p, (step env s.1 op).1.manager.mVoiceAgents.find
      s.1.manager.mDefaultVoiceAgentId = some p →
        s.1.manager.mVoiceAgents.find s.1.manager.mDefaultVoiceAgentId = some p)
    (hregisters : ¬ Registers env s.1.manager.mDefaultVoiceAgentId s.1 op) :
    Tracks env observer (ops ++ [op]) ((observedMachine env observer).next s op) := by
  refine ⟨step_observers hkeeps h.observed, agentsWf_step env s.1 op h.agentsWf, ?_⟩
  intro hne
  have hfst : ((observedMachine env observer).next s op).1 = (step env s.1 op).1 := rfl
  rw [hfst, hdefault] at hne ⊢
  obtain ⟨q, hq, hlt, hiff⟩ := h.known hne
  refine ⟨q, by rw [observedMachine_next_of_ne hop, hq], lt_of_lt_of_le hlt hnext, ?_⟩
  intro p hp
  rw [reregistered_concat hs, hdefault]
  simp only [hregisters, true_and, false_or]
  exact hiff p (hfind p hp)

/-- The agent registered under the default id is a new one, which the delegate does
not know. -/
theorem Tracks.added (hs : s = observedRun env observer ops)
    (h : Tracks env observer ops s) {args : VoiceAgent.Args}
    (hadded : Added env s.1 args (step env s.1 (.addNewVoiceAgent args)).1)
    (hid : args.id = s.1.manager.mDefaultVoiceAgentId) :
    Tracks env observer (ops ++ [.addNewVoiceAgent args])
      ((observedMachine env observer).next s (.addNewVoiceAgent args)) := by
  refine ⟨step_observers (by simp) h.observed, agentsWf_step env s.1 _ h.agentsWf, ?_⟩
  intro hne
  have hfst : ((observedMachine env observer).next s (.addNewVoiceAgent args)).1 =
      (step env s.1 (.addNewVoiceAgent args)).1 := rfl
  rw [hfst, hadded.default] at hne ⊢
  obtain ⟨q, hq, hlt, -⟩ := h.known hne
  refine ⟨q, by rw [observedMachine_next_of_ne (by simp), hq], ?_, ?_⟩
  · rw [hadded.next]
    exact Nat.lt_succ_of_lt hlt
  · intro p hp
    have hnew : p = s.1.manager.agents.next := by
      rw [hadded.find, if_pos hid.symm] at hp
      exact (Option.some.inj hp).symm
    have hre : Reregistered env observer (ops ++ [.addNewVoiceAgent args])
        s.1.manager.mDefaultVoiceAgentId := by
      rw [reregistered_concat hs]
      exact ⟨hadded.default, Or.inl (hid ▸ registers_of_added hadded)⟩
    constructor
    · intro hpq
      exact absurd (hpq.symm.trans hnew) (Nat.ne_of_lt hlt)
    · intro hnot
      exact absurd hre hnot

/-- Setting the default. -/
theorem Tracks.setDefault (hs : s = observedRun env observer ops)
    (h : Tracks env observer ops s) {id : String} {p : AgentPtr} (hid : id ≠ "")
    (hfind : s.1.manager.mVoiceAgents.find id = some p) :
    Tracks env observer (ops ++ [.setDefaultVoiceAgent id])
      ((observedMachine env observer).next s (.setDefaultVoiceAgent id)) := by
  refine ⟨step_observers (by simp) h.observed, agentsWf_step env s.1 _ h.agentsWf, ?_⟩
  have hnext := observedMachine_next_setDefault env h.observed hid hfind
  have hre : Reregistered env observer (ops ++ [.setDefaultVoiceAgent id]) id ↔
      Reregistered env observer ops id := by
    rw [reregistered_concat hs]
    have hregisters : ¬ Registers env id s.1 (.setDefaultVoiceAgent id) := by
      rintro ⟨args, hop, -⟩
      exact absurd hop (by simp)
    have hdefault : (step env s.1 (.setDefaultVoiceAgent id)).1.manager.mDefaultVoiceAgentId
        = id := congrArg (fun t => t.1.manager.mDefaultVoiceAgentId) hnext
    simp only [hregisters, hdefault, false_or, true_and]
  intro _
  rw [hnext]
  simp only [hre]
  by_cases hsame : s.1.manager.mDefaultVoiceAgentId = id
  · -- no notification: the delegate keeps what it had
    obtain ⟨q, hq, hlt, hiff⟩ := h.known (by rw [hsame]; exact hid)
    rw [hsame] at hiff
    exact ⟨q, by rw [if_pos hsame, hq], hlt, hiff⟩
  · have hnot : ¬ Reregistered env observer ops id := by
      intro hsince
      have hnow : s.1.manager.mDefaultVoiceAgentId = id := by
        rw [hs, observedRun_fst]
        exact hsince.now
      exact hsame hnow
    refine ⟨p, by rw [if_neg hsame]; rfl, h.agentsWf.lt_next id p hfind, ?_⟩
    intro p' hp'
    have hpp : p' = p := Option.some.inj (hp'.symm.trans hfind)
    exact ⟨fun _ => hnot, fun _ => hpp⟩

/-- A call that is refused changes nothing. -/
theorem Tracks.refused (hs : s = observedRun env observer ops)
    (h : Tracks env observer ops s) {id : String}
    (hfound : ¬ (id ≠ "" ∧ ∃ p, s.1.manager.mVoiceAgents.find id = some p)) :
    Tracks env observer (ops ++ [.setDefaultVoiceAgent id])
      ((observedMachine env observer).next s (.setDefaultVoiceAgent id)) := by
  have hsame : VoiceAgents.step env s.1 (.setDefaultVoiceAgent id) =
      (s.1, ⟨[], .bool false⟩) := by
    simp only [VoiceAgents.step, VoiceAgentsDataManager.setDefaultVoiceAgent_refused hfound]
  have hnext : (observedMachine env observer).next s (.setDefaultVoiceAgent id) = s := by
    simp only [observedMachine, Machine.tracked, Machine.next, Machine.output, machine,
      hsame, VRAgentsObserver.deliver_nil]
  rw [hnext]
  refine ⟨h.observed, h.agentsWf, ?_⟩
  intro hne
  obtain ⟨q, hq, hlt, hiff⟩ := h.known hne
  refine ⟨q, hq, hlt, ?_⟩
  intro p hp
  have hregisters : ¬ Registers env s.1.manager.mDefaultVoiceAgentId s.1
      (.setDefaultVoiceAgent id) := by
    rintro ⟨args, hop, -⟩
    exact absurd hop (by simp)
  rw [reregistered_concat hs]
  simp only [hsame, hregisters, true_and, false_or]
  exact hiff p hp

theorem Tracks.step (hs : s = observedRun env observer ops) (h : Tracks env observer ops s)
    (hkeeps : op ≠ .removeVoiceAgentsChangeObserver (some observer)) :
    Tracks env observer (ops ++ [op]) ((observedMachine env observer).next s op) := by
  by_cases hset : ∃ id, op = .setDefaultVoiceAgent id
  · obtain ⟨id, rfl⟩ := hset
    by_cases hfound : id ≠ "" ∧ ∃ p, s.1.manager.mVoiceAgents.find id = some p
    · obtain ⟨hid, p, hfind⟩ := hfound
      exact h.setDefault hs hid hfind
    · exact h.refused hs hfound
  · have hop : ∀ id, op ≠ .setDefaultVoiceAgent id := fun id heq => hset ⟨id, heq⟩
    rcases step_effect env s.1 op with hframe | ⟨args, rfl, hadded⟩ | ⟨id, p, rfl, hremoved⟩ |
      ⟨id, p, rfl, -⟩
    · refine h.keep hs hop hkeeps hframe.default hframe.next.ge ?_ ?_
      · intro p hp
        exact (hframe.find _).symm.trans hp
      · intro hregisters
        obtain ⟨hnone, hsome⟩ := hregisters.fresh
        rw [hframe.find, hnone] at hsome
        exact absurd hsome (by simp)
    · by_cases hid : args.id = s.1.manager.mDefaultVoiceAgentId
      · exact h.added hs hadded hid
      · refine h.keep hs hop hkeeps hadded.default (hadded.next ▸ Nat.le_succ _) ?_ ?_
        · intro p hp
          rw [hadded.find, if_neg (Ne.symm hid)] at hp
          exact hp
        · rintro ⟨args', heq, hid', -⟩
          obtain rfl := Op.addNewVoiceAgent.inj heq
          exact hid hid'
    · refine h.keep hs hop hkeeps hremoved.default (hremoved.agents ▸ Nat.le_refl _) ?_ ?_
      · intro q hq
        exact hremoved.find_of_find hq
      · rintro ⟨args, heq, -⟩
        exact absurd heq (by simp)
    · exact absurd rfl (hop id)

end

theorem tracks_run (env : Environment) (observer : ObserverPtr) (ops : List Op)
    (hkeeps : .removeVoiceAgentsChangeObserver (some observer) ∉ ops) :
    Tracks env observer ops (observedRun env observer ops) := by
  induction ops using List.reverseRecOn with
  | nil =>
      refine ⟨?_, AgentsWf.of_empty UnorderedMap.find_empty, fun hne => absurd rfl hne⟩
      exact UnorderedSet.mem_insert.mpr (Or.inl rfl)
  | append_singleton ops op ih =>
      rw [List.mem_append, not_or, List.mem_singleton] at hkeeps
      rw [observedRun_concat]
      exact (ih hkeeps.1).step rfl (Ne.symm hkeeps.2)

/-- The delegate's default agent is the object registered under the id, and the next
`startListening` calls the API of that object. -/
structure FollowsRegistry (env : Environment) (id : String)
    (s : State × VRRequestProcessorDelegate) : Prop where
  sameObject : s.2.getDefaultVoiceAgent = s.1.manager.mVoiceAgents.find id
  startsIt : ∀ p, s.1.manager.mVoiceAgents.find id = some p → env.afbApi = true →
    ∃ earlier result,
      (VRRequestProcessor.startListening env s.1.manager.agents s.2 s.1.calls).2.2 =
        earlier ++ [.callSync (s.1.manager.agents.object p).mApi
          VRRequest.VA_VERB_STARTLISTENING none result]

theorem followsRegistry_iff {env : Environment} {id : String}
    {s : State × VRRequestProcessorDelegate} :
    FollowsRegistry env id s ↔
      s.2.mDefaultVoiceAgent = s.1.manager.mVoiceAgents.find id := by
  constructor
  · intro h
    exact h.sameObject
  · intro h
    refine ⟨h, ?_⟩
    intro p hp henv
    rw [VRRequestProcessor.startListening_of_some henv _ _ (h.trans hp)]
    exact ⟨_, _, rfl⟩

/-- A successful `setDefaultVoiceAgent` leaves the delegate with the registered agent
exactly when nothing was registered under the id since it became the default. -/
theorem delegate_follows_iff (env : Environment) (observer : ObserverPtr) (ops : List Op)
    (id : String) (hkeeps : .removeVoiceAgentsChangeObserver (some observer) ∉ ops)
    (hset : ((machine env).output (observedRun env observer ops).1
      (.setDefaultVoiceAgent id)).result = .bool true) :
    FollowsRegistry env id (observedRun env observer (ops ++ [.setDefaultVoiceAgent id])) ↔
      ¬ Reregistered env observer ops id := by
  have htracks := tracks_run env observer ops hkeeps
  obtain ⟨hid, p, hfind⟩ := setDefault_result_iff.mp hset
  rw [followsRegistry_iff, observedRun_concat,
    observedMachine_next_setDefault env htracks.observed hid hfind]
  simp only [hfind]
  by_cases hsame : (observedRun env observer ops).1.manager.mDefaultVoiceAgentId = id
  · obtain ⟨q, hq, -, hiff⟩ := htracks.known (by rw [hsame]; exact hid)
    rw [hsame] at hiff
    rw [if_pos hsame, hq, Option.some.injEq, ← hiff p hfind]
    exact eq_comm
  · rw [if_neg hsame]
    have hnot : ¬ Reregistered env observer ops id := by
      intro hsince
      have hnow := hsince.now
      rw [← observedRun_fst] at hnow
      exact hsame hnow
    exact ⟨fun _ => hnot, fun _ => rfl⟩

/-- The agent that is made the default is the second of its id, but the first was
never the default. -/
theorem delegate_follows_second :
    ¬ Reregistered .obliging 0 [.addNewVoiceAgent (.simple "VA-001" "old"),
      .removeVoiceAgent "VA-001", .addNewVoiceAgent (.simple "VA-001" "new")] "VA-001" :=
  (delegate_follows_iff .obliging 0 _ "VA-001" (by simp) (by decide)).mp
    (followsRegistry_iff.mpr (by decide))

/-- The default agent is removed, another is registered under its id and made the
default: the delegate stays with the first. -/
theorem delegate_keeps_removed_agent :
    ¬ ∀ (env : Environment) (observer : ObserverPtr) (ops : List Op) (id : String),
      env.afbApi = true →
      .removeVoiceAgentsChangeObserver (some observer) ∉ ops →
      ((machine env).output (observedRun env observer ops).1
        (.setDefaultVoiceAgent id)).result = .bool true →
      FollowsRegistry env id
        (observedRun env observer (ops ++ [.setDefaultVoiceAgent id])) := by
  intro h
  have hrun := h .obliging 0 [.addNewVoiceAgent (.simple "VA-001" "old"),
    .setDefaultVoiceAgent "VA-001", .removeVoiceAgent "VA-001",
    .addNewVoiceAgent (.simple "VA-001" "new")] "VA-001" rfl (by simp) (by decide)
  exact absurd hrun.sameObject (by decide)

end Vshl.Core
