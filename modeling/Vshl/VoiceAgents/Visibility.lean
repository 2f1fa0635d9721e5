/-
  VoiceAgents/Visibility.lean --- what an observer finds when it asks the data manager
  from inside a callback.

  An operation that tells the observers of a change has made it by then, with two
  exceptions: `setDefaultVoiceAgent` stores the id after the loop over the observers, and
  `setActiveWakeWord` announces a wakeword that the agent may have refused.
-/
import Vshl.VoiceAgents.Activation
import Vshl.VoiceAgents.Refusals

set_option autoImplicit false

namespace Vshl.VoiceAgents

open Vshl.Foundation
open Vshl.Interfaces
open VoiceAgentsDataManager

/-! ## What a callback announces -/

/-- The data manager shows the change that an operation announces by this callback. -/
def Visible (op : Op) (manager : VoiceAgentsDataManager) (voiceAgent : AgentPtr) :
    Callback → Prop
  | .OnVoiceAgentAdded => voiceAgent ∈ manager.getAllVoiceAgents
  | .OnVoiceAgentRemoved => voiceAgent ∉ manager.getAllVoiceAgents
  | .OnVoiceAgentActivated => (manager.agents.object voiceAgent).mIsActive = true
  | .OnVoiceAgentDeactivated => (manager.agents.object voiceAgent).mIsActive = false
  | .OnVoiceAgentActiveWakeWordChanged => ∃ voiceAgentId wakeword,
      op = .setActiveWakeWord voiceAgentId wakeword ∧
        (manager.agents.object voiceAgent).mActiveWakeword = wakeword
  | .OnDefaultVoiceAgentChanged =>
      manager.getDefaultVoiceAgent = (manager.agents.object voiceAgent).mId

/-- At every callback the change it announces has been made. -/
def AllVisible (op : Op) (notified : List Notification) : Prop :=
  ∀ notification ∈ notified,
    Visible op notification.seen notification.voiceAgent notification.callback

theorem allVisible_nil (op : Op) : AllVisible op [] := by
  simp [AllVisible]

/-- All observers find the same data manager. -/
theorem allVisible_notifyObservers_iff {op : Op} {manager : VoiceAgentsDataManager}
    {callback : Callback} {p : AgentPtr} :
    AllVisible op (manager.notifyObservers callback p) ↔
      manager.mVoiceAgentChangeObservers.isEmpty ∨ Visible op manager p callback := by
  unfold AllVisible notifyObservers UnorderedSet.isEmpty
  cases manager.mVoiceAgentChangeObservers.toList with
  | nil => simp
  | cons observer rest =>
      constructor
      · intro h
        exact Or.inr (h _ List.mem_cons_self)
      · rintro (hempty | hvisible) notification hmem
        · exact absurd hempty (by simp)
        · obtain ⟨other, -, rfl⟩ := List.mem_map.mp hmem
          exact hvisible

section

variable {env : Environment} {s : State}

theorem allVisible_of_unchanged {op : Op} {result : Result}
    (h : step env s op = (s, ⟨[], result⟩)) :
    AllVisible op ((machine env).output s op).notified := by
  rw [(unchanged_of_step result h).2]
  exact allVisible_nil op

/-! ## Operations that commit first -/

theorem visible_added (args : VoiceAgent.Args) :
    AllVisible (.addNewVoiceAgent args)
      ((machine env).output s (.addNewVoiceAgent args)).notified := by
  have hout : ((machine env).output s (.addNewVoiceAgent args)).notified =
      (s.manager.addNewVoiceAgent env s.calls args).1.notified := rfl
  rw [hout, addNewVoiceAgent_eq]
  cases VoiceAgent.create args with
  | none => exact allVisible_nil _
  | some voiceAgent =>
      simp only
      split
      · rename_i hnew
        refine allVisible_notifyObservers_iff.mpr (Or.inr ?_)
        refine mem_getAllVoiceAgents.mpr ⟨voiceAgent.mId, ?_⟩
        rw [UnorderedMap.find_emplace_of_none _ hnew.2, if_pos rfl]
      · exact allVisible_nil _

/-- The agent was registered under its own id only, so it is gone. -/
theorem visible_removed (hwf : AgentsWf s) (voiceAgentId : String) :
    AllVisible (.removeVoiceAgent voiceAgentId)
      ((machine env).output s (.removeVoiceAgent voiceAgentId)).notified := by
  have hout : ((machine env).output s (.removeVoiceAgent voiceAgentId)).notified =
      (s.manager.removeVoiceAgent voiceAgentId).notified := rfl
  rw [hout, removeVoiceAgent_eq]
  cases hfind : s.manager.mVoiceAgents.find voiceAgentId with
  | none => exact allVisible_nil _
  | some p =>
      refine allVisible_notifyObservers_iff.mpr (Or.inr ?_)
      intro hmem
      obtain ⟨id, hid⟩ := mem_getAllVoiceAgents.mp hmem
      rw [UnorderedMap.find_remove] at hid
      split at hid
      · exact absurd hid (by simp)
      · rename_i hne
        exact hne ((hwf.id_eq id p hid).symm.trans (hwf.id_eq voiceAgentId p hfind))

/-- The flag is set before the observers are told, in every round of the loop. -/
theorem visible_setActive (active : Bool) (ids : UnorderedSet String) :
    AllVisible (.setActive active ids)
      ((machine env).output s (.setActive active ids)).notified := by
  rw [output_setActive]
  refine setVoiceAgentsActive_induction
    (I := fun state => AllVisible (.setActive active ids) state.notified) (allVisible_nil _) ?_
  intro state id hstate
  rcases setVoiceAgentActive_cases active (activationCallback active) state id with
    ⟨-, hround⟩ | ⟨q, -, -, hround⟩ | ⟨q, -, -, hround⟩
  · rwa [hround]
  · rwa [hround]
  · rw [hround]
    intro notification hmem
    rcases List.mem_append.mp hmem with hold | hnew
    · exact hstate notification hold
    · refine allVisible_notifyObservers_iff.mpr (Or.inr ?_) notification hnew
      cases active with
      | true => simp [Visible, activationCallback, withFlag, VoiceAgent.setIsActive]
      | false => simp [Visible, activationCallback, withFlag, VoiceAgent.setIsActive]

/-! ## The two exceptions -/

/-- Another default is announced before it is stored. -/
theorem visible_default_iff (hwf : AgentsWf s) (voiceAgentId : String) :
    AllVisible (.setDefaultVoiceAgent voiceAgentId)
        ((machine env).output s (.setDefaultVoiceAgent voiceAgentId)).notified ↔
      s.manager.mVoiceAgentChangeObservers.isEmpty ∨
        (voiceAgentId ∈ s.manager.mVoiceAgents →
          s.manager.getDefaultVoiceAgent = voiceAgentId) := by
  have hout : ((machine env).output s (.setDefaultVoiceAgent voiceAgentId)).notified =
      (s.manager.setDefaultVoiceAgent voiceAgentId).notified := rfl
  rw [hout]
  cases hfind : s.manager.mVoiceAgents.find voiceAgentId with
  | none =>
      have hnot := UnorderedMap.find_eq_none.mp hfind
      rw [setDefaultVoiceAgent_refused (by simp [hfind])]
      exact iff_of_true (allVisible_nil _) (Or.inr fun hmem => absurd hmem hnot)
  | some p =>
      have hmem := UnorderedMap.mem_iff_find.mpr ⟨p, hfind⟩
      rw [setDefaultVoiceAgent_of_find (hwf.id_ne voiceAgentId p hfind) hfind, withDefault]
      simp only
      split
      · rw [allVisible_notifyObservers_iff]
        simp only [Visible, hwf.id_eq voiceAgentId p hfind, hmem, true_implies]
      · rename_i hsame
        exact iff_of_true (allVisible_nil _) (Or.inr fun _ => not_not.mp hsame)

/-- The agent takes another wakeword exactly if it is one of its own. -/
theorem setActiveWakeWord_active_iff {agent : VoiceAgent} {wakeword : String}
    (hother : agent.mActiveWakeword ≠ wakeword) :
    (agent.setActiveWakeWord wakeword).1.mActiveWakeword = wakeword ↔
      wakeword ∈ agent.mWakewords := by
  unfold VoiceAgent.setActiveWakeWord
  split
  · rename_i hlisted
    exact iff_of_true rfl hlisted
  · rename_i hunlisted
    exact iff_of_false hother hunlisted

theorem visible_asked_iff {voiceAgentId wakeword : String} {p : AgentPtr} :
    Visible (.setActiveWakeWord voiceAgentId wakeword) (askedAgent s.manager p wakeword) p
        .OnVoiceAgentActiveWakeWordChanged ↔
      ((s.manager.agents.object p).setActiveWakeWord wakeword).1.mActiveWakeword = wakeword := by
  simp only [Visible, askedAgent, AgentStore.set_object_self]
  constructor
  · rintro ⟨_, _, hop, hactive⟩
    exact hactive.trans (Op.setActiveWakeWord.inj hop).2.symm
  · exact fun hactive => ⟨voiceAgentId, wakeword, rfl, hactive⟩

/-- A wakeword that is not one of the agent's is announced and never becomes active. -/
theorem visible_wakeword_iff (hwf : AgentsWf s) (voiceAgentId wakeword : String) :
    AllVisible (.setActiveWakeWord voiceAgentId wakeword)
        ((machine env).output s (.setActiveWakeWord voiceAgentId wakeword)).notified ↔
      s.manager.mVoiceAgentChangeObservers.isEmpty ∨
        (wakeword ≠ "" → ∀ p, s.manager.mVoiceAgents.find voiceAgentId = some p →
          wakeword ∈ (s.manager.agents.object p).mWakewords) := by
  by_cases hw : wakeword = ""
  · have hstep : step env s (.setActiveWakeWord voiceAgentId wakeword) =
        (s, ⟨[], .bool false⟩) := by
      simp only [step, VoiceAgentsDataManager.setActiveWakeWord, hw, or_true, if_true]
    exact iff_of_true (allVisible_of_unchanged hstep) (Or.inr fun hne => absurd hw hne)
  cases hfind : s.manager.mVoiceAgents.find voiceAgentId with
  | none =>
      have hstep := step_setActiveWakeWord_none env wakeword hfind
      exact iff_of_true (allVisible_of_unchanged hstep) (Or.inr (by simp))
  | some p =>
      simp only [ne_eq, hw, not_false_eq_true, true_implies, Option.some.injEq, forall_eq']
      by_cases hsame : (s.manager.agents.object p).mActiveWakeword = wakeword
      · have hstep := step_setActiveWakeWord_same env hw hfind hsame
        -- an active wakeword is always one of the agent's
        have hlisted := hwf.wf voiceAgentId p hfind
        rw [VoiceAgent.Wf, hsame] at hlisted
        exact iff_of_true (allVisible_of_unchanged hstep) (Or.inr hlisted)
      · have hout : ((machine env).output s (.setActiveWakeWord voiceAgentId wakeword)).notified =
            (askedAgent s.manager p wakeword).notifyObservers
              .OnVoiceAgentActiveWakeWordChanged p :=
          congrArg (fun done => done.2.notified)
            (step_setActiveWakeWord_other env hw hfind hsame)
        rw [hout, allVisible_notifyObservers_iff]
        refine or_congr Iff.rfl ?_
        rw [visible_asked_iff, setActiveWakeWord_active_iff hsame]

end

/-! ## Any operation -/

/-- What the operation announces, if anything, is done by then: the id it is given as the
default is the default already or not registered, and the wakeword it is given for a
registered agent is one of the agent's. -/
def CommitsFirst (s : State) : Op → Prop
  | .setDefaultVoiceAgent voiceAgentId =>
      voiceAgentId ∈ s.manager.mVoiceAgents → s.manager.getDefaultVoiceAgent = voiceAgentId
  | .setActiveWakeWord voiceAgentId wakeword =>
      wakeword ≠ "" → ∀ p, s.manager.mVoiceAgents.find voiceAgentId = some p →
        wakeword ∈ (s.manager.agents.object p).mWakewords
  | _ => True

/-- In a reachable state the observers find what they are told of exactly if there are no
observers or the operation commits first. -/
theorem changes_visible_iff (env : Environment) (ops : List Op) (op : Op) :
    let s := (machine env).run .initial ops
    AllVisible op ((machine env).output s op).notified ↔
      s.manager.mVoiceAgentChangeObservers.isEmpty ∨ CommitsFirst s op := by
  intro s
  have hwf : AgentsWf s := agentsWf_run env ops
  cases op with
  | addNewVoiceAgent args => exact iff_of_true (visible_added args) (Or.inr trivial)
  | removeVoiceAgent id => exact iff_of_true (visible_removed hwf id) (Or.inr trivial)
  | activateVoiceAgents ids => exact iff_of_true (visible_setActive true ids) (Or.inr trivial)
  | deactivateVoiceAgents ids =>
      exact iff_of_true (visible_setActive false ids) (Or.inr trivial)
  | setDefaultVoiceAgent id => exact visible_default_iff hwf id
  | setActiveWakeWord id wakeword => exact visible_wakeword_iff hwf id wakeword
  | _ => exact iff_of_true (allVisible_nil _) (Or.inr trivial)

/-- The first default: the observer that is told still finds none. -/
theorem default_announced_early :
    ¬ ∀ (env : Environment) (ops : List Op) (op : Op),
      AllVisible op ((machine env).output ((machine env).run .initial ops) op).notified := by
  intro h
  have hvisible : "" = "VA-001" := h .obliging [.addVoiceAgentsChangeObserver (some 7),
    .addNewVoiceAgent (.simple "VA-001" "api")] (.setDefaultVoiceAgent "VA-001") _
    List.mem_cons_self
  exact absurd hvisible (by decide)

end Vshl.VoiceAgents
