/-
  VoiceAgents/Activation.lean --- what `activateVoiceAgents` and `deactivateVoiceAgents`
  do for a set of ids.

  The loop visits the ids in any order and mixes three conditions: an id that is
  registered is counted, the flag of its agent is set, and the observers are told if that
  changed the flag.  None of the three depends on the order, so a call is described by the
  set alone, and two calls by a set again.
-/
import Vshl.VoiceAgents.Registry
import Mathlib.Data.Set.Basic

set_option autoImplicit false

namespace Vshl.VoiceAgents

open Vshl.Foundation
open Vshl.Interfaces

namespace VoiceAgentsDataManager

/-! ## The loop -/

section

variable {manager : VoiceAgentsDataManager} {active : Bool} {callback : Callback}

/-- The object is registered under one of the ids. -/
def Selected (manager : VoiceAgentsDataManager) (ids : List String) (p : AgentPtr) : Prop :=
  ∃ id ∈ ids, manager.mVoiceAgents.find id = some p

instance (manager : VoiceAgentsDataManager) (ids : List String) (p : AgentPtr) :
    Decidable (manager.Selected ids p) :=
  inferInstanceAs (Decidable (∃ id ∈ ids, manager.mVoiceAgents.find id = some p))

/-- The data manager with the flag of the selected agents set. -/
def withActive (manager : VoiceAgentsDataManager) (active : Bool) (ids : List String) :
    VoiceAgentsDataManager :=
  { manager with
    agents :=
      { manager.agents with
        object := fun p =>
          if manager.Selected ids p then (manager.agents.object p).setIsActive active
          else manager.agents.object p } }

theorem withActive_object (manager : VoiceAgentsDataManager) (active : Bool) (ids : List String)
    (p : AgentPtr) :
    (manager.withActive active ids).agents.object p =
      if manager.Selected ids p then (manager.agents.object p).setIsActive active
      else manager.agents.object p := rfl

/-- Two data managers that differ in their agents at most, and not in these. -/
theorem eq_of_agents {before after : VoiceAgentsDataManager}
    (hrest : after = { before with agents := after.agents })
    (hnext : after.agents.next = before.agents.next)
    (hobject : ∀ p, after.agents.object p = before.agents.object p) : after = before := by
  have hagents : after.agents = before.agents := by
    cases hafter : after.agents with
    | mk object next =>
        cases hbefore : before.agents with
        | mk object' next' =>
            rw [hafter, hbefore] at hobject hnext
            obtain rfl : object = object' := funext hobject
            obtain rfl : next = next' := hnext
            rfl
  rw [hrest, hagents]

theorem selected_nil (p : AgentPtr) : ¬ manager.Selected [] p := by
  simp [Selected]

theorem selected_cons {id : String} {rest : List String} {p : AgentPtr} :
    manager.Selected (id :: rest) p ↔
      manager.mVoiceAgents.find id = some p ∨ manager.Selected rest p := by
  simp [Selected]

theorem withActive_nil : manager.withActive active [] = manager := by
  refine eq_of_agents rfl rfl ?_
  intro p
  rw [withActive_object, if_neg (selected_nil p)]

theorem setIsActive_of_eq {agent : VoiceAgent} (h : agent.mIsActive = active) :
    agent.setIsActive active = agent := by
  rw [VoiceAgent.setIsActive, ← h]

theorem withActive_cons_none {id : String} (rest : List String)
    (hfind : manager.mVoiceAgents.find id = none) :
    manager.withActive active (id :: rest) = manager.withActive active rest := by
  refine eq_of_agents rfl rfl ?_
  intro p
  simp only [withActive_object, selected_cons, hfind, reduceCtorEq, false_or]

theorem withActive_cons_same {id : String} (rest : List String) {q : AgentPtr}
    (hfind : manager.mVoiceAgents.find id = some q)
    (hsame : (manager.agents.object q).mIsActive = active) :
    manager.withActive active (id :: rest) = manager.withActive active rest := by
  refine eq_of_agents rfl rfl ?_
  intro p
  simp only [withActive_object, selected_cons, hfind, Option.some.injEq]
  by_cases hq : q = p
  · subst hq
    simp [setIsActive_of_eq hsame]
  · simp [hq]

/-- Setting one flag and then the others sets them all. -/
theorem withActive_cons_set {id : String} (rest : List String) {q : AgentPtr}
    (hfind : manager.mVoiceAgents.find id = some q) :
    (manager.withFlag active q).withActive active rest =
      manager.withActive active (id :: rest) := by
  refine eq_of_agents rfl rfl ?_
  intro p
  have hselected : (manager.withFlag active q).Selected rest p ↔ manager.Selected rest p :=
    Iff.rfl
  simp only [withActive_object, hselected, selected_cons, hfind, Option.some.injEq]
  by_cases hq : q = p
  · subst hq
    simp [withFlag, VoiceAgent.setIsActive]
  · simp [withFlag, hq, AgentStore.set_object_of_ne _ (Ne.symm hq)]

/-- The ids that are registered. -/
def registered (manager : VoiceAgentsDataManager) (ids : List String) : List String :=
  ids.filter fun id => id ∈ manager.mVoiceAgents

/-- What an observer is told: the callbacks, with the agents they are about. -/
def told (observer : ObserverPtr) (notified : List Notification) : List (Callback × AgentPtr) :=
  (received observer notified).map fun notification =>
    (notification.callback, notification.voiceAgent)

theorem told_append (observer : ObserverPtr) (first second : List Notification) :
    told observer (first ++ second) = told observer first ++ told observer second := by
  unfold told
  rw [received_append, List.map_append]

theorem told_notifyObservers {observer : ObserverPtr}
    (h : observer ∈ manager.mVoiceAgentChangeObservers) (callback : Callback) (p : AgentPtr) :
    told observer (manager.notifyObservers callback p) = [(callback, p)] := by
  unfold told
  rw [received_notifyObservers h]
  rfl

/-! ### The rounds -/

theorem registered_cons_none {id : String} (rest : List String)
    (hfind : manager.mVoiceAgents.find id = none) :
    manager.registered (id :: rest) = manager.registered rest := by
  have hnot := UnorderedMap.find_eq_none.mp hfind
  simp [registered, hnot]

theorem registered_cons_some {id : String} (rest : List String) {q : AgentPtr}
    (hfind : manager.mVoiceAgents.find id = some q) :
    (manager.registered (id :: rest)).length = (manager.registered rest).length + 1 := by
  have hmem := UnorderedMap.mem_iff_find.mpr ⟨q, hfind⟩
  simp [registered, hmem]

/-- The loop counts the ids that are registered and leaves all of their agents with the
flag set. -/
theorem foldl_setVoiceAgentActive (active : Bool) (callback : Callback) :
    ∀ (ids : List String) (state : Outcome Nat),
      (ids.foldl (setVoiceAgentActive active callback) state).manager =
          state.manager.withActive active ids ∧
        (ids.foldl (setVoiceAgentActive active callback) state).result =
          state.result + (state.manager.registered ids).length
  | [], state => ⟨withActive_nil.symm, rfl⟩
  | id :: rest, state => by
      rw [List.foldl_cons]
      obtain ⟨hmanager, hresult⟩ := foldl_setVoiceAgentActive active callback rest
        (setVoiceAgentActive active callback state id)
      rw [hmanager, hresult]
      rcases setVoiceAgentActive_cases active callback state id with
        ⟨hfind, hround⟩ | ⟨q, hfind, hsame, hround⟩ | ⟨q, hfind, -, hround⟩
      · rw [hround, withActive_cons_none rest hfind, registered_cons_none rest hfind]
        exact ⟨rfl, rfl⟩
      · rw [hround, withActive_cons_same rest hfind hsame, registered_cons_some rest hfind]
        refine ⟨rfl, ?_⟩
        simp only
        omega
      · rw [hround, ← withActive_cons_set rest hfind, registered_cons_some rest hfind]
        have hrest : ((state.manager.withFlag active q).registered rest).length =
            (state.manager.registered rest).length := rfl
        refine ⟨rfl, ?_⟩
        simp only [hrest]
        omega

/-- The agent is selected and its flag is the other one. -/
def Flips (manager : VoiceAgentsDataManager) (active : Bool) (ids : List String)
    (p : AgentPtr) : Prop :=
  manager.Selected ids p ∧ (manager.agents.object p).mIsActive ≠ active

instance (manager : VoiceAgentsDataManager) (active : Bool) (ids : List String) (p : AgentPtr) :
    Decidable (manager.Flips active ids p) :=
  inferInstanceAs (Decidable (_ ∧ _))

theorem flips_cons_same {id : String} (rest : List String) {q : AgentPtr}
    (hfind : manager.mVoiceAgents.find id = some q)
    (hsame : (manager.agents.object q).mIsActive = active) (p : AgentPtr) :
    manager.Flips active (id :: rest) p ↔ manager.Flips active rest p := by
  unfold Flips
  rw [selected_cons, hfind, Option.some.injEq]
  constructor
  · rintro ⟨rfl | hrest, hflag⟩
    · exact absurd hsame hflag
    · exact ⟨hrest, hflag⟩
  · rintro ⟨hrest, hflag⟩
    exact ⟨Or.inr hrest, hflag⟩

/-- After its own round an agent is not told of again. -/
theorem flips_cons_other {id : String} (rest : List String) {q : AgentPtr}
    (hfind : manager.mVoiceAgents.find id = some q)
    (hother : (manager.agents.object q).mIsActive ≠ active) (p : AgentPtr) :
    manager.Flips active (id :: rest) p ↔
      p = q ∨ (manager.withFlag active q).Flips active rest p := by
  unfold Flips
  rw [selected_cons, hfind, Option.some.injEq]
  by_cases hq : p = q
  · subst hq
    exact iff_of_true ⟨Or.inl rfl, hother⟩ (Or.inl rfl)
  · have hobject : (manager.withFlag active q).agents.object p = manager.agents.object p :=
      AgentStore.set_object_of_ne _ hq
    have hselected : (manager.withFlag active q).Selected rest p ↔ manager.Selected rest p :=
      Iff.rfl
    simp only [hobject, hselected, hq, Ne.symm hq, false_or]

theorem not_flips_withFlag (q : AgentPtr) (rest : List String) :
    ¬ (manager.withFlag active q).Flips active rest q := by
  intro h
  apply h.2
  simp [withFlag, VoiceAgent.setIsActive]

/-- The loop tells an observer once of every agent whose flag it changes, and of nothing
else. -/
theorem count_told_foldl (active : Bool) (callback : Callback) {observer : ObserverPtr}
    (callback' : Callback) (p : AgentPtr) :
    ∀ (ids : List String) (state : Outcome Nat),
      observer ∈ state.manager.mVoiceAgentChangeObservers →
      (told observer (ids.foldl (setVoiceAgentActive active callback) state).notified).count
          (callback', p) =
        (told observer state.notified).count (callback', p) +
          if callback' = callback ∧ state.manager.Flips active ids p then 1 else 0
  | [], state, _ => by simp [Flips, selected_nil]
  | id :: rest, state, hobserver => by
      rw [List.foldl_cons]
      rcases setVoiceAgentActive_cases active callback state id with
        ⟨hfind, hround⟩ | ⟨q, hfind, hsame, hround⟩ | ⟨q, hfind, hother, hround⟩
      · have hflips : state.manager.Flips active (id :: rest) p ↔
            state.manager.Flips active rest p := by
          simp only [Flips, selected_cons, hfind, reduceCtorEq, false_or]
        rw [hround, count_told_foldl active callback callback' p rest state hobserver]
        simp only [hflips]
      · rw [hround]
        refine (count_told_foldl active callback callback' p rest _ ?_).trans ?_
        · exact hobserver
        · simp only [flips_cons_same rest hfind hsame]
      · rw [hround]
        refine (count_told_foldl active callback callback' p rest _ ?_).trans ?_
        · exact hobserver
        have hstays : observer ∈
            (state.manager.withFlag active q).mVoiceAgentChangeObservers := hobserver
        have htold := told_notifyObservers hstays callback q
        simp only [flips_cons_other rest hfind hother, told_append, htold, List.count_append]
        by_cases hcallback : callback' = callback
        · subst hcallback
          by_cases hq : p = q
          · subst hq
            simp [not_flips_withFlag]
          · simp [hq, Ne.symm hq]
        · simp [hcallback, Ne.symm hcallback]

/-- Nobody else is told anything. -/
theorem observer_of_setVoiceAgentsActive {ids : UnorderedSet String} :
    ∀ notification ∈ (setVoiceAgentsActive active callback manager ids).notified,
      notification.observer ∈ manager.mVoiceAgentChangeObservers := by
  refine (setVoiceAgentsActive_induction (I := fun state =>
    manager.AgentsEvolve state.manager ∧ ∀ notification ∈ state.notified,
      notification.observer ∈ manager.mVoiceAgentChangeObservers)
    ⟨AgentsEvolve.refl manager, by simp⟩ ?_).2
  rintro state id ⟨hevolves, hstate⟩
  refine ⟨hevolves.trans (setVoiceAgentActive_evolves active callback state id), ?_⟩
  rcases setVoiceAgentActive_cases active callback state id with
    ⟨-, hround⟩ | ⟨q, -, -, hround⟩ | ⟨q, -, -, hround⟩
  · rwa [hround]
  · rwa [hround]
  · rw [hround]
    intro notification hmem
    rcases List.mem_append.mp hmem with hold | hnew
    · exact hstate notification hold
    · obtain ⟨observer, hobserver, rfl⟩ := List.mem_map.mp hnew
      obtain ⟨store, hsame, -, -⟩ := hevolves
      rw [hsame] at hobserver
      exact hobserver

/-- Returning early changes nothing: a loop over no ids, or over no agents, does the same. -/
theorem setVoiceAgentsActive_eq (active : Bool) (callback : Callback)
    (manager : VoiceAgentsDataManager) (ids : UnorderedSet String) :
    setVoiceAgentsActive active callback manager ids =
      ids.toList.foldl (setVoiceAgentActive active callback) ⟨manager, [], 0⟩ := by
  unfold setVoiceAgentsActive
  split
  · rename_i hempty
    rcases hempty with hids | hagents
    · rw [UnorderedSet.isEmpty, List.isEmpty_iff] at hids
      rw [hids, List.foldl_nil]
    · rw [UnorderedMap.isEmpty_iff] at hagents
      symm
      refine List.foldlRecOn (motive := fun state : Outcome Nat => state = ⟨manager, [], 0⟩)
        ids.toList _ rfl ?_
      rintro state rfl id _
      simp only [setVoiceAgentActive, hagents, UnorderedMap.find_empty]
  · rfl

theorem setVoiceAgentsActive_manager (callback : Callback) (ids : UnorderedSet String) :
    (setVoiceAgentsActive active callback manager ids).manager =
      manager.withActive active ids.toList := by
  rw [setVoiceAgentsActive_eq]
  exact (foldl_setVoiceAgentActive active callback ids.toList ⟨manager, [], 0⟩).1

theorem setVoiceAgentsActive_result (ids : UnorderedSet String) :
    (setVoiceAgentsActive active callback manager ids).result =
      (manager.registered ids.toList).length := by
  rw [setVoiceAgentsActive_eq,
    (foldl_setVoiceAgentActive active callback ids.toList ⟨manager, [], 0⟩).2, Nat.zero_add]

/-- No more ids are counted than agents are registered. -/
theorem registered_length_le (ids : UnorderedSet String) :
    (manager.registered ids.toList).length ≤ manager.mVoiceAgents.keys.length := by
  have hnodup : (manager.registered ids.toList).Nodup := ids.nodup.filter _
  refine (List.subperm_of_subset hnodup ?_).length_le
  intro id hid
  exact AList.mem_keys.mp (of_decide_eq_true (List.mem_filter.mp hid).2)

theorem count_told_setVoiceAgentsActive (active : Bool) (callback : Callback)
    {observer : ObserverPtr} (h : observer ∈ manager.mVoiceAgentChangeObservers)
    (ids : UnorderedSet String) (callback' : Callback) (p : AgentPtr) :
    (told observer (setVoiceAgentsActive active callback manager ids).notified).count
        (callback', p) =
      if callback' = callback ∧ manager.Flips active ids.toList p then 1 else 0 := by
  rw [setVoiceAgentsActive_eq]
  refine (count_told_foldl active callback callback' p ids.toList _ ?_).trans ?_
  · exact h
  · exact Nat.zero_add _

/-- Setting the same flag twice. -/
theorem withActive_withActive (ids ids' : List String) :
    (manager.withActive active ids).withActive active ids' =
      manager.withActive active (ids ++ ids') := by
  refine eq_of_agents rfl rfl ?_
  intro p
  have hafter : (manager.withActive active ids).Selected ids' p ↔ manager.Selected ids' p :=
    Iff.rfl
  have happend : manager.Selected (ids ++ ids') p ↔
      manager.Selected ids p ∨ manager.Selected ids' p := by
    simp [Selected, or_and_right, exists_or]
  simp only [withActive_object, hafter, happend]
  by_cases hids : manager.Selected ids p
  · simp [hids, VoiceAgent.setIsActive]
  · simp [hids]

/-- The order and the repetitions of a list of ids do not matter. -/
theorem withActive_congr {ids ids' : List String} (h : ∀ id, id ∈ ids ↔ id ∈ ids') :
    manager.withActive active ids = manager.withActive active ids' := by
  refine eq_of_agents rfl rfl ?_
  intro p
  have hselected : manager.Selected ids p ↔ manager.Selected ids' p := by
    simp only [Selected, h]
  exact if_congr hselected rfl rfl

end

end VoiceAgentsDataManager

/-! ## A call -/

open VoiceAgentsDataManager

/-- The call that sets the flag of the agents in a set. -/
def Op.setActive : Bool → UnorderedSet String → Op
  | true => .activateVoiceAgents
  | false => .deactivateVoiceAgents

/-- The callback it makes. -/
def activationCallback : Bool → Callback
  | true => .OnVoiceAgentActivated
  | false => .OnVoiceAgentDeactivated

/-- What a call does for a set of ids, in whatever order the set is iterated. -/
structure SetsActive (s s' : State) (output : Output) (active : Bool)
    (ids : UnorderedSet String) : Prop where
  /-- the registered ids are counted -/
  result : output.result = .count (s.manager.registered ids.toList).length
  /-- and the `uint32_t` of the source holds their number, if there are not 2^32 agents -/
  counter : s.manager.mVoiceAgents.keys.length < UInt32.size →
    (UInt32.ofNat (s.manager.registered ids.toList).length).toNat =
      (s.manager.registered ids.toList).length
  /-- an agent has the flag afterwards if it had it before or its id is in the set -/
  flag : ∀ id p, s.manager.mVoiceAgents.find id = some p →
    ((s'.manager.agents.object p).mIsActive = active ↔
      (s.manager.agents.object p).mIsActive = active ∨ id ∈ ids)
  /-- nothing else about any agent changed -/
  object : ∀ p, s'.manager.agents.object p =
    (s.manager.agents.object p).setIsActive (s'.manager.agents.object p).mIsActive
  unregistered : ∀ p, (∀ id, s.manager.mVoiceAgents.find id ≠ some p) →
    s'.manager.agents.object p = s.manager.agents.object p
  /-- nor about the data manager -/
  rest : s' = { s with manager := { s.manager with agents := s'.manager.agents } } ∧
    s'.manager.agents.next = s.manager.agents.next
  /-- each observer is told once of each registered agent of the set that had the other
  flag, and of nothing else -/
  told : ∀ observer ∈ s.manager.mVoiceAgentChangeObservers, ∀ callback p,
    (VoiceAgentsDataManager.told observer output.notified).count (callback, p) =
      if callback = activationCallback active ∧ s.manager.Flips active ids.toList p then 1 else 0
  nobody : ∀ notification ∈ output.notified,
    notification.observer ∈ s.manager.mVoiceAgentChangeObservers

theorem output_setActive (env : Environment) (s : State) (active : Bool)
    (ids : UnorderedSet String) :
    (machine env).output s (.setActive active ids) =
      ⟨(setVoiceAgentsActive active (activationCallback active) s.manager ids).notified,
        .count (setVoiceAgentsActive active (activationCallback active) s.manager
          ids).result⟩ := by
  cases active with
  | true => rfl
  | false => rfl

/-- The state after a call. -/
theorem next_setActive (env : Environment) (s : State) (active : Bool)
    (ids : UnorderedSet String) :
    (machine env).next s (.setActive active ids) =
      { s with manager := s.manager.withActive active ids.toList } := by
  rw [← setVoiceAgentsActive_manager (activationCallback active)]
  cases active with
  | true => rfl
  | false => rfl

/-- In a reachable state an agent is selected by its own id only. -/
theorem selected_iff {s : State} (hwf : AgentsWf s) {ids : UnorderedSet String} {id : String}
    {p : AgentPtr} (hfind : s.manager.mVoiceAgents.find id = some p) :
    s.manager.Selected ids.toList p ↔ id ∈ ids := by
  constructor
  · rintro ⟨id', hid', hfind'⟩
    have hsame : id' = id := (hwf.id_eq id' p hfind').symm.trans (hwf.id_eq id p hfind)
    exact hsame ▸ hid'
  · exact fun hid => ⟨id, hid, hfind⟩

theorem setsActive (env : Environment) {s : State} (hwf : AgentsWf s) (active : Bool)
    (ids : UnorderedSet String) :
    SetsActive s ((machine env).next s (.setActive active ids))
      ((machine env).output s (.setActive active ids)) active ids := by
  rw [next_setActive, output_setActive]
  refine ⟨?_, ?_, ?_, ?_, ?_, ⟨rfl, rfl⟩, ?_, ?_⟩
  · rw [setVoiceAgentsActive_result]
  · intro hfew
    exact UInt32.toNat_ofNat_of_lt' (Nat.lt_of_le_of_lt (registered_length_le ids) hfew)
  · intro id p hfind
    rw [withActive_object, ← selected_iff hwf hfind]
    split
    · rename_i hselected
      exact iff_of_true rfl (Or.inr hselected)
    · rename_i hnot
      exact ⟨Or.inl, fun h => h.resolve_right hnot⟩
  · intro p
    rw [withActive_object]
    split
    · rfl
    · rfl
  · intro p hnone
    rw [withActive_object, if_neg]
    rintro ⟨id, -, hfind⟩
    exact hnone id hfind
  · intro observer hobserver callback p
    exact count_told_setVoiceAgentsActive active _ hobserver ids callback p
  · exact observer_of_setVoiceAgentsActive

/-! ## Several calls -/

/-- The ids of the active agents. -/
def activeIds (s : State) : Set String :=
  { id | ∃ p, s.manager.mVoiceAgents.find id = some p ∧
    (s.manager.agents.object p).mIsActive = true }

/-- The registered ids. -/
def registeredIds (s : State) : Set String := { id | id ∈ s.manager.mVoiceAgents }

theorem activeIds_activate (env : Environment) {s : State} (hwf : AgentsWf s)
    (ids : UnorderedSet String) :
    activeIds ((machine env).next s (.setActive true ids)) =
      activeIds s ∪ ({ id | id ∈ ids } ∩ registeredIds s) := by
  have hcall := setsActive env hwf true ids
  ext id
  have hfind : ((machine env).next s (.setActive true ids)).manager.mVoiceAgents.find id =
      s.manager.mVoiceAgents.find id := by rw [next_setActive]; rfl
  simp only [activeIds, registeredIds, Set.mem_ofPred_eq, Set.mem_union, Set.mem_inter_iff, hfind,
    UnorderedMap.mem_iff_find]
  constructor
  · rintro ⟨p, hp, hactive⟩
    rcases (hcall.flag id p hp).mp hactive with hbefore | hid
    · exact Or.inl ⟨p, hp, hbefore⟩
    · exact Or.inr ⟨hid, p, hp⟩
  · rintro (⟨p, hp, hbefore⟩ | ⟨hid, p, hp⟩)
    · exact ⟨p, hp, (hcall.flag id p hp).mpr (Or.inl hbefore)⟩
    · exact ⟨p, hp, (hcall.flag id p hp).mpr (Or.inr hid)⟩

theorem activeIds_deactivate (env : Environment) {s : State} (hwf : AgentsWf s)
    (ids : UnorderedSet String) :
    activeIds ((machine env).next s (.setActive false ids)) = activeIds s \ { id | id ∈ ids } := by
  have hcall := setsActive env hwf false ids
  ext id
  have hfind : ((machine env).next s (.setActive false ids)).manager.mVoiceAgents.find id =
      s.manager.mVoiceAgents.find id := by rw [next_setActive]; rfl
  have hflag : ∀ p, s.manager.mVoiceAgents.find id = some p →
      ((((machine env).next s (.setActive false ids)).manager.agents.object p).mIsActive = true ↔
        (s.manager.agents.object p).mIsActive = true ∧ id ∉ ids) := by
    intro p hp
    have hp' := hcall.flag id p hp
    rw [← Bool.not_eq_false, ← Bool.not_eq_false, hp', not_or]
  simp only [activeIds, Set.mem_ofPred_eq, Set.mem_sdiff, hfind]
  constructor
  · rintro ⟨p, hp, hactive⟩
    obtain ⟨hbefore, hid⟩ := (hflag p hp).mp hactive
    exact ⟨⟨p, hp, hbefore⟩, hid⟩
  · rintro ⟨⟨p, hp, hbefore⟩, hid⟩
    exact ⟨p, hp, (hflag p hp).mpr ⟨hbefore, hid⟩⟩

/-- A call that has nothing to change tells nobody. -/
theorem notified_nil_of_not_flips (env : Environment) {s : State} {active : Bool}
    {ids : UnorderedSet String} (h : ∀ p, ¬ s.manager.Flips active ids.toList p) :
    ((machine env).output s (.setActive active ids)).notified = [] := by
  rw [output_setActive, List.eq_nil_iff_forall_not_mem]
  intro notification hmem
  have hobserver := observer_of_setVoiceAgentsActive notification hmem
  have hcount := count_told_setVoiceAgentsActive active (activationCallback active) hobserver ids
    notification.callback notification.voiceAgent
  rw [if_neg (fun hboth => h _ hboth.2)] at hcount
  have hnot := List.count_eq_zero.mp hcount
  apply hnot
  refine List.mem_map.mpr ⟨notification, ?_, rfl⟩
  exact List.mem_filter.mpr ⟨hmem, decide_eq_true rfl⟩

/-- How calls on a reachable data manager compose. -/
structure ActivationLaws (env : Environment) (s : State) : Prop where
  /-- one call -/
  call : ∀ active ids, SetsActive s ((machine env).next s (.setActive active ids))
    ((machine env).output s (.setActive active ids)) active ids
  /-- two calls of a kind are one call for the union -/
  union : ∀ active first second both, (∀ id, id ∈ both ↔ id ∈ first ∨ id ∈ second) →
    (machine env).next ((machine env).next s (.setActive active first))
        (.setActive active second) = (machine env).next s (.setActive active both)
  /-- a repeated call tells nobody -/
  again : ∀ active first second, (∀ id, id ∈ second → id ∈ first) →
    ((machine env).output ((machine env).next s (.setActive active first))
      (.setActive active second)).notified = []
  /-- activating after deactivating -/
  replace : ∀ off on, activeIds ((machine env).next
      ((machine env).next s (.deactivateVoiceAgents off)) (.activateVoiceAgents on)) =
    (activeIds s \ { id | id ∈ off }) ∪ ({ id | id ∈ on } ∩ registeredIds s)

theorem activation_correct (env : Environment) (ops : List Op) :
    ActivationLaws env ((machine env).run .initial ops) := by
  have hwf := agentsWf_run env ops
  refine ⟨fun active ids => setsActive env hwf active ids, ?_, ?_, ?_⟩
  · intro active first second both hboth
    simp only [next_setActive, withActive_withActive]
    refine congrArg (fun manager => State.mk manager _) (withActive_congr ?_)
    intro id
    rw [List.mem_append]
    exact (hboth id).symm
  · intro active first second hsub
    apply notified_nil_of_not_flips
    rintro p ⟨⟨id, hid, hfind⟩, hflag⟩
    rw [next_setActive] at hfind hflag
    apply hflag
    have hselected : ((machine env).run .initial ops).manager.Selected first.toList p :=
      ⟨id, hsub id hid, hfind⟩
    simp only [withActive_object, if_pos hselected, VoiceAgent.setIsActive]
  · intro off on
    have hoff : AgentsWf ((machine env).next ((machine env).run .initial ops)
        (.setActive false off)) := agentsWf_step env _ _ hwf
    have hregistered : registeredIds ((machine env).next ((machine env).run .initial ops)
        (.setActive false off)) = registeredIds ((machine env).run .initial ops) := by
      rw [next_setActive]
      rfl
    have hlaw := activeIds_activate env hoff on
    rw [activeIds_deactivate env hwf off, hregistered] at hlaw
    exact hlaw

end Vshl.VoiceAgents
