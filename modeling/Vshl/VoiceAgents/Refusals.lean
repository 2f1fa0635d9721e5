/-
  VoiceAgents/Refusals.lean --- operations of the data manager that report failure, and
  what `setActiveWakeWord` reports.

  A failure is reported before anything is done: by the check that fails, or because no
  round of a loop has found an agent.  The source counts the rounds in a `uint32_t`, of
  which a 0 says this as long as fewer than 2^32 agents are registered.
-/
import Vshl.VoiceAgents.Activation

set_option autoImplicit false

namespace Vshl.VoiceAgents

open Vshl.Foundation
open Vshl.Interfaces
open VoiceAgentsDataManager

/-! ## One operation -/

section

variable {env : Environment} {manager : VoiceAgentsDataManager} {calls : Trace}

theorem addNewVoiceAgent_of_false {args : VoiceAgent.Args}
    (h : (manager.addNewVoiceAgent env calls args).1.result = false) :
    manager.addNewVoiceAgent env calls args = (⟨manager, [], false⟩, calls) := by
  rw [addNewVoiceAgent_eq] at h ⊢
  cases hcreate : VoiceAgent.create args with
  | none => rfl
  | some voiceAgent =>
      simp only [hcreate] at h ⊢
      split
      · rename_i hnew
        rw [if_pos hnew] at h
        exact absurd h (by simp [withAgent])
      · rfl

theorem removeVoiceAgent_of_false {voiceAgentId : String}
    (h : (manager.removeVoiceAgent voiceAgentId).result = false) :
    manager.removeVoiceAgent voiceAgentId = ⟨manager, [], false⟩ := by
  rw [removeVoiceAgent_eq] at h ⊢
  cases hfind : manager.mVoiceAgents.find voiceAgentId with
  | none => rfl
  | some p =>
      rw [hfind] at h
      exact absurd h (by simp [withoutAgent])

theorem setDefaultVoiceAgent_of_false {voiceAgentId : String}
    (h : (manager.setDefaultVoiceAgent voiceAgentId).result = false) :
    manager.setDefaultVoiceAgent voiceAgentId = ⟨manager, [], false⟩ := by
  refine setDefaultVoiceAgent_refused ?_
  rintro ⟨hid, p, hfind⟩
  rw [setDefaultVoiceAgent_of_find hid hfind] at h
  exact absurd h (by simp [withDefault])

theorem setActiveWakeWord_of_false {voiceAgentId wakeword : String}
    (h : (manager.setActiveWakeWord voiceAgentId wakeword).result = false) :
    manager.setActiveWakeWord voiceAgentId wakeword = ⟨manager, [], false⟩ := by
  unfold VoiceAgentsDataManager.setActiveWakeWord at h ⊢
  split
  · rfl
  · rename_i hguard
    rw [if_neg hguard] at h
    cases hfind : manager.mVoiceAgents.find voiceAgentId with
    | none => rfl
    | some p =>
        simp only [hfind] at h
        split at h
        · exact absurd h (by simp)
        · exact absurd h (by simp)

theorem subscribeToVshlEvent_of_false {request : RequestPtr} {eventName voiceAgentId : String}
    (h : (manager.subscribeToVshlEventFromVoiceAgent env calls request eventName
      voiceAgentId).1 = .ok false) :
    (manager.subscribeToVshlEventFromVoiceAgent env calls request eventName
      voiceAgentId).2 = calls := by
  rw [subscribeToVshlEventFromVoiceAgent_eq] at h ⊢
  split
  · rfl
  · rfl
  · rename_i voiceAgent event hevent
    simp only [hevent] at h
    exact absurd h (by simp)

/-- A loop that has counted nothing has done nothing. -/
theorem setVoiceAgentsActive_of_zero {active : Bool} {callback : Callback}
    {voiceAgentIds : UnorderedSet String}
    (h : (setVoiceAgentsActive active callback manager voiceAgentIds).result = 0) :
    setVoiceAgentsActive active callback manager voiceAgentIds = ⟨manager, [], 0⟩ := by
  refine setVoiceAgentsActive_induction
    (I := fun state => state.result = 0 → state = ⟨manager, [], 0⟩) (fun _ => rfl) ?_ h
  intro state id hstate hzero
  rcases setVoiceAgentActive_cases active callback state id with
    ⟨-, hround⟩ | ⟨p, -, -, hround⟩ | ⟨p, -, -, hround⟩
  · rw [hround] at hzero ⊢
    exact hstate hzero
  -- the other rounds count
  · rw [hround] at hzero
    exact absurd hzero (Nat.succ_ne_zero _)
  · rw [hround] at hzero
    exact absurd hzero (Nat.succ_ne_zero _)

end

/-! ## Any operation -/

/-- What an operation returns when it fails. -/
def ReportsFailure : Op → Result → Prop
  | .addNewVoiceAgent _, result => result = .bool false
  | .removeVoiceAgent _, result => result = .bool false
  | .setDefaultVoiceAgent _, result => result = .bool false
  | .setActiveWakeWord _ _, result => result = .bool false
  | .subscribeToVshlEventFromVoiceAgent _ _ _, result => result = .bool false
  | .activateVoiceAgents _, result => result = .count 0
  | .deactivateVoiceAgents _, result => result = .count 0
  | _, _ => False

theorem unchanged_of_step {env : Environment} {s : State} {op : Op} (result : Result)
    (h : step env s op = (s, ⟨[], result⟩)) :
    (machine env).next s op = s ∧ ((machine env).output s op).notified = [] :=
  ⟨congrArg Prod.fst h, congrArg (fun done => done.2.notified) h⟩

/-- An operation that reports failure changes nothing, in the registry or outside, and
tells nobody. -/
theorem reported_failure_unchanged (env : Environment) (s : State) (op : Op)
    (h : ReportsFailure op ((machine env).output s op).result) :
    (machine env).next s op = s ∧ ((machine env).output s op).notified = [] := by
  cases op with
  | addNewVoiceAgent args =>
      have hsame := addNewVoiceAgent_of_false (Result.bool.inj h)
      exact unchanged_of_step (.bool false) (by simp only [step, hsame])
  | removeVoiceAgent id =>
      have hsame := removeVoiceAgent_of_false (Result.bool.inj h)
      exact unchanged_of_step (.bool false) (by simp only [step, hsame])
  | setDefaultVoiceAgent id =>
      have hsame := setDefaultVoiceAgent_of_false (Result.bool.inj h)
      exact unchanged_of_step (.bool false) (by simp only [step, hsame])
  | setActiveWakeWord id wakeword =>
      have hsame := setActiveWakeWord_of_false (Result.bool.inj h)
      exact unchanged_of_step (.bool false) (by simp only [step, hsame])
  | subscribeToVshlEventFromVoiceAgent request eventName id =>
      have hreturned := Result.ofExcept_eq_bool h
      have hsame := subscribeToVshlEvent_of_false hreturned
      exact unchanged_of_step (.bool false)
        (by simp only [step, hsame, hreturned, Result.ofExcept])
  | activateVoiceAgents ids =>
      have hsame := setVoiceAgentsActive_of_zero (Result.count.inj h)
      exact unchanged_of_step (.count 0)
        (by simp only [step, activateVoiceAgents, hsame])
  | deactivateVoiceAgents ids =>
      have hsame := setVoiceAgentsActive_of_zero (Result.count.inj h)
      exact unchanged_of_step (.count 0)
        (by simp only [step, deactivateVoiceAgents, hsame])
  | _ => exact False.elim h

/-- An id is added a second time, and the events of an agent that is not there are asked
for. -/
theorem reported_failure_unchanged_duplicate :
    let s := (machine .obliging).run .initial [.addVoiceAgentsChangeObserver (some 7),
      .addNewVoiceAgent (.simple "VA-001" "first")]
    let again := Op.addNewVoiceAgent (.simple "VA-001" "second")
    let unknown := Op.subscribeToVshlEventFromVoiceAgent 3 VSHL_EVENT_AUTH_STATE_EVENT "VA-002"
    ((machine .obliging).next s again = s ∧ ((machine .obliging).output s again).notified = []) ∧
      (machine .obliging).next s unknown = s ∧
        ((machine .obliging).output s unknown).notified = [] := by
  intro s again unknown
  have hagain : ReportsFailure again ((machine .obliging).output s again).result := by
    change _ = Result.bool false
    decide
  have hunknown : ReportsFailure unknown ((machine .obliging).output s unknown).result := by
    change _ = Result.bool false
    decide
  exact ⟨reported_failure_unchanged .obliging s again hagain,
    reported_failure_unchanged .obliging s unknown hunknown⟩

/-- The `uint32_t` of the source is 0 only if nothing was counted, if there are not 2^32
agents. -/
theorem zero_counter_unchanged (env : Environment) {s : State}
    (hfew : s.manager.mVoiceAgents.keys.length < UInt32.size) (active : Bool)
    (ids : UnorderedSet String) {n : Nat}
    (hcount : ((machine env).output s (.setActive active ids)).result = .count n)
    (hzero : UInt32.ofNat n = 0) :
    (machine env).next s (.setActive active ids) = s ∧
      ((machine env).output s (.setActive active ids)).notified = [] := by
  rw [output_setActive] at hcount ⊢
  obtain rfl := Result.count.inj hcount
  have hle : (setVoiceAgentsActive active (activationCallback active) s.manager ids).result ≤
      s.manager.mVoiceAgents.keys.length := by
    rw [setVoiceAgentsActive_result]
    exact registered_length_le ids
  have hnone := congrArg UInt32.toNat hzero
  rw [UInt32.toNat_ofNat_of_lt' (Nat.lt_of_le_of_lt hle hfew), UInt32.toNat_zero] at hnone
  have hsame := setVoiceAgentsActive_of_zero hnone
  refine ⟨?_, congrArg Outcome.notified hsame⟩
  rw [next_setActive, ← setVoiceAgentsActive_manager (activationCallback active), hsame]

/-! ## The active wakeword -/

/-- How often an observer was told that an active wakeword changed. -/
def wakewordChanges (observer : ObserverPtr) (notified : List Notification) : Nat :=
  (received observer notified).countP fun notification =>
    notification.callback = .OnVoiceAgentActiveWakeWordChanged

/-- The active wakeword of a registered agent. -/
def activeWakeword (s : State) (voiceAgentId : String) : Option String :=
  (s.manager.mVoiceAgents.find voiceAgentId).map fun p =>
    (s.manager.agents.object p).mActiveWakeword

/-- What `setActiveWakeWord` returns and tells is what has happened. -/
structure WakewordReported (env : Environment) (s : State) (voiceAgentId wakeword : String) :
    Prop where
  result_iff : ((machine env).output s (.setActiveWakeWord voiceAgentId wakeword)).result =
      .bool true ↔
    activeWakeword ((machine env).next s (.setActiveWakeWord voiceAgentId wakeword))
      voiceAgentId = some wakeword
  told : ∀ observer ∈ s.manager.mVoiceAgentChangeObservers,
    wakewordChanges observer
        ((machine env).output s (.setActiveWakeWord voiceAgentId wakeword)).notified =
      if activeWakeword ((machine env).next s (.setActiveWakeWord voiceAgentId wakeword))
          voiceAgentId = activeWakeword s voiceAgentId then 0
      else 1
  rejected : (∀ p, s.manager.mVoiceAgents.find voiceAgentId = some p →
      wakeword ∉ (s.manager.agents.object p).mWakewords) →
    ((machine env).output s (.setActiveWakeWord voiceAgentId wakeword)).result =
        .bool false ∧
      ((machine env).output s (.setActiveWakeWord voiceAgentId wakeword)).notified = []

section

variable {env : Environment} {s : State} {voiceAgentId wakeword : String}

theorem step_setActiveWakeWord_none (env : Environment) (wakeword : String)
    (hfind : s.manager.mVoiceAgents.find voiceAgentId = none) :
    step env s (.setActiveWakeWord voiceAgentId wakeword) = (s, ⟨[], .bool false⟩) := by
  simp only [step, VoiceAgentsDataManager.setActiveWakeWord, hfind, ite_self]

/-- The wakeword is active already. -/
theorem step_setActiveWakeWord_same (env : Environment) {p : AgentPtr} (hw : wakeword ≠ "")
    (hfind : s.manager.mVoiceAgents.find voiceAgentId = some p)
    (hsame : (s.manager.agents.object p).mActiveWakeword = wakeword) :
    step env s (.setActiveWakeWord voiceAgentId wakeword) = (s, ⟨[], .bool true⟩) := by
  have hguard : ¬ (UnorderedMap.isEmpty s.manager.mVoiceAgents = true ∨ wakeword = "") := by
    simp [UnorderedMap.isEmpty_eq_false_of_find hfind, hw]
  simp only [step, VoiceAgentsDataManager.setActiveWakeWord, if_neg hguard, hfind, hsame,
    ne_eq, not_true_eq_false, if_false]

/-- The data manager once the agent has been asked to change its wakeword. -/
def askedAgent (manager : VoiceAgentsDataManager) (p : AgentPtr) (wakeword : String) :
    VoiceAgentsDataManager :=
  { manager with
    agents := manager.agents.set p ((manager.agents.object p).setActiveWakeWord wakeword).1 }

/-- Another wakeword: whatever the agent answers, all observers are told and the result is
true. -/
theorem step_setActiveWakeWord_other (env : Environment) {p : AgentPtr} (hw : wakeword ≠ "")
    (hfind : s.manager.mVoiceAgents.find voiceAgentId = some p)
    (hother : (s.manager.agents.object p).mActiveWakeword ≠ wakeword) :
    step env s (.setActiveWakeWord voiceAgentId wakeword) =
      ({ s with manager := askedAgent s.manager p wakeword },
        ⟨(askedAgent s.manager p wakeword).notifyObservers
          .OnVoiceAgentActiveWakeWordChanged p, .bool true⟩) := by
  have hguard : ¬ (UnorderedMap.isEmpty s.manager.mVoiceAgents = true ∨ wakeword = "") := by
    simp [UnorderedMap.isEmpty_eq_false_of_find hfind, hw]
  simp only [step, VoiceAgentsDataManager.setActiveWakeWord, if_neg hguard, hfind, ne_eq,
    hother, not_false_eq_true, if_true, askedAgent]

theorem activeWakeword_askedAgent {p : AgentPtr}
    (hfind : s.manager.mVoiceAgents.find voiceAgentId = some p) (wakeword : String) :
    activeWakeword { s with manager := askedAgent s.manager p wakeword } voiceAgentId =
      some ((s.manager.agents.object p).setActiveWakeWord wakeword).1.mActiveWakeword := by
  simp only [activeWakeword, askedAgent, hfind, Option.map_some, AgentStore.set_object_self]

theorem wakewordReported_of_step {result : Bool} {s' : State} {notified : List Notification}
    (hstep : step env s (.setActiveWakeWord voiceAgentId wakeword) =
      (s', ⟨notified, .bool result⟩))
    (hresult : result = true ↔ activeWakeword s' voiceAgentId = some wakeword)
    (htold : ∀ observer ∈ s.manager.mVoiceAgentChangeObservers,
      wakewordChanges observer notified =
        if activeWakeword s' voiceAgentId = activeWakeword s voiceAgentId then 0 else 1)
    (hrejected : (∀ p, s.manager.mVoiceAgents.find voiceAgentId = some p →
        wakeword ∉ (s.manager.agents.object p).mWakewords) →
      result = false ∧ notified = []) :
    WakewordReported env s voiceAgentId wakeword := by
  have hnext : (machine env).next s (.setActiveWakeWord voiceAgentId wakeword) = s' :=
    congrArg Prod.fst hstep
  have hout : (machine env).output s (.setActiveWakeWord voiceAgentId wakeword) =
      ⟨notified, .bool result⟩ := congrArg Prod.snd hstep
  refine ⟨?_, ?_, ?_⟩
  · rw [hnext, hout, Result.bool.injEq]
    exact hresult
  · rw [hnext, hout]
    exact htold
  · rw [hout]
    intro hunlisted
    obtain ⟨hfalse, hnone⟩ := hrejected hunlisted
    exact ⟨congrArg Result.bool hfalse, hnone⟩

/-- No agent is registered under the id. -/
theorem wakewordReported_none (env : Environment) (wakeword : String)
    (hfind : s.manager.mVoiceAgents.find voiceAgentId = none) :
    WakewordReported env s voiceAgentId wakeword := by
  have hnone : activeWakeword s voiceAgentId = none := by
    rw [activeWakeword, hfind, Option.map_none]
  refine wakewordReported_of_step (step_setActiveWakeWord_none env wakeword hfind) ?_ ?_ ?_
  · simp [hnone]
  · exact fun observer _ => (if_pos rfl).symm
  · exact fun _ => ⟨rfl, rfl⟩

theorem wakewordReported_same (env : Environment) {p : AgentPtr} (hw : wakeword ≠ "")
    (hfind : s.manager.mVoiceAgents.find voiceAgentId = some p)
    (hsame : (s.manager.agents.object p).mActiveWakeword = wakeword)
    (hlisted : wakeword ∈ (s.manager.agents.object p).mWakewords) :
    WakewordReported env s voiceAgentId wakeword := by
  have hactive : activeWakeword s voiceAgentId = some wakeword := by
    rw [activeWakeword, hfind, Option.map_some, hsame]
  refine wakewordReported_of_step (step_setActiveWakeWord_same env hw hfind hsame) ?_ ?_ ?_
  · simp [hactive]
  · exact fun observer _ => (if_pos rfl).symm
  · exact fun hunlisted => absurd hlisted (hunlisted p hfind)

/-- The agent has another active wakeword: all depends on what it answers. -/
theorem wakewordReported_other_iff (env : Environment) {p : AgentPtr} (hw : wakeword ≠ "")
    (hfind : s.manager.mVoiceAgents.find voiceAgentId = some p)
    (hother : (s.manager.agents.object p).mActiveWakeword ≠ wakeword) :
    WakewordReported env s voiceAgentId wakeword ↔
      wakeword ∈ (s.manager.agents.object p).mWakewords := by
  have hstep := step_setActiveWakeWord_other env hw hfind hother
  have hasked := activeWakeword_askedAgent hfind wakeword
  constructor
  · intro hreported
    by_contra hunlisted
    -- the result is true, but the agent has kept its wakeword
    have hkept : ((s.manager.agents.object p).setActiveWakeWord wakeword).1 =
        s.manager.agents.object p := by
      simp only [VoiceAgent.setActiveWakeWord, if_neg hunlisted]
    have hresult := hreported.result_iff.mp (congrArg (fun done => done.2.result) hstep)
    have hnext : (machine env).next s (.setActiveWakeWord voiceAgentId wakeword) =
        { s with manager := askedAgent s.manager p wakeword } := congrArg Prod.fst hstep
    rw [hnext, hasked, hkept] at hresult
    exact hother (Option.some.inj hresult)
  · intro hmem
    have hset : ((s.manager.agents.object p).setActiveWakeWord wakeword).1.mActiveWakeword =
        wakeword := by
      simp only [VoiceAgent.setActiveWakeWord, if_pos hmem]
    have hactive : activeWakeword s voiceAgentId =
        some (s.manager.agents.object p).mActiveWakeword := by
      rw [activeWakeword, hfind, Option.map_some]
    rw [hset] at hasked
    refine wakewordReported_of_step hstep ?_ ?_ ?_
    · simp [hasked]
    · intro observer hobserver
      rw [hasked, hactive, if_neg (fun heq => hother (Option.some.inj heq).symm)]
      unfold wakewordChanges
      rw [received_notifyObservers]
      · rfl
      · exact hobserver
    · exact fun hunlisted => absurd hmem (hunlisted p hfind)

end

/-- The report is right exactly if the agent, should it be registered, has the wakeword: the
data manager does not look at what the agent answers. -/
theorem setActiveWakeWord_reported_iff (env : Environment) (ops : List Op)
    (voiceAgentId : String) {wakeword : String} (hw : wakeword ≠ "") :
    let s := (machine env).run .initial ops
    WakewordReported env s voiceAgentId wakeword ↔
      ∀ p, s.manager.mVoiceAgents.find voiceAgentId = some p →
        wakeword ∈ (s.manager.agents.object p).mWakewords := by
  intro s
  cases hfind : s.manager.mVoiceAgents.find voiceAgentId with
  | none => exact iff_of_true (wakewordReported_none env wakeword hfind) (by simp)
  | some p =>
      simp only [Option.some.injEq, forall_eq']
      by_cases hsame : (s.manager.agents.object p).mActiveWakeword = wakeword
      · -- an active wakeword is always one of the agent's
        have hlisted := (agentsWf_run env ops).wf voiceAgentId p hfind
        rw [VoiceAgent.Wf, hsame] at hlisted
        exact iff_of_true (wakewordReported_same env hw hfind hsame hlisted) hlisted
      · exact wakewordReported_other_iff env hw hfind hsame

/-- An agent that has another wakeword is told to be active under "hey". -/
theorem setActiveWakeWord_reported_iff_simple :
    let s := (machine .obliging).run .initial [.addNewVoiceAgent (.simple "VA-001" "api")]
    WakewordReported .obliging s "VA-001" "hey" ↔
      ∀ p, s.manager.mVoiceAgents.find "VA-001" = some p →
        "hey" ∈ (s.manager.agents.object p).mWakewords :=
  setActiveWakeWord_reported_iff .obliging _ "VA-001" (by decide)

/-- "hey" is not a wakeword of the agent: it is accepted and announced. -/
theorem unlisted_wakeword_accepted :
    ¬ ∀ (env : Environment) (ops : List Op) (voiceAgentId wakeword : String), wakeword ≠ "" →
      WakewordReported env ((machine env).run .initial ops) voiceAgentId wakeword := by
  intro h
  have hrejected := (h .obliging [.addVoiceAgentsChangeObserver (some 7),
    .addNewVoiceAgent (.simple "VA-001" "api")] "VA-001" "hey" (by decide)).rejected
  refine absurd (hrejected ?_).1 (by decide)
  intro p hp
  obtain rfl : 0 = p := Option.some.inj hp
  decide

end Vshl.VoiceAgents
