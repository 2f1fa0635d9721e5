/-
  VoiceAgents/SubscriptionProcess.lean --- which agents `startNewSubscriptionProcess`
  triggers.

  The flag stands for "done" as a whole, not for single agents: it goes up in the first
  call that finds an agent and never comes down.  So an agent is triggered exactly if it
  is registered at that call, which the pointers show because none is handed out twice.
-/
import Vshl.VoiceAgents.Delivery

set_option autoImplicit false

namespace Vshl.VoiceAgents

open Vshl.Foundation
open Vshl.Interfaces
open VoiceAgentsDataManager

/-! ## One call -/

/-- The agents whose subscription process a step starts, in order. -/
def triggered (s : State) : Op → List AgentPtr
  | .startNewSubscriptionProcess =>
      if s.manager.mAlreadyPeformedSubscriptions then [] else s.manager.mVoiceAgents.values
  | _ => []

/-- The API that a `startSubscriptionProcess` is sent to. -/
def triggerCall : Call → Option String
  | .callSync api verb _ _ => if verb = "startSubscriptionProcess" then some api else none
  | _ => none

/-- The `startSubscriptionProcess` calls among some calls. -/
def triggerCalls (calls : Trace) : List String := calls.filterMap triggerCall

theorem triggerCalls_append (calls calls' : Trace) :
    triggerCalls (calls ++ calls') = triggerCalls calls ++ triggerCalls calls' :=
  List.filterMap_append

theorem triggerCalls_free (calls : Trace) (object : Option ObjectPtr) :
    triggerCalls (free calls object) = triggerCalls calls := by
  cases object with
  | none => rfl
  | some object => simp [free, triggerCalls, triggerCall]

/-- A `callSync` and the `free` of what it handed out. -/
theorem triggerCalls_doCallSync (env : Environment) (calls : Trace) (api verb : String)
    (request : Option Json) :
    triggerCalls (free (env.doCallSync calls api verb request).2
        (resultObject calls (env.doCallSync calls api verb request).1)) =
      triggerCalls calls ++ if verb = "startSubscriptionProcess" then [api] else [] := by
  rw [triggerCalls_free]
  simp only [Environment.doCallSync, triggerCalls_append]
  by_cases hverb : verb = "startSubscriptionProcess"
  · simp [triggerCalls, triggerCall, hverb]
  · simp [triggerCalls, triggerCall, hverb]

/-- The flag goes up if there is an agent, and every agent is called. -/
theorem startNewSubscriptionProcess_eq {env : Environment} (henv : env.afbApi = true)
    (manager : VoiceAgentsDataManager) (calls : Trace) :
    (manager.startNewSubscriptionProcess env calls).1 =
        { manager with
          mAlreadyPeformedSubscriptions :=
            manager.mAlreadyPeformedSubscriptions || !manager.mVoiceAgents.values.isEmpty } ∧
      triggerCalls (manager.startNewSubscriptionProcess env calls).2 =
        triggerCalls calls ++ (triggered ⟨manager, calls⟩ .startNewSubscriptionProcess).map
          fun p => (manager.agents.object p).mApi := by
  have hloop : ∀ (ps : List AgentPtr) (state : VoiceAgentsDataManager × Trace),
      (ps.foldl (startSubscriptionProcess env) state).1 =
          { state.1 with
            mAlreadyPeformedSubscriptions :=
              state.1.mAlreadyPeformedSubscriptions || !ps.isEmpty } ∧
        triggerCalls (ps.foldl (startSubscriptionProcess env) state).2 =
          triggerCalls state.2 ++ ps.map fun p => (state.1.agents.object p).mApi := by
    intro ps
    induction ps with
    | nil => simp
    | cons p rest ih =>
        intro state
        obtain ⟨hmanager, hcalls⟩ := ih (startSubscriptionProcess env state p)
        refine ⟨?_, ?_⟩
        · rw [List.foldl_cons, hmanager]
          simp [startSubscriptionProcess]
        · rw [List.foldl_cons, hcalls]
          simp only [startSubscriptionProcess, callStartSubscriptionProcessAPI, henv, if_true,
            triggerCalls_doCallSync, List.map_cons, List.append_assoc, List.singleton_append]
  unfold startNewSubscriptionProcess triggered
  cases hflag : manager.mAlreadyPeformedSubscriptions with
  | true =>
      simp only [if_true, Bool.true_or, List.map_nil, List.append_nil, and_true]
      rw [← hflag]
  | false =>
      obtain ⟨hmanager, hcalls⟩ := hloop manager.mVoiceAgents.values (manager, calls)
      rw [hflag] at hmanager
      exact ⟨hmanager, hcalls⟩

/-- The calls that create the events of an agent start nothing. -/
theorem triggerCalls_createVshlEvents (env : Environment) (handler : VoiceAgentEventsHandler)
    (calls : Trace) (voiceAgentId : String) :
    triggerCalls (handler.createVshlEventsForVoiceAgent env calls voiceAgentId).2 =
      triggerCalls calls := by
  obtain ⟨added, hadded, honly⟩ :=
    (VoiceAgentEventsHandler.createVshlEventsForVoiceAgent_created env handler calls
      voiceAgentId).trace
  have hnone : triggerCalls added = [] := by
    unfold triggerCalls
    rw [List.filterMap_eq_nil_iff]
    intro call hcall
    obtain ⟨name, nonNull, rfl⟩ := honly call hcall
    rfl
  simp only at hadded
  rw [hadded, triggerCalls_append, hnone, List.append_nil]

theorem triggerCalls_subscribe (env : Environment) (manager : VoiceAgentsDataManager)
    (calls : Trace) (request : RequestPtr) (eventName voiceAgentId : String) :
    triggerCalls (manager.subscribeToVshlEventFromVoiceAgent env calls request eventName
      voiceAgentId).2 = triggerCalls calls := by
  rw [subscribeToVshlEventFromVoiceAgent_eq]
  split
  · rfl
  · rfl
  · simp only [VoiceAgentEventsHandler.callSubscribeVerb]
    split
    · rw [triggerCalls_doCallSync]
      simp [Environment.doSubscribe, triggerCalls, triggerCall]
    · simp [Environment.doSubscribe, triggerCalls, triggerCall]

theorem triggerCalls_onIncomingEvent (env : Environment) (handler : VoiceAgentEventsHandler)
    (calls : Trace) (eventName voiceAgentId payload : String) :
    triggerCalls (handler.onIncomingEvent env calls eventName voiceAgentId payload).2 =
      triggerCalls calls := by
  unfold VoiceAgentEventsHandler.onIncomingEvent
  split
  · rfl
  · rfl
  · simp [Environment.doPublishEvent, triggerCalls, triggerCall]

/-- The calls on the APIs are those of the triggered agents. -/
theorem triggerCalls_step {env : Environment} (henv : env.afbApi = true) (s : State) (op : Op) :
    triggerCalls ((machine env).next s op).calls =
      triggerCalls s.calls ++
        (triggered s op).map fun p => (s.manager.agents.object p).mApi := by
  cases op with
  | startNewSubscriptionProcess => exact (startNewSubscriptionProcess_eq henv _ s.calls).2
  | addNewVoiceAgent args =>
      simp only [machine, Machine.next, step, addNewVoiceAgent_eq, triggered, List.map_nil,
        List.append_nil]
      cases VoiceAgent.create args with
      | none => rfl
      | some voiceAgent =>
          simp only
          split
          · exact triggerCalls_createVshlEvents env _ s.calls voiceAgent.mId
          · rfl
  | subscribeToVshlEventFromVoiceAgent request eventName id =>
      refine (triggerCalls_subscribe env s.manager s.calls request eventName id).trans ?_
      simp only [triggered, List.map_nil, List.append_nil]
  | handleIncomingEvent eventName id payload =>
      simp only [machine, Machine.next, step, routeToDataManager_eq, triggered, List.map_nil,
        List.append_nil]
      exact triggerCalls_onIncomingEvent env _ s.calls eventName id payload
  | _ => exact (List.append_nil (triggerCalls s.calls)).symm

/-! ## The flag -/

theorem step_flag {env : Environment} (henv : env.afbApi = true) (s : State) (op : Op) :
    ((machine env).next s op).manager.mAlreadyPeformedSubscriptions =
      (s.manager.mAlreadyPeformedSubscriptions || !(triggered s op).isEmpty) := by
  cases op with
  | startNewSubscriptionProcess =>
      have hmanager := (startNewSubscriptionProcess_eq henv s.manager s.calls).1
      simp only [machine, Machine.next, step, hmanager, triggered]
      cases s.manager.mAlreadyPeformedSubscriptions with
      | true => simp
      | false => simp
  | addVoiceAgentsChangeObserver observer =>
      cases observer with
      | none => exact (Bool.or_false _).symm
      | some observer => exact (Bool.or_false _).symm
  | removeVoiceAgentsChangeObserver observer =>
      cases observer with
      | none => exact (Bool.or_false _).symm
      | some observer => exact (Bool.or_false _).symm
  | rehash voiceAgents observers =>
      simp only [machine, Machine.next, step, rehash, triggered, List.isEmpty_nil,
        Bool.not_true, Bool.or_false]
      split
      · rfl
      · rfl
  | _ =>
      refine (step_rest env s ?_).2.trans (Bool.or_false _).symm
      trivial

/-- Once the flag is up nothing is triggered any more. -/
theorem collect_of_flag {env : Environment} (henv : env.afbApi = true) (ops : List Op)
    {s : State} (hflag : s.manager.mAlreadyPeformedSubscriptions = true) :
    (machine env).collect triggered s ops = [] := by
  induction ops generalizing s with
  | nil => rfl
  | cons op rest ih =>
      have hnone : triggered s op = [] := by
        cases op with
        | startNewSubscriptionProcess => simp only [triggered, hflag, if_true]
        | _ => rfl
      have hnext : ((machine env).next s op).manager.mAlreadyPeformedSubscriptions = true := by
        rw [step_flag henv, hflag, Bool.true_or]
      rw [Machine.collect_cons, hnone, ih hnext, List.append_nil]

/-- The flag is up exactly if something was triggered. -/
theorem flag_run {env : Environment} (henv : env.afbApi = true) (s : State) (ops : List Op) :
    ((machine env).run s ops).manager.mAlreadyPeformedSubscriptions =
      (s.manager.mAlreadyPeformedSubscriptions ||
        !((machine env).collect triggered s ops).isEmpty) := by
  induction ops generalizing s with
  | nil => simp
  | cons op rest ih =>
      rw [Machine.run_cons, ih, step_flag henv, Machine.collect_cons, Bool.or_assoc]
      cases triggered s op with
      | nil => simp
      | cons p others => simp

/-! ## The agents of a run -/

/-- No agent is registered twice. -/
theorem AgentsWf.values_nodup {s : State} (hwf : AgentsWf s) :
    s.manager.mVoiceAgents.values.Nodup := by
  refine List.Nodup.map_on ?_ (List.NodupKeys.nodup s.manager.mVoiceAgents.nodupKeys)
  rintro ⟨id, p⟩ hp ⟨id', q⟩ hq hsame
  obtain rfl : p = q := hsame
  have hid := hwf.id_eq id p (UnorderedMap.mem_entries_iff.mp hp)
  have hid' := hwf.id_eq id' p (UnorderedMap.mem_entries_iff.mp hq)
  rw [← hid, ← hid']

/-- No agent is triggered twice in a run. -/
theorem collect_nodup {env : Environment} (henv : env.afbApi = true) (ops : List Op) {s : State}
    (hwf : AgentsWf s) : ((machine env).collect triggered s ops).Nodup := by
  induction ops generalizing s with
  | nil => exact List.nodup_nil
  | cons op rest ih =>
      rw [Machine.collect_cons]
      have hrest := ih (agentsWf_step env s op hwf)
      cases htriggered : triggered s op with
      | nil => exact hrest
      | cons p others =>
          have hflag : ((machine env).next s op).manager.mAlreadyPeformedSubscriptions = true := by
            rw [step_flag henv, htriggered]
            simp
          rw [collect_of_flag henv rest hflag, List.append_nil, ← htriggered]
          cases op with
          | startNewSubscriptionProcess =>
              simp only [triggered]
              split
              · exact List.nodup_nil
              · exact hwf.values_nodup
          | _ => exact List.nodup_nil

/-- An agent that a step did not make was there before the step. -/
theorem find_of_step {env : Environment} {s : State} {op : Op} {id : String} {p : AgentPtr}
    (hlt : p < s.manager.agents.next)
    (h : ((machine env).next s op).manager.mVoiceAgents.find id = some p) :
    s.manager.mVoiceAgents.find id = some p := by
  rcases next_effect env s op with hs | ⟨args, -, hs⟩ | ⟨removed, q, -, hs⟩ |
    ⟨newDefault, q, -, -, -, hs⟩
  · exact (hs.find id).symm.trans h
  · rw [hs.find] at h
    split at h
    · obtain rfl := Option.some.inj h
      exact absurd hlt (Nat.lt_irrefl _)
    · exact h
  · exact hs.find_of_find h
  · rw [hs] at h
    exact h

theorem next_le_step (env : Environment) (s : State) (op : Op) :
    s.manager.agents.next ≤ ((machine env).next s op).manager.agents.next := by
  rcases next_effect env s op with hs | ⟨args, -, hs⟩ | ⟨removed, q, -, hs⟩ |
    ⟨newDefault, q, -, -, -, hs⟩
  · exact Nat.le_of_eq hs.next.symm
  · rw [hs.next]
    exact Nat.le_succ _
  · rw [hs.agents]
  · rw [hs]

theorem next_le_run (env : Environment) (s : State) (ops : List Op) :
    s.manager.agents.next ≤ ((machine env).run s ops).manager.agents.next := by
  induction ops generalizing s with
  | nil => exact Nat.le_refl _
  | cons op rest ih => exact Nat.le_trans (next_le_step env s op) (ih _)

theorem find_of_run {env : Environment} {id : String} {p : AgentPtr} (ops : List Op) {s : State}
    (hlt : p < s.manager.agents.next)
    (h : ((machine env).run s ops).manager.mVoiceAgents.find id = some p) :
    s.manager.mVoiceAgents.find id = some p := by
  induction ops generalizing s with
  | nil => exact h
  | cons op rest ih =>
      have hnext := ih (Nat.lt_of_lt_of_le hlt (next_le_step env s op)) h
      exact find_of_step hlt hnext

/-- How often an agent is triggered that stays to the end: once if the flag goes up. -/
theorem count_collect {env : Environment} (henv : env.afbApi = true) {id : String}
    {p : AgentPtr} (ops : List Op) {s : State} (hwf : AgentsWf s)
    (hlt : p < s.manager.agents.next)
    (hflag : s.manager.mAlreadyPeformedSubscriptions = false)
    (hstays : ((machine env).run s ops).manager.mVoiceAgents.find id = some p) :
    ((machine env).collect triggered s ops).count p =
      if ((machine env).run s ops).manager.mAlreadyPeformedSubscriptions then 1 else 0 := by
  induction ops generalizing s with
  | nil => simp [hflag]
  | cons op rest ih =>
      have hlt' := Nat.lt_of_lt_of_le hlt (next_le_step env s op)
      have hfind := find_of_run (op :: rest) hlt hstays
      rw [Machine.collect_cons, List.count_append, Machine.run_cons]
      cases hnext : ((machine env).next s op).manager.mAlreadyPeformedSubscriptions with
      | false =>
          have hnone : triggered s op = [] := by
            rw [step_flag henv, hflag] at hnext
            simpa using hnext
          rw [hnone, List.count_nil, Nat.zero_add]
          exact ih (agentsWf_step env s op hwf) hlt' hnext hstays
      | true =>
          -- this step raises the flag, so it has triggered every agent there is
          have hall : triggered s op = s.manager.mVoiceAgents.values := by
            rw [step_flag henv, hflag] at hnext
            cases op with
            | startNewSubscriptionProcess =>
                simp only [triggered, hflag, Bool.false_eq_true, if_false]
            | _ => simp [triggered] at hnext
          have hup : ((machine env).run ((machine env).next s op)
              rest).manager.mAlreadyPeformedSubscriptions = true := by
            rw [flag_run henv, hnext, Bool.true_or]
          have hmem : p ∈ s.manager.mVoiceAgents.values :=
            UnorderedMap.mem_values_iff.mpr ⟨id, hfind⟩
          rw [collect_of_flag henv rest hnext, hall, List.count_nil, hup,
            List.count_eq_one_of_mem hwf.values_nodup hmem]
          rfl

/-! ## Every run -/

/-- Some call of the run has found an agent. -/
def FoundAgent (env : Environment) (ops : List Op) : Prop :=
  ∃ early late, ops = early ++ .startNewSubscriptionProcess :: late ∧
    ∃ id, id ∈ ((machine env).run .initial early).manager.mVoiceAgents

theorem triggered_ne_nil_iff {s : State} {op : Op} :
    triggered s op ≠ [] ↔
      op = .startNewSubscriptionProcess ∧ s.manager.mAlreadyPeformedSubscriptions = false ∧
        ∃ id, id ∈ s.manager.mVoiceAgents := by
  have hvalues : s.manager.mVoiceAgents.values ≠ [] ↔ ∃ id, id ∈ s.manager.mVoiceAgents := by
    rw [ne_eq, List.eq_nil_iff_forall_not_mem, not_forall_not]
    simp only [UnorderedMap.mem_values_iff, UnorderedMap.mem_iff_find]
    exact exists_comm
  cases op with
  | startNewSubscriptionProcess =>
      cases hflag : s.manager.mAlreadyPeformedSubscriptions with
      | true => simp [triggered, hflag]
      | false =>
          simp only [triggered, hflag, Bool.false_eq_true, if_false, hvalues, true_and]
  | _ => simp [triggered]

theorem flag_iff_foundAgent {env : Environment} (henv : env.afbApi = true) (ops : List Op) :
    ((machine env).run .initial ops).manager.mAlreadyPeformedSubscriptions = true ↔
      FoundAgent env ops := by
  induction ops using List.reverseRecOn with
  | nil =>
      constructor
      · intro hflag
        exact absurd hflag (by simp [State.initial, create])
      · rintro ⟨early, late, hsplit, -⟩
        exact absurd hsplit (by simp)
  | append_singleton ops op ih =>
      rw [Machine.run_concat, step_flag henv, Bool.or_eq_true, ih, Bool.not_eq_true',
        List.isEmpty_eq_false_iff, triggered_ne_nil_iff]
      constructor
      · rintro (⟨early, late, rfl, hid⟩ | ⟨rfl, -, hid⟩)
        · exact ⟨early, late ++ [op], by rw [List.append_assoc, List.cons_append], hid⟩
        · exact ⟨ops, [], rfl, hid⟩
      · rintro ⟨early, late, hsplit, hid⟩
        rcases concat_eq_append_cons_iff.mp hsplit with ⟨rfl, rfl, -⟩ | ⟨init, -, rfl⟩
        · by_cases hfound : FoundAgent env ops
          · exact Or.inl hfound
          · rw [← ih, Bool.not_eq_true] at hfound
            exact Or.inr ⟨rfl, hfound, hid⟩
        · exact Or.inl ⟨early, init, rfl, hid⟩

/-- The step after `before` registers the object under the id. -/
structure Registers (env : Environment) (before : List Op) (args : VoiceAgent.Args)
    (id : String) (p : AgentPtr) : Prop where
  absent : ((machine env).run .initial before).manager.mVoiceAgents.find id = none
  present : ((machine env).run .initial
    (before ++ [.addNewVoiceAgent args])).manager.mVoiceAgents.find id = some p

/-- The agents that are triggered from an add to the return of a later call. -/
def triggeredSince (env : Environment) (before : List Op) (args : VoiceAgent.Args)
    (after : List Op) : List AgentPtr :=
  (machine env).collect triggered
    ((machine env).run .initial (before ++ [.addNewVoiceAgent args]))
    (after ++ [.startNewSubscriptionProcess])

/-- What has been triggered when a call after a run returns. -/
structure SubscriptionsStarted (env : Environment) (ops : List Op) : Prop where
  /-- an agent that is registered then has been triggered once since it was registered, if
  no call before that had found an agent, and otherwise not at all -/
  registered : ∀ id p,
    ((machine env).run .initial
      (ops ++ [.startNewSubscriptionProcess])).manager.mVoiceAgents.find id = some p →
    ∃ before args after, ops = before ++ .addNewVoiceAgent args :: after ∧
      Registers env before args id p ∧
      (¬ FoundAgent env before → (triggeredSince env before args after).count p = 1) ∧
      (FoundAgent env before → (triggeredSince env before args after).count p = 0)
  /-- no agent is triggered twice in the whole run -/
  nodup : ((machine env).collect triggered .initial
    (ops ++ [.startNewSubscriptionProcess])).Nodup
  /-- and these are the calls that were made, each on the API of its agent -/
  calls : triggerCalls ((machine env).run .initial (ops ++ [.startNewSubscriptionProcess])).calls =
    (machine env).collect
      (fun s op => (triggered s op).map fun p => (s.manager.agents.object p).mApi)
      .initial (ops ++ [.startNewSubscriptionProcess])

/-- How often an agent that stays is triggered since it was registered. -/
theorem Registers.count {env : Environment} (henv : env.afbApi = true) {before : List Op}
    {args : VoiceAgent.Args} {id : String} {p : AgentPtr} (h : Registers env before args id p)
    (after : List Op)
    (hstays : ((machine env).run .initial (before ++ .addNewVoiceAgent args ::
      (after ++ [.startNewSubscriptionProcess]))).manager.mVoiceAgents.find id = some p) :
    (¬ FoundAgent env before → (triggeredSince env before args after).count p = 1) ∧
      (FoundAgent env before → (triggeredSince env before args after).count p = 0) := by
  have hsince : ∀ rest, before ++ Op.addNewVoiceAgent args :: rest =
      (before ++ [.addNewVoiceAgent args]) ++ rest := fun rest => List.append_cons before _ rest
  have hflag : ((machine env).run .initial
      (before ++ [.addNewVoiceAgent args])).manager.mAlreadyPeformedSubscriptions =
      ((machine env).run .initial before).manager.mAlreadyPeformedSubscriptions := by
    rw [Machine.run_concat, step_flag henv]
    exact Bool.or_false _
  have hwf := agentsWf_run env (before ++ [.addNewVoiceAgent args])
  rw [hsince, Machine.run_append] at hstays
  rw [← flag_iff_foundAgent henv, ← hflag]
  constructor
  · intro hdown
    rw [Bool.not_eq_true] at hdown
    have hcount := count_collect henv _ hwf (hwf.lt_next id p h.present) hdown hstays
    have hlt : p < ((machine env).run .initial
        (before ++ [.addNewVoiceAgent args] ++ after)).manager.agents.next := by
      rw [Machine.run_append]
      exact Nat.lt_of_lt_of_le (hwf.lt_next id p h.present) (next_le_run env _ after)
    -- the call that returns has found the agent itself
    have hup : ((machine env).run ((machine env).run .initial (before ++
        [.addNewVoiceAgent args])) (after ++
          [.startNewSubscriptionProcess])).manager.mAlreadyPeformedSubscriptions = true := by
      rw [← Machine.run_append, flag_iff_foundAgent henv]
      refine ⟨before ++ [.addNewVoiceAgent args] ++ after, [], by simp, id, ?_⟩
      rw [UnorderedMap.mem_iff_find]
      rw [← Machine.run_append, ← List.append_assoc, Machine.run_concat] at hstays
      exact ⟨p, find_of_step hlt hstays⟩
    rw [hup, if_pos rfl] at hcount
    exact hcount
  · intro hup
    rw [triggeredSince, collect_of_flag henv _ hup, List.count_nil]

theorem subscriptions_started {env : Environment} (henv : env.afbApi = true) (ops : List Op) :
    SubscriptionsStarted env ops := by
  refine ⟨?_, collect_nodup henv _ (agentsWf_run env []), ?_⟩
  · intro id p hstays
    obtain ⟨args, ⟨before, since, hsplit, -, habsent, hadded⟩, -⟩ :=
      addedBy_run henv (ops ++ [.startNewSubscriptionProcess]) id p hstays
    have hregisters : Registers env before args id p :=
      ⟨habsent, by rw [Machine.run_concat]; exact hadded⟩
    rcases concat_eq_append_cons_iff.mp hsplit with ⟨-, hop, -⟩ | ⟨after, rfl, rfl⟩
    · exact absurd hop (by simp)
    · rw [List.append_assoc, List.cons_append] at hstays
      exact ⟨before, args, after, rfl, hregisters, hregisters.count henv after hstays⟩
  · exact (machine env).log_run (fun s => triggerCalls s.calls) (triggerCalls_step henv)
      State.initial _

/-- The first agent is triggered, one that comes later is not. -/
theorem subscriptions_started_late :
    let ops : List Op := [.startNewSubscriptionProcess,
      .addNewVoiceAgent (.simple "VA-001" "first"), .startNewSubscriptionProcess,
      .addNewVoiceAgent (.simple "VA-002" "second")]
    SubscriptionsStarted .obliging ops ∧
      triggerCalls ((machine .obliging).run .initial
        (ops ++ [.startNewSubscriptionProcess])).calls = ["first"] := by
  intro ops
  exact ⟨subscriptions_started rfl ops, by decide⟩

/-- The second agent is registered, but nothing is sent to it. -/
theorem late_agent_skipped :
    ¬ ∀ (env : Environment) (before after : List Op) (args : VoiceAgent.Args) (id : String)
      (p : AgentPtr), env.afbApi = true → Registers env before args id p →
      ((machine env).run .initial (before ++ .addNewVoiceAgent args ::
        (after ++ [.startNewSubscriptionProcess]))).manager.mVoiceAgents.find id = some p →
      (triggeredSince env before args after).count p = 1 := by
  intro h
  have hcount := h .obliging [.addNewVoiceAgent (.simple "VA-001" "first"),
    .startNewSubscriptionProcess] [] (.simple "VA-002" "second") "VA-002" 1 rfl
    ⟨by decide, by decide⟩ (by decide)
  exact absurd hcount (by decide)

end Vshl.VoiceAgents
