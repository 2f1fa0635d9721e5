/-
  Core/Requests.lean --- the bookkeeping of `VRRequestProcessorDelegate` under any
  sequence of starts and cancels.

  The requests are stored under the id of their agent, and a request for an id that is
  there already is started but not stored.  So the map is the list of the requests that
  were started since the last cancel exactly as long as no id comes twice in it.
-/
import Vshl.Core.Session

set_option autoImplicit false

namespace Vshl.Core

open Vshl.Foundation
open Vshl.Interfaces
open Vshl.Utilities
open Vshl.VoiceAgents

/-! ## The delegate as a machine -/

/-- A call on the delegate; between two calls the map may be found in any iteration
order. -/
inductive RequestOp where
  | startRequestForVoiceAgent (voiceAgent : AgentPtr)
  | cancelAllRequests
  | rehash (requests : UnorderedMap String VRRequest)

namespace VRRequestProcessorDelegate

/-- The same requests in another iteration order; anything else is refused. -/
def rehash (delegate : VRRequestProcessorDelegate) (requests : UnorderedMap String VRRequest) :
    VRRequestProcessorDelegate :=
  if requests.entries.Perm delegate.mVRRequests.entries then
    { delegate with mVRRequests := requests }
  else delegate

/-- One call; the output is what `startRequestForVoiceAgent` returns. -/
def step (env : Environment) (agents : AgentStore) (s : Session) :
    RequestOp → Session × String
  | .startRequestForVoiceAgent voiceAgent =>
      let done := s.delegate.startRequestForVoiceAgent env agents s.calls voiceAgent
      (⟨done.2.1, done.2.2⟩, done.1)
  | .cancelAllRequests =>
      let done := s.delegate.cancelAllRequests env agents s.calls
      (⟨done.1, done.2⟩, "")
  | .rehash requests => ({ s with delegate := s.delegate.rehash requests }, "")

/-- The delegate as a machine. -/
def machine (env : Environment) (agents : AgentStore) : Machine Session RequestOp String :=
  ⟨step env agents⟩

/-! ## Seen from outside -/

/-- The requests that a caller has started since it last cancelled them all. -/
def track (started : List VRRequest) (op : RequestOp) (returned : String) : List VRRequest :=
  match op with
  | .startRequestForVoiceAgent voiceAgent =>
      if returned = "" then started else ⟨returned, voiceAgent⟩ :: started
  | .cancelAllRequests => []
  | .rehash _ => started

/-- These requests after a run, the latest first. -/
def startedRequests (env : Environment) (agents : AgentStore) (ops : List RequestOp) :
    List VRRequest :=
  (machine env agents).replay track .initial [] ops

/-- The API a request was sent to. -/
def apiOf (agents : AgentStore) (request : VRRequest) : String :=
  (agents.object request.mVoiceAgent).mApi

/-- The id of the agent of a request. -/
def agentIdOf (agents : AgentStore) (request : VRRequest) : String :=
  (agents.object request.mVoiceAgent).mId

/-- No started request is lost: those started are the outstanding ones, and cancelling sends
one `cancel` for each of them. -/
structure Lossless (env : Environment) (agents : AgentStore) (s : Session)
    (started : List VRRequest) : Prop where
  outstanding : ∀ request ∈ started, request ∈ s.delegate.getAllRequests.values
  cancelled : ∃ cancelled : List String,
    agentCalls ((machine env agents).next s .cancelAllRequests).calls =
        agentCalls s.calls ++ cancelled.map .closed ∧
      cancelled.Perm (started.map (apiOf agents))

theorem agentCalls_cancelEach (env : Environment) (agents : AgentStore) :
    ∀ (requests : List VRRequest) (calls : Trace),
      agentCalls (cancelEach env agents calls requests) =
        agentCalls calls ++ (requests.map (apiOf agents)).map .closed
  | [], calls => by simp [cancelEach]
  | request :: rest, calls => by
      have hrest := agentCalls_cancelEach env agents rest (request.cancel env agents calls).2
      refine hrest.trans ?_
      rw [VRRequest.cancel, VRRequest.callVerb_eq, agentCalls_append, agentCalls_cancel,
        List.append_assoc]
      rfl

/-- The `cancel`s that are sent are those of the stored requests. -/
theorem agentCalls_next_cancel (env : Environment) (agents : AgentStore) (s : Session) :
    agentCalls ((machine env agents).next s .cancelAllRequests).calls =
      agentCalls s.calls ++ (s.delegate.mVRRequests.values.map (apiOf agents)).map .closed := by
  refine Eq.trans ?_ (agentCalls_cancelEach env agents _ s.calls)
  exact congrArg agentCalls (s.delegate.cancelAllRequests_calls env agents s.calls)

theorem Lossless.of_perm {env : Environment} {agents : AgentStore} {s : Session}
    {started : List VRRequest} (h : s.delegate.mVRRequests.values.Perm started) :
    Lossless env agents s started :=
  ⟨fun _ hmem => h.mem_iff.mpr hmem, _, agentCalls_next_cancel env agents s,
    h.map (apiOf agents)⟩

/-- As many requests are stored as were started. -/
theorem Lossless.length_eq {env : Environment} {agents : AgentStore} {s : Session}
    {started : List VRRequest} (h : Lossless env agents s started) :
    s.delegate.mVRRequests.values.length = started.length := by
  obtain ⟨cancelled, hcalls, hperm⟩ := h.cancelled
  rw [agentCalls_next_cancel] at hcalls
  have hlength := congrArg List.length (List.append_cancel_left hcalls)
  rw [List.length_map, List.length_map, List.length_map] at hlength
  rw [hlength, hperm.length_eq, List.length_map]

/-! ## One call -/

section

variable {env : Environment} {agents : AgentStore} {s : Session}

/-- Every request is stored under the id of its agent. -/
def Keyed (agents : AgentStore) (s : Session) : Prop :=
  ∀ entry ∈ s.delegate.mVRRequests.entries, agentIdOf agents entry.2 = entry.1

theorem Keyed.mem_iff (h : Keyed agents s) (key : String) :
    key ∈ s.delegate.mVRRequests ↔
      key ∈ s.delegate.mVRRequests.values.map (agentIdOf agents) := by
  have hkeys : s.delegate.mVRRequests.keys =
      s.delegate.mVRRequests.values.map (agentIdOf agents) := by
    rw [UnorderedMap.values, List.map_map]
    exact List.map_congr_left fun entry hentry => (h entry hentry).symm
  rw [AList.mem_keys, hkeys]

/-- A start returns an id, and the request is stored unless its key is taken. -/
theorem next_start (henv : env.afbApi = true) (agents : AgentStore) (s : Session)
    (voiceAgent : AgentPtr) :
    ∃ requestId, requestId ≠ "" ∧
      (machine env agents).output s (.startRequestForVoiceAgent voiceAgent) = requestId ∧
      ((machine env agents).next s (.startRequestForVoiceAgent voiceAgent)).delegate.mVRRequests =
        s.delegate.mVRRequests.emplace (agents.object voiceAgent).mId ⟨requestId, voiceAgent⟩ := by
  refine ⟨generateUUID (env.randomByte s.calls), generateUUID_ne_empty _, ?_, ?_⟩
  · simp only [machine, Machine.output, step, startRequestForVoiceAgent_eq henv]
  · simp only [machine, Machine.next, step, startRequestForVoiceAgent_eq henv]

theorem next_cancel (env : Environment) (agents : AgentStore) (s : Session) :
    ((machine env agents).next s .cancelAllRequests).delegate.mVRRequests = ∅ :=
  s.delegate.cancelAllRequests_requests env agents s.calls

theorem next_rehash (env : Environment) (agents : AgentStore) (s : Session)
    (requests : UnorderedMap String VRRequest) :
    ((machine env agents).next s (.rehash requests)).delegate.mVRRequests.entries.Perm
      s.delegate.mVRRequests.entries := by
  simp only [machine, Machine.next, step, rehash]
  split
  · rename_i hperm
    exact hperm
  · exact List.Perm.refl _

theorem Keyed.step (henv : env.afbApi = true) (h : Keyed agents s) (op : RequestOp) :
    Keyed agents ((machine env agents).next s op) := by
  intro entry hentry
  cases op with
  | startRequestForVoiceAgent voiceAgent =>
      obtain ⟨requestId, -, -, hrequests⟩ := next_start henv agents s voiceAgent
      rw [hrequests, UnorderedMap.emplace] at hentry
      split at hentry
      · exact h entry hentry
      · rename_i habsent
        rw [AList.entries_insert_of_notMem habsent] at hentry
        rcases List.mem_cons.mp hentry with rfl | hold
        · rfl
        · exact h entry hold
  | cancelAllRequests =>
      rw [next_cancel] at hentry
      exact absurd hentry (by simp)
  | rehash requests => exact h entry ((next_rehash env agents s requests).mem_iff.mp hentry)

theorem keyed_run (henv : env.afbApi = true) (agents : AgentStore) (ops : List RequestOp) :
    Keyed agents ((machine env agents).run .initial ops) := by
  have hinitial : Keyed agents Session.initial := by
    intro entry hentry
    exact absurd hentry (by simp [Session.initial, create])
  exact (machine env agents).run_invariant (I := Keyed agents)
    (fun _ op h => h.step henv op) hinitial ops

end

/-! ## Every run -/

section

variable {env : Environment}

/-- The ids of the agents that requests were started for since the last cancel. -/
def idsSinceCancel (agents : AgentStore) (ops : List RequestOp) : List String :=
  ops.foldl
    (fun ids op =>
      match op with
      | .startRequestForVoiceAgent voiceAgent => (agents.object voiceAgent).mId :: ids
      | .cancelAllRequests => []
      | .rehash _ => ids)
    []

/-- Between two cancels there is at most one start for each id. -/
def NoIdTwice (agents : AgentStore) (ops : List RequestOp) : Prop :=
  ∀ front voiceAgent back, ops = front ++ .startRequestForVoiceAgent voiceAgent :: back →
    (agents.object voiceAgent).mId ∉ idsSinceCancel agents front

theorem startedRequests_start (henv : env.afbApi = true) (agents : AgentStore)
    (ops : List RequestOp) (voiceAgent : AgentPtr) :
    ∃ requestId, startedRequests env agents
        (ops ++ [.startRequestForVoiceAgent voiceAgent]) =
      ⟨requestId, voiceAgent⟩ :: startedRequests env agents ops ∧
      ((machine env agents).run .initial
        (ops ++ [.startRequestForVoiceAgent voiceAgent])).delegate.mVRRequests =
        ((machine env agents).run .initial ops).delegate.mVRRequests.emplace
          (agents.object voiceAgent).mId ⟨requestId, voiceAgent⟩ := by
  obtain ⟨requestId, hne, hout, hrequests⟩ := next_start henv agents
    ((machine env agents).run .initial ops) voiceAgent
  refine ⟨requestId, ?_, ?_⟩
  · rw [startedRequests, Machine.replay_concat, hout]
    simp only [track, if_neg hne, startedRequests]
  · rw [Machine.run_concat]
    exact hrequests

theorem idsSinceCancel_eq (henv : env.afbApi = true) (agents : AgentStore)
    (ops : List RequestOp) :
    idsSinceCancel agents ops = (startedRequests env agents ops).map (agentIdOf agents) := by
  induction ops using List.reverseRecOn with
  | nil => rfl
  | append_singleton ops op ih =>
      have hids : idsSinceCancel agents (ops ++ [op]) =
          match op with
          | .startRequestForVoiceAgent voiceAgent =>
              (agents.object voiceAgent).mId :: idsSinceCancel agents ops
          | .cancelAllRequests => []
          | .rehash _ => idsSinceCancel agents ops := by
        simp only [idsSinceCancel, List.foldl_append, List.foldl_cons, List.foldl_nil]
      rw [hids]
      cases op with
      | startRequestForVoiceAgent voiceAgent =>
          obtain ⟨requestId, hstarted, -⟩ := startedRequests_start henv agents ops voiceAgent
          rw [hstarted, ih, List.map_cons, agentIdOf]
      | cancelAllRequests =>
          rw [startedRequests, Machine.replay_concat]
          rfl
      | rehash requests =>
          rw [startedRequests, Machine.replay_concat, ih]
          rfl

/-- While no id comes twice, the map is the list of the started requests. -/
theorem stored_perm (henv : env.afbApi = true) (agents : AgentStore) {ops : List RequestOp}
    (hops : NoIdTwice agents ops) :
    ((machine env agents).run .initial ops).delegate.mVRRequests.values.Perm
      (startedRequests env agents ops) := by
  induction ops using List.reverseRecOn with
  | nil => exact List.Perm.refl _
  | append_singleton ops op ih =>
      have hstored := ih fun front voiceAgent back hsplit =>
        hops front voiceAgent (back ++ [op]) (by rw [hsplit, List.append_assoc]; rfl)
      cases op with
      | startRequestForVoiceAgent voiceAgent =>
          obtain ⟨requestId, hstarted, hrequests⟩ :=
            startedRequests_start henv agents ops voiceAgent
          have hfresh : (agents.object voiceAgent).mId ∉
              ((machine env agents).run .initial ops).delegate.mVRRequests := by
            rw [(keyed_run henv agents ops).mem_iff, (hstored.map _).mem_iff,
              ← idsSinceCancel_eq henv]
            exact hops ops voiceAgent [] rfl
          rw [hstarted, hrequests, UnorderedMap.values_emplace, if_neg hfresh]
          exact hstored.cons _
      | cancelAllRequests =>
          rw [startedRequests, Machine.replay_concat, Machine.run_concat, next_cancel]
          exact List.Perm.refl _
      | rehash requests =>
          rw [startedRequests, Machine.replay_concat, Machine.run_concat]
          refine List.Perm.trans ?_ hstored
          exact (next_rehash env agents _ requests).map Sigma.snd

end

/-- Requests are kept and cancelled one by one in all states of a run exactly if between two
cancels no two requests are started for agents of one id. -/
theorem requests_lossless_iff {env : Environment} (henv : env.afbApi = true)
    (agents : AgentStore) (ops : List RequestOp) :
    (∀ front back, ops = front ++ back →
        Lossless env agents ((machine env agents).run .initial front)
          (startedRequests env agents front)) ↔
      NoIdTwice agents ops := by
  constructor
  · intro hall front voiceAgent back hsplit htwice
    have hbefore := hall front _ hsplit
    have hafter := hall (front ++ [.startRequestForVoiceAgent voiceAgent]) back
      (by rw [hsplit, List.append_assoc]; rfl)
    obtain ⟨requestId, hstarted, hrequests⟩ :=
      startedRequests_start henv agents front voiceAgent
    -- the id is a key already, so one request more is started but not stored
    have htaken : (agents.object voiceAgent).mId ∈
        ((machine env agents).run .initial front).delegate.mVRRequests := by
      rw [idsSinceCancel_eq henv, List.mem_map] at htwice
      obtain ⟨request, hmem, hid⟩ := htwice
      rw [(keyed_run henv agents front).mem_iff, List.mem_map]
      exact ⟨request, hbefore.outstanding request hmem, hid⟩
    have hlength := hafter.length_eq
    rw [hstarted, hrequests, UnorderedMap.values_emplace, if_pos htaken, hbefore.length_eq,
      List.length_cons] at hlength
    omega
  · intro hops front back hsplit
    refine Lossless.of_perm (stored_perm henv agents ?_)
    intro early voiceAgent late hfront
    exact hops early voiceAgent (late ++ back)
      (by rw [hsplit, hfront, List.append_assoc, List.cons_append])

/-- The same agent is asked again after a cancel only. -/
theorem requests_lossless_iff_two_agents :
    let agents := (AgentStore.empty.alloc (.simple "VA-001" "first")).alloc
      (.simple "VA-002" "second")
    let ops : List RequestOp := [.startRequestForVoiceAgent 0, .startRequestForVoiceAgent 1,
      .cancelAllRequests, .startRequestForVoiceAgent 0]
    (∀ front back, ops = front ++ back →
        Lossless .obliging agents ((machine .obliging agents).run .initial front)
          (startedRequests .obliging agents front)) ↔
      NoIdTwice agents ops :=
  requests_lossless_iff rfl _ _

/-- The second of two requests to one agent is neither stored nor cancelled. -/
theorem repeated_request_lost :
    ¬ ∀ (env : Environment) (agents : AgentStore) (ops : List RequestOp), env.afbApi = true →
      Lossless env agents ((machine env agents).run .initial ops)
        (startedRequests env agents ops) := by
  intro h
  have hlost := (h .obliging (AgentStore.empty.alloc (.simple "VA-001" "api"))
    [.startRequestForVoiceAgent 0, .startRequestForVoiceAgent 0] rfl).length_eq
  exact absurd hlost (by decide)

end VRRequestProcessorDelegate

end Vshl.Core
