/-
  Core/Session.lean --- runs of a `VRRequestProcessor`: which calls reach the agents,
  and which request is outstanding.

  The default agent changes in any way between the operations, so a request may have
  to be cancelled at an agent that is the default no longer.
-/
import Vshl.Core.VRRequestProcessor
import Vshl.Foundation.Bracket
import Vshl.Foundation.Machine

set_option autoImplicit false

namespace Vshl.Core

open Vshl.Foundation
open Vshl.Interfaces
open Vshl.Utilities
open Vshl.VoiceAgents

/-- A request processor's delegate and the calls made so far. -/
structure Session where
  delegate : VRRequestProcessorDelegate
  calls : Trace

/-- Before the first operation. -/
def Session.initial : Session := ⟨.create, []⟩

/-- An operation of the processor, or a change of the delegate's default agent. -/
inductive SessionOp where
  | startListening
  | cancel
  | destroy
  | setDefaultVoiceAgent (voiceAgent : Option AgentPtr)
  deriving DecidableEq

/-- One operation; the output is what `startListening` returns. -/
def Session.step (env : Environment) (agents : AgentStore) (s : Session) :
    SessionOp → Session × String
  | .startListening =>
      let done := VRRequestProcessor.startListening env agents s.delegate s.calls
      (⟨done.2.1, done.2.2⟩, done.1)
  | .cancel =>
      let done := VRRequestProcessor.cancel env agents s.delegate s.calls
      (⟨done.1, done.2⟩, "")
  | .destroy =>
      let done := VRRequestProcessor.destroy env agents s.delegate s.calls
      (⟨done.1, done.2⟩, "")
  | .setDefaultVoiceAgent voiceAgent =>
      ({ s with delegate := s.delegate.setDefaultVoiceAgent voiceAgent }, "")

/-- The processor as a machine. -/
def Session.machine (env : Environment) (agents : AgentStore) :
    Machine Session SessionOp String :=
  ⟨Session.step env agents⟩

/-! ## Seen from outside -/

/-- A call to an agent: it opens or closes a request at the agent's API. -/
def agentCall : Call → Option (Bracket String)
  | .callSync api verb _ _ =>
      if verb = VRRequest.VA_VERB_STARTLISTENING then some (.opened api)
      else if verb = VRRequest.VA_VERB_CANCEL then some (.closed api)
      else none
  | _ => none

/-- The `startListening` and `cancel` calls of a trace. -/
def agentCalls (calls : Trace) : List (Bracket String) := calls.filterMap agentCall

theorem agentCalls_append (calls calls' : Trace) :
    agentCalls (calls ++ calls') = agentCalls calls ++ agentCalls calls' :=
  List.filterMap_append

theorem agentCalls_start (api : String) (request : Option Json) (result : CallSyncResult) :
    agentCalls [.callSync api VRRequest.VA_VERB_STARTLISTENING request result] =
      [.opened api] := rfl

theorem agentCalls_cancel (api : String) (request : Option Json) (result : CallSyncResult) :
    agentCalls [.callSync api VRRequest.VA_VERB_CANCEL request result] =
      [.closed api] := rfl

/-- What a user of the processor knows without looking into it. -/
structure Ledger where
  /-- the agent last made the default -/
  default : Option AgentPtr
  /-- the agent and the id of the latest start that was not cancelled -/
  outstanding : Option (AgentPtr × String)

/-- An id that is returned starts a request, anything but a start or a change of the
default cancels it. -/
def Ledger.track (ledger : Ledger) (op : SessionOp) (returned : String) : Ledger :=
  match op with
  | .startListening =>
      if returned = "" then ledger
      else { ledger with outstanding := ledger.default.map fun p => (p, returned) }
  | .cancel => { ledger with outstanding := none }
  | .destroy => { ledger with outstanding := none }
  | .setDefaultVoiceAgent voiceAgent => { ledger with default := voiceAgent }

/-- The ledger after a run. -/
def Ledger.after (env : Environment) (agents : AgentStore) (ops : List SessionOp) : Ledger :=
  (Session.machine env agents).replay Ledger.track .initial ⟨none, none⟩ ops

/-- How the outstanding request is stored. -/
def outstandingEntry (agents : AgentStore) (request : AgentPtr × String) :
    Sigma fun _ : String => VRRequest :=
  ⟨(agents.object request.1).mId, ⟨request.2, request.1⟩⟩

/-- The delegate and the trace are what the ledger says. -/
structure Session.Follows (agents : AgentStore) (s : Session) (ledger : Ledger) : Prop where
  default : s.delegate.mDefaultVoiceAgent = ledger.default
  requests : s.delegate.getAllRequests.entries =
    (ledger.outstanding.map (outstandingEntry agents)).toList
  paired : Paired (agentCalls s.calls)
    (ledger.outstanding.map fun request => (agents.object request.1).mApi)

/-! ## One operation -/

section

variable {env : Environment} {agents : AgentStore} {s : Session} {ledger : Ledger}

/-- Cancelling closes what is outstanding, at the agent it was started at. -/
theorem Session.Follows.cancelEach (h : s.Follows agents ledger) :
    Paired (agentCalls (VRRequestProcessorDelegate.cancelEach env agents s.calls
      s.delegate.mVRRequests.values)) none := by
  have hentries : s.delegate.mVRRequests.entries =
      (ledger.outstanding.map (outstandingEntry agents)).toList := h.requests
  have hpaired := h.paired
  cases houtstanding : ledger.outstanding with
  | none =>
      rw [houtstanding] at hentries hpaired
      have hvalues : s.delegate.mVRRequests.values = [] := by
        simp [UnorderedMap.values, hentries]
      rw [hvalues]
      exact hpaired
  | some request =>
      rw [houtstanding] at hentries hpaired
      have hvalues : s.delegate.mVRRequests.values = [⟨request.2, request.1⟩] := by
        simp [UnorderedMap.values, hentries, outstandingEntry]
      rw [hvalues]
      simp only [VRRequestProcessorDelegate.cancelEach, List.foldl_cons, List.foldl_nil,
        VRRequest.cancel, VRRequest.callVerb_eq]
      rw [agentCalls_append, agentCalls_cancel]
      exact Paired.closed hpaired

theorem Session.Follows.cancelAllRequests (env : Environment)
    (h : s.Follows agents ledger) :
    Session.Follows agents
      ⟨(s.delegate.cancelAllRequests env agents s.calls).1,
        (s.delegate.cancelAllRequests env agents s.calls).2⟩
      { ledger with outstanding := none } := by
  refine ⟨?_, ?_, ?_⟩
  · rw [VRRequestProcessorDelegate.cancelAllRequests_default]
    exact h.default
  · simp only [VRRequestProcessorDelegate.getAllRequests,
      VRRequestProcessorDelegate.cancelAllRequests_requests]
    rfl
  · rw [VRRequestProcessorDelegate.cancelAllRequests_calls]
    exact h.cancelEach

/-- Without a default agent `startListening` does nothing. -/
theorem Session.startListening_of_none (h : s.delegate.mDefaultVoiceAgent = none) :
    Session.step env agents s .startListening = (s, "") := by
  simp only [Session.step, VRRequestProcessor.startListening_of_none h]

theorem Session.startListening_ne_empty (henv : env.afbApi = true) (agents : AgentStore)
    {p : AgentPtr} (h : s.delegate.mDefaultVoiceAgent = some p) :
    (Session.step env agents s .startListening).2 ≠ "" := by
  simp only [Session.step, VRRequestProcessor.startListening_of_some henv agents s.calls h]
  exact generateUUID_ne_empty _

theorem Session.Follows.startListening (henv : env.afbApi = true)
    (h : s.Follows agents ledger) :
    (Session.step env agents s .startListening).1.Follows agents
      (ledger.track .startListening (Session.step env agents s .startListening).2) := by
  cases hdefault : s.delegate.mDefaultVoiceAgent with
  | none =>
      rw [Session.startListening_of_none hdefault]
      exact h
  | some p =>
      have hledger : ledger.default = some p := h.default.symm.trans hdefault
      have hne := Session.startListening_ne_empty henv agents hdefault
      have htrack : ledger.track .startListening
            (Session.step env agents s .startListening).2 =
          { ledger with
            outstanding := some (p, (Session.step env agents s .startListening).2) } := by
        simp only [Ledger.track, hne, if_false, hledger, Option.map_some]
      rw [htrack]
      simp only [Session.step,
        VRRequestProcessor.startListening_of_some henv agents s.calls hdefault]
      refine ⟨hledger.symm, rfl, ?_⟩
      rw [agentCalls_append, agentCalls_start]
      exact Paired.opened _ h.cancelEach

theorem Session.Follows.step (henv : env.afbApi = true) (h : s.Follows agents ledger)
    (op : SessionOp) :
    ((Session.machine env agents).next s op).Follows agents
      (ledger.track op ((Session.machine env agents).output s op)) := by
  cases op with
  | startListening => exact h.startListening henv
  | cancel => exact h.cancelAllRequests env
  | destroy => exact h.cancelAllRequests env
  | setDefaultVoiceAgent voiceAgent => exact ⟨rfl, h.requests, h.paired⟩

end

theorem session_follows {env : Environment} (henv : env.afbApi = true) (agents : AgentStore)
    (ops : List SessionOp) :
    ((Session.machine env agents).run .initial ops).Follows agents
      (Ledger.after env agents ops) := by
  have hinitial : Session.initial.Follows agents ⟨none, none⟩ := ⟨rfl, rfl, Paired.nil⟩
  exact (Session.machine env agents).replay_simulation
    (R := fun s ledger => s.Follows agents ledger)
    (fun _ _ op h => h.step henv op) hinitial ops

/-! ## Every run -/

/-- The agent calls and the stored requests after a run. -/
structure SessionCorrect (env : Environment) (agents : AgentStore) (ops : List SessionOp)
    (s : Session) : Prop where
  /-- between a start and the next there is exactly one cancel -/
  startCancelStart : ∀ front middle back api api',
    agentCalls s.calls = front ++ .opened api :: (middle ++ .opened api' :: back) →
    (∀ api'', .opened api'' ∉ middle) → middle = [.closed api]
  /-- a cancel goes to the API of the latest start, which is outstanding until then -/
  cancelAfterStart : ∀ front back api,
    agentCalls s.calls = front ++ .closed api :: back →
    ∃ earlier, front = earlier ++ [.opened api]
  /-- the request of the latest start that was not cancelled is stored, with the id
  that was returned, and no other -/
  requests : s.delegate.getAllRequests.entries =
    ((Ledger.after env agents ops).outstanding.map (outstandingEntry agents)).toList
  /-- and its start is the last call -/
  outstanding : ∀ request, (Ledger.after env agents ops).outstanding = some request →
    ∃ earlier, agentCalls s.calls =
      earlier ++ [.opened (agents.object request.1).mApi]
  /-- nothing is outstanding after a cancel or the destruction -/
  cancelled : ∀ op, op = .cancel ∨ op = .destroy →
    ((Session.machine env agents).next s op).delegate.getAllRequests = ∅ ∧
      Paired (agentCalls ((Session.machine env agents).next s op).calls) none
  /-- a start that returns the empty string does nothing -/
  refused : (Session.machine env agents).output s .startListening = "" →
    (Session.machine env agents).next s .startListening = s

theorem session_correct {env : Environment} (henv : env.afbApi = true) (agents : AgentStore)
    (ops : List SessionOp) :
    SessionCorrect env agents ops ((Session.machine env agents).run .initial ops) := by
  have hfollows := session_follows henv agents ops
  refine ⟨?_, ?_, hfollows.requests, ?_, ?_, ?_⟩
  · intro front middle back api api' hsplit hnext
    exact hfollows.paired.between hsplit hnext
  · intro front back api hsplit
    exact hfollows.paired.closed_follows hsplit
  · intro request hrequest
    have hpaired := hfollows.paired
    rw [hrequest] at hpaired
    obtain ⟨earlier, hlast, -⟩ := hpaired.last_of_some
    exact ⟨earlier, hlast⟩
  · intro op hop
    have hcancelled := hfollows.cancelAllRequests env
    rcases hop with rfl | rfl
    · exact ⟨VRRequestProcessorDelegate.cancelAllRequests_requests _ _ _ _,
        hcancelled.paired⟩
    · exact ⟨VRRequestProcessorDelegate.cancelAllRequests_requests _ _ _ _,
        hcancelled.paired⟩
  · intro hempty
    cases hdefault : ((Session.machine env agents).run
        .initial ops).delegate.mDefaultVoiceAgent with
    | none => exact congrArg Prod.fst (Session.startListening_of_none hdefault)
    | some p => exact absurd hempty (Session.startListening_ne_empty henv agents hdefault)

/-- Two agents with one id: the request is cancelled at the agent it was started
at. -/
theorem session_correct_equal_ids :
    let agents := (AgentStore.empty.alloc (.simple "VA-001" "first")).alloc
      (.simple "VA-001" "second")
    let ops := [.startListening, .setDefaultVoiceAgent (some 0), .startListening,
      .setDefaultVoiceAgent (some 1), .startListening, .setDefaultVoiceAgent none,
      .startListening, .destroy]
    SessionCorrect .obliging agents ops ((Session.machine .obliging agents).run .initial ops) ∧
      agentCalls ((Session.machine .obliging agents).run .initial ops).calls =
        [.opened "first", .closed "first", .opened "second", .closed "second"] := by
  intro agents ops
  exact ⟨session_correct rfl agents ops, by decide⟩

end Vshl.Core
