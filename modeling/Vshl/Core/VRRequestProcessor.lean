/-
  Core/VRRequestProcessor.lean --- `VRRequestProcessor`, its delegate and its
  observer.

  A `VRRequestProcessor` has no state but that of its delegate.  The observer
  holds the delegate weakly; the processor keeps the delegate alive, so `lock`
  succeeds as long as there is a processor.
-/
import Vshl.Core.VRRequest
import Vshl.Utilities.UUIDGeneration
import Vshl.VoiceAgents.DataManager

set_option autoImplicit false

namespace Vshl.Core

open Vshl.Foundation
open Vshl.Interfaces
open Vshl.Utilities
open Vshl.VoiceAgents

/-! ## The delegate -/

/-- The state of a `VRRequestProcessorDelegate`; the requests are stored under the
id of their agent. -/
structure VRRequestProcessorDelegate where
  mDefaultVoiceAgent : Option AgentPtr
  mVRRequests : UnorderedMap String VRRequest

namespace VRRequestProcessorDelegate

/-- `VRRequestProcessorDelegate::create`. -/
def create : VRRequestProcessorDelegate := ⟨none, ∅⟩

/-- `VRRequestProcessorDelegate::setDefaultVoiceAgent`. -/
def setDefaultVoiceAgent (delegate : VRRequestProcessorDelegate)
    (voiceAgent : Option AgentPtr) : VRRequestProcessorDelegate :=
  { delegate with mDefaultVoiceAgent := voiceAgent }

/-- `VRRequestProcessorDelegate::getDefaultVoiceAgent`. -/
def getDefaultVoiceAgent (delegate : VRRequestProcessorDelegate) : Option AgentPtr :=
  delegate.mDefaultVoiceAgent

/-- `VRRequestProcessorDelegate::getAllRequests`. -/
def getAllRequests (delegate : VRRequestProcessorDelegate) :
    UnorderedMap String VRRequest :=
  delegate.mVRRequests

/-- `VRRequestProcessorDelegate::startRequestForVoiceAgent`. -/
def startRequestForVoiceAgent (env : Environment) (agents : AgentStore)
    (delegate : VRRequestProcessorDelegate) (calls : Trace) (voiceAgent : AgentPtr) :
    String × VRRequestProcessorDelegate × Trace :=
  if env.afbApi = false then ("", delegate, calls)
  else
    let newReqId := generateUUID (env.randomByte calls)
    match VRRequest.create env newReqId voiceAgent with
    | none => ("", delegate, calls) -- not reached: the API was checked above
    | some newRequest =>
        match newRequest.startListening env agents calls with
        | (false, calls) => ("", delegate, calls)
        | (true, calls) =>
            (newReqId,
              { delegate with
                mVRRequests := delegate.mVRRequests.emplace
                  (agents.object voiceAgent).mId newRequest },
              calls)

/-- The loop of `cancelAllRequests`; a failed cancel is only logged. -/
def cancelEach (env : Environment) (agents : AgentStore) (calls : Trace)
    (requests : List VRRequest) : Trace :=
  requests.foldl (fun calls request => (request.cancel env agents calls).2) calls

/-- `VRRequestProcessorDelegate::cancelAllRequests`. -/
def cancelAllRequests (env : Environment) (agents : AgentStore)
    (delegate : VRRequestProcessorDelegate) (calls : Trace) :
    VRRequestProcessorDelegate × Trace :=
  if delegate.mVRRequests.isEmpty then (delegate, calls)
  else
    ({ delegate with mVRRequests := ∅ },
      cancelEach env agents calls delegate.mVRRequests.values)

theorem startRequestForVoiceAgent_eq {env : Environment} (henv : env.afbApi = true)
    (agents : AgentStore) (delegate : VRRequestProcessorDelegate) (calls : Trace)
    (voiceAgent : AgentPtr) :
    delegate.startRequestForVoiceAgent env agents calls voiceAgent =
      (generateUUID (env.randomByte calls),
        { delegate with
          mVRRequests := delegate.mVRRequests.emplace (agents.object voiceAgent).mId
            ⟨generateUUID (env.randomByte calls), voiceAgent⟩ },
        calls ++ [.callSync (agents.object voiceAgent).mApi VRRequest.VA_VERB_STARTLISTENING
          none (env.callSync calls (agents.object voiceAgent).mApi
            VRRequest.VA_VERB_STARTLISTENING none)]) := by
  simp [startRequestForVoiceAgent, henv, VRRequest.create, VRRequest.startListening,
    VRRequest.callVerb_eq]

@[simp] theorem cancelAllRequests_default (env : Environment) (agents : AgentStore)
    (delegate : VRRequestProcessorDelegate) (calls : Trace) :
    (delegate.cancelAllRequests env agents calls).1.mDefaultVoiceAgent =
      delegate.mDefaultVoiceAgent := by
  unfold cancelAllRequests
  split <;> rfl

@[simp] theorem cancelAllRequests_requests (env : Environment) (agents : AgentStore)
    (delegate : VRRequestProcessorDelegate) (calls : Trace) :
    (delegate.cancelAllRequests env agents calls).1.mVRRequests = ∅ := by
  unfold cancelAllRequests
  split
  · rename_i hempty
    exact UnorderedMap.isEmpty_iff.mp hempty
  · rfl

/-- An empty map is a loop of no rounds, so the guard of `cancelAllRequests`
makes no difference. -/
theorem cancelAllRequests_calls (env : Environment) (agents : AgentStore)
    (delegate : VRRequestProcessorDelegate) (calls : Trace) :
    (delegate.cancelAllRequests env agents calls).2 =
      cancelEach env agents calls delegate.mVRRequests.values := by
  unfold cancelAllRequests
  split
  · rename_i hempty
    rw [UnorderedMap.isEmpty_iff.mp hempty]
    rfl
  · rfl

/-- Cancelling only sends `cancel`. -/
theorem cancelEach_calls (env : Environment) (agents : AgentStore) :
    ∀ (requests : List VRRequest) (calls : Trace),
      ∃ added : Trace, cancelEach env agents calls requests = calls ++ added ∧
        ∀ call ∈ added, ∃ api request result,
          call = .callSync api VRRequest.VA_VERB_CANCEL request result
  | [], calls => ⟨[], (List.append_nil calls).symm, by simp⟩
  | request :: rest, calls => by
      obtain ⟨first, hfirst, hcancel⟩ : ∃ first : Call,
          (request.cancel env agents calls).2 = calls ++ [first] ∧
            ∃ api request result,
              first = .callSync api VRRequest.VA_VERB_CANCEL request result := by
        rw [VRRequest.cancel, VRRequest.callVerb_eq]
        exact ⟨_, rfl, _, _, _, rfl⟩
      obtain ⟨others, hothers, honly⟩ := cancelEach_calls env agents rest
        (request.cancel env agents calls).2
      refine ⟨first :: others, hothers.trans ?_, ?_⟩
      · rw [hfirst, List.append_assoc, List.singleton_append]
      · intro call hcall
        rcases List.mem_cons.mp hcall with rfl | hmem
        · exact hcancel
        · exact honly call hmem

end VRRequestProcessorDelegate

/-! ## The processor -/

namespace VRRequestProcessor

/-- `VRRequestProcessor::startListening`. -/
def startListening (env : Environment) (agents : AgentStore)
    (delegate : VRRequestProcessorDelegate) (calls : Trace) :
    String × VRRequestProcessorDelegate × Trace :=
  match delegate.getDefaultVoiceAgent with
  | none => ("", delegate, calls)
  | some defaultVA =>
      let cancelled := delegate.cancelAllRequests env agents calls
      cancelled.1.startRequestForVoiceAgent env agents cancelled.2 defaultVA

/-- `VRRequestProcessor::cancel`. -/
def cancel (env : Environment) (agents : AgentStore)
    (delegate : VRRequestProcessorDelegate) (calls : Trace) :
    VRRequestProcessorDelegate × Trace :=
  delegate.cancelAllRequests env agents calls

/-- `VRRequestProcessor::~VRRequestProcessor`. -/
def destroy (env : Environment) (agents : AgentStore)
    (delegate : VRRequestProcessorDelegate) (calls : Trace) :
    VRRequestProcessorDelegate × Trace :=
  delegate.cancelAllRequests env agents calls

theorem startListening_of_none {env : Environment} {agents : AgentStore}
    {delegate : VRRequestProcessorDelegate} {calls : Trace}
    (h : delegate.mDefaultVoiceAgent = none) :
    startListening env agents delegate calls = ("", delegate, calls) := by
  simp only [startListening, VRRequestProcessorDelegate.getDefaultVoiceAgent, h]

/-- The requests are cancelled before the new one is made, so the new one is the
only one left. -/
theorem startListening_of_some {env : Environment} (henv : env.afbApi = true)
    (agents : AgentStore) {delegate : VRRequestProcessorDelegate} (calls : Trace)
    {p : AgentPtr} (h : delegate.mDefaultVoiceAgent = some p) :
    startListening env agents delegate calls =
      let cancelled := VRRequestProcessorDelegate.cancelEach env agents calls
        delegate.mVRRequests.values
      let requestId := generateUUID (env.randomByte cancelled)
      let api := (agents.object p).mApi
      (requestId,
        ⟨some p, UnorderedMap.emplace ∅ (agents.object p).mId ⟨requestId, p⟩⟩,
        cancelled ++ [.callSync api VRRequest.VA_VERB_STARTLISTENING none
          (env.callSync cancelled api VRRequest.VA_VERB_STARTLISTENING none)]) := by
  simp only [startListening, VRRequestProcessorDelegate.getDefaultVoiceAgent, h,
    VRRequestProcessorDelegate.startRequestForVoiceAgent_eq henv,
    VRRequestProcessorDelegate.cancelAllRequests_default,
    VRRequestProcessorDelegate.cancelAllRequests_requests,
    VRRequestProcessorDelegate.cancelAllRequests_calls]

/-- Whatever comes of it, `startListening` keeps the default agent and only adds
calls. -/
theorem startListening_keeps (env : Environment) (agents : AgentStore)
    (delegate : VRRequestProcessorDelegate) (calls : Trace) :
    (startListening env agents delegate calls).2.1.mDefaultVoiceAgent =
        delegate.mDefaultVoiceAgent ∧
      calls <+: (startListening env agents delegate calls).2.2 := by
  cases hdefault : delegate.mDefaultVoiceAgent with
  | none =>
      rw [startListening_of_none hdefault]
      exact ⟨hdefault, List.prefix_refl calls⟩
  | some p =>
      obtain ⟨added, hadded, -⟩ := VRRequestProcessorDelegate.cancelEach_calls env agents
        delegate.mVRRequests.values calls
      have hcancel : calls <+: VRRequestProcessorDelegate.cancelEach env agents calls
          delegate.mVRRequests.values := hadded ▸ List.prefix_append calls added
      cases henv : env.afbApi with
      | true =>
          rw [startListening_of_some henv agents calls hdefault]
          exact ⟨rfl, hcancel.trans (List.prefix_append _ _)⟩
      | false =>
          simp only [startListening, VRRequestProcessorDelegate.getDefaultVoiceAgent,
            hdefault, VRRequestProcessorDelegate.startRequestForVoiceAgent, henv, if_true,
            VRRequestProcessorDelegate.cancelAllRequests_default,
            VRRequestProcessorDelegate.cancelAllRequests_calls]
          exact ⟨trivial, hcancel⟩

end VRRequestProcessor

/-! ## The observer -/

namespace VRAgentsObserver

/-- The callbacks of `VRAgentsObserver`: all but `OnDefaultVoiceAgentChanged` have
an empty body. -/
def notify (delegate : VRRequestProcessorDelegate) (callback : Callback)
    (voiceAgent : AgentPtr) : VRRequestProcessorDelegate :=
  match callback with
  | .OnDefaultVoiceAgentChanged => delegate.setDefaultVoiceAgent (some voiceAgent)
  | .OnVoiceAgentAdded => delegate
  | .OnVoiceAgentRemoved => delegate
  | .OnVoiceAgentActiveWakeWordChanged => delegate
  | .OnVoiceAgentActivated => delegate
  | .OnVoiceAgentDeactivated => delegate

/-- What the notifications of one operation do to the delegate, when its observer
is at this address. -/
def deliver (observer : ObserverPtr) (delegate : VRRequestProcessorDelegate)
    (notified : List Notification) : VRRequestProcessorDelegate :=
  notified.foldl
    (fun delegate notification =>
      if notification.observer = observer then
        notify delegate notification.callback notification.voiceAgent
      else delegate)
    delegate

@[simp] theorem deliver_nil (observer : ObserverPtr)
    (delegate : VRRequestProcessorDelegate) : deliver observer delegate [] = delegate := rfl

theorem notify_of_ne {callback : Callback} (h : callback ≠ .OnDefaultVoiceAgentChanged)
    (delegate : VRRequestProcessorDelegate) (voiceAgent : AgentPtr) :
    notify delegate callback voiceAgent = delegate := by
  cases callback with
  | OnDefaultVoiceAgentChanged => exact absurd rfl h
  | _ => rfl

/-- The delegate reacts to a change of the default agent only. -/
theorem deliver_of_ne (observer : ObserverPtr) :
    ∀ (notified : List Notification) (delegate : VRRequestProcessorDelegate),
      (∀ notification ∈ notified,
        notification.callback ≠ .OnDefaultVoiceAgentChanged) →
      deliver observer delegate notified = delegate
  | [], _, _ => rfl
  | notification :: rest, delegate, h => by
      have hfirst : (if notification.observer = observer then
          notify delegate notification.callback notification.voiceAgent
          else delegate) = delegate := by
        rw [notify_of_ne (h notification List.mem_cons_self), ite_self]
      have hrest := deliver_of_ne observer rest delegate
        fun other hother => h other (List.mem_cons_of_mem notification hother)
      calc deliver observer delegate (notification :: rest)
          = deliver observer (if notification.observer = observer then
              notify delegate notification.callback notification.voiceAgent
              else delegate) rest := rfl
        _ = delegate := by rw [hfirst, hrest]

/-- The delegate reacts to what its observer receives. -/
theorem deliver_eq_received (observer : ObserverPtr) (delegate : VRRequestProcessorDelegate)
    (notified : List Notification) :
    deliver observer delegate notified =
      (VoiceAgentsDataManager.received observer notified).foldl
        (fun delegate notification =>
          notify delegate notification.callback notification.voiceAgent) delegate := by
  unfold deliver VoiceAgentsDataManager.received
  rw [List.foldl_filter]
  simp only [decide_eq_true_eq]

/-- An observer that is registered gets the callback, and no other observer's
callback reaches it. -/
theorem deliver_notifyObservers {observer : ObserverPtr} {manager : VoiceAgentsDataManager}
    (h : observer ∈ manager.mVoiceAgentChangeObservers)
    (delegate : VRRequestProcessorDelegate) (callback : Callback) (voiceAgent : AgentPtr) :
    deliver observer delegate (manager.notifyObservers callback voiceAgent) =
      notify delegate callback voiceAgent := by
  rw [deliver_eq_received, VoiceAgentsDataManager.received_notifyObservers h]
  rfl

end VRAgentsObserver

end Vshl.Core
