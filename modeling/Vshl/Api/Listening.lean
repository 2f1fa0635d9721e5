/-
  Api/Listening.lean --- the `startListening` handler: which agent it starts, and what
  becomes of the agent's answer.
-/
import Vshl.Api.Invariant

set_option autoImplicit false

namespace Vshl.Api

open Vshl.Foundation
open Vshl.Interfaces
open Vshl.Utilities
open Vshl.VoiceAgents
open Vshl.Core

/-! ## What `enumerateVoiceAgents` reports -/

/-- `enumerateVoiceAgents` replies these entries and this default id. -/
def Reported (env : Environment) (b : Binding) (listed : List Json) (defaultId : String) :
    Prop :=
  ∃ response, (handle env b .enumerateVoiceAgents).reply = some (.success (some response)) ∧
    response.find? VA_JSON_ATTR_AGENTS = some (.arr listed) ∧
    response.find? VA_JSON_ATTR_DEFAULT = some (.str defaultId)

/-- The reply has an entry for the id, and the API in it is this. -/
def ReportsApi (listed : List Json) (id api : String) : Prop :=
  (∃ entry ∈ listed, entry.find? VA_JSON_ATTR_ID = some (.str id)) ∧
    ∀ entry ∈ listed, entry.find? VA_JSON_ATTR_ID = some (.str id) →
      entry.find? VA_JSON_ATTR_API = some (.str api)

/-- The entries of the reply. -/
def listedAgents (manager : VoiceAgentsDataManager) : List Json :=
  (manager.getAllVoiceAgents.toList.map manager.agents.object).map encodeAgent

theorem reported (env : Environment) (b : Binding) :
    Reported env b (listedAgents b.sVoiceAgentsDataManager)
      b.sVoiceAgentsDataManager.mDefaultVoiceAgentId :=
  ⟨_, rfl, encodeAgents_agents _ _, encodeAgents_default _ _⟩

theorem mem_listedAgents {manager : VoiceAgentsDataManager} {entry : Json} :
    entry ∈ listedAgents manager ↔
      ∃ id p, manager.mVoiceAgents.find id = some p ∧
        entry = encodeAgent (manager.agents.object p) := by
  simp only [listedAgents, List.mem_map]
  constructor
  · rintro ⟨agent, ⟨p, hp, rfl⟩, rfl⟩
    obtain ⟨id, hfind⟩ := VoiceAgentsDataManager.mem_getAllVoiceAgents.mp hp
    exact ⟨id, p, hfind, rfl⟩
  · rintro ⟨id, p, hfind, rfl⟩
    exact ⟨_, ⟨p, VoiceAgentsDataManager.mem_getAllVoiceAgents.mpr ⟨id, hfind⟩, rfl⟩, rfl⟩

/-- The reply reports the API of the agent registered under the id. -/
theorem reportsApi_of_find {b : Binding} (hwf : AgentsWf b.state) {id : String}
    {p : AgentPtr} (hfind : b.sVoiceAgentsDataManager.mVoiceAgents.find id = some p) :
    ReportsApi (listedAgents b.sVoiceAgentsDataManager) id
      (b.sVoiceAgentsDataManager.agents.object p).mApi := by
  constructor
  · refine ⟨encodeAgent (b.sVoiceAgentsDataManager.agents.object p),
      mem_listedAgents.mpr ⟨id, p, hfind, rfl⟩, ?_⟩
    have hid : (b.sVoiceAgentsDataManager.agents.object p).mId = id :=
      hwf.id_eq id p hfind
    rw [← hid]
    rfl
  · intro entry hentry hid
    obtain ⟨id', q, hq, rfl⟩ := mem_listedAgents.mp hentry
    have hmId : (b.sVoiceAgentsDataManager.agents.object q).mId = id := by
      have hstr : some (Json.str (b.sVoiceAgentsDataManager.agents.object q).mId) =
          some (Json.str id) := hid
      exact Json.str.inj (Option.some.inj hstr)
    have hid' : id' = id := (hwf.id_eq id' q hq).symm.trans hmId
    rw [hid'] at hq
    obtain rfl : q = p := Option.some.inj (hq.symm.trans hfind)
    rfl

/-! ## The calls of `startListening` -/

/-- The API of a `startListening` call. -/
def startCall : Call → Option String
  | .callSync api verb _ _ =>
      if verb = VRRequest.VA_VERB_STARTLISTENING then some api else none
  | _ => none

/-- The APIs to which `startListening` was sent, in order. -/
def startCalls (calls : Trace) : List String := calls.filterMap startCall

theorem startCalls_append (calls calls' : Trace) :
    startCalls (calls ++ calls') = startCalls calls ++ startCalls calls' :=
  List.filterMap_append

theorem startCalls_of_subscription {added : Trace}
    (h : ∀ call ∈ added, VoiceAgentsDataManager.IsSubscriptionCall call) :
    startCalls added = [] := by
  unfold startCalls
  rw [List.filterMap_eq_nil_iff]
  intro call hcall
  have honly := h call hcall
  cases call with
  | callSync api verb request result =>
      obtain rfl : verb = "startSubscriptionProcess" := honly
      rfl
  | _ => rfl

theorem startCalls_of_cancel {added : Trace}
    (h : ∀ call ∈ added, ∃ api request result,
      call = .callSync api VRRequest.VA_VERB_CANCEL request result) :
    startCalls added = [] := by
  unfold startCalls
  rw [List.filterMap_eq_nil_iff]
  intro call hcall
  obtain ⟨api, request, result, rfl⟩ := h call hcall
  rfl

/-- The binding in which the request processor is called: the subscription process has
been started. -/
def subscribed (env : Environment) (b : Binding) : Binding :=
  (b.dataManager env .startNewSubscriptionProcess).1

/-- Starting the subscription process changes nothing but the flag. -/
theorem subscribed_only (env : Environment) (b : Binding) :
    ∃ (flag : Bool) (added : Trace),
      subscribed env b =
        { b with
          sVoiceAgentsDataManager :=
            { b.sVoiceAgentsDataManager with mAlreadyPeformedSubscriptions := flag }
          calls := b.calls ++ added } ∧
      ∀ call ∈ added, VoiceAgentsDataManager.IsSubscriptionCall call := by
  obtain ⟨flag, hflag⟩ := b.sVoiceAgentsDataManager.startNewSubscriptionProcess_manager env
    b.calls
  obtain ⟨added, hadded, honly⟩ :=
    b.sVoiceAgentsDataManager.startNewSubscriptionProcess_calls env b.calls
  refine ⟨flag, added, ?_, honly⟩
  simp only [subscribed, Binding.dataManager, VoiceAgents.step, Binding.state, hflag, hadded,
    VRAgentsObserver.deliver_nil]

/-- Starting the subscription process sends no `startListening` and changes neither the
agents nor the default. -/
theorem subscribed_eq (env : Environment) (b : Binding) :
    ∃ (flag : Bool) (added : Trace),
      subscribed env b =
        { b with
          sVoiceAgentsDataManager :=
            { b.sVoiceAgentsDataManager with mAlreadyPeformedSubscriptions := flag }
          calls := b.calls ++ added } ∧
      startCalls added = [] := by
  obtain ⟨flag, added, hsubscribed, honly⟩ := subscribed_only env b
  exact ⟨flag, added, hsubscribed, startCalls_of_subscription honly⟩

/-- The handler, when there is no default agent. -/
theorem startListening_of_none (env : Environment) {b : Binding}
    (h : b.sVRRequestProcessor.mDefaultVoiceAgent = none) :
    startListening env b =
      ⟨subscribed env b, [], some (.fail "Failed to startListening..."), .ok 0⟩ := by
  obtain ⟨flag, added, hsubscribed, -⟩ := subscribed_eq env b
  have hnone : (subscribed env b).sVRRequestProcessor.mDefaultVoiceAgent = none := by
    rw [hsubscribed]
    exact h
  simp only [startListening]
  rw [show (b.dataManager env .startNewSubscriptionProcess).1 = subscribed env b from rfl]
  simp only [VRRequestProcessor.startListening_of_none hnone]
  rfl

/-- The processor's answer, when there is one. -/
def started (env : Environment) (b : Binding) :
    String × VRRequestProcessorDelegate × Trace :=
  VRRequestProcessor.startListening env (subscribed env b).sVoiceAgentsDataManager.agents
    (subscribed env b).sVRRequestProcessor (subscribed env b).calls

theorem startListening_of_ne {env : Environment} {b : Binding}
    (h : (started env b).1 ≠ "") :
    startListening env b =
      Binding.succeed
        { subscribed env b with
          sVRRequestProcessor := (started env b).2.1, calls := (started env b).2.2 }
        (some (.obj [(STARTLISTENING_JSON_ATTR_REQUEST, .str (started env b).1)])) :=
  if_pos h

/-- The agent's answer to the `startListening` call that the handler makes. -/
def startAnswer (env : Environment) (b : Binding) (p : AgentPtr) : CallSyncResult :=
  env.callSync
    (VRRequestProcessorDelegate.cancelEach env
      (subscribed env b).sVoiceAgentsDataManager.agents (subscribed env b).calls
      (subscribed env b).sVRRequestProcessor.mVRRequests.values)
    ((subscribed env b).sVoiceAgentsDataManager.agents.object p).mApi
    VRRequest.VA_VERB_STARTLISTENING none

theorem started_of_some {env : Environment} (henv : env.afbApi = true) {b : Binding}
    {p : AgentPtr} (h : b.sVRRequestProcessor.mDefaultVoiceAgent = some p) :
    (started env b).1 ≠ "" ∧
      (∃ entry, (started env b).2.1.getAllRequests.entries = [entry]) ∧
      ∃ added : Trace, (started env b).2.2 = b.calls ++ added ∧
        startCalls added = [(b.sVoiceAgentsDataManager.agents.object p).mApi] := by
  obtain ⟨flag, subscriptions, hsubscribed, hnone⟩ := subscribed_eq env b
  have hagents : (subscribed env b).sVoiceAgentsDataManager.agents =
      b.sVoiceAgentsDataManager.agents := by rw [hsubscribed]
  have hcalls : (subscribed env b).calls = b.calls ++ subscriptions := by rw [hsubscribed]
  have hsome : (subscribed env b).sVRRequestProcessor.mDefaultVoiceAgent = some p := by
    rw [hsubscribed]
    exact h
  obtain ⟨cancels, hcancels, honly⟩ := VRRequestProcessorDelegate.cancelEach_calls env
    (subscribed env b).sVoiceAgentsDataManager.agents
    (subscribed env b).sVRRequestProcessor.mVRRequests.values (subscribed env b).calls
  have hstarted := VRRequestProcessor.startListening_of_some henv
    (subscribed env b).sVoiceAgentsDataManager.agents (subscribed env b).calls hsome
  have hlast : (started env b).2.2 = b.calls ++ subscriptions ++ cancels ++
      [.callSync (b.sVoiceAgentsDataManager.agents.object p).mApi
        VRRequest.VA_VERB_STARTLISTENING none (startAnswer env b p)] := by
    rw [← hcalls, ← hcancels, ← hagents]
    exact congrArg (fun t => t.2.2) hstarted
  refine ⟨?_, ?_, ?_⟩
  · rw [started, hstarted]
    exact generateUUID_ne_empty _
  · rw [started, hstarted]
    exact ⟨_, UnorderedMap.emplace_empty_entries _ _⟩
  · refine ⟨subscriptions ++ (cancels ++ [.callSync
      (b.sVoiceAgentsDataManager.agents.object p).mApi VRRequest.VA_VERB_STARTLISTENING none
      (startAnswer env b p)]), ?_, ?_⟩
    · rw [hlast]
      simp only [List.append_assoc]
    · rw [startCalls_append, startCalls_append, hnone, startCalls_of_cancel honly]
      rfl

/-! ## The agent that is started is the one that is reported -/

/-- What `startListening` does where this is reported: it fails without a default, and
else starts the default agent at the API that is reported for it. -/
def StartsReported (env : Environment) (b : Binding) (listed : List Json)
    (defaultId : String) : Prop :=
  ∃ added : Trace, (startListening env b).binding.calls = b.calls ++ added ∧
    ((defaultId = "" ∧ startCalls added = [] ∧
        ∃ info, (startListening env b).reply = some (.fail info)) ∨
      (defaultId ≠ "" ∧
        (∃ response, (startListening env b).reply = some (.success response)) ∧
        ∃ api, ReportsApi listed defaultId api ∧ startCalls added = [api]))

theorem startListening_reported {env : Environment} {b : Binding} (h : Reachable env b) :
    ∃ listed defaultId, Reported env b listed defaultId ∧
      Reported env (startListening env b).binding listed defaultId ∧
      StartsReported env b listed defaultId := by
  have hwf := h.wf
  obtain ⟨flag, subscriptions, hsubscribed, hnone⟩ := subscribed_eq env b
  have hagents : (subscribed env b).sVoiceAgentsDataManager =
      { b.sVoiceAgentsDataManager with mAlreadyPeformedSubscriptions := flag } :=
    congrArg Binding.sVoiceAgentsDataManager hsubscribed
  -- the flag is not part of what is reported
  have hsame : ∀ b' : Binding,
      b'.sVoiceAgentsDataManager = (subscribed env b).sVoiceAgentsDataManager →
      Reported env b' (listedAgents b.sVoiceAgentsDataManager)
        b.sVoiceAgentsDataManager.mDefaultVoiceAgentId := by
    intro b' hmanager
    have hreported := reported env b'
    rw [hmanager, hagents] at hreported
    exact hreported
  refine ⟨listedAgents b.sVoiceAgentsDataManager,
    b.sVoiceAgentsDataManager.mDefaultVoiceAgentId, reported env b, ?_⟩
  rcases hwf.agrees with ⟨hdefault, hdelegate⟩ | ⟨p, hfind, hdelegate⟩
  · have hstart := startListening_of_none env hdelegate
    refine ⟨hsame _ (by rw [hstart]), subscriptions, ?_, Or.inl ⟨hdefault, hnone, ?_⟩⟩
    · rw [hstart, hsubscribed]
    · rw [hstart]
      exact ⟨_, rfl⟩
  · obtain ⟨hne, -, added, hadded, hcalls⟩ := started_of_some h.afbApi hdelegate
    have hstart := startListening_of_ne hne
    have hid := hwf.registry.id_ne _ p hfind
    refine ⟨hsame _ (by rw [hstart]; rfl), added, ?_, Or.inr ⟨hid, ?_, ?_⟩⟩
    · rw [hstart]
      exact hadded
    · rw [hstart]
      exact ⟨_, rfl⟩
    · exact ⟨_, reportsApi_of_find hwf.registry.toAgentsWf hfind, hcalls⟩

/-- A binding with one agent, which is the default. -/
theorem startListening_reported_loaded :
    let b := (machine .obliging).run ((CTLP_ONLOAD .obliging).get rfl)
      [.loadVoiceAgentsConfig (some (encodeAgents [.simple "VA-001" "alexa-api"] "VA-001"))]
    ∃ listed defaultId, Reported .obliging b listed defaultId ∧
      Reported .obliging (startListening .obliging b).binding listed defaultId ∧
      StartsReported .obliging b listed defaultId :=
  startListening_reported ⟨_, _, rfl, rfl⟩

/-! ## The agent's answer is lost -/

/-- A start is reported as a success only if the agent accepted it, and a refused start
leaves no request and is reported as a failure. -/
structure StartReportsResult (env : Environment) (b : Binding) : Prop where
  accepted : (started env b).1 ≠ "" →
    ∃ p, b.sVRRequestProcessor.mDefaultVoiceAgent = some p ∧ (startAnswer env b p).rc = 0
  refused : ∀ p, b.sVRRequestProcessor.mDefaultVoiceAgent = some p →
    (startAnswer env b p).rc ≠ 0 →
    (started env b).1 = "" ∧ (started env b).2.1.getAllRequests.entries = [] ∧
      ∃ info, (startListening env b).reply = some (.fail info)

/-- The default agent, if there is one, accepts the start. -/
def StartAccepted (env : Environment) (b : Binding) : Prop :=
  ∀ p, b.sVRRequestProcessor.mDefaultVoiceAgent = some p → (startAnswer env b p).rc = 0

theorem startReportsResult_iff {env : Environment} (henv : env.afbApi = true) (b : Binding) :
    StartReportsResult env b ↔ StartAccepted env b := by
  constructor
  · intro h p hp
    obtain ⟨hne, -⟩ := started_of_some henv hp
    obtain ⟨q, hq, hrc⟩ := h.accepted hne
    obtain rfl : q = p := Option.some.inj (hq.symm.trans hp)
    exact hrc
  · intro h
    refine ⟨?_, ?_⟩
    · intro hne
      cases hdefault : b.sVRRequestProcessor.mDefaultVoiceAgent with
      | none =>
          obtain ⟨flag, added, hsubscribed, -⟩ := subscribed_eq env b
          have hnone : (subscribed env b).sVRRequestProcessor.mDefaultVoiceAgent = none := by
            rw [hsubscribed]
            exact hdefault
          rw [started, VRRequestProcessor.startListening_of_none hnone] at hne
          exact absurd rfl hne
      | some p => exact ⟨p, rfl, h p hdefault⟩
    · intro p hp hrc
      exact absurd (h p hp) hrc

/-- The result of a request's verb says whether the call succeeded exactly when it did:
it is true in any case. -/
theorem request_reports_iff (env : Environment) (agents : AgentStore) (calls : Trace)
    (request : VRRequest) (verb : String) :
    (((request.callVerb env agents calls verb).1 = true ↔
        (env.callSync calls (agents.object request.mVoiceAgent).mApi verb none).rc = 0)) ↔
      (env.callSync calls (agents.object request.mVoiceAgent).mApi verb none).rc = 0 := by
  rw [VRRequest.callVerb_eq]
  simp only [true_iff]

/-- The results of `startListening` and of a request's two verbs agree with the agents'
answers exactly when these are successes. -/
theorem results_agree_iff {env : Environment} (henv : env.afbApi = true) (b : Binding)
    (agents : AgentStore) (calls : Trace) (request : VRRequest) :
    let answer := fun verb =>
      env.callSync calls (agents.object request.mVoiceAgent).mApi verb none
    (StartReportsResult env b ↔ StartAccepted env b) ∧
      (((request.startListening env agents calls).1 = true ↔
          (answer VRRequest.VA_VERB_STARTLISTENING).rc = 0) ↔
        (answer VRRequest.VA_VERB_STARTLISTENING).rc = 0) ∧
      (((request.cancel env agents calls).1 = true ↔
          (answer VRRequest.VA_VERB_CANCEL).rc = 0) ↔
        (answer VRRequest.VA_VERB_CANCEL).rc = 0) := by
  intro answer
  exact ⟨startReportsResult_iff henv b, request_reports_iff env agents calls request _,
    request_reports_iff env agents calls request _⟩

/-- An outside in which every call is answered by an error. -/
def refusing : Environment :=
  { Environment.obliging with callSync := fun _ _ _ _ => ⟨-1, false⟩ }

theorem results_agree_iff_refusing :
    let b := (machine refusing).run ((CTLP_ONLOAD refusing).get rfl)
      [.loadVoiceAgentsConfig (some (encodeAgents [.simple "VA-001" "alexa-api"] "VA-001"))]
    StartReportsResult refusing b ↔ StartAccepted refusing b :=
  (results_agree_iff rfl _ .empty [] ⟨"", 0⟩).1

/-- The default agent refuses, and the client is told that it listens. -/
theorem refused_start_reported_as_success :
    ¬ ∀ (env : Environment) (b : Binding), Reachable env b → StartReportsResult env b := by
  intro h
  have hreport := h refusing
    ((machine refusing).run ((CTLP_ONLOAD refusing).get rfl) [.loadVoiceAgentsConfig
      (some (encodeAgents [.simple "VA-001" "alexa-api"] "VA-001"))]) ⟨_, _, rfl, rfl⟩
  obtain ⟨p, -, hrc⟩ := hreport.accepted
    (started_of_some (show refusing.afbApi = true from rfl) (p := 0) rfl).1
  exact absurd hrc (by
    show (-1 : Int) ≠ 0
    decide)

end Vshl.Api
