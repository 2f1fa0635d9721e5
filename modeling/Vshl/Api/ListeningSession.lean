/-
  Api/ListeningSession.lean --- the requests of a whole run of the binding.

  `Core/Session` speaks of the request processor alone, with a default agent that may be
  anything.  Here the default is the one that the data manager holds, and the clients
  only see handlers: every accepted `startListening` takes the place of the one before.
-/
import Vshl.Api.CallLanguage
import Vshl.Api.Payloads
import Vshl.Utilities.UUIDText

set_option autoImplicit false

namespace Vshl.Api

open Vshl.Foundation
open Vshl.Interfaces
open Vshl.VoiceAgents
open Vshl.Core
open Vshl.Capabilities

/-! ## What clients see -/

/-- The API of the agent registered under the default id. -/
def Binding.defaultApi (b : Binding) : Option String :=
  (b.sVoiceAgentsDataManager.mVoiceAgents.find
    b.sVoiceAgentsDataManager.mDefaultVoiceAgentId).map fun p =>
      (b.sVoiceAgentsDataManager.agents.object p).mApi

/-- The request id in a reply. -/
def Reply.requestId : Reply → Option String
  | .success (some response) =>
      match response.find? STARTLISTENING_JSON_ATTR_REQUEST with
      | some (.str id) => some id
      | _ => none
  | _ => none

/-- The id that the reply to `startListening` carries, with the API of the default agent. -/
def startedRequest (env : Environment) (b : Binding) : Verb → List (String × String)
  | .startListening =>
      match (startListening env b).reply.bind Reply.requestId, b.defaultApi with
      | some id, some api => [(id, api)]
      | _, _ => []
  | _ => []

/-- The stored requests: their ids, with the APIs of their agents. -/
def storedRequests (b : Binding) : List (String × String) :=
  b.sVRRequestProcessor.mVRRequests.values.map fun request =>
    (request.mRequestId, (b.sVoiceAgentsDataManager.agents.object request.mVoiceAgent).mApi)

/-- The binding's requests are these, the last one still open. -/
structure InSession (b : Binding) (requests : List (String × String)) : Prop where
  /-- the agents were called for them in turn -/
  calls : agentCalls b.calls = inTurn (requests.map Prod.snd)
  /-- only the last one is stored -/
  stored : storedRequests b = requests.getLast?.toList

/-! ## Moves that leave the requests alone -/

/-- Only requests are started and cancelled. -/
theorem agentCalls_spell {position : Nat} {manager : VoiceAgentsDataManager}
    {May : String → Prop} {log : Trace} {emission : Emission} (h : emission.kind ≠ .session)
    (hgrounded : Grounded manager May log emission) :
    agentCalls (emission.spell position) = [] := by
  cases emission with
  | ask api verb request result =>
      have hcall : agentCall (.callSync api verb request result) = none := by
        rcases hgrounded with ⟨-, hasked, -⟩ | ⟨-, -, -, -, -, ⟨-, rfl⟩ | ⟨-, rfl⟩⟩
        · have hall : ∀ verb ∈ askedVerbs, verb ≠ VRRequest.VA_VERB_STARTLISTENING ∧
              verb ≠ VRRequest.VA_VERB_CANCEL := by decide
          obtain ⟨hstart, hcancel⟩ := hall verb hasked
          simp only [agentCall, if_neg hstart, if_neg hcancel]
        · rfl
        · rfl
      have hfree : agentCalls (if result.object then [Call.free position] else []) = [] := by
        split
        · rfl
        · rfl
      exact (List.filterMap_cons_none hcall).trans hfree
  | keep api verb result => exact absurd rfl h
  | create _ _ | subscribe _ _ _ | publish _ _ _ | tell _ _ => rfl

theorem agentCalls_of_kinds {env : Environment} {manager : VoiceAgentsDataManager}
    {kinds : List Kind} {May : String → Prop} {calls calls' : Trace}
    (h : Speaks env manager kinds May calls calls')
    (hkinds : Kind.session ∉ kinds) : agentCalls calls' = agentCalls calls :=
  speaks_filterMap_eq (fun _ _ _ hkind hgrounded => agentCalls_spell hkind hgrounded) h hkinds

/-- A binding in good order, in which these requests were made. -/
structure SessionWf (env : Environment) (b : Binding) (requests : List (String × String)) :
    Prop where
  wf : MoveWf env b
  known : RequestsKnown b
  session : InSession b requests

theorem storedRequests_of_keeps {b b' : Binding}
    (hkeep : KeepsAgents b.sVoiceAgentsDataManager b'.sVoiceAgentsDataManager)
    (hknown : RequestsKnown b)
    (hstored : b'.sVRRequestProcessor.mVRRequests = b.sVRRequestProcessor.mVRRequests) :
    storedRequests b' = storedRequests b := by
  unfold storedRequests
  rw [hstored]
  apply List.map_congr_left
  intro request hrequest
  obtain ⟨id, hfind⟩ := hknown request hrequest
  rw [hkeep.api id _ hfind]

theorem SessionWf.move {env : Environment} {b : Binding} {requests : List (String × String)}
    (h : SessionWf env b requests) {m : Move} (hm : m.IsExposed) (hne : m ≠ .startListening) :
    SessionWf env (b.move env m) requests := by
  have hkinds : Kind.session ∉ m.kinds := by
    cases m with
    | startListening => exact absurd rfl hne
    | dataManager op =>
        cases op with
        | _ => simp [Move.kinds]
    | messaging op =>
        cases op with
        | _ => simp [Move.kinds]
  have hstored : (b.move env m).sVRRequestProcessor.mVRRequests =
      b.sVRRequestProcessor.mVRRequests := by
    cases m with
    | startListening => exact absurd rfl hne
    | dataManager op => exact deliver_requests _ _ _
    | messaging op => rfl
  refine ⟨h.wf.move hm, move_requestsKnown hm h.wf h.known, ?_, ?_⟩
  · rw [agentCalls_of_kinds (move_speaks hm h.wf h.known) hkinds]
    exact h.session.calls
  · rw [storedRequests_of_keeps (move_keepsAgents hm h.wf) h.known hstored]
    exact h.session.stored

/-! ## `startListening` -/

/-- Every stored request is cancelled, in turn. -/
theorem agentCalls_cancelEach (env : Environment) (agents : AgentStore) (calls : Trace)
    (requests : List VRRequest) :
    agentCalls (VRRequestProcessorDelegate.cancelEach env agents calls requests) =
      agentCalls calls ++
        requests.map fun request => .closed (agents.object request.mVoiceAgent).mApi := by
  induction requests generalizing calls with
  | nil => exact (List.append_nil _).symm
  | cons request rest ih =>
      have hcancel : agentCalls (request.cancel env agents calls).2 =
          agentCalls calls ++ [.closed (agents.object request.mVoiceAgent).mApi] := by
        simp only [VRRequest.cancel, VRRequest.callVerb_eq]
        rw [agentCalls_append, agentCalls_cancel]
      have hloop : VRRequestProcessorDelegate.cancelEach env agents calls (request :: rest) =
          VRRequestProcessorDelegate.cancelEach env agents (request.cancel env agents calls).2
            rest := rfl
      rw [hloop, ih, hcancel, List.append_assoc]
      rfl

theorem SessionWf.listen {env : Environment} {b : Binding} {requests : List (String × String)}
    (h : SessionWf env b requests) {p : AgentPtr}
    (hp : b.sVRRequestProcessor.mDefaultVoiceAgent = some p) :
    SessionWf env (b.listen env) (requests ++
      [((b.newRequest env p).mRequestId, (b.sVoiceAgentsDataManager.agents.object p).mApi)]) := by
  have hlisten : b.listen env =
      { b with
        sVRRequestProcessor := ⟨some p, UnorderedMap.emplace ∅
          (b.sVoiceAgentsDataManager.agents.object p).mId (b.newRequest env p)⟩
        calls := ((b.newRequest env p).startListening env
          b.sVoiceAgentsDataManager.agents (b.cancelled env)).2 } := by
    rcases listen_cases h.wf with ⟨hnone, -⟩ | ⟨q, hq, heq⟩
    · exact absurd (hp.symm.trans hnone) (by simp)
    · obtain rfl := Option.some.inj (hp.symm.trans hq)
      exact heq
  have hcancelled : agentCalls (b.cancelled env) =
      inTurn (requests.map Prod.snd) ++
        ((requests.map Prod.snd).getLast?.map .closed).toList := by
    have hmap : (b.sVRRequestProcessor.mVRRequests.values.map fun request =>
          Bracket.closed (b.sVoiceAgentsDataManager.agents.object request.mVoiceAgent).mApi) =
        (storedRequests b).map fun request => Bracket.closed request.2 := by
      simp [storedRequests, Function.comp_def]
    unfold Binding.cancelled
    rw [agentCalls_cancelEach, hmap, h.session.calls, h.session.stored]
    cases hlast : requests.getLast? with
    | none => simp [hlast]
    | some last => simp [hlast]
  refine ⟨h.wf.move (m := .startListening) trivial,
    move_requestsKnown (m := .startListening) trivial h.wf h.known, ?_, ?_⟩
  · rw [hlisten]
    simp only [VRRequest.startListening, VRRequest.callVerb_eq, Binding.newRequest]
    rw [agentCalls_append, hcancelled, agentCalls_start, List.map_append, List.map_singleton,
      inTurn_concat]
  · rw [hlisten, List.getLast?_concat]
    simp only [storedRequests, UnorderedMap.values, UnorderedMap.emplace_empty_entries]
    rfl

/-- The id that the client is told is that of the request that is made. -/
theorem requestId_of_some {env : Environment} {b : Binding} (h : MoveWf env b) {p : AgentPtr}
    (hp : b.sVRRequestProcessor.mDefaultVoiceAgent = some p) :
    (startListening env b).reply.bind Reply.requestId =
      some ((subscribed env b).newRequest env p).mRequestId := by
  obtain ⟨hne, -⟩ := started_of_some h.afbApi hp
  have hid : (started env b).1 = ((subscribed env b).newRequest env p).mRequestId := by
    obtain ⟨flag, added, hsubscribed, -⟩ := subscribed_only env b
    have hsome : (subscribed env b).sVRRequestProcessor.mDefaultVoiceAgent = some p := by
      rw [hsubscribed]
      exact hp
    exact congrArg Prod.fst (VRRequestProcessor.startListening_of_some h.afbApi
      (subscribed env b).sVoiceAgentsDataManager.agents (subscribed env b).calls hsome)
  rw [startListening_of_ne hne, ← hid]
  rfl

/-- What the handler replies, and to whom it speaks, when there is a default agent. -/
theorem startedRequest_of_some {env : Environment} {b : Binding} (h : MoveWf env b)
    {p : AgentPtr} (hp : b.sVRRequestProcessor.mDefaultVoiceAgent = some p) :
    startedRequest env b .startListening =
      [(((subscribed env b).newRequest env p).mRequestId,
        (b.sVoiceAgentsDataManager.agents.object p).mApi)] := by
  have hapi : b.defaultApi = some (b.sVoiceAgentsDataManager.agents.object p).mApi := by
    rcases h.binding.agrees with ⟨-, hnone⟩ | ⟨q, hfind, hq⟩
    · exact absurd (hp.symm.trans hnone) (by simp)
    · obtain rfl := Option.some.inj (hp.symm.trans hq)
      simp only [Binding.defaultApi, hfind, Option.map_some]
  simp only [startedRequest, requestId_of_some h hp, hapi]

theorem SessionWf.startListening {env : Environment} {b : Binding}
    {requests : List (String × String)} (h : SessionWf env b requests) :
    SessionWf env (startListening env b).binding
      (requests ++ startedRequest env b .startListening) := by
  have hsubscribed : SessionWf env (subscribed env b) requests :=
    h.move (m := .dataManager .startNewSubscriptionProcess) trivial (by simp)
  cases hdefault : b.sVRRequestProcessor.mDefaultVoiceAgent with
  | none =>
      have hnone : startedRequest env b .startListening = [] := by
        simp only [startedRequest, startListening_of_none env hdefault]
        rfl
      rw [hnone, List.append_nil, startListening_of_none env hdefault]
      exact hsubscribed
  | some p =>
      obtain ⟨flag, added, heq, -⟩ := subscribed_only env b
      have hp : (subscribed env b).sVRRequestProcessor.mDefaultVoiceAgent = some p := by
        rw [heq]
        exact hdefault
      have hagents : (subscribed env b).sVoiceAgentsDataManager.agents =
          b.sVoiceAgentsDataManager.agents := by rw [heq]
      rw [startListening_moves, startedRequest_of_some h.wf hdefault, ← hagents]
      exact hsubscribed.listen hp

/-! ## Every run -/

theorem SessionWf.handle {env : Environment} {b : Binding} {requests : List (String × String)}
    (h : SessionWf env b requests) (verb : Verb) :
    SessionWf env ((machine env).next b verb) (requests ++ startedRequest env b verb) := by
  by_cases hstart : verb = .startListening
  · subst hstart
    exact h.startListening
  · have hnone : startedRequest env b verb = [] := by
      cases verb with
      | startListening => exact absurd rfl hstart
      | _ => rfl
    have hother : ∀ m, verb.Permits m → m ≠ .startListening := by
      rintro m hm rfl
      cases verb with
      | startListening => exact hstart rfl
      | cancelListening | enumerateVoiceAgents => exact hm
      | _ => simp [Verb.Permits] at hm
    rw [hnone, List.append_nil]
    refine (handle_performs env b verb).invariant (I := fun b => SessionWf env b requests) h ?_
    intro b m hm hb
    exact hb.move hm.isExposed (hother m hm)

/-- Over a run, the agents are called for the accepted requests in turn, and the request that
is stored is the last one that was accepted. -/
theorem requests_in_turn {env : Environment} {loaded : Binding}
    (h : CTLP_ONLOAD env = some loaded) (verbs : List Verb) :
    InSession ((machine env).run loaded verbs)
      ((machine env).collect (startedRequest env) loaded verbs) := by
  have hloaded : SessionWf env loaded [] := by
    have hreachable : Reachable env loaded := ⟨loaded, [], h, rfl⟩
    refine ⟨hreachable.moveWf, hreachable.speaks.1, ?_⟩
    obtain ⟨-, rfl⟩ := CTLP_ONLOAD_eq_some_iff.mp h
    exact ⟨rfl, rfl⟩
  exact ((machine env).collect_simulation (R := SessionWf env)
    (fun _ _ verb hwf => hwf.handle verb) hloaded verbs).session

/-- The default changes between two starts: the first request is cancelled at the agent that
it was started at. -/
theorem requests_in_turn_two_agents :
    let loaded := (CTLP_ONLOAD .obliging).get onload_obliging
    let verbs := [.loadVoiceAgentsConfig (some (encodeAgents
        [.simple "VA-001" "alexa-api", .simple "VA-002" "google-api"] "VA-001")),
      .startListening, .setDefaultVoiceAgent (some (.obj [(VA_JSON_ATTR_ID, .str "VA-002")])),
      .startListening, .cancelListening]
    InSession ((machine .obliging).run loaded verbs)
        ((machine .obliging).collect (startedRequest .obliging) loaded verbs) ∧
      agentCalls ((machine .obliging).run loaded verbs).calls =
        [.opened "alexa-api", .closed "alexa-api", .opened "google-api"] := by
  intro loaded verbs
  exact ⟨requests_in_turn (Option.some_get onload_obliging).symm verbs, by decide⟩

/-! ## Request ids -/

/-- What the random engine yields for the request that is made now. -/
def Binding.engine (env : Environment) (b : Binding) : Nat → UInt8 :=
  env.randomByte ((subscribed env b).cancelled env)

theorem requestId_eq {env : Environment} {b : Binding} (h : MoveWf env b) {id : String}
    (hreply : (startListening env b).reply.bind Reply.requestId = some id) :
    id = Utilities.generateUUID (b.engine env) := by
  cases hdefault : b.sVRRequestProcessor.mDefaultVoiceAgent with
  | none =>
      rw [startListening_of_none env hdefault] at hreply
      exact absurd hreply (by simp [Reply.requestId])
  | some p => exact (Option.some.inj ((requestId_of_some h hdefault).symm.trans hreply)).symm

/-- The ids that clients are told are UUIDs of version 4, and two of them, in whatever states of
whatever runs, are the same exactly if the engine has yielded the same 122 bits. -/
theorem request_ids_random {env env' : Environment} {b b' : Binding} (h : Reachable env b)
    (h' : Reachable env' b') {id id' : String}
    (hreply : (handle env b .startListening).reply.bind Reply.requestId = some id)
    (hreply' : (handle env' b' .startListening).reply.bind Reply.requestId = some id') :
    Utilities.Canonical id ∧
      (id = id' ↔ ∀ place < 16, Utilities.randomBits place (b.engine env place) =
        Utilities.randomBits place (b'.engine env' place)) := by
  rw [requestId_eq h.moveWf hreply, requestId_eq h'.moveWf hreply']
  exact ⟨Utilities.generateUUID_canonical _, Utilities.generateUUID_eq_iff _ _⟩

/-- A binding with an agent to start. -/
def oneListener : Binding :=
  (machine .obliging).run ((CTLP_ONLOAD .obliging).get onload_obliging)
    [.loadVoiceAgentsConfig (some (encodeAgents [.simple "VA-001" "alexa-api"] "VA-001"))]

theorem oneListener_reachable : Reachable .obliging oneListener :=
  ⟨_, _, (Option.some_get onload_obliging).symm, rfl⟩

/-- The agent is started twice. -/
theorem request_ids_random_again :
    let again := (handle .obliging oneListener .startListening).binding
    let id := Utilities.generateUUID (oneListener.engine .obliging)
    let id' := Utilities.generateUUID (again.engine .obliging)
    Utilities.Canonical id ∧
      (id = id' ↔ ∀ place < 16,
        Utilities.randomBits place (oneListener.engine .obliging place) =
          Utilities.randomBits place (again.engine .obliging place)) := by
  intro again id id'
  have hdefault : oneListener.sVRRequestProcessor.mDefaultVoiceAgent = some 0 := rfl
  have hdefault' : again.sVRRequestProcessor.mDefaultVoiceAgent = some 0 := by
    refine Eq.trans ?_ hdefault
    exact (congrArg (fun b : Binding => b.sVRRequestProcessor.mDefaultVoiceAgent)
      (startListening_moves .obliging oneListener)).trans
        (VRRequestProcessor.startListening_keeps .obliging _ _ _).1
  have hagain : Reachable .obliging again := oneListener_reachable.handle .startListening
  exact request_ids_random oneListener_reachable hagain
    (requestId_of_some oneListener_reachable.moveWf hdefault)
    (requestId_of_some hagain.moveWf hdefault')

end Vshl.Api
