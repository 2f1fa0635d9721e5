/-
  Api/Handlers.lean --- the controller callbacks of `VshlApi.cpp`.

  The binding's static pointers are set once, by `CTLP_ONLOAD`; a handler is modelled
  for a binding that was loaded, where none of them is null.  Every call a handler makes
  on the data manager is one step of its machine, and what the observers are told in
  that step reaches the request processor's delegate.
-/
import Vshl.Api.AgentJson
import Vshl.Capabilities.CapabilityMessagingService
import Vshl.Core.VRRequestProcessor
import Vshl.VoiceAgents.Runs

set_option autoImplicit false

namespace Vshl.Api

open Vshl.Foundation
open Vshl.Interfaces
open Vshl.Utilities
open Vshl.VoiceAgents
open Vshl.Core
open Vshl.Capabilities

def STARTLISTENING_JSON_ATTR_REQUEST : String := "request_id"
def EVENTS_JSON_ATTR_VA_ID : String := "va_id"
def EVENTS_JSON_ATTR_EVENTS : String := "events"
def CAPABILITIES_JSON_ATTR_ACTION : String := "action"
def CAPABILITIES_JSON_ATTR_ACTIONS : String := "actions"
def CAPABILITIES_JSON_ATTR_PAYLOAD : String := "payload"

/-- What the static pointers of the binding lead to, and the calls made so far. -/
structure Binding where
  sVoiceAgentsDataManager : VoiceAgentsDataManager
  sVRRequestProcessor : VRRequestProcessorDelegate
  sCapabilityMessagingService : CapabilityMessagingService
  calls : Trace

/-- The address of the request processor's observer. -/
def vrAgentsObserver : ObserverPtr := 0

/-- `CTLP_ONLOAD`; `none` is the return value -1. -/
def CTLP_ONLOAD (env : Environment) : Option Binding :=
  if env.afbApi = false then none
  else
    match CapabilityMessagingService.create env with
    | none => none
    | some service =>
        some
          { sVoiceAgentsDataManager :=
              (VoiceAgentsDataManager.create.addVoiceAgentsChangeObserver
                (some vrAgentsObserver)).1
            sVRRequestProcessor := .create
            sCapabilityMessagingService := service
            calls := [] }

/-- What the client is sent. -/
inductive Reply where
  /-- `AFB_ReqSuccess` -/
  | success (response : Option Json)
  /-- `AFB_ReqFail` -/
  | fail (info : String)

/-- What a handler leaves behind.  `ret` is an error when an exception or a null
dereference ended the handler; what it did before that stays done. -/
structure Done where
  binding : Binding
  notified : List Notification
  reply : Option Reply
  ret : Except Fault Int

/-- A handler that returns at once. -/
def Binding.return (b : Binding) (ret : Except Fault Int) : Done := ⟨b, [], none, ret⟩

/-- A handler that ends in success. -/
def Binding.succeed (b : Binding) (response : Option Json) : Done :=
  ⟨b, [], some (.success response), .ok 0⟩

/-- The data manager and the calls, as the data manager's machine has them. -/
def Binding.state (b : Binding) : State := ⟨b.sVoiceAgentsDataManager, b.calls⟩

/-- A call on the data manager. -/
def Binding.dataManager (env : Environment) (b : Binding) (op : Op) : Binding × Output :=
  let done := VoiceAgents.step env b.state op
  ({ b with
     sVoiceAgentsDataManager := done.1.manager
     sVRRequestProcessor :=
      VRAgentsObserver.deliver vrAgentsObserver b.sVRRequestProcessor done.2.notified
     calls := done.1.calls }, done.2)

/-! ## State events -/

/-- The common body of the three state event handlers.  A null `eventJ` is printed as
`null` and parsed as such. -/
def onStateEvent (env : Environment) (eventName : String) (b : Binding)
    (eventJ : Option Json) : Done :=
  let eventJson := eventJ.getD .null
  match eventJson.find? EVENTS_JSON_ATTR_VA_ID with
  | none => b.return (.ok (-1))
  | some voiceAgentIdJson =>
      match voiceAgentIdJson.getString with
      | .error fault => b.return (.error fault)
      | .ok voiceAgentId =>
          let done := b.dataManager env
            (.handleIncomingEvent eventName voiceAgentId (env.jsonText eventJson))
          match done.2.result with
          | .fault fault => done.1.return (.error fault)
          | _ => done.1.return (.ok 0)

def onAuthStateEvent (env : Environment) : Binding → Option Json → Done :=
  onStateEvent env VSHL_EVENT_AUTH_STATE_EVENT

def onConnectionStateEvent (env : Environment) : Binding → Option Json → Done :=
  onStateEvent env VSHL_EVENT_CONNECTION_STATE_EVENT

def onDialogStateEvent (env : Environment) : Binding → Option Json → Done :=
  onStateEvent env VSHL_EVENT_DIALOG_STATE_EVENT

/-! ## Voice agents -/

/-- One round of the loop of `loadVoiceAgentsConfig`; the result of `addNewVoiceAgent` is
not looked at. -/
def loadAgent (env : Environment) (b : Binding) (agentJson : Json) :
    Except Fault Unit × Binding × List Notification :=
  if missesParam agentJson then (.ok (), b, [])
  else
    match decodeAgent agentJson with
    | .error fault => (.error fault, b, [])
    | .ok args =>
        let done := b.dataManager env (.addNewVoiceAgent args)
        (.ok (), done.1, done.2.notified)

/-- The loop of `loadVoiceAgentsConfig`. -/
def loadAgents (env : Environment) : Binding → List Json →
    Except Fault Unit × Binding × List Notification
  | b, [] => (.ok (), b, [])
  | b, agentJson :: rest =>
      match loadAgent env b agentJson with
      | (.error fault, b, notified) => (.error fault, b, notified)
      | (.ok (), b, notified) =>
          let others := loadAgents env b rest
          (others.1, others.2.1, notified ++ others.2.2)

/-- The end of `loadVoiceAgentsConfig`; the result of `setDefaultVoiceAgent` is not looked
at. -/
def loadDefault (env : Environment) (b : Binding) (notified : List Notification)
    (agentsConfigJson : Json) : Done :=
  match agentsConfigJson.find? VA_JSON_ATTR_DEFAULT with
  | none => ⟨b, notified, none, .ok (-1)⟩
  | some defaultJson =>
      match defaultJson.getString with
      | .error fault => ⟨b, notified, none, .error fault⟩
      | .ok defaultAgentId =>
          let done := b.dataManager env (.setDefaultVoiceAgent defaultAgentId)
          ⟨done.1, notified ++ done.2.notified, none, .ok 0⟩

def loadVoiceAgentsConfig (env : Environment) (b : Binding) (argsJ : Option Json) : Done :=
  match argsJ with
  | none => b.return (.ok (-1))
  | some agentsConfigJson =>
      match agentsConfigJson.find? VA_JSON_ATTR_AGENTS with
      | none => b.return (.ok (-1))
      | some agentsJson =>
          match loadAgents env b agentsJson.iterate with
          | (.error fault, b, notified) => ⟨b, notified, none, .error fault⟩
          | (.ok (), b, notified) => loadDefault env b notified agentsConfigJson

def startListening (env : Environment) (b : Binding) : Done :=
  let b := (b.dataManager env .startNewSubscriptionProcess).1
  let started := VRRequestProcessor.startListening env b.sVoiceAgentsDataManager.agents
    b.sVRRequestProcessor b.calls
  let b := { b with sVRRequestProcessor := started.2.1, calls := started.2.2 }
  if started.1 ≠ "" then
    b.succeed (some (.obj [(STARTLISTENING_JSON_ATTR_REQUEST, .str started.1)]))
  else ⟨b, [], some (.fail "Failed to startListening..."), .ok 0⟩

def cancelListening (b : Binding) : Done := b.return (.ok 0)

def enumerateVoiceAgents (b : Binding) : Done :=
  let manager := b.sVoiceAgentsDataManager
  let agents := manager.getAllVoiceAgents.toList.map manager.agents.object
  b.succeed (some (encodeAgents agents manager.getDefaultVoiceAgent))

/-- The loop of `subscribe`: it ends at the first event that cannot be subscribed to. -/
def subscribeToEvents (env : Environment) (request : RequestPtr) (voiceAgentId : String) :
    Binding → List String → Except Fault Bool × Binding
  | b, [] => (.ok true, b)
  | b, event :: rest =>
      let done := b.dataManager env
        (.subscribeToVshlEventFromVoiceAgent request event voiceAgentId)
      match done.2.result with
      | .fault fault => (.error fault, done.1)
      | .bool true => subscribeToEvents env request voiceAgentId done.1 rest
      | _ => (.ok false, done.1)

def subscribe (env : Environment) (b : Binding) (request : RequestPtr)
    (eventJ : Option Json) : Done :=
  let b := (b.dataManager env .startNewSubscriptionProcess).1
  match eventJ with
  | none => b.return (.ok (-1))
  | some subscribeJson =>
      match subscribeJson.find? EVENTS_JSON_ATTR_VA_ID with
      | none => b.return (.ok (-1))
      | some voiceAgentIdJson =>
          match voiceAgentIdJson.getString with
          | .error fault => b.return (.error fault)
          | .ok voiceAgentId =>
              match subscribeJson.find? EVENTS_JSON_ATTR_EVENTS with
              | none => b.return (.ok (-1))
              | some eventsJson =>
                  match eventsJson.getStringList with
                  | .error fault => b.return (.error fault)
                  | .ok events =>
                      match subscribeToEvents env request voiceAgentId b events with
                      | (.error fault, b) => b.return (.error fault)
                      | (.ok false, b) => b.return (.ok (-1))
                      | (.ok true, b) => b.succeed
                          (some (.str "Subscription to events successfully completed."))

def setDefaultVoiceAgent (env : Environment) (b : Binding) (eventJ : Option Json) : Done :=
  match eventJ with
  | none => b.return (.ok (-1))
  | some jsonRequest =>
      match jsonRequest.find? VA_JSON_ATTR_ID with
      | none => b.return (.ok (-1))
      | some idJson =>
          match idJson.getString with
          | .error fault => b.return (.error fault)
          | .ok voiceAgentId =>
              let done := b.dataManager env (.setDefaultVoiceAgent voiceAgentId)
              match done.2.result with
              | .bool true => ⟨done.1, done.2.notified, some (.success none), .ok 0⟩
              | _ => ⟨done.1, done.2.notified, none, .ok (-1)⟩

/-! ## Capabilities -/

/-- The loop of the capability subscriptions. -/
def subscribeToActions (env : Environment) (capability : CapabilityPtr)
    (request : RequestPtr) : Binding → List String → Except Fault Bool × Binding
  | b, [] => (.ok true, b)
  | b, event :: rest =>
      let done := b.sCapabilityMessagingService.subscribe env CapabilitiesFactory.capabilities
        b.calls request capability event
      let b := { b with sCapabilityMessagingService := done.2.1, calls := done.2.2 }
      match done.1 with
      | .error fault => (.error fault, b)
      | .ok true => subscribeToActions env capability request b rest
      | .ok false => (.ok false, b)

/-- The common body of the three capability subscriptions. -/
def capabilitySubscribe (env : Environment) (capability : CapabilityPtr) (info : String)
    (b : Binding) (request : RequestPtr) (eventJ : Option Json) : Done :=
  match eventJ with
  | none => b.return (.ok (-1))
  | some subscribeJson =>
      match subscribeJson.find? CAPABILITIES_JSON_ATTR_ACTIONS with
      | none => b.return (.ok (-1))
      | some eventsJson =>
          match eventsJson.getStringList with
          | .error fault => b.return (.error fault)
          | .ok events =>
              match subscribeToActions env capability request b events with
              | (.error fault, b) => b.return (.error fault)
              | (.ok false, b) => b.return (.ok (-1))
              | (.ok true, b) => b.succeed (some (.str info))

/-- The common body of the three capability publications. -/
def capabilityPublish (env : Environment) (capability : CapabilityPtr) (info : String)
    (b : Binding) (eventJ : Option Json) : Done :=
  match eventJ with
  | none => b.return (.ok (-1))
  | some publishJson =>
      match publishJson.find? CAPABILITIES_JSON_ATTR_ACTION with
      | none => b.return (.ok (-1))
      | some actionJson =>
          match actionJson.getString with
          | .error fault => b.return (.error fault)
          | .ok action =>
              match publishJson.find? CAPABILITIES_JSON_ATTR_PAYLOAD with
              | none => b.return (.ok (-1))
              | some payloadJson =>
                  match payloadJson.getString with
                  | .error fault => b.return (.error fault)
                  | .ok payload =>
                      let done := b.sCapabilityMessagingService.publish env
                        CapabilitiesFactory.capabilities b.calls capability action payload
                      let b := { b with calls := done.2 }
                      if done.1 then b.succeed (some (.str info)) else b.return (.ok (-1))

def guiMetadataSubscribe (env : Environment) :
    Binding → RequestPtr → Option Json → Done :=
  capabilitySubscribe env CapabilitiesFactory.getGuiMetadata
    "Subscription to guimetadata events successfully completed."

def guiMetadataPublish (env : Environment) : Binding → Option Json → Done :=
  capabilityPublish env CapabilitiesFactory.getGuiMetadata
    "Successfully published guimetadata messages."

def phonecontrolSubscribe (env : Environment) :
    Binding → RequestPtr → Option Json → Done :=
  capabilitySubscribe env CapabilitiesFactory.getPhoneControl
    "Subscription to phone control events successfully completed."

def phonecontrolPublish (env : Environment) : Binding → Option Json → Done :=
  capabilityPublish env CapabilitiesFactory.getPhoneControl
    "Successfully published phone control messages."

def navigationSubscribe (env : Environment) :
    Binding → RequestPtr → Option Json → Done :=
  capabilitySubscribe env CapabilitiesFactory.getNavigation
    "Subscription to navigation events successfully completed."

def navigationPublish (env : Environment) : Binding → Option Json → Done :=
  capabilityPublish env CapabilitiesFactory.getNavigation
    "Successfully published navigation messages."

/-! ## The binding as a machine -/

/-- One request of the controller or of a client.  Between two requests the unordered
containers may be found in any iteration order. -/
inductive Verb where
  | onAuthStateEvent (eventJ : Option Json)
  | onConnectionStateEvent (eventJ : Option Json)
  | onDialogStateEvent (eventJ : Option Json)
  | loadVoiceAgentsConfig (argsJ : Option Json)
  | startListening
  | cancelListening
  | enumerateVoiceAgents
  | subscribe (request : RequestPtr) (eventJ : Option Json)
  | setDefaultVoiceAgent (eventJ : Option Json)
  | guiMetadataSubscribe (request : RequestPtr) (eventJ : Option Json)
  | guiMetadataPublish (eventJ : Option Json)
  | phonecontrolSubscribe (request : RequestPtr) (eventJ : Option Json)
  | phonecontrolPublish (eventJ : Option Json)
  | navigationSubscribe (request : RequestPtr) (eventJ : Option Json)
  | navigationPublish (eventJ : Option Json)
  | rehash (voiceAgents : UnorderedMap String AgentPtr) (observers : UnorderedSet ObserverPtr)

/-- The handler of each request. -/
def handle (env : Environment) (b : Binding) : Verb → Done
  | .onAuthStateEvent eventJ => onAuthStateEvent env b eventJ
  | .onConnectionStateEvent eventJ => onConnectionStateEvent env b eventJ
  | .onDialogStateEvent eventJ => onDialogStateEvent env b eventJ
  | .loadVoiceAgentsConfig argsJ => loadVoiceAgentsConfig env b argsJ
  | .startListening => startListening env b
  | .cancelListening => cancelListening b
  | .enumerateVoiceAgents => enumerateVoiceAgents b
  | .subscribe request eventJ => subscribe env b request eventJ
  | .setDefaultVoiceAgent eventJ => setDefaultVoiceAgent env b eventJ
  | .guiMetadataSubscribe request eventJ => guiMetadataSubscribe env b request eventJ
  | .guiMetadataPublish eventJ => guiMetadataPublish env b eventJ
  | .phonecontrolSubscribe request eventJ => phonecontrolSubscribe env b request eventJ
  | .phonecontrolPublish eventJ => phonecontrolPublish env b eventJ
  | .navigationSubscribe request eventJ => navigationSubscribe env b request eventJ
  | .navigationPublish eventJ => navigationPublish env b eventJ
  | .rehash voiceAgents observers =>
      (b.dataManager env (.rehash voiceAgents observers)).1.return (.ok 0)

/-- The binding as a machine. -/
def machine (env : Environment) : Machine Binding Verb Done where
  step b verb := ((handle env b verb).binding, handle env b verb)

/-- The binding can be reached by requests after a successful load. -/
def Reachable (env : Environment) (b : Binding) : Prop :=
  ∃ loaded verbs, CTLP_ONLOAD env = some loaded ∧ b = (machine env).run loaded verbs

/-- What holds after the load and is kept by every handler holds of every reachable
binding. -/
theorem Reachable.invariant {env : Environment} {I : Binding → Prop}
    (hload : ∀ loaded, CTLP_ONLOAD env = some loaded → I loaded)
    (hhandle : ∀ b verb, I b → I (handle env b verb).binding) {b : Binding}
    (h : Reachable env b) : I b := by
  obtain ⟨loaded, verbs, hloaded, rfl⟩ := h
  exact (machine env).run_invariant (I := I) hhandle (hload loaded hloaded) verbs

/-- A null API is refused, so a binding that was loaded has one. -/
theorem CTLP_ONLOAD_eq_some_iff {env : Environment} {b : Binding} :
    CTLP_ONLOAD env = some b ↔
      env.afbApi = true ∧
        b = ⟨(VoiceAgentsDataManager.create.addVoiceAgentsChangeObserver
          (some vrAgentsObserver)).1, .create, ⟨∅⟩, []⟩ := by
  unfold CTLP_ONLOAD CapabilityMessagingService.create
  cases henv : env.afbApi with
  | false => simp
  | true => simp [eq_comm]

theorem Reachable.afbApi {env : Environment} {b : Binding} (h : Reachable env b) :
    env.afbApi = true := by
  obtain ⟨loaded, verbs, hloaded, -⟩ := h
  exact (CTLP_ONLOAD_eq_some_iff.mp hloaded).1

end Vshl.Api
