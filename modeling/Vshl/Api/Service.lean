/-
  Api/Service.lean --- what the plugin is for, seen from its clients.

  A service knows agents by their ids, one of them the default, and which capabilities have
  been opened.  It has no objects and no addresses, calls nobody and notifies nobody.
  `Verb.command` says what a request asks of it.
-/
import Vshl.Api.CallLanguage
import Vshl.Api.Config

set_option autoImplicit false

namespace Vshl.Api

open Vshl.Foundation
open Vshl.Interfaces
open Vshl.VoiceAgents
open Vshl.Core
open Vshl.Capabilities

/-! ## The service -/

/-- What the service remembers. -/
structure Service where
  agents : String → Option VoiceAgent
  default : String
  /-- by the name of the capability -/
  opened : String → Bool

/-- What a client is told. -/
inductive Answer where
  /-- nothing but the return value -/
  | returned (ret : Int)
  /-- the handler does not return -/
  | fault (fault : Fault)
  | accepted
  | listening
  | notListening
  | agents (agents : String → Option VoiceAgent) (default : String)

/-- What a service can be asked for. -/
inductive Command where
  /-- the answer depends on the request alone -/
  | nothing (answer : Answer)
  | load (described : List (Option VoiceAgent.Args)) (default : Option String) (answer : Answer)
  | setDefault (voiceAgentId : String)
  | listen
  | enumerate
  | subscribe (voiceAgentId : String) (events : List String)
  | openCapability (capability : CapabilityPtr) (actions : List String)
  | publish (capability : CapabilityPtr) (action : String)

namespace Service

/-- Nothing is known yet. -/
def initial : Service := ⟨fun _ => none, "", fun _ => false⟩

/-- Under an id that is free, the first valid description is registered. -/
def register (s : Service) (described : List (Option VoiceAgent.Args)) : Service :=
  { s with agents := fun id => (s.agents id).or ((firstValid described id).bind VoiceAgent.create) }

/-- Only a registered agent becomes the default. -/
def setDefault (s : Service) (voiceAgentId : String) : Service :=
  if (s.agents voiceAgentId).isSome then { s with default := voiceAgentId } else s

/-- A capability that is asked for anything stays open. -/
def openCapability (s : Service) (capability : CapabilityPtr) (actions : List String) : Service :=
  if actions = [] then s
  else
    { s with
      opened := Function.update s.opened
        (CapabilitiesFactory.capabilities capability).getName true }

/-- The answer to a request that is accepted under a condition. -/
def acceptedIf (P : Prop) [Decidable P] : Answer := if P then .accepted else .returned (-1)

def step (s : Service) : Command → Service × Answer
  | .nothing answer => (s, answer)
  | .load described default answer =>
      (default.elim (s.register described) (s.register described).setDefault, answer)
  | .setDefault voiceAgentId =>
      (s.setDefault voiceAgentId, acceptedIf ((s.agents voiceAgentId).isSome))
  | .listen => (s, if s.default = "" then .notListening else .listening)
  | .enumerate => (s, .agents s.agents s.default)
  | .subscribe voiceAgentId events =>
      (s, acceptedIf (∀ event ∈ events, (s.agents voiceAgentId).isSome ∧ event ∈ VSHL_EVENTS))
  | .openCapability capability actions =>
      (s.openCapability capability actions,
        acceptedIf (∀ action ∈ actions, action ∈ actionsOf capability))
  | .publish capability action =>
      (s, acceptedIf (s.opened (CapabilitiesFactory.capabilities capability).getName = true ∧
        action ∈ actionsOf capability))

/-- The service as a machine. -/
def machine : Machine Service Command Answer := ⟨step⟩

end Service

/-! ## Requests -/

/-- The value of a request under a key, converted, decides what is asked for. -/
def withField {α : Type} (json : Option Json) (key : String) (get : Json → Except Fault α)
    (command : α → Command) : Command :=
  match json with
  | none => .nothing (.returned (-1))
  | some json =>
      match json.find? key with
      | none => .nothing (.returned (-1))
      | some member =>
          match get member with
          | .error fault => .nothing (.fault fault)
          | .ok value => command value

/-- What the entries of a configuration say, up to one that cannot be converted. -/
def readEntries : List Json → Except Fault Unit × List (Option VoiceAgent.Args)
  | [] => (.ok (), [])
  | entry :: rest =>
      if missesParam entry then ((readEntries rest).1, none :: (readEntries rest).2)
      else
        match decodeAgent entry with
        | .error fault => (.error fault, [])
        | .ok args => ((readEntries rest).1, some args :: (readEntries rest).2)

/-- What is left to do of a configuration once its entries have been read. -/
def loadCommand (config : Json) : Except Fault Unit × List (Option VoiceAgent.Args) → Command
  | (.error fault, described) => .load described none (.fault fault)
  | (.ok (), described) =>
      match config.find? VA_JSON_ATTR_DEFAULT with
      | none => .load described none (.returned (-1))
      | some defaultJson =>
          match defaultJson.getString with
          | .error fault => .load described none (.fault fault)
          | .ok voiceAgentId => .load described (some voiceAgentId) (.returned 0)

/-- What a state event asks of the service: it is only passed on. -/
def stateEventCommand (eventJ : Option Json) : Command :=
  withField (some (eventJ.getD .null)) EVENTS_JSON_ATTR_VA_ID Json.getString fun _ =>
    .nothing (.returned 0)

def capabilitySubscribeCommand (capability : CapabilityPtr) (eventJ : Option Json) : Command :=
  withField eventJ CAPABILITIES_JSON_ATTR_ACTIONS Json.getStringList (.openCapability capability)

def capabilityPublishCommand (capability : CapabilityPtr) (eventJ : Option Json) : Command :=
  withField eventJ CAPABILITIES_JSON_ATTR_ACTION Json.getString fun action =>
    withField eventJ CAPABILITIES_JSON_ATTR_PAYLOAD Json.getString fun _ =>
      .publish capability action

/-- What a request asks of the service. -/
def Verb.command : Verb → Command
  | .onAuthStateEvent eventJ | .onConnectionStateEvent eventJ | .onDialogStateEvent eventJ =>
      stateEventCommand eventJ
  | .loadVoiceAgentsConfig argsJ =>
      withField argsJ VA_JSON_ATTR_AGENTS .ok fun agentsJson =>
        loadCommand (argsJ.getD .null) (readEntries agentsJson.iterate)
  | .startListening => .listen
  | .cancelListening => .nothing (.returned 0)
  | .enumerateVoiceAgents => .enumerate
  | .subscribe _ eventJ =>
      withField eventJ EVENTS_JSON_ATTR_VA_ID Json.getString fun voiceAgentId =>
        withField eventJ EVENTS_JSON_ATTR_EVENTS Json.getStringList (.subscribe voiceAgentId)
  | .setDefaultVoiceAgent eventJ =>
      withField eventJ VA_JSON_ATTR_ID Json.getString .setDefault
  | .guiMetadataSubscribe _ eventJ =>
      capabilitySubscribeCommand CapabilitiesFactory.getGuiMetadata eventJ
  | .guiMetadataPublish eventJ =>
      capabilityPublishCommand CapabilitiesFactory.getGuiMetadata eventJ
  | .phonecontrolSubscribe _ eventJ =>
      capabilitySubscribeCommand CapabilitiesFactory.getPhoneControl eventJ
  | .phonecontrolPublish eventJ =>
      capabilityPublishCommand CapabilitiesFactory.getPhoneControl eventJ
  | .navigationSubscribe _ eventJ =>
      capabilitySubscribeCommand CapabilitiesFactory.getNavigation eventJ
  | .navigationPublish eventJ =>
      capabilityPublishCommand CapabilitiesFactory.getNavigation eventJ
  | .rehash _ _ => .nothing (.returned 0)

/-! ## Answers -/

/-- A handler ends with this answer. -/
def Shows (done : Done) : Answer → Prop
  | .returned ret => done.reply = none ∧ done.ret = .ok ret
  | .fault fault => done.reply = none ∧ done.ret = .error fault
  | .accepted => (∃ response, done.reply = some (.success response)) ∧ done.ret = .ok 0
  | .listening =>
      (∃ requestId, requestId ≠ "" ∧ done.reply =
        some (.success (some (.obj [(STARTLISTENING_JSON_ATTR_REQUEST, .str requestId)])))) ∧
      done.ret = .ok 0
  | .notListening =>
      done.reply = some (.fail "Failed to startListening...") ∧ done.ret = .ok 0
  | .agents agents default =>
      (∃ listed : List VoiceAgent, (listed.map VoiceAgent.mId).Nodup ∧
        (∀ agent, agent ∈ listed ↔ agents agent.mId = some agent) ∧
        done.reply = some (.success (some (encodeAgents listed default)))) ∧
      done.ret = .ok 0

/-! ## What a service has become -/

namespace Service

/-- Two lists of descriptions, one after the other. -/
theorem register_append (s : Service) (front back : List (Option VoiceAgent.Args)) :
    s.register (front ++ back) = (s.register front).register back := by
  unfold register
  simp only [Service.mk.injEq, and_true]
  funext id
  rw [firstValid_append, Option.or_assoc]
  congr 1
  cases hfirst : firstValid front id with
  | none => rw [Option.none_or, Option.bind_none, Option.none_or]
  | some args =>
      obtain ⟨voiceAgent, hcreate, -⟩ := valid_iff.mp (firstValid_spec hfirst).2
      rw [Option.some_or, Option.bind_some, hcreate, Option.some_or]

theorem register_nil (s : Service) : s.register [] = s := by
  unfold register
  simp only [firstValid, List.findSome?_nil, Option.bind_none, Option.or_none]

/-- Registering does not change the default, and the default does not matter for it. -/
@[simp] theorem setDefault_agents (s : Service) (voiceAgentId : String) :
    (s.setDefault voiceAgentId).agents = s.agents := by
  unfold setDefault
  split
  · rfl
  · rfl

@[simp] theorem openCapability_agents (s : Service) (capability : CapabilityPtr)
    (actions : List String) : (s.openCapability capability actions).agents = s.agents := by
  unfold openCapability
  split
  · rfl
  · rfl

@[simp] theorem openCapability_default (s : Service) (capability : CapabilityPtr)
    (actions : List String) : (s.openCapability capability actions).default = s.default := by
  unfold openCapability
  split
  · rfl
  · rfl

end Service

end Vshl.Api
