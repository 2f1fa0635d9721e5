/-
  Api/Invariant.lean --- what a handler can do to the binding, and what holds of every
  reachable binding.

  A handler is a sequence of acts: calls on the data manager that remove neither an
  agent nor an observer, and calls that leave the data manager alone.  So an invariant
  has to be proved for these two kinds of acts only.
-/
import Vshl.Api.Handlers
import Vshl.Core.DefaultAgent

set_option autoImplicit false

namespace Vshl.Api

open Vshl.Foundation
open Vshl.Interfaces
open Vshl.VoiceAgents
open Vshl.Core
open Vshl.Capabilities

/-- The calls that handlers make on the data manager. -/
def Exposed : Op → Prop
  | .addNewVoiceAgent _ => True
  | .setDefaultVoiceAgent _ => True
  | .subscribeToVshlEventFromVoiceAgent _ _ _ => True
  | .startNewSubscriptionProcess => True
  | .handleIncomingEvent _ _ _ => True
  | .rehash _ _ => True
  | _ => False

/-- Sequences of acts. -/
inductive Acts (env : Environment) (b : Binding) : Binding → Prop where
  | refl : Acts env b b
  /-- a call on the data manager -/
  | dataManager {b' : Binding} (h : Acts env b b') (op : Op) (hop : Exposed op) :
      Acts env b (b'.dataManager env op).1
  /-- anything that touches neither the data manager nor the delegate's default -/
  | other {b' b'' : Binding} (h : Acts env b b')
      (hmanager : b''.sVoiceAgentsDataManager = b'.sVoiceAgentsDataManager)
      (hdefault : b''.sVRRequestProcessor.mDefaultVoiceAgent =
        b'.sVRRequestProcessor.mDefaultVoiceAgent)
      (hcalls : b'.calls <+: b''.calls) : Acts env b b''

theorem Acts.trans {env : Environment} {b b' b'' : Binding} (h : Acts env b b')
    (h' : Acts env b' b'') : Acts env b b'' := by
  induction h' with
  | refl => exact h
  | dataManager _ op hop ih => exact .dataManager ih op hop
  | other _ hmanager hdefault hcalls ih => exact .other ih hmanager hdefault hcalls

theorem Acts.calls_extend {env : Environment} {b b' : Binding} (h : Acts env b b') :
    b.calls <+: b'.calls := by
  induction h with
  | refl => exact List.prefix_refl _
  | @dataManager b' _ op _ ih => exact ih.trans (VoiceAgents.next_calls env b'.state op)
  | other _ _ _ hcalls ih => exact ih.trans hcalls

/-! ## Every handler is a sequence of acts -/

section

variable (env : Environment) (b : Binding)

theorem onStateEvent_acts (eventName : String) (eventJ : Option Json) :
    Acts env b (onStateEvent env eventName b eventJ).binding := by
  simp only [onStateEvent]
  split
  · exact .refl
  · split
    · exact .refl
    · split
      · exact .dataManager .refl _ trivial
      · exact .dataManager .refl _ trivial

theorem loadAgent_acts (agentJson : Json) : Acts env b (loadAgent env b agentJson).2.1 := by
  unfold loadAgent
  split
  · exact .refl
  · cases decodeAgent agentJson with
    | error fault => exact .refl
    | ok args => exact .dataManager .refl _ trivial

theorem loadAgents_acts (entries : List Json) :
    Acts env b (loadAgents env b entries).2.1 := by
  induction entries generalizing b with
  | nil => exact .refl
  | cons agentJson rest ih =>
      have hround := loadAgent_acts env b agentJson
      unfold loadAgents
      rcases hload : loadAgent env b agentJson with ⟨fault | done, b', notified⟩
      · rw [hload] at hround
        exact hround
      · rw [hload] at hround
        exact hround.trans (ih b')

theorem loadDefault_acts (notified : List Notification) (agentsConfigJson : Json) :
    Acts env b (loadDefault env b notified agentsConfigJson).binding := by
  unfold loadDefault
  cases agentsConfigJson.find? VA_JSON_ATTR_DEFAULT with
  | none => exact .refl
  | some defaultJson =>
      simp only
      cases defaultJson.getString with
      | error fault => exact .refl
      | ok defaultAgentId => exact .dataManager .refl _ trivial

theorem loadVoiceAgentsConfig_acts (argsJ : Option Json) :
    Acts env b (loadVoiceAgentsConfig env b argsJ).binding := by
  unfold loadVoiceAgentsConfig
  cases argsJ with
  | none => exact .refl
  | some agentsConfigJson =>
      simp only
      cases agentsConfigJson.find? VA_JSON_ATTR_AGENTS with
      | none => exact .refl
      | some agentsJson =>
          have hloop := loadAgents_acts env b agentsJson.iterate
          simp only
          rcases hload : loadAgents env b agentsJson.iterate with ⟨fault | done, b', notified⟩
          · rw [hload] at hloop
            exact hloop
          · rw [hload] at hloop
            exact hloop.trans (loadDefault_acts env b' notified agentsConfigJson)

theorem startListening_acts : Acts env b (startListening env b).binding := by
  have hsubscribed : Acts env b (b.dataManager env .startNewSubscriptionProcess).1 :=
    .dataManager .refl _ trivial
  simp only [startListening]
  generalize (b.dataManager env .startNewSubscriptionProcess).1 = b' at hsubscribed ⊢
  obtain ⟨hdefault, hcalls⟩ := VRRequestProcessor.startListening_keeps env
    b'.sVoiceAgentsDataManager.agents b'.sVRRequestProcessor b'.calls
  split
  · exact .other hsubscribed rfl hdefault hcalls
  · exact .other hsubscribed rfl hdefault hcalls

theorem subscribeToEvents_acts (request : RequestPtr) (voiceAgentId : String)
    (events : List String) :
    Acts env b (subscribeToEvents env request voiceAgentId b events).2 := by
  induction events generalizing b with
  | nil => exact .refl
  | cons event rest ih =>
      have hact : Acts env b (b.dataManager env
          (.subscribeToVshlEventFromVoiceAgent request event voiceAgentId)).1 :=
        .dataManager .refl _ trivial
      simp only [subscribeToEvents]
      split
      · exact hact
      · exact hact.trans (ih _)
      · exact hact

theorem subscribe_acts (request : RequestPtr) (eventJ : Option Json) :
    Acts env b (subscribe env b request eventJ).binding := by
  have hsubscribed : Acts env b (b.dataManager env .startNewSubscriptionProcess).1 :=
    .dataManager .refl _ trivial
  simp only [subscribe]
  generalize (b.dataManager env .startNewSubscriptionProcess).1 = b' at hsubscribed ⊢
  split
  · exact hsubscribed
  · split
    · exact hsubscribed
    · split
      · exact hsubscribed
      · split
        · exact hsubscribed
        · split
          · exact hsubscribed
          · rename_i voiceAgentId _ _ _ _ _ events _
            have hloop := subscribeToEvents_acts env b' request voiceAgentId
              events
            rcases hevents : subscribeToEvents env request voiceAgentId b' events with
              ⟨fault | (_ | _), b''⟩
            · rw [hevents] at hloop
              exact hsubscribed.trans hloop
            · rw [hevents] at hloop
              exact hsubscribed.trans hloop
            · rw [hevents] at hloop
              exact hsubscribed.trans hloop

theorem setDefaultVoiceAgent_acts (eventJ : Option Json) :
    Acts env b (setDefaultVoiceAgent env b eventJ).binding := by
  simp only [setDefaultVoiceAgent]
  split
  · exact .refl
  · split
    · exact .refl
    · split
      · exact .refl
      · split
        · exact .dataManager .refl _ trivial
        · exact .dataManager .refl _ trivial

theorem subscribeToActions_acts (capability : CapabilityPtr) (request : RequestPtr)
    (events : List String) :
    Acts env b (subscribeToActions env capability request b events).2 := by
  induction events generalizing b with
  | nil => exact .refl
  | cons event rest ih =>
      have hcalls := b.sCapabilityMessagingService.subscribe_extends env
        CapabilitiesFactory.capabilities b.calls request capability event
      have hact : Acts env b
          { b with
            sCapabilityMessagingService := (b.sCapabilityMessagingService.subscribe env
              CapabilitiesFactory.capabilities b.calls request capability event).2.1
            calls := (b.sCapabilityMessagingService.subscribe env
              CapabilitiesFactory.capabilities b.calls request capability event).2.2 } :=
        .other .refl rfl rfl hcalls
      simp only [subscribeToActions]
      split
      · exact hact
      · exact hact.trans (ih _)
      · exact hact

theorem capabilitySubscribe_acts (capability : CapabilityPtr) (info : String)
    (request : RequestPtr) (eventJ : Option Json) :
    Acts env b (capabilitySubscribe env capability info b request eventJ).binding := by
  simp only [capabilitySubscribe]
  split
  · exact .refl
  · split
    · exact .refl
    · split
      · exact .refl
      · rename_i events _
        have hloop := subscribeToActions_acts env b capability request events
        rcases hevents : subscribeToActions env capability request b events with
          ⟨fault | (_ | _), b'⟩
        · rw [hevents] at hloop
          exact hloop
        · rw [hevents] at hloop
          exact hloop
        · rw [hevents] at hloop
          exact hloop

theorem capabilityPublish_acts (capability : CapabilityPtr) (info : String)
    (eventJ : Option Json) :
    Acts env b (capabilityPublish env capability info b eventJ).binding := by
  simp only [capabilityPublish]
  split
  · exact .refl
  · split
    · exact .refl
    · split
      · exact .refl
      · split
        · exact .refl
        · split
          · exact .refl
          · rename_i action _ _ _ _ _ payload _
            have hcalls := b.sCapabilityMessagingService.publish_extends env
              CapabilitiesFactory.capabilities b.calls capability action payload
            split
            · exact .other .refl rfl rfl hcalls
            · exact .other .refl rfl rfl hcalls

theorem handle_acts (verb : Verb) : Acts env b (handle env b verb).binding := by
  cases verb with
  | onAuthStateEvent eventJ => exact onStateEvent_acts env b _ eventJ
  | onConnectionStateEvent eventJ => exact onStateEvent_acts env b _ eventJ
  | onDialogStateEvent eventJ => exact onStateEvent_acts env b _ eventJ
  | loadVoiceAgentsConfig argsJ => exact loadVoiceAgentsConfig_acts env b argsJ
  | startListening => exact startListening_acts env b
  | cancelListening => exact .refl
  | enumerateVoiceAgents => exact .refl
  | subscribe request eventJ => exact subscribe_acts env b request eventJ
  | setDefaultVoiceAgent eventJ => exact setDefaultVoiceAgent_acts env b eventJ
  | guiMetadataSubscribe request eventJ => exact capabilitySubscribe_acts env b _ _ request eventJ
  | guiMetadataPublish eventJ => exact capabilityPublish_acts env b _ _ eventJ
  | phonecontrolSubscribe request eventJ => exact capabilitySubscribe_acts env b _ _ request eventJ
  | phonecontrolPublish eventJ => exact capabilityPublish_acts env b _ _ eventJ
  | navigationSubscribe request eventJ => exact capabilitySubscribe_acts env b _ _ request eventJ
  | navigationPublish eventJ => exact capabilityPublish_acts env b _ _ eventJ
  | rehash voiceAgents observers => exact .dataManager .refl _ trivial

end

/-! ## The invariant -/

/-- The default id and the delegate's default agent say the same. -/
def DefaultAgrees (manager : VoiceAgentsDataManager)
    (delegate : VRRequestProcessorDelegate) : Prop :=
  (manager.mDefaultVoiceAgentId = "" ∧ delegate.mDefaultVoiceAgent = none) ∨
    ∃ p, manager.mVoiceAgents.find manager.mDefaultVoiceAgentId = some p ∧
      delegate.mDefaultVoiceAgent = some p

/-- The invariant of the binding. -/
structure BindingWf (b : Binding) : Prop where
  registry : RegistryWf b.state
  observed : vrAgentsObserver ∈ b.sVoiceAgentsDataManager.mVoiceAgentChangeObservers
  agrees : DefaultAgrees b.sVoiceAgentsDataManager b.sVRRequestProcessor

theorem bindingWf_loaded {env : Environment} {b : Binding} (h : CTLP_ONLOAD env = some b) :
    BindingWf b := by
  obtain ⟨-, rfl⟩ := CTLP_ONLOAD_eq_some_iff.mp h
  have hframe : Frame State.initial (Binding.state
      ⟨(VoiceAgentsDataManager.create.addVoiceAgentsChangeObserver
        (some vrAgentsObserver)).1, .create, ⟨∅⟩, []⟩) :=
    ⟨fun _ => rfl, rfl, rfl, fun _ => VoiceAgent.Evolves.refl _, rfl, List.prefix_refl _⟩
  exact ⟨registryWf_initial.frame hframe, UnorderedSet.mem_insert.mpr (Or.inl rfl),
    Or.inl ⟨rfl, rfl⟩⟩

/-- The data manager's step and the delegate's reaction are a step of the machine that
`Core/DefaultAgent` speaks of. -/
theorem dataManager_observed (env : Environment) (b : Binding) (op : Op) :
    ((b.dataManager env op).1.state, (b.dataManager env op).1.sVRRequestProcessor) =
      (observedMachine env vrAgentsObserver).next (b.state, b.sVRRequestProcessor) op := rfl

/-- The default is set in the data manager and, through its observer, in the delegate. -/
theorem BindingWf.setDefault_agrees (env : Environment) {b : Binding} (h : BindingWf b)
    (id : String) :
    DefaultAgrees (b.dataManager env (.setDefaultVoiceAgent id)).1.sVoiceAgentsDataManager
      (b.dataManager env (.setDefaultVoiceAgent id)).1.sVRRequestProcessor := by
  by_cases hfound : id ≠ "" ∧ ∃ p, b.sVoiceAgentsDataManager.mVoiceAgents.find id = some p
  · obtain ⟨hid, p, hfind⟩ := hfound
    have hnext := (dataManager_observed env b (.setDefaultVoiceAgent id)).trans
      (observedMachine_next_setDefault env h.observed hid hfind)
    obtain ⟨hstate, hdelegate⟩ := Prod.ext_iff.mp hnext
    have hmanager : (b.dataManager env (.setDefaultVoiceAgent id)).1.sVoiceAgentsDataManager =
        { b.sVoiceAgentsDataManager with mDefaultVoiceAgentId := id } :=
      congrArg State.manager hstate
    unfold DefaultAgrees
    rw [hmanager]
    refine Or.inr ⟨p, hfind, ?_⟩
    refine (congrArg VRRequestProcessorDelegate.mDefaultVoiceAgent hdelegate).trans ?_
    by_cases hsame : b.state.manager.mDefaultVoiceAgentId = id
    · -- no notification: the delegate has the agent already
      rw [if_pos hsame]
      rcases h.agrees with ⟨hempty, -⟩ | ⟨q, hq, hdefault⟩
      · exact absurd (hsame.symm.trans hempty) hid
      · have hqp : some q = some p := by
          rw [← hq, ← hfind]
          exact congrArg _ hsame
        exact hdefault.trans hqp
    · rw [if_neg hsame]
      rfl
  · have hsame : VoiceAgents.step env b.state (.setDefaultVoiceAgent id) =
        (b.state, ⟨[], .bool false⟩) := by
      simp only [VoiceAgents.step, Binding.state,
        VoiceAgentsDataManager.setDefaultVoiceAgent_refused hfound]
    simp only [Binding.dataManager, hsame, VRAgentsObserver.deliver_nil]
    exact h.agrees

/-- No other exposed call changes the default or takes the default agent away. -/
theorem BindingWf.others_agree (env : Environment) {b : Binding} (h : BindingWf b) {op : Op}
    (hop : Exposed op) (hne : ∀ id, op ≠ .setDefaultVoiceAgent id) :
    DefaultAgrees (b.dataManager env op).1.sVoiceAgentsDataManager
      (b.dataManager env op).1.sVRRequestProcessor := by
  have hdelegate : (b.dataManager env op).1.sVRRequestProcessor = b.sVRRequestProcessor :=
    observedMachine_next_of_ne (s := (b.state, b.sVRRequestProcessor)) hne
  have hkeep : ∀ {s' : State},
      s'.manager.mDefaultVoiceAgentId = b.sVoiceAgentsDataManager.mDefaultVoiceAgentId →
      (∀ p, b.sVoiceAgentsDataManager.mVoiceAgents.find
          b.sVoiceAgentsDataManager.mDefaultVoiceAgentId = some p →
        s'.manager.mVoiceAgents.find
          b.sVoiceAgentsDataManager.mDefaultVoiceAgentId = some p) →
      DefaultAgrees s'.manager b.sVRRequestProcessor := by
    intro s' hdefault hfind
    unfold DefaultAgrees
    rw [hdefault]
    exact h.agrees.imp_right fun hex => hex.imp fun p hp => ⟨hfind p hp.1, hp.2⟩
  rw [hdelegate]
  rcases step_effect env b.state op with hframe | ⟨args, rfl, hadded⟩ | ⟨id, p, rfl, -⟩ |
    ⟨id, p, rfl, -⟩
  · exact hkeep hframe.default fun p hp => (hframe.find _).trans hp
  · refine hkeep hadded.default fun p hp => (hadded.find _).trans ?_
    rw [if_neg]
    · exact hp
    · intro hid
      have hfresh := hadded.fresh
      rw [← hid] at hfresh
      exact absurd (hp.symm.trans hfresh) (by simp)
  · exact absurd hop not_false
  · exact absurd rfl (hne id)

theorem BindingWf.dataManager {env : Environment} (henv : env.afbApi = true) {b : Binding}
    (h : BindingWf b) {op : Op} (hop : Exposed op) :
    BindingWf (b.dataManager env op).1 := by
  have hkeeps : op ≠ .removeVoiceAgentsChangeObserver (some vrAgentsObserver) := by
    rintro rfl
    exact hop
  refine ⟨registryWf_step henv b.state op h.registry, step_observers hkeeps h.observed, ?_⟩
  by_cases hset : ∃ id, op = .setDefaultVoiceAgent id
  · obtain ⟨id, rfl⟩ := hset
    exact h.setDefault_agrees env id
  · exact h.others_agree env hop fun id heq => hset ⟨id, heq⟩

theorem BindingWf.other {b b' : Binding} (h : BindingWf b)
    (hmanager : b'.sVoiceAgentsDataManager = b.sVoiceAgentsDataManager)
    (hdefault : b'.sVRRequestProcessor.mDefaultVoiceAgent =
      b.sVRRequestProcessor.mDefaultVoiceAgent)
    (hcalls : b.calls <+: b'.calls) : BindingWf b' := by
  have hstate : b'.state = { b.state with calls := b'.calls } := by
    simp only [Binding.state, hmanager]
  refine ⟨?_, ?_, ?_⟩
  · rw [hstate]
    exact h.registry.frame (Frame.ofCalls hcalls)
  · rw [hmanager]
    exact h.observed
  · unfold DefaultAgrees
    rw [hmanager, hdefault]
    exact h.agrees

theorem BindingWf.acts {env : Environment} (henv : env.afbApi = true) {b b' : Binding}
    (h : BindingWf b) (hacts : Acts env b b') : BindingWf b' := by
  induction hacts with
  | refl => exact h
  | dataManager _ op hop ih => exact ih.dataManager henv hop
  | other _ hmanager hdefault hcalls ih => exact ih.other hmanager hdefault hcalls

theorem Reachable.wf {env : Environment} {b : Binding} (h : Reachable env b) :
    BindingWf b :=
  h.invariant (fun _ hloaded => bindingWf_loaded hloaded)
    (fun _ verb hwf => hwf.acts h.afbApi (handle_acts env _ verb))

end Vshl.Api
