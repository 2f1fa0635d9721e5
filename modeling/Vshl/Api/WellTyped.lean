/-
  Api/WellTyped.lean --- the handlers when no event is null.

  Whether a handler answers can depend on the state of the binding, because an event whose
  creation failed stays in the map.  `AFBApiImpl` never fails to create one, and then only
  the kinds of the values in the request matter: a handler that does not return ends in the
  exception of a conversion, since there is no null event to end in.
-/
import Vshl.Afb.AFBApi
import Vshl.Api.Answers
import Vshl.Api.Moves

set_option autoImplicit false

namespace Vshl.Api

open Vshl.Foundation
open Vshl.Interfaces
open Vshl.VoiceAgents
open Vshl.Core
open Vshl.Capabilities
open Vshl.Afb

/-! ## No null event -/

/-- No event is stored as null. -/
def NoNulls (handler : VoiceAgentEventsHandler) : Prop :=
  ∀ key, handler.mEventsMap.find key ≠ some none

theorem noNulls_loaded {env : Environment} {loaded : Binding}
    (hloaded : CTLP_ONLOAD env = some loaded) :
    NoNulls loaded.sVoiceAgentsDataManager.mVoiceAgentEventsHandler := by
  obtain ⟨-, rfl⟩ := CTLP_ONLOAD_eq_some_iff.mp hloaded
  intro key
  exact (UnorderedMap.find_empty key).trans_ne (by simp)

section

variable {env : Environment}
  (hcreate : ∀ calls eventName, env.createEvent calls eventName = true)

include hcreate

theorem noNulls_createVshlEvents {handler : VoiceAgentEventsHandler} (h : NoNulls handler)
    (calls : Trace) (voiceAgentId : String) :
    NoNulls (handler.createVshlEventsForVoiceAgent env calls voiceAgentId).1 := by
  unfold VoiceAgentEventsHandler.createVshlEventsForVoiceAgent
  refine List.foldlRecOn
    (motive := fun state : VoiceAgentEventsHandler × Trace => NoNulls state.1)
    VSHL_EVENTS _ h ?_
  intro state hstate eventName _
  unfold VoiceAgentEventsHandler.createVshlEvent
  simp only
  split
  · rename_i hguard
    intro key
    simp only [UnorderedMap.find_emplace_of_none _ (UnorderedMap.find_eq_none.mpr hguard.1),
      Environment.doCreateEvent, hcreate, if_true]
    split
    · simp
    · exact hstate key
  · exact hstate

theorem NoNulls.move {b : Binding} (h : NoNulls b.sVoiceAgentsDataManager.mVoiceAgentEventsHandler)
    {m : Move} (hm : m.IsExposed) :
    NoNulls (b.move env m).sVoiceAgentsDataManager.mVoiceAgentEventsHandler := by
  cases m with
  | startListening => exact h
  | messaging op => exact h
  | dataManager op =>
      simp only [Binding.move, Binding.dataManager]
      rcases step_effect env b.state op with hframe | ⟨args, -, hadded⟩ | ⟨id, p, rfl, -⟩ |
        ⟨id, p, -, -, -, hset⟩
      · rw [hframe.events]
        exact h
      · have hevents := congrArg Prod.fst hadded.events
        simp only at hevents
        rw [hevents]
        exact noNulls_createVshlEvents hcreate h _ _
      · exact absurd hm not_false
      · rw [hset]
        exact h

theorem Reachable.noNulls {b : Binding} (h : Reachable env b) :
    NoNulls b.sVoiceAgentsDataManager.mVoiceAgentEventsHandler :=
  h.move_invariant
    (I := fun b => NoNulls b.sVoiceAgentsDataManager.mVoiceAgentEventsHandler)
    (fun _ hloaded => noNulls_loaded hloaded) fun _ _ hm _ hb => hb.move hcreate hm

end

theorem NoNulls.not_nullEvent {manager : VoiceAgentsDataManager}
    (h : NoNulls manager.mVoiceAgentEventsHandler) (eventName voiceAgentId : String) :
    ¬ NullEvent manager eventName voiceAgentId :=
  fun hnull => h _ hnull.find

/-! ## What a request must be -/

/-- Every value that a handler comes to convert is of the right kind. -/
def Verb.WellTyped : Verb → Prop
  | .onAuthStateEvent eventJ | .onConnectionStateEvent eventJ | .onDialogStateEvent eventJ =>
      IfPresent eventJ EVENTS_JSON_ATTR_VA_ID (IsString fun _ => True)
  | .loadVoiceAgentsConfig argsJ => TameConfig argsJ
  | .subscribe _ eventJ =>
      IfPresent eventJ EVENTS_JSON_ATTR_VA_ID (IsString fun _ =>
        IfPresent eventJ EVENTS_JSON_ATTR_EVENTS (IsStrings fun _ => True))
  | .setDefaultVoiceAgent eventJ => TameDefault eventJ
  | .guiMetadataSubscribe _ eventJ | .phonecontrolSubscribe _ eventJ
  | .navigationSubscribe _ eventJ => TameActions eventJ
  | .guiMetadataPublish eventJ | .phonecontrolPublish eventJ | .navigationPublish eventJ =>
      TameMessage eventJ
  | .startListening | .cancelListening | .enumerateVoiceAgents | .rehash _ _ => True

theorem stateEvent_returns_iff {env : Environment} {b : Binding} (hwf : RegistryWf b.state)
    (hnulls : NoNulls b.sVoiceAgentsDataManager.mVoiceAgentEventsHandler) {eventName : String}
    (hname : eventName ∈ VSHL_EVENTS) (eventJ : Option Json) :
    Returns (onStateEvent env eventName b eventJ) ↔
      IfPresent eventJ EVENTS_JSON_ATTR_VA_ID (IsString fun _ => True) := by
  rw [onStateEvent_returns_iff hwf hname]
  unfold TameStateEvent
  simp only [hnulls.not_nullEvent, not_false_eq_true]

/-- Without null events a handler answers exactly the requests whose values are of the right
kinds. -/
theorem returns_iff_wellTyped {env : Environment}
    (hcreate : ∀ calls eventName, env.createEvent calls eventName = true) {b : Binding}
    (h : Reachable env b) (verb : Verb) : Returns (handle env b verb) ↔ verb.WellTyped := by
  have hregistry := h.wf.registry
  have hnulls := h.noNulls hcreate
  cases verb with
  | onAuthStateEvent eventJ =>
      exact stateEvent_returns_iff hregistry hnulls (by simp [VSHL_EVENTS]) eventJ
  | onConnectionStateEvent eventJ =>
      exact stateEvent_returns_iff hregistry hnulls (by simp [VSHL_EVENTS]) eventJ
  | onDialogStateEvent eventJ =>
      exact stateEvent_returns_iff hregistry hnulls (by simp [VSHL_EVENTS]) eventJ
  | loadVoiceAgentsConfig argsJ => exact loadVoiceAgentsConfig_returns_iff argsJ
  | subscribe request eventJ =>
      refine (subscribe_returns_iff h.wf request eventJ).trans ?_
      simp only [TameSubscribe, hnulls.not_nullEvent, not_false_eq_true, implies_true]
      rfl
  | setDefaultVoiceAgent eventJ => exact setDefaultVoiceAgent_returns_iff eventJ
  | guiMetadataSubscribe request eventJ =>
      exact capabilitySubscribe_returns_iff h.afbApi h.messagingWf _ _ request eventJ
  | phonecontrolSubscribe request eventJ =>
      exact capabilitySubscribe_returns_iff h.afbApi h.messagingWf _ _ request eventJ
  | navigationSubscribe request eventJ =>
      exact capabilitySubscribe_returns_iff h.afbApi h.messagingWf _ _ request eventJ
  | guiMetadataPublish eventJ => exact capabilityPublish_returns_iff _ _ eventJ
  | phonecontrolPublish eventJ => exact capabilityPublish_returns_iff _ _ eventJ
  | navigationPublish eventJ => exact capabilityPublish_returns_iff _ _ eventJ
  | startListening => exact iff_of_true (startListening_returns env b) trivial
  | cancelListening => exact iff_of_true (Or.inl rfl) trivial
  | enumerateVoiceAgents => exact iff_of_true (Or.inl rfl) trivial
  | rehash voiceAgents observers => exact iff_of_true (Or.inl rfl) trivial

/-! ## How the other requests end -/

/-- The handler returns, or the exception of a conversion leaves it. -/
def ReturnsOrThrows (done : Done) : Prop := Returns done ∨ done.ret = .error .typeError

theorem Returns.orThrows {done : Done} (h : Returns done) : ReturnsOrThrows done := Or.inl h

/-- A handler that passes on what a conversion failed with. -/
theorem returnsOrThrows_of_converts {α : Type} {value : Except Fault α} {fault : Fault}
    (hvalue : Converts value) (h : value = .error fault) (b : Binding) :
    ReturnsOrThrows (b.return (.error fault)) := by
  rw [hvalue fault h]
  exact Or.inr rfl

section

variable {env : Environment} {b : Binding}

theorem onStateEvent_returnsOrThrows (hwf : RegistryWf b.state)
    (hnulls : NoNulls b.sVoiceAgentsDataManager.mVoiceAgentEventsHandler) {eventName : String}
    (hname : eventName ∈ VSHL_EVENTS) (eventJ : Option Json) :
    ReturnsOrThrows (onStateEvent env eventName b eventJ) := by
  simp only [onStateEvent]
  split
  · exact Or.inl (Or.inr rfl)
  · rename_i idJson hid
    split
    · rename_i fault hstring
      exact returnsOrThrows_of_converts idJson.getString_converts hstring b
    · rename_i voiceAgentId hstring
      split
      · rename_i fault hfault
        exact absurd ((handleIncomingEvent_fault_iff env hwf hname voiceAgentId _).mp
          ⟨fault, hfault⟩) (hnulls.not_nullEvent eventName voiceAgentId)
      · exact Or.inl (Or.inl rfl)

theorem subscribe_returnsOrThrows (hwf : BindingWf b)
    (hnulls : NoNulls b.sVoiceAgentsDataManager.mVoiceAgentEventsHandler)
    (request : RequestPtr) (eventJ : Option Json) :
    ReturnsOrThrows (subscribe env b request eventJ) := by
  cases eventJ with
  | none => exact Or.inl (Or.inr rfl)
  | some json =>
      cases hid : json.find? EVENTS_JSON_ATTR_VA_ID with
      | none => simp [ReturnsOrThrows, subscribe, hid]
      | some idJson =>
          cases hstring : idJson.getString with
          | error fault =>
              simp only [subscribe, hid, hstring]
              exact returnsOrThrows_of_converts idJson.getString_converts hstring _
          | ok id =>
              cases hevents : json.find? EVENTS_JSON_ATTR_EVENTS with
              | none => simp [ReturnsOrThrows, subscribe, hid, hstring, hevents]
              | some eventsJson =>
                  cases hlist : eventsJson.getStringList with
                  | error fault =>
                      simp only [subscribe, hid, hstring, hevents, hlist]
                      exact returnsOrThrows_of_converts eventsJson.getStringList_converts hlist _
                  | ok names =>
                      -- the loop can end in a null event only, and there is none
                      obtain rfl := Json.getString_eq_ok_iff.mp hstring
                      obtain rfl := Json.getStringList_eq_ok_iff.mp hlist
                      rw [subscribe_of_asks rfl ⟨hid, hevents⟩]
                      refine Returns.orThrows ?_
                      rw [subscribing_returns_iff hwf]
                      exact fun _ name _ _ _ => hnulls.not_nullEvent name id

theorem setDefaultVoiceAgent_returnsOrThrows (eventJ : Option Json) :
    ReturnsOrThrows (setDefaultVoiceAgent env b eventJ) := by
  unfold setDefaultVoiceAgent
  split
  · exact Or.inl (Or.inr rfl)
  · split
    · exact Or.inl (Or.inr rfl)
    · rename_i idJson hid
      split
      · rename_i fault hstring
        exact returnsOrThrows_of_converts idJson.getString_converts hstring b
      · simp only
        split
        · exact Or.inl (Or.inl rfl)
        · exact Or.inl (Or.inr rfl)

/-- The loop over the agents ends early only with an entry that cannot be converted. -/
theorem loadAgents_converts (env : Environment) (b : Binding) (entries : List Json) :
    Converts (loadAgents env b entries).1 := by
  induction entries generalizing b with
  | nil => exact converts_ok ()
  | cons entry rest ih =>
      simp only [loadAgents]
      split
      · rename_i fault b' notified hfirst
        unfold loadAgent at hfirst
        split at hfirst
        · exact absurd (congrArg Prod.fst hfirst) (by simp)
        · split at hfirst
          · rename_i fault' hdecode
            obtain rfl : fault' = fault := Except.error.inj (congrArg Prod.fst hfirst)
            rw [decodeAgent_converts entry fault' hdecode]
            exact converts_typeError
          · exact absurd (congrArg Prod.fst hfirst) (by simp)
      · exact ih _

theorem loadVoiceAgentsConfig_returnsOrThrows (argsJ : Option Json) :
    ReturnsOrThrows (loadVoiceAgentsConfig env b argsJ) := by
  unfold loadVoiceAgentsConfig
  split
  · exact Or.inl (Or.inr rfl)
  · split
    · exact Or.inl (Or.inr rfl)
    · rename_i agentsJson hagents
      have hloop := loadAgents_converts env b agentsJson.iterate
      split
      · rename_i fault b' notified hloaded
        rw [hloop fault (congrArg Prod.fst hloaded)]
        exact Or.inr rfl
      · unfold loadDefault
        split
        · exact Or.inl (Or.inr rfl)
        · rename_i defaultJson hdefault
          split
          · rename_i fault hstring
            rw [defaultJson.getString_converts fault hstring]
            exact Or.inr rfl
          · exact Or.inl (Or.inl rfl)

theorem capabilitySubscribe_returnsOrThrows (henv : env.afbApi = true) (hwf : b.messaging.Wf)
    (capability : CapabilityPtr) (info : String) (request : RequestPtr) (eventJ : Option Json) :
    ReturnsOrThrows (capabilitySubscribe env capability info b request eventJ) := by
  cases eventJ with
  | none => exact Or.inl (Or.inr rfl)
  | some json =>
      cases hactions : json.find? CAPABILITIES_JSON_ATTR_ACTIONS with
      | none => simp [ReturnsOrThrows, capabilitySubscribe, hactions]
      | some actionsJson =>
          simp only [capabilitySubscribe, hactions]
          split
          · rename_i fault hlist
            exact returnsOrThrows_of_converts actionsJson.getStringList_converts hlist b
          · rename_i actions hlist
            exact (subscribing_to_actions_returns henv hwf capability request actions
              (some (.str info))).orThrows

theorem capabilityPublish_returnsOrThrows (capability : CapabilityPtr) (info : String)
    (eventJ : Option Json) : ReturnsOrThrows (capabilityPublish env capability info b eventJ) := by
  unfold capabilityPublish
  split
  · exact Or.inl (Or.inr rfl)
  · split
    · exact Or.inl (Or.inr rfl)
    · rename_i actionJson haction
      split
      · rename_i fault hstring
        exact returnsOrThrows_of_converts actionJson.getString_converts hstring b
      · split
        · exact Or.inl (Or.inr rfl)
        · rename_i payloadJson hpayload
          split
          · rename_i fault htext
            exact returnsOrThrows_of_converts payloadJson.getString_converts htext b
          · simp only
            split
            · exact Or.inl (Or.inl rfl)
            · exact Or.inl (Or.inr rfl)

end

/-- Without null events a handler returns or ends in the exception of a conversion. -/
theorem handle_returnsOrThrows {env : Environment}
    (hcreate : ∀ calls eventName, env.createEvent calls eventName = true) {b : Binding}
    (h : Reachable env b) (verb : Verb) : ReturnsOrThrows (handle env b verb) := by
  have hregistry := h.wf.registry
  have hnulls := h.noNulls hcreate
  cases verb with
  | onAuthStateEvent eventJ | onConnectionStateEvent eventJ | onDialogStateEvent eventJ =>
      exact onStateEvent_returnsOrThrows hregistry hnulls (by simp [VSHL_EVENTS]) eventJ
  | loadVoiceAgentsConfig argsJ => exact loadVoiceAgentsConfig_returnsOrThrows argsJ
  | subscribe request eventJ => exact subscribe_returnsOrThrows h.wf hnulls request eventJ
  | setDefaultVoiceAgent eventJ => exact setDefaultVoiceAgent_returnsOrThrows eventJ
  | guiMetadataSubscribe request eventJ | phonecontrolSubscribe request eventJ
  | navigationSubscribe request eventJ =>
      exact capabilitySubscribe_returnsOrThrows h.afbApi h.messagingWf _ _ request eventJ
  | guiMetadataPublish eventJ | phonecontrolPublish eventJ | navigationPublish eventJ =>
      exact capabilityPublish_returnsOrThrows _ _ eventJ
  | startListening => exact (startListening_returns env b).orThrows
  | cancelListening | enumerateVoiceAgents | rehash _ _ => exact Or.inl (Or.inl rfl)

/-- Over `AFBApiImpl` a handler answers exactly the requests whose values are of the right
kinds, in whatever state the binding is, and every other request ends in the exception of a
conversion. -/
theorem answers_iff_wellTyped {native : NativeApi} {binder : Environment} {b : Binding}
    (h : Reachable (AFBApiImpl.environment native binder) b) (verb : Verb) :
    (Returns (handle (AFBApiImpl.environment native binder) b verb) ↔ verb.WellTyped) ∧
      (¬ verb.WellTyped →
        (handle (AFBApiImpl.environment native binder) b verb).ret = .error .typeError) := by
  have hcreate : ∀ calls eventName,
      (AFBApiImpl.environment native binder).createEvent calls eventName = true := fun _ _ => rfl
  have hiff := returns_iff_wellTyped hcreate h verb
  refine ⟨hiff, ?_⟩
  intro hill
  rcases handle_returnsOrThrows hcreate h verb with hreturns | hthrows
  · exact absurd (hiff.mp hreturns) hill
  · exact hthrows

/-- Nobody has made an event when the first state event comes in. -/
theorem answers_iff_wellTyped_numericId :
    let env := AFBApiImpl.environment .hesitant .obliging
    let b := (machine env).run ((CTLP_ONLOAD env).get rfl)
      [.loadVoiceAgentsConfig (some (encodeAgents [.simple "VA-001" "alexa-api"] "VA-001"))]
    let verb := Verb.onAuthStateEvent (some numericId)
    (Returns (handle env b verb) ↔ verb.WellTyped) ∧
      (handle env b verb).ret = .error .typeError := by
  intro env b verb
  have hanswers : (Returns (handle env b verb) ↔ verb.WellTyped) ∧
      (¬ verb.WellTyped → (handle env b verb).ret = .error .typeError) :=
    answers_iff_wellTyped ⟨_, _, rfl, rfl⟩ verb
  have hill : ¬ verb.WellTyped := by
    intro htyped
    obtain ⟨s, hs, -⟩ := htyped numericId rfl (.num 5 0) rfl
    exact absurd hs (by simp)
  exact ⟨hanswers.1, hanswers.2 hill⟩

end Vshl.Api
