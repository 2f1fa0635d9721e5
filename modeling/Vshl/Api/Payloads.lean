/-
  Api/Payloads.lean --- what the publish handlers push on the events.

  A payload is decoded into a `std::string`, which may hold a NUL, and leaves the plugin
  through `json_object_new_string`, which takes a C string.
-/
import Vshl.Api.Subscriptions

set_option autoImplicit false

namespace Vshl.Api

open Vshl.Foundation
open Vshl.Interfaces
open Vshl.VoiceAgents
open Vshl.Core
open Vshl.Capabilities

/-! ## Messages -/

/-- The request carries an action and a payload. -/
structure CarriesMessage (json : Json) (action payload : String) : Prop where
  action : json.find? CAPABILITIES_JSON_ATTR_ACTION = some (.str action)
  payload : json.find? CAPABILITIES_JSON_ATTR_PAYLOAD = some (.str payload)

/-- What a publish handler is called with: the capability it is for, and its argument. -/
def Verb.publication : Verb → Option (CapabilityPtr × Option Json)
  | .guiMetadataPublish eventJ => some (CapabilitiesFactory.getGuiMetadata, eventJ)
  | .phonecontrolPublish eventJ => some (CapabilitiesFactory.getPhoneControl, eventJ)
  | .navigationPublish eventJ => some (CapabilitiesFactory.getNavigation, eventJ)
  | _ => none

/-- The handler decodes this action and payload from its request and accepts the message. -/
structure AcceptsMessage (env : Environment) (b : Binding) (verb : Verb)
    (capability : CapabilityPtr) (action payload : String) : Prop where
  request : ∃ json, verb.publication = some (capability, some json) ∧
    CarriesMessage json action payload
  accepted : (handle env b verb).ret = .ok 0

theorem pushes_launch {launch : Trace} (h : ∀ call ∈ launch, IsLaunch call) :
    pushes launch = [] := by
  unfold pushes
  rw [List.filterMap_eq_nil_iff]
  intro call hcall
  have hlaunch := h call hcall
  cases call with
  | callSync api verb request result => rfl
  | free object => rfl
  | _ => exact hlaunch.elim

/-- The handler pushes one value, on the event that the action stands for. -/
def Publishes (env : Environment) (b : Binding) (verb : Verb) (capability : CapabilityPtr)
    (action : String) (value : Json) : Prop :=
  ∃ forwarder event added,
    b.messaging.channel (CapabilitiesFactory.capabilities capability).getName =
        some (.around forwarder) ∧
      forwarder.resolve action = some event ∧
      (handle env b verb).binding.calls = b.calls ++ added ∧
      pushes added = [(event, value)]

theorem Publishes.unique {env : Environment} {b : Binding} {verb : Verb}
    {capability : CapabilityPtr} {action : String} {value value' : Json}
    (h : Publishes env b verb capability action value)
    (h' : Publishes env b verb capability action value') : value = value' := by
  obtain ⟨_, _, added, -, -, hcalls, hvalue⟩ := h
  obtain ⟨_, _, added', -, -, hcalls', hvalue'⟩ := h'
  obtain rfl := List.append_cancel_left (hcalls.symm.trans hcalls')
  have hpair := (List.cons.inj (hvalue.symm.trans hvalue')).1
  exact congrArg Prod.snd hpair

/-! ## What a publish handler does -/

/-- All that the handler does once the request is decoded is to publish. -/
theorem capabilityPublish_of_carries (env : Environment) (capability : CapabilityPtr)
    (info : String) (b : Binding) {json : Json} {action payload : String}
    (h : CarriesMessage json action payload) :
    capabilityPublish env capability info b (some json) =
      let done := Messaging.step env CapabilitiesFactory.capabilities b.messaging
        (.publish capability action payload)
      let b' := { b with calls := done.1.calls }
      if done.2 = .ok true then b'.succeed (some (.str info)) else b'.return (.ok (-1)) := by
  simp only [capabilityPublish, h.action, h.payload, Json.getString, Messaging.step,
    Binding.messaging, Except.ok.injEq]

/-- Each publish handler is `capabilityPublish`. -/
theorem handle_publication (env : Environment) (b : Binding) {verb : Verb}
    {capability : CapabilityPtr} {eventJ : Option Json}
    (h : verb.publication = some (capability, eventJ)) :
    ∃ info, handle env b verb = capabilityPublish env capability info b eventJ := by
  cases verb with
  | guiMetadataPublish json =>
      obtain ⟨rfl, rfl⟩ := Prod.mk.inj (Option.some.inj h)
      exact ⟨_, rfl⟩
  | phonecontrolPublish json =>
      obtain ⟨rfl, rfl⟩ := Prod.mk.inj (Option.some.inj h)
      exact ⟨_, rfl⟩
  | navigationPublish json =>
      obtain ⟨rfl, rfl⟩ := Prod.mk.inj (Option.some.inj h)
      exact ⟨_, rfl⟩
  | _ => exact absurd h (by simp [Verb.publication])

/-- The service is asked to publish, and what it did is what the handler did. -/
theorem AcceptsMessage.published {env : Environment} {b : Binding} {verb : Verb}
    {capability : CapabilityPtr} {action payload : String}
    (h : AcceptsMessage env b verb capability action payload) :
    (Messaging.step env CapabilitiesFactory.capabilities b.messaging
        (.publish capability action payload)).2 = .ok true ∧
      (handle env b verb).binding.calls =
        (Messaging.step env CapabilitiesFactory.capabilities b.messaging
          (.publish capability action payload)).1.calls := by
  obtain ⟨json, hverb, hcarries⟩ := h.request
  obtain ⟨info, hhandle⟩ := handle_publication env b hverb
  have hret := h.accepted
  rw [hhandle, capabilityPublish_of_carries env capability info b hcarries] at hret ⊢
  simp only at hret ⊢
  split at hret
  · rename_i hdone
    rw [if_pos hdone]
    exact ⟨hdone, rfl⟩
  · exact absurd hret (by simp [Binding.return])

/-- An accepted message pushes the C string of its payload. -/
theorem AcceptsMessage.publishes {env : Environment} {b : Binding} (hreachable : Reachable env b)
    {verb : Verb} {capability : CapabilityPtr} {action payload : String}
    (h : AcceptsMessage env b verb capability action payload) :
    Publishes env b verb capability action (jsonObjectNewString payload) := by
  obtain ⟨hreturned, hcalls⟩ := h.published
  have hwf := hreachable.messagingWf
  cases hchannel : b.messaging.channel
      (CapabilitiesFactory.capabilities capability).getName with
  | none =>
      rw [Messaging.publish_none env CapabilitiesFactory.capabilities action payload
        (Or.inr hchannel)] at hreturned
      exact absurd hreturned (by simp)
  | some channel =>
      obtain ⟨hname, forwarder, rfl⟩ := hwf.around _ channel hchannel
      have hstep := Messaging.publish_found env CapabilitiesFactory.capabilities action payload
        hname hchannel
      cases hresolve : forwarder.resolve action with
      | none =>
          rw [hstep, hresolve] at hreturned
          exact absurd hreturned (by simp)
      | some event =>
          obtain ⟨told, htold, hup, hdown⟩ := forwarder.notified_calls env
            CapabilitiesFactory.capabilities
            (env.doPublishEvent b.messaging.calls event (jsonObjectNewString payload)).2 action
          have hnothing : pushes told = [] := by
            by_cases hupstream : action ∈ forwarder.mUpstreamEventsMap
            · obtain ⟨launch, hlaunch, honly⟩ := hup hupstream
              have htail : pushes launch = [] := pushes_launch honly
              rw [hlaunch]
              exact htail
            · rw [hdown hupstream]
              rfl
          rw [hstep, hresolve] at hcalls
          simp only [htold] at hcalls
          refine ⟨forwarder, event, _, hchannel, hresolve,
            hcalls.trans (List.append_assoc _ _ _), ?_⟩
          exact congrArg (List.cons (event, jsonObjectNewString payload)) hnothing

/-! ## When the payload arrives -/

/-- What an accepted message pushes is its payload exactly if the payload has no NUL. -/
theorem payload_intact_iff {env : Environment} {b : Binding} (h : Reachable env b) {verb : Verb}
    {capability : CapabilityPtr} {action payload : String}
    (haccepts : AcceptsMessage env b verb capability action payload) :
    Publishes env b verb capability action (.str payload) ↔ '\x00' ∉ payload.toList := by
  have hpublishes := haccepts.publishes h
  rw [← jsonObjectNewString_eq_iff]
  constructor
  · intro hintact
    exact hpublishes.unique hintact
  · intro hsame
    rw [← hsame]
    exact hpublishes

/-- A message of the phone application. -/
def dialMessage (payload : String) : Json :=
  .obj [(CAPABILITIES_JSON_ATTR_ACTION, .str phonecontrol.PHONECONTROL_DIAL),
    (CAPABILITIES_JSON_ATTR_PAYLOAD, .str payload)]

theorem onload_obliging : (CTLP_ONLOAD .obliging).isSome = true := rfl

/-- A binding with a client that listens to it. -/
def dialListener : Binding :=
  (machine .obliging).run ((CTLP_ONLOAD .obliging).get onload_obliging)
    [.phonecontrolSubscribe 7 (some (.obj [(CAPABILITIES_JSON_ATTR_ACTIONS,
      .arr [.str phonecontrol.PHONECONTROL_DIAL])]))]

theorem dialListener_reachable : Reachable .obliging dialListener := ⟨_, _, rfl, rfl⟩

theorem dialListener_accepts (payload : String) :
    AcceptsMessage .obliging dialListener (.phonecontrolPublish (some (dialMessage payload)))
      CapabilitiesFactory.getPhoneControl phonecontrol.PHONECONTROL_DIAL payload :=
  ⟨⟨_, rfl, rfl, rfl⟩, rfl⟩

theorem payload_intact_iff_dial :
    Publishes .obliging dialListener (.phonecontrolPublish (some (dialMessage "5551234")))
        CapabilitiesFactory.getPhoneControl phonecontrol.PHONECONTROL_DIAL (.str "5551234") ↔
      '\x00' ∉ "5551234".toList :=
  payload_intact_iff dialListener_reachable (dialListener_accepts "5551234")

/-- The rest of a payload after a NUL is lost. -/
theorem payload_truncated :
    ¬ ∀ (env : Environment) (b : Binding) (verb : Verb) (capability : CapabilityPtr)
        (action payload : String), Reachable env b →
      AcceptsMessage env b verb capability action payload →
        Publishes env b verb capability action (.str payload) := by
  intro h
  have haccepts := dialListener_accepts "a\x00b"
  have hintact := h _ _ _ _ _ _ dialListener_reachable haccepts
  have hsame := (haccepts.publishes dialListener_reachable).unique hintact
  exact absurd (jsonObjectNewString_eq_iff.mp hsame) (by decide)

end Vshl.Api
