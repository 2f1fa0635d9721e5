/-
  Capabilities/Capability.lean --- `ICapability`, the application controller its
  implementations use, and the three capabilities of the plugin.

  The only thing any capability does when it hears of a message is to start and
  display one application, so that is what an `ICapability` can do here.
-/
import Vshl.Interfaces.Afb

set_option autoImplicit false

namespace Vshl.Capabilities

open Vshl.Interfaces

/-! ## The application controller -/

namespace AppController

def START_APP_API : String := "afm-main"
def START_APP_VERB : String := "once"
def DISPLAY_APP_API : String := "homescreen"
def DISPLAY_APP_VERB : String := "tap_shortcut"

/-- The common body of `startApp` and `displayApp`. -/
def callApp (env : Environment) (calls : Trace) (api verb name version : String) :
    Bool × Trace :=
  if env.afbApi = false then (false, calls)
  else
    let called := env.doCallSync calls api verb
      (some (jsonObjectNewString (name ++ "@" ++ version)))
    (called.1.rc = 0, free called.2 (resultObject calls called.1))

/-- `AppController::startApp`. -/
def startApp (env : Environment) (calls : Trace) (name version : String) : Bool × Trace :=
  callApp env calls START_APP_API START_APP_VERB name version

/-- `AppController::displayApp`. -/
def displayApp (env : Environment) (calls : Trace) (name version : String) : Bool × Trace :=
  callApp env calls DISPLAY_APP_API DISPLAY_APP_VERB name version

end AppController

/-! ## Capabilities -/

/-- An application, as the capabilities name it. -/
structure App where
  APP_NAME : String
  VERSION_NAME : String
  deriving DecidableEq, Repr

/-- A capability object: what its getters return, and the application it launches
when it is told that a message was published. -/
structure ICapability where
  getName : String
  getUpstreamMessages : List String
  getDownstreamMessages : List String
  launches : String → Option App

/-- The capability objects behind the pointers. -/
abbrev CapabilityObjects := CapabilityPtr → ICapability

/-- What a capability does in `onMessagePublished`; the results of the two calls are
not looked at. -/
def ICapability.react (env : Environment) (capability : ICapability) (calls : Trace)
    (action : String) : Trace :=
  match capability.launches action with
  | none => calls
  | some app =>
      let started := AppController.startApp env calls app.APP_NAME app.VERSION_NAME
      (AppController.displayApp env started.2 app.APP_NAME app.VERSION_NAME).2

/-- `ICapability::onMessagePublished` of the capability at an address. -/
def onMessagePublished (env : Environment) (capabilities : CapabilityObjects) (calls : Trace)
    (capability : CapabilityPtr) (action : String) : Trace :=
  (capabilities capability).react env (calls ++ [.onMessagePublished capability action])
    action

/-- Launching an application only calls APIs and frees what they return. -/
def IsLaunch : Call → Prop
  | .callSync _ _ _ _ => True
  | .free _ => True
  | _ => False

theorem callApp_calls (env : Environment) (calls : Trace) (api verb name version : String) :
    ∃ added : Trace,
      (AppController.callApp env calls api verb name version).2 = calls ++ added ∧
        ∀ call ∈ added, IsLaunch call := by
  unfold AppController.callApp
  split
  · exact ⟨[], (List.append_nil calls).symm, by simp⟩
  · obtain ⟨freed, hfreed, hfree⟩ := free_calls
      (env.doCallSync calls api verb
        (some (jsonObjectNewString (name ++ "@" ++ version)))).2
      (resultObject calls (env.doCallSync calls api verb
        (some (jsonObjectNewString (name ++ "@" ++ version)))).1)
    simp only [hfreed]
    refine ⟨_ :: freed, List.append_assoc _ _ _, ?_⟩
    intro call hcall
    rcases List.mem_cons.mp hcall with rfl | hmem
    · trivial
    · obtain ⟨object, rfl⟩ := hfree call hmem
      trivial

theorem ICapability.react_calls (env : Environment) (capability : ICapability)
    (calls : Trace) (action : String) :
    ∃ added : Trace, capability.react env calls action = calls ++ added ∧
      ∀ call ∈ added, IsLaunch call := by
  unfold ICapability.react
  cases capability.launches action with
  | none => exact ⟨[], (List.append_nil calls).symm, by simp⟩
  | some app =>
      obtain ⟨started, hstarted, hlaunch⟩ := callApp_calls env calls
        AppController.START_APP_API AppController.START_APP_VERB app.APP_NAME
        app.VERSION_NAME
      obtain ⟨displayed, hdisplayed, hlaunch'⟩ := callApp_calls env (calls ++ started)
        AppController.DISPLAY_APP_API AppController.DISPLAY_APP_VERB app.APP_NAME
        app.VERSION_NAME
      refine ⟨started ++ displayed, ?_, ?_⟩
      · simp only [AppController.startApp, AppController.displayApp, hstarted, hdisplayed,
          List.append_assoc]
      · intro call hcall
        rcases List.mem_append.mp hcall with h | h
        · exact hlaunch call h
        · exact hlaunch' call h

/-! ## The capabilities of the plugin -/

namespace guimetadata

def NAME : String := "guimetadata"
def APP : App := ⟨"ics-alexa-app", "0.1"⟩

def GUIMETADATA_RENDER_TEMPLATE : String := "render_template"
def GUIMETADATA_CLEAR_TEMPLATE : String := "clear_template"
def GUIMETADATA_RENDER_PLAYER_INFO : String := "render_player_info"
def GUIMETADATA_CLEAR_PLAYER_INFO : String := "clear_player_info"

def GUIMETADATA_UPSTREAM_ACTIONS : List String :=
  [GUIMETADATA_RENDER_TEMPLATE, GUIMETADATA_CLEAR_TEMPLATE,
    GUIMETADATA_RENDER_PLAYER_INFO, GUIMETADATA_CLEAR_PLAYER_INFO]
def GUIMETADATA_DOWNSTREAM_ACTIONS : List String := []

/-- `GuiMetadata`. -/
def GuiMetadata : ICapability where
  getName := NAME
  getUpstreamMessages := GUIMETADATA_UPSTREAM_ACTIONS
  getDownstreamMessages := GUIMETADATA_DOWNSTREAM_ACTIONS
  launches action := if action = GUIMETADATA_RENDER_TEMPLATE then some APP else none

end guimetadata

namespace phonecontrol

def NAME : String := "phonecontrol"
def APP : App := ⟨"phone", "0.1"⟩

def PHONECONTROL_DIAL : String := "phonecontrol/dial"
def PHONECONTROL_REDIAL : String := "phonecontrol/redial"
def PHONECONTROL_ANSWER : String := "phonecontrol/answer"
def PHONECONTROL_STOP : String := "phonecontrol/stop"
def PHONECONTROL_SEND_DTMF : String := "phonecontrol/send_dtmf"
def PHONECONTROL_CONNECTIONSTATE_CHANGED : String := "phonecontrol/connection_state_changed"
def PHONECONTROL_CALL_STATE_CHANGED : String := "phonecontrol/call_state_changed"
def PHONECONTROL_CALL_FAILED : String := "phonecontrol/call_failed"
def PHONECONTROL_CALLERID_RECEIVED : String := "phonecontrol/caller_id_received"
def PHONECONTROL_SEND_DTMF_SUCCEEDED : String := "phonecontrol/send_dtmf_succeeded"

def PHONECONTROL_UPSTREAM_ACTIONS : List String :=
  [PHONECONTROL_DIAL, PHONECONTROL_REDIAL, PHONECONTROL_ANSWER, PHONECONTROL_STOP,
    PHONECONTROL_SEND_DTMF]
def PHONECONTROL_DOWNSTREAM_ACTIONS : List String :=
  [PHONECONTROL_CONNECTIONSTATE_CHANGED, PHONECONTROL_CALL_STATE_CHANGED,
    PHONECONTROL_CALL_FAILED, PHONECONTROL_CALLERID_RECEIVED,
    PHONECONTROL_SEND_DTMF_SUCCEEDED]

/-- `PhoneControl`. -/
def PhoneControl : ICapability where
  getName := NAME
  getUpstreamMessages := PHONECONTROL_UPSTREAM_ACTIONS
  getDownstreamMessages := PHONECONTROL_DOWNSTREAM_ACTIONS
  launches action := if action = PHONECONTROL_DIAL then some APP else none

end phonecontrol

namespace navigation

def NAME : String := "navigation"
def APP : App := ⟨"navigation", "0.1"⟩

def NAVIGATION_SET_DESTINATION : String := "set_destination"
def NAVIGATION_CANCEL : String := "cancel_navigation"

def NAVIGATION_UPSTREAM_ACTIONS : List String :=
  [NAVIGATION_SET_DESTINATION, NAVIGATION_CANCEL]
def NAVIGATION_DOWNSTREAM_ACTIONS : List String := []

/-- `Navigation`. -/
def Navigation : ICapability where
  getName := NAME
  getUpstreamMessages := NAVIGATION_UPSTREAM_ACTIONS
  getDownstreamMessages := NAVIGATION_DOWNSTREAM_ACTIONS
  launches action := if action = NAVIGATION_SET_DESTINATION then some APP else none

end navigation

/-! ## The factory -/

namespace CapabilitiesFactory

/-- The object `getGuiMetadata` makes when it is first called and returns always. -/
def getGuiMetadata : CapabilityPtr := 0
/-- The object `getPhoneControl` returns. -/
def getPhoneControl : CapabilityPtr := 1
/-- The object `getNavigation` returns. -/
def getNavigation : CapabilityPtr := 2

/-- The objects behind these pointers. -/
def capabilities : CapabilityObjects := fun capability =>
  if capability = getGuiMetadata then guimetadata.GuiMetadata
  else if capability = getPhoneControl then phonecontrol.PhoneControl
  else navigation.Navigation

end CapabilitiesFactory

end Vshl.Capabilities
