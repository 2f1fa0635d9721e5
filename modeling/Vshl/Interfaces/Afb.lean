/-
  Interfaces/Afb.lean --- everything outside the plugin, as `IAFBApi.h` and
  `ICapability.h` present it.

  The plugin acts on the outside only through calls, so the outside is one
  growing trace of calls.  How a call is answered is up to an `Environment`,
  which may look at all earlier calls: a statement about every environment is a
  statement about arbitrary answers.  An object handed out by a call is named
  by the position of that call in the trace, so two calls never hand out the
  same object.
-/
import Vshl.Interfaces.Json

set_option autoImplicit false

namespace Vshl.Interfaces

/-- An event object, named by the `createEvent` call that made it. -/
abbrev EventPtr := Nat
/-- A result object owned by the caller, named by the `callSync` call that
handed it out. -/
abbrev ObjectPtr := Nat
/-- The native request of a client. -/
abbrev RequestPtr := Nat
/-- A capability object. -/
abbrev CapabilityPtr := Nat

/-- The answer to a `callSync`: its return value, and whether `*result` was set
to an object that the caller now owns.  No caller reads the texts. -/
structure CallSyncResult where
  rc : Int
  object : Bool
  deriving DecidableEq, Repr

/-- One call that leaves the plugin, with the answer it got. -/
inductive Call where
  /-- `IAFBApi::callSync` -/
  | callSync (api verb : String) (request : Option Json) (result : CallSyncResult)
  /-- `free` of a result object -/
  | free (object : ObjectPtr)
  /-- `IAFBApi::createEvent`, and whether the event is non-null -/
  | createEvent (eventName : String) (nonNull : Bool)
  /-- `IAFBEvent::subscribe` -/
  | subscribe (event : EventPtr) (request : RequestPtr) (result : Bool)
  /-- `IAFBEvent::publishEvent` -/
  | publishEvent (event : EventPtr) (payload : Json) (observers : Int)
  /-- `ICapability::onMessagePublished` -/
  | onMessagePublished (capability : CapabilityPtr) (action : String)

/-- The calls made so far, oldest first. -/
abbrev Trace := List Call

/-- How the outside answers, given the calls made before. -/
structure Environment where
  /-- is the `AFB_ApiT` the plugin was given, and with it `mAfbApi`, non-null? -/
  afbApi : Bool
  callSync : Trace → String → String → Option Json → CallSyncResult
  createEvent : Trace → String → Bool
  subscribe : Trace → EventPtr → RequestPtr → Bool
  publishEvent : Trace → EventPtr → Json → Int
  /-- the bytes the random engine yields next -/
  randomByte : Trace → Nat → UInt8
  /-- `json_object_to_json_string` -/
  jsonText : Json → String

namespace Environment

/-- An outside on which every call succeeds and every event has one observer. -/
def obliging : Environment where
  afbApi := true
  callSync := fun _ _ _ _ => ⟨0, false⟩
  createEvent := fun _ _ => true
  subscribe := fun _ _ _ => true
  publishEvent := fun _ _ _ => 1
  randomByte := fun _ _ => 0
  jsonText := fun _ => "\x7b\x7d"

theorem obliging_afbApi : obliging.afbApi = true := rfl

variable (env : Environment)

/-- The answer to a `callSync` made now, and the trace after it. -/
def doCallSync (calls : Trace) (api verb : String) (request : Option Json) :
    CallSyncResult × Trace :=
  let result := env.callSync calls api verb request
  (result, calls ++ [.callSync api verb request result])

/-- The event a `createEvent` made now yields, null or not, and the trace. -/
def doCreateEvent (calls : Trace) (eventName : String) : Option EventPtr × Trace :=
  let nonNull := env.createEvent calls eventName
  (if nonNull then some calls.length else none,
    calls ++ [.createEvent eventName nonNull])

/-- `event->subscribe(request)`. -/
def doSubscribe (calls : Trace) (event : EventPtr) (request : RequestPtr) :
    Bool × Trace :=
  let result := env.subscribe calls event request
  (result, calls ++ [.subscribe event request result])

/-- `event->publishEvent(payload)`. -/
def doPublishEvent (calls : Trace) (event : EventPtr) (payload : Json) :
    Int × Trace :=
  let observers := env.publishEvent calls event payload
  (observers, calls ++ [.publishEvent event payload observers])

end Environment

/-- The object a `callSync` set `*result` to, which was null before. -/
def resultObject (calls : Trace) (result : CallSyncResult) : Option ObjectPtr :=
  if result.object then some calls.length else none

/-- `free(x)`; freeing a null pointer does nothing. -/
def free (calls : Trace) : Option ObjectPtr → Trace
  | none => calls
  | some object => calls ++ [.free object]

/-- Freeing adds at most the one call. -/
theorem free_calls (calls : Trace) (object : Option ObjectPtr) :
    ∃ added : Trace, free calls object = calls ++ added ∧
      ∀ call ∈ added, ∃ freed, call = .free freed := by
  cases object with
  | none => exact ⟨[], (List.append_nil calls).symm, by simp⟩
  | some object => exact ⟨[.free object], rfl, by simp⟩

theorem free_extends (calls : Trace) (object : Option ObjectPtr) :
    calls <+: free calls object := by
  cases object with
  | none => exact List.prefix_refl calls
  | some object => exact List.prefix_append calls _

end Vshl.Interfaces
