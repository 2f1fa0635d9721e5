/-
  Utilities/EventRouter.lean --- `EventRouter`, over filters it knows only as
  `IEventFilter`.
-/
import Vshl.Foundation.Unordered
import Vshl.Interfaces.Afb

set_option autoImplicit false

namespace Vshl.Utilities

open Vshl.Foundation
open Vshl.Interfaces

/-- The address of an `IEventFilter`. -/
abbrev FilterPtr := Nat

/-- `IEventFilter::onIncomingEvent` of the filter at an address. -/
abbrev OnIncomingEvent :=
  FilterPtr → Trace → String → String → String → Except Fault Bool × Trace

/-- The state of an `EventRouter`. -/
structure EventRouter where
  mEventFilters : UnorderedSet FilterPtr

namespace EventRouter

/-- `EventRouter::create`. -/
def create : EventRouter := ⟨∅⟩

/-- `EventRouter::addEventFilter`. -/
def addEventFilter (router : EventRouter) : Option FilterPtr → EventRouter × Bool
  | none => (router, false)
  | some filter => (⟨router.mEventFilters.insert filter⟩, true)

/-- `EventRouter::removeEventFilter`. -/
def removeEventFilter (router : EventRouter) : Option FilterPtr → EventRouter × Bool
  | none => (router, false)
  | some filter => (⟨router.mEventFilters.erase filter⟩, true)

/-- The loop of `handleIncomingEvent`: it ends at the first filter that answers
true. -/
def offer (onIncomingEvent : OnIncomingEvent) (eventName voiceAgentId payload : String) :
    List FilterPtr → Trace → Except Fault Bool × Trace
  | [], calls => (.ok false, calls)
  | filter :: rest, calls =>
      match onIncomingEvent filter calls eventName voiceAgentId payload with
      | (.ok true, calls) => (.ok true, calls)
      | (.ok false, calls) =>
          offer onIncomingEvent eventName voiceAgentId payload rest calls
      | (.error fault, calls) => (.error fault, calls)

/-- `EventRouter::handleIncomingEvent`. -/
def handleIncomingEvent (onIncomingEvent : OnIncomingEvent) (router : EventRouter)
    (calls : Trace) (eventName voiceAgentId payload : String) : Except Fault Bool × Trace :=
  offer onIncomingEvent eventName voiceAgentId payload router.mEventFilters.toList calls

end EventRouter

end Vshl.Utilities
