/-
  Core/VRRequest.lean --- `VRRequest`: one request to one voice agent.
-/
import Vshl.Interfaces.Afb
import Vshl.VoiceAgents.VoiceAgent

set_option autoImplicit false

namespace Vshl.Core

open Vshl.Interfaces
open Vshl.VoiceAgents

/-- The `FREEIF` macro of `VRRequestImpl.cpp`, `if (!x) { free(x); }`. -/
def FREEIF (calls : Trace) (x : Option ObjectPtr) : Trace :=
  if x.isNone then free calls x else calls

/-- The macro tests for the wrong thing: it only ever frees a null pointer. -/
@[simp] theorem FREEIF_eq (calls : Trace) (x : Option ObjectPtr) : FREEIF calls x = calls := by
  cases x <;> rfl

/-- A `VRRequest`. -/
structure VRRequest where
  mRequestId : String
  mVoiceAgent : AgentPtr
  deriving DecidableEq

namespace VRRequest

def VA_VERB_STARTLISTENING : String := "startListening"
def VA_VERB_CANCEL : String := "cancel"

/-- `VRRequest::create`. -/
def create (env : Environment) (requestId : String) (voiceAgent : AgentPtr) :
    Option VRRequest :=
  if env.afbApi then some ⟨requestId, voiceAgent⟩ else none

/-- The common body of `VRRequest::startListening` and `VRRequest::cancel`: the
return value `rc` of the call is dropped and the result is always true. -/
def callVerb (env : Environment) (agents : AgentStore) (calls : Trace)
    (request : VRRequest) (verb : String) : Bool × Trace :=
  let called := env.doCallSync calls (agents.object request.mVoiceAgent).mApi verb none
  (true, FREEIF called.2 (resultObject calls called.1))

/-- `VRRequest::startListening`. -/
def startListening (env : Environment) (agents : AgentStore) (calls : Trace)
    (request : VRRequest) : Bool × Trace :=
  request.callVerb env agents calls VA_VERB_STARTLISTENING

/-- `VRRequest::cancel`. -/
def cancel (env : Environment) (agents : AgentStore) (calls : Trace)
    (request : VRRequest) : Bool × Trace :=
  request.callVerb env agents calls VA_VERB_CANCEL

theorem callVerb_eq (env : Environment) (agents : AgentStore) (calls : Trace)
    (request : VRRequest) (verb : String) :
    request.callVerb env agents calls verb =
      (true, calls ++ [.callSync (agents.object request.mVoiceAgent).mApi verb none
        (env.callSync calls (agents.object request.mVoiceAgent).mApi verb none)]) := by
  simp [callVerb, Environment.doCallSync]

end VRRequest

end Vshl.Core
