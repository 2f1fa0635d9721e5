/-
  VoiceAgents/VoiceAgent.lean --- `VoiceAgent` objects and the store they live in.

  Every `shared_ptr<VoiceAgent>` and `shared_ptr<IVoiceAgent>` of the plugin is an
  `AgentPtr` into one `AgentStore`, so a data manager, a request and an observer
  that hold the same pointer see the same object.
-/
import Vshl.Foundation.Unordered
import Mathlib.Logic.Function.Basic

set_option autoImplicit false

namespace Vshl.VoiceAgents

open Vshl.Foundation

/-- The address of a `VoiceAgent` object. -/
abbrev AgentPtr := Nat

/-- The state of a `VoiceAgent`. -/
structure VoiceAgent where
  mId : String
  mName : String
  mDescription : String
  mApi : String
  mVendor : String
  mActiveWakeword : String
  mIsActive : Bool
  mWakewords : UnorderedSet String
  deriving DecidableEq, Inhabited

namespace VoiceAgent

/-- `VoiceAgent::setActiveWakeWord`. -/
def setActiveWakeWord (agent : VoiceAgent) (wakeword : String) : VoiceAgent × Bool :=
  if wakeword ∈ agent.mWakewords then
    ({ agent with mActiveWakeword := wakeword }, true)
  else (agent, false)

/-- `VoiceAgent::setIsActive`. -/
def setIsActive (agent : VoiceAgent) (active : Bool) : VoiceAgent :=
  { agent with mIsActive := active }

/-- The arguments of `VoiceAgent::create`; `wakewords` may be a null pointer. -/
structure Args where
  id : String
  name : String
  description : String
  api : String
  vendor : String
  activeWakeword : String
  isActive : Bool
  wakewords : Option (UnorderedSet String)
  deriving DecidableEq

/-- `VoiceAgent::create`.  The object is shared with nobody before it is
returned, so it has no address yet. -/
def create (args : Args) : Option VoiceAgent :=
  match args.wakewords with
  | none => none
  | some wakewords =>
      let voiceAgent : VoiceAgent :=
        { mId := args.id, mName := args.name, mDescription := args.description,
          mApi := args.api, mVendor := args.vendor,
          mActiveWakeword := args.activeWakeword, mIsActive := args.isActive,
          mWakewords := wakewords }
      match voiceAgent.setActiveWakeWord args.activeWakeword with
      | (_, false) => none
      | (voiceAgent, true) => some voiceAgent

/-- Arguments of an agent with one wakeword. -/
def Args.simple (id api : String) : Args :=
  { id := id, name := "", description := "", api := api, vendor := "",
    activeWakeword := "alexa", isActive := true,
    wakewords := some ((∅ : UnorderedSet String).insert "alexa") }

/-- The agent created from them. -/
def simple (id api : String) : VoiceAgent := (create (.simple id api)).getD default

/-- The class invariant of `VoiceAgent`. -/
def Wf (agent : VoiceAgent) : Prop := agent.mActiveWakeword ∈ agent.mWakewords

theorem simple_wf (id api : String) : (simple id api).Wf :=
  UnorderedSet.mem_insert.mpr (Or.inl rfl)

/-- The agent was created from these arguments: everything a `VoiceAgent` never
changes is what the arguments say. -/
structure CreatedFrom (agent : VoiceAgent) (args : Args) : Prop where
  id : agent.mId = args.id
  name : agent.mName = args.name
  description : agent.mDescription = args.description
  api : agent.mApi = args.api
  vendor : agent.mVendor = args.vendor
  wakewords : args.wakewords = some agent.mWakewords

/-- `create` succeeds exactly when there is a wakeword set and the active
wakeword is in it, and then the object has the arguments as its fields. -/
theorem create_eq_some_iff {args : Args} {agent : VoiceAgent} :
    create args = some agent ↔
      agent.CreatedFrom args ∧ agent.Wf ∧
        agent.mActiveWakeword = args.activeWakeword ∧
        agent.mIsActive = args.isActive := by
  unfold create Wf
  cases hwakewords : args.wakewords with
  | none =>
      constructor
      · intro h
        exact absurd h (by simp)
      · rintro ⟨hcreated, -⟩
        exact absurd (hwakewords.symm.trans hcreated.wakewords) (by simp)
  | some wakewords =>
      simp only [setActiveWakeWord]
      by_cases hmem : args.activeWakeword ∈ wakewords
      · simp only [hmem, if_true, Option.some.injEq]
        constructor
        · rintro rfl
          exact ⟨⟨rfl, rfl, rfl, rfl, rfl, hwakewords⟩, hmem, rfl, rfl⟩
        · rintro ⟨⟨h1, h2, h3, h4, h5, h6⟩, -, h7, h8⟩
          obtain rfl : wakewords = agent.mWakewords :=
            Option.some.inj (hwakewords.symm.trans h6)
          cases agent
          simp_all
      · simp only [hmem, if_false]
        constructor
        · intro h
          exact absurd h (by simp)
        · rintro ⟨hcreated, hwf, hactive, -⟩
          have hsame := Option.some.inj (hwakewords.symm.trans hcreated.wakewords)
          rw [hactive, ← hsame] at hwf
          exact absurd hwf hmem

/-- An operation leaves alone everything but the active flag and the active
wakeword, and keeps the class invariant. -/
structure Evolves (before after : VoiceAgent) : Prop where
  id : after.mId = before.mId
  name : after.mName = before.mName
  description : after.mDescription = before.mDescription
  api : after.mApi = before.mApi
  vendor : after.mVendor = before.mVendor
  wakewords : after.mWakewords = before.mWakewords
  wf : before.Wf → after.Wf

theorem Evolves.refl (agent : VoiceAgent) : agent.Evolves agent :=
  ⟨rfl, rfl, rfl, rfl, rfl, rfl, fun h => h⟩

theorem Evolves.trans {first second third : VoiceAgent} (h₁ : first.Evolves second)
    (h₂ : second.Evolves third) : first.Evolves third :=
  ⟨h₂.id.trans h₁.id, h₂.name.trans h₁.name, h₂.description.trans h₁.description,
    h₂.api.trans h₁.api, h₂.vendor.trans h₁.vendor,
    h₂.wakewords.trans h₁.wakewords, h₂.wf ∘ h₁.wf⟩

theorem setIsActive_evolves (agent : VoiceAgent) (active : Bool) :
    agent.Evolves (agent.setIsActive active) :=
  ⟨rfl, rfl, rfl, rfl, rfl, rfl, fun h => h⟩

theorem setActiveWakeWord_evolves (agent : VoiceAgent) (wakeword : String) :
    agent.Evolves (agent.setActiveWakeWord wakeword).1 := by
  unfold setActiveWakeWord
  split
  · rename_i hmem
    exact ⟨rfl, rfl, rfl, rfl, rfl, rfl, fun _ => hmem⟩
  · exact Evolves.refl agent

theorem CreatedFrom.evolves {before after : VoiceAgent} {args : Args}
    (h : before.CreatedFrom args) (hev : before.Evolves after) :
    after.CreatedFrom args :=
  ⟨hev.id.trans h.id, hev.name.trans h.name, hev.description.trans h.description,
    hev.api.trans h.api, hev.vendor.trans h.vendor,
    h.wakewords.trans (congrArg some hev.wakewords.symm)⟩

end VoiceAgent

/-! ## The objects in memory -/

/-- The `VoiceAgent` objects behind the pointers; addresses below `next` have
been handed out. -/
structure AgentStore where
  object : AgentPtr → VoiceAgent
  next : AgentPtr

namespace AgentStore

/-- No object yet. -/
def empty : AgentStore := ⟨fun _ => default, 0⟩

/-- Give an object an address. -/
def alloc (store : AgentStore) (agent : VoiceAgent) : AgentStore :=
  ⟨Function.update store.object store.next agent, store.next + 1⟩

/-- Change the object at an address. -/
def set (store : AgentStore) (p : AgentPtr) (agent : VoiceAgent) : AgentStore :=
  { store with object := Function.update store.object p agent }

@[simp] theorem alloc_next (store : AgentStore) (agent : VoiceAgent) :
    (store.alloc agent).next = store.next + 1 := rfl

@[simp] theorem set_next (store : AgentStore) (p : AgentPtr) (agent : VoiceAgent) :
    (store.set p agent).next = store.next := rfl

@[simp] theorem alloc_object_next (store : AgentStore) (agent : VoiceAgent) :
    (store.alloc agent).object store.next = agent :=
  Function.update_self _ _ _

theorem alloc_object_of_lt {store : AgentStore} {p : AgentPtr} (agent : VoiceAgent)
    (h : p < store.next) : (store.alloc agent).object p = store.object p :=
  Function.update_of_ne (Nat.ne_of_lt h) _ _

@[simp] theorem set_object_self (store : AgentStore) (p : AgentPtr) (agent : VoiceAgent) :
    (store.set p agent).object p = agent :=
  Function.update_self _ _ _

theorem set_object_of_ne {store : AgentStore} {p q : AgentPtr} (agent : VoiceAgent)
    (h : q ≠ p) : (store.set p agent).object q = store.object q :=
  Function.update_of_ne h _ _

end AgentStore

end Vshl.VoiceAgents
