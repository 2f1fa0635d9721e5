/-
  Api/ConfigOutcome.lean --- what the return value of `loadVoiceAgentsConfig` says about
  the registry.

  The handler registers the agents one by one before it looks for the default, and does not
  look at the result of setting it.
-/
import Vshl.Api.Config

set_option autoImplicit false

namespace Vshl.Api

open Vshl.Foundation
open Vshl.Interfaces
open Vshl.VoiceAgents
open Vshl.Core

/-! ## What the entries bring in -/

/-- The entry is complete and this is what is read from it. -/
def Reads (entry : Json) (args : VoiceAgent.Args) : Prop :=
  missesParam entry = false ∧ decodeAgent entry = .ok args

/-- Some entry describes an agent that can be registered under the id. -/
def DescribesAgent (entries : List Json) (id : String) : Prop :=
  ∃ entry ∈ entries, ∃ args, Reads entry args ∧ Valid args ∧ args.id = id

theorem describesAgent_cons {entry : Json} {rest : List Json} {id : String} :
    DescribesAgent (entry :: rest) id ↔
      (∃ args, Reads entry args ∧ Valid args ∧ args.id = id) ∨ DescribesAgent rest id := by
  simp [DescribesAgent]

section

variable (env : Environment)

/-- Who is registered after an add. -/
theorem addNewVoiceAgent_mem_iff (manager : VoiceAgentsDataManager) (calls : Trace)
    (args : VoiceAgent.Args) (id : String) :
    id ∈ (manager.addNewVoiceAgent env calls args).1.manager.mVoiceAgents ↔
      id ∈ manager.mVoiceAgents ∨ (Valid args ∧ args.id = id) := by
  by_cases hnew : Valid args ∧ manager.mVoiceAgents.find args.id = none
  · obtain ⟨voiceAgent, -, hadd, hfind⟩ :=
      addNewVoiceAgent_accepted env calls hnew.1 hnew.2
    rw [hadd, UnorderedMap.mem_iff_find, UnorderedMap.mem_iff_find]
    simp only [hfind]
    by_cases hid : id = args.id
    · simp [hid, hnew.1]
    · simp [hid, Ne.symm hid]
  · rw [addNewVoiceAgent_refused env calls hnew]
    refine ⟨Or.inl, ?_⟩
    rintro (hmem | ⟨hvalid, rfl⟩)
    · exact hmem
    · by_contra hnone
      exact hnew ⟨hvalid, UnorderedMap.find_eq_none.mpr hnone⟩

theorem loadAgent_mem_iff {b b' : Binding} {entry : Json} {notified : List Notification}
    (h : loadAgent env b entry = (.ok (), b', notified)) (id : String) :
    id ∈ b'.sVoiceAgentsDataManager.mVoiceAgents ↔
      id ∈ b.sVoiceAgentsDataManager.mVoiceAgents ∨
        ∃ args, Reads entry args ∧ Valid args ∧ args.id = id := by
  unfold loadAgent at h
  unfold Reads
  cases hmisses : missesParam entry with
  | true =>
      rw [if_pos hmisses] at h
      obtain ⟨rfl, -⟩ := Prod.mk.inj (Prod.mk.inj h).2
      simp
  | false =>
      rw [if_neg (by simp [hmisses])] at h
      cases hdecode : decodeAgent entry with
      | error fault => simp [hdecode] at h
      | ok args =>
          simp only [hdecode] at h
          obtain ⟨rfl, -⟩ := Prod.mk.inj (Prod.mk.inj h).2
          refine (addNewVoiceAgent_mem_iff env b.sVoiceAgentsDataManager b.calls args id).trans ?_
          simp

/-- Who is registered after the loop. -/
theorem loadAgents_mem_iff {b b' : Binding} {entries : List Json}
    {notified : List Notification} (h : loadAgents env b entries = (.ok (), b', notified))
    (id : String) :
    id ∈ b'.sVoiceAgentsDataManager.mVoiceAgents ↔
      id ∈ b.sVoiceAgentsDataManager.mVoiceAgents ∨ DescribesAgent entries id := by
  induction entries generalizing b notified with
  | nil =>
      obtain ⟨rfl, -⟩ := Prod.mk.inj (Prod.mk.inj h).2
      simp [DescribesAgent]
  | cons entry rest ih =>
      rw [loadAgents] at h
      rcases hround : loadAgent env b entry with ⟨fault | done, b₁, first⟩
      · simp [hround] at h
      · rcases hrest : loadAgents env b₁ rest with ⟨fault | done', b₂, others⟩
        · simp [hround, hrest] at h
        · simp only [hround, hrest] at h
          obtain ⟨rfl, -⟩ := Prod.mk.inj (Prod.mk.inj h).2
          rw [ih hrest, loadAgent_mem_iff env hround, describesAgent_cons, or_assoc]

/-- A round does nothing if the agent that is described is registered. -/
theorem loadAgent_nothing_new {b : Binding} {entry : Json}
    (h : ∀ args, Reads entry args → Valid args →
      args.id ∈ b.sVoiceAgentsDataManager.mVoiceAgents) :
    (loadAgent env b entry).2.1 = b := by
  cases hmisses : missesParam entry with
  | true =>
      unfold loadAgent
      rw [if_pos hmisses]
  | false =>
      cases hdecode : decodeAgent entry with
      | error fault =>
          unfold loadAgent
          rw [if_neg (by simp [hmisses]), hdecode]
      | ok args =>
          rw [loadAgent_refused env hmisses hdecode]
          rintro ⟨hvalid, hnone⟩
          exact UnorderedMap.find_eq_none.mp hnone (h args ⟨hmisses, hdecode⟩ hvalid)

/-- The loop does nothing if every agent that is described is registered. -/
theorem loadAgents_nothing_new {b : Binding} {entries : List Json}
    (h : ∀ id, DescribesAgent entries id → id ∈ b.sVoiceAgentsDataManager.mVoiceAgents) :
    (loadAgents env b entries).2.1 = b := by
  induction entries with
  | nil => rfl
  | cons entry rest ih =>
      have hround : (loadAgent env b entry).2.1 = b :=
        loadAgent_nothing_new env fun args hreads hvalid =>
          h _ (describesAgent_cons.mpr (Or.inl ⟨args, hreads, hvalid, rfl⟩))
      have hrest : (loadAgents env b rest).2.1 = b :=
        ih fun id hid => h id (describesAgent_cons.mpr (Or.inr hid))
      rw [loadAgents]
      rcases hload : loadAgent env b entry with ⟨fault | done, b₁, first⟩
      · rw [hload] at hround
        exact hround
      · rw [hload] at hround
        obtain rfl : b₁ = b := hround
        exact hrest

end

/-! ## The return value -/

/-- The agents, their events and the default are the same. -/
structure SameRegistry (before after : VoiceAgentsDataManager) : Prop where
  agents : after.mVoiceAgents = before.mVoiceAgents
  objects : after.agents = before.agents
  events : after.mVoiceAgentEventsHandler = before.mVoiceAgentEventsHandler
  default : after.getDefaultVoiceAgent = before.getDefaultVoiceAgent

/-- 0 says that the configured default is registered and is now the default, -1 says that
nothing has changed. -/
structure Truthful (b : Binding) (argsJ : Option Json) (done : Done) : Prop where
  success : done.ret = .ok 0 → ∃ config defaultId, argsJ = some config ∧
    config.find? VA_JSON_ATTR_DEFAULT = some (.str defaultId) ∧
    done.binding.sVoiceAgentsDataManager.getDefaultVoiceAgent = defaultId ∧
    defaultId ∈ done.binding.sVoiceAgentsDataManager.mVoiceAgents
  failure : done.ret = .ok (-1) →
    SameRegistry b.sVoiceAgentsDataManager done.binding.sVoiceAgentsDataManager

/-- If every complete entry can be read, then the configured default is registered already or
described by an entry, and without a configured default no entry describes a new agent. -/
def DefaultKnown (b : Binding) (argsJ : Option Json) : Prop :=
  ∀ config, argsJ = some config →
    ∀ agentsJson, config.find? VA_JSON_ATTR_AGENTS = some agentsJson →
    (∀ entry ∈ agentsJson.iterate, missesParam entry = false → RightKinds entry) →
    (∀ defaultId, config.find? VA_JSON_ATTR_DEFAULT = some (.str defaultId) →
      defaultId ∈ b.sVoiceAgentsDataManager.mVoiceAgents ∨
        DescribesAgent agentsJson.iterate defaultId) ∧
    (config.find? VA_JSON_ATTR_DEFAULT = none → ∀ id, DescribesAgent agentsJson.iterate id →
      id ∈ b.sVoiceAgentsDataManager.mVoiceAgents)

/-- A binding that requests have led to, or one whose data manager any operations have led
to. -/
inductive Prior (env : Environment) (b : Binding) : Prop where
  | requests (h : Reachable env b)
  | operations (ops : List Op)
      (h : b.sVoiceAgentsDataManager =
        ((VoiceAgents.machine env).run State.initial ops).manager)

theorem Prior.unnamed {env : Environment} {b : Binding} (h : Prior env b) :
    "" ∉ b.sVoiceAgentsDataManager.mVoiceAgents := by
  have hne : ∀ id p, b.sVoiceAgentsDataManager.mVoiceAgents.find id = some p → id ≠ "" := by
    rcases h with h | ⟨ops, hops⟩
    · exact h.wf.registry.id_ne
    · rw [hops]
      exact (agentsWf_run env ops).id_ne
  intro hmem
  obtain ⟨p, hp⟩ := UnorderedMap.mem_iff_find.mp hmem
  exact hne "" p hp rfl

/-- The end of the handler, when a default is configured. -/
theorem setDefault_truthful_iff (env : Environment) {b : Binding} (defaultId : String)
    (hne : "" ∉ b.sVoiceAgentsDataManager.mVoiceAgents) :
    ((b.dataManager env
          (.setDefaultVoiceAgent defaultId)).1.sVoiceAgentsDataManager.getDefaultVoiceAgent =
        defaultId ∧
      defaultId ∈ (b.dataManager env
        (.setDefaultVoiceAgent defaultId)).1.sVoiceAgentsDataManager.mVoiceAgents) ↔
      defaultId ∈ b.sVoiceAgentsDataManager.mVoiceAgents := by
  have hafter : (b.dataManager env (.setDefaultVoiceAgent defaultId)).1.sVoiceAgentsDataManager =
      (b.sVoiceAgentsDataManager.setDefaultVoiceAgent defaultId).manager := rfl
  by_cases hmem : defaultId ∈ b.sVoiceAgentsDataManager.mVoiceAgents
  · obtain ⟨p, hfind⟩ := UnorderedMap.mem_iff_find.mp hmem
    have hid : defaultId ≠ "" := by
      rintro rfl
      exact hne hmem
    rw [hafter, VoiceAgentsDataManager.setDefaultVoiceAgent_of_find hid hfind]
    exact iff_of_true ⟨rfl, hmem⟩ hmem
  · have hrefused : ¬ (defaultId ≠ "" ∧
        ∃ p, b.sVoiceAgentsDataManager.mVoiceAgents.find defaultId = some p) :=
      fun h => hmem (UnorderedMap.mem_iff_find.mpr h.2)
    rw [hafter, VoiceAgentsDataManager.setDefaultVoiceAgent_refused hrefused]
    exact iff_of_false (fun h => hmem h.2) hmem

/-- Without a default in the configuration, nothing has changed exactly if nothing was new. -/
theorem sameRegistry_loaded_iff (env : Environment) {b b' : Binding} {entries : List Json}
    {notified : List Notification} (h : loadAgents env b entries = (.ok (), b', notified)) :
    SameRegistry b.sVoiceAgentsDataManager b'.sVoiceAgentsDataManager ↔
      ∀ id, DescribesAgent entries id → id ∈ b.sVoiceAgentsDataManager.mVoiceAgents := by
  constructor
  · intro hsame id hdescribed
    rw [← hsame.agents]
    exact (loadAgents_mem_iff env h id).mpr (Or.inr hdescribed)
  · intro hnothing
    have hb : b' = b := by
      have hnew := loadAgents_nothing_new env hnothing
      rw [h] at hnew
      exact hnew
    rw [hb]
    exact ⟨rfl, rfl, rfl, rfl⟩

/-- What the handler does once the agents are loaded. -/
theorem loadDefault_truthful_iff {env : Environment} {b b' : Binding} (h : Prior env b)
    {entries : List Json} {notified : List Notification}
    (hload : loadAgents env b entries = (.ok (), b', notified)) (config : Json) :
    Truthful b (some config) (loadDefault env b' notified config) ↔
      (∀ defaultId, config.find? VA_JSON_ATTR_DEFAULT = some (.str defaultId) →
        defaultId ∈ b.sVoiceAgentsDataManager.mVoiceAgents ∨ DescribesAgent entries defaultId) ∧
      (config.find? VA_JSON_ATTR_DEFAULT = none → ∀ id, DescribesAgent entries id →
        id ∈ b.sVoiceAgentsDataManager.mVoiceAgents) := by
  have hmem := loadAgents_mem_iff env hload
  unfold loadDefault
  cases hdefault : config.find? VA_JSON_ATTR_DEFAULT with
  | none =>
      simp only [reduceCtorEq, false_implies, implies_true, true_and, forall_true_left]
      rw [← sameRegistry_loaded_iff env hload]
      exact ⟨fun htruthful => htruthful.failure rfl, fun hsame =>
        ⟨fun hret => absurd hret (by simp), fun _ => hsame⟩⟩
  | some defaultJson =>
      cases hstring : defaultJson.getString with
      | error fault =>
          -- an exception: neither return value is returned
          refine iff_of_true ⟨by simp [hstring], by simp [hstring]⟩ ⟨?_, by simp⟩
          intro defaultId heq
          rw [Option.some.inj heq] at hstring
          exact absurd hstring (by simp [Json.getString])
      | ok defaultId =>
          obtain rfl := Json.getString_eq_ok_iff.mp hstring
          have hunnamed : "" ∉ b'.sVoiceAgentsDataManager.mVoiceAgents := by
            rw [hmem]
            rintro (hbefore | ⟨entry, -, args, -, hvalid, hid⟩)
            · exact h.unnamed hbefore
            · exact hvalid.1 hid
          simp only [Option.some.injEq, Json.str.injEq, forall_eq', reduceCtorEq,
            false_implies, and_true, Json.getString]
          rw [← hmem, ← setDefault_truthful_iff env defaultId hunnamed]
          constructor
          · intro htruthful
            obtain ⟨config', id, hconfig, hid, hdone⟩ := htruthful.success rfl
            rw [← Option.some.inj hconfig] at hid
            obtain rfl := Json.str.inj (Option.some.inj (hdefault.symm.trans hid))
            exact hdone
          · intro hdone
            exact ⟨fun _ => ⟨config, defaultId, rfl, hdefault, hdone⟩,
              fun hret => absurd hret (by simp)⟩

theorem loadVoiceAgentsConfig_truthful_iff {env : Environment} {b : Binding}
    (h : Prior env b) (argsJ : Option Json) :
    Truthful b argsJ (loadVoiceAgentsConfig env b argsJ) ↔ DefaultKnown b argsJ := by
  have hturned : ∀ {argsJ}, loadVoiceAgentsConfig env b argsJ = b.return (.ok (-1)) →
      Truthful b argsJ (loadVoiceAgentsConfig env b argsJ) := by
    intro argsJ hdone
    rw [hdone]
    exact ⟨fun hret => absurd hret (by simp [Binding.return]), fun _ => ⟨rfl, rfl, rfl, rfl⟩⟩
  unfold DefaultKnown
  cases argsJ with
  | none => exact iff_of_true (hturned rfl) (by simp)
  | some config =>
      simp only [Option.some.injEq, forall_eq']
      cases hagents : config.find? VA_JSON_ATTR_AGENTS with
      | none =>
          refine iff_of_true (hturned ?_) (by simp)
          simp only [loadVoiceAgentsConfig, hagents]
      | some agentsJson =>
          simp only [Option.some.injEq, forall_eq']
          rw [← loadAgents_ok_iff env b agentsJson.iterate]
          rcases hload : loadAgents env b agentsJson.iterate with ⟨fault | done, b', notified⟩
          · -- an exception again
            simp only [loadVoiceAgentsConfig, hagents, hload]
            exact iff_of_true ⟨by simp, by simp⟩ (by simp)
          · simp only [loadVoiceAgentsConfig, hagents, hload, forall_true_left]
            exact loadDefault_truthful_iff h hload config

/-- A configuration whose default is no agent. -/
def unknownDefault : Json :=
  .obj [(VA_JSON_ATTR_AGENTS, .arr []), (VA_JSON_ATTR_DEFAULT, .str "VA-404")]

/-- A configuration without a default. -/
def noDefault : Json :=
  .obj [(VA_JSON_ATTR_AGENTS, .arr [encodeAgent (.simple "VA-001" "alexa-api")])]

theorem loadVoiceAgentsConfig_truthful_iff_loaded :
    let b := (CTLP_ONLOAD .obliging).get rfl
    Truthful b (some unknownDefault)
        (loadVoiceAgentsConfig .obliging b (some unknownDefault)) ↔
      DefaultKnown b (some unknownDefault) :=
  loadVoiceAgentsConfig_truthful_iff (.requests ⟨_, [], rfl, rfl⟩) _

/-- A default that is no agent is reported as a success, and a configuration that is refused
for its missing default has brought in its agents. -/
theorem half_loaded :
    (¬ ∀ (env : Environment) (b : Binding) (argsJ : Option Json), Reachable env b →
        (loadVoiceAgentsConfig env b argsJ).ret = .ok 0 → ∃ config defaultId,
          argsJ = some config ∧ config.find? VA_JSON_ATTR_DEFAULT = some (.str defaultId) ∧
          (loadVoiceAgentsConfig env b
            argsJ).binding.sVoiceAgentsDataManager.getDefaultVoiceAgent = defaultId) ∧
      ¬ ∀ (env : Environment) (b : Binding) (argsJ : Option Json), Reachable env b →
        (loadVoiceAgentsConfig env b argsJ).ret = .ok (-1) →
        (loadVoiceAgentsConfig env b argsJ).binding.sVoiceAgentsDataManager.mVoiceAgents =
          b.sVoiceAgentsDataManager.mVoiceAgents := by
  constructor
  · intro h
    obtain ⟨config, defaultId, hconfig, hdefault, hget⟩ := h .obliging
      ((CTLP_ONLOAD .obliging).get rfl) (some unknownDefault) ⟨_, [], rfl, rfl⟩ rfl
    rw [← Option.some.inj hconfig] at hdefault
    have hid : defaultId = "VA-404" := (Json.str.inj (Option.some.inj hdefault)).symm
    rw [hid] at hget
    exact absurd hget (by decide)
  · intro h
    have hsame := h .obliging ((CTLP_ONLOAD .obliging).get rfl) (some noDefault)
      ⟨_, [], rfl, rfl⟩ rfl
    have hmem : "VA-001" ∉ ((CTLP_ONLOAD .obliging).get rfl).sVoiceAgentsDataManager.mVoiceAgents :=
      by decide
    rw [← hsame] at hmem
    exact hmem (by decide)

end Vshl.Api
